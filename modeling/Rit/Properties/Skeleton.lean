import Mathlib.Algebra.BigOperators.Group.Finset.Piecewise
import Mathlib.Algebra.Order.BigOperators.Group.Finset
import Mathlib.Tactic.Linarith
import Mathlib.Tactic.Ring
import Rit.Properties.Transfer

/-!
# The control skeleton terminates

The argument is by recursion on the block tree.  What a block does to the state is summed up in
`Effect`: it leaves the return addresses and the counters of the blocks around it alone, it takes
some back-edges, and it leaves loops.  The last two are related.  A loop is left once for every
time it is entered, and it is entered again only by a back-edge of a loop around it, so the number
of loop exits at one depth is bounded by the back-edges at the lesser depths (`Effect.below`).

A loop counter is never reset.  As long as it does not overflow it is at least the number of times
a loop tail of its level was executed, so at most 256 of these can have been back-edges.  That it
does not overflow follows in turn from the bound on the exits.
-/

namespace Rit.Art

open Layout

/-! ## Effects -/

/-- The back-edges taken at depths less than `d`. -/
def outerEdges (s : State) (d : ℕ) : ℕ := ∑ i ∈ Finset.range d, s.backEdges i

/-- A bound on the loop exits at one depth. -/
def exitBound : ℕ := 4 ^ 7 * 2049

/-- The counter at depth `d` of a tree drawn at `N` is at least the number of loop tails executed
at that depth and at most ten times it. -/
def Counted (N : ℤ) (d : ℕ) (s : State) : Prop :=
  ∃ w, s.cfg (32 + (N - d) * 4) = .word w ∧ s.exits d + s.backEdges d ≤ w.toNat ∧
    w.toNat ≤ 10 * (s.exits d + s.backEdges d) ∧ s.backEdges d ≤ 256

/-- The loop counters hold words. -/
def Words (s : State) : Prop := ∀ n : ℤ, 0 ≤ n → ∃ w, s.cfg (32 + n * 4) = .word w

/-- The effect of code inside a block of depth `δ` of a tree drawn at `N`.  Return addresses from
level `ret` on and counters from level `lev` on are unchanged; loops of the block itself are left
at most `a` times, and the loops `k` levels further down are left at most `m * 4 ^ k` times, apart
from what the back-edges around them account for. -/
structure Effect (N ret lev : ℤ) (δ a m : ℕ) (s t : State) : Prop where
  rets : ∀ n, ret ≤ n → n < 8 → t.cfg (n * 4) = s.cfg (n * 4)
  loops : ∀ n, lev ≤ n → 0 ≤ n → t.cfg (32 + n * 4) = s.cfg (32 + n * 4)
  words : Words s → Words t
  around : ∀ d ≤ δ, t.backEdges d = s.backEdges d ∧ t.exits d = s.exits d
  deep : ∀ d : ℕ, N < d → t.backEdges d = s.backEdges d
  mono : ∀ d, s.backEdges d ≤ t.backEdges d ∧ s.exits d ≤ t.exits d
  own : t.exits (δ + 1) ≤ s.exits (δ + 1) + a
  below : ∀ k, t.exits (δ + 2 + k) + 4 * 4 ^ k * outerEdges s (δ + 2 + k) ≤
    s.exits (δ + 2 + k) + m * 4 ^ k + 4 * 4 ^ k * outerEdges t (δ + 2 + k)
  counted : ∀ d : ℕ, d ≤ N → Counted N d s → t.exits d ≤ exitBound → Counted N d t

namespace Effect

variable {N ret ret' lev lev' : ℤ} {δ a a' m m' : ℕ} {s t u : State}

lemma outerEdges_le (h : Effect N ret lev δ a m s t) (d : ℕ) : outerEdges s d ≤ outerEdges t d :=
  Finset.sum_le_sum fun i _ => (h.mono i).1

/-- Code that changes at most a return address below `ret`. -/
lemma of_saved {n : ℤ} {v : Val} (hn : n < ret) (hn8 : n < 8)
    (hcfg : t.cfg = Function.update s.cfg (n * 4) v) (hback : t.backEdges = s.backEdges)
    (hexits : t.exits = s.exits) : Effect N ret lev δ 0 0 s t := by
  have hret : ∀ k, k ≠ n → t.cfg (k * 4) = s.cfg (k * 4) := fun k hk => by
    rw [hcfg, Function.update_of_ne (by omega)]
  have hloop : ∀ k, 0 ≤ k → t.cfg (32 + k * 4) = s.cfg (32 + k * 4) := fun k hk => by
    rw [hcfg, Function.update_of_ne (by omega)]
  refine ⟨fun k hk _ => hret k (by omega), fun k _ hk => hloop k hk, fun hw k hk => ?_,
    fun d _ => ⟨congrFun hback d, congrFun hexits d⟩, fun d _ => congrFun hback d,
    fun d => ⟨(congrFun hback d).ge, (congrFun hexits d).ge⟩, (congrFun hexits _).le,
    fun k => ?_, fun d hd hc _ => ?_⟩
  · rw [hloop k hk]
    exact hw k hk
  · unfold outerEdges
    rw [hexits, hback]
    omega
  · obtain ⟨w, hw, hcount⟩ := hc
    refine ⟨w, ?_, ?_⟩
    · rw [hloop _ (by omega), hw]
    · rwa [hexits, hback]

lemma of_same (hcfg : t.cfg = s.cfg) (hback : t.backEdges = s.backEdges)
    (hexits : t.exits = s.exits) : Effect N ret lev δ 0 0 s t := by
  refine ⟨fun _ _ _ => by rw [hcfg], fun _ _ _ => by rw [hcfg], fun hw => ?_,
    fun d _ => ⟨congrFun hback d, congrFun hexits d⟩, fun d _ => congrFun hback d,
    fun d => ⟨(congrFun hback d).ge, (congrFun hexits d).ge⟩, (congrFun hexits _).le,
    fun k => ?_, fun d _ hc _ => ?_⟩
  · unfold Words
    rwa [hcfg]
  · unfold outerEdges
    rw [hexits, hback]
    omega
  · unfold Counted
    rwa [hcfg, hexits, hback]

lemma of_quiet (h : Quiet s t) : Effect N ret lev δ 0 0 s t :=
  of_same h.cfg h.backEdges h.exits

lemma trans (h : Effect N ret lev δ a m s t) (h' : Effect N ret lev δ a' m' t u) :
    Effect N ret lev δ (a + a') (m + m') s u where
  rets n hn hn8 := (h'.rets n hn hn8).trans (h.rets n hn hn8)
  loops n hn hn0 := (h'.loops n hn hn0).trans (h.loops n hn hn0)
  words hw := h'.words (h.words hw)
  around d hd :=
    ⟨(h'.around d hd).1.trans (h.around d hd).1, (h'.around d hd).2.trans (h.around d hd).2⟩
  deep d hd := (h'.deep d hd).trans (h.deep d hd)
  mono d := ⟨(h.mono d).1.trans (h'.mono d).1, (h.mono d).2.trans (h'.mono d).2⟩
  own := by
    have h1 := h.own
    have h2 := h'.own
    omega
  below k := by
    have h1 := h.below k
    have h2 := h'.below k
    rw [Nat.add_mul]
    omega
  counted d hd hc hx := h'.counted d hd (h.counted d hd hc ((h'.mono d).2.trans hx)) hx

lemma of_le (h : Effect N ret lev δ a m s t) (hret : ret ≤ ret') (hlev : lev ≤ lev')
    (ha : a ≤ a') (hm : m ≤ m') : Effect N ret' lev' δ a' m' s t where
  rets n hn hn8 := h.rets n (hret.trans hn) hn8
  loops n hn hn0 := h.loops n (hlev.trans hn) hn0
  words := h.words
  around := h.around
  deep := h.deep
  mono := h.mono
  own := h.own.trans (Nat.add_le_add_left ha _)
  below k := by
    have h1 := h.below k
    have h2 := Nat.mul_le_mul_right (4 ^ k) hm
    omega
  counted := h.counted

/-- A child counts as one unit for its parent. -/
lemma of_child (h : Effect N ret lev (δ + 1) 1 4 s t) : Effect N ret lev δ 0 1 s t where
  rets := h.rets
  loops := h.loops
  words := h.words
  around d hd := h.around d (by omega)
  deep := h.deep
  mono := h.mono
  own := (h.around (δ + 1) le_rfl).2.le
  below k := by
    have hmono := h.outerEdges_le (δ + 2 + k)
    cases k with
    | zero =>
      have hown := h.own
      simp only [Nat.add_zero, pow_zero, Nat.mul_one] at hmono ⊢
      have hd : δ + 1 + 1 = δ + 2 := rfl
      rw [hd] at hown
      omega
    | succ k =>
      have hbelow := h.below k
      have hd : δ + 1 + 2 + k = δ + 2 + (k + 1) := by omega
      rw [hd] at hbelow
      have hpow : 4 ^ (k + 1) = 4 * 4 ^ k := by rw [pow_succ, Nat.mul_comm]
      have hscale := Nat.mul_le_mul_left (4 * 4 ^ k) hmono
      rw [hpow]
      linarith
  counted := h.counted

end Effect

/-! ## Loop counters -/

/-- As long as few loops have been left, the counter does not overflow, and a back-edge is taken
only while it is at most 256. -/
lemma counter_step {w : BitVec 32} {r : LoopChoice} {x e : ℕ} (hx : x ≤ exitBound) (he : e ≤ 256)
    (hw : w.toNat ≤ 10 * (x + e)) :
    (w + .ofNat 32 r.inc).toNat = w.toNat + r.inc ∧
      ((w + .ofNat 32 r.inc).sle (.ofNat 32 r.limit) = true → w.toNat + r.inc ≤ 256) := by
  have hinc := r.inc_le
  have hlimit := r.limit_le
  have hbound : exitBound = 33570816 := by decide
  have hnat : (w + .ofNat 32 r.inc).toNat = w.toNat + r.inc := by
    rw [BitVec.toNat_add, BitVec.toNat_ofNat]
    omega
  refine ⟨hnat, fun hle => ?_⟩
  have hlim : (BitVec.ofNat 32 r.limit).toNat = r.limit := by
    rw [BitVec.toNat_ofNat]
    omega
  rw [BitVec.sle_iff_toInt_le, BitVec.toInt_eq_toNat_of_lt (by omega),
    BitVec.toInt_eq_toNat_of_lt (by omega), hnat, hlim] at hle
  omega

/-- How often a loop with this counter can still be repeated. -/
def repeats (r : LoopChoice) (w : BitVec 32) : ℕ :=
  if (w + .ofNat 32 r.inc).sle (.ofNat 32 r.limit) then
    1 + (256 - (w + .ofNat 32 r.inc).toInt).toNat
  else 0

/-- A back-edge reduces the number of repetitions left, also after an overflow. -/
lemma repeats_lt {r : LoopChoice} {w : BitVec 32}
    (h : (w + .ofNat 32 r.inc).sle (.ofNat 32 r.limit) = true) :
    repeats r (w + .ofNat 32 r.inc) < repeats r w := by
  have hinc := r.inc_le
  have hpos := r.one_le_inc
  have hlimit := r.limit_le
  have hincInt : (BitVec.ofNat 32 r.inc).toInt = r.inc := by
    have hnat : (BitVec.ofNat 32 r.inc).toNat = r.inc := by
      rw [BitVec.toNat_ofNat]
      omega
    rw [BitVec.toInt_eq_toNat_of_lt (by omega), hnat]
  have hlimInt : (BitVec.ofNat 32 r.limit).toInt = r.limit := by
    have hnat : (BitVec.ofNat 32 r.limit).toNat = r.limit := by
      rw [BitVec.toNat_ofNat]
      omega
    rw [BitVec.toInt_eq_toNat_of_lt (by omega), hnat]
  unfold repeats
  rw [if_pos h]
  rw [BitVec.sle_iff_toInt_le, hlimInt] at h
  generalize w + .ofNat 32 r.inc = v at h ⊢
  have hlow := BitVec.le_toInt v
  split_ifs with hle
  · -- no overflow from a value that is at most the limit
    have hsum : (v + .ofNat 32 r.inc).toInt = v.toInt + r.inc := by
      rw [BitVec.toInt_add, hincInt]
      exact Int.bmod_eq_of_le (by omega) (by omega)
    rw [BitVec.sle_iff_toInt_le, hlimInt, hsum] at hle
    omega
  · omega

/-- Executing the loop tail at depth `d` stores the incremented counter; `back` tells whether the
loop is repeated. -/
structure Tail (N : ℤ) (d : ℕ) (r : LoopChoice) (back : Bool) (s t : State) : Prop where
  cfg : ∃ w, s.cfg (32 + (N - d) * 4) = .word w ∧
    t.cfg = Function.update s.cfg (32 + (N - d) * 4) (.word (w + .ofNat 32 r.inc)) ∧
    (w + .ofNat 32 r.inc).sle (.ofNat 32 r.limit) = back
  backEdges : t.backEdges =
    Function.update s.backEdges d (s.backEdges d + if back then 1 else 0)
  exits : t.exits = Function.update s.exits d (s.exits d + if back then 0 else 1)

namespace Tail

variable {N : ℤ} {d : ℕ} {r : LoopChoice} {back : Bool} {s t : State}

lemma cfg_of_ne (h : Tail N d r back s t) {off : ℤ} (hne : off ≠ 32 + (N - d) * 4) :
    t.cfg off = s.cfg off := by
  obtain ⟨w, -, hcfg, -⟩ := h.cfg
  rw [hcfg, Function.update_of_ne hne]

lemma backEdges_of_ne (h : Tail N d r back s t) {i : ℕ} (hne : i ≠ d) :
    t.backEdges i = s.backEdges i := by
  rw [h.backEdges, Function.update_of_ne hne]

lemma exits_of_ne (h : Tail N d r back s t) {i : ℕ} (hne : i ≠ d) : t.exits i = s.exits i := by
  rw [h.exits, Function.update_of_ne hne]

lemma backEdges_self (h : Tail N d r back s t) :
    t.backEdges d = s.backEdges d + if back then 1 else 0 := by
  rw [h.backEdges, Function.update_self]

lemma exits_self (h : Tail N d r back s t) : t.exits d = s.exits d + if back then 0 else 1 := by
  rw [h.exits, Function.update_self]

lemma words (h : Tail N d r back s t) (hw : Words s) : Words t := by
  intro n hn
  obtain ⟨w, -, hcfg, -⟩ := h.cfg
  by_cases heq : 32 + n * 4 = 32 + (N - d) * 4
  · exact ⟨_, by rw [heq, hcfg, Function.update_self]⟩
  · rw [h.cfg_of_ne heq]
    exact hw n hn

lemma outerEdges_eq (h : Tail N d r back s t) {i : ℕ} (hi : d < i) :
    outerEdges t i = outerEdges s i + if back then 1 else 0 := by
  unfold outerEdges
  rw [h.backEdges, Finset.sum_update_of_mem (Finset.mem_range.2 hi),
    ← Finset.add_sum_erase _ _ (Finset.mem_range.2 hi), Finset.sdiff_singleton_eq_erase]
  omega

/-- The counter stays between the number of tails executed and ten times it. -/
lemma counted (h : Tail N d r back s t) {i : ℕ} (hc : Counted N i s)
    (hx : t.exits i ≤ exitBound) : Counted N i t := by
  by_cases hi : i = d
  · subst hi
    obtain ⟨w, hw, hlow, hhigh, hedges⟩ := hc
    obtain ⟨w', hw', hcfg, hback⟩ := h.cfg
    obtain rfl : w = w' := by
      rw [hw] at hw'
      exact Val.word.inj hw'
    have hself := h.exits_self
    obtain ⟨hnat, hle⟩ := counter_step (r := r) (x := s.exits i) (by omega) hedges hhigh
    have hinc := r.inc_le
    have hpos := r.one_le_inc
    refine ⟨_, by rw [hcfg, Function.update_self], ?_⟩
    rw [hnat, hself, h.backEdges_self]
    cases back with
    | true =>
      have h256 := hle hback
      simp only [if_true]
      omega
    | false =>
      simp only [Bool.false_eq_true, if_false]
      omega
  · obtain ⟨w, hw, hcount⟩ := hc
    refine ⟨w, ?_, ?_⟩
    · rw [h.cfg_of_ne (by omega), hw]
    · rwa [h.exits_of_ne hi, h.backEdges_of_ne hi]

end Tail

namespace Effect

variable {N : ℤ} {δ m : ℕ} {r : LoopChoice} {s t u : State}

/-- Leaving the loop of the block. -/
lemma of_exit (hlevel : (δ : ℤ) + 1 ≤ N) (h : Tail N (δ + 1) r false s t) :
    Effect N (N - δ) (N - δ) δ 1 0 s t := by
  have hedges : t.backEdges = s.backEdges := by
    rw [h.backEdges]
    simp
  refine ⟨fun n _ _ => h.cfg_of_ne (by push_cast; omega),
    fun n hn _ => h.cfg_of_ne (by push_cast; omega), h.words,
    fun d hd => ⟨congrFun hedges d, h.exits_of_ne (by omega)⟩, fun d _ => congrFun hedges d,
    fun d => ⟨(congrFun hedges d).ge, ?_⟩, h.exits_self.le, fun k => ?_, fun d _ hc hx => ?_⟩
  · by_cases hd : d = δ + 1
    · subst hd
      rw [h.exits_self]
      omega
    · exact (h.exits_of_ne hd).ge
  · unfold outerEdges
    rw [h.exits_of_ne (by omega), hedges]
    omega
  · exact h.counted hc hx

/-- Repeating the loop of the block, together with the next run of its body.  The back-edge pays for
the loops left in the body. -/
lemma of_back (hlevel : (δ : ℤ) + 1 ≤ N) (h : Tail N (δ + 1) r true s t) (hm : m ≤ 4)
    (hbody : Effect N (N - δ) (N - δ - 1) δ 0 m t u) : Effect N (N - δ) (N - δ) δ 0 0 s u := by
  have hexits : t.exits = s.exits := by
    rw [h.exits]
    simp
  have hbacks : ∀ d, s.backEdges d ≤ t.backEdges d := by
    intro d
    by_cases hd : d = δ + 1
    · subst hd
      rw [h.backEdges_self]
      omega
    · exact (h.backEdges_of_ne hd).ge
  refine ⟨fun n hn hn8 => (hbody.rets n hn hn8).trans (h.cfg_of_ne (by push_cast; omega)),
    fun n hn hn0 => (hbody.loops n (by omega) hn0).trans (h.cfg_of_ne (by push_cast; omega)),
    fun hw => hbody.words (h.words hw), fun d hd => ?_, fun d hd => ?_, fun d => ?_, ?_,
      fun k => ?_,
    fun d hd hc hx => ?_⟩
  · exact ⟨(hbody.around d hd).1.trans (h.backEdges_of_ne (by omega)),
      (hbody.around d hd).2.trans (congrFun hexits d)⟩
  · exact (hbody.deep d hd).trans (h.backEdges_of_ne (by omega))
  · exact ⟨(hbacks d).trans (hbody.mono d).1, (congrFun hexits d).ge.trans (hbody.mono d).2⟩
  · rw [← hexits]
    exact hbody.own
  · have hbelow := hbody.below k
    rw [h.outerEdges_eq (show δ + 1 < δ + 2 + k by omega), hexits, if_pos rfl] at hbelow
    have hscale := Nat.mul_le_mul_right (4 ^ k) hm
    linarith
  · have hx' : t.exits d ≤ exitBound := (hbody.mono d).2.trans hx
    exact hbody.counted d hd (h.counted hc hx') hx

end Effect

/-! ## Reaching a line -/

/-- From `s` the machine reaches line `p`, with the pending calls as before. -/
def Reach (P : List Line) (N lev : ℤ) (δ a m : ℕ) (s : State) (p : ℕ) (isa : Bool) : Prop :=
  ∃ t, Runs P s t ∧ t.pc = p ∧ t.isARM = isa ∧ t.calls = s.calls ∧
    Effect N (N - δ) lev δ a m s t

section

variable {P : List Line} {N lev lev' : ℤ} {δ a a' m m' : ℕ} {s : State} {p p' q : ℕ}
  {isa isa' isa'' : Bool}

lemma Reach.bind (h : Reach P N lev δ a m s p isa) (hw : Words s)
    (hnext : ∀ t : State, t.pc = p → t.isARM = isa → Words t →
      Reach P N lev δ a' m' t p' isa') : Reach P N lev δ (a + a') (m + m') s p' isa' := by
  obtain ⟨t, hst, hpc, hisa, hcalls, heff⟩ := h
  obtain ⟨u, htu, hpc', hisa', hcalls', heff'⟩ := hnext t hpc hisa (heff.words hw)
  exact ⟨u, hst.trans htu, hpc', hisa', hcalls'.trans hcalls, heff.trans heff'⟩

lemma Reach.of_le (h : Reach P N lev δ a m s p isa) (hlev : lev ≤ lev') (ha : a ≤ a')
    (hm : m ≤ m') : Reach P N lev' δ a' m' s p isa := by
  obtain ⟨t, hst, hpc, hisa, hcalls, heff⟩ := h
  exact ⟨t, hst, hpc, hisa, hcalls, heff.of_le le_rfl hlev ha hm⟩

lemma Reach.of_eq (h : Reach P N lev δ a m s p isa) (hp : p = p') : Reach P N lev δ a m s p' isa :=
  hp ▸ h

/-- Steps that are not recorded may come before. -/
lemma Reach.after {t : State} (h : Reach P N lev δ a m t p isa) (hst : Runs P s t)
    (hq : Quiet s t) : Reach P N lev δ a m s p isa := by
  obtain ⟨u, htu, hpc, hisa, hcalls, heff⟩ := h
  have hall := (Effect.of_quiet (N := N) hq).trans heff
  rw [Nat.zero_add, Nat.zero_add] at hall
  exact ⟨u, hst.trans htu, hpc, hisa, hcalls.trans hq.calls, hall⟩

lemma Reach.of_quiet {t : State} (hst : Runs P s t) (hq : Quiet s t) (hpc : t.pc = p)
    (hisa : t.isARM = isa) : Reach P N lev δ 0 0 s p isa :=
  ⟨t, hst, hpc, hisa, hq.calls, .of_quiet hq⟩

lemma Quiet.words {t : State} (h : Quiet s t) (hw : Words s) : Words t := by
  unfold Words
  rwa [h.cfg]

/-- A transfer, followed from both its outcomes. -/
lemma Branches.reach {isconditional : Bool} (h : Branches P s isconditional q isa' p isa)
    (hw : Words s) (hjump : ∀ t : State, t.pc = q → t.isARM = isa' → Words t →
      Reach P N lev δ a m t p' isa'')
    (hfall : isconditional = true → ∀ t : State, t.pc = p → t.isARM = isa → Words t →
      Reach P N lev δ a m t p' isa'') : Reach P N lev δ a m s p' isa'' := by
  obtain ⟨t, hst, hq, hout⟩ := h
  rcases hout with ⟨hpc, hisa⟩ | ⟨hcond, hpc, hisa⟩
  · exact (hjump t hpc hisa (hq.words hw)).after hst hq
  · exact (hfall hcond t hpc hisa (hq.words hw)).after hst hq

end

/-! ## Loops -/

section

variable {P : List Line} {N : ℤ} {δ m : ℕ} {p q : ℕ} {isARM : Bool} {ctx : Ctx} {lt : Label}
  {r : LoopChoice}

/-- A loop tail, run until the loop is left.  `hbody` is a run of the loop's body from the label the
tail goes back to. -/
lemma tail_reach (hP : Listing P) (hlevel : (δ : ℤ) + 1 ≤ N) (hnest : ctx.nest = N - (δ + 1))
    (hlen : lt.length = δ + 1) (hat : At P p (genLoop isARM ctx lt r))
    (hlabel : P[q]? = some (.label (.start lt))) (hl : ¬IsCallee lt) (hm : m ≤ 4)
    (hbody : ∀ s : State, s.pc = q → s.isARM = isARM → Words s →
      Reach P N (N - δ - 1) δ 0 m s p isARM) (s : State) (hpc : s.pc = p)
    (hisa : s.isARM = isARM) (hw : Words s) : Reach P N (N - δ) δ 1 0 s (p + 6) isARM := by
  have hslot : ctx.loopSlot = 32 + (N - ((δ + 1 : ℕ) : ℤ)) * 4 := by
    rw [Ctx.loopSlot, hnest]
    push_cast
    ring
  obtain ⟨w, hword⟩ : ∃ w, s.cfg (32 + (N - ((δ + 1 : ℕ) : ℤ)) * 4) = .word w :=
    hw _ (by push_cast; omega)
  -- the counter approaches the limit with every back-edge
  induction hk : repeats r w using Nat.strong_induction_on generalizing s w with
  | _ k ih =>
    obtain ⟨t, hst, hisa', hcalls, hcfg, hout⟩ :=
      genLoop_runs hP hat hpc hisa hlabel hl (hslot ▸ hword)
    rw [hslot] at hcfg
    rw [hlen] at hout
    rcases hout with ⟨hback, hpc', hexits, hedges⟩ | ⟨hback, hpc', hedges, hexits⟩
    · have htail : Tail N (δ + 1) r true s t :=
        ⟨⟨w, hword, hcfg, hback⟩, hedges, by simp [hexits]⟩
      obtain ⟨u, htu, hpcu, hisau, hcallsu, heff⟩ := hbody t hpc' hisa' (htail.words hw)
      have hcounter : u.cfg (32 + (N - ((δ + 1 : ℕ) : ℤ)) * 4) =
          .word (w + .ofNat 32 r.inc) := by
        rw [heff.loops _ (by push_cast; omega) (by push_cast; omega), hcfg, Function.update_self]
      obtain ⟨v, huv, hpcv, hisav, hcallsv, heffv⟩ := ih _ (hk ▸ repeats_lt hback) u hpcu hisau
        (heff.words (htail.words hw)) _ hcounter rfl
      have hall := (Effect.of_back hlevel htail hm heff).trans heffv
      exact ⟨v, (hst.trans htu).trans huv, hpcv, hisav,
        hcallsv.trans (hcallsu.trans hcalls), hall⟩
    · have htail : Tail N (δ + 1) r false s t :=
        ⟨⟨w, hword, hcfg, hback⟩, by simp [hedges], hexits⟩
      exact ⟨t, hst, hpc', hisa', hcalls, .of_exit hlevel htail⟩

end

/-! ## Blocks -/

/-- The code of a block, entered at its first line, is left at its end. -/
def BlockRuns (P : List Line) (N : ℤ) (sh : Shape) (l : Label) (ctx : Ctx) : Prop :=
  ∀ (q : ℕ) (s : State), At P q (blockCode sh l ctx) → s.pc = q → s.isARM = ctx.isa → Words s →
    Reach P N (N - l.length) l.length 1 4 s (q + (blockCode sh l ctx).length) ctx.isa

section

variable {P : List Line} {N : ℤ} {sh : Shape} {l : Label} {ctx : Ctx} {x : Part} {s : State} {q : ℕ}
  {isARM : Bool} {code : List Line}

lemma at_label (hat : At P q (printBlock isARM l code)) : P[q + 2]? = some (.label (.start l)) :=
  hat.getElem? (k := 2) rfl

lemma at_code (hat : At P q (printBlock isARM l code)) : At P (q + 3) code := by
  obtain ⟨-, hat⟩ := at_append.1 hat
  exact (at_append.1 hat).1

lemma printBlock_length (isARM : Bool) (l : Label) (code : List Line) :
    (printBlock isARM l code).length = 3 + code.length + 2 := by
  simp [printBlock]
  omega

/-- A child, entered through its header or at its label. -/
lemma child_reach (hP : Listing P) (hblock : BlockRuns P N sh (x :: l) ctx)
    (hat : At P q (printBlock isARM (x :: l) (blockCode sh (x :: l) ctx))) (hctx : ctx.isa = isARM)
    {p : ℕ} (hp : p = q ∧ x ≠ .c2 ∨ p = q + 2) (s : State) (hpc : s.pc = p) (hisa : s.isARM = isARM)
    (hw : Words s) : Reach P N (N - l.length - 1) l.length 0 1 s
      (q + (printBlock isARM (x :: l) (blockCode sh (x :: l) ctx)).length) isARM := by
  subst hctx hpc
  -- to the first line of the code
  obtain ⟨t, hst, hq, hpct, hisat⟩ : ∃ t, Runs P s t ∧ Quiet s t ∧ t.pc = q + 3 ∧
      t.isARM = ctx.isa := by
    rcases hp with ⟨hpc, hx⟩ | hpc
    · obtain ⟨t, hst, hq, hpct, hisat⟩ := header_runs hP hat hpc fun h => hx (Option.some.inj h)
      exact ⟨t, hst, hq, hpct, hisat.trans hisa⟩
    · exact ⟨s.next, label_runs hP (hpc ▸ at_label hat), ⟨rfl, rfl, rfl, rfl⟩,
        congrArg (· + 1) hpc, hisa⟩
  obtain ⟨u, htu, hpcu, hisau, hcallsu, heff⟩ :=
    hblock (q + 3) t (at_code hat) hpct hisat (hq.words hw)
  obtain ⟨v, huv, hquv, hpcv, hisav⟩ := footer_runs hP hat hpcu
  have hlen : ((x :: l).length : ℤ) = l.length + 1 := by simp
  rw [hlen] at heff
  have hchild : Effect N (N - l.length) (N - l.length - 1) l.length 0 1 t u :=
    (Effect.of_child heff).of_le (by omega) (by omega) le_rfl le_rfl
  have hall := ((Effect.of_quiet hq).trans hchild).trans (Effect.of_quiet hquv)
  exact ⟨v, (hst.trans htu).trans huv, hpcv, hisav.trans hisau,
    hquv.calls.trans (hcallsu.trans hq.calls), hall.of_le le_rfl le_rfl le_rfl le_rfl⟩

lemma at_fin (hat : At P q (printBlock isARM l code)) :
    P[q + 3 + code.length + 1]? = some (.label (.fin l)) := by
  obtain ⟨-, hat⟩ := at_append.1 hat
  exact (at_append.1 hat).2.getElem? (k := 1) rfl

/-- A call together with the run of its callee.  The return address lies in the word of the callee's
level, which nothing below the callee touches. -/
lemma call_reach (hP : Listing P) (hN : N ≤ 8) {p : ℕ}
    {callee : Ctx} (hnest : callee.nest = N - (l.length + 1)) {call : CallChoice} {pre post : Fin 8}
    (hcall : At P p (genCall isARM callee.isa (.c2 :: l) call))
    (hat : At P q (printBlock callee.isa (.c2 :: l)
      (getPreCalleeInsts callee pre ++ blockCode sh (.c2 :: l) callee)))
    (hpost : At P (q + (printBlock callee.isa (.c2 :: l)
      (getPreCalleeInsts callee pre ++ blockCode sh (.c2 :: l) callee)).length)
      (getPostCalleeInsts callee post)) (hblock : BlockRuns P N sh (.c2 :: l) callee)
    (hafter : ∃ y, P[p + (genCall isARM callee.isa (.c2 :: l) call).length]? = some y ∧
      y.isStart = false) (hpc : s.pc = p) (hisa : s.isARM = isARM) (hw : Words s) :
    Reach P N (N - l.length - 1) l.length 0 1 s
      (p + (genCall isARM callee.isa (.c2 :: l) call).length) isARM := by
  have hret : callee.retSlot = (N - (l.length + 1)) * 4 := by rw [Ctx.retSlot, hnest]
  obtain ⟨t, hst, hcfg, hback, hexits, hout⟩ := genCall_runs hP hcall hpc hisa (at_label hat)
  generalize p + (genCall isARM callee.isa (.c2 :: l) call).length = p' at hafter hout ⊢
  rcases hout with ⟨hpct, hisat, hcallst, hlr⟩ | ⟨hpct, hisat, hcallst⟩
  · -- into the callee
    have hlabel : Runs P t t.next := label_runs hP (hpct ▸ at_label hat)
    obtain ⟨hpre, hbody⟩ := at_append.1 (at_code hat)
    obtain ⟨u, htu, hpcu, hisau, hcallsu, hcfgu, hbacku, hexitsu⟩ :=
      getPreCalleeInsts_runs (s := t.next) hP hpre (congrArg (· + 1) hpct) hisat
    have hsu : Effect N (N - l.length) (N - l.length - 1) l.length 0 0 s u := by
      refine Effect.of_saved (n := N - (l.length + 1)) (v := t.regs 14) (by omega) (by omega) ?_
        (hbacku.trans hback) (hexitsu.trans hexits)
      rw [hcfgu, hret, ← hcfg]
      rfl
    obtain ⟨v, huv, hpcv, hisav, hcallsv, heff⟩ := hblock _ u hbody hpcu hisau (hsu.words hw)
    have hlen : (((Part.c2 :: l).length : ℕ) : ℤ) = l.length + 1 := by simp
    rw [hlen] at heff
    -- out of the callee
    have hend :
        v.pc = q + 3 + (getPreCalleeInsts callee pre ++ blockCode sh (.c2 :: l) callee).length := by
      rw [hpcv, List.length_append, Nat.add_assoc (q + 3)]
    obtain ⟨x, hvx, hqx, hpcx, hisax⟩ := footer_runs hP hat hend
    have hpcx' : x.pc = q + 3 +
        (getPreCalleeInsts callee pre ++ blockCode sh (.c2 :: l) callee).length + 1 + 1 := by
      rw [hpcx, printBlock_length]
      omega
    rw [← hpcx, hpcx'] at hpost
    have hsaved : x.cfg callee.retSlot = .code p' (!isARM) := by
      rw [hqx.cfg, hret, heff.rets _ le_rfl (by omega), hcfgu, hret, Function.update_self]
      exact hlr
    have hcallsx : x.calls = (p', q + 2) :: s.calls := by
      rw [hqx.calls, hcallsv, hcallsu]
      exact hcallst
    obtain ⟨y, hy, hstart⟩ := hafter
    obtain ⟨z, hxz, hpcz, hisaz, hcallsz, hcfgz, hbackz, hexitsz⟩ := getPostCalleeInsts_runs hP
      hpost (at_fin hat) hpcx' (hisax.trans hisav) hsaved hcallsx (at_label hat) fun l' _ h => by
        rw [hy] at h
        cases h
        cases hstart
    have hchild : Effect N (N - l.length) (N - l.length - 1) l.length 0 1 u v :=
      (Effect.of_child heff).of_le (by omega) (by omega) le_rfl le_rfl
    have hall := ((hsu.trans hchild).trans (.of_quiet hqx)).trans (.of_same hcfgz hbackz hexitsz)
    have hruns := ((((hst.trans hlabel).trans htu).trans huv).trans hvx).trans hxz
    exact ⟨z, hruns, hpcz, hisaz.trans (Bool.not_not _), hcallsz,
      hall.of_le le_rfl le_rfl le_rfl le_rfl⟩
  · exact ⟨t, hst, hpct, hisat, hcallst,
      (Effect.of_same hcfg hback hexits).of_le le_rfl le_rfl le_rfl (Nat.zero_le _)⟩

end

/-! ## The block tree -/

section

variable {P : List Line} {N : ℤ} {o : Shape.Options} {s : State} {q : ℕ}

/-- The line of a body is passed over. -/
lemma body_reach (hP : Listing P) {isARM : Bool} {lev : ℤ} {δ : ℕ}
    (hx : P[q]? = some (.inst isARM .body)) (hpc : s.pc = q) (hisa : s.isARM = isARM) :
    Reach P N lev δ 0 0 s (q + 1) isARM := by
  subst hpc
  exact .of_quiet (runs_fall hP hx hisa rfl rfl (by simp)) ⟨rfl, rfl, rfl, rfl⟩ rfl hisa

lemma not_isCallee {x : Part} {l : Label} (hx : x ≠ .c2) : ¬IsCallee (x :: l) :=
  fun h => hx (Option.some.inj h)

variable {l : Label} {ctx : Ctx}

lemma byPass_runs (hP : Listing P) {br : BranchChoice} {b1 b2 b3 : Shape}
    (h1 : BlockRuns P N b1 (.b1 :: l) ctx.down) (h2 : BlockRuns P N b2 (.b2 :: l) ctx.down)
    (h3 : BlockRuns P N b3 (.b3 :: l) ctx.down) : BlockRuns P N (.byPass br b1 b2 b3) l ctx := by
  intro q s hat hpc hisa hw
  simp only [blockCode, at_append, List.length_append, ← Nat.add_assoc] at hat ⊢
  obtain ⟨⟨⟨hb1, hbr⟩, hb2⟩, hb3⟩ := hat
  have hall := (child_reach hP h1 hb1 rfl (.inl ⟨rfl, by simp⟩) _ hpc hisa hw).bind hw
    fun t hpc hisa hw =>
    (genBranch_runs hP hbr hpc hisa (at_label hb3) (not_isCallee (by simp))).reach (m := 2) hw
      (fun t hpc hisa hw =>
        (child_reach hP h3 hb3 rfl (.inr rfl) _ hpc hisa hw).of_le le_rfl le_rfl (by omega))
      (fun _ t hpc hisa hw =>
        (child_reach hP h2 hb2 rfl (.inl ⟨rfl, by simp⟩) _ hpc hisa hw).bind hw
          (child_reach hP h3 hb3 rfl (.inl ⟨rfl, by simp⟩)))
  exact hall.of_le (by omega) (by omega) (by omega)

lemma hammock_runs (hP : Listing P) {br3 br4 : BranchChoice} {b1 b2 b3 b4 : Shape}
    (h1 : BlockRuns P N b1 (.h1 :: l) ctx.down) (h2 : BlockRuns P N b2 (.h2 :: l) ctx.down)
    (h3 : BlockRuns P N b3 (.h3 :: l) ctx.down) (h4 : BlockRuns P N b4 (.h4 :: l) ctx.down) :
    BlockRuns P N (.hammock br3 br4 b1 b2 b3 b4) l ctx := by
  intro q s hat hpc hisa hw
  simp only [blockCode, at_append, List.length_append, ← Nat.add_assoc] at hat ⊢
  obtain ⟨⟨⟨⟨⟨hb1, hbr3⟩, hb2⟩, hbr4⟩, hb3⟩, hb4⟩ := hat
  have hall := (child_reach hP h1 hb1 rfl (.inl ⟨rfl, by simp⟩) _ hpc hisa hw).bind hw
    fun t hpc hisa hw =>
    (genBranch_runs hP hbr3 hpc hisa (at_label hb3) (not_isCallee (by simp))).reach hw
      (fun t hpc hisa hw =>
        (child_reach hP h3 hb3 rfl (.inr rfl) _ hpc hisa hw).bind hw
          (child_reach hP h4 hb4 rfl (.inl ⟨rfl, by simp⟩)))
      (fun _ t hpc hisa hw =>
        (child_reach hP h2 hb2 rfl (.inl ⟨rfl, by simp⟩) _ hpc hisa hw).bind hw fun t hpc hisa hw =>
          (genBranch_runs hP hbr4 hpc hisa (at_label hb4) (not_isCallee (by simp))).reach hw
            (child_reach hP h4 hb4 rfl (.inr rfl)) (by simp))
  exact hall.of_le (by omega) (by omega) (by omega)

lemma loop_runs (hP : Listing P) (hlevel : (l.length : ℤ) + 1 ≤ N) (hnest : ctx.nest = N - l.length)
    {lp : LoopChoice} {b1 : Shape} (h1 : BlockRuns P N b1 (.l1 :: l) ctx.down) :
    BlockRuns P N (.loop lp b1) l ctx := by
  intro q s hat hpc hisa hw
  simp only [blockCode, at_append, List.length_append, ← Nat.add_assoc] at hat ⊢
  obtain ⟨hb1, htail⟩ := hat
  have hdown : ctx.down.nest = N - (l.length + 1) := by
    rw [Ctx.down_nest, hnest]
    ring
  have hfirst : Reach P N (N - l.length) l.length 0 1 s _ _ :=
    (child_reach hP h1 hb1 rfl (.inl ⟨rfl, by simp⟩) _ hpc hisa hw).of_le (by omega) le_rfl le_rfl
  have hall := hfirst.bind hw fun t hpc hisa hw => tail_reach hP hlevel hdown rfl htail
      (at_label hb1) (not_isCallee (by simp))
      (m := 1) (by omega) (child_reach hP h1 hb1 rfl (.inr rfl)) t hpc hisa hw
  exact hall.of_le (by omega) (by omega) (by omega)

lemma irLoop_runs (hP : Listing P) (hlevel : (l.length : ℤ) + 1 ≤ N)
    (hnest : ctx.nest = N - l.length) {lp : LoopChoice} {br : BranchChoice} {b1 b2 b3 : Shape}
    (h1 : BlockRuns P N b1 (.ir1 :: l) ctx.down) (h2 : BlockRuns P N b2 (.ir2 :: l) ctx.down)
    (h3 : BlockRuns P N b3 (.ir3 :: l) ctx.down) :
    BlockRuns P N (.irLoop lp br b1 b2 b3) l ctx := by
  intro q s hat hpc hisa hw
  simp only [blockCode, at_append, List.length_append, ← Nat.add_assoc] at hat ⊢
  obtain ⟨⟨⟨⟨hb1, hbr⟩, hb2⟩, hb3⟩, htail⟩ := hat
  have hdown : ctx.down.nest = N - (l.length + 1) := by
    rw [Ctx.down_nest, hnest]
    ring
  -- the first pass may enter the body in its middle
  have hfirst := (child_reach hP h1 hb1 rfl (.inl ⟨rfl, by simp⟩) _ hpc hisa hw).bind hw
    fun t hpc hisa hw =>
    (genBranch_runs hP hbr hpc hisa (at_label hb3) (not_isCallee (by simp))).reach (m := 2) hw
      (fun t hpc hisa hw =>
        (child_reach hP h3 hb3 rfl (.inr rfl) _ hpc hisa hw).of_le le_rfl le_rfl (by omega))
      (fun _ t hpc hisa hw =>
        (child_reach hP h2 hb2 rfl (.inl ⟨rfl, by simp⟩) _ hpc hisa hw).bind hw
          (child_reach hP h3 hb3 rfl (.inl ⟨rfl, by simp⟩)))
  have hfirst' : Reach P N (N - l.length) l.length 0 3 s _ _ :=
    hfirst.of_le (by omega) le_rfl le_rfl
  have hall := hfirst'.bind hw fun t hpc hisa hw => tail_reach hP hlevel hdown rfl htail
      (at_label hb2) (not_isCallee (by simp))
      (m := 2) (by omega) (fun t hpc hisa hw =>
        (child_reach hP h2 hb2 rfl (.inr rfl) _ hpc hisa hw).bind hw
          (child_reach hP h3 hb3 rfl (.inl ⟨rfl, by simp⟩))) t hpc hisa hw
  exact hall.of_le (by omega) (by omega) (by omega)

/-- A mode directive before a line that starts no block is passed over. -/
lemma Reach.afterMode {isARM isa : Bool} {lev : ℤ} {δ m p : ℕ}
    (h : Reach P N lev δ 0 m s.next p isa) (hx : P[s.pc]? = some (isaLine isARM))
    (hy : ∃ y, P[s.pc + 1]? = some y ∧ y.isStart = false) : Reach P N lev δ 0 m s p isa := by
  obtain ⟨y, hy, hstart⟩ := hy
  have hstep : step P s = some s.next := by
    cases isARM <;> simp [step, hx, isaLine]
  have hpop : (isaLine isARM).isPop = false := by cases isARM <;> rfl
  refine h.after (.single (advance_to hx hstep rfl hpop hy fun l h => ?_)) ⟨rfl, rfl, rfl, rfl⟩
  subst h
  cases hstart

/-- An emitted sequence does not start with a block's label. -/
lemma head_of_noLabels {as : List Line} (hat : At P q as) (hne : as ≠ []) (h : NoLabels as) :
    ∃ y, P[q]? = some y ∧ y.isStart = false := by
  cases as with
  | nil => exact absurd rfl hne
  | cons y as =>
    refine ⟨y, (at_cons.1 hat).1, ?_⟩
    cases y with
    | label c => exact absurd (.head _) (h c)
    | directive d => rfl
    | inst isARM i => rfl

/-- Nor does the text of a block. -/
lemma head_of_print {isARM : Bool} {code : List Line} (hat : At P q (printBlock isARM l code)) :
    ∃ y, P[q]? = some y ∧ y.isStart = false :=
  ⟨_, (at_cons.1 hat).1, rfl⟩

lemma genBX_ne_nil {isARM isconditional : Bool} {target : Label} {r : BxChoice} :
    genBX isARM target isconditional r ≠ [] := by
  cases isARM <;> cases isconditional <;> simp only [genBX] <;> split_ifs <;> simp_all

lemma genCall_ne_nil {isARM isCallee : Bool} {target : Label} {r : CallChoice} :
    genCall isARM isCallee target r ≠ [] := by
  unfold genCall
  split_ifs <;> simp

lemma interwork_runs (hP : Listing P) {condBx iwFollowed : Bool} {bx1 bx2 bx3 : BxChoice}
    {br : BranchChoice} {b1 b2 b3 : Shape} (h1 : BlockRuns P N b1 (.iw1 :: l) ctx.down)
    (h2 : BlockRuns P N b2 (.iw2 :: l) ctx.down.other)
    (h3 : BlockRuns P N b3 (.iw3 :: l) ctx.down) :
    BlockRuns P N (.interwork condBx iwFollowed bx1 bx2 bx3 br b1 b2 b3) l ctx := by
  intro q s hat hpc hisa hw
  subst hpc
  cases iwFollowed with
  | true =>
    simp only [blockCode, at_cons, at_append, List.length_append, List.length_cons,
      ← Nat.add_assoc, if_true] at hat ⊢
    obtain ⟨hmode, ⟨⟨⟨⟨⟨hbx1, hbr⟩, hb2⟩, hbx2⟩, hbx3⟩, hb1⟩, hb3⟩ := hat
    have hhead := head_of_noLabels hbx1 genBX_ne_nil noLabels_genBX
    have hall : Reach P N (N - l.length - 1) l.length 0 3 s.next _ ctx.isa :=
      (genBX_runs (s := s.next) hP hbx1 rfl hisa (at_label hb2) (not_isCallee (by simp))).reach hw
        (fun t hpc hisa hw => (child_reach hP h2 hb2 rfl (.inr rfl) _ hpc hisa hw).bind hw
          fun t hpc hisa hw =>
            (genBX_runs hP hbx2 hpc hisa (at_label hb1) (not_isCallee (by simp))).reach (m := 2) hw
              (fun t hpc hisa hw => (child_reach hP h1 hb1 rfl (.inr rfl) _ hpc
                  (hisa.trans (Bool.not_not _)) hw).bind hw
                    (child_reach hP h3 hb3 rfl (.inl ⟨rfl, by simp⟩)))
              (fun _ t hpc hisa hw =>
                (genBX_runs hP hbx3 hpc hisa (at_label hb3) (not_isCallee (by simp))).reach hw
                  (fun t hpc hisa hw => (child_reach hP h3 hb3 rfl (.inr rfl) _ hpc
                    (hisa.trans (Bool.not_not _)) hw).of_le le_rfl le_rfl (by omega)) (by simp)))
        (fun _ t hpc hisa hw =>
          (genBranch_runs hP hbr hpc hisa (at_label hb3) (not_isCallee (by simp))).reach hw
            (fun t hpc hisa hw =>
              (child_reach hP h3 hb3 rfl (.inr rfl) _ hpc hisa hw).of_le le_rfl le_rfl (by omega))
            (by simp))
    exact ((hall.afterMode hmode hhead).of_le (by omega) (by omega) (by omega)).of_eq (by omega)
  | false =>
    simp only [blockCode, at_cons, at_append, List.length_append, List.length_cons,
      ← Nat.add_assoc, Bool.false_eq_true, if_false] at hat ⊢
    obtain ⟨hmode, ⟨⟨⟨⟨⟨hbx1, hb1⟩, hbr⟩, hb2⟩, hbx2⟩, hbx3⟩, hb3⟩ := hat
    have hhead := head_of_noLabels hbx1 genBX_ne_nil noLabels_genBX
    -- from the end of `iw1` over the branch to `iw3`
    have hend : ∀ t : State, t.pc = _ → t.isARM = ctx.isa → Words t →
        Reach P N (N - l.length - 1) l.length 0 1 t _ ctx.isa := fun t hpc hisa hw =>
      (genBranch_runs hP hbr hpc hisa (at_label hb3) (not_isCallee (by simp))).reach hw
        (child_reach hP h3 hb3 rfl (.inr rfl)) (by simp)
    have hall : Reach P N (N - l.length - 1) l.length 0 3 s.next _ ctx.isa :=
      (genBX_runs (s := s.next) hP hbx1 rfl hisa (at_label hb2) (not_isCallee (by simp))).reach hw
        (fun t hpc hisa hw => (child_reach hP h2 hb2 rfl (.inr rfl) _ hpc hisa hw).bind hw
          fun t hpc hisa hw =>
            (genBX_runs hP hbx2 hpc hisa (at_label hb1) (not_isCallee (by simp))).reach (m := 2) hw
              (fun t hpc hisa hw => (child_reach hP h1 hb1 rfl (.inr rfl) _ hpc
                (hisa.trans (Bool.not_not _)) hw).bind hw hend)
              (fun _ t hpc hisa hw =>
                (genBX_runs hP hbx3 hpc hisa (at_label hb3) (not_isCallee (by simp))).reach hw
                  (fun t hpc hisa hw => (child_reach hP h3 hb3 rfl (.inr rfl) _ hpc
                    (hisa.trans (Bool.not_not _)) hw).of_le le_rfl le_rfl (by omega)) (by simp)))
        (fun _ t hpc hisa hw =>
          ((child_reach hP h1 hb1 rfl (.inl ⟨rfl, by simp⟩) _ hpc hisa hw).bind hw hend).of_le
            le_rfl le_rfl (by omega))
    exact ((hall.afterMode hmode hhead).of_le (by omega) (by omega) (by omega)).of_eq (by omega)

lemma callRet_runs (hP : Listing P) (hN : N ≤ 8) (hnest : ctx.nest = N - l.length)
    {iwcall calleeFollowed beginWithCall : Bool} {call : CallChoice} {pre post : Fin 8}
    {br : BranchChoice} {b1 b2 b3 : Shape} (h1 : BlockRuns P N b1 (.c1 :: l) ctx.down)
    (h2 : BlockRuns P N b2 (.c2 :: l) (ctx.down.callee iwcall))
    (h3 : BlockRuns P N b3 (.c3 :: l) ctx.down) :
    BlockRuns P N (.callRet iwcall calleeFollowed beginWithCall call pre post br b1 b2 b3) l
      ctx := by
  intro q s hat hpc hisa hw
  subst hpc
  have hdown : (ctx.down.callee iwcall).nest = N - (l.length + 1) := by
    rw [Ctx.callee_nest, Ctx.down_nest, hnest]
    ring
  have hbranch : ∀ {c : Ctx} {target : Label},
      genBranch ctx.isa c target false false br ≠ [] := List.cons_ne_nil _ _
  cases calleeFollowed with
  | true =>
    cases beginWithCall with
    | true =>
      simp only [blockCode, at_cons, at_append, List.length_append, List.length_cons,
        List.length_nil, ← Nat.add_assoc, Nat.add_zero, if_true] at hat ⊢
      obtain ⟨hmode, ⟨⟨⟨⟨⟨hcall, hbr⟩, hb2⟩, hpost⟩, hb1⟩, -⟩, hb3⟩ := hat
      have hhead := head_of_noLabels hcall genCall_ne_nil noLabels_genCall
      have hafter := head_of_noLabels hbr hbranch noLabels_genBranch
      have hall : Reach P N (N - l.length - 1) l.length 0 3 s.next _ ctx.isa :=
        (call_reach (s := s.next) hP hN hdown hcall hb2 hpost h2 hafter rfl hisa hw).bind hw
          fun t hpc hisa hw =>
            (genBranch_runs hP hbr hpc hisa (at_label hb1) (not_isCallee (by simp))).reach (m := 2)
              hw (fun t hpc hisa hw => (child_reach hP h1 hb1 rfl (.inr rfl) _ hpc hisa hw).bind hw
                (child_reach hP h3 hb3 rfl (.inl ⟨rfl, by simp⟩)))
              (by simp)
      exact ((hall.afterMode hmode hhead).of_le (by omega) (by omega) (by omega)).of_eq (by omega)
    | false =>
      simp only [blockCode, at_cons, at_append, List.length_append, List.length_cons,
        List.length_nil, ← Nat.add_assoc, Nat.add_zero, Bool.false_eq_true, if_true, if_false]
        at hat ⊢
      obtain ⟨hmode, ⟨⟨⟨⟨⟨-, hbr⟩, hb2⟩, hpost⟩, hb1⟩, hcall⟩, hb3⟩ := hat
      have hhead := head_of_noLabels hbr hbranch noLabels_genBranch
      have hall : Reach P N (N - l.length - 1) l.length 0 3 s.next _ ctx.isa :=
        (genBranch_runs (s := s.next) hP hbr rfl hisa (at_label hb1)
          (not_isCallee (by simp))).reach hw (fun t hpc hisa hw =>
            ((child_reach hP h1 hb1 rfl (.inr rfl) _ hpc hisa hw).bind hw fun t hpc hisa hw =>
              call_reach hP hN hdown hcall hb2 hpost h2 (head_of_print hb3) hpc hisa hw).bind hw
                (child_reach hP h3 hb3 rfl (.inl ⟨rfl, by simp⟩)))
              (by simp)
      exact ((hall.afterMode hmode hhead).of_le (by omega) (by omega) (by omega)).of_eq (by omega)
  | false =>
    cases beginWithCall with
    | true =>
      simp only [blockCode, at_cons, at_append, List.length_append, List.length_cons,
        List.length_nil, ← Nat.add_assoc, Nat.add_zero, Bool.false_eq_true, if_true, if_false]
        at hat ⊢
      obtain ⟨hmode, ⟨⟨⟨⟨⟨hcall, hb1⟩, -⟩, hbr⟩, hb2⟩, hpost⟩, hb3⟩ := hat
      have hhead := head_of_noLabels hcall genCall_ne_nil noLabels_genCall
      have hall : Reach P N (N - l.length - 1) l.length 0 3 s.next _ ctx.isa :=
        ((call_reach (s := s.next) hP hN hdown hcall hb2 hpost h2 (head_of_print hb1) rfl hisa
          hw).bind hw
            (child_reach hP h1 hb1 rfl (.inl ⟨rfl, by simp⟩))).bind hw fun t hpc hisa hw =>
              (genBranch_runs hP hbr hpc hisa (at_label hb3) (not_isCallee (by simp))).reach hw
                (child_reach hP h3 hb3 rfl (.inr rfl)) (by simp)
      exact ((hall.afterMode hmode hhead).of_le (by omega) (by omega) (by omega)).of_eq (by omega)
    | false =>
      simp only [blockCode, at_cons, at_append, List.length_append, List.length_cons,
        List.length_nil, ← Nat.add_assoc, Nat.add_zero, Bool.false_eq_true, if_false] at hat ⊢
      obtain ⟨hmode, ⟨⟨⟨⟨⟨-, hb1⟩, hcall⟩, hbr⟩, hb2⟩, hpost⟩, hb3⟩ := hat
      have hhead := head_of_print hb1
      have hafter := head_of_noLabels hbr hbranch noLabels_genBranch
      have hall : Reach P N (N - l.length - 1) l.length 0 3 s.next _ ctx.isa :=
        ((child_reach hP h1 hb1 rfl (.inl ⟨rfl, by simp⟩) s.next rfl hisa hw).bind hw
          fun t hpc hisa hw =>
            call_reach hP hN hdown hcall hb2 hpost h2 hafter hpc hisa hw).bind hw
              fun t hpc hisa hw =>
                (genBranch_runs hP hbr hpc hisa (at_label hb3) (not_isCallee (by simp))).reach hw
                  (child_reach hP h3 hb3 rfl (.inr rfl)) (by simp)
      exact ((hall.afterMode hmode hhead).of_le (by omega) (by omega) (by omega)).of_eq (by omega)

lemma exclusive_runs (hP : Listing P) {b1 b2 : Shape} (h1 : BlockRuns P N b1 (.e1 :: l) ctx.down)
    (h2 : BlockRuns P N b2 (.e2 :: l) ctx.down) : BlockRuns P N (.exclusive b1 b2) l ctx := by
  intro q s hat hpc hisa hw
  simp only [blockCode, at_append, at_cons, List.length_append, List.length_cons, List.length_nil,
    ← Nat.add_assoc, Nat.add_zero] at hat ⊢
  obtain ⟨⟨hb1, hx1, hx2, -⟩, hb2⟩ := hat
  have hall := (((child_reach hP h1 hb1 rfl (.inl ⟨rfl, by simp⟩) _ hpc hisa hw).bind hw
    fun t hpc hisa hw => body_reach hP hx1 hpc hisa).bind hw
    fun t hpc hisa hw => body_reach hP hx2 hpc hisa).bind hw
      (child_reach hP h2 hb2 rfl (.inl ⟨rfl, by simp⟩))
  exact hall.of_le (by omega) (by omega) (by omega)

lemma aluWritePC_runs (hP : Listing P) {b1 b2 : Shape}
    (h1 : BlockRuns P N b1 (.aluwpc1 :: l) ctx.down)
    (h2 : BlockRuns P N b2 (.aluwpc2 :: l) ctx.down) : BlockRuns P N (.aluWritePC b1 b2) l ctx := by
  intro q s hat hpc hisa hw
  simp only [blockCode, at_append, at_cons, List.length_append, List.length_cons, List.length_nil,
    ← Nat.add_assoc, Nat.add_zero] at hat ⊢
  obtain ⟨⟨hb1, hx1, -⟩, hb2⟩ := hat
  have hall := ((child_reach hP h1 hb1 rfl (.inl ⟨rfl, by simp⟩) _ hpc hisa hw).bind hw
    fun t hpc hisa hw => body_reach hP hx1 hpc hisa).bind hw
      (child_reach hP h2 hb2 rfl (.inl ⟨rfl, by simp⟩))
  exact hall.of_le (by omega) (by omega) (by omega)

lemma down_nest_eq (hnest : ctx.nest = N - l.length) (x : Part) :
    ctx.down.nest = N - ((x :: l).length : ℕ) := by
  rw [Ctx.down_nest, hnest, List.length_cons]
  push_cast
  ring

/-- Every block that can be drawn in a tree of at most eight levels is run to its end. -/
lemma block_runs (hP : Listing P) (hN : N ≤ 8) (sh : Shape) (l : Label) (ctx : Ctx)
    (hnest : ctx.nest = N - l.length) (hdraw : sh.drawable o ctx.nest = true) :
    BlockRuns P N sh l ctx := by
  induction sh generalizing l ctx with
  | basic =>
    intro q s hat hpc hisa hw
    have hbody : Reach P N (N - l.length) l.length 0 0 s _ _ :=
      body_reach hP (at_cons.1 hat).1 hpc hisa
    exact hbody.of_le le_rfl (by omega) (by omega)
  | byPass br b1 b2 b3 ih1 ih2 ih3 =>
    have hc := (Shape.drawable_iff.1 hdraw).2
    exact byPass_runs hP (ih1 _ _ (down_nest_eq hnest _) (hc b1 (by simp [Shape.children])))
      (ih2 _ _ (down_nest_eq hnest _) (hc b2 (by simp [Shape.children])))
      (ih3 _ _ (down_nest_eq hnest _) (hc b3 (by simp [Shape.children])))
  | hammock br3 br4 b1 b2 b3 b4 ih1 ih2 ih3 ih4 =>
    have hc := (Shape.drawable_iff.1 hdraw).2
    exact hammock_runs hP (ih1 _ _ (down_nest_eq hnest _) (hc b1 (by simp [Shape.children])))
      (ih2 _ _ (down_nest_eq hnest _) (hc b2 (by simp [Shape.children])))
      (ih3 _ _ (down_nest_eq hnest _) (hc b3 (by simp [Shape.children])))
      (ih4 _ _ (down_nest_eq hnest _) (hc b4 (by simp [Shape.children])))
  | loop lp b1 ih1 =>
    have hc := (Shape.drawable_iff.1 hdraw).2
    have hpos := Shape.drawable_pos hdraw (by simp)
    exact loop_runs hP (by omega) hnest
      (ih1 _ _ (down_nest_eq hnest _) (hc b1 (by simp [Shape.children])))
  | irLoop lp br b1 b2 b3 ih1 ih2 ih3 =>
    have hc := (Shape.drawable_iff.1 hdraw).2
    have hpos := Shape.drawable_pos hdraw (by simp)
    exact irLoop_runs hP (by omega) hnest
      (ih1 _ _ (down_nest_eq hnest _) (hc b1 (by simp [Shape.children])))
      (ih2 _ _ (down_nest_eq hnest _) (hc b2 (by simp [Shape.children])))
      (ih3 _ _ (down_nest_eq hnest _) (hc b3 (by simp [Shape.children])))
  | interwork condBx iwFollowed bx1 bx2 bx3 br b1 b2 b3 ih1 ih2 ih3 =>
    have hc := (Shape.drawable_iff.1 hdraw).2
    exact interwork_runs hP (ih1 _ _ (down_nest_eq hnest _) (hc b1 (by simp [Shape.children])))
      (ih2 _ ctx.down.other (down_nest_eq hnest _) (hc b2 (by simp [Shape.children])))
      (ih3 _ _ (down_nest_eq hnest _) (hc b3 (by simp [Shape.children])))
  | callRet iwcall calleeFollowed beginWithCall call pre post br b1 b2 b3 ih1 ih2 ih3 =>
    have hc := (Shape.drawable_iff.1 hdraw).2
    have hcallee : (ctx.down.callee iwcall).nest = ctx.nest - 1 := Ctx.callee_nest _ _
    exact callRet_runs hP hN hnest
      (ih1 _ _ (down_nest_eq hnest _) (hc b1 (by simp [Shape.children])))
      (ih2 _ (ctx.down.callee iwcall) (hcallee.trans (down_nest_eq hnest _))
        (hcallee ▸ hc b2 (by simp [Shape.children])))
      (ih3 _ _ (down_nest_eq hnest _) (hc b3 (by simp [Shape.children])))
  | exclusive b1 b2 ih1 ih2 =>
    have hc := (Shape.drawable_iff.1 hdraw).2
    exact exclusive_runs hP (ih1 _ _ (down_nest_eq hnest _) (hc b1 (by simp [Shape.children])))
      (ih2 _ _ (down_nest_eq hnest _) (hc b2 (by simp [Shape.children])))
  | aluWritePC b1 b2 ih1 ih2 =>
    have hc := (Shape.drawable_iff.1 hdraw).2
    exact aluWritePC_runs hP (ih1 _ _ (down_nest_eq hnest _) (hc b1 (by simp [Shape.children])))
      (ih2 _ _ (down_nest_eq hnest _) (hc b2 (by simp [Shape.children])))

end

/-! ## The program -/

/-- The state in which a program starts: at the root's label, with `cfgdata` zero.  Registers, the
outcomes of the conditions and what the bodies do are arbitrary. -/
def initialState (P : List Line) (isARM : Bool) (regs : ℕ → Val) (coins : ℕ → Bool)
    (noise : ℕ → ℕ → Noise) : State where
  pc := lineOf P []
  isARM := isARM
  regs := regs
  le := none
  cfg := fun _ => .word 0
  coins := coins
  noise := noise
  backEdges := fun _ => 0
  exits := fun _ => 0
  calls := []

/-- The exits of the loops at one depth, from the back-edges at the lesser depths. -/
lemma Effect.exits_le {N : ℤ} (hN : N ≤ 8) {s t : State} (h : Effect N N N 0 1 4 s t)
    (hexits : ∀ d, s.exits d = 0) {d : ℕ} (hd : d ≤ N) (hpos : 0 < d)
    (hedges : ∀ i < d, t.backEdges i ≤ 256) : t.exits d ≤ exitBound := by
  obtain ⟨k, rfl⟩ : ∃ k, d = 1 + k := ⟨d - 1, by omega⟩
  cases k with
  | zero =>
    have hown := h.own
    rw [hexits] at hown
    exact hown.trans (by decide)
  | succ k =>
    have hbelow := h.below k
    have hd2 : 0 + 2 + k = 1 + (k + 1) := by omega
    rw [hd2, hexits] at hbelow
    have houter : outerEdges t (1 + (k + 1)) ≤ 8 * 256 := by
      have hsum := Finset.sum_le_card_nsmul (Finset.range (1 + (k + 1))) t.backEdges 256
        fun i hi => hedges i (Finset.mem_range.1 hi)
      rw [Finset.card_range, Nat.nsmul_eq_mul] at hsum
      exact hsum.trans (Nat.mul_le_mul_right 256 (by omega))
    have hpow : 4 ^ (k + 1) ≤ 4 ^ 7 := Nat.pow_le_pow_right (by omega) (by omega)
    calc t.exits (1 + (k + 1))
        ≤ 4 * 4 ^ k + 4 * 4 ^ k * outerEdges t (1 + (k + 1)) := by omega
      _ = 4 ^ (k + 1) * (1 + outerEdges t (1 + (k + 1))) := by ring
      _ ≤ 4 ^ 7 * 2049 := Nat.mul_le_mul hpow (by omega)

/-- At most 256 back-edges are taken at any one depth. -/
lemma Effect.backEdges_le {N : ℤ} (hN : N ≤ 8) {s t : State} (h : Effect N N N 0 1 4 s t)
    (hexits : ∀ d, s.exits d = 0) (hedges : ∀ d, s.backEdges d = 0)
    (hcfg : ∀ off, s.cfg off = .word 0) (d : ℕ) : t.backEdges d ≤ 256 := by
  induction d using Nat.strong_induction_on with
  | _ d ih =>
    rcases Nat.eq_zero_or_pos d with rfl | hpos
    · rw [(h.around 0 le_rfl).1, hedges]
      omega
    · by_cases hd : (d : ℤ) ≤ N
      · have hstart : Counted N d s := ⟨0, hcfg _, by rw [hexits, hedges]; decide,
          by rw [hexits, hedges]; decide, by rw [hedges]; omega⟩
        obtain ⟨w, -, -, -, hle⟩ := h.counted d hd hstart (h.exits_le hN hexits hd hpos ih)
        exact hle
      · rw [h.deep d (by omega), hedges]
        omega

section Root

variable {o : Shape.Options} {nest : ℤ} {sh : Shape}

/-- The run of a whole program, from the root's label to its end label. -/
lemma root_runs (hnest : nest ≤ 8) (hdraw : sh.drawable o nest = true) (isARM : Bool)
    (regs : ℕ → Val) (coins : ℕ → Bool) (noise : ℕ → ℕ → Noise) :
    let P := (make sh [] [] ⟨nest, isARM⟩).1.text
    let s := initialState P isARM regs coins noise
    ∃ t, Runs P s t ∧ P[t.pc]? = some (.label (.fin [])) ∧ t.calls = [] ∧
      Effect nest nest nest 0 1 4 s t := by
  intro P s
  have htext : P = printBlock isARM [] (blockCode sh [] ⟨nest, isARM⟩) := make_text sh [] [] _
  have hP : Listing P := by
    rw [htext]
    exact blockText_listing sh [] ⟨nest, isARM⟩
  have hat : At P 0 (printBlock isARM [] (blockCode sh [] ⟨nest, isARM⟩)) := htext ▸ at_zero P
  have hpc : s.pc = 0 + 2 := hP.lineOf_eq (at_label hat)
  have hlabel : Runs P s s.next := label_runs hP (hpc ▸ at_label hat)
  have hblock := block_runs (N := nest) hP hnest sh [] ⟨nest, isARM⟩ (by simp) hdraw
  obtain ⟨t, hst, hpct, -, hcalls, heff⟩ := hblock (0 + 3) s.next (at_code hat)
    (congrArg (· + 1) hpc) rfl fun n _ => ⟨0, rfl⟩
  have halign : P[t.pc]? = some (.directive .align) := by
    rw [hpct]
    obtain ⟨-, hrest⟩ := at_append.1 hat
    exact (at_cons.1 (at_append.1 hrest).2).1
  have hend : Runs P t t.next := runs_next hP halign (by simp [step, halign]) rfl rfl
  refine ⟨t.next, (hlabel.trans hst).trans hend, ?_, hcalls, ?_⟩
  · change P[t.pc + 1]? = _
    rw [hpct]
    exact at_fin hat
  · simp only [List.length_nil, Nat.cast_zero, sub_zero] at heff
    have hquiet : Effect nest nest nest 0 0 0 s s.next := .of_quiet ⟨rfl, rfl, rfl, rfl⟩
    have hquiet' : Effect nest nest nest 0 0 0 t t.next := .of_quiet ⟨rfl, rfl, rfl, rfl⟩
    exact (hquiet.trans heff).trans hquiet'

/-- **The skeleton of every program drawn with at most eight levels terminates.**  Whatever the
conditions decide and the bodies do to the registers, the run from the root's label reaches the
root's end label, no call is left pending, and at each nesting level at most 256 back-edges are
taken.  Every step keeps the discipline of calls: a callee is entered only by a call of it, and the
return behind it leads to the line after that call. -/
theorem skeleton_terminates (hnest : nest ≤ 8) (hdraw : sh.drawable o nest = true) (isARM : Bool)
    (regs : ℕ → Val) (coins : ℕ → Bool) (noise : ℕ → ℕ → Noise) :
    let P := (make sh [] [] ⟨nest, isARM⟩).1.text
    ∃ t, Runs P (initialState P isARM regs coins noise) t ∧ P[t.pc]? = some (.label (.fin [])) ∧
      t.calls = [] ∧ ∀ depth, t.backEdges depth ≤ 256 := by
  intro P
  obtain ⟨t, hruns, hpc, hcalls, heff⟩ := root_runs hnest hdraw isARM regs coins noise
  exact ⟨t, hruns, hpc, hcalls,
    heff.backEdges_le hnest (fun _ => rfl) (fun _ => rfl) fun _ => rfl⟩

end Root

/-- A call block over a loop, at the two lowest levels. -/
theorem skeleton_terminates_call_loop :
    let lp : LoopChoice :=
      ⟨1, 256, 0, 1, by decide, by decide, by decide, by decide, by decide, by decide⟩
    let br : BranchChoice := ⟨.eq, none, false⟩
    let sh : Shape :=
      .callRet true true false ⟨true, 14, some .ne⟩ 3 4 br .basic (.loop lp .basic) .basic
    let P := (make sh [] [] ⟨2, true⟩).1.text
    sh.drawable ⟨true, true⟩ 2 = true ∧
      ∃ t, Runs P (initialState P true (fun _ => .word 7) (fun i => i % 2 = 0)
          fun _ r => .copy r) t ∧ P[t.pc]? = some (.label (.fin [])) ∧ t.calls = [] ∧
        ∀ depth, t.backEdges depth ≤ 256 := by
  refine ⟨by decide, ?_⟩
  exact skeleton_terminates (o := ⟨true, true⟩) (by decide) (by decide) true _ _ _

end Rit.Art
