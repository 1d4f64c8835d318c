import Rit.Art.ProcessTest
import Rit.Lib.Arm.Piece

/-!
# The self-check is exact

`genChkCode_exact`: entered in any state, the check falls through to the code for a passed test if
and only if N, Z, C and V are the recorded flags and every register from `r0` to `r14` but `r4` has
its recorded value; otherwise it goes to `failexit`.

The flags part is a chain of branches that leaves the core alone.  The register part is an induction
over the list of registers: a comparison that succeeds leaves all registers but `r4` as they were,
so that the remaining comparisons still look at the values the check was entered with.
-/

namespace Rit.Art

open Arm (Reg EqOff)
open Layout Relation

variable {L : Type} [DecidableEq L]

/-! ## What is recorded -/

/-- The flags are the recorded ones. -/
def CpuState.FlagsMatch (state : CpuState) (f : Arm.Apsr) : Prop :=
  f.n = state.psr.getLsbD 31 ∧ f.z = state.psr.getLsbD 30 ∧ f.c = state.psr.getLsbD 29 ∧
    f.v = state.psr.getLsbD 28

instance (state : CpuState) (f : Arm.Apsr) : Decidable (state.FlagsMatch f) :=
  inferInstanceAs (Decidable (_ ∧ _ ∧ _ ∧ _))

/-- The core is in the recorded state, as far as the check can tell. -/
structure CpuState.Matches (state : CpuState) (s : Arm.Cpu) : Prop where
  flags : state.FlagsMatch s.apsr
  regs : ∀ r : Reg, r ≠ 4 → r ≠ 15 → s.regs r = state.r r

lemma and_mask_ne_zero_iff {w m : Arm.Word} {i : ℕ} (hm : m = BitVec.twoPow 32 i) (hi : i < 32) :
    w &&& m ≠ 0 ↔ w.getLsbD i = true := by
  have hpow : BitVec.twoPow 32 i ≠ 0#32 := by
    intro h
    have hbit := congrArg (fun v => v.getLsbD i) h
    simp [hi] at hbit
  rw [hm, BitVec.and_twoPow]
  cases w.getLsbD i
  · simp
  · simpa using hpow

/-- The branch for a flag is taken exactly if the flag is not as recorded. -/
lemma forall_chkConds_iff (state : CpuState) (f : Arm.Apsr) :
    (∀ c ∈ chkConds state.psr, c.holds f = false) ↔ state.FlagsMatch f := by
  have hn := and_mask_ne_zero_iff (w := state.psr) (m := apsrMask.1) (i := 31) (by decide)
    (by decide)
  have hz := and_mask_ne_zero_iff (w := state.psr) (m := apsrMask.2.1) (i := 30) (by decide)
    (by decide)
  have hc := and_mask_ne_zero_iff (w := state.psr) (m := apsrMask.2.2.1) (i := 29) (by decide)
    (by decide)
  have hv := and_mask_ne_zero_iff (w := state.psr) (m := apsrMask.2.2.2) (i := 28) (by decide)
    (by decide)
  simp only [chkConds, hn, hz, hc, hv, List.forall_mem_cons, List.not_mem_nil, false_implies,
    implies_true, and_true, CpuState.FlagsMatch]
  have hflag : ∀ (b v : Bool) (set unset : Arm.Cond), set.holds f = !v → unset.holds f = v →
      ((if b = true then set else unset).holds f = false ↔ v = b) := by
    intro b v set unset hset hunset
    cases b <;> simp [hset, hunset]
  rw [hflag _ f.n .pl .mi rfl rfl, hflag _ f.z .ne .eq rfl rfl, hflag _ f.c .cc .cs rfl rfl,
    hflag _ f.v .vc .vs rfl rfl]

/-! ## The two parts of the check -/

section Parts

variable {T : Arm.Text (ExitLabel L)} {p n q : ℕ} {s : Arm.State}

/-- The line of `failexit`. -/
def failLine (T : Arm.Text (ExitLabel L)) : ℕ := T.lines.idxOf (.label .failexit)

/-- Branches on conditions that do not hold are passed, and nothing changes. -/
lemma branches_pass {cc : List Arm.Cond}
    (hat : At T.lines q (cc.map fun c => .b (some c) .failexit)) (hlo : p ≤ q)
    (hhi : q + cc.length ≤ p + n) (hpc : s.pc = .line q) (hisa : s.isARM = T.isARM)
    (hcc : ∀ c ∈ cc, c.holds s.cpu.apsr = false) :
    T.RunsIn p n s { s with pc := .line (q + cc.length) } := by
  induction cc generalizing q s with
  | nil =>
    obtain ⟨pc, isARM, cpu, answers, attempts⟩ := s
    obtain rfl : pc = .line q := hpc
    exact .refl
  | cons c cc ih =>
    rw [List.map_cons, at_cons] at hat
    rw [List.length_cons] at hhi
    have hstep := Arm.runsIn_b hpc hisa hat.1 hlo (n := n) (by omega)
    rw [Arm.passes_some, hcc c List.mem_cons_self, if_neg Bool.false_ne_true] at hstep
    have hrest := ih (s := { s with pc := .line (q + 1) }) hat.2 (by omega) (by omega) rfl hisa
      fun c' hc' => hcc c' (List.mem_cons_of_mem _ hc')
    rw [show q + 1 + cc.length = q + (c :: cc).length by rw [List.length_cons]; omega] at hrest
    exact hstep.trans hrest

/-- The first condition that holds leads to `failexit`. -/
lemma branches_fail {cc : List Arm.Cond}
    (hat : At T.lines q (cc.map fun c => .b (some c) .failexit)) (hlo : p ≤ q)
    (hhi : q + cc.length ≤ p + n) (hout : p + n ≤ failLine T) (hpc : s.pc = .line q)
    (hisa : s.isARM = T.isARM) (hcc : ¬ ∀ c ∈ cc, c.holds s.cpu.apsr = false) :
    T.LeavesAt p n s (failLine T) := by
  induction cc generalizing q s with
  | nil => exact absurd (by simp) hcc
  | cons c cc ih =>
    rw [List.map_cons, at_cons] at hat
    rw [List.length_cons] at hhi
    have hstep := Arm.runsIn_b hpc hisa hat.1 hlo (n := n) (by omega)
    rw [Arm.passes_some] at hstep
    cases hc : c.holds s.cpu.apsr with
    | true =>
      rw [hc, if_pos rfl] at hstep
      exact ⟨_, hstep, Arm.not_inside_of_pc rfl (.inr hout), rfl⟩
    | false =>
      rw [hc, if_neg Bool.false_ne_true] at hstep
      refine .of_runsIn hstep (ih hat.2 (by omega) (by omega) rfl hisa ?_)
      intro hall
      exact hcc (List.forall_mem_cons.2 ⟨hc, hall⟩)

/-- After the first two lines of the check of a register `r4` has the recorded value, and Z tells
whether the register has it too. -/
lemma chkReg_compares {v : Arm.Word} {r : Reg} (hat : At T.lines q (chkReg v r)) (hr : r ≠ chkTmp)
    (hlo : p ≤ q) (hhi : q + 3 ≤ p + n) (hpc : s.pc = .line q) (hisa : s.isARM = T.isARM) :
    ∃ cpu : Arm.Cpu, EqOff {chkTmp} cpu.regs s.cpu.regs ∧
      T.RunsIn p n s { s with
        pc := .line (if s.cpu.regs r = v then q + 3 else failLine T), cpu := cpu } := by
  rw [chkReg, at_cons, at_cons, at_cons] at hat
  obtain ⟨hldr, hcmp, hb, -⟩ := hat
  have h1 := Arm.runsIn_op hpc hisa hldr hlo (n := n) (by omega)
  have h2 := Arm.runsIn_op (s := { s with pc := .line (q + 1), cpu := s.cpu.set chkTmp v }) rfl hisa
    hcmp (p := p) (n := n) (by omega) (by omega)
  have h3 := Arm.runsIn_b (s := { s with
    pc := .line (q + 1 + 1)
    cpu := (Arm.Op.cmp r (.reg chkTmp)).exec (s.cpu.set chkTmp v) }) rfl hisa hb
    (p := p) (n := n) (by omega) (by omega)
  have hz : Arm.passes (some .ne) ((Arm.Op.cmp r (.reg chkTmp)).exec (s.cpu.set chkTmp v)).apsr =
      !decide (s.cpu.regs r = v) := by
    let regs := Function.update s.cpu.regs chkTmp v
    change (!(regs r == regs chkTmp)) = !decide (s.cpu.regs r = v)
    rw [show regs r = s.cpu.regs r from Function.update_of_ne hr _ _,
      show regs chkTmp = v from Function.update_self _ _ _]
    rfl
  refine ⟨(Arm.Op.cmp r (.reg chkTmp)).exec (s.cpu.set chkTmp v), ?_, ?_⟩
  · intro r' hr'
    exact Function.update_of_ne hr' _ _
  · rw [hz] at h3
    refine (h1.trans h2).trans ?_
    by_cases hv : s.cpu.regs r = v
    · simpa [hv] using h3
    · simpa [hv, failLine] using h3

/-- The registers are compared one after the other. -/
lemma registers_checked {state : CpuState} {rs : List Reg} (hrs : ∀ r ∈ rs, r ≠ chkTmp)
    (hat : At T.lines q (rs.flatMap fun i => chkReg (state.r i) i)) (hlo : p ≤ q)
    (hend : q + 3 * rs.length = p + n) (hout : p + n ≤ failLine T) (hpc : s.pc = .line q)
    (hisa : s.isARM = T.isARM) :
    ((∀ r ∈ rs, s.cpu.regs r = state.r r) → T.LeavesAt p n s (p + n)) ∧
      ((¬ ∀ r ∈ rs, s.cpu.regs r = state.r r) → T.LeavesAt p n s (failLine T)) := by
  induction rs generalizing q s with
  | nil =>
    have hq : q = p + n := by simpa using hend
    refine ⟨fun _ => ⟨s, .refl, Arm.not_inside_of_pc hpc (.inr hq.ge), ?_⟩, ?_⟩
    · rw [hpc, hq]
    · intro h
      exact absurd (by simp) h
  | cons r rs ih =>
    rw [List.flatMap_cons, at_append] at hat
    rw [List.length_cons] at hend
    have hr : r ≠ chkTmp := hrs r List.mem_cons_self
    obtain ⟨cpu, hregs, hrun⟩ := chkReg_compares hat.1 hr hlo (n := n) (by omega) hpc hisa
    -- the comparison has changed no register that is still to be checked
    have hsame : (∀ r' ∈ rs, cpu.regs r' = state.r r') ↔ ∀ r' ∈ rs, s.cpu.regs r' = state.r r' :=
      forall₂_congr fun r' hr' => by rw [hregs r' (hrs r' (List.mem_cons_of_mem _ hr'))]
    by_cases hv : s.cpu.regs r = state.r r
    · rw [if_pos hv] at hrun
      have hrest := ih (q := q + 3) (s := { s with pc := .line (q + 3), cpu := cpu })
        (fun r' hr' => hrs r' (List.mem_cons_of_mem _ hr')) hat.2 (by omega) (by omega) rfl hisa
      rw [List.forall_mem_cons, ← hsame]
      exact ⟨fun h => .of_runsIn hrun (hrest.1 h.2),
        fun h => .of_runsIn hrun (hrest.2 fun h' => h ⟨hv, h'⟩)⟩
    · rw [if_neg hv] at hrun
      refine ⟨fun h => absurd (h r List.mem_cons_self) hv, fun _ => ?_⟩
      exact ⟨_, hrun, Arm.not_inside_of_pc rfl (.inr hout), rfl⟩

end Parts

/-! ## The whole check -/

lemma mem_chkRegs_iff {r : Reg} : r ∈ chkRegs ↔ r ≠ 4 ∧ r ≠ 15 := by
  revert r
  decide

omit [DecidableEq L] in
lemma length_genChkCode (state : CpuState) :
    (genChkCode state : List (Arm.Line (ExitLabel L))).length = 4 + 3 * chkRegs.length := by
  rw [genChkCode, List.length_append, List.length_map, List.length_flatMap]
  rfl

omit [DecidableEq L] in
lemma label_notMem_genChkCode (state : CpuState) (l : ExitLabel L) :
    Arm.Line.label l ∉ genChkCode state := by
  simp [genChkCode, chkReg]

/-- Where the check stands in the file that `addChkCode` writes. -/
lemma addChkCode_content (E : ExitText L) (chk : List (Arm.Line (ExitLabel L))) :
    addChkCode E.content chk =
      (E.test ++ [.label .exit] ++ chk ++ E.pass) ++ .label .failexit :: E.fail := by
  have hidx : E.content.idxOf (.label .exit) = E.test.length := by
    rw [ExitText.content, List.append_assoc, List.idxOf_append_of_notMem E.exit_notMem,
      List.cons_append, List.idxOf_cons_self, Nat.add_zero]
  have hsplit : E.content =
      (E.test ++ [.label .exit]) ++ (E.pass ++ .label .failexit :: E.fail) := by
    simp [ExitText.content]
  rw [addChkCode, hidx, hsplit, List.take_left' (by simp), List.drop_left' (by simp)]
  simp

/-- The self-check falls through exactly for the recorded state, and goes to `failexit` for every
other one. -/
theorem genChkCode_exact (E : ExitText L) (state : CpuState) {T : Arm.Text (ExitLabel L)}
    (hT : T.lines = addChkCode E.content (genChkCode state)) (hARM : T.isARM = true)
    {s : Arm.State} (hpc : s.pc = .line (E.test.length + 1)) (hisa : s.isARM = true) :
    let check := E.test.length + 1
    let len := (genChkCode state : List (Arm.Line (ExitLabel L))).length
    (T.LeavesAt check len s (check + len) ↔ state.Matches s.cpu) ∧
      (¬ state.Matches s.cpu → T.LeavesAt check len s (T.lines.idxOf (.label .failexit))) := by
  intro check len
  have hlines := hT.trans (addChkCode_content E _)
  have hlen : len = 4 + 3 * chkRegs.length := length_genChkCode state
  have hat : At T.lines check (genChkCode state) := by
    have hall := at_zero T.lines
    nth_rewrite 2 [hlines] at hall
    rw [List.append_assoc, List.append_assoc] at hall
    simpa [check] using (at_append.1 (at_append.1 hall).2).1
  have hfail : check + len < failLine T := by
    have hnotMem : Arm.Line.label ExitLabel.failexit ∉
        E.test ++ [.label .exit] ++ genChkCode state ++ E.pass := by
      have := E.failexit_notMem
      simp only [List.mem_append, not_or] at this ⊢
      exact ⟨⟨⟨this.1, by simp⟩, label_notMem_genChkCode state _⟩, this.2⟩
    rw [failLine, hlines, List.idxOf_append_of_notMem hnotMem, List.idxOf_cons_self]
    have hpass := List.length_pos_iff.2 E.pass_ne_nil
    simp only [List.length_append, List.length_singleton, check, len]
    omega
  rw [genChkCode, at_append, List.length_map] at hat
  have hisa' : s.isARM = T.isARM := hisa.trans hARM.symm
  have hcc : (chkConds state.psr).length = 4 := rfl
  -- the flags first; they are tested before the first comparison
  have hflags : ¬ state.FlagsMatch s.cpu.apsr → T.LeavesAt check len s (failLine T) := by
    intro h
    rw [← forall_chkConds_iff] at h
    exact branches_fail hat.1 le_rfl (by omega) hfail.le hpc hisa' h
  have hregs : state.FlagsMatch s.cpu.apsr →
      ((∀ r ∈ chkRegs, s.cpu.regs r = state.r r) → T.LeavesAt check len s (check + len)) ∧
      ((¬ ∀ r ∈ chkRegs, s.cpu.regs r = state.r r) → T.LeavesAt check len s (failLine T)) := by
    intro h
    have hrun := branches_pass hat.1 le_rfl (n := len) (by omega) hpc hisa'
      ((forall_chkConds_iff state _).2 h)
    have hrest := registers_checked (s := { s with pc := .line (check + 4) })
      (fun r hr => (mem_chkRegs_iff.1 hr).1) hat.2 (by omega) (by omega) hfail.le rfl hisa'
    exact ⟨fun h' => .of_runsIn hrun (hrest.1 h'), fun h' => .of_runsIn hrun (hrest.2 h')⟩
  have hmatch : state.Matches s.cpu ↔
      state.FlagsMatch s.cpu.apsr ∧ ∀ r ∈ chkRegs, s.cpu.regs r = state.r r := by
    simp only [mem_chkRegs_iff, and_imp]
    exact ⟨fun h => ⟨h.flags, h.regs⟩, fun h => ⟨h.1, h.2⟩⟩
  have hbad : ¬ state.Matches s.cpu → T.LeavesAt check len s (failLine T) := by
    intro h
    rw [hmatch, not_and] at h
    by_cases hf : state.FlagsMatch s.cpu.apsr
    · exact (hregs hf).2 (h hf)
    · exact hflags hf
  refine ⟨⟨fun h => ?_, fun h => ?_⟩, hbad⟩
  · by_contra hne
    have := h.unique (hbad hne)
    omega
  · rw [hmatch] at h
    exact (hregs h.1).1 h.2

/-- A file with nothing but the end of a test. -/
def bareExit : ExitText Empty where
  test := []
  pass := [.op none .nop]
  fail := []
  exit_notMem := by simp
  failexit_notMem := by simp
  pass_ne_nil := by simp

/-- A recorded state in which every register is zero and only Z is set. -/
def zeroRecord : CpuState := ⟨0x40000000, fun _ => 0⟩

/-- The core at `exit` with the value `v` in `r14`. -/
def coreAtExit (v : Arm.Word) : Arm.State where
  pc := .line 1
  isARM := true
  cpu := ⟨fun r => if r = 14 then v else 0, ⟨false, true, false, false, false, 0⟩, fun _ => 0⟩
  answers := fun _ => true
  attempts := 0

theorem genChkCode_exact_zeroRecord :
    let T := Arm.Text.assemble (addChkCode bareExit.content (genChkCode zeroRecord)) true 0
    T.LeavesAt 1 46 (coreAtExit 0) 47 ∧
      T.LeavesAt 1 46 (coreAtExit 1) (T.lines.idxOf (.label .failexit)) := by
  intro T
  refine ⟨(genChkCode_exact bareExit zeroRecord (T := T) rfl rfl rfl rfl).1.2 ⟨by decide, ?_⟩,
    (genChkCode_exact bareExit zeroRecord (T := T) rfl rfl rfl rfl).2 fun h => ?_⟩
  · intro r _ _
    exact ite_self 0
  · exact absurd (h.regs 14 (by decide) (by decide)) (by decide)

end Rit.Art
