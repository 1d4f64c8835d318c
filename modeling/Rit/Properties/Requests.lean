import Mathlib.Tactic.Ring
import Rit.Art.Generate

/-!
# The number of requests

How often the generators ask for an instruction, whatever the answers are.  Each loop makes at most
`limit` times its patience rounds.  A round of `genInstrs` makes one request, or the requests of an
IT block: at most four instructions, each looked for at most eight times, and each time by a
`genInstrs` for one instruction, which asks for no IT block itself.

`Keeps` lists what is needed to carry a property of the answers to what `genInstrs` and `genThumbIT`
return; the number of requests is the case where nothing is asked of the answers.
-/

namespace Rit.Art.Generate

open Draw PyStr Query

/-! ## What the rounds keep -/

/-- An instruction that `genITInstr` accepts. -/
def Fit (inv : List ParsedInst → Prop) (i : ParsedInst) : Prop :=
  inv [i] ∧ validInIT [i] = .ok true

/-- A property of lists of instructions that answers have, and that is kept when lists are put
together and when an IT block is made of single instructions. -/
structure Keeps (isa : Bool) (good : Request → Answer → Prop) (inv : List ParsedInst → Prop) :
    Prop where
  nil : inv []
  append : ∀ {l l'}, inv l → inv l' → inv (l ++ l')
  answer : ∀ {kind cond sbit srcReg dstReg ret},
    good (.opkind isa kind cond sbit srcReg dstReg true) (.ok ret) → inv (ret.getD [])
  block : ∀ {instr : List ParsedInst} {n : ℕ}, (∀ i ∈ instr, Fit inv i) → instr.length ≤ n →
    n ≤ 4 → Query.Within good 0 (itBlock instr n) fun ret => inv (ret.getD [])

/-- A part that neither draws nor asks. -/
lemma orRaise_within {good : Request → Answer → Prop} {α : Type} (a : Except PyErr α) :
    Query.Within good 0 (orRaise a) fun v => a = .ok v := by
  cases a with
  | ok a => exact .pure rfl
  | error e => exact .throw e

lemma request_within {good : Request → Answer → Prop} {x : Request}
    {post : List ParsedInst → Prop} (h : ∀ ret, good x (.ok ret) → post (ret.getD [])) :
    Query.Within good 1 (request x) post := by
  unfold request
  have hask : Query.Within good 1 (ask x : Fill Answer) fun a =>
      ∀ ret, a = .ok ret → post (ret.getD []) := .ask fun a ha ret hret => h ret (hret ▸ ha)
  refine hask.bind_free fun ret hret => ?_
  cases ret with
  | ok ret => exact .pure (hret ret rfl)
  | error e => exact .throw e

lemma itNum_ensures (n : Option ℕ) : Ensures (itNum n) (· ≤ 4) := by
  have hdraw : Ensures (do let k ← randint 1 4; pure k.1 : Gen Unit ℕ) (· ≤ 4) :=
    .bind_any fun k => .pure k.2.2
  cases n with
  | none => exact hdraw
  | some n => exact .ite (fun _ => hdraw) fun hn => .pure (by omega)

namespace Keeps

variable {isa : Bool} {good : Request → Answer → Prop} {inv : List ParsedInst → Prop}
variable (h : Keeps isa good inv) (o : Options) (opkind : List Opkind) (ropts : Ropts)
include h

lemma collect {limit patience k : ℕ} {round : Fill (Round ParsedInst)} {inst : List ParsedInst}
    (hround : Query.Within good k round fun x => inv x.ret ∧ inv x.extra) (hinst : inv inst) :
    Query.Within good (limit * max 1 patience * k) (collect limit patience round ⟨0, 0⟩ inst)
      inv := by
  have hretry : 0 < max 1 patience := Nat.lt_of_lt_of_le Nat.one_pos (Nat.le_max_left 1 patience)
  exact Query.Within.collect hround (fun _ _ hl hx => h.append (h.append hl hx.1) hx.2) ⟨0, 0⟩
    hretry hinst

/-- A round of `genInstrs` that asks for one instruction. -/
lemma single : Query.Within good 1 (do
    let ropkind ← draws (choiceOpkind opkind)
    let x ← draws (extOptions ropts)
    let ret ← request (.opkind isa ropkind x.cond x.sbit x.srcReg x.dstReg true)
    pure (Round.ofList ret) : Fill (Round ParsedInst)) fun x => inv x.ret ∧ inv x.extra := by
  refine .draws_bind fun ropkind => .draws_bind fun x => ?_
  exact (request_within fun ret => h.answer).bind_free fun ret hret => .pure ⟨hret, h.nil⟩

/-- For a few instructions, no IT block is asked for. -/
lemma genInstrs_few {limit : ℕ} (hlimit : limit ≤ 5) :
    Query.Within good (limit * max 1 o.maxretry) (genInstrs o isa opkind ropts limit) inv := by
  rw [genInstrs, ← Nat.mul_one (limit * max 1 o.maxretry)]
  refine h.collect (.draws_bind fun genIt => ?_) h.nil
  have hno : genIt.1 ≠ true := fun hit => absurd (genIt.2 hit).2 (Nat.not_lt.2 hlimit)
  rw [dif_neg hno]
  exact h.single opkind ropts

/-- `genITInstr` returns an instruction that it accepts, or none. -/
lemma genITInstr (retry : ℕ) :
    Query.Within good ((8 - retry) * max 1 o.maxretry) (genITInstr o isa opkind ropts retry)
      fun l => l.length ≤ 1 ∧ ∀ i ∈ l, Fit inv i := by
  induction hk : 8 - retry using Nat.strongRecOn generalizing retry with
  | ind k ih =>
    rw [Generate.genITInstr]
    split
    · rename_i hretry
      have hone := h.genInstrs_few o opkind ropts (show 1 ≤ 5 by decide)
      have hrest : ∀ d ≥ 1, Query.Within good ((k - 1) * max 1 o.maxretry)
          (Generate.genITInstr o isa opkind ropts (retry + d))
          fun l => l.length ≤ 1 ∧ ∀ i ∈ l, Fit inv i := by
        intro d hd
        refine (ih (8 - (retry + d)) (by omega) (retry + d) rfl).mono_left ?_
        exact Nat.mul_le_mul_right _ (by omega)
      have hsum : 1 * max 1 o.maxretry + (k - 1) * max 1 o.maxretry = k * max 1 o.maxretry := by
        rw [← Nat.add_mul]
        congr 1
        omega
      rw [← hsum]
      -- no instruction costs one round more, a wrong one two
      refine hone.bind fun rinstr hrinstr => .ite (fun _ => hrest 1 (by decide)) fun _ => ?_
      refine (orRaise_within _).free_bind fun valid hvalid =>
        .ite (fun htrue => .pure ?_) fun _ => hrest 2 (by decide)
      rw [htrue] at hvalid
      match rinstr with
      | [] => cases hvalid
      | [i] => exact ⟨le_rfl, by simpa using ⟨hrinstr, hvalid⟩⟩
      | _ :: _ :: _ => cases hvalid
    · exact .pure ⟨by simp, by simp⟩

lemma genITInstrs (n : ℕ) {instr : List ParsedInst} (hinstr : ∀ i ∈ instr, Fit inv i) :
    Query.Within good (n * (8 * max 1 o.maxretry)) (genITInstrs o isa opkind ropts n instr)
      fun l => l.length ≤ instr.length + n ∧ ∀ i ∈ l, Fit inv i := by
  induction n generalizing instr with
  | zero =>
    rw [Generate.genITInstrs]
    exact .pure ⟨le_rfl, hinstr⟩
  | succ n ih =>
    rw [Generate.genITInstrs, Nat.add_mul, Nat.one_mul, Nat.add_comm]
    refine (h.genITInstr o opkind ropts 0).bind fun rinstr hrinstr => ?_
    have hall : ∀ i ∈ instr ++ rinstr, Fit inv i := by
      intro i hi
      rcases List.mem_append.1 hi with hi | hi
      · exact hinstr i hi
      · exact hrinstr.2 i hi
    refine (ih hall).mono le_rfl fun l hl => ⟨?_, hl.2⟩
    have hlen := hl.1
    rw [List.length_append] at hlen
    have hone := hrinstr.1
    omega

/-- A block of at most four instructions. -/
lemma genThumbIT (n : Option ℕ) :
    Query.Within good (32 * max 1 o.maxretry) (genThumbIT o isa opkind ropts n)
      fun ret => inv (ret.getD []) := by
  rw [Generate.genThumbIT]
  refine (Query.Within.draws_of (itNum_ensures n)).free_bind fun k hk => ?_
  refine (((h.genITInstrs o opkind ropts k (by simp)).bind_free fun instr hinstr =>
    h.block hinstr.2 (by simpa using hinstr.1) hk).mono_left ?_)
  calc k * (8 * max 1 o.maxretry) ≤ 4 * (8 * max 1 o.maxretry) := Nat.mul_le_mul_right _ hk
    _ = 32 * max 1 o.maxretry := by omega

lemma genInstrs (limit : ℕ) :
    Query.Within good (limit * max 1 o.maxretry * (32 * max 1 o.maxretry))
      (genInstrs o isa opkind ropts limit) inv := by
  rw [Generate.genInstrs]
  have hone : 1 ≤ 32 * max 1 o.maxretry := by omega
  refine h.collect (.draws_bind fun genIt => ?_) h.nil
  split
  · refine .draws_bind fun n => ?_
    exact (h.genThumbIT o opkind ropts (some n.1)).bind_free fun ret hret => .pure ⟨hret, h.nil⟩
  · exact (h.single opkind ropts).mono_left hone

end Keeps

/-! ## Any answer -/

/-- Any answer will do. -/
def anyAnswer (_ : Request) (_ : Answer) : Prop := True

/-- The program asks at most `n` times. -/
abbrev Asks {α : Type} (n : ℕ) (m : Fill α) : Prop := Query.Within anyAnswer n m fun _ => True

lemma asks_request (x : Request) : Asks 1 (request x) := request_within fun _ _ => trivial

lemma asks_itBlock (instr : List ParsedInst) (n : ℕ) : Asks 0 (itBlock instr n) := by
  unfold itBlock
  refine .ite (fun _ => .pure trivial) fun _ => ?_
  refine .draws_bind fun firstcond => .draws_bind fun mask => ?_
  exact (orRaise_within _).free_bind fun entries _ => .pure trivial

lemma keeps_any (isa : Bool) : Keeps isa anyAnswer fun _ => True where
  nil := trivial
  append _ _ := trivial
  answer _ := trivial
  block _ _ _ := asks_itBlock _ _

section

variable (o : Options) (isa : Bool) (ropts : Ropts)

/-! ## Memory, multiplications and shifts -/

lemma asks_genMemInstrs (reg : Option ℕ) (limit : ℕ) :
    Asks (limit * (o.maxretry + 1)) (genMemInstrs o isa reg ropts limit) := by
  have hmax : limit * (o.maxretry + 1) = limit * max 1 (o.maxretry + 1) * 1 := by
    rw [Nat.mul_one, Nat.max_eq_right (by omega)]
  unfold genMemInstrs
  rw [hmax]
  refine .draws_bind fun inst => (keeps_any isa).collect ?_ trivial
  refine .draws_bind fun x => .draws_bind fun opkind => .draws_bind fun dstReg => ?_
  exact (asks_request _).bind_free fun ret _ => .pure ⟨trivial, trivial⟩

lemma asks_genMulShiftInstrs (limit : ℕ) :
    Asks (limit * (o.maxretry + 1)) (genMulShiftInstrs o isa ropts limit) := by
  have hmax : limit * (o.maxretry + 1) = limit * max 1 (o.maxretry + 1) * 1 := by
    rw [Nat.mul_one, Nat.max_eq_right (by omega)]
  unfold genMulShiftInstrs
  rw [hmax]
  refine (keeps_any isa).collect (.draws_bind fun genMul => .draws_bind fun x => ?_) trivial
  have hrest : ∀ ret : List ParsedInst, Query.Within anyAnswer 0 (do
      let rval ← draws (randint 0 100)
      let fixinst ← draws
        (Draw.drawIf (80 < rval.1) (reinitGeneralRegs isa "bv_general".toList 512) [])
      pure (mulShiftRound ret fixinst) : Fill (Round ParsedInst)) fun _ => True ∧ True := by
    intro ret
    exact .draws_bind fun rval => .draws_bind fun fixinst => .pure ⟨trivial, trivial⟩
  dsimp only
  refine .ite (fun _ => ?_) fun _ => ?_
  · refine .draws_bind fun ropkind => ?_
    exact (asks_request _).bind_free fun ret _ => hrest ret
  · refine .draws_bind fun ropcode => ?_
    exact (asks_request _).bind_free fun ret _ => hrest ret

end

/-- Whatever the requests return or raise, each generator ends after a bounded number of them. -/
theorem generators_asked_le (o : Options) (isa : Bool) (ropts : Ropts) (limit : ℕ)
    (t : Tape Request Answer) :
    (∀ opkind, (runOn (genInstrs o isa opkind ropts limit) t).2.asked ≤
      t.asked + 32 * limit * max 1 o.maxretry ^ 2) ∧
    (∀ reg, (runOn (genMemInstrs o isa reg ropts limit) t).2.asked ≤
      t.asked + limit * (o.maxretry + 1)) ∧
    (runOn (genMulShiftInstrs o isa ropts limit) t).2.asked ≤
      t.asked + limit * (o.maxretry + 1) := by
  have hgood : t.Good anyAnswer := fun _ _ => trivial
  refine ⟨fun opkind => ?_, fun reg => ?_, ?_⟩
  · have h := ((keeps_any isa).genInstrs o opkind ropts limit t hgood).2.1
    have hbound : limit * max 1 o.maxretry * (32 * max 1 o.maxretry) =
        32 * limit * max 1 o.maxretry ^ 2 := by ring
    rwa [hbound] at h
  · exact (asks_genMemInstrs o isa ropts reg limit t hgood).2.1
  · exact (asks_genMulShiftInstrs o isa ropts limit t hgood).2.1

end Rit.Art.Generate
