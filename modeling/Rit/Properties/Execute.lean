import Rit.Properties.Helper

/-!
# Executing the emitted lines

The lines around a generated word are instructions of their own: they give registers their initial
values, force the bits of a base register or load an offset.  Here they are read as instructions of
the core and executed one after the other; the word itself is not part of this.

`gen_oprand_init_instrs` goes from `r14` down to `r0`, and a high register in Thumb state is loaded
through `r0`.  A register that has its value is therefore only in danger from later lines if it is
`r0`, and `r0` comes last.
-/

namespace Rit

open GenState

/-! ## The meaning of a line -/

/-- The register a line names. -/
def asmReg (v : Word) : Arm.Reg := Fin.ofNat 16 v.toNat

/-- The instruction of a line, with `memData` the address of the label `mem_data`.  The generated
word has none here. -/
def Asm.op? (memData : Word) : Asm → Option Arm.Op
  | .ldr rd val => some (.ldrConst (asmReg rd) val)
  | .ldrW rd val => some (.ldrConst (asmReg rd) val)
  | .ldrMemData rd => some (.ldrConst (asmReg rd) memData)
  | .mov rd rm => some (.mov (asmReg rd) (.reg (asmReg rm)))
  | .add rd rn rm => some (.alu .add (asmReg rd) (asmReg rn) (.reg (asmReg rm)))
  | .bicImm rd rn imm => some (.alu .bic (asmReg rd) (asmReg rn) (.imm imm))
  | .bicThree rd rn => some (.alu .bic (asmReg rd) (asmReg rn) (.imm 3))
  | .bic rd rm => some (.alu .bic (asmReg rd) (asmReg rd) (.reg (asmReg rm)))
  | .bics rd rm => some (.alus .bic (asmReg rd) (asmReg rd) (.reg (asmReg rm)))
  | .orrImm rd rn imm => some (.alu .orr (asmReg rd) (asmReg rn) (.imm imm))
  | .orr rd rm => some (.alu .orr (asmReg rd) (asmReg rd) (.reg (asmReg rm)))
  | .orrs rd rm => some (.alus .orr (asmReg rd) (asmReg rd) (.reg (asmReg rm)))
  | .inst _ | .instN _ | .instW _ => none

/-- Execute a line. -/
def execLine (memData : Word) (c : Arm.Cpu) (l : Line) : Arm.Cpu :=
  (l.asm?.bind (Asm.op? memData)).elim c (Arm.Op.exec c)

/-- Execute some lines in order. -/
def execLines (memData : Word) (c : Arm.Cpu) (ls : List Line) : Arm.Cpu :=
  ls.foldl (execLine memData) c

section

variable (memData : Word) (c : Arm.Cpu)

@[simp] lemma execLines_nil : execLines memData c [] = c := rfl

@[simp] lemma execLines_cons (l : Line) (ls : List Line) :
    execLines memData c (l :: ls) = execLines memData (execLine memData c l) ls := rfl

@[simp] lemma execLines_append (ls ls' : List Line) :
    execLines memData c (ls ++ ls') = execLines memData (execLines memData c ls) ls' :=
  List.foldl_append

/-- A constant is loaded. -/
@[simp] lemma regs_execLine_ldr (rd val : Word) :
    (execLine memData c (.code (.ldr rd val))).regs = Function.update c.regs (asmReg rd) val := rfl

@[simp] lemma regs_execLine_mov (rd rm : Word) :
    (execLine memData c (.code (.mov rd rm))).regs =
      Function.update c.regs (asmReg rd) (c.regs (asmReg rm)) := rfl

end

/-! ## Initial values of the operands -/

section OprandInit

variable {s : GenState} {memData : Word} {c : Arm.Cpu}

lemma asmReg_ofNat {r : ℕ} (hr : r < 15) : asmReg (.ofNat 32 r) = Fin.ofNat 16 r := by
  unfold asmReg
  rw [BitVec.toNat_ofNat, Nat.mod_eq_of_lt (show r < 2 ^ 32 by omega)]

/-- The lines for a marked register give it its value. -/
lemma execLines_oprandInitLines_self {r : ℕ} (hr : r < 15) (hinit : s.isRegInit r = true) :
    (execLines memData c (oprandInitLines s r)).regs (Fin.ofNat 16 r) = s.regInitVals r := by
  unfold oprandInitLines
  rw [if_pos hinit]
  split
  · rw [execLines_cons, execLines_cons, execLines_nil, regs_execLine_mov, asmReg_ofNat hr,
      Function.update_self, regs_execLine_ldr]
    exact Function.update_self _ _ _
  · rw [execLines_cons, execLines_nil, regs_execLine_ldr, asmReg_ofNat hr, Function.update_self]

/-- Beside that register they change at most `r0`. -/
lemma execLines_oprandInitLines_of_ne {r : ℕ} (hr : r < 15) {k : Arm.Reg} (hk : k ≠ 0)
    (hkr : k ≠ Fin.ofNat 16 r) : (execLines memData c (oprandInitLines s r)).regs k = c.regs k := by
  unfold oprandInitLines
  have hzero : asmReg 0 = 0 := rfl
  split
  · split
    · rw [execLines_cons, execLines_cons, execLines_nil, regs_execLine_mov, asmReg_ofNat hr,
        Function.update_of_ne hkr, regs_execLine_ldr, hzero, Function.update_of_ne hk]
    · rw [execLines_cons, execLines_nil, regs_execLine_ldr, asmReg_ofNat hr,
        Function.update_of_ne hkr]
  · rfl

/-- The lines for the registers below `n` leave the others alone, except `r0`. -/
lemma execLines_below_of_le {n : ℕ} (hn : n ≤ 15) {k : ℕ} (hk : k < 15) (hpos : k ≠ 0)
    (hle : n ≤ k) :
    (execLines memData c ((List.range n).reverse.flatMap (oprandInitLines s))).regs
      (Fin.ofNat 16 k) = c.regs (Fin.ofNat 16 k) := by
  have hval {i : ℕ} (hi : i < 15) : (Fin.ofNat 16 i : Arm.Reg).val = i :=
    Nat.mod_eq_of_lt (by omega)
  induction n generalizing c with
  | zero => rfl
  | succ n ih =>
    have hzero : (Fin.ofNat 16 k : Arm.Reg) ≠ 0 := by
      rw [Ne, Fin.ext_iff, hval hk]
      exact hpos
    have hne : (Fin.ofNat 16 k : Arm.Reg) ≠ Fin.ofNat 16 n := by
      rw [Ne, Fin.ext_iff, hval hk, hval (by omega)]
      omega
    rw [List.range_succ, List.reverse_append, List.reverse_singleton, List.singleton_append,
      List.flatMap_cons, execLines_append, ih (by omega) (by omega),
      execLines_oprandInitLines_of_ne (by omega) hzero hne]

/-- The invariant of the descending loop, from any state: the marked registers below `n` have
their values once the lines for them are executed. -/
lemma execLines_below {n : ℕ} (hn : n ≤ 15) {r : ℕ} (hr : r < n) (hinit : s.isRegInit r = true) :
    (execLines memData c ((List.range n).reverse.flatMap (oprandInitLines s))).regs
      (Fin.ofNat 16 r) = s.regInitVals r := by
  induction n generalizing c with
  | zero => omega
  | succ n ih =>
    rw [List.range_succ, List.reverse_append, List.reverse_singleton, List.singleton_append,
      List.flatMap_cons, execLines_append]
    rcases Nat.lt_succ_iff_lt_or_eq.mp hr with hlt | rfl
    · exact ih (by omega) hlt
    -- `r` is the register just loaded: nothing follows if it is `r0`, otherwise no line changes it
    · rcases Nat.eq_zero_or_pos r with rfl | hpos
      · exact execLines_oprandInitLines_self (by omega) hinit
      · rw [execLines_below_of_le (by omega) (by omega) (by omega) le_rfl]
        exact execLines_oprandInitLines_self (by omega) hinit

/-- Executing what `gen_oprand_init_instrs` emits, from any state of the core, leaves every marked
register with its entry of `reg_init_vals`: also `r0` where it served as the scratch register. -/
theorem execLines_genOprandInitInstrs (s : GenState) (memData : Word) (c : Arm.Cpu) {r : ℕ}
    (hr : r < 15) (hinit : s.isRegInit r = true) :
    (execLines memData c (genOprandInitInstrs s).initInstrBuf).regs (Fin.ofNat 16 r) =
      s.regInitVals r :=
  execLines_below le_rfl hr hinit

/-- `r0` and `r9` are marked in Thumb state, so that `r0` is target and scratch register. -/
def scratchState : GenState :=
  { staticState (fun _ => 0) fun _ => 0 with
    options := { initOptions with isa := .thumb }
    isRegInit := fun r => r = 0 ∨ r = 9
    regInitVals := fun r => if r = 0 then 0x80000000 else 0x7fffffff }

/-- A core with all registers, flags and bytes zero. -/
def zeroCpu : Arm.Cpu := ⟨fun _ => 0, ⟨false, false, false, false, false, 0⟩, fun _ => 0⟩

/-- The value that passed through `r0` on its way to `r9` is gone at the end. -/
theorem execLines_genOprandInitInstrs_scratch :
    (genOprandInitInstrs scratchState).initInstrBuf =
        [.code (.ldr 0 0x7fffffff), .code (.mov 9 0), .code (.ldr 0 0x80000000)] ∧
      (execLines 0 zeroCpu (genOprandInitInstrs scratchState).initInstrBuf).regs (Fin.ofNat 16 0) =
        0x80000000 :=
  ⟨by decide, execLines_genOprandInitInstrs scratchState 0 zeroCpu (by decide) rfl⟩

end OprandInit

/-! ## The base register -/

/-- The register an instruction writes. -/
def Asm.rd? : Asm → Option Word
  | .ldr rd _ | .ldrW rd _ | .ldrMemData rd | .mov rd _ | .add rd _ _ | .bicImm rd _ _
  | .bicThree rd _ | .bic rd _ | .bics rd _ | .orrImm rd _ _ | .orr rd _ | .orrs rd _ => some rd
  | .inst _ | .instN _ | .instW _ => none

/-- The registers some lines write. -/
def written (ls : List Line) : List Arm.Reg :=
  ls.filterMap fun l => (l.asm?.bind Asm.rd?).map asmReg

/-- A line whose tag is `[INST]`. -/
def Line.isInst : Line → Bool
  | .inst _ => true
  | _ => false

/-- A line changes its destination register and no memory. -/
lemma execLine_frame (memData : Word) (c : Arm.Cpu) (l : Line) :
    (∀ k ∉ written [l], (execLine memData c l).regs k = c.regs k) ∧
      (execLine memData c l).mem = c.mem := by
  cases l with
  | instInfo text => exact ⟨fun k _ => rfl, rfl⟩
  | code asm | inst asm =>
    cases asm
    case inst | instN | instW => exact ⟨fun k _ => rfl, rfl⟩
    all_goals
      refine ⟨fun k hk => ?_, rfl⟩
      simp only [written, Line.asm?, Asm.rd?, List.filterMap_cons, List.filterMap_nil,
        Option.bind_some, Option.map_some, List.mem_singleton] at hk
      exact Function.update_of_ne hk _ _

/-- Lines change only the registers they write, and no memory. -/
lemma execLines_frame (memData : Word) (c : Arm.Cpu) (ls : List Line) :
    (∀ k ∉ written ls, (execLines memData c ls).regs k = c.regs k) ∧
      (execLines memData c ls).mem = c.mem := by
  induction ls generalizing c with
  | nil => exact ⟨fun k _ => rfl, rfl⟩
  | cons l ls ih =>
    obtain ⟨hregs, hmem⟩ := execLine_frame memData c l
    obtain ⟨hregs', hmem'⟩ := ih (execLine memData c l)
    have hsplit : written ([l] ++ ls) = written [l] ++ written ls := List.filterMap_append
    refine ⟨fun k hk => ?_, hmem'.trans hmem⟩
    rw [← List.singleton_append, hsplit, List.mem_append, not_or] at hk
    exact (hregs' k hk.2).trans (hregs k hk.1)

section FixMemBase

variable (o : GenOption) (forceAlign : Bool)

/-- The lines of `fix_mem_base` that clear and set bits of the register `base`. -/
def forceBits (base tmpReg : Word) : List Line :=
  if o.isa = .thumb then
    [.code (.ldr tmpReg (unsetMask o forceAlign)), .code (.bics base tmpReg),
      .code (.ldr tmpReg (setMask o)), .code (.orrs base tmpReg)]
  else
    (if isImmEncodable o (unsetMask o forceAlign) then
        [.code (.bicImm base base (unsetMask o forceAlign))]
      else [.code (.ldr tmpReg (unsetMask o forceAlign)), .code (.bic base tmpReg)]) ++
    (if isImmEncodable o (setMask o) then [.code (.orrImm base base (setMask o))]
      else [.code (.ldr tmpReg (setMask o)), .code (.orr base tmpReg)])

/-- The line that clears the low two bits. -/
def alignBits (base : Word) : List Line :=
  if forceAlign then [.inst (.bicThree base base)] else []

variable {o forceAlign}

/-- A high base register in Thumb state is worked on in `r2`. -/
lemma fixMemBaseLines_eq {regBase : Word} (hr : regBase < 15) :
    fixMemBaseLines o regBase forceAlign =
      if o.isa = .thumb ∧ regBase > 7 then
        [.inst (.mov 2 regBase)] ++ (forceBits o forceAlign 2 0 ++ alignBits forceAlign 2) ++
          [.inst (.mov regBase 2)]
      else
        forceBits o forceAlign regBase (if regBase ≠ 0 then 0 else 1) ++
          alignBits forceAlign regBase := by
  have hpc : regBase ≠ R_PC := by
    rintro rfl
    exact absurd hr (by decide)
  unfold fixMemBaseLines
  by_cases hvia : o.isa = .thumb ∧ regBase > 7
  · have hzero : regBase ≠ 0 := by
      rintro rfl
      exact absurd hvia.2 (by decide)
    have htwo : (2 : Word) ≠ R_PC := by decide
    simp only [hvia, hzero, htwo, and_self, ne_eq, not_false_eq_true, decide_true, if_true,
      if_false, List.append_assoc]
    rw [forceBits, if_pos hvia.1]
    rfl
  · simp only [hvia, hpc, decide_false, Bool.false_eq_true, if_false, List.nil_append]
    have hlow : ¬ (o.isa = .thumb ∧ (0 : Word) > 7) := fun h => absurd h.2 (by decide)
    rw [if_neg hlow, List.append_nil]
    rfl

variable {memData : Word} {c : Arm.Cpu}

/-- What the lines compute in the register they work on. -/
lemma regs_forceBits {base tmpReg : Word} (hne : asmReg base ≠ asmReg tmpReg) :
    (execLines memData c (forceBits o forceAlign base tmpReg)).regs (asmReg base) =
      (c.regs (asmReg base) &&& ~~~unsetMask o forceAlign) ||| setMask o := by
  have hclear (ls : List Line) (mask : Word) (c : Arm.Cpu)
      (h : ls = [.code (.bicImm base base mask)] ∨
        ls = [.code (.ldr tmpReg mask), .code (.bic base tmpReg)] ∨
        ls = [.code (.ldr tmpReg mask), .code (.bics base tmpReg)]) :
      (execLines memData c ls).regs (asmReg base) = c.regs (asmReg base) &&& ~~~mask := by
    rcases h with rfl | rfl | rfl
    all_goals simp [execLine, Line.asm?, Asm.op?, Arm.Op.exec, Arm.Cpu.set, Arm.Alu.value,
      Arm.Operand.value, hne]
  have hset (ls : List Line) (mask : Word) (c : Arm.Cpu)
      (h : ls = [.code (.orrImm base base mask)] ∨
        ls = [.code (.ldr tmpReg mask), .code (.orr base tmpReg)] ∨
        ls = [.code (.ldr tmpReg mask), .code (.orrs base tmpReg)]) :
      (execLines memData c ls).regs (asmReg base) = c.regs (asmReg base) ||| mask := by
    rcases h with rfl | rfl | rfl
    all_goals simp [execLine, Line.asm?, Asm.op?, Arm.Op.exec, Arm.Cpu.set, Arm.Alu.value,
      Arm.Operand.value, hne]
  unfold forceBits
  split
  · rw [← hclear _ _ c (.inr (.inr rfl)), ← hset _ _ _ (.inr (.inr rfl))]
    rfl
  · rw [execLines_append, hset _ (setMask o), hclear _ (unsetMask o forceAlign)]
    · split
      · exact .inl rfl
      · exact .inr (.inl rfl)
    · split
      · exact .inl rfl
      · exact .inr (.inl rfl)

/-- The copies to and from `r2`. -/
lemma regs_copy (rd rm : Word) :
    (execLines memData c [.inst (.mov rd rm)]).regs (asmReg rd) = c.regs (asmReg rm) :=
  Function.update_self (β := fun _ => Word) (asmReg rd) (c.regs (asmReg rm)) c.regs

lemma regs_alignBits (base : Word) :
    (execLines memData c (alignBits forceAlign base)).regs (asmReg base) =
      if forceAlign then c.regs (asmReg base) &&& ~~~3 else c.regs (asmReg base) := by
  unfold alignBits
  split
  · exact Function.update_self _ _ _
  · rfl

/-- What executing the lines of `fix_mem_base` does to the core: `x` and `x'` are the base register
before and after. -/
structure BaseForced (o : GenOption) (forceAlign : Bool) (x x' : Word) : Prop where
  forced : (x' ^^^ o.memBaseVal) &&& o.memBaseMask &&& (if forceAlign then ~~~3 else ~~~0) = 0
  aligned : forceAlign = true → x' &&& 3 = 0
  rest : (x' ^^^ x) &&& ~~~(o.memBaseMask ||| if forceAlign then 3 else 0) = 0

/-- The value computed by the lines, the low two bits cleared if they are to be, is as it should
be.  This is a statement about each bit. -/
lemma baseForced_value (x : Word) :
    BaseForced o forceAlign x
      (if forceAlign then ((x &&& ~~~unsetMask o forceAlign) ||| setMask o) &&& ~~~3
        else (x &&& ~~~unsetMask o forceAlign) ||| setMask o) := by
  have hzero (i : ℕ) : (0 : Word).getLsbD i = false := BitVec.getLsbD_zero
  unfold unsetMask setMask
  cases forceAlign
  · refine ⟨?_, fun h => (Bool.false_ne_true h).elim, ?_⟩
    all_goals
      apply BitVec.eq_of_getLsbD_eq
      intro i hi
      simp only [Bool.false_eq_true, if_false, BitVec.getLsbD_and, BitVec.getLsbD_or,
        BitVec.getLsbD_xor, BitVec.getLsbD_not, hzero, hi, decide_true, Bool.true_and]
      cases x.getLsbD i <;> cases o.memBaseVal.getLsbD i <;> cases o.memBaseMask.getLsbD i <;> rfl
  · refine ⟨?_, fun _ => ?_, ?_⟩
    all_goals
      apply BitVec.eq_of_getLsbD_eq
      intro i hi
      simp only [if_true, BitVec.getLsbD_and, BitVec.getLsbD_or,
        BitVec.getLsbD_xor, BitVec.getLsbD_not, hzero, hi, decide_true, Bool.true_and]
      cases x.getLsbD i <;> cases o.memBaseVal.getLsbD i <;> cases o.memBaseMask.getLsbD i <;>
        cases (3 : Word).getLsbD i <;> rfl

/-- The working register after clearing, setting and aligning. -/
lemma regs_forceBits_alignBits {base tmpReg : Word} (hne : asmReg base ≠ asmReg tmpReg) :
    BaseForced o forceAlign (c.regs (asmReg base))
      ((execLines memData c (forceBits o forceAlign base tmpReg ++ alignBits forceAlign base)).regs
        (asmReg base)) := by
  rw [execLines_append, regs_alignBits, regs_forceBits hne]
  exact baseForced_value _

lemma asmReg_ne {v v' : Word} (hv : v < 16) (hv' : v' < 16) (h : v ≠ v') :
    asmReg v ≠ asmReg v' := by
  intro heq
  have hval := congrArg Fin.val heq
  simp only [asmReg, Fin.ofNat] at hval
  bv_omega

/-- The scratch register is another than the base. -/
lemma asmReg_ne_scratch {regBase : Word} (hr : regBase < 15) :
    asmReg regBase ≠ asmReg (if regBase ≠ 0 then 0 else 1) := by
  refine asmReg_ne (by bv_omega) ?_ ?_
  · split <;> decide
  · split
    · assumption
    · rename_i hzero
      rw [not_not.mp hzero]
      decide

/-- Executed in order, all lines of `fix_mem_base` force the base register. -/
lemma baseForced_fixMemBaseLines {regBase : Word} (hr : regBase < 15) :
    BaseForced o forceAlign (c.regs (asmReg regBase))
      ((execLines memData c (fixMemBaseLines o regBase forceAlign)).regs (asmReg regBase)) := by
  rw [fixMemBaseLines_eq hr]
  split
  · rename_i hvia
    -- copy to `r2`, work there, copy back
    have hne : asmReg 2 ≠ asmReg 0 := by decide
    have hcopy : (execLines memData c [.inst (.mov 2 regBase)]).regs (asmReg 2) =
        c.regs (asmReg regBase) := regs_copy 2 regBase
    rw [execLines_append, execLines_append, regs_copy, ← hcopy]
    exact regs_forceBits_alignBits hne
  · exact regs_forceBits_alignBits (asmReg_ne_scratch hr)

/-- Only the base register and some of `r0` to `r2` are written. -/
lemma written_fixMemBaseLines {regBase : Word} (hr : regBase < 15) {k : Arm.Reg}
    (hk : k ∈ written (fixMemBaseLines o regBase forceAlign)) : k = asmReg regBase ∨ k ≤ 2 := by
  have hforce {base tmpReg : Word} (h : k ∈ written (forceBits o forceAlign base tmpReg ++
      alignBits forceAlign base)) : k = asmReg base ∨ k = asmReg tmpReg := by
    simp only [written, forceBits, alignBits] at h
    split_ifs at h <;> simp [Line.asm?, Asm.rd?] at h <;> tauto
  rw [fixMemBaseLines_eq hr] at hk
  split_ifs at hk with hvia hzero
  · have hsplit : written ([.inst (.mov 2 regBase)] ++
        (forceBits o forceAlign 2 0 ++ alignBits forceAlign 2) ++ [.inst (.mov regBase 2)]) =
        asmReg 2 :: written (forceBits o forceAlign 2 0 ++ alignBits forceAlign 2) ++
          [asmReg regBase] := by
      simp only [written, List.filterMap_append]
      rfl
    rw [hsplit, List.cons_append, List.mem_cons, List.mem_append, List.mem_singleton] at hk
    rcases hk with rfl | hk | rfl
    · exact .inr (by decide)
    · rcases hforce hk with rfl | rfl <;> exact .inr (by decide)
    · exact .inl rfl
  all_goals
    rcases hforce hk with rfl | rfl
    · exact .inl rfl
    · exact .inr (by decide)

/-- The lines that stay when the fix-up code is dropped. -/
lemma filter_isInst_fixMemBaseLines {regBase : Word} (hr : regBase < 15) :
    (fixMemBaseLines o regBase forceAlign).filter Line.isInst =
      if o.isa = .thumb ∧ regBase > 7 then
        [.inst (.mov 2 regBase)] ++ alignBits forceAlign 2 ++ [.inst (.mov regBase 2)]
      else alignBits forceAlign regBase := by
  have hforce (base tmpReg : Word) :
      (forceBits o forceAlign base tmpReg).filter Line.isInst = [] := by
    unfold forceBits
    split_ifs <;> rfl
  have halign (base : Word) :
      (alignBits forceAlign base).filter Line.isInst = alignBits forceAlign base := by
    unfold alignBits
    split_ifs <;> rfl
  rw [fixMemBaseLines_eq hr]
  split_ifs
  all_goals
    simp only [List.filter_append, hforce, halign, List.nil_append]
    try rfl

/-- They leave the base register as it is, or clear its low two bits. -/
lemma regs_filter_isInst {regBase : Word} (hr : regBase < 15) :
    (execLines memData c ((fixMemBaseLines o regBase forceAlign).filter Line.isInst)).regs
        (asmReg regBase) =
      if forceAlign then c.regs (asmReg regBase) &&& ~~~3 else c.regs (asmReg regBase) := by
  rw [filter_isInst_fixMemBaseLines hr]
  by_cases hvia : o.isa = .thumb ∧ regBase > 7
  · rw [if_pos hvia, execLines_append, execLines_append, regs_copy, regs_alignBits, regs_copy]
  · rw [if_neg hvia, regs_alignBits]

end FixMemBase

/-- The prelude of `fix_mem_base` does what it is for, executed from any state: the base register
gets the bits of `mem_base_val` under `mem_base_mask` (and two low zeros if they are forced) and
keeps the others; beside it only some of `r0` to `r2` that the lines write change, and no memory.
The lines tagged `[INST]` alone leave the base register as it is or clear its low two bits. -/
theorem execLines_fixMemBaseLines (o : GenOption) {regBase : Word} (hr : regBase < 15)
    (forceAlign : Bool) (memData : Word) (c : Arm.Cpu) :
    BaseForced o forceAlign (c.regs (asmReg regBase))
        ((execLines memData c (fixMemBaseLines o regBase forceAlign)).regs (asmReg regBase)) ∧
      (∀ k, k ≠ asmReg regBase →
        (execLines memData c (fixMemBaseLines o regBase forceAlign)).regs k ≠ c.regs k →
        k ≤ 2 ∧ k ∈ written (fixMemBaseLines o regBase forceAlign)) ∧
      (execLines memData c (fixMemBaseLines o regBase forceAlign)).mem = c.mem ∧
      ((execLines memData c ((fixMemBaseLines o regBase forceAlign).filter Line.isInst)).regs
          (asmReg regBase) = c.regs (asmReg regBase) ∨
        (execLines memData c ((fixMemBaseLines o regBase forceAlign).filter Line.isInst)).regs
          (asmReg regBase) = c.regs (asmReg regBase) &&& ~~~3) := by
  obtain ⟨hregs, hmem⟩ := execLines_frame memData c (fixMemBaseLines o regBase forceAlign)
  refine ⟨baseForced_fixMemBaseLines hr, fun k hbase hchanged => ?_, hmem, ?_⟩
  · have hk : k ∈ written (fixMemBaseLines o regBase forceAlign) := by
      by_contra hk
      exact hchanged (hregs k hk)
    exact ⟨(written_fixMemBaseLines hr hk).resolve_left hbase, hk⟩
  · rw [regs_filter_isInst hr]
    cases forceAlign
    · exact .inl rfl
    · exact .inr rfl

/-- The stack pointer as a base in Thumb state, which is worked on in `r2`. -/
theorem execLines_fixMemBaseLines_sp :
    (13 : Word) < 15 ∧
      BaseForced { initOptions with isa := .thumb } true (zeroCpu.regs (asmReg 13))
        ((execLines 0 zeroCpu
          (fixMemBaseLines { initOptions with isa := .thumb } 13 true)).regs (asmReg 13)) :=
  ⟨by decide, (execLines_fixMemBaseLines { initOptions with isa := .thumb } (by decide) true 0
    zeroCpu).1⟩

end Rit
