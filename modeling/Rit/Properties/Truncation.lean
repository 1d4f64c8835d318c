import Rit.Properties.Registers

/-!
# The report of truncated register numbers

A Thumb field of three bits cannot hold a register above `r7`.  `set_opnd_bits` passes the number
it is about to write to `chk_3bit_reg`, which raises `is_reg_bit_cut`, and `gen_instr` then adds
`0xFFFF0000` to `cur_fixed_bit`.

`regWrites` lists the register numbers `set_opnd_bits` writes for a row: the width of the field,
the number, and whether the option for this kind of register is on, which is when the check is
made at all.  The check itself tests `reg_val | 0x8`, which no number fails, so what the flag says
is that some narrow field was checked, not that a number was cut.
-/

namespace Rit

open GenState

/-! ## The register numbers written -/

/-- A register number on its way into an operand field. -/
structure RegWrite where
  width : ℕ
  number : Word
  /-- The option for this kind of register is on. -/
  asked : Bool
  deriving DecidableEq, Repr

/-- The field has no room for the registers above `r7`. -/
def RegWrite.Narrow (r : RegWrite) : Prop := r.width < 4

instance (r : RegWrite) : Decidable r.Narrow := inferInstanceAs (Decidable (r.width < 4))

/-- The register number `set_opnd_bits` writes for one operand. -/
def regWrite (op : Opcode) (side : OpndSide) (o : GenOption) (regIdx : ℕ) (opnd : Opnd) :
    Option RegWrite :=
  match opndTypeOf opnd with
  | .gpr | .gprSet | .fpsr | .fpdr | .fpqr | .fpdsr | .fpqdr | .gprRw =>
    if regIdx < MAX_REG_NUM ∧ ¬ isFixedOprand op opnd.startBit opnd.endBit then
      some ⟨opnd.endBit - opnd.startBit + 1, side.regs o regIdx, o.getOptStat side.optReg⟩
    else none
  | .shiftReg | .rotateReg =>
    if isFixedOprand op opnd.startBit opnd.endBit then none
    else some ⟨opnd.endBit - opnd.startBit + 1, o.shiftRotateReg, o.getOptStat .shrtReg⟩
  | .gprMerge =>
    if regIdx < MAX_REG_NUM ∧ ¬ isFixedOprand op opnd.bit1 opnd.bit1 ∧
        ¬ isFixedOprand op opnd.startBit opnd.endBit then
      -- the top bit of the number has a place of its own
      some ⟨opnd.endBit - opnd.startBit + 2, side.regs o regIdx, o.getOptStat side.optReg⟩
    else none
  | _ => none

/-- The register numbers written for a list of operands, from a register index on. -/
def regWritesFrom (op : Opcode) (side : OpndSide) (o : GenOption) : ℕ → List Opnd → List RegWrite
  | _, [] => []
  | regIdx, opnd :: opnds =>
    (regWrite op side o regIdx opnd).toList ++
      regWritesFrom op side o (regIdx + if consumes op opnd then 1 else 0) opnds

/-- The register numbers `gen_instr` writes: none for a pseudo row, which it leaves early. -/
def regWrites (op : Opcode) (o : GenOption) : List RegWrite :=
  if (glbInstrTlb op).opKind = .pseudoOp then []
  else
    regWritesFrom op .src o 0 (glbInstrTlb op).inputs ++
      regWritesFrom op .dst o 0 (glbInstrTlb op).outputs

/-! ## The check -/

/-- The action raises `is_reg_bit_cut`: the number it checks plays no part. -/
def OpndAction.flags : OpndAction → Bool
  | .chk3bit regBits _ => regBits < 4
  | _ => false

/-- No number passes the test `reg_val | 0x8`. -/
lemma or_eight_ne_zero (v : Word) : v ||| 0x8 ≠ 0 := by
  intro h
  have hbit := congrArg (fun w : Word => w.getLsbD 3) h
  simp at hbit

lemma OpndAction.run_isRegBitCut (s : GenState) (a : OpndAction) :
    (a.run s).isRegBitCut = (s.isRegBitCut || a.flags) := by
  cases a with
  | fixedBit startBit endBit =>
    simp only [run, setInstrFixedBit, flags, Bool.or_false]
    split <;> rfl
  | chk3bit regBits regVal =>
    simp only [run, chk3bitReg, flags, or_eight_ne_zero regVal, ne_eq, not_false_eq_true,
      and_true]
    cases hcut : s.isRegBitCut
    · by_cases hbits : regBits < 4 <;> simp [hbits, hcut]
    · simp [hcut]
  | write lowBit highBit newVal => simp [run, flags, setRawInstr]

lemma foldl_run_isRegBitCut (acts : List OpndAction) (s : GenState) :
    (acts.foldl OpndAction.run s).isRegBitCut =
      (s.isRegBitCut || acts.any OpndAction.flags) := by
  induction acts generalizing s with
  | nil => simp
  | cons a acts ih =>
    rw [List.foldl_cons, ih, OpndAction.run_isRegBitCut, List.any_cons, Bool.or_assoc]

/-- The write is checked and raises the flag. -/
def RegWrite.flags (r : RegWrite) : Bool := r.width < 4 && r.asked

/-- Statements under a test that raise no flag. -/
lemma any_flags_ite {p : Prop} [Decidable p] {acts : List OpndAction}
    (h : acts.any OpndAction.flags = false) :
    (if p then acts else []).any OpndAction.flags = false := by
  split
  · exact h
  · rfl

/-- The statements before a write: under the option, the request is recorded and the number
checked. -/
lemma any_flags_checked {asked : Bool} {p : Prop} [Decidable p] {acts : List OpndAction}
    (h : acts.any OpndAction.flags = false) (bits : ℕ) (v : Word) :
    (if asked then (if p then acts else []) ++ [.chk3bit bits v] else []).any OpndAction.flags =
      RegWrite.flags ⟨bits, v, asked⟩ := by
  cases asked
  · simp [RegWrite.flags]
  · rw [if_pos rfl, List.any_append, any_flags_ite h]
    simp [OpndAction.flags, RegWrite.flags]

/-- One operand raises the flag iff the number it writes is checked and its field narrow. -/
lemma any_flags_opndActions (op : Opcode) (side : OpndSide) (o shadow : GenOption) (regIdx : ℕ)
    (opnd : Opnd) :
    (opndActions op side o shadow regIdx opnd).1.any OpndAction.flags =
      (regWrite op side o regIdx opnd).toList.any RegWrite.flags := by
  have hshift (lo hi : ℕ) (val : Word) :
      (shiftTypeActions op o shadow lo hi val).any OpndAction.flags = false := by
    unfold shiftTypeActions
    split <;> try split
    all_goals rfl
  have hplain (k : OptionKind) (val : Word) :
      (plainActions op o opnd k val).any OpndAction.flags = false := by
    unfold plainActions
    split <;> try split
    all_goals rfl
  have hexp (iBitPos immStart immEnd : ℕ) :
      (expActions op o opnd iBitPos immStart immEnd).any OpndAction.flags = false := by
    unfold expActions
    split
    · dsimp only
      split <;> rfl
    · rfl
  unfold opndActions regWrite
  cases ht : opndTypeOf opnd
  case gpr | gprSet | gprRw | fpsr | fpdr | fpqr | fpdsr | fpqdr =>
    dsimp only
    split
    · have hext {p q : Prop} [Decidable p] [Decidable q] (bit : ℕ) (val : Word) :
          (if p then (if q then [.fixedBit bit bit] else []) ++ [.write bit bit val]
            else []).any OpndAction.flags = false := by
        refine any_flags_ite ?_
        rw [List.any_append, any_flags_ite rfl]
        rfl
      rw [regActions, List.any_append, List.any_append, List.any_append, any_flags_checked rfl,
        hext, hext]
      simp [OpndAction.flags]
    · rfl
  case shiftReg | rotateReg =>
    dsimp only
    rw [List.any_append, hshift, Bool.or_false]
    split
    · rfl
    · rw [List.any_append, any_flags_checked rfl]
      simp [OpndAction.flags]
  case gprMerge =>
    dsimp only
    split
    · rw [mergeActions, List.any_append, any_flags_checked rfl]
      simp [OpndAction.flags]
    · rfl
  case shiftImm =>
    dsimp only
    rw [List.any_append, hplain, hshift]
    rfl
  case shiftImmT =>
    dsimp only
    rw [List.any_append, List.any_append, hshift, hshift]
    split <;> try split
    all_goals rfl
  case immMerge | immVfpExpand =>
    dsimp only
    split <;> try split
    all_goals rfl
  case immThumbExp | immSimdExp => exact hexp _ _ _
  case imm | immArmExp | immSignExtend | gprList | gprListT | cond => exact hplain _ _
  all_goals rfl

/-! ## The flag after the stages -/

lemma OpndAction.run_options (s : GenState) (a : OpndAction) : (a.run s).options = s.options := by
  cases a with
  | fixedBit startBit endBit => exact (sets_setInstrFixedBit 0 startBit endBit s).options
  | chk3bit regBits regVal => exact (sets_chk3bitReg 0 regBits regVal s).options
  | write lowBit highBit newVal => rfl

lemma setOpnd_options (op : Opcode) (side : OpndSide) (acc : ℕ × GenState) (opnd : Opnd) :
    (setOpnd op side acc opnd).2.options = acc.2.options := by
  simp only [setOpnd]
  generalize (opndActions op side acc.2.options acc.2.shadowOptions acc.1 opnd).1 = acts
  generalize acc.2 = s
  induction acts generalizing s with
  | nil => rfl
  | cons a acts ih => rw [List.foldl_cons, ih, OpndAction.run_options]

/-- The loop of `set_opnd_bits` raises the flag iff one of its writes does. -/
lemma foldl_setOpnd_isRegBitCut {op : Opcode} {side : OpndSide} (opnds : List Opnd)
    (acc : ℕ × GenState) (hlen : acc.1 + opnds.length ≤ MAX_REG_NUM) :
    (opnds.foldl (setOpnd op side) acc).2.isRegBitCut =
      (acc.2.isRegBitCut ||
        (regWritesFrom op side acc.2.options acc.1 opnds).any RegWrite.flags) := by
  -- the register index stays in range, so that the loop reads the entries `regWritesFrom` reads
  induction opnds generalizing acc with
  | nil => simp [regWritesFrom]
  | cons o opnds ih =>
    simp only [List.length_cons] at hlen
    have hidx : (setOpnd op side acc o).1 = _ :=
      setOpnd_fst (show acc.1 < MAX_REG_NUM by omega) o
    have hle : (setOpnd op side acc o).1 + opnds.length ≤ MAX_REG_NUM := by
      rw [hidx]
      split <;> omega
    have hcut : (setOpnd op side acc o).2.isRegBitCut =
        (acc.2.isRegBitCut ||
          (regWrite op side acc.2.options acc.1 o).toList.any RegWrite.flags) := by
      rw [← any_flags_opndActions op side _ acc.2.shadowOptions]
      exact foldl_run_isRegBitCut _ _
    rw [List.foldl_cons, ih _ hle, hcut, setOpnd_options, hidx, regWritesFrom, List.any_append,
      Bool.or_assoc]

lemma setOpndBits_isRegBitCut (op : Opcode) (side : OpndSide) (s : GenState) :
    (setOpndBits op side s).isRegBitCut =
      (s.isRegBitCut ||
        (regWritesFrom op side s.options 0 (side.opnds (glbInstrTlb op))).any RegWrite.flags) := by
  refine foldl_setOpnd_isRegBitCut _ (0, s) ?_
  cases side <;> simp [OpndSide.opnds, InstrDesc.inputs, InstrDesc.outputs, MAX_REG_NUM]

lemma setInstrFixedBit_isRegBitCut (startBit endBit : ℕ) (s : GenState) :
    (setInstrFixedBit startBit endBit s).isRegBitCut = s.isRegBitCut := by
  unfold setInstrFixedBit
  split <;> rfl

lemma setSbit_isRegBitCut (op : Opcode) (s : GenState) :
    (setSbit op s).isRegBitCut = s.isRegBitCut := by
  unfold setSbit
  split
  · dsimp only
    split <;> split <;> simp [setRawInstr, setInstrFixedBit_isRegBitCut]
  · rfl

lemma setArmCondBits_isRegBitCut (op : Opcode) (s : GenState) :
    (setArmCondBits op s).isRegBitCut = s.isRegBitCut := by
  have hencode : (encodeCond s).isRegBitCut = s.isRegBitCut := by
    unfold encodeCond
    split
    · dsimp only
      split <;> simp [setRawInstr, setInstrFixedBit_isRegBitCut]
    · rfl
  have hclear (s : GenState) : (clearNeverCond s).isRegBitCut = s.isRegBitCut := by
    unfold clearNeverCond
    split <;> rfl
  unfold setArmCondBits
  split
  · rw [hclear, hencode]
  · rfl

lemma takeOrig_isRegBitCut (s : GenState) : (takeOrig s).2.isRegBitCut = s.isRegBitCut := by
  unfold takeOrig
  split <;> rfl

/-- After `gen_instr` the flag is up iff a narrow register field was written whose option is
on. -/
lemma genInstr_isRegBitCut {op : Opcode} (hop : op < SISA_OP_MAX) (s : GenState) :
    (genInstr op s).2.isRegBitCut = (regWrites op s.options).any RegWrite.flags := by
  unfold regWrites
  by_cases hpseudo : (glbInstrTlb op).opKind = .pseudoOp
  · rw [genInstr, if_pos hpseudo, if_pos hpseudo]
    rfl
  · have hsrc : (setSrcOpndBits op (setArmCondBits op (setSbit op (beginInstr s)))).options =
        s.options := by
      rw [setSrcOpndBits, (setOpndBits_sets hop .src _).options,
        (setArmCondBits_sets op _).options, (setSbit_sets op _).options]
      rfl
    have hstages : (operandStages op (beginInstr s)).isRegBitCut =
        (regWritesFrom op .src s.options 0 (glbInstrTlb op).inputs ++
          regWritesFrom op .dst s.options 0 (glbInstrTlb op).outputs).any RegWrite.flags := by
      rw [operandStages, setDstOpndBits, setOpndBits_isRegBitCut, hsrc, setSrcOpndBits,
        setOpndBits_isRegBitCut, setArmCondBits_isRegBitCut, setSbit_isRegBitCut,
        (setArmCondBits_sets op _).options, (setSbit_sets op _).options, List.any_append]
      rfl
    rw [if_neg hpseudo, genInstr_eq hpseudo, ← hstages,
      ← takeOrig_isRegBitCut (operandStages op (beginInstr s))]
    exact (validate_writes op (preValidate op s)).isRegBitCut

/-- The flag of truncated register numbers tells the truth on exactly these requests: either no
narrow register field belongs to an option that is on and none is given a number above seven, or
there is one of each.  The number above seven and the option need not meet in one field. -/
theorem genInstr_isRegBitCut_exact_iff {op : Opcode} (hop : op < SISA_OP_MAX) (s : GenState) :
    ((genInstr op s).2.isRegBitCut = true ↔
        ∃ r ∈ regWrites op s.options, r.Narrow ∧ 7 < r.number) ↔
      ((∃ r ∈ regWrites op s.options, r.Narrow ∧ r.asked = true) ↔
        ∃ r ∈ regWrites op s.options, r.Narrow ∧ 7 < r.number) := by
  have hflag : (genInstr op s).2.isRegBitCut = true ↔
      ∃ r ∈ regWrites op s.options, r.Narrow ∧ r.asked = true := by
    rw [genInstr_isRegBitCut hop, List.any_eq_true]
    simp only [RegWrite.flags, RegWrite.Narrow, Bool.and_eq_true, decide_eq_true_eq]
  rw [hflag]

/-- A request that names the source registers, all of them the same. -/
def sourceState (n : Word) : GenState :=
  { sampleState with
    options := { sampleState.options.setOptStat .sreg with srcRegs := fun _ => n } }

/-- `mul` with the source `r9` asked for: the number is cut to `r1` and the flag says so. -/
theorem genInstr_MUL_cut :
    Op.MUL_reg_T1 < SISA_OP_MAX ∧
      ((genInstr Op.MUL_reg_T1 (sourceState 9)).2.isRegBitCut = true ↔
        ∃ r ∈ regWrites Op.MUL_reg_T1 (sourceState 9).options, r.Narrow ∧ 7 < r.number) :=
  ⟨by decide, (genInstr_isRegBitCut_exact_iff (by decide) (sourceState 9)).2 (by decide +kernel)⟩

/-- `mul` with the source `r1` asked for: the flag is up and no number was cut.  With the sources
left to chance and drawn as `r9`, a number is cut and the flag stays down. -/
theorem genInstr_MUL_not_exact :
    ((genInstr Op.MUL_reg_T1 (sourceState 1)).2.isRegBitCut = true ∧
      (genInstr Op.MUL_reg_T1 (sourceState 1)).2.curFixedBit = 0xFFFF0000 ∧
      ¬ ∃ r ∈ regWrites Op.MUL_reg_T1 (sourceState 1).options, r.Narrow ∧ 7 < r.number) ∧
    ((genInstr Op.MUL_reg_T1 { sourceState 9 with
        options := { (sourceState 9).options with optStatus := 0 } }).2.isRegBitCut = false ∧
      ∃ r ∈ regWrites Op.MUL_reg_T1 { (sourceState 9).options with optStatus := 0 },
        r.Narrow ∧ 7 < r.number) := by
  decide +kernel

end Rit
