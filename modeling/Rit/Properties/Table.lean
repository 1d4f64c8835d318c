import Rit.NewSrc.GenInstr

/-!
# What the proofs need from the instruction table

Most results below quantify over every row of `glb_instr_tlb`, and rest on facts about the rows
that hold by inspection only: where the operand fields lie, which rows a validator names, which
bits the fix-up touches.  This file defines the notions these facts are phrased in (fields and
masks of operands, groups of opcodes) and decides them: `rowCheck` once over all rows, the rest
over the opcodes a list of the source names.
-/

namespace Rit

open BitField

/-! ## Groups of opcodes -/

def ldmOps : List Opcode := [Op.LDM, Op.LDMDA, Op.LDMDB, Op.LDMIB]
def stmOps : List Opcode := [Op.STM, Op.STMDA, Op.STMDB, Op.STMIB]
def pushOps : List Opcode := [Op.PUSH_a1, Op.PUSH_a2]
def popOps : List Opcode := [Op.POP_a1, Op.POP_a2]
def ldexOps : List Opcode := [Op.LDREX, Op.LDREXD, Op.LDREXB, Op.LDREXH]
def stexOps : List Opcode := [Op.STREX, Op.STREXD, Op.STREXB, Op.STREXH]

def armEmptyOps : List Opcode :=
  [Op.NOP, Op.YIELD, Op.WFE, Op.WFI, Op.SEV, Op.DBG, Op.CLREX, Op.DSB, Op.DMB, Op.ISB]

def barrierOps : List Opcode := [Op.DSB, Op.DMB, Op.ISB]

/-- The kinds `gen_data_instr` handles. -/
def OpKind.isData : OpKind → Bool
  | .aluOp | .logOp | .movOp | .cmpOp | .testOp => true
  | _ => false

/-- The opcodes of a kind that the ARM dispatch sends to one list. -/
def armKindOps : OpKind → Option (List Opcode)
  | .ldmOp => some ldmOps
  | .stmOp => some stmOps
  | .pushOp => some pushOps
  | .popOp => some popOps
  | .ldrexOp => some ldexOps
  | .strexOp => some stexOps
  | .emptyOp => some armEmptyOps
  | _ => none

/-- The ARM opcodes that get the low two bits of their offset cleared. -/
def alignOps : List Opcode := [Op.LDRD_imm, Op.STRD_imm, Op.LDRD_lit]

/-! ## Operand fields -/

/-- The field of an operand lies below bit 31, where the mask expressions are exact. -/
def Opnd.Ok (o : Opnd) : Prop := o.startBit ≤ o.endBit ∧ o.endBit < 31

instance (o : Opnd) : Decidable o.Ok := inferInstanceAs (Decidable (_ ∧ _))

/-- The bits of an operand's main field. -/
def Opnd.mask (o : Opnd) : Word := span 32 o.startBit o.endBit

/-- The operand's field is well formed and lies under `m`. -/
def Opnd.Under (m : Word) (o : Opnd) : Prop := o.Ok ∧ o.mask &&& m = o.mask

instance (m : Word) (o : Opnd) : Decidable (o.Under m) := inferInstanceAs (Decidable (_ ∧ _))

lemma Opnd.Under.mono {m m' : Word} {o : Opnd} (h : o.Under m) (hm : m &&& m' = m) :
    o.Under m' := by
  refine ⟨h.1, ?_⟩
  rw [← h.2, BitVec.and_assoc, hm]

/-- The fields `set_opnd_bits` can write an operand to. -/
def opndFields (op : Opcode) (opnd : Opnd) : List (ℕ × ℕ) :=
  let main := (opnd.startBit, opnd.endBit)
  match opndTypeOf opnd with
  | .gpr | .gprSet | .gprRw | .gprList | .gprListT | .imm | .immArmExp | .immSignExtend | .cond =>
    [main]
  | .fpsr | .fpdr | .fpqr | .gprMerge => [main, (opnd.bit1, opnd.bit1)]
  | .fpdsr | .fpqdr => [main, (opnd.bit1, opnd.bit1), (opnd.bit2, opnd.bit2)]
  | .shiftReg | .rotateReg | .shiftImm | .immMerge | .immVfpExpand =>
    [main, (opnd.bit1, opnd.bit2)]
  | .shiftImmT =>
    [main, (2 * opnd.startBit, 2 * opnd.endBit), (opnd.bit1, opnd.bit1), (opnd.bit2, opnd.bit2)]
  | .immThumbExp => [main, (12, 14), (26, 26)]
  | .immSimdExp =>
    let iBitPos := if op ≥ SISA_OP_ARM_MAX then 28 else 24
    [main, (16, 18), (iBitPos, iBitPos)]
  | _ => []

/-- The bits of the free ones among some fields. -/
def freeFieldsMask (op : Opcode) (fields : List (ℕ × ℕ)) : Word :=
  union ((fields.filter fun p => !isFixedOprand op p.1 p.2).map fun p => span 32 p.1 p.2)

/-- The bits `set_opnd_bits` may write for one operand. -/
def opndMask (op : Opcode) (opnd : Opnd) : Word := freeFieldsMask op (opndFields op opnd)

/-- The bits `set_opnd_bits` may write. -/
def opndsMask (op : Opcode) (opnds : List Opnd) : Word := union (opnds.map (opndMask op))

/-- The main fields of the operands that the match mask leaves free. -/
def freeOpndMask (row : InstrDesc) : Word :=
  union (((row.outputs ++ row.inputs).filter fun o =>
    o.mask &&& row.matchMsk = 0#32).map Opnd.mask)

/-! ## Register operands -/

/-- The operand types that name one general-purpose register by a field of the word. -/
def OpndType.isGpr : OpndType → Bool
  | .gpr | .gprRw | .gprSet | .gprMerge => true
  | _ => false

/-- Whether the operand takes an entry of the register array. -/
def consumes (op : Opcode) (opnd : Opnd) : Bool :=
  match opndTypeOf opnd with
  | .gpr | .gprSet | .fpsr | .fpdr | .fpqr | .fpdsr | .fpqdr | .gprRw =>
    !isFixedOprand op opnd.startBit opnd.endBit
  | .gprMerge =>
    !isFixedOprand op opnd.bit1 opnd.bit1 && !isFixedOprand op opnd.startBit opnd.endBit
  | _ => false

/-- The bits `get_regnum` reads. -/
def Opnd.regMask (o : Opnd) : Word :=
  if o.type = .gprMerge then o.mask ||| span 32 o.bit1 o.bit1 else o.mask

/-- The number of bits of the register number. -/
def Opnd.regWidth (o : Opnd) : ℕ :=
  if o.type = .gprMerge then o.endBit - o.startBit + 2 else o.endBit - o.startBit + 1

/-- A merged register number has three low bits and its top bit elsewhere. -/
def Opnd.mergeOk (o : Opnd) : Bool :=
  o.type != .gprMerge || (o.endBit == o.startBit + 2 && o.bit1.blt 31 &&
    (o.bit1.blt o.startBit || o.endBit.blt o.bit1))

/-! ## Biased operands -/

/-- The operands `gen_data_instr` biases, by the types of the row's slots. -/
def dataBiasOpnds (row : InstrDesc) : List Opnd :=
  if row.input2.type = .shiftReg then
    if row.output0.type ≠ .none then [row.output0, row.input0, row.input1, row.input2]
    else [row.input0, row.input1, row.input2]
  else if row.input2.type = .shiftImm then
    if row.output0.type ≠ .none then [row.output0, row.input0, row.input1]
    else [row.input0, row.input1]
  else if row.input2.type = .none then
    if row.input1.type = .shiftReg then [row.output0, row.input0, row.input1]
    else if row.input1.type = .shiftImm then [row.output0, row.input0]
    else if row.input1.type = .immArmExp ∧ row.output0.type ≠ .none then
      [row.output0, row.input0]
    else []
  else []

/-- The opcodes that bias the destination and the first source. -/
def pairOps : List Opcode := [Op.SWP, Op.SWPB, Op.CLZ, Op.SBFX, Op.UBFX]

/-- The opcodes that bias the destination and two sources. -/
def tripleOps : List Opcode := Op.PKH :: Op.USAD8 :: mulOps ++ extAddOps ++ parallelOps

/-- The opcodes that bias the destination and three sources. -/
def quadOps : List Opcode := Op.USADA8 :: mlaOps

/-- The slots that hold the biased registers, for the opcodes that name them. -/
def biasSlots : List (List Opcode × (InstrDesc → List Opnd)) :=
  [(pairOps, fun row => [row.output0, row.input0]),
    (satOps, fun row => [row.output0, row.input0]),
    (extOps, fun row => [row.output0]),
    ([Op.BFI], fun row => [row.output0, row.input2]),
    (tripleOps, fun row => [row.output0, row.input0, row.input1]),
    (quadOps, fun row => [row.output0, row.input0, row.input1, row.input2]),
    (mulLongOps, fun row => [row.output0, row.output1, row.input0, row.input1])]

/-- The low two bits of the word, which a dual access gets cleared. -/
def alignMask : Word := span 32 0 1

/-- The bits a validator rewrites without being asked to bias: the low bits of a dual offset
and the second copy of a register. -/
def rewriteMask (op : Opcode) : Word :=
  if op ∈ alignOps then alignMask else if op ∈ thumb32MiscOps then span 32 16 19 else 0

/-! ## Bits the fix-up writes -/

namespace FixAction

/-- The positions are in order and end below bit 31. -/
def Ok : FixAction → Bool
  | .setBits startBit endBit | .clearBits startBit endBit => startBit ≤ endBit && endBit < 31
  | .setBit bit | .clearBit bit => bit < 31

/-- The bits the action writes. -/
def mask : FixAction → Word
  | .setBits startBit endBit | .clearBits startBit endBit => span 32 startBit endBit
  | .setBit bit | .clearBit bit => span 32 bit bit

/-- The value it gives them. -/
def bitVal : FixAction → Bool
  | .setBits _ _ | .setBit _ => true
  | .clearBits _ _ | .clearBit _ => false

end FixAction

/-- The bits the fix-up of an opcode writes. -/
def fixMask (op : Opcode) : Word := union ((fixActions op).map FixAction.mask)

/-! ## Rows with a fixed condition, and rows no word matches -/

/-- The match mask leaves the condition field free, or the row has none. -/
def condFree (op : Opcode) : Prop :=
  SISA_OP_ARM_MAX ≤ op ∨ (glbInstrTlb op).matchMsk &&& condMask = 0#32

instance (op : Opcode) : Decidable (condFree op) := inferInstanceAs (Decidable (_ ∨ _))

/-- The kinds of the rows with a fixed condition. -/
def uncondKinds : List OpKind := [.emptyOp, .noOp, .jmpOp, .simdOp, .sysOp]

/-- The rows whose match value has a bit outside their match mask: the mask of these rows of
`Thumb_32.def` reads `0xfe800f50` where the value needs bit 24, `0xef800f50`. -/
def strayBitRows : List Opcode :=
  [Op.VQRSHRN_T1, Op.VMLAL_int_T2, Op.VMLSL_int_T2, Op.VMULL_int_T2, Op.VMULL_poly_T2]

/-! ## Facts about the opcodes a list names -/

/-- What the fix-up of an opcode respects: it agrees with the match value on the match mask, and
meets neither the number of an output register nor the condition of an ARM row. -/
def fixCheck (acts : List FixAction) (op : Opcode) : Bool :=
  let row := glbInstrTlb op
  acts.foldl FixAction.run row.matchVal &&& row.matchMsk == row.matchVal &&& row.matchMsk &&
    acts.all fun a => a.Ok && (SISA_OP_ARM_MAX.ble op || a.mask &&& condMask == 0#32) &&
      row.outputs.all fun o => !o.type.isGpr || !consumes op o || a.mask &&& o.regMask == 0#32

lemma fixCheck_table : (fixTable.all fun c => c.1.all (fixCheck c.2)) = true := by
  decide +kernel

lemma fixCheck_fixActions (op : Opcode) : fixCheck (fixActions op) op = true := by
  unfold fixActions
  cases hc : fixTable.find? fun c => op ∈ c.1 with
  | none =>
    simp [fixCheck]
  | some c =>
    have hmem : op ∈ c.1 := by simpa using List.find?_some hc
    have h := List.all_eq_true.mp fixCheck_table c (List.mem_of_find?_eq_some hc)
    exact List.all_eq_true.mp h op hmem

/-- Biased slots are free, and so is the shift amount that `gen_uncategorized_instr` biases. -/
lemma biasSlots_free :
    (∀ c ∈ biasSlots, ∀ op ∈ c.1, ∀ o ∈ c.2 (glbInstrTlb op),
      o.Under (freeOpndMask (glbInstrTlb op))) ∧
    ∀ op ∈ [Op.SSAT, Op.USAT, Op.PKH],
      span 32 7 11 &&& freeOpndMask (glbInstrTlb op) = span 32 7 11 := by
  decide +kernel

/-- A rewritten field is free and is no output register. -/
lemma rewriteMask_free : ∀ op ∈ alignOps ++ thumb32MiscOps,
    rewriteMask op &&& (glbInstrTlb op).matchMsk = 0#32 ∧
      ∀ o ∈ (glbInstrTlb op).outputs, o.type.isGpr = true →
        rewriteMask op &&& o.regMask = 0#32 := by
  decide +kernel

/-- Which named opcodes have a fixed condition: of the uncategorised ones the preloads, of the
accepted empty ones the barriers. -/
lemma condFree_or :
    (∀ op ∈ armUncategoriedOp, condFree op ∨ op ∈ preloadOps) ∧
    (∀ op ∈ armEmptyOps, condFree op ∨ op ∈ barrierOps ∨ genEmptyInstr op ≠ .valid) ∧
    ∀ op ∈ barrierOps, (glbInstrTlb op).opKind = .emptyOp := by
  decide +kernel

/-- The opcodes the generators of loads and stores name, with their kinds. -/
def memKinds : List (List Opcode × OpKind) :=
  [(ldImmOps, .ldOp), (ldtA1Ops, .ldOp), (ldRegOps, .ldOp), (ldtA2Ops, .ldOp), (ldLitOps, .ldOp),
    (stImmOps, .stOp), (sttA1Ops, .stOp), (stRegOps, .stOp), (sttA2Ops, .stOp), (ldmOps, .ldmOp),
    (stmOps, .stmOp), (pushOps, .pushOp), (popOps, .popOp), (ldexOps, .ldrexOp),
    (stexOps, .strexOp), ([Op.SWP, Op.SWPB], .miscOp), (thumbLdImmOps, .ldOp),
    (thumbLdRegOps, .ldOp), ([Op.LDR_lit_T1], .ldOp), (thumbStImmOps, .stOp),
    (thumbStRegOps, .stOp), ([Op.LDM_T1], .ldmOp), ([Op.STM_T1], .stmOp), ([Op.POP_T], .popOp),
    ([Op.PUSH_T], .pushOp)]

/-- The table has these kinds, and none of the opcodes is uncategorised. -/
lemma memKinds_sound : ∀ c ∈ memKinds, ∀ op ∈ c.1,
    op ∉ armUncategoriedOp ∧ (glbInstrTlb op).opKind = c.2 := by
  decide +kernel

/-! ## Facts about every row -/

/-- Every field of every operand is in order and ends below bit 31, or below the condition. -/
def fieldsOk (op : Opcode) (row : InstrDesc) : Bool :=
  let top := if op.blt SISA_OP_ARM_MAX then 28 else 31
  (row.outputs ++ row.inputs).all fun o => o.endBit.blt top &&
    (opndFields op o).all fun p => p.1.ble p.2 && p.2.blt top

/-- A row of a kind with a list, below `SISA_OP_ARM_MAX`, is one the list names. -/
def armKindCheck (op : Opcode) (row : InstrDesc) : Bool :=
  (armKindOps row.opKind).all fun l =>
    op ∈ l || SISA_OP_ARM_MAX ≤ op || op ∈ armUncategoriedOp

/-- Where an ARM row of a data kind biases an operand, the match mask leaves it free. -/
def dataBiasCheck (op : Opcode) (row : InstrDesc) : Bool :=
  !row.opKind.isData || SISA_OP_ARM_MAX.ble op ||
    (dataBiasOpnds row).all fun o => o.Under (freeOpndMask row)

def strayBitCheck (op : Opcode) (row : InstrDesc) : Bool :=
  decide (row.matchVal &&& row.matchMsk = row.matchVal) == !strayBitRows.elem op

/-- Merged outputs are well formed, and the second output of a row does not meet the register
number of the first. -/
def outputCheck (op : Opcode) (row : InstrDesc) : Bool :=
  row.outputs.all Opnd.mergeOk && (!row.output0.type.isGpr ||
    (opndFields op row.output1).all fun p => span 32 p.1 p.2 &&& row.output0.regMask == 0#32)

/-- The match mask of an ARM row covers all of the condition field or none of it; if all, the
condition is `1111` and the kind is one of the above. -/
def condCheck (op : Opcode) (row : InstrDesc) : Bool :=
  SISA_OP_ARM_MAX.ble op || row.matchMsk &&& condMask == 0#32 ||
    (row.matchMsk &&& condMask == condMask && row.matchVal &&& condMask == condMask &&
      uncondKinds.elem row.opKind)

def rowCheck (op : Opcode) (row : InstrDesc) : Bool :=
  armKindCheck op row && fieldsOk op row && dataBiasCheck op row && strayBitCheck op row &&
    outputCheck op row && condCheck op row

lemma rowCheck_rows : (glbInstrTlbRows.zipIdx.all fun p => rowCheck p.2 p.1) = true := by
  decide +kernel

/-- What holds of the row of every opcode. -/
structure RowFacts (op : Opcode) : Prop where
  armKind : armKindCheck op (glbInstrTlb op) = true
  fields : fieldsOk op (glbInstrTlb op) = true
  dataBias : dataBiasCheck op (glbInstrTlb op) = true
  strayBit : strayBitCheck op (glbInstrTlb op) = true
  output : outputCheck op (glbInstrTlb op) = true
  cond : condCheck op (glbInstrTlb op) = true

theorem rowFacts {op : Opcode} (hop : op < SISA_OP_MAX) : RowFacts op := by
  have h := forall_op rowCheck_rows hop
  simp only [rowCheck, Bool.and_eq_true] at h
  obtain ⟨⟨⟨⟨⟨h1, h2⟩, h3⟩, h4⟩, h5⟩, h6⟩ := h
  exact ⟨h1, h2, h3, h4, h5, h6⟩

lemma not_armMax_ble {op : Opcode} (hop : op < SISA_OP_ARM_MAX) :
    SISA_OP_ARM_MAX.ble op = false := by
  rw [← Bool.not_eq_true, Nat.ble_eq]
  exact Nat.not_le.mpr hop

end Rit
