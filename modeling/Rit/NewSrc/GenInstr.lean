import Rit.NewSrc.GenArmInstr
import Rit.NewSrc.GenThumbInstr
import Rit.NewSrc.GenThumb32Instr

/-!
# `RandomInstrGen`, part one: generating one instruction

`gen_instr` and its stages: the S bit, the condition, the source and destination operands, the
fix-up of should-be-zero and should-be-one bits, and the validator of the instruction set.
All of them rewrite `raw_instr`; the first three also record in `instr_fixed_bit` which bits
the user asked for.
-/

namespace Rit

open GenState

/-! ## Requested bits -/

def setInstrFixedBit (startBit endBit : ℕ) (s : GenState) : GenState :=
  if s.isSetFixedBit then s
  else { s with instrFixedBit := setBits s.instrFixedBit startBit endBit }

/-- `chk_3bit_reg`.  The second test of the source is `reg_val | 0x8`, an or, not an and. -/
def chk3bitReg (regBits : ℕ) (regVal : Word) (s : GenState) : GenState :=
  if s.isRegBitCut then s
  else if regBits < 4 ∧ regVal ||| 0x8 ≠ 0 then { s with isRegBitCut := true }
  else s

/-! ## The S bit and the condition -/

def condMask : Word := 0xf0000000

def condMaskBit : ℕ := 28

def setSbit (op : Opcode) (s : GenState) : GenState :=
  if s.optStat .sbit ∧ ¬ isFixedOprand op 20 20 then
    let s := if s.shadowOptions.sbitVal ≠ .rand then setInstrFixedBit 20 20 s else s
    if s.options.sbitVal = .set then s.setRawInstr (s.rawInstr ||| shl 1 20)
    else s.setRawInstr (s.rawInstr &&& ~~~shl 1 20)
  else s

/-- The first half of `set_arm_cond_bits`: encode the condition option. -/
def encodeCond (s : GenState) : GenState :=
  if s.optStat .cond then
    let s := if s.shadowOptions.condVal ≠ COND_RAND then setInstrFixedBit condMaskBit 31 s else s
    s.setRawInstr
      ((s.rawInstr ||| condMask) &&& (~~~condMask ||| shl s.options.condVal condMaskBit))
  else s

/-- The second half of `set_arm_cond_bits`: the condition `1111` becomes `1110`. -/
def clearNeverCond (s : GenState) : GenState :=
  if s.rawInstr &&& condMask = condMask then s.setRawInstr (s.rawInstr &&& ~~~shl 1 condMaskBit)
  else s

def setArmCondBits (op : Opcode) (s : GenState) : GenState :=
  if s.options.isa.isArm ∧ op < SISA_OP_ARM_MAX then clearNeverCond (encodeCond s) else s

/-! ## Operands -/

/-- One statement of `set_opnd_bits`. -/
inductive OpndAction
  | fixedBit (startBit endBit : ℕ)
  | chk3bit (regBits : ℕ) (regVal : Word)
  | write (lowBit highBit : ℕ) (newVal : Word)
  deriving DecidableEq, Repr

def OpndAction.run (s : GenState) : OpndAction → GenState
  | .fixedBit startBit endBit => setInstrFixedBit startBit endBit s
  | .chk3bit regBits regVal => chk3bitReg regBits regVal s
  | .write lowBit highBit newVal => s.setRawInstr (setInstr s.rawInstr lowBit highBit newVal)

/-- Which of the two operand lists `set_opnd_bits` works on. -/
inductive OpndSide
  | src
  | dst
  deriving DecidableEq, Repr

namespace OpndSide

def regs (side : OpndSide) (o : GenOption) : ℕ → Word :=
  match side with
  | src => o.srcRegs
  | dst => o.dstRegs

def fpRegsExt (side : OpndSide) (o : GenOption) : ℕ → Word :=
  match side with
  | src => o.srcFpRegsExt
  | dst => o.dstFpRegsExt

def optReg : OpndSide → OptionKind
  | src => .sreg
  | dst => .dreg

def optFpReg : OpndSide → OptionKind
  | src => .fpSregExt
  | dst => .fpDregExt

def opnds (side : OpndSide) (d : InstrDesc) : List Opnd :=
  match side with
  | src => d.inputs
  | dst => d.outputs

end OpndSide

/-- `SISA_OPND_TYPE_IMM_ZERO_EXTEND` is treated as one of two other types. -/
def opndTypeOf (opnd : Opnd) : OpndType :=
  if opnd.type = .immZeroExtend then if opnd.bit2 ≠ 0 then .immThumbExp else .imm else opnd.type

/-- The types with a register extension bit. -/
def OpndType.isFp : OpndType → Bool
  | .fpsr | .fpdr | .fpqr | .fpdsr | .fpqdr => true
  | _ => false

section OpndActions

variable (op : Opcode) (side : OpndSide) (o shadow : GenOption) (regIdx : ℕ) (opnd : Opnd)

/-- The statements for a register operand. -/
def regActions : List OpndAction :=
  (if o.getOptStat side.optReg then
    (if side.regs shadow regIdx ≠ R_RAND then [.fixedBit opnd.startBit opnd.endBit] else []) ++
    [.chk3bit (opnd.endBit - opnd.startBit + 1) (side.regs o regIdx)] else []) ++
  [.write opnd.startBit opnd.endBit (side.regs o regIdx)] ++
  (if (opndTypeOf opnd).isFp ∧ ¬ isFixedOprand op opnd.bit1 opnd.bit1 then
    (if o.getOptStat side.optFpReg ∧ side.fpRegsExt shadow regIdx ≠ FP_REG_RAND then
      [.fixedBit opnd.bit1 opnd.bit1] else []) ++
    [.write opnd.bit1 opnd.bit1 (side.fpRegsExt o regIdx)] else []) ++
  (if (opndTypeOf opnd = .fpdsr ∨ opndTypeOf opnd = .fpqdr) ∧
      ¬ isFixedOprand op opnd.bit2 opnd.bit2 then
    (if o.getOptStat .fpSzQExt ∧ shadow.fpSzQBit ≠ FP_REG_RAND then
      [.fixedBit opnd.bit2 opnd.bit2] else []) ++
    [.write opnd.bit2 opnd.bit2 o.fpSzQBit] else [])

/-- The statements for a shift type field. -/
def shiftTypeActions (lo hi : ℕ) (val : Word) : List OpndAction :=
  if isFixedOprand op lo hi then []
  else
    (if o.getOptStat .shrtType ∧ shadow.shiftRotateType ≠ SH_TYPE_RAND then [.fixedBit lo hi]
      else []) ++
    [.write lo hi val]

/-- The statements for a field that takes one option value whole. -/
def plainActions (k : OptionKind) (val : Word) : List OpndAction :=
  if isFixedOprand op opnd.startBit opnd.endBit then []
  else
    (if o.getOptStat k then [.fixedBit opnd.startBit opnd.endBit] else []) ++
    [.write opnd.startBit opnd.endBit val]

/-- The statements for a register operand whose top bit sits apart from the others. -/
def mergeActions : List OpndAction :=
  (if o.getOptStat side.optReg then
    (if side.regs shadow regIdx ≠ R_RAND then
      [.fixedBit opnd.startBit opnd.endBit, .fixedBit opnd.bit1 opnd.bit1] else []) ++
    [.chk3bit (opnd.endBit - opnd.startBit + 2) (side.regs o regIdx)] else []) ++
  [.write opnd.startBit opnd.endBit (side.regs o regIdx),
    .write opnd.bit1 opnd.bit1
      (shr (side.regs o regIdx) (opnd.endBit - opnd.startBit + 1))]

/-- The statements for an immediate in three pieces. -/
def expActions (iBitPos immStart immEnd : ℕ) : List OpndAction :=
  if ¬ isFixedOprand op iBitPos iBitPos ∧ ¬ isFixedOprand op immStart immEnd ∧
      ¬ isFixedOprand op opnd.startBit opnd.endBit then
    let rem := shr o.immVal (opnd.endBit - opnd.startBit + 1)
    (if o.getOptStat .imm then
      [.fixedBit opnd.startBit opnd.endBit, .fixedBit immStart immEnd,
        .fixedBit iBitPos iBitPos] else []) ++
    [.write opnd.startBit opnd.endBit o.immVal, .write immStart immEnd rem,
      -- `remainder_bits` is an `int`
      .write iBitPos iBitPos (rem.sshiftRight (immEnd - immStart + 1))]
  else []

/-- The body of the loop of `set_opnd_bits` for one operand: the statements it runs, and
whether it consumed an entry of the register array. -/
def opndActions : List OpndAction × Bool :=
  match opndTypeOf opnd with
  | .gpr | .gprSet | .fpsr | .fpdr | .fpqr | .fpdsr | .fpqdr | .gprRw =>
    if regIdx < MAX_REG_NUM ∧ ¬ isFixedOprand op opnd.startBit opnd.endBit then
      (regActions op side o shadow regIdx opnd, true)
    else ([], false)
  | .shiftReg | .rotateReg =>
    ((if isFixedOprand op opnd.startBit opnd.endBit then []
      else
        (if o.getOptStat .shrtReg then
          (if shadow.shiftRotateReg ≠ R_RAND then [.fixedBit opnd.startBit opnd.endBit] else []) ++
          [.chk3bit (opnd.endBit - opnd.startBit + 1) o.shiftRotateReg] else []) ++
        [.write opnd.startBit opnd.endBit o.shiftRotateReg]) ++
      shiftTypeActions op o shadow opnd.bit1 opnd.bit2 o.shiftRotateType, false)
  | .gprList | .gprListT => (plainActions op o opnd .regsList o.regsList, false)
  | .gprMerge =>
    if regIdx < MAX_REG_NUM ∧ ¬ isFixedOprand op opnd.bit1 opnd.bit1 ∧
        ¬ isFixedOprand op opnd.startBit opnd.endBit then
      (mergeActions side o shadow regIdx opnd, true)
    else ([], false)
  | .imm | .immArmExp | .immSignExtend => (plainActions op o opnd .imm o.immVal, false)
  | .immMerge | .immVfpExpand =>
    (if ¬ isFixedOprand op opnd.startBit opnd.endBit ∧
        ¬ isFixedOprand op opnd.bit1 opnd.bit2 then
      (if o.getOptStat .imm then
        [.fixedBit opnd.bit1 opnd.bit2, .fixedBit opnd.startBit opnd.endBit] else []) ++
      [.write opnd.bit1 opnd.bit2 o.immVal,
        .write opnd.startBit opnd.endBit (shr o.immVal (opnd.bit2 - opnd.bit1 + 1))]
    else [], false)
  | .shiftImm =>
    (plainActions op o opnd .shImm o.shiftImmVal ++
      shiftTypeActions op o shadow opnd.bit1 opnd.bit2 o.shiftRotateType, false)
  | .shiftImmT =>
    ((if ¬ isFixedOprand op opnd.startBit opnd.endBit ∧
        ¬ isFixedOprand op (2 * opnd.startBit) (2 * opnd.endBit) then
      (if o.getOptStat .shImm then
        [.fixedBit opnd.startBit opnd.endBit,
          .fixedBit (2 * opnd.startBit) (2 * opnd.endBit)] else []) ++
      [.write opnd.startBit opnd.endBit o.shiftImmVal,
        .write (2 * opnd.startBit) (2 * opnd.endBit)
          (shr o.shiftImmVal (opnd.endBit - opnd.startBit + 1))]
    else []) ++
      shiftTypeActions op o shadow opnd.bit1 opnd.bit1 o.shiftRotateType ++
      -- the shift count of the source is `bit2 - bit2 + 1`
      shiftTypeActions op o shadow opnd.bit2 opnd.bit2 (shr o.shiftRotateType 1), false)
  | .immThumbExp => (expActions op o opnd 26 12 14, false)
  | .immSimdExp =>
    (expActions op o opnd (if op ≥ SISA_OP_ARM_MAX then 28 else 24) 16 18, false)
  | .cond => (plainActions op o opnd .cond o.condVal, false)
  | _ => ([], false)

end OpndActions

/-- One round of the loop of `set_opnd_bits`, on the register index and the state. -/
def setOpnd (op : Opcode) (side : OpndSide) (acc : ℕ × GenState) (opnd : Opnd) : ℕ × GenState :=
  let acts := opndActions op side acc.2.options acc.2.shadowOptions acc.1 opnd
  (if acts.2 then acc.1 + 1 else acc.1, acts.1.foldl OpndAction.run acc.2)

def setOpndBits (op : Opcode) (side : OpndSide) (s : GenState) : GenState :=
  ((side.opnds (glbInstrTlb op)).foldl (setOpnd op side) (0, s)).2

def setSrcOpndBits (op : Opcode) (s : GenState) : GenState := setOpndBits op .src s

def setDstOpndBits (op : Opcode) (s : GenState) : GenState := setOpndBits op .dst s

/-! ## Should-be-zero and should-be-one bits -/

/-- The macros `set_bits`, `clear_bits`, `set_bit` and `clear_bit` on `raw_instr`. -/
inductive FixAction
  | setBits (startBit endBit : ℕ)
  | clearBits (startBit endBit : ℕ)
  | setBit (bit : ℕ)
  | clearBit (bit : ℕ)
  deriving DecidableEq, Repr

def FixAction.run (w : Word) : FixAction → Word
  | .setBits startBit endBit => Rit.setBits w startBit endBit
  | .clearBits startBit endBit => Rit.clearBits w startBit endBit
  | .setBit bit => w ||| shl 1 bit
  | .clearBit bit => w &&& ~~~shl 1 bit

/-- The cases of the `switch` of `fix_unpredictable_bit`. -/
def fixTable : List (List Opcode × List FixAction) :=
  [([Op.ASR_imm, Op.ASR_reg, Op.LSL_imm, Op.LSL_reg, Op.LSR_imm, Op.LSR_reg, Op.ROR_imm,
      Op.ROR_reg, Op.RRX_imm, Op.MOV_imm_a1, Op.MOV_reg, Op.MVN_imm, Op.MVN_reg, Op.MVN_rsh],
      [.clearBits 16 19]),
    ([Op.BLX_reg, Op.BX, Op.BXJ_reg], [.setBits 8 19]),
    ([Op.CLREX], [.setBits 0 3, .clearBits 8 11, .setBits 12 19]),
    ([Op.CLZ, Op.RBIT, Op.REV, Op.REV16, Op.REVSH], [.setBits 8 11, .setBits 16 19]),
    ([Op.CMN_imm, Op.CMN_reg, Op.CMN_rsh, Op.CMP_imm, Op.CMP_reg, Op.CMP_rsh, Op.TEQ_imm,
      Op.TEQ_reg, Op.TEQ_rsh, Op.TST_imm, Op.TST_reg, Op.TST_rsh, Op.MUL, Op.SMULBB, Op.SMULWB],
      [.clearBits 12 15]),
    ([Op.DBG, Op.NOP, Op.WFE, Op.WFI, Op.YIELD], [.clearBits 8 11, .setBits 12 15]),
    ([Op.DMB, Op.DSB, Op.ISB], [.clearBits 8 11, .setBits 12 19]),
    ([Op.LDR_lit, Op.LDRB_lit, Op.LDRD_lit, Op.LDRH_lit, Op.LDRSB_lit, Op.LDRSH_lit],
      [.clearBit 21, .setBit 24]),
    ([Op.LDREX, Op.LDREXB, Op.LDREXD, Op.LDREXH], [.setBits 0 3, .setBits 8 11]),
    ([Op.LDRH, Op.LDRSB, Op.LDRSH, Op.STRD_reg, Op.STREX, Op.STREXB, Op.STREXD, Op.STREXH,
      Op.STRH_reg, Op.STRHT_a2, Op.SWP, Op.SWPB, Op.LDRHT_a2, Op.LDRSBT_a2, Op.LDRSHT_a2],
      [.clearBits 8 11]),
    ([Op.QADD, Op.QSUB, Op.QDADD, Op.QDSUB], [.clearBits 8 11]),
    ([Op.QADD16, Op.QADD8, Op.QASX, Op.QSAX, Op.QSUB16, Op.QSUB8, Op.SADD16, Op.SADD8, Op.SASX,
      Op.SEL, Op.SHADD16, Op.SHADD8, Op.SHASX, Op.SHSAX, Op.SHSUB16, Op.SHSUB8, Op.SSAT16,
      Op.SSAX, Op.SSUB16, Op.SSUB8, Op.UADD16, Op.UADD8, Op.UASX, Op.UHADD16, Op.UHADD8,
      Op.UHASX, Op.UHSAX, Op.UHSUB16, Op.UHSUB8, Op.UQADD16, Op.UQADD8, Op.UQASX, Op.UQSAX,
      Op.UQSUB16, Op.UQSUB8, Op.USAT16, Op.USAX, Op.USUB16, Op.USUB8], [.setBits 8 11]),
    ([Op.MRS_a], [.clearBits 0 3, .clearBits 8 11, .setBits 16 19]),
    ([Op.MSR_imm_a, Op.PLD_imm, Op.PLD, Op.PLI_imm, Op.PLI], [.setBits 12 15]),
    ([Op.PLD_lit], [.setBits 12 15, .setBit 22]),
    ([Op.MSR_reg_a], [.clearBits 8 11, .setBits 12 15]),
    ([Op.SXTAB, Op.SXTAB16, Op.SXTAH, Op.SXTB, Op.SXTB16, Op.SXTH, Op.UXTAB, Op.UXTAB16,
      Op.UXTAH, Op.UXTB, Op.UXTB16, Op.UXTH], [.clearBits 8 9]),
    ([Op.BLX_reg_T1, Op.BX_T1], [.clearBits 0 2]),
    ([Op.SRS_T1, Op.SRS_T2], [.clearBits 5 13, .setBits 14 19, .clearBit 17]),
    ([Op.RFE_T1, Op.RFE_T2], [.clearBits 0 13, .setBits 14 15]),
    ([Op.STM_T2, Op.STMDB_T1, Op.PUSH_T2], [.clearBit 13, .clearBit 15]),
    ([Op.LDM_T2, Op.LDMDB_T1, Op.POP_T2], [.clearBit 13]),
    ([Op.LDREX_T1, Op.STREXB_T1, Op.STREXH_T1], [.setBits 8 11]),
    ([Op.TBB_T1], [.clearBits 8 11, .setBits 12 15]),
    ([Op.LDREXB_T1, Op.LDREXH_T1], [.setBits 0 3, .setBits 8 11]),
    ([Op.LDREXD_T1], [.setBits 0 3]),
    ([Op.AND_reg_T2, Op.TST_reg_T2, Op.BIC_reg_T2, Op.ORR_reg_T2, Op.MOV_reg_T3, Op.ORN_reg_T1,
      Op.MVN_reg_T2, Op.EOR_reg_T2, Op.TEQ_reg_T1, Op.PKH_reg_T1, Op.ADD_reg_T3, Op.CMN_reg_T2,
      Op.ADC_reg_T2, Op.SBC_reg_T2], [.clearBit 15]),
    ([Op.SSAT_T1, Op.USAT_T1, Op.SBFX_T1, Op.UBFX_T1, Op.BFI_T1, Op.BFC_T1],
      [.clearBit 5, .clearBit 26]),
    ([Op.SSAT16_T1, Op.USAT16_T1], [.clearBits 4 5, .clearBit 26]),
    ([Op.MSR_a_T1], [.clearBit 13, .clearBits 0 7]),
    ([Op.MSR_s_T1], [.clearBits 0 7, .clearBit 13]),
    ([Op.CPS_T2, Op.NOP_T2, Op.YIELD_T2, Op.WFE_T2, Op.WFI_T2, Op.SEV_T2, Op.DBG_T1],
      [.clearBit 11, .clearBit 13, .setBits 16 19]),
    ([Op.CLREX_T1], [.setBits 0 3, .setBits 8 11, .clearBit 13, .setBits 16 19]),
    ([Op.MRS_a_T1, Op.MRS_s_T1], [.clearBits 0 7, .clearBit 13, .setBits 16 19]),
    ([Op.PLD_lit_T1], [.clearBit 21]),
    ([Op.SXTAB_T1, Op.SXTAH_T1, Op.SXTAB16_T1, Op.SXTB16_T1, Op.UXTAB_T1, Op.UXTAH_T1,
      Op.UXTAB16_T1, Op.UXTB16_T1, Op.SXTB_T2, Op.SXTH_T2, Op.UXTB_T2, Op.UXTH_T2],
      [.clearBit 6]),
    ([Op.SDIV_T1, Op.UDIV_T1], [.setBits 12 15]),
    ([Op.RRX_T1], [.clearBit 15])]

/-- The statements `fix_unpredictable_bit` runs for an opcode. -/
def fixActions (op : Opcode) : List FixAction :=
  ((fixTable.find? fun c => op ∈ c.1).map Prod.snd).getD []

def fixUnpredictableBit (op : Opcode) (s : GenState) : GenState :=
  s.setRawInstr ((fixActions op).foldl FixAction.run s.rawInstr)

/-! ## `gen_instr` -/

/-- The validator of the opcode's instruction set and the `.inst` line after it. -/
def validate (op : Opcode) (s : GenState) : InstrStatus × GenState :=
  if op < SISA_OP_ARM_MAX then
    let (status, s) := genArmInstr op s
    (status, s.insertInstrs [.inst (.inst s.rawInstr)])
  else if op < SISA_OP_THUMB_MAX then
    let (status, s) := genThumbInstr op { s with options := { s.options with isa := .thumb } }
    (status, s.insertInstrs [.inst (.instN (s.rawInstr &&& 0xffff))])
  else if op < SISA_OP_THUMB_32_MAX then
    let (status, s) := genThumb32Instr op { s with options := { s.options with isa := .thumb } }
    (status, s.insertInstrs [.inst (.instW s.rawInstr)])
  else (.invalid, s)

/-- The operand stages of `gen_instr`. -/
def operandStages (op : Opcode) (s : GenState) : GenState :=
  setDstOpndBits op (setSrcOpndBits op (setArmCondBits op (setSbit op s)))

/-- `orig_instr` and the state after it is set.  It is a local that only the first attempt
assigns; a later attempt reads what the stack holds. -/
def takeOrig (s : GenState) : Word × GenState :=
  if ¬ s.isSetFixedBit then (s.rawInstr, { s with isSetFixedBit := true })
  else (s.uninit 0, { s with uninit := fun i => s.uninit (i + 1) })

/-- The last statements of `gen_instr`: what is reported about the requested bits. -/
def reportFixedBit (origInstr : Word) (s : GenState) : GenState :=
  let cur := (origInstr &&& s.instrFixedBit) ^^^ (s.rawInstr &&& s.instrFixedBit)
  { s with curFixedBit := if s.isRegBitCut then cur ||| 0xFFFF0000 else cur }

/-- The globals `gen_instr` resets on entry. -/
def beginInstr (s : GenState) : GenState :=
  { s with instrBuf := [], isOprandInit := false, isRegBitCut := false }

def genInstr (op : Opcode) (s : GenState) : InstrStatus × GenState :=
  let s := beginInstr s
  if (glbInstrTlb op).opKind = .pseudoOp then (.unsupported, s)
  else
    let (orig, s) := takeOrig (operandStages op s)
    let (status, s) := validate op (fixUnpredictableBit op s)
    (status, reportFixedBit orig s)

end Rit
