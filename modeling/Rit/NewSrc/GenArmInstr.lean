import Rit.NewSrc.GenArmInstr.Mem
import Rit.NewSrc.GenArmInstr.Data

/-!
# `GenARMInstr`: the dispatch

`gen_arm_instr` sends an opcode to its generator: by name for the opcodes of
`arm_uncategoried_op`, by kind for the others.
-/

namespace Rit

def armUncategoriedOp : List Opcode :=
  [Op.SBFX, Op.BFC, Op.BFI, Op.UBFX, Op.SHADD16, Op.SHADD8, Op.SHASX, Op.SHSAX, Op.SHSUB16,
    Op.SHSUB8, Op.SADD16, Op.SADD8, Op.SSUB16, Op.SSUB8, Op.SASX, Op.SSAX, Op.UHADD16,
    Op.UHASX, Op.UHSAX, Op.UHSUB16, Op.UHADD8, Op.UHSUB8, Op.UADD16, Op.UADD8, Op.USAD8,
    Op.USADA8, Op.USUB16, Op.USUB8, Op.UASX, Op.USAX, Op.UQADD16, Op.UQASX, Op.UQSAX,
    Op.UQSUB16, Op.UQADD8, Op.UQSUB8, Op.SXTB16, Op.SXTAB16, Op.PKH, Op.SSAT, Op.SSAT16,
    Op.USAT, Op.USAT16, Op.SXTB, Op.SXTAB, Op.SXTH, Op.SXTAH, Op.SEL, Op.REV, Op.REV16,
    Op.UXTB16, Op.UXTAB16, Op.UXTB, Op.UXTAB, Op.RBIT, Op.UXTH, Op.UXTAH, Op.REVSH, Op.QASX,
    Op.QSAX, Op.QADD8, Op.QADD16, Op.QSUB8, Op.QSUB16, Op.QADD, Op.QSUB, Op.QDADD, Op.QDSUB,
    Op.MRS_a, Op.MSR_imm_a, Op.MSR_reg_a, Op.PLI_imm, Op.PLD_imm, Op.PLD_lit, Op.PLI, Op.PLD]

/-- `gen_arm_instr`.  `is_op_armv5_instr` accepts every opcode, so the instruction-set test in
front of the dispatch never rejects. -/
def genArmInstr (op : Opcode) (s : GenState) : InstrStatus × GenState :=
  if op ∈ armUncategoriedOp then genUncategorizedInstr op s
  else
    match (glbInstrTlb op).opKind with
    | .stOp => genStInstr op s
    | .ldOp => genLdInstr op s
    | .ldrexOp => genLdexInstr op s
    | .strexOp => genStexInstr op s
    | .stmOp | .ldmOp | .pushOp | .popOp => genMultiMemInstr op s
    | .miscOp => genMiscInstr op s
    | .umulOp | .mul32Op | .smulOp | .smuldOp => genMulInstr op s
    | .jmpOp => genJmpInstr op s
    | .emptyOp => (genEmptyInstr op, s)
    | .noOp => (.unsupported, s)
    | .aluOp | .logOp | .movOp | .cmpOp | .testOp => genDataInstr op s
    | _ => (.unsupported, s)

end Rit
