import Rit.NewSrc.GenArmInstr.Data

/-!
# `GenThumbInstr`: the 16-bit Thumb generators
-/

namespace Rit

open GenState

/-! ## `gen_thumb_mem_instr` -/

def thumbLdImmOps : List Opcode := [Op.LDR_imm_T1, Op.LDR_imm_T2, Op.LDRB_imm_T1, Op.LDRH_imm_T1]
def thumbStImmOps : List Opcode := [Op.STR_imm_T1, Op.STR_imm_T2, Op.STRB_imm_T1, Op.STRH_imm_T1]

def thumbLdRegOps : List Opcode :=
  [Op.LDR_reg_T1, Op.LDRB_reg_T1, Op.LDRH_reg_T1, Op.LDRSH_reg_T1, Op.LDRSB_reg_T1]

def thumbStRegOps : List Opcode := [Op.STR_reg_T1, Op.STRH_reg_T1, Op.STRB_reg_T1]

/-- The two alignment checks before ARMv7: words against mask 3, halfwords against mask 1. -/
def thumbMemStatus (o : GenOption) (word half : Bool) (addr : Word) (status : InstrStatus) :
    InstrStatus :=
  let status := if word ∧ addr &&& 3 ≠ 0 ∧ o.archVersion < 7 then .instUnknown else status
  if half ∧ addr &&& 1 ≠ 0 ∧ o.archVersion < 7 then .instUnknown else status

/-- An immediate-offset access with base `n`. -/
def thumbMemImm (n : Word) (word half : Bool) (s : GenState) : InstrStatus × GenState :=
  if ¬ s.optStat .notAllowFixMem then (.valid, fixMemBase n false s)
  else
    let (baseAddr, s) := genPreInstrForMemBase n s
    (thumbMemStatus s.options word half baseAddr .valid, s)

/-- A register-offset access with base `n` and offset `m`.  Outside memory-fix mode the line
loads the shifted offset; with shift zero that is the register value. -/
def thumbMemReg (n m : Word) (word half : Bool) (s : GenState) : InstrStatus × GenState :=
  if m = n then (.unsupported, s)
  else if ¬ s.optStat .notAllowFixMem then
    let s := fixMemBase n false s
    let offsetVal := s.nextRand &&& s.options.memOffsetVal
    (.valid, s.afterRand.insertInstrs [.inst (.ldr m offsetVal)])
  else
    let (baseVal, s) := genPreInstrForMemBase n s
    let (res, s) := getRandMemOffset 0 0 s
    let s := s.insertInstrs [.inst (.ldr m res.2)]
    (thumbMemStatus s.options word half (getMemAddr baseVal res.2 true true) .valid, s)

def genThumbMemInstr (op : Opcode) (s : GenState) : InstrStatus × GenState :=
  let row := glbInstrTlb op
  setOprandInit <|
    if op ∈ thumbLdImmOps then
      thumbMemImm (getRegnum s.rawInstr row.input0) (op ∈ [Op.LDR_imm_T1, Op.LDR_imm_T2])
        (op = Op.LDRH_imm_T1) s
    else if op ∈ thumbStImmOps then
      thumbMemImm (getRegnum s.rawInstr row.input1) (op ∈ [Op.STR_imm_T1, Op.STR_imm_T2])
        (op = Op.STRH_imm_T1) s
    else if op ∈ thumbLdRegOps then
      thumbMemReg (getRegnum s.rawInstr row.input0) (getRegnum s.rawInstr row.input1)
        (op = Op.LDR_reg_T1) (op ∈ [Op.LDRH_reg_T1, Op.LDRSH_reg_T1]) s
    else if op ∈ thumbStRegOps then
      thumbMemReg (getRegnum s.rawInstr row.input1) (getRegnum s.rawInstr row.input2)
        (op = Op.STR_reg_T1) (op = Op.STRH_reg_T1) s
    else if op = Op.LDR_lit_T1 then (.valid, s)
    else (.unsupported, s)

/-! ## `gen_thumb_multi_mem_instr` -/

/-- The status of a 16-bit multiple access before the alignment check. -/
def thumbMultiStatus (op : Opcode) (instr : Word) : InstrStatus :=
  let n := getRegnum instr (glbInstrTlb op).input0
  let empty : InstrStatus := if instr &&& 0xff = 0 then .unpredictable else .valid
  if op = Op.LDM_T1 then empty
  else if op = Op.STM_T1 then
    let status := if getBitValue instr n.toNat ≠ 0 ∧ instr &&& shr 0xff (8 - n).toNat ≠ 0 then
      .instUnknown else empty
    -- "due to qemu bug, skip this kind of instruction"
    if getBitValue instr n.toNat ≠ 0 then .unsupported else status
  else if op = Op.POP_T then if getBitValue instr 8 ≠ 0 then .unsupported else empty
  else if op = Op.PUSH_T then empty
  else .invalid

def genThumbMultiMemInstr (op : Opcode) (s : GenState) : InstrStatus × GenState :=
  let status := thumbMultiStatus op s.rawInstr
  let n := if op ∈ [Op.LDM_T1, Op.STM_T1] then getRegnum s.rawInstr (glbInstrTlb op).input0
    else R_SP
  let (memAddr, s) : Word × GenState :=
    if op ∈ [Op.LDM_T1, Op.STM_T1, Op.POP_T, Op.PUSH_T] then
      if ¬ s.optStat .notAllowFixMem then (0, fixMemBase n true s)
      else genPreInstrForMemBase n s
    else (0, s)
  let status := if ¬ isMemAlign s.options memAddr 2 ∧ s.optStat .notAllowFixMem then .unsupported
    else status
  setOprandInit (status, s)

/-! ## The remaining kinds -/

def genThumbMiscInstr (op : Opcode) : InstrStatus :=
  if op = Op.SVC_T1 then .unsupported
  else if op = Op.ADR_T1 then .valid
  else .invalid

def genThumbDataInstr (op : Opcode) (instr : Word) : InstrStatus :=
  if op = Op.CMP_reg_T2 then
    let n := getRegnum instr (glbInstrTlb op).input0
    let m := getRegnum instr (glbInstrTlb op).input1
    let status := if n < 8 ∧ m < 8 then .unpredictable else .valid
    if n = R_PC ∨ m = R_PC then .unpredictable else status
  else outputPcStatus op instr .valid

def genThumbMulInstr (op : Opcode) (o : GenOption) (instr : Word) : InstrStatus :=
  if op = Op.MUL_reg_T1 then
    let dm := getRegnum instr (glbInstrTlb op).output0
    let n := getRegnum instr (glbInstrTlb op).input0
    if o.archVersion < 6 ∧ dm = n then .unpredictable else .valid
  else .invalid

def genThumbJmpInstr (op : Opcode) (s : GenState) : InstrStatus × GenState :=
  if op ∈ [Op.B_T1, Op.B_T2, Op.CBZ_T1, Op.CBNZ_T1] then
    let cond := getBitsValue s.rawInstr 8 11
    let status := .fixInst
    let status := if op = Op.B_T1 ∧ cond = COND_AL then .undefined else status
    let status := if op = Op.B_T1 ∧ cond = COND_RAND then .alias else status
    (status, s.insertInstrs [.instInfo "type=BranchWritePC target=Thumb"])
  else if op = Op.BL_imm_T1 then
    (.fixInst, s.insertInstrs [.instInfo "type=BranchWritePC target=Thumb"])
  else if op = Op.BLX_imm_T2 then
    (.fixInst, s.insertInstrs [.instInfo "type=BranchWritePC target=ARM"])
  else if op = Op.BX_T1 then (.fixInst, s.insertInstrs [.instInfo "type=BXWritePC"])
  else if op = Op.BLX_reg_T1 then
    (if getRegnum s.rawInstr (glbInstrTlb op).input0 = R_PC then .unpredictable else .fixInst,
      s.insertInstrs [.instInfo "type=BXWritePC"])
  else (.invalid, s)

def genThumbEmptyInstr (op : Opcode) : InstrStatus :=
  if op = Op.WFI_T1 then .unsupported else .valid

/-! ## The dispatch -/

def genThumbInstr (op : Opcode) (s : GenState) : InstrStatus × GenState :=
  match (glbInstrTlb op).opKind with
  | .stOp | .ldOp => genThumbMemInstr op s
  | .stmOp | .ldmOp | .pushOp | .popOp => genThumbMultiMemInstr op s
  | .miscOp => (genThumbMiscInstr op, s)
  | .mul32Op => (genThumbMulInstr op s.options s.rawInstr, s)
  | .jmpOp => genThumbJmpInstr op s
  | .emptyOp => (genThumbEmptyInstr op, s)
  | .noOp => (.invalid, s)
  | .aluOp | .logOp | .movOp | .cmpOp | .testOp => (genThumbDataInstr op s.rawInstr, s)
  | .extOp | .reverseOp => (.valid, s)
  | _ => (.unsupported, s)

end Rit
