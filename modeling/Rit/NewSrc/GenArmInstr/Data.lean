import Rit.NewSrc.BiasUtil
import Rit.NewSrc.GenHelper

/-!
# `GenARMInstr`, part two: data processing

`gen_misc_instr`, `gen_data_instr`, `gen_mul_instr`, `gen_parallel_add_sub_instr`,
`gen_uncategorized_instr`, `gen_jmp_instr`, `gen_empty_instr` and `gen_unsup_instr`.

Most branches have one shape: read two to four operand registers, let a bias option make some
of them coincide, write them back, and check the resulting numbers.  `bias2`, `bias3` and
`bias4` are the biasing step: they return the registers together with the state that holds the
rewritten word.
-/

namespace Rit

open GenState

/-! ## The biasing step -/

/-- A run of `instr = set_instr_reg(instr, opnd, val)`. -/
def setInstrRegs (instr : Word) (writes : List (Opnd × Word)) : Word :=
  writes.foldl (fun instr p => setInstrReg instr p.1 p.2) instr

/-- `random_bias_reg_2(&r1, &r2)` under option `k`, written back to `o1` and `o2`. -/
def bias2 (k : OptionKind) (o1 o2 : Opnd) (r : Word × Word) (s : GenState) :
    (Word × Word) × GenState :=
  if s.optStat k then
    let r := randomBiasReg2 s.nextRand r.1 r.2
    (r, s.afterRand.setRawInstr (setInstrRegs s.rawInstr [(o1, r.1), (o2, r.2)]))
  else (r, s)

/-- `random_bias_reg_3(&r1, &r2, &r3)` under option `k`, written back to `o1`, `o2`, `o3`. -/
def bias3 (k : OptionKind) (o1 o2 o3 : Opnd) (r : Word × Word × Word) (s : GenState) :
    (Word × Word × Word) × GenState :=
  if s.optStat k then
    let r := randomBiasReg3 s.nextRand r.1 r.2.1 r.2.2
    (r, s.afterRand.setRawInstr
      (setInstrRegs s.rawInstr [(o1, r.1), (o2, r.2.1), (o3, r.2.2)]))
  else (r, s)

/-- `random_bias_reg_4(&r1, &r2, &r3, &r4)` under option `k`, written back to `o1` … `o4`. -/
def bias4 (k : OptionKind) (o1 o2 o3 o4 : Opnd) (r : Word × Word × Word × Word) (s : GenState) :
    (Word × Word × Word × Word) × GenState :=
  if s.optStat k then
    let r := randomBiasReg4 s.nextRand r.1 r.2.1 r.2.2.1 r.2.2.2
    (r, s.afterRand.setRawInstr
      (setInstrRegs s.rawInstr [(o1, r.1), (o2, r.2.1), (o3, r.2.2.1), (o4, r.2.2.2)]))
  else (r, s)

/-- `shift_imm[rand_val % shift_imm_num]`. -/
def shiftImm (randVal : Word) : Word := [0, 1, 30, 31].getD (randVal % 4).toNat 0

/-- The second biasing step of the saturating and packing instructions: a shift amount from
`shift_imm` in bits 7 to 11. -/
def biasShiftImm (s : GenState) : GenState :=
  if s.optStat .allowBiasOpnd then
    s.afterRand.setRawInstr (setInstr s.rawInstr 7 11 (shiftImm s.nextRand))
  else s

/-! ## `gen_misc_instr` -/

def genSwp (op : Opcode) (s : GenState) : InstrStatus × GenState :=
  let row := glbInstrTlb op
  let n := getRegnum s.rawInstr row.input1
  let ((t, t2), s) := bias2 .allowBiasOpnd row.output0 row.input0
    (getRegnum s.rawInstr row.output0, getRegnum s.rawInstr row.input0) s
  let status := .valid
  let status := if t = R_PC ∨ t2 = R_PC ∨ n = R_PC ∨ n = t ∨ n = t2 then .unpredictable
    else status
  let status := if n = R_PC then .unsupported else status
  (status, if status ≠ .unsupported then fixMemBase n true s else s)

def genClz (op : Opcode) (s : GenState) : InstrStatus × GenState :=
  let row := glbInstrTlb op
  let ((d, m), s) := bias2 .allowBiasOpnd row.output0 row.input0
    (getRegnum s.rawInstr row.output0, getRegnum s.rawInstr row.input0) s
  (if d = R_PC ∨ m = R_PC then .unpredictable else .valid, s)

def genMiscInstr (op : Opcode) (s : GenState) : InstrStatus × GenState :=
  if op = Op.SVC then (.unsupported, s)
  else if op = Op.SWP ∨ op = Op.SWPB then genSwp op s
  else if op = Op.CLZ then genClz op s
  else if op = Op.ADR_a1 ∨ op = Op.ADR_a2 ∨ op = Op.MOVT then
    (if getRegnum s.rawInstr (glbInstrTlb op).output0 = R_PC then .unsupported else .valid, s)
  else (.unsupported, s)

/-! ## `gen_data_instr` -/

/-- The part of `gen_data_instr` before the destination check: the status so far and the
state after biasing.  The branches are by the types of the second and third source operand. -/
def dataBias (op : Opcode) (s : GenState) : InstrStatus × GenState :=
  let row := glbInstrTlb op
  let d := getRegnum s.rawInstr row.output0
  let r0 := getRegnum s.rawInstr row.input0
  let r1 := getRegnum s.rawInstr row.input1
  let r2 := getRegnum s.rawInstr row.input2
  if row.input2.type = .shiftReg then
    if row.output0.type ≠ .none then
      if d = R_PC ∨ r0 = R_PC ∨ r1 = R_PC ∨ r2 = R_PC then (.unpredictable, s)
      else (.valid, (bias4 .allowBiasOpnd row.output0 row.input0 row.input1 row.input2
        (d, r0, r1, r2) s).2)
    else if r0 = R_PC ∨ r1 = R_PC ∨ r2 = R_PC then (.unpredictable, s)
    else (.valid, (bias3 .allowBiasOpnd row.input0 row.input1 row.input2 (r0, r1, r2) s).2)
  else if row.input2.type = .shiftImm then
    if row.output0.type ≠ .none then
      (.valid, (bias3 .allowBiasOpnd row.output0 row.input0 row.input1 (d, r0, r1) s).2)
    else (.valid, (bias2 .allowBiasOpnd row.input0 row.input1 (r0, r1) s).2)
  else if row.input2.type = .none then
    if row.input1.type = .shiftReg then
      if d = R_PC ∨ r0 = R_PC ∨ r1 = R_PC then (.unpredictable, s)
      else (.valid, (bias3 .allowBiasOpnd row.output0 row.input0 row.input1 (d, r0, r1) s).2)
    else if row.input1.type = .shiftImm then
      (.valid, (bias2 .allowBiasOpnd row.output0 row.input0 (d, r0) s).2)
    else if row.input1.type = .immArmExp ∧ row.output0.type ≠ .none then
      (.valid, (bias2 .allowBiasOpnd row.output0 row.input0 (d, r0) s).2)
    else (.valid, s)
  else (.valid, s)

/-- The destination check that ends `gen_data_instr` and its Thumb counterpart: both output
slots that exist are read back. -/
def outputPcStatus (op : Opcode) (instr : Word) (status : InstrStatus) : InstrStatus :=
  let row := glbInstrTlb op
  let status := if row.output0.type ≠ .none ∧ getRegnum instr row.output0 = R_PC then .unsupported
    else status
  if row.output1.type ≠ .none ∧ getRegnum instr row.output1 = R_PC then .unsupported else status

def genDataInstr (op : Opcode) (s : GenState) : InstrStatus × GenState :=
  let (status, s) := dataBias op s
  (outputPcStatus op s.rawInstr status, s)

/-! ## `gen_mul_instr` -/

def mulOps : List Opcode := [Op.MUL, Op.SMULBB, Op.SMULWB, Op.SMUAD, Op.SMUSD, Op.SMMUL]

def mlaOps : List Opcode :=
  [Op.MLA, Op.SMLABB, Op.SMLAWB, Op.MLS, Op.SMLAD, Op.SMLSD, Op.SMMLA, Op.SMMLS]

def mulLongOps : List Opcode :=
  [Op.SMLAL, Op.SMLALBB, Op.SMULL, Op.UMLAL, Op.UMULL, Op.UMAAL, Op.SMLALD, Op.SMLSLD]

/-- The biasing step of the two-operand multiplies.  The helper is called with `m` and `n`
exchanged; the registers go back to their own slots in the usual order. -/
def biasMul (op : Opcode) (s : GenState) : (Word × Word × Word) × GenState :=
  let row := glbInstrTlb op
  let d := getRegnum s.rawInstr row.output0
  let n := getRegnum s.rawInstr row.input0
  let m := getRegnum s.rawInstr row.input1
  if s.optStat .allowBiasOpnd then
    let (d, m, n) := randomBiasReg3 s.nextRand d m n
    ((d, n, m), s.afterRand.setRawInstr
      (setInstrRegs s.rawInstr [(row.output0, d), (row.input0, n), (row.input1, m)]))
  else ((d, n, m), s)

/-- The two-operand multiplies. -/
def genMul (op : Opcode) (s : GenState) : InstrStatus × GenState :=
  let ((d, n, m), s) := biasMul op s
  let status := .valid
  let status := if d = R_PC ∨ n = R_PC ∨ m = R_PC then .unpredictable else status
  let status := if op = Op.MUL ∧ d = n ∧ s.options.archVersion < 6 then .unpredictable else status
  (if d = R_PC then .unsupported else status, s)

/-- The multiply-accumulates.  Whether the accumulator is `r15` is tested before biasing. -/
def genMla (op : Opcode) (s : GenState) : InstrStatus × GenState :=
  let row := glbInstrTlb op
  let dual : Bool := op ∈ [Op.SMLAD, Op.SMLSD, Op.SMMLA]
  let status := .valid
  let status := if dual ∧ getRegnum s.rawInstr row.input2 = R_PC then .alias else status
  let ((d, n, m, a), s) := bias4 .allowBiasOpnd row.output0 row.input0 row.input1 row.input2
    (getRegnum s.rawInstr row.output0, getRegnum s.rawInstr row.input0,
      getRegnum s.rawInstr row.input1, getRegnum s.rawInstr row.input2) s
  let status := if d = R_PC ∨ n = R_PC ∨ m = R_PC ∨ (¬ dual ∧ a = R_PC) then .unpredictable
    else status
  let status := if op = Op.MLA ∧ d = n ∧ s.options.archVersion < 6 then .unpredictable else status
  (if d = R_PC then .unsupported else status, s)

def genMulLong (op : Opcode) (s : GenState) : InstrStatus × GenState :=
  let row := glbInstrTlb op
  let ((dHi, dLo, n, m), s) := bias4 .allowBiasOpnd row.output0 row.output1 row.input0 row.input1
    (getRegnum s.rawInstr row.output0, getRegnum s.rawInstr row.output1,
      getRegnum s.rawInstr row.input0, getRegnum s.rawInstr row.input1) s
  let status := .valid
  let status := if dLo = R_PC ∨ dHi = R_PC ∨ n = R_PC ∨ m = R_PC then .unpredictable else status
  let status := if dLo = dHi then .unpredictable else status
  let status := if op ∈ [Op.SMLAL, Op.SMULL, Op.UMLAL, Op.UMULL] ∧ (dHi = n ∨ dLo = n) ∧
      s.options.archVersion < 6 then .unpredictable else status
  (if dLo = R_PC ∨ dHi = R_PC then .unsupported else status, s)

def genMulInstr (op : Opcode) (s : GenState) : InstrStatus × GenState :=
  if op ∈ mulOps then genMul op s
  else if op ∈ mlaOps then genMla op s
  else if op ∈ mulLongOps then genMulLong op s
  else (.unsupported, s)

/-! ## `gen_jmp_instr`, `gen_empty_instr`, `gen_unsup_instr` -/

def genJmpInstr (op : Opcode) (s : GenState) : InstrStatus × GenState :=
  if op = Op.B_imm ∨ op = Op.BL_imm_a1 then
    (.fixInst, s.insertInstrs [.instInfo "type=BranchWritePC target=ARM"])
  else if op = Op.BLX_imm_a2 then
    (.fixInst, s.insertInstrs [.instInfo "type=BranchWritePC target=Thumb"])
  else if op = Op.BX then (.fixInst, s.insertInstrs [.instInfo "type=BXWritePC"])
  else if op = Op.BLX_reg then
    (if getRegnum s.rawInstr (glbInstrTlb op).input0 = R_PC then .unpredictable else .fixInst,
      s.insertInstrs [.instInfo "type=BXWritePC"])
  else (.invalid, s)

def genEmptyInstr (op : Opcode) : InstrStatus :=
  if op = Op.WFI then .unsupported
  else if op = Op.CLREX then .unsupported
  else .valid

/-! ## `gen_uncategorized_instr` -/

/-- `gen_parallel_add_sub_instr`, whose code three further branches repeat with another bias
option and a further check. -/
def genThreeReg (k : OptionKind) (op : Opcode) (s : GenState) : InstrStatus × GenState :=
  let row := glbInstrTlb op
  let ((d, n, m), s) := bias3 k row.output0 row.input0 row.input1
    (getRegnum s.rawInstr row.output0, getRegnum s.rawInstr row.input0,
      getRegnum s.rawInstr row.input1) s
  let status := .valid
  let status := if d = R_PC ∨ n = R_PC ∨ m = R_PC then .unpredictable else status
  (if d = R_PC then .unsupported else status, s)

def genParallelAddSubInstr (op : Opcode) (s : GenState) : InstrStatus × GenState :=
  genThreeReg .allowBiasOpnd op s

def parallelOps : List Opcode :=
  [Op.SADD16, Op.SASX, Op.SSAX, Op.SSUB16, Op.SADD8, Op.SSUB8,
    Op.QADD, Op.QSUB, Op.QDADD, Op.QDSUB,
    Op.QADD16, Op.QASX, Op.QSAX, Op.QSUB16, Op.QADD8, Op.QSUB8,
    Op.SHADD16, Op.SHASX, Op.SHSAX, Op.SHSUB16, Op.SHADD8, Op.SHSUB8,
    Op.UADD16, Op.UASX, Op.USAX, Op.USUB16, Op.UADD8, Op.USUB8,
    Op.UQADD16, Op.UQASX, Op.UQSAX, Op.UQSUB16, Op.UQADD8, Op.UQSUB8,
    Op.UHADD16, Op.UHASX, Op.UHSAX, Op.UHSUB16, Op.UHADD8, Op.UHSUB8]

def extAddOps : List Opcode :=
  [Op.SXTAB, Op.SXTAB16, Op.SXTAH, Op.UXTAB, Op.UXTAB16, Op.UXTAH]

def extOps : List Opcode := [Op.SXTB, Op.SXTB16, Op.SXTH, Op.UXTB, Op.UXTB16, Op.UXTH]
def reverseOps : List Opcode := [Op.RBIT, Op.REV, Op.REV16, Op.REVSH]
def satOps : List Opcode := [Op.SSAT, Op.USAT, Op.SSAT16, Op.USAT16]
def preloadOps : List Opcode := [Op.PLI, Op.PLD, Op.PLI_imm, Op.PLD_imm, Op.PLD_lit]

/-- Extend and add.  The source calls the first operand `n` and the second `m`; in the rows
they are the rotated register and the base. -/
def genExtAdd (op : Opcode) (s : GenState) : InstrStatus × GenState :=
  let row := glbInstrTlb op
  let ((d, n, m), s) := bias3 .allowBiasOpnd row.output0 row.input0 row.input1
    (getRegnum s.rawInstr row.output0, getRegnum s.rawInstr row.input0,
      getRegnum s.rawInstr row.input1) s
  let status := .valid
  let status := if n = R_PC then .alias else status
  let status := if d = R_PC ∨ m = R_PC then .unpredictable else status
  (if d = R_PC then .unsupported else status, s)

/-- Extend.  The source writes both biased registers to the output slot. -/
def genExt (op : Opcode) (s : GenState) : InstrStatus × GenState :=
  let row := glbInstrTlb op
  let ((d, m), s) := bias2 .allowBiasOpnd row.output0 row.output0
    (getRegnum s.rawInstr row.output0, getRegnum s.rawInstr row.input0) s
  let status := .valid
  let status := if d = R_PC ∨ m = R_PC then .unpredictable else status
  (if d = R_PC then .unsupported else status, s)

def reverseStatus (op : Opcode) (instr : Word) : InstrStatus :=
  let d := getRegnum instr (glbInstrTlb op).output0
  let m := getRegnum instr (glbInstrTlb op).input0
  let status := .valid
  let status := if d = R_PC ∨ m = R_PC then .unpredictable else status
  if d = R_PC then .unsupported else status

/-- Saturate.  The biased source register is written to the first input slot, which holds the
saturation immediate. -/
def genSat (op : Opcode) (s : GenState) : InstrStatus × GenState :=
  let row := glbInstrTlb op
  let ((d, n), s) := bias2 .allowBiasReg row.output0 row.input0
    (getRegnum s.rawInstr row.output0, getRegnum s.rawInstr row.input1) s
  let s := if op = Op.SSAT ∨ op = Op.USAT then biasShiftImm s else s
  (if d = R_PC ∨ n = R_PC then .unpredictable else .valid, s)

def genPkh (op : Opcode) (s : GenState) : InstrStatus × GenState :=
  let (status, s) := genThreeReg .allowBiasReg op s
  (status, biasShiftImm s)

/-- Bit-field extract. -/
def genBfx (op : Opcode) (s : GenState) : InstrStatus × GenState :=
  let row := glbInstrTlb op
  let lsbit := getBitsValue s.rawInstr 7 11
  let widthm1 := getBitsValue s.rawInstr 16 20
  let ((d, n), s) := bias2 .allowBiasReg row.output0 row.input0
    (getRegnum s.rawInstr row.output0, getRegnum s.rawInstr row.input0) s
  let status := .valid
  let status := if d = R_PC ∨ n = R_PC then .unpredictable else status
  let status := if lsbit + widthm1 > 31 then .unpredictable else status
  (if d = R_PC then .unsupported else status, s)

def bfcStatus (op : Opcode) (instr : Word) : InstrStatus :=
  let d := getRegnum instr (glbInstrTlb op).output0
  let msbit := getBitsValue instr 16 20
  let lsbit := getBitsValue instr 7 11
  let status := .valid
  let status := if d = R_PC then .unsupported else status
  if msbit < lsbit then .unpredictable else status

def genBfi (op : Opcode) (s : GenState) : InstrStatus × GenState :=
  let row := glbInstrTlb op
  let msb := getBitsValue s.rawInstr 16 20
  let lsb := getBitsValue s.rawInstr 7 11
  let ((d, n), s) := bias2 .allowBiasReg row.output0 row.input2
    (getRegnum s.rawInstr row.output0, getRegnum s.rawInstr row.input2) s
  let status := .valid
  let status := if n = R_PC then .alias else status
  let status := if msb < lsb then .unpredictable else status
  (if d = R_PC then .unsupported else status, s)

def genUsada8 (op : Opcode) (s : GenState) : InstrStatus × GenState :=
  let row := glbInstrTlb op
  let ((d, n, m, a), s) := bias4 .allowBiasReg row.output0 row.input0 row.input1 row.input2
    (getRegnum s.rawInstr row.output0, getRegnum s.rawInstr row.input0,
      getRegnum s.rawInstr row.input1, getRegnum s.rawInstr row.input2) s
  let status := .valid
  let status := if a = R_PC then .alias else status
  let status := if d = R_PC ∨ n = R_PC ∨ m = R_PC then .unpredictable else status
  (if d = R_PC then .unsupported else status, s)

def selStatus (op : Opcode) (instr : Word) : InstrStatus :=
  let d := getRegnum instr (glbInstrTlb op).output0
  let n := getRegnum instr (glbInstrTlb op).input0
  let m := getRegnum instr (glbInstrTlb op).input1
  if d = R_PC ∨ n = R_PC ∨ m = R_PC then .unpredictable else .valid

/-- Moves to and from the status register. -/
def srStatus (op : Opcode) (instr : Word) : InstrStatus :=
  let mask := getBitsValue instr 18 19
  if op = Op.MRS_a then
    if getRegnum instr (glbInstrTlb op).output0 = R_PC then .unpredictable else .valid
  else if op = Op.MSR_imm_a then if mask = 0 then .unsupported else .valid
  else
    let status := if mask = 0 then .unpredictable else .valid
    if getRegnum instr (glbInstrTlb op).input0 = R_PC then .unpredictable else status

/-- Preloads.  The literal and the `PLI` immediate form are always accepted. -/
def preloadStatus (op : Opcode) (instr : Word) : InstrStatus :=
  let n := getBitsValue instr 16 19
  let m := getBitsValue instr 0 3
  if op = Op.PLD_imm then if n = R_PC then .alias else .valid
  else if op = Op.PLI then if m = R_PC then .unpredictable else .valid
  else if op = Op.PLD then
    if m = R_PC ∨ (getBitValue instr 22 = 0 ∧ n = R_PC) then .unpredictable else .valid
  else .valid

def genUncategorizedInstr (op : Opcode) (s : GenState) : InstrStatus × GenState :=
  if op ∈ parallelOps then genParallelAddSubInstr op s
  else if op ∈ extAddOps then genExtAdd op s
  else if op ∈ extOps then genExt op s
  else if op ∈ reverseOps then (reverseStatus op s.rawInstr, s)
  else if op ∈ satOps then genSat op s
  else if op = Op.PKH then genPkh op s
  else if op = Op.SBFX ∨ op = Op.UBFX then genBfx op s
  else if op = Op.BFC then (bfcStatus op s.rawInstr, s)
  else if op = Op.BFI then genBfi op s
  else if op = Op.USAD8 then genThreeReg .allowBiasReg op s
  else if op = Op.USADA8 then genUsada8 op s
  else if op = Op.SEL then (selStatus op s.rawInstr, s)
  else if op ∈ [Op.MRS_a, Op.MSR_imm_a, Op.MSR_reg_a] then (srStatus op s.rawInstr, s)
  else if op ∈ preloadOps then (preloadStatus op s.rawInstr, s)
  else (.unsupported, s)

end Rit
