import Rit.NewSrc.GenHelper

/-!
# `GenARMInstr`, part one: loads and stores

`gen_ld_instr`, `gen_st_instr`, `gen_multi_mem_instr`, `gen_ldex_instr` and `gen_stex_instr`.

Each branch of the source first runs a chain of assignments to `status` and then prints the
prelude that makes the access hit mapped memory.  The chain is a function `…Status` of the
instruction word; the printing part is shared by the branches and comes in three shapes,
`immTail`, `regTail` and `multiTail`.  The lists of opcodes a branch compares with are named.
-/

namespace Rit

open GenState

/-! ## Addressing bits -/

/-- `P == 0 || W == 1`, with `P` at bit 24 and `W` at bit 21. -/
def wback (instr : Word) : Prop := getBitValue instr 24 = 0 ∨ getBitValue instr 21 = 1

instance (instr : Word) : Decidable (wback instr) := inferInstanceAs (Decidable (_ ∨ _))

/-- `P == 1`. -/
def index (instr : Word) : Bool := getBitValue instr 24 = 1

/-- `U == 1`. -/
def add (instr : Word) : Bool := getBitValue instr 23 = 1

/-- `P == 0 && W == 1`: the encoding of the unprivileged forms. -/
def unpriv (instr : Word) : Prop := getBitValue instr 24 = 0 ∧ getBitValue instr 21 = 1

instance (instr : Word) : Decidable (unpriv instr) := inferInstanceAs (Decidable (_ ∧ _))

/-! ## Printing the prelude -/

/-- The two checks on the accessed address: an unaligned halfword before ARMv7, and
`is_mem_align` for words. -/
def memStatus (o : GenOption) (half word : Bool) (memAddr : Word) (status : InstrStatus) :
    InstrStatus :=
  let status := if half ∧ memAddr &&& 1 ≠ 0 ∧ o.archVersion < 7 then .instUnknown else status
  if word ∧ ¬ isMemAlign o memAddr 2 then .unsupported else status

/-- The prelude of an immediate-offset access.  A dual access that indexes also gets the low
two bits of its offset cleared. -/
def immTail (n : Word) (dual half word : Bool) (status : InstrStatus) (s : GenState) :
    InstrStatus × GenState :=
  let instr := s.rawInstr
  if status = .unsupported then (status, s)
  else if ¬ s.optStat .notAllowFixMem then
    let s := fixMemBase n dual s
    (status, if dual ∧ index instr then s.setRawInstr (setInstr instr 0 1 0) else s)
  else
    let (baseVal, s) := genPreInstrForMemBase n s
    let memAddr := getMemAddr baseVal (instr &&& 0xf) (add instr) (index instr)
    (memStatus s.options half word memAddr status, s)

/-- The value drawn for the offset register in memory-fix mode. -/
def fixOffset (shifted dual : Bool) (shiftT shiftN : Word) (s : GenState) : Word × GenState :=
  if shifted then
    let (res, s) := getRandMemOffset shiftT shiftN s
    (res.1, s)
  else if dual then (s.nextRand &&& (s.options.memOffsetVal &&& ~~~3), s.afterRand)
  else (s.nextRand &&& s.options.memOffsetVal, s.afterRand)

/-- The prelude of a register-offset access with offset register `m`. -/
def regTail (n m shiftT shiftN : Word) (shifted dual half word : Bool) (status : InstrStatus)
    (s : GenState) : InstrStatus × GenState :=
  let instr := s.rawInstr
  if status = .unsupported then (status, s)
  else if ¬ s.optStat .notAllowFixMem then
    let s := fixMemBase n dual s
    let (offsetVal, s) := fixOffset shifted dual shiftT shiftN s
    (status, s.insertInstrs [.inst (.ldr m offsetVal)])
  else
    let (baseVal, s) := genPreInstrForMemBase n s
    let (res, s) := getRandMemOffset shiftT shiftN s
    let memAddr := getMemAddr baseVal res.2 (add instr) (index instr)
    let s := s.insertInstrs [.inst (.ldr m res.1)]
    (memStatus s.options half word memAddr status, s)

/-- The prelude of a multiple access. -/
def multiTail (n : Word) (status : InstrStatus) (s : GenState) : InstrStatus × GenState :=
  if status = .unsupported then (status, s)
  else if ¬ s.optStat .notAllowFixMem then (status, fixMemBase n true s)
  else
    let (baseVal, s) := genPreInstrForMemBase n s
    (if ¬ isMemAlign s.options baseVal 2 then .unsupported else status, s)

/-- The shift amount and type of a register offset: the fields of the shift operand, where
amount zero of `LSR` and `ASR` means 32, or no shift. -/
def decodeShift (shifted : Bool) (instr : Word) (opnd : Opnd) : Word × Word :=
  if shifted then
    let shiftN := getBitsValue instr opnd.startBit opnd.endBit
    let shiftT := getBitsValue instr opnd.bit1 opnd.bit2
    (if (shiftT = 1 ∨ shiftT = 2) ∧ shiftN = 0 then 32 else shiftN, shiftT)
  else (0, 0)

/-! ## `gen_ld_instr` -/

def ldImmOps : List Opcode :=
  [Op.LDR_imm, Op.LDRB_imm, Op.LDRH_imm, Op.LDRD_imm, Op.LDRSB_imm, Op.LDRSH_imm]

def ldtA1Ops : List Opcode :=
  [Op.LDRT_a1, Op.LDRHT_a1, Op.LDRSHT_a1, Op.LDRBT_a1, Op.LDRSBT_a1]

def ldRegOps : List Opcode :=
  [Op.LDR_reg, Op.LDRB_reg, Op.LDRH, Op.LDRD_reg, Op.LDRSB, Op.LDRSH]

def ldtA2Ops : List Opcode :=
  [Op.LDRT_a2, Op.LDRHT_a2, Op.LDRSHT_a2, Op.LDRBT_a2, Op.LDRSBT_a2]

def ldLitOps : List Opcode :=
  [Op.LDR_lit, Op.LDRB_lit, Op.LDRH_lit, Op.LDRD_lit, Op.LDRSB_lit, Op.LDRSH_lit]

/-- The status of an immediate-offset load. -/
def ldImmStatus (op : Opcode) (instr : Word) : InstrStatus :=
  let t := getRegnum instr (glbInstrTlb op).output0
  let n := getRegnum instr (glbInstrTlb op).input0
  let status := .valid
  let status := if unpriv instr then
    if op = Op.LDRD_imm then .unpredictable else .alias else status
  let status := if wback instr ∧ n = t then .unpredictable else status
  -- SEE POP
  let status := if op = Op.LDR_imm ∧ instr &&& 0x01af0fff = 0x009d0004 then .alias else status
  let status := if t = R_PC then
    if op ∈ [Op.LDRB_imm, Op.LDRH_imm, Op.LDRSB_imm, Op.LDRSH_imm] then .unpredictable
    else .unsupported else status
  let status := if op = Op.LDRD_imm ∧ (t % 2 = 1 ∨ t = 14) then .unpredictable else status
  let status := if op = Op.LDRD_imm ∧ wback instr ∧ n = t + 1 then .unpredictable else status
  if n = R_PC then .unsupported else status

def genLdImm (op : Opcode) (s : GenState) : InstrStatus × GenState :=
  immTail (getRegnum s.rawInstr (glbInstrTlb op).input0) (op = Op.LDRD_imm)
    (op ∈ [Op.LDRH_imm, Op.LDRSH_imm]) (op ∈ [Op.LDR_imm, Op.LDRD_imm])
    (ldImmStatus op s.rawInstr) s

/-- The status of an unprivileged immediate-offset load. -/
def ldtA1Status (op : Opcode) (instr : Word) : InstrStatus :=
  let t := getRegnum instr (glbInstrTlb op).output0
  let n := getRegnum instr (glbInstrTlb op).input0
  let status := .valid
  let status := if t = R_PC ∨ n = R_PC ∨ n = t then .unpredictable else status
  if t = R_PC ∨ n = R_PC then .unsupported else status

def genLdtA1 (op : Opcode) (s : GenState) : InstrStatus × GenState :=
  immTail (getRegnum s.rawInstr (glbInstrTlb op).input0) false
    (op ∈ [Op.LDRHT_a1, Op.LDRSHT_a1]) (op = Op.LDRT_a1) (ldtA1Status op s.rawInstr) s

/-- The status of a register-offset load. -/
def ldRegStatus (op : Opcode) (o : GenOption) (instr : Word) : InstrStatus :=
  let t := getRegnum instr (glbInstrTlb op).output0
  let n := getRegnum instr (glbInstrTlb op).input0
  let m := getRegnum instr (glbInstrTlb op).input1
  let t2 := t + 1
  let status := .valid
  let status := if unpriv instr then
    if op = Op.LDRD_reg then .unpredictable else .alias else status
  let status := if m = R_PC then .unpredictable else status
  let status := if t = R_PC ∧ op ∈ [Op.LDRB_reg, Op.LDRH, Op.LDRSB, Op.LDRSH] then .unpredictable
    else status
  let status := if wback instr ∧ (n = R_PC ∨ n = t) then .unpredictable else status
  let status := if o.archVersion < 6 ∧ wback instr ∧ m = n then .unpredictable else status
  let status := if op = Op.LDRD_reg ∧ t % 2 = 1 then .unpredictable else status
  let status := if op = Op.LDRD_reg ∧ unpriv instr then .unpredictable else status
  let status := if op = Op.LDRD_reg ∧ (m = t ∨ m = t2) then .unpredictable else status
  let status := if op = Op.LDRD_reg ∧ wback instr ∧ n = t2 then .unpredictable else status
  let status := if op = Op.LDRD_reg ∧ t2 = R_PC then .unsupported else status
  let status := if t = R_PC then .unsupported else status
  let status := if n = R_PC then .unsupported else status
  if m = n then .unsupported else status

def genLdReg (op : Opcode) (s : GenState) : InstrStatus × GenState :=
  let shifted : Bool := op ∈ [Op.LDR_reg, Op.LDRB_reg]
  let shift := decodeShift shifted s.rawInstr (glbInstrTlb op).input2
  regTail (getRegnum s.rawInstr (glbInstrTlb op).input0)
    (getRegnum s.rawInstr (glbInstrTlb op).input1) shift.2 shift.1 shifted (op = Op.LDRD_reg)
    (op ∈ [Op.LDRH, Op.LDRSH]) (op ∈ [Op.LDR_reg, Op.LDRD_reg])
    (ldRegStatus op s.options s.rawInstr) s

/-- The status of an unprivileged register-offset load. -/
def ldtA2Status (op : Opcode) (instr : Word) : InstrStatus :=
  let t := getRegnum instr (glbInstrTlb op).output0
  let n := getRegnum instr (glbInstrTlb op).input0
  let m := getRegnum instr (glbInstrTlb op).input1
  let status := .valid
  let status := if t = R_PC ∨ n = R_PC ∨ m = R_PC ∨ n = t then .unpredictable else status
  let status := if t = R_PC ∨ n = R_PC ∨ m = R_PC then .unsupported else status
  if m = n then .unsupported else status

def genLdtA2 (op : Opcode) (s : GenState) : InstrStatus × GenState :=
  let shifted : Bool := op ∈ [Op.LDRT_a2, Op.LDRBT_a2]
  let shift := decodeShift shifted s.rawInstr (glbInstrTlb op).input2
  regTail (getRegnum s.rawInstr (glbInstrTlb op).input0)
    (getRegnum s.rawInstr (glbInstrTlb op).input1) shift.2 shift.1 shifted false
    (op ∈ [Op.LDRHT_a2, Op.LDRSHT_a2]) (op = Op.LDRT_a2) (ldtA2Status op s.rawInstr) s

/-- The status of a literal load. -/
def ldLitStatus (op : Opcode) (instr : Word) : InstrStatus :=
  let t := getRegnum instr (glbInstrTlb op).output0
  if op = Op.LDR_lit then if t = R_PC then .unsupported else .valid
  else if op = Op.LDRD_lit then if t % 2 = 1 ∨ t = 14 then .unpredictable else .valid
  else if t = R_PC then .unpredictable else .valid

def genLdLit (op : Opcode) (s : GenState) : InstrStatus × GenState :=
  (ldLitStatus op s.rawInstr,
    if op = Op.LDRD_lit then s.setRawInstr (clearBits s.rawInstr 0 1) else s)

def genLdInstr (op : Opcode) (s : GenState) : InstrStatus × GenState :=
  setOprandInit <|
    if op ∈ ldImmOps then genLdImm op s
    else if op ∈ ldtA1Ops then genLdtA1 op s
    else if op ∈ ldRegOps then genLdReg op s
    else if op ∈ ldtA2Ops then genLdtA2 op s
    else if op ∈ ldLitOps then genLdLit op s
    else (.unsupported, s)

/-! ## `gen_st_instr` -/

def stImmOps : List Opcode := [Op.STR_imm, Op.STRB_imm, Op.STRH_imm, Op.STRD_imm]
def sttA1Ops : List Opcode := [Op.STRT_a1, Op.STRBT_a1, Op.STRHT_a1]
def stRegOps : List Opcode := [Op.STR_reg, Op.STRB_reg, Op.STRH_reg, Op.STRD_reg]
def sttA2Ops : List Opcode := [Op.STRT_a2, Op.STRBT_a2, Op.STRHT_a2]

/-- The status of an immediate-offset store.  The `PUSH` pattern is tested for all four
opcodes, not only for `STR_imm`. -/
def stImmStatus (op : Opcode) (instr : Word) : InstrStatus :=
  let t := getRegnum instr (glbInstrTlb op).input0
  let n := getRegnum instr (glbInstrTlb op).input1
  let status := .valid
  let status := if unpriv instr then .alias else status
  -- SEE PUSH
  let status := if instr &&& 0x01af0fff = 0x012d0004 then .alias else status
  let status := if wback instr ∧ (n = R_PC ∨ n = t) then .unpredictable else status
  let status := if t = R_PC ∧ op ∈ [Op.STRB_imm, Op.STRH_imm] then .unpredictable else status
  let status := if op = Op.STRD_imm ∧ unpriv instr then .unpredictable else status
  let status := if op = Op.STRD_imm ∧ (t % 2 = 1 ∨ t = 14) then .unpredictable else status
  let status := if op = Op.STRD_imm ∧ wback instr ∧ n = t + 1 then .unpredictable else status
  if n = R_PC then .unsupported else status

def genStImm (op : Opcode) (s : GenState) : InstrStatus × GenState :=
  immTail (getRegnum s.rawInstr (glbInstrTlb op).input1) (op = Op.STRD_imm)
    (op = Op.STRH_imm) (op ∈ [Op.STR_imm, Op.STRD_imm]) (stImmStatus op s.rawInstr) s

/-- The status of an unprivileged immediate-offset store. -/
def sttA1Status (op : Opcode) (instr : Word) : InstrStatus :=
  let t := getRegnum instr (glbInstrTlb op).input0
  let n := getRegnum instr (glbInstrTlb op).input1
  let status := .valid
  let status := if n = R_PC ∨ n = t then .unpredictable else status
  let status := if op ∈ [Op.STRBT_a1, Op.STRHT_a1] ∧ t = R_PC then .unpredictable else status
  if n = R_PC then .unsupported else status

def genSttA1 (op : Opcode) (s : GenState) : InstrStatus × GenState :=
  immTail (getRegnum s.rawInstr (glbInstrTlb op).input1) false
    (op = Op.STRHT_a1) (op = Op.STRT_a1) (sttA1Status op s.rawInstr) s

/-- The status of a register-offset store. -/
def stRegStatus (op : Opcode) (o : GenOption) (instr : Word) : InstrStatus :=
  let t := getRegnum instr (glbInstrTlb op).input0
  let n := getRegnum instr (glbInstrTlb op).input1
  let m := getRegnum instr (glbInstrTlb op).input2
  let status := .valid
  let status := if unpriv instr then
    if op = Op.STRD_reg then .unpredictable else .alias else status
  let status := if m = R_PC then .unpredictable else status
  let status := if t = R_PC ∧ op ∈ [Op.STRB_reg, Op.STRH_reg] then .unpredictable else status
  let status := if wback instr ∧ (n = R_PC ∨ n = t) then .unpredictable else status
  let status := if o.archVersion < 6 ∧ wback instr ∧ m = n then .unpredictable else status
  let status := if op = Op.STRD_reg ∧ (t % 2 = 1 ∨ t = 14) then .unpredictable else status
  let status := if op = Op.STRD_reg ∧ wback instr ∧ n = t + 1 then .unpredictable else status
  let status := if n = R_PC then .unsupported else status
  if m = n then .unsupported else status

def genStReg (op : Opcode) (s : GenState) : InstrStatus × GenState :=
  let shifted : Bool := op ∈ [Op.STR_reg, Op.STRB_reg]
  let shift := decodeShift shifted s.rawInstr (glbInstrTlb op).input3
  regTail (getRegnum s.rawInstr (glbInstrTlb op).input1)
    (getRegnum s.rawInstr (glbInstrTlb op).input2) shift.2 shift.1 shifted (op = Op.STRD_reg)
    (op = Op.STRH_reg) (op ∈ [Op.STR_reg, Op.STRD_reg]) (stRegStatus op s.options s.rawInstr) s

/-- The status of an unprivileged register-offset store. -/
def sttA2Status (op : Opcode) (instr : Word) : InstrStatus :=
  let t := getRegnum instr (glbInstrTlb op).input0
  let n := getRegnum instr (glbInstrTlb op).input1
  let m := getRegnum instr (glbInstrTlb op).input2
  let status := .valid
  let status := if n = R_PC ∨ n = t ∨ m = R_PC then .unpredictable else status
  let status := if op ∈ [Op.STRBT_a2, Op.STRHT_a2] ∧ t = R_PC then .unpredictable else status
  let status := if n = R_PC ∨ m = R_PC then .unsupported else status
  if m = n then .unsupported else status

def genSttA2 (op : Opcode) (s : GenState) : InstrStatus × GenState :=
  let shifted : Bool := op ∈ [Op.STRT_a2, Op.STRBT_a2]
  let shift := decodeShift shifted s.rawInstr (glbInstrTlb op).input3
  regTail (getRegnum s.rawInstr (glbInstrTlb op).input1)
    (getRegnum s.rawInstr (glbInstrTlb op).input2) shift.2 shift.1 shifted false
    (op = Op.STRHT_a2) (op = Op.STRT_a2) (sttA2Status op s.rawInstr) s

def genStInstr (op : Opcode) (s : GenState) : InstrStatus × GenState :=
  setOprandInit <|
    if op ∈ stImmOps then genStImm op s
    else if op ∈ sttA1Ops then genSttA1 op s
    else if op ∈ stRegOps then genStReg op s
    else if op ∈ sttA2Ops then genSttA2 op s
    else (.unsupported, s)

/-! ## `gen_multi_mem_instr`

The four `assert`s of the source name every row of their kind below `SISA_OP_ARM_MAX`, so
they never fire. -/

/-- The status of a load multiple. -/
def ldmStatus (op : Opcode) (o : GenOption) (instr : Word) : InstrStatus :=
  let n := getRegnum instr (glbInstrTlb op).input0
  let W := getBitValue instr 21
  let registerList := instr &&& 0xffff
  let regCnt := bitCount registerList
  let status := .valid
  -- SEE POP
  let status := if op = Op.LDM ∧ W = 1 ∧ n = R_SP ∧ regCnt ≥ 2 then .alias else status
  let status := if n = R_PC ∨ regCnt < 1 then .unpredictable else status
  let status := if W ≠ 0 ∧ getBitValue registerList n.toNat ≠ 0 then
    if o.archVersion ≥ 7 then .unpredictable else .instUnknown else status
  let status := if n = R_PC then .unsupported else status
  -- LoadWritePC
  if getBitValue registerList R_PC.toNat = 1 then .unsupported else status

/-- The status of a store multiple. -/
def stmStatus (op : Opcode) (instr : Word) : InstrStatus :=
  let n := getRegnum instr (glbInstrTlb op).input0
  let W := getBitValue instr 21
  let registerList := instr &&& 0xffff
  let regCnt := bitCount registerList
  let status := .valid
  -- SEE PUSH
  let status := if op = Op.STMDB ∧ W = 1 ∧ n = R_SP ∧ regCnt ≥ 2 then .alias else status
  let status := if n = R_PC ∨ regCnt < 1 then .unpredictable else status
  let status := if getBitValue registerList n.toNat = 1 ∧ W ≠ 0 ∧
      registerList &&& shr 0xffff (16 - n).toNat ≠ 0 then .instUnknown else status
  if n = R_PC then .unsupported else status

/-- The status of the two `PUSH` encodings. -/
def pushStatus (op : Opcode) (instr : Word) : InstrStatus :=
  let registerList := instr &&& 0xffff
  let status := .valid
  let status := if op = Op.PUSH_a1 ∧ bitCount registerList < 2 then .alias else status
  let status := if op = Op.PUSH_a1 ∧ getBitValue registerList R_SP.toNat ≠ 0 ∧
      registerList &&& 0x1fff ≠ 0 then .instUnknown else status
  if op = Op.PUSH_a2 ∧ instr &&& 0xf000 = 0xd000 then .unpredictable else status

/-- The status of the two `POP` encodings. -/
def popStatus (op : Opcode) (o : GenOption) (instr : Word) : InstrStatus :=
  let registerList := instr &&& 0xffff
  let status := .valid
  let status := if op = Op.POP_a1 ∧ bitCount registerList < 2 then .alias else status
  let status := if op = Op.POP_a1 ∧ getBitValue registerList R_SP.toNat ≠ 0 then
    if o.archVersion ≥ 7 then .unpredictable else .instUnknown else status
  let status := if op = Op.POP_a1 ∧ getBitValue registerList R_PC.toNat ≠ 0 then .unsupported
    else status
  let status := if op = Op.POP_a2 ∧ instr &&& 0xf000 = 0xd000 then .unpredictable else status
  if op = Op.POP_a2 ∧ instr &&& 0xf000 = 0xf000 then .unsupported else status

def genMultiMemInstr (op : Opcode) (s : GenState) : InstrStatus × GenState :=
  let n := getRegnum s.rawInstr (glbInstrTlb op).input0
  setOprandInit <|
    match (glbInstrTlb op).opKind with
    | .ldmOp => multiTail n (ldmStatus op s.options s.rawInstr) s
    | .stmOp => multiTail n (stmStatus op s.rawInstr) s
    | .pushOp => multiTail R_SP (pushStatus op s.rawInstr) s
    | .popOp => multiTail R_SP (popStatus op s.options s.rawInstr) s
    | _ => (.unsupported, s)

/-! ## Exclusive accesses -/

/-- The status of an exclusive load. -/
def ldexStatus (op : Opcode) (instr : Word) : InstrStatus :=
  let t := getRegnum instr (glbInstrTlb op).output0
  let n := getRegnum instr (glbInstrTlb op).input0
  let status := .valid
  let status := if t = R_PC ∨ n = R_PC then .unpredictable else status
  if op = Op.LDREXD ∧ (t = 14 ∨ t % 2 = 1) then .unpredictable else status

def genLdexInstr (op : Opcode) (s : GenState) : InstrStatus × GenState :=
  (ldexStatus op s.rawInstr, fixMemBase (getRegnum s.rawInstr (glbInstrTlb op).input0) true s)

/-- The status of an exclusive store. -/
def stexStatus (op : Opcode) (instr : Word) : InstrStatus :=
  let d := getRegnum instr (glbInstrTlb op).output0
  let t := getRegnum instr (glbInstrTlb op).input0
  let n := getRegnum instr (glbInstrTlb op).input1
  let t2 := t + 1
  let status := .valid
  let status := if d = R_PC ∨ t = R_PC ∨ n = R_PC then .unpredictable else status
  let status := if d = n ∨ d = t then .unpredictable else status
  if op = Op.STREXD ∧ (t2 = R_PC ∨ d = t2 ∨ t % 2 = 1) then .unpredictable else status

def genStexInstr (op : Opcode) (s : GenState) : InstrStatus × GenState :=
  (stexStatus op s.rawInstr, fixMemBase (getRegnum s.rawInstr (glbInstrTlb op).input1) true s)

end Rit
