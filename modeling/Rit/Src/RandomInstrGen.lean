import Rit.NewSrc.InstrGenerator

/-!
# The first library: generating one instruction

`src/rit/src` is the library that `new_src` grew out of, and the one the Python half loads.  Its
table and the files `InstrUtil.c`, `BiasUtil.c`, `GenARMInstr.c`, `GenThumbInstr.c` and
`GenThumb32Instr.c` are those of `new_src` up to the spelling of the options, so their functions are
not translated a second time: `Work.toGen` presents the globals of this library in the way the
generators of `new_src` read them.  Of `GenHelper.c` one difference can be observed, that
`fix_mem_base` does not refuse the program counter; it matters for the exclusive accesses, the only
callers that have not refused it themselves.

What is new here is the way to the generators: the requested register classes, the order of the
stages, the condition written last, and the retry loop over one opcode.

The options `bias_register` and `bias_oprand_value` are assigned nowhere but in
`set_default_option`, which assigns `false`.  The branches they guard are left out, and with them
`init_instr_buf`, `is_reg_init` and `reg_init_vals`, which only those branches read.
-/

namespace Rit.Src

/-! ## Options and globals -/

/-- `arm_regs_t`. -/
inductive ArmRegs
  | default
  | r0to3
  | r4to7
  | r8to12
  | sp
  | lr
  | pc
  deriving DecidableEq, Repr

/-- `instr_set_t`. -/
inductive InstrSet
  | armv5
  | armv7
  | thumb
  deriving DecidableEq, Repr

/-- The instruction set is one of the two ARM ones. -/
def InstrSet.isArm : InstrSet → Bool
  | .thumb => false
  | _ => true

/-- `gen_option_t`.  `cond_val` is an `int` that is only shifted into a word. -/
structure GenOption where
  allowUnalignMem : Bool
  fixMem : Bool
  memBaseVal : Word
  memBaseMask : Word
  memOffsetVal : Word
  condVal : Word
  srcRegs : ArmRegs
  dstRegs : ArmRegs
  isSbitInit : Bool
  sbitVal : Int
  isShiftImmInit : Bool
  shiftImmVal : Word
  archVersion : Word
  isa : InstrSet
  deriving DecidableEq, Repr

/-- The word under construction and what the calls of `rand()` still to come will return. -/
structure Draft where
  rawInstr : Word
  randStream : ℕ → BitVec 31

namespace Draft

/-- The value the next call of `rand()` returns. -/
def nextRand (d : Draft) : Word := (d.randStream 0).setWidth 32

/-- The globals after one call of `rand()`. -/
def afterRand (d : Draft) : Draft := { d with randStream := fun i => d.randStream (i + 1) }

end Draft

/-- The globals that the generation of an instruction reads and writes. -/
structure Work extends Draft where
  options : GenOption
  instrBuf : List Line

/-! ## The generators of `new_src` -/

/-- The options as the generators of `new_src` read them.  They ask whether the instruction set is
Thumb or one of the two ARM ones, and no more: `is_op_armv5_instr` accepts every opcode.  The option
bit for unaligned accesses has the opposite sense there. -/
def GenOption.toGen (o : GenOption) : Rit.GenOption :=
  let g := { zeroOptions with
    isa := if o.isa = .thumb then .thumb else .armv7
    archVersion := o.archVersion
    condVal := o.condVal
    memBaseVal := o.memBaseVal
    memBaseMask := o.memBaseMask
    memOffsetVal := o.memOffsetVal }
  let g := if o.fixMem then g else g.setOptStat .notAllowFixMem
  if o.allowUnalignMem then g else g.setOptStat .allowUnalignMem

def isMemAlign (o : GenOption) (addr : Word) (alignBit : ℕ) : Bool :=
  let mask := shl 1 alignBit - 1
  if ¬ o.allowUnalignMem ∧ addr &&& mask ≠ 0 then false else true

/-- The globals as the generators of `new_src` read them.  No unassigned local is ever read: the
shift type that `get_rand_mem_offset` is given has two bits. -/
def Work.toGen (w : Work) : GenState :=
  { staticState w.randStream fun _ => 0 with
    options := w.options.toGen
    rawInstr := w.rawInstr
    instrBuf := w.instrBuf }

/-- Run a generator of `new_src`.  Besides the word, the lines and the random numbers, the
generators write only `options.cond_val`. -/
def Work.lift (gen : GenState → InstrStatus × GenState) (w : Work) : InstrStatus × Work :=
  let (status, g) := gen w.toGen
  (status,
    { w with
      rawInstr := g.rawInstr
      randStream := g.randStream
      instrBuf := g.instrBuf
      options := { w.options with condVal := g.options.condVal } })

/-! ## `fix_mem_base` for the exclusive accesses -/

/-- The lines of `fix_mem_base`. -/
def fixMemBaseLines (o : Rit.GenOption) (regBase : Word) (forceAlign : Bool) : List Line :=
  let unsetMask := ~~~o.memBaseVal &&& o.memBaseMask
  let setMask := o.memBaseVal &&& o.memBaseMask
  let tmpReg : Word := if regBase ≠ 0 then 0 else 1
  let viaR2 : Bool := o.isa = .thumb ∧ regBase > 7
  let regBaseT : Word := if viaR2 then regBase else 0
  let regBase : Word := if viaR2 then 2 else regBase
  let copyIn : List Line := if viaR2 then [.inst (.mov regBase regBaseT)] else []
  let unsetMask := if forceAlign then unsetMask ||| 3 else unsetMask
  let body : List Line :=
    if o.isa = .thumb then
      [.code (.ldr tmpReg unsetMask), .code (.bics regBase tmpReg),
        .code (.ldr tmpReg setMask), .code (.orrs regBase tmpReg)]
    else
      (if isImmEncodable o unsetMask then [.code (.bicImm regBase regBase unsetMask)]
        else [.code (.ldr tmpReg unsetMask), .code (.bic regBase tmpReg)]) ++
      (if isImmEncodable o setMask then [.code (.orrImm regBase regBase setMask)]
        else [.code (.ldr tmpReg setMask), .code (.orr regBase tmpReg)])
  let align : List Line := if forceAlign then [.inst (.bicThree regBase regBase)] else []
  let copyOut : List Line :=
    if o.isa = .thumb ∧ regBaseT > 7 then [.inst (.mov regBaseT regBase)] else []
  copyIn ++ body ++ align ++ copyOut

def genLdexInstr (op : Opcode) (s : GenState) : InstrStatus × GenState :=
  (ldexStatus op s.rawInstr, s.insertInstrs
    (fixMemBaseLines s.options (getRegnum s.rawInstr (glbInstrTlb op).input0) true))

def genStexInstr (op : Opcode) (s : GenState) : InstrStatus × GenState :=
  (stexStatus op s.rawInstr, s.insertInstrs
    (fixMemBaseLines s.options (getRegnum s.rawInstr (glbInstrTlb op).input1) true))

/-- The dispatch of `gen_instr` for ARM opcodes. -/
def genArmInstr (op : Opcode) (s : GenState) : InstrStatus × GenState :=
  if op ∈ armUncategoriedOp then genUncategorizedInstr op s
  else
    match (glbInstrTlb op).opKind with
    | .ldrexOp => genLdexInstr op s
    | .strexOp => genStexInstr op s
    | _ => Rit.genArmInstr op s

/-! ## Register classes -/

def isOpndRevisableReg (op : Opcode) (opnd : Opnd) : Bool :=
  match opnd.type with
  | .gpr | .gprRw | .gprSet | .shiftReg | .rotateReg =>
    !isFixedOprand op opnd.startBit opnd.endBit
  | .gprMerge =>
    !isFixedOprand op opnd.startBit opnd.endBit && !isFixedOprand op opnd.bit1 opnd.bit1
  | .gprList | .gprListT => true
  | _ => false

/-- The register that `update_instr_reg_opnd` draws from a class. -/
def drawReg (reg : ArmRegs) (d : Draft) : Word × Draft :=
  let regVal := d.nextRand % 16
  let d := d.afterRand
  match reg with
  | .default => (regVal, d)
  | .r0to3 => (regVal % 4, d)
  | .r4to7 => (regVal % 4 + 4, d)
  | .r8to12 => (d.nextRand % 5 + 8, d.afterRand)
  | .sp => (13, d)
  | .lr => (14, d)
  | .pc => (15, d)

/-- The word after register `regVal` has been written to an operand. -/
def writeReg (op : Opcode) (opnd : Opnd) (regVal w : Word) : Word :=
  match opnd.type with
  | .gpr | .gprRw | .gprSet | .shiftReg | .rotateReg =>
    setInstr w opnd.startBit opnd.endBit regVal
  | .gprList =>
    let bit := regVal.toNat % (opnd.endBit - opnd.startBit + 1) + opnd.startBit
    if isFixedOprand op bit bit then w else setInstr w bit bit 1
  | .gprMerge =>
    setInstr (setInstr w opnd.startBit opnd.endBit (regVal &&& 0x7)) opnd.bit1 opnd.bit1
      (if regVal > 7 then 1 else 0)
  | .gprListT =>
    let bit := if regVal.toNat = opnd.bit2 then opnd.bit1
      else regVal.toNat % (opnd.endBit - opnd.startBit + 1) + opnd.startBit
    setInstr w bit bit 1
  | _ => w

def updateInstrRegOpnd (op : Opcode) (opnd : Opnd) (reg : ArmRegs) (d : Draft) : Draft :=
  let (regVal, d) := drawReg reg d
  { d with rawInstr := writeReg op opnd regVal d.rawInstr }

/-- `if (is_opnd_revisable_reg(..)) update_instr_reg_opnd(..)`. -/
def reviseReg (op : Opcode) (reg : ArmRegs) (d : Draft) (opnd : Opnd) : Draft :=
  if isOpndRevisableReg op opnd then updateInstrRegOpnd op opnd reg d else d

/-- The class that `set_mem_src_reg` gives the offset register: not that of the base. -/
def offsetRegs (srcRegs : ArmRegs) : ArmRegs := if srcRegs = .r0to3 then .r4to7 else .r0to3

/-- The loads with an offset register. -/
def ldOffsetOps : List Opcode :=
  [Op.LDR_reg, Op.LDRB_reg, Op.LDRH, Op.LDRD_reg, Op.LDRSB, Op.LDRSH, Op.LDRT_a2, Op.LDRHT_a2,
    Op.LDRSHT_a2, Op.LDRBT_a2, Op.LDRSBT_a2, Op.LDR_reg_T1, Op.LDRB_reg_T1, Op.LDRH_reg_T1,
    Op.LDRSH_reg_T1, Op.LDRSB_reg_T1, Op.LDR_reg_T2, Op.LDRB_reg_T2, Op.LDRH_reg_T2,
    Op.LDRSB_reg_T2, Op.LDRSH_reg_T2]

/-- The stores with an offset register. -/
def stOffsetOps : List Opcode :=
  [Op.STR_reg, Op.STRB_reg, Op.STRH_reg, Op.STRD_reg, Op.STRT_a2, Op.STRHT_a2, Op.STRBT_a2,
    Op.STR_reg_T1, Op.STRH_reg_T1, Op.STRB_reg_T1, Op.STR_reg_T2, Op.STRB_reg_T2, Op.STRH_reg_T2]

/-- The load multiples whose list reaches above `r7`. -/
def ldmHighOps : List Opcode :=
  [Op.LDMDB_T1, Op.LDM_T2, Op.LDMDA, Op.LDM, Op.LDMDB, Op.LDMIB]

/-- What `set_mem_src_reg` does to the list of a load multiple: the base's class is cleared. -/
def clearBaseClass (op : Opcode) (srcRegs : ArmRegs) (w : Word) : Word :=
  match srcRegs with
  | .r0to3 => clearBits w 0 3
  | .r4to7 => clearBits w 4 7
  | .r8to12 => if op ∈ ldmHighOps then clearBits w 8 12 else w
  | .lr => if op ∈ ldmHighOps then clearBits w 14 14 else w
  | _ => w

def setMemSrcReg (op : Opcode) (srcRegs : ArmRegs) (d : Draft) : Draft :=
  let row := glbInstrTlb op
  match row.opKind with
  | .ldOp | .ldrexOp =>
    let d := reviseReg op srcRegs d row.input0
    if op ∈ ldOffsetOps then updateInstrRegOpnd op row.input1 (offsetRegs srcRegs) d else d
  | .ldmOp =>
    let d := reviseReg op srcRegs d row.input0
    { d with rawInstr := clearBaseClass op srcRegs d.rawInstr }
  | .stmOp => reviseReg op srcRegs d row.input0
  | .stOp | .strexOp =>
    let d := reviseReg op srcRegs d
      (if op ∈ [Op.STREXD_T1, Op.STRD_imm_T1] then row.input2 else row.input1)
    if op ∈ stOffsetOps then updateInstrRegOpnd op row.input2 (offsetRegs srcRegs) d else d
  | _ => d

/-- The kinds that `preprocess_instr` sends to `set_mem_src_reg`. -/
def isMemKind (op : Opcode) : Bool :=
  (glbInstrTlb op).opKind ∈
    [OpKind.ldOp, OpKind.ldrexOp, OpKind.ldmOp, OpKind.stOp, OpKind.strexOp, OpKind.stmOp]

/-- The source registers of `preprocess_instr`. -/
def setSrcRegs (op : Opcode) (srcRegs : ArmRegs) (d : Draft) : Draft :=
  if srcRegs = .default then d
  else if isMemKind op then setMemSrcReg op srcRegs d
  else (glbInstrTlb op).inputs.foldl (reviseReg op srcRegs) d

/-- The destination registers of `preprocess_instr`.  A dual load into the class of `r8` to `r12`
gets bit 14 cleared, so that its second register is not above them. -/
def setDstRegs (op : Opcode) (dstRegs : ArmRegs) (d : Draft) : Draft :=
  if dstRegs = .default then d
  else
    let d := (glbInstrTlb op).outputs.foldl (reviseReg op dstRegs) d
    if dstRegs = .r8to12 ∧ op ∈ [Op.LDRD_reg, Op.LDRD_imm, Op.LDRD_lit, Op.LDREXD] then
      { d with rawInstr := setInstr d.rawInstr 14 14 0 }
    else d

/-- One round of the shift-amount loop of `preprocess_instr`. -/
def setShiftImm (op : Opcode) (shiftImmVal w : Word) (opnd : Opnd) : Word :=
  if opnd.type = .shiftImm ∧ ¬ isFixedOprand op opnd.startBit opnd.endBit then
    setInstr w opnd.startBit opnd.endBit shiftImmVal
  else w

def preprocessInstr (op : Opcode) (o : GenOption) (d : Draft) : Draft :=
  let d := { d with rawInstr := (fixActions op).foldl FixAction.run d.rawInstr }
  let d := setDstRegs op o.dstRegs (setSrcRegs op o.srcRegs d)
  if o.isShiftImmInit then
    { d with rawInstr := (glbInstrTlb op).inputs.foldl (setShiftImm op o.shiftImmVal) d.rawInstr }
  else d

/-! ## `gen_instr` -/

/-- The condition, written after the generator has run unless the row fixes one of its bits. -/
def updateCond (op : Opcode) (condVal w : Word) : Word :=
  if (glbInstrTlb op).matchMsk &&& 0xf0000000 = 0 then
    (w ||| 0xf0000000) &&& (0x0fffffff ||| shl condVal 28)
  else w

/-- Append a line to `instr_buf`. -/
def Work.insertInstr (l : Line) (w : Work) : Work := { w with instrBuf := w.instrBuf ++ [l] }

def genInstr (op : Opcode) (w : Work) : InstrStatus × Work :=
  let w := { w with toDraft := preprocessInstr op w.options w.toDraft, instrBuf := [] }
  if (glbInstrTlb op).opKind = .pseudoOp then (.unsupported, w)
  else if op < SISA_OP_ARM_MAX then
    let (status, w) := w.lift (genArmInstr op)
    let w := { w with rawInstr := updateCond op w.options.condVal w.rawInstr }
    (status, w.insertInstr (.inst (.inst w.rawInstr)))
  else if op < SISA_OP_THUMB_MAX then
    let w := { w with options := { w.options with isa := .thumb } }
    let (status, w) := w.lift (genThumbInstr op)
    (status, w.insertInstr (.inst (.instN (w.rawInstr &&& 0xffff))))
  else if op < SISA_OP_THUMB_32_MAX then
    let w := { w with options := { w.options with isa := .thumb } }
    let (status, w) := w.lift (genThumb32Instr op)
    (status, w.insertInstr (.inst (.instW w.rawInstr)))
  else (.invalid, w)

/-! ## `gen_instr_with_op` -/

/-- The S bit of an ARM instruction. -/
def setSbit (op : Opcode) (o : GenOption) (w : Word) : Word :=
  if o.isSbitInit ∧ ¬ isFixedOprand op 20 20 then
    if o.sbitVal ≠ 0 then setBits w 20 20 else clearBits w 20 20
  else w

/-- The word a round starts with. -/
def initWord (op : Opcode) (o : GenOption) (w : Word) : Word :=
  let w := if o.isa.isArm then setSbit op o (w &&& 0x0fffffff) else w
  (w &&& ~~~(glbInstrTlb op).matchMsk) ||| (glbInstrTlb op).matchVal

/-- The body of the loop of `gen_instr_with_op`. -/
def attempt (op : Opcode) (isInstrInit : Bool) (w : Work) : InstrStatus × Work :=
  let w := if isInstrInit then w
    else { w with toDraft := { w.toDraft.afterRand with rawInstr := w.toDraft.nextRand } }
  genInstr op { w with rawInstr := initWord op w.options w.rawInstr }

/-- The loop of `gen_instr_with_op`, with `retry` rounds left. -/
def attempts (op : Opcode) (isInstrInit : Bool) : ℕ → InstrStatus → Work → InstrStatus × Work
  | 0, status, w => (status, w)
  | retry + 1, status, w =>
    if status = .unsupported then
      let (status, w) := attempt op isInstrInit w
      attempts op isInstrInit retry status w
    else (status, w)

/-- The text `output_instr` prints, line by line; `none` is the failed `assert`. -/
def outputInstr (op : Opcode) (status : InstrStatus) (w : Work) : Option (List String) :=
  let info := "[INFO] " ++ status.text ++ " " ++ (glbInstrTlb op).name.getD "(null)" ++ " " ++
    hexPad 8 w.rawInstr
  if w.instrBuf.length ≤ 8 then some (info :: w.instrBuf.map Line.text) else none

/-- `print_buff` after `output_instr`, for what the two line buffers hold: `sprintf` writes the
first line, `strncat` at most `MAX_STR_INSTR_LEN` characters of each other one. -/
def printBuff (op : Opcode) (instr : Word) (status : InstrStatus)
    (initInstrBuf instrBuf : List Line) : List Char :=
  ("[INFO] " ++ status.text ++ " " ++ (glbInstrTlb op).name.getD "(null)" ++ " " ++
      hexPad 8 instr).toList ++ '\n' ::
    (initInstrBuf ++ instrBuf).flatMap fun l => l.text.toList.take 100 ++ ['\n']

/-- `gen_instr_with_op`: the text and the globals it leaves. -/
def genInstrWithOp (op : Opcode) (w : Work) : Option (List String × Work) :=
  let (status, w) := attempts op (w.rawInstr ≠ 0) 8 .unsupported w
  (outputInstr op status w).map fun text => (text, w)

end Rit.Src
