import Rit.NewSrc.GenInstr

/-!
# `RandomInstrGen`, part two: random options and the retry loop

`gen_random_instr` draws what the user left open, draws an opcode, initialises the word and
calls `gen_instr`, up to seventeen times and with ever weaker restrictions, until a word is
`VALID`; then it prints the result.

A call of `rand()` is `nextRand` followed by `afterRand`.  Where the source combines several
draws in one expression they are made from left to right.
-/

namespace Rit

open GenState

/-! ## Drawing option values -/

/-- `rand() % n`. -/
def randMod (n : Word) (s : GenState) : Word × GenState := (s.nextRand % n, s.afterRand)

def genRandReg (s : GenState) : Word × GenState :=
  let (gpReg, s) := randMod 6 s
  match gpReg.toNat with
  | 0 => randMod 4 s
  | 1 => let (r, s) := randMod 4 s; (r + 4, s)
  | 2 => let (r, s) := randMod 5 s; (r + 8, s)
  | 3 => (R_SP, s)
  | 4 => (R_LR, s)
  | _ => (R_PC, s)

def genRandCond (s : GenState) : Word × GenState :=
  let (cpCond, s) := randMod 3 s
  if cpCond = 1 then randMod 14 s else (COND_AL, s)

def genPartImm (bits : ℕ) (s : GenState) : Word × GenState :=
  let (slot, s) := randMod 5 s
  match slot.toNat with
  | 0 => (0, s)
  | 1 => (1, s)
  | 2 => randMod (shl 1 bits) s
  | 3 => (~~~1 &&& (shl 1 bits - 1), s)
  | _ => (shl 1 bits - 1, s)

def genRandImm (s : GenState) : Word × GenState :=
  let (slot, s) := randMod 5 s
  match slot.toNat with
  | 0 => (0, s)
  | 1 => (1, s)
  | 2 =>
    let (a, s) := genPartImm 8 s
    let (b, s) := genPartImm 4 s
    let (c, s) := genPartImm 20 s
    (a ||| shl b 8 ||| shl c 12, s)
  | 3 => (~~~1, s)
  | _ => (~~~0, s)

/-- `ISA_TOP + i`. -/
def isaOfIdx (i : Word) : InstrSet :=
  match i.toNat with
  | 0 => .armv5
  | 1 => .armv7
  | 2 => .thumb
  | 3 => .thumb32
  | _ => .rand

/-- `SBIT_TOP + i`. -/
def sbitOfIdx (i : Word) : SbitVal :=
  match i.toNat with
  | 0 => .unset
  | 1 => .set
  | _ => .rand

/-- An array of registers with entry `idx` replaced. -/
def setEntry (arr : ℕ → Word) (idx : ℕ) (val : Word) : ℕ → Word :=
  fun i => if i = idx then val else arr i

/-- `if (c) options = upd(draw())`. -/
def drawIf {α : Type} (c : Prop) [Decidable c] (draw : GenState → α × GenState)
    (upd : GenOption → α → GenOption) (s : GenState) : GenState :=
  if c then
    let (v, s) := draw s
    { s with options := upd s.options v }
  else s

/-- One round of the register loop of `gen_rand_opt_val`. -/
def genRandRegs (s : GenState) (idx : ℕ) : GenState :=
  let s := drawIf (¬ s.optStat .sreg ∨ s.options.srcRegs idx = R_RAND) genRandReg
    (fun o v => { o with srcRegs := setEntry o.srcRegs idx v }) s
  let s := drawIf (¬ s.optStat .dreg ∨ s.options.dstRegs idx = R_RAND) genRandReg
    (fun o v => { o with dstRegs := setEntry o.dstRegs idx v }) s
  let s := drawIf (¬ s.optStat .fpSregExt ∨ s.options.srcFpRegsExt idx = FP_REG_RAND) (randMod 2)
    (fun o v => { o with srcFpRegsExt := setEntry o.srcFpRegsExt idx v }) s
  drawIf (¬ s.optStat .fpDregExt ∨ s.options.dstFpRegsExt idx = FP_REG_RAND) (randMod 2)
    (fun o v => { o with dstFpRegsExt := setEntry o.dstFpRegsExt idx v }) s

def genRandOptVal (s : GenState) : GenState :=
  let s := drawIf (¬ s.optStat .isa ∨ s.options.isa = .rand) (randMod 4)
    (fun o v => { o with isa := isaOfIdx v }) s
  let s := drawIf (¬ s.optStat .sbit ∨ s.options.sbitVal = .rand) (randMod 2)
    (fun o v => { o with sbitVal := sbitOfIdx v }) s
  let s := drawIf (¬ s.optStat .cond ∨ s.options.condVal = COND_RAND) genRandCond
    (fun o v => { o with condVal := v }) s
  let s := (List.range MAX_REG_NUM).foldl genRandRegs s
  let s := drawIf (¬ s.optStat .fpSzQExt ∨ s.options.fpSzQBit = FP_REG_RAND) (randMod 2)
    (fun o v => { o with fpSzQBit := v }) s
  let s := drawIf (¬ s.optStat .shrtReg ∨ s.options.shiftRotateReg = R_RAND) genRandReg
    (fun o v => { o with shiftRotateReg := v }) s
  let s := drawIf (¬ s.optStat .shrtType ∨ s.options.shiftRotateType = SH_TYPE_RAND) (randMod 4)
    (fun o v => { o with shiftRotateType := v }) s
  let s := drawIf (¬ s.optStat .regsList) (fun s => (s.nextRand &&& 0xffff, s.afterRand))
    (fun o v => { o with regsList := v }) s
  let s := drawIf (¬ s.optStat .imm) genRandImm (fun o v => { o with immVal := v }) s
  drawIf (¬ s.optStat .shImm) genRandImm (fun o v => { o with shiftImmVal := v }) s

/-! ## The opcode and the initial word -/

/-- The index range `gen_random_op` scans. -/
def opRange : InstrSet → ℕ × ℕ
  | .armv5 | .armv7 => (SISA_OP_NA, SISA_OP_ARM_MAX)
  | .thumb => (SISA_OP_ARM_MAX, SISA_OP_THUMB_MAX)
  | .thumb32 => (SISA_OP_THUMB_MAX, SISA_OP_THUMB_32_MAX)
  | .rand => (SISA_OP_NA, SISA_OP_MAX)

/-- `tmp_op`: the opcodes of an enabled kind.  The enumerators of `sisa_opkind_t` are numbered
in order. -/
def candidateOps (isa : InstrSet) (opkindList : ℕ → Bool) : List Opcode :=
  (List.range' (opRange isa).1 ((opRange isa).2 - (opRange isa).1)).filter fun idx =>
    opkindList (glbInstrTlb idx).opKind.ctorIdx

def genRandomOp (s : GenState) : Opcode × GenState :=
  let tmpOp := candidateOps s.options.isa s.opkindList
  if tmpOp.length = 0 then (SISA_OP_NA, s)
  else (tmpOp.getD (s.nextRand.toNat % tmpOp.length) SISA_OP_NA, s.afterRand)

/-- The word `init_raw_instr_bin` leaves, from the word it starts with. -/
def initWord (op : Opcode) (w : Word) : Word :=
  let w := if op > SISA_OP_ARM_MAX ∧ op < SISA_OP_THUMB_MAX then w &&& 0xffff else w
  (w &&& ~~~(glbInstrTlb op).matchMsk) ||| (glbInstrTlb op).matchVal

def initRawInstrBin (op : Opcode) (s : GenState) : GenState :=
  let s := if ¬ s.optStat .instrBinInit then s.afterRand.setRawInstr s.nextRand else s
  s.setRawInstr (initWord op s.rawInstr)

/-! ## Relaxing the restrictions -/

def RETRY_RELAX_GEAR_1 : ℕ := 4
def RETRY_RELAX_GEAR_2 : ℕ := 8
def RETRY_RELAX_GEAR_3 : ℕ := 12
def RETRY_RELAX_GEAR_4 : ℕ := 14
def RETRY_MAX_TIMES : ℕ := 16

def relaxGear1 (s : GenState) : GenState :=
  let o := (s.options.setOptStat .cond).setOptStat .shrtReg
  { s with options := { o with condVal := COND_RAND, shiftRotateReg := R_RAND } }

def relaxGear2 (s : GenState) : GenState :=
  let o := (((s.options.setOptStat .sbit).setOptStat .shrtType).setOptStat .fpSregExt).setOptStat
    .shImm
  let o := { o with sbitVal := .rand, shiftRotateType := SH_TYPE_RAND }
  let o := { o with srcFpRegsExt := fun _ => FP_REG_RAND, shiftImmVal := s.nextRand }
  { s.afterRand with options := o }

def relaxGear3 (s : GenState) : GenState :=
  let o := ((s.options.setOptStat .sreg).setOptStat .fpDregExt).setOptStat .imm
  let o := { o with srcRegs := fun _ => R_RAND, dstFpRegsExt := fun _ => FP_REG_RAND }
  { s.afterRand with options := { o with immVal := s.nextRand } }

def relaxGear4 (s : GenState) : GenState :=
  let o := ((s.options.setOptStat .dreg).setOptStat .fpSzQExt).setOptStat .regsList
  let o := { o with dstRegs := fun _ => R_RAND, fpSzQBit := FP_REG_RAND }
  { s.afterRand with options := { o with regsList := s.nextRand % 0x10000 } }

def relaxRestrict (curRetry : ℕ) (s : GenState) : GenState :=
  if s.optStat .notAllowRelax then s
  else
    let s := if curRetry > RETRY_RELAX_GEAR_1 then relaxGear1 s else s
    let s := if curRetry > RETRY_RELAX_GEAR_2 then relaxGear2 s else s
    let s := if curRetry > RETRY_RELAX_GEAR_3 then relaxGear3 s else s
    if curRetry > RETRY_RELAX_GEAR_4 then relaxGear4 s else s

/-! ## Printing the result -/

def regVals : List Word := [0, 0xffffffff, 0x80000000, 0x7fffffff]

def shiftRegVals : List Word :=
  [0, 31, 32, 0x80, 0xc0, 0xff, 0x80808000, 0xffffff00, 0xffffffff]

/-- One round of `set_bias_oprand_value`: an input register that has no initial value yet gets
one of `vals`. -/
def initReg (opnd : Opnd) (vals : List Word) (s : GenState) : GenState :=
  let reg := getRegnum s.rawInstr opnd
  let randVal := s.nextRand
  let s := s.afterRand
  if reg ≠ INVALID_GPR ∧ ¬ s.isRegInit reg.toNat then
    { s with
      regInitVals := setEntry s.regInitVals reg.toNat (vals.getD (randVal.toNat % vals.length) 0)
      isRegInit := fun i => if i = reg.toNat then true else s.isRegInit i }
  else s

/-- `set_bias_oprand_value`, from the last input to the first. -/
def setBiasOprandValue (op : Opcode) (s : GenState) : GenState :=
  (glbInstrTlb op).inputs.reverse.foldl (fun s opnd =>
    match opnd.type with
    | .gpr => initReg opnd regVals s
    | .shiftReg => initReg opnd shiftRegVals s
    | _ => s) s

/-- The lines that give register `r` its initial value; a high register in Thumb goes through
`r0`. -/
def oprandInitLines (s : GenState) (r : ℕ) : List Line :=
  if s.isRegInit r then
    if s.options.isa = .thumb ∧ r > 7 then
      [.code (.ldr 0 (s.regInitVals r)), .code (.mov (.ofNat 32 r) 0)]
    else [.code (.ldr (.ofNat 32 r) (s.regInitVals r))]
  else []

/-- `gen_oprand_init_instrs`, from `r14` to `r0`. -/
def genOprandInitInstrs (s : GenState) : GenState :=
  { s with initInstrBuf := (List.range 15).reverse.flatMap (oprandInitLines s) }

/-- `instr_status_name`. -/
def InstrStatus.text : InstrStatus → String
  | .valid => "VALID"
  | .unpredictable => "UNPREDICTABLE"
  | .instUnknown => "INST_UNKNOWN"
  | .undefined => "UNDEFINED"
  | .unsupported => "UNSUPPORTED"
  | .alias => "ALIAS"
  | .instDiff => "INST_DIFF"
  | .invalid => "INVALID"
  | .fixInst => "FIXINST"

def outputInstr (op : Opcode) (instr : Word) (status : InstrStatus) (s : GenState) : GenState :=
  let info := "[INFO] " ++ status.text ++ " " ++ (glbInstrTlb op).name.getD "(null)" ++ " 0x" ++
    hexPad 8 instr
  let s := if s.optStat .allowBiasOpnd ∧ ¬ s.isOprandInit then
    genOprandInitInstrs (setBiasOprandValue op s) else s
  { s with printBuf := info :: (s.initInstrBuf ++ s.instrBuf).map Line.text }

/-! ## The retry loop -/

def retryMax (s : GenState) : ℕ :=
  if s.optStat .notAllowRelax then RETRY_MAX_TIMES / 2 else RETRY_MAX_TIMES

/-- What an attempt does before `gen_instr`: restore and relax the options, draw the open ones,
choose the opcode.  `fixedOp` is the opcode found by name. -/
def prepare (fixedOp : Option Opcode) (retry : ℕ) (s : GenState) : Opcode × GenState :=
  let s := { s with options := s.shadowOptions }
  let s := genRandOptVal (relaxRestrict retry s)
  match fixedOp with
  | some op => (op, s)
  | none => genRandomOp s

/-- The body of the loop of `gen_random_instr`. -/
def attempt (fixedOp : Option Opcode) (retry : ℕ) (s : GenState) :
    Opcode × InstrStatus × GenState :=
  let (op, s) := prepare fixedOp retry s
  (op, genInstr op (initRawInstrBin op s))

/-- The loop of `gen_random_instr`, entered with a status other than `VALID` and at most `fuel`
rounds left. -/
def attempts (fixedOp : Option Opcode) : ℕ → ℕ → Opcode → InstrStatus → GenState →
    Opcode × InstrStatus × GenState
  | 0, _, op, status, s => (op, status, s)
  | fuel + 1, retry, _, _, s =>
    let r := attempt fixedOp retry s
    if r.2.1 = .valid then r else attempts fixedOp fuel (retry + 1) r.1 r.2.1 r.2.2

/-- The search for the row named by the opcode option.  The source also sets the instruction
set to Thumb for a Thumb row, in the options that the loop then overwrites. -/
def findOpcode (name : String) : Option Opcode :=
  (List.range' 1 (SISA_OP_MAX - 1)).find? fun idx => (glbInstrTlb idx).name = some name

/-- `gen_random_instr`.  `timeStream` is what `rand()` returns after seeding with the time of
day, which happens unless the user gave a seed. -/
def genRandomInstr (timeStream : ℕ → BitVec 31) (s : GenState) : InstrStatus × GenState :=
  let s := { s with shadowOptions := s.options, instrFixedBit := 0, isSetFixedBit := false }
  let s := if ¬ s.optStat .randSeed then { s with randStream := timeStream } else s
  let fixedOp := if s.optStat .opcode then findOpcode (s.options.opcode.getD "") else none
  if s.optStat .opcode ∧ fixedOp = none then (.unsupported, s)
  else
    let (op, status, s) := attempts fixedOp (retryMax s + 1) 0 SISA_OP_MAX .unsupported s
    (status, outputInstr op s.rawInstr status s)

end Rit
