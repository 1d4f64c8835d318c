import Rit.Lib.Arm.Cpu

/-!
# `instrgen`: control transfers of the test program

The Python half of the repository builds an assembly program out of blocks.  Here are the lines of
such a program and the functions of `instrgen.py` that emit the transfers between blocks: branches,
loop tails, interworking branches, calls, and the code around a callee.

A line of text is a `Line`: a label, a directive, or an instruction.  An instruction carries the
instruction set it was generated for, which need not be the mode the assembler is in when it
reaches the line.  The random draws of a function are collected in a record that is an argument of
the function, with the ranges of `random.randint` and `random.choice` as its types and fields.
-/

namespace Rit.Art

/-! ## Labels and lines -/

/-- `arminfo.CONDCODE`. -/
inductive Cond
  | eq | ne | cs | cc | mi | pl | vs | vc | hi | ls | ge | lt | gt | le
  deriving DecidableEq, Repr

/-- What a block appends to its own label to name a child, `'_b1'` to `'_aluwpc2'`. -/
inductive Part
  | b1 | b2 | b3 | h1 | h2 | h3 | h4 | l1 | ir1 | ir2 | ir3 | iw1 | iw2 | iw3 | c1 | c2 | c3
  | e1 | e2 | aluwpc1 | aluwpc2
  deriving DecidableEq, Repr

/-- The label of a block: `rit` followed by the parts, the innermost first. -/
abbrev Label := List Part

/-- A label line. -/
inductive CodeLabel
  /-- `label` of a block. -/
  | start (l : Label)
  /-- `label_end` of a block. -/
  | fin (l : Label)
  deriving DecidableEq, Repr

/-- The directives a block's text contains. -/
inductive Directive
  | align | arm | thumb | ltorg
  deriving DecidableEq, Repr

/-- The instructions of the control skeleton, one constructor for each form that is emitted.
`wide` is the `.w` suffix, `none` an empty condition, `plus1` the `+1` after a label. -/
inductive Inst
  /-- `b<c> target` -/
  | b (cond : Option Cond) (wide : Bool) (target : Label)
  /-- `cbz rn, target` or `cbnz rn, target` -/
  | cbz (nonzero : Bool) (rn : ℕ) (target : Label)
  /-- `adr<c> pc, target` -/
  | adrPc (cond : Option Cond) (target : Label)
  /-- `ldr rt, =cfgdata+off` -/
  | ldrCfg (rt : ℕ) (off : ℤ)
  /-- `ldr rt, [rn]` -/
  | ldr (rt rn : ℕ)
  /-- `add rd, rn, #imm` -/
  | add (rd rn imm : ℕ)
  /-- `str rt, [rn]` -/
  | str (rt rn : ℕ)
  /-- `cmp rn, #imm` -/
  | cmp (wide : Bool) (rn imm : ℕ)
  /-- `ble target`, the last instruction of a loop. -/
  | ble (wide : Bool) (target : Label)
  /-- `.inst 0x?12fff1f`, the encoding of `bx<c> pc`. -/
  | bxPcInst (cond : ℕ)
  /-- `ldr<c> pc, =target` -/
  | ldrPc (cond : Option Cond) (wide : Bool) (target : Label) (plus1 : Bool)
  /-- `ldr rt, =target` -/
  | ldrLabel (wide : Bool) (rt : ℕ) (target : Label) (plus1 : Bool)
  /-- `bx<c> rm` -/
  | bx (cond : Option Cond) (rm : ℕ)
  /-- `bx pc` -/
  | bxPc
  /-- `nop` -/
  | nop
  /-- `it c` -/
  | it (cond : Cond)
  /-- `blx<c> rm` -/
  | blxReg (cond : Option Cond) (rm : ℕ)
  /-- `bl<c> target` -/
  | bl (cond : Option Cond) (target : Label)
  /-- `blx target` -/
  | blx (target : Label)
  /-- `mov sp, rm` -/
  | movSp (rm : ℕ)
  /-- `push {lr}` -/
  | pushLr
  /-- `pop {pc}` -/
  | popPc
  /-- The random instructions of a basic block, or the exclusive or ALU sequence of a block. -/
  | body
  deriving DecidableEq, Repr

/-- A line of the program text. -/
inductive Line
  | label (l : CodeLabel)
  | directive (d : Directive)
  | inst (isARM : Bool) (i : Inst)
  deriving DecidableEq, Repr

/-- The fields of the context dictionary that the emitters read: `ctx['nest']` and
`ctx[CTX.ISA]`. -/
@[ext] structure Ctx where
  nest : ℤ
  isa : Bool
  deriving DecidableEq, Repr

/-! ## Branches and loop tails -/

/-- The draws of `genBranch`.  `cbz` holds the mnemonic and register if the percentage test for
`cbz` succeeds, `adr` is the outcome of the test for `adr`. -/
structure BranchChoice where
  cond : Cond
  cbz : Option (Bool × Fin 8)
  adr : Bool
  deriving DecidableEq, Repr

def genBranch (isARM : Bool) (ctx : Ctx) (target : Label) (isconditional forward : Bool)
    (r : BranchChoice) : List Line :=
  let cond := if isconditional then some r.cond else none
  let allowCbz := isconditional && !(isARM || decide (ctx.nest > 0)) && forward
  let allowAdr := isARM && decide (ctx.nest < 2)
  let wide := !isARM && !decide (ctx.nest < 1)
  let binst := Inst.b cond wide target
  let binst := if allowCbz then r.cbz.elim binst fun c => .cbz c.1 c.2 target else binst
  let binst := if allowAdr && r.adr then .adrPc cond target else binst
  -- only an unconditional branch is followed by a literal pool
  .inst isARM binst :: if isconditional then [] else [.directive .ltorg]

/-- The draws of `genLoop`. -/
structure LoopChoice where
  inc : ℕ
  limit : ℕ
  r1 : ℕ
  r2 : ℕ
  one_le_inc : 1 ≤ inc
  inc_le : inc ≤ 10
  limit_le : limit ≤ 256
  r1_lt : r1 < 8
  r2_lt : r2 < 8
  r2_ne_r1 : r2 ≠ r1
  deriving DecidableEq, Repr

/-- The offset in `cfgdata` of the counter `genLoop` uses. -/
def Ctx.loopSlot (ctx : Ctx) : ℤ := 32 + ctx.nest * 4

/-- The offset in `cfgdata` of the return address of a call. -/
def Ctx.retSlot (ctx : Ctx) : ℤ := ctx.nest * 4

def genLoop (isARM : Bool) (ctx : Ctx) (target : Label) (r : LoopChoice) : List Line :=
  [.inst isARM (.ldrCfg r.r2 ctx.loopSlot),
    .inst isARM (.ldr r.r1 r.r2),
    .inst isARM (.add r.r1 r.r1 r.inc),
    .inst isARM (.str r.r1 r.r2),
    .inst isARM (.cmp (!isARM) r.r1 r.limit),
    .inst isARM (.ble (!isARM) target)]

/-! ## Interworking branches and calls -/

/-- The draws of `genBX`: `tmpReg` where register 15 may be drawn and `tmpLow` where it may
not. -/
structure BxChoice where
  useBx : Bool
  cond : Cond
  tmpReg : Fin 16
  tmpLow : Fin 15
  pcCond : Fin 15
  deriving DecidableEq, Repr

def genBX (isARM : Bool) (target : Label) (isconditional : Bool) (r : BxChoice) : List Line :=
  let cond := if isconditional then some r.cond else none
  let it := if isconditional then [Line.inst false (.it r.cond)] else []
  if isARM then
    if r.useBx then
      if r.tmpReg = 15 then
        [.inst true (.bxPcInst r.pcCond),
          .inst true (.ldrPc cond false target true),
          .inst true (.ldrPc cond false target true)]
      else
        [.inst true (.ldrLabel false r.tmpReg target true), .inst true (.bx cond r.tmpReg)]
    else [.inst true (.ldrPc cond false target true)]
  else if r.useBx then
    let tmpReg : ℕ := if isconditional then r.tmpLow else r.tmpReg
    if tmpReg = 15 then
      [.directive .align,
        .inst false .bxPc,
        .inst false .nop,
        .directive .arm,
        .inst true (.ldrPc none false target false),
        .directive .thumb]
    else
      .inst false (.ldrLabel true tmpReg target false) :: (it ++ [.inst false (.bx cond tmpReg)])
  else it ++ [.inst false (.ldrPc cond true target false)]

/-- The draws of `genCall`. -/
structure CallChoice where
  useBlxReg : Bool
  tmpReg : Fin 15
  cond : Option Cond
  deriving DecidableEq, Repr

def genCall (isCallerARM isCalleeARM : Bool) (target : Label) (r : CallChoice) : List Line :=
  if r.useBlxReg then
    [.inst isCallerARM (.ldrLabel (!isCallerARM) r.tmpReg target (!isCalleeARM)),
      .inst isCallerARM (.blxReg (if isCallerARM then r.cond else none) r.tmpReg)]
  else if isCallerARM != isCalleeARM then [.inst isCallerARM (.blx target)]
  else [.inst isCallerARM (.bl (if isCallerARM && isCalleeARM then r.cond else none) target)]

/-- `getPreCalleeInsts`; `tmpReg` is the register drawn. -/
def getPreCalleeInsts (ctx : Ctx) (tmpReg : Fin 8) : List Line :=
  [.inst ctx.isa (.ldrCfg tmpReg (ctx.retSlot + 4)),
    .inst ctx.isa (.movSp tmpReg),
    .inst ctx.isa .pushLr]

def getPostCalleeInsts (ctx : Ctx) (tmpReg : Fin 8) : List Line :=
  [.inst ctx.isa (.ldrCfg tmpReg ctx.retSlot),
    .inst ctx.isa (.movSp tmpReg),
    .inst ctx.isa .popPc,
    .directive .ltorg]

end Rit.Art
