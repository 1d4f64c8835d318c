import Rit.Art.Generate
import Rit.Lib.Arm.Fpu

/-!
# `vfp`: floating-point instructions

For the kind `VFP_OP` the library is not asked; `vfp.gen_instr` draws an opcode and its operands
itself.  A helper for each opcode returns the instruction together with the lines before and after
it: a memory instruction wants its base register set, and an arithmetic instruction is followed by
lines that replace a NaN.

The source writes an instruction as two strings with `<c>` in the place of the condition.  Here it
is a mnemonic, the state of that place, the types after the dots and the operands; `Inst.text` gives
the strings.  The lists `s` and `d` of core registers that the helpers are given are pruned before
each draw.
-/

namespace Rit.Art.Vfp

open Draw PyStr
open Arm (Fmt)
open Rit.Art.Build (coin)
open Rit.Art.Generate (dec hex joinComma)

/-! ## Instructions -/

inductive OpType
  | spReg | dpReg | coreReg | imm
  deriving DecidableEq, Repr

inductive Op
  | vldr | vstr | vldm | vstm | vpush | vpop | vmsr | vmrs | vmla | vmls | vmul | vnmla | vnmls
  | vnmul | vcmp | vabs | vneg | vsqrt | vadd | vsub | vdiv | vmov | vcvt
  deriving DecidableEq, Repr

/-- What stands between the name of an opcode and its condition. -/
inductive Letter
  | none | ia | db | e | r | b | t
  deriving DecidableEq, Repr

/-- The mnemonics; `vfp` is `VFP_OP_STR` with a letter. -/
inductive Mnemonic
  | vfp (op : Op) (letter : Letter)
  | fconstd
  | ftosh (f : Fmt)
  | fshto (f : Fmt)
  | ldr | bic | orr | and | mov | mvn
  /-- An `it` with its further letters. -/
  | it (mask : List Bool)
  deriving DecidableEq, Repr

/-- The types after the dots. -/
inductive Ty
  | f64 | f32 | f16 | u32 | s32 | u16 | s16 | bits32
  deriving DecidableEq, Repr

/-- The operands. -/
inductive Arg
  | s (n : ℕ)
  | d (n : ℕ)
  | r (n : ℕ)
  /-- `r0!` -/
  | bang (n : ℕ)
  /-- `d0[1]` -/
  | scalar (n x : ℕ)
  /-- The registers of a list. -/
  | regs (f : Fmt) (ns : List ℕ)
  /-- `[r0, #4]` or `[r0, #-4]` -/
  | mem (n : ℕ) (add : Bool) (imm : ℕ)
  | imm (n : ℕ)
  /-- `#0x…`, and the same with eight digits -/
  | hex (n : ℕ)
  | hex8 (n : ℕ)
  /-- `0` without a sign -/
  | zero
  /-- `=label+4` and `=0x…` -/
  | address (label : String) (offset : ℕ)
  | const (n : ℕ)
  | fpscr
  | apsr (name : String)
  | sp
  | cond (c : Arm.Cond)
  deriving DecidableEq, Repr

/-- The place of the condition: there is none, it is still to be filled, or it is filled. -/
inductive Slot
  | none
  | hole
  | is (c : Arm.Cond)
  deriving DecidableEq, Repr

/-- An instruction. -/
structure Inst where
  op : Mnemonic
  cond : Slot := .none
  types : List Ty := []
  args : List Arg
  deriving DecidableEq, Repr

/-- The type of a precision. -/
def tyOf : Fmt → Ty
  | .f32 => .f32
  | .f64 => .f64

/-- A register of a precision. -/
def regOf : Fmt → ℕ → Arg
  | .f32, n => .s n
  | .f64, n => .d n

/-! ## Texts -/

/-- `VFP_OP_STR`. -/
def Op.str : Op → String
  | vldr => "vldr"
  | vstr => "vstr"
  | vldm => "vldm"
  | vstm => "vstm"
  | vpush => "vpush"
  | vpop => "vpop"
  | vmsr => "vmsr"
  | vmrs => "vmrs"
  | vmla => "vmla"
  | vmls => "vmls"
  | vmul => "vmul"
  | vnmla => "vnmla"
  | vnmls => "vnmls"
  | vnmul => "vnmul"
  | vcmp => "vcmp"
  | vabs => "vabs"
  | vneg => "vneg"
  | vsqrt => "vsqrt"
  | vadd => "vadd"
  | vsub => "vsub"
  | vdiv => "vdiv"
  | vmov => "vmov"
  | vcvt => "vcvt"

def Letter.str : Letter → String
  | none => ""
  | ia => "ia"
  | db => "db"
  | e => "e"
  | r => "r"
  | b => "b"
  | t => "t"

def Mnemonic.str : Mnemonic → Str
  | vfp op letter => op.str.toList ++ letter.str.toList
  | fconstd => "fconstd".toList
  | ftosh f => (if f = .f64 then "ftoshd" else "ftoshs").toList
  | fshto f => (if f = .f64 then "fshtod" else "fshtos").toList
  | ldr => "ldr".toList
  | bic => "bic".toList
  | orr => "orr".toList
  | and => "and".toList
  | mov => "mov".toList
  | mvn => "mvn".toList
  | it mask => "it".toList ++ mask.map fun same => if same then 't' else 'e'

def Ty.str : Ty → String
  | f64 => ".f64"
  | f32 => ".f32"
  | f16 => ".f16"
  | u32 => ".u32"
  | s32 => ".s32"
  | u16 => ".u16"
  | s16 => ".s16"
  | bits32 => ".32"

/-- The letters of a condition. -/
def condStr : Arm.Cond → String
  | .eq => "eq"
  | .ne => "ne"
  | .cs => "cs"
  | .cc => "cc"
  | .mi => "mi"
  | .pl => "pl"
  | .vs => "vs"
  | .vc => "vc"
  | .hi => "hi"
  | .ls => "ls"
  | .ge => "ge"
  | .lt => "lt"
  | .gt => "gt"
  | .le => "le"

def Slot.str : Slot → String
  | none => ""
  | hole => "<c>"
  | is c => condStr c

def Arg.str : Arg → Str
  | s n => "s".toList ++ dec n
  | d n => "d".toList ++ dec n
  | r n => "r".toList ++ dec n
  | bang n => "r".toList ++ dec n ++ "!".toList
  | scalar n x => "d".toList ++ dec n ++ "[".toList ++ dec x ++ "]".toList
  | regs f ns => "\x7b".toList ++
      joinComma (ns.map fun n => (if f = .f64 then "d" else "s").toList ++ dec n) ++ "\x7d".toList
  | mem n add offset => "[r".toList ++ dec n ++ (if add then ", #" else ", #-").toList ++
      dec offset ++ "]".toList
  | imm n => "#".toList ++ dec n
  | hex n => "#0x".toList ++ Generate.hex n
  | hex8 n => "#0x".toList ++ List.replicate (8 - (Generate.hex n).length) '0' ++ Generate.hex n
  | zero => "0".toList
  | address label offset => "=".toList ++ label.toList ++ "+".toList ++ dec offset
  | const n => "=0x".toList ++ Generate.hex n
  | fpscr => "fpscr".toList
  | apsr name => name.toList
  | sp => "sp".toList
  | cond c => (condStr c).toList

/-- The two strings of an instruction. -/
def Inst.text (i : Inst) : ParsedInst :=
  (i.op.str ++ i.cond.str.toList ++ i.types.flatMap fun t => t.str.toList,
    joinComma (i.args.map Arg.str))

/-! ## Operands -/

/-- `VFP_GEN_HELPER.keys()`. -/
def opcodes : List Op :=
  [.vldr, .vstr, .vldm, .vstm, .vpush, .vpop, .vmsr, .vmrs, .vmla, .vmls, .vmul, .vnmla, .vnmls,
    .vnmul, .vcmp, .vabs, .vneg, .vsqrt, .vadd, .vsub, .vdiv, .vmov, .vcvt]

/-- The operand of a type. -/
def OpType.arg : OpType → ℕ → Arg
  | spReg => .s
  | dpReg => .d
  | coreReg => .r
  | imm => .imm

def getRandOpnd (t : OpType) (min max : ℕ) : Gen Unit Arg := do
  let max := if t = .coreReg ∧ max > 15 then 15 else max
  let n ← randint min max
  pure (t.arg n.1)

/-- The register type of a precision. -/
def opType : Fmt → OpType
  | .f32 => .spReg
  | .f64 => .dpReg

/-- `random.choice([True, False])` for `dp_operation`. -/
def drawFmt : Gen Unit Fmt := do
  let dp ← coin
  pure (if dp then .f64 else .f32)

/-- `regs = range(16)`, `if reg: regs = reg[:]`. -/
def regsOr (regs : List ℕ) : List ℕ := if regs = [] then List.range 16 else regs

/-- `if 15 in regs: regs.remove(15)`, and in Thumb the same with 13. -/
def coreRegs (isARM : Bool) (regs : List ℕ) : List ℕ :=
  if isARM then regs.erase 15 else (regs.erase 15).erase 13

def getRandVFPExpandImm (isF32 : Bool) : Gen Unit ℕ :=
  if isF32 then do
    let ab ← Draw.choice [0x1f, 0x20, 0x5f, 0x60]
    let cdefgh ← randint 0 63
    pure ((ab.1 * 64 + cdefgh.1) * 2 ^ 19)
  else do
    let ab ← Draw.choice [0xff, 0x100, 0x2ff, 0x300]
    let cdefgh ← randint 0 63
    pure ((ab.1 * 64 + cdefgh.1) * 2 ^ 48)

/-! ## Lines around an instruction -/

/-- What a helper returns: `rinst`, `preinst` and `postinst`. -/
structure Parts where
  rinst : Option Inst
  preinst : List Inst := []
  postinst : List Inst := []

/-- The lines of `get_instrs_fix_NaN`, which is called without `reinit`. -/
def fixNaN (isARM : Bool) (f : Fmt) (n ra rb : ℕ) : List Inst :=
  let test : List Inst :=
    [{ op := .vfp .vcmp .none, types := [tyOf f], args := [regOf f n, .zero] },
      { op := .vfp .vmrs .none, args := [.apsr "apsr_nzcv", .fpscr] }]
  match f with
  | .f64 => test ++
      (if isARM then [] else [{ op := .it [true, true, true], args := [.cond .vs] }]) ++
      [{ op := .vfp .vmov .none, cond := .is .vs, args := [.r ra, .r rb, .d n] },
        { op := .mvn, cond := .is .vs, args := [.r ra, .imm 0] },
        { op := .mvn, cond := .is .vs, args := [.r rb, .imm 0] },
        { op := .vfp .vmov .none, cond := .is .vs, args := [.d n, .r ra, .r rb] }]
  | .f32 => test ++
      (if isARM then [] else [{ op := .it [true, true], args := [.cond .vs] }]) ++
      [{ op := .vfp .vmov .none, cond := .is .vs, args := [.r ra, .s n] },
        { op := .mvn, cond := .is .vs, args := [.r ra, .imm 0] },
        { op := .vfp .vmov .none, cond := .is .vs, args := [.s n, .r ra] }]

/-- `get_instrs_fix_NaN`; `rb` is drawn for a double only. -/
def getInstrsFixNaN (f : Fmt) (n : ℕ) (isARM : Bool) : Gen Unit (List Inst) := do
  let regs := List.range 12
  let ra ← Draw.choice regs
  let rb ← Draw.drawIf (f = .f64) (do let rb ← Draw.choice (regs.erase ra.1); pure rb.1) ra.1
  pure (fixNaN isARM f n ra.1 rb)

def getInstrsFixFPSCR (reg : ℕ) : List Inst := [{ op := .orr, args := [.r reg, .r reg, .hex 0xff] }]

def setMemBase (reg : ℕ) (isARM : Bool) : Gen Unit (List Inst) :=
  if reg ≥ 15 then pure []
  else if isARM then
    pure [{ op := .bic, args := [.r reg, .r reg, .hex8 0xfc000003] },
      { op := .orr, args := [.r reg, .r reg, .hex8 0x03fc0000] }]
  else do
    let rval ← randint 256 1024
    if reg ≠ 13 then
      pure [{ op := .ldr, args := [.r reg, .address "ritdata" (rval.1 * 4)] }]
    else do
      let rReg ← randint 0 12
      pure [{ op := .ldr, args := [.r rReg.1, .address "ritdata" (rval.1 * 4)] },
        { op := .mov, args := [.sp, .r rReg.1] }]

def setRegAlign (reg : ℕ) (isARM : Bool) : Gen Unit (List Inst) :=
  let inst : List Inst := [{ op := .bic, args := [.r reg, .r reg, .imm 3] }]
  if isARM then pure (if reg < 15 then inst else [])
  else pure (if reg ≠ 13 ∧ reg ≠ 15 then inst else [])

/-- A memory instruction after the lines for its base `n`. -/
def withBase (rinst : Inst) (n : ℕ) (isARM : Bool)
    (mfunc : ℕ → Bool → Gen Unit (List Inst)) : Gen Unit Parts := do
  let preinst ← Draw.drawIf (n < 15) (mfunc n isARM) []
  pure { rinst := some rinst, preinst }

/-! ## Memory -/

section Memory

variable (op : Op) (isARM : Bool) (srcReg : List ℕ) (mfunc : ℕ → Bool → Gen Unit (List Inst))

def genVfpMem : Gen Unit Parts := do
  let add ← coin
  let t ← Draw.choice [OpType.spReg, .dpReg]
  let dst ← getRandOpnd t.1 0 31
  let sregs := regsOr srcReg
  let sregs := if op = .vstr then sregs.erase 15 else sregs
  let n ← Draw.choice sregs
  let imm ← randint 0 255
  withBase { op := .vfp op .none, cond := .hole, args := [dst, .mem n.1 add (imm.1 * 4)] } n.1 isARM
    mfunc

/-- The register list of `gen_vfp_multi_mem`. -/
def drawList : Gen Unit Arg := do
  let single ← coin
  if single then do
    let low ← randint 0 31
    let high ← randint (low.1 + 1) 32
    pure (.regs .f32 (List.range' low.1 (high.1 - low.1)))
  else do
    let low ← randint 0 31
    let high ← randint (low.1 + 1) (low.1 + 16)
    let high := if high.1 > 32 then 32 else high.1
    pure (.regs .f64 (List.range' low.1 (high - low.1)))

/-- `!` after a base register. -/
def Arg.withBang (wback : Bool) : Arg → Arg
  | .r n => if wback then .bang n else .r n
  | a => a

/-- The instruction with base `n`, and its mode drawn if the base is written back. -/
def genBase (list : Arg) (n : ℕ) (wback : Bool) : Gen Unit Parts := do
  let mode ← Draw.drawIf wback (do let m ← Draw.choice [Letter.ia, .db]; pure m.1) .ia
  let base ← getRandOpnd .coreReg n n
  withBase { op := .vfp op mode, cond := .hole, args := [base.withBang wback, list] } n isARM mfunc

def genVfpMultiMem : Gen Unit Parts := do
  let list ← drawList
  let sregs := regsOr srcReg
  let sregs := if isARM then sregs else sregs.erase 15
  match op with
  | .vldm => do
    let wback ← coin
    let n ← Draw.choice (if wback then sregs.erase 15 else sregs)
    genBase op isARM mfunc list n.1 wback
  | .vstm => do
    let n ← Draw.choice (sregs.erase 15)
    let wback ← coin
    genBase op isARM mfunc list n.1 wback
  | .vpush => withBase { op := .vfp op .none, cond := .hole, args := [list] } 13 isARM mfunc
  | .vpop => withBase { op := .vfp op .none, cond := .hole, args := [list] } 13 isARM mfunc
  | _ => pure { rinst := none }

end Memory

/-! ## System registers -/

def genVfpSr (op : Op) (isARM : Bool) (srcReg dstReg : List ℕ) : Gen Unit Parts :=
  let sregs := if isARM then regsOr srcReg else (regsOr srcReg).erase 13
  let dregs := if isARM then regsOr dstReg else (regsOr dstReg).erase 13
  if dregs = [] ∨ sregs = [] then pure { rinst := none }
  else
    match op with
    | .vmrs => do
      let rval ← Draw.choice dregs
      if rval.1 < 15 then
        pure { rinst := some { op := .vfp op .none, cond := .hole, args := [.r rval.1, .fpscr] },
               postinst := getInstrsFixFPSCR rval.1 }
      else
        pure { rinst := some
                { op := .vfp op .none, cond := .hole, args := [.apsr "APSR_nzcv", .fpscr] } }
    | .vmsr => do
      let sregs := sregs.erase 15
      let rval ← Draw.choice sregs
      let rinst : Inst := { op := .vfp op .none, cond := .hole, args := [.fpscr, .r rval.1] }
      let sregs := sregs.erase rval.1
      if sregs = [] then do
        let mask ← Draw.choice [0x37c00000, 0xf7000000]
        pure { rinst := some rinst,
               preinst := [{ op := .and, args := [.r rval.1, .r rval.1, .hex8 mask.1] }] }
      else do
        let tmp ← Draw.choice sregs
        pure { rinst := some rinst,
               preinst := [{ op := .ldr, args := [.r tmp.1, .const 0xf7c00000] },
                 { op := .and, args := [.r rval.1, .r rval.1, .r tmp.1] }] }
    | _ => pure { rinst := none }

/-! ## Arithmetic -/

section Arithmetic

variable (op : Op) (isARM : Bool)

/-- Three operands of one precision, and a NaN replaced. -/
def genThree : Gen Unit Parts := do
  let f ← drawFmt
  let dst ← randint 0 31
  let d ← getRandOpnd (opType f) dst.1 dst.1
  let n ← getRandOpnd (opType f) 0 31
  let m ← getRandOpnd (opType f) 0 31
  let postinst ← getInstrsFixNaN f dst.1 isARM
  pure { rinst := some { op := .vfp op .none, cond := .hole, types := [tyOf f], args := [d, n, m] },
         postinst }

def genVfpMul : Gen Unit Parts := genThree op isARM

def genVfpTernay : Gen Unit Parts := genThree op isARM

/-- The operands of a comparison. -/
def cmpArgs (f : Fmt) (withZero : Bool) : Gen Unit (List Arg) := do
  let d ← getRandOpnd (opType f) 0 31
  if withZero then pure [d, .imm 0]
  else do
    let m ← getRandOpnd (opType f) 0 31
    pure [d, m]

def genVfpCmp : Gen Unit Parts := do
  let f ← drawFmt
  let withZero ← coin
  let args ← cmpArgs f withZero
  let quiet ← Draw.choice [Letter.e, .none]
  pure { rinst := some { op := .vfp op quiet.1, cond := .hole, types := [tyOf f], args } }

def genVfpBinary : Gen Unit Parts := do
  let f ← drawFmt
  let dst ← randint 0 31
  let d ← getRandOpnd (opType f) dst.1 dst.1
  let m ← getRandOpnd (opType f) 0 31
  let postinst ← Draw.drawIf (op = .vsqrt) (getInstrsFixNaN f dst.1 isARM) []
  pure { rinst := some { op := .vfp op .none, cond := .hole, types := [tyOf f], args := [d, m] },
         postinst }

end Arithmetic

/-! ## Moves -/

section Moves

variable (op : Op) (isARM : Bool)

/-- `"%s[%d]"`. -/
def Arg.index (x : ℕ) : Arg → Arg
  | .d n => .scalar n x
  | a => a

/-- A move without lines around it. -/
def moveParts (types : List Ty) (args : List Arg) : Parts where
  rinst := some { op := .vfp op .none, cond := .hole, types, args }

/-- An immediate. -/
def movImm : Gen Unit Parts := do
  let single ← coin
  if single then do
    let d ← getRandOpnd .spReg 0 31
    let imm ← getRandVFPExpandImm true
    pure (moveParts op [.f32] [d, .hex imm])
  else do
    let d ← getRandOpnd .dpReg 0 31
    let imm ← getRandOpnd .imm 0 255
    pure { rinst := some { op := .fconstd, cond := .hole, args := [d, imm] } }

/-- A register. -/
def movReg : Gen Unit Parts := do
  let single ← coin
  let f : Fmt := if single then .f32 else .f64
  let d ← getRandOpnd (opType f) 0 31
  let m ← getRandOpnd (opType f) 0 31
  pure (moveParts op [tyOf f] [d, m])

/-- A core register to a scalar. -/
def movToScalar (sregs : List ℕ) : Gen Unit Parts := do
  let rval ← Draw.choice (coreRegs isARM sregs)
  let d ← getRandOpnd .dpReg 0 31
  let x ← randint 0 1
  pure (moveParts op [.bits32] [d.index x.1, .r rval.1])

/-- A scalar to a core register. -/
def movOfScalar (dregs : List ℕ) : Gen Unit Parts := do
  let rval ← Draw.choice (coreRegs isARM dregs)
  let d ← getRandOpnd .dpReg 0 31
  let x ← randint 0 1
  pure (moveParts op [.bits32] [.r rval.1, d.index x.1])

/-- Between a core register and a single one. -/
def movSingle (sregs dregs : List ℕ) : Gen Unit Parts := do
  let toArm ← coin
  if toArm then do
    let rval ← Draw.choice (coreRegs isARM dregs)
    let n ← getRandOpnd .spReg 0 31
    pure (moveParts op [] [.r rval.1, n])
  else do
    let rval ← Draw.choice (coreRegs isARM sregs)
    let n ← getRandOpnd .spReg 0 31
    pure (moveParts op [] [n, .r rval.1])

/-- Two core registers: different ones if they are written. -/
def drawPair (toArm : Bool) (sregs dregs : List ℕ) : Gen Unit (ℕ × ℕ) :=
  if toArm then do
    let t ← Draw.choice (coreRegs isARM dregs)
    let t2 ← Draw.choice ((coreRegs isARM dregs).erase t.1)
    pure (t.1, t2.1)
  else do
    let t ← Draw.choice (coreRegs isARM sregs)
    let t2 ← Draw.choice (coreRegs isARM sregs)
    pure (t.1, t2.1)

/-- Between two core registers and two single ones. -/
def movSingles (sregs dregs : List ℕ) : Gen Unit Parts := do
  let toArm ← coin
  let m ← randint 0 30
  let t ← drawPair isARM toArm sregs dregs
  pure (moveParts op [] (if toArm then [.r t.1, .r t.2, .s m.1, .s (m.1 + 1)]
    else [.s m.1, .s (m.1 + 1), .r t.1, .r t.2]))

/-- Between two core registers and a double one. -/
def movDouble (sregs dregs : List ℕ) : Gen Unit Parts := do
  let toArm ← coin
  let m ← getRandOpnd .dpReg 0 31
  let t ← drawPair isARM toArm sregs dregs
  pure (moveParts op [] (if toArm then [.r t.1, .r t.2, m] else [m, .r t.1, .r t.2]))

def genVfpMov (srcReg dstReg : List ℕ) : Gen Unit Parts := do
  let movType ← randint 1 7
  let sregs := regsOr srcReg
  let dregs := regsOr dstReg
  if movType.1 = 1 then movImm op
  else if movType.1 = 2 then movReg op
  else if movType.1 = 3 then movToScalar op isARM sregs
  else if movType.1 = 4 then movOfScalar op isARM dregs
  else if movType.1 = 5 then movSingle op isARM sregs dregs
  else if movType.1 = 6 then movSingles op isARM sregs dregs
  else movDouble op isARM sregs dregs

end Moves

/-! ## Conversions -/

section Conversions

/-- The switches of the module. -/
def enableVcvtFloatFix : Bool := false
def enableVcvtDpSp : Bool := false
def enableVcvtNanInt : Bool := false

variable (op : Op) (isARM : Bool)

/-- Between a number and an integer.  A NaN is not converted: the conversion has the condition `vc`
after a comparison. -/
def cvtInteger : Gen Unit Parts := do
  let toInteger ← coin
  let f ← drawFmt
  let tm ← Draw.choice [Ty.u32, .s32]
  let intOpnd ← getRandOpnd .spReg 0 31
  let floatOpnd ← getRandOpnd (opType f) 0 31
  if toInteger then do
    let letter ← Draw.choice [Letter.r, .none]
    let rinst : Inst :=
      { op := .vfp op letter.1, types := [tm.1, tyOf f], args := [intOpnd, floatOpnd] }
    if enableVcvtNanInt then pure { rinst := some { rinst with cond := .hole } }
    else
      pure { rinst := some { rinst with cond := .is .vc },
             preinst := [{ op := .vfp .vcmp .none, types := [tyOf f], args := [floatOpnd, .zero] },
                 { op := .vfp .vmrs .none, args := [.apsr "apsr_nzcv", .fpscr] }] ++
               if isARM then [] else [{ op := .it [], args := [.cond .vc] }] }
  else pure (moveParts op [tyOf f, tm.1] [floatOpnd, intOpnd])

/-- `fbits`, for a size of 32 or of 16. -/
def drawFbits (size32 : Bool) : Gen Unit ℕ :=
  if size32 then do
    let n ← randint 1 32
    pure n.1
  else do
    let n ← randint 0 16
    pure n.1

/-- Between a number and a fixed-point number. -/
def cvtFixed : Gen Unit Parts := do
  let toFixed ← coin
  let f ← drawFmt
  let size32 ← Draw.choice [false, true]
  let unsigned ← Draw.choice [true, false]
  let fbits ← drawFbits size32.1
  let old ← Draw.drawIf (size32.1 = false ∧ fbits = 0) (do
    let d ← getRandOpnd (opType f) 0 31
    let inst : Inst :=
      { op := if toFixed then .ftosh f else .fshto f, args := [d, .imm 0] }
    pure (some inst)) none
  let d ← getRandOpnd (opType f) 0 31
  let td : Ty := match unsigned.1, size32.1 with
    | true, true => .u32
    | true, false => .u16
    | false, true => .s32
    | false, false => .s16
  let parts := moveParts op (if toFixed then [td, tyOf f] else [tyOf f, td]) [d, d, .imm fbits]
  pure { parts with rinst := old.orElse fun _ => parts.rinst }

/-- Between the precisions. -/
def cvtFloat : Gen Unit Parts := do
  let doubleToSingle ← coin
  let f : Fmt := if doubleToSingle then .f32 else .f64
  let g : Fmt := if doubleToSingle then .f64 else .f32
  let dst ← randint 0 31
  let d ← getRandOpnd (opType f) dst.1 dst.1
  let m ← getRandOpnd (opType g) 0 31
  let postinst ← getInstrsFixNaN f dst.1 isARM
  pure { moveParts op [tyOf f, tyOf g] [d, m] with postinst }

/-- From and to half precision. -/
def cvtHalf : Gen Unit Parts := do
  let lowbit ← Draw.choice [Letter.b, .t]
  let types ← Draw.drawIf enableVcvtDpSp (do
    let l ← Draw.choice [[Ty.f32, .f16], [.f16, .f32]]
    pure l.1) [.f32, .f16]
  let d ← getRandOpnd .spReg 0 31
  let m ← getRandOpnd .spReg 0 31
  pure { rinst := some { op := .vfp op lowbit.1, cond := .hole, types, args := [d, m] } }

def genVfpCvt : Gen Unit Parts := do
  let alltypes := if enableVcvtFloatFix then List.range' 1 4 else (List.range' 1 4).erase 2
  let cvtType ← Draw.choice alltypes
  if cvtType.1 = 1 then cvtInteger op isARM
  else if cvtType.1 = 2 then cvtFixed op
  else if cvtType.1 = 3 then cvtFloat op isARM
  else cvtHalf op

end Conversions

/-! ## `gen_instr` -/

def vfpGenHelper (op : Op) (isARM : Bool) (s d : List ℕ)
    (mfunc : ℕ → Bool → Gen Unit (List Inst)) : Gen Unit Parts :=
  match op with
  | .vldr | .vstr => genVfpMem op isARM s mfunc
  | .vldm | .vstm | .vpush | .vpop => genVfpMultiMem op isARM s mfunc
  | .vmsr | .vmrs => genVfpSr op isARM s d
  | .vmla | .vmls | .vmul | .vnmla | .vnmls | .vnmul => genVfpMul op isARM
  | .vcmp => genVfpCmp op
  | .vabs | .vneg | .vsqrt => genVfpBinary op isARM
  | .vadd | .vsub | .vdiv => genVfpTernay op isARM
  | .vmov => genVfpMov op isARM s d
  | .vcvt => genVfpCvt op isARM

def memVfpOp : List Op := [.vldr, .vstr, .vldm, .vstm, .vpush, .vpop]

def getRegs (reg : ℕ) : List ℕ :=
  if reg = 0 then List.range 16
  else if reg < 4 then List.range' 0 4
  else if reg < 8 then List.range' 4 4
  else if reg < 13 then List.range' 8 5
  else if reg = 13 then [13]
  else List.range 16

/-- `code.CondCode`, but for `al`. -/
def condCode : List Arm.Cond :=
  [.eq, .ne, .cs, .cc, .mi, .pl, .vs, .vc, .hi, .ls, .ge, .lt, .gt, .le]

/-- An instruction whose hole, if there is one, is filled. -/
def Inst.fill (i : Inst) (c : Option Arm.Cond) : Inst :=
  if i.cond = .hole then { i with cond := c.elim .none .is } else i

def setInstCond (instr : Inst) (cond : ℕ) : Gen Unit Inst :=
  if cond = 14 then pure (instr.fill none)
  else
    match condCode[cond]? with
    | some c => pure (instr.fill (some c))
    | none => throw .keyError

/-- `opcodes.remove(op)` for one opcode after the other. -/
def removeOps (l : List Op) : List Op → Gen Unit (List Op)
  | [] => pure l
  | op :: ops => do
    remove op l
    removeOps (l.erase op) ops

def getOpcodes (isARM : Bool) (srcReg dstReg : ℕ) : Gen Unit (List Op) := do
  let l := opcodes
  let l ← Draw.drawIf (srcReg > 12) (removeOps l [.vldr, .vstr, .vldm, .vstm]) l
  let l ← Draw.drawIf (srcReg > 13) (removeOps l [.vpush, .vpop]) l
  let l ← Draw.drawIf (srcReg = 15) (removeOps l [.vmsr]) l
  let l ← Draw.drawIf (srcReg = 13 ∧ isARM = false) (removeOps l [.vmsr, .vmov]) l
  let l ← Draw.drawIf (dstReg > 12 ∧ .vmov ∈ l) (removeOps l [.vmov]) l
  Draw.drawIf (dstReg = 13 ∧ isARM = false) (removeOps l [.vmrs]) l

/-- The register list of `reinitVFPRegs`. -/
def reinitList : Gen Unit Arg := do
  let single ← coin
  if single then do
    let low ← randint 0 8
    let high ← randint (low.1 + 1) 32
    pure (.regs .f32 (List.range' low.1 (high.1 - low.1)))
  else do
    let low ← randint 0 23
    let high ← randint (low.1 + 9) (low.1 + 16)
    let high := if high.1 > 32 then 32 else high.1
    pure (.regs .f64 (List.range' low.1 (high - low.1)))

def reinitVFPRegs (label : String) (limit : ℕ) : Gen Unit (List Inst) := do
  let baseReg ← randint 0 12
  let offset ← Draw.drawIf (64 ≤ limit) (do let k ← randint 0 (limit - 64); pure (k.1 * 4)) 0
  let list ← reinitList
  pure [{ op := .ldr, args := [.r baseReg.1, .address label offset] },
    { op := .vfp .vldm .ia, args := [.r baseReg.1, list] }]

/-- The first half of `gen_instr`: an opcode is drawn, and its helper is called. -/
def genParts (isARM : Bool) (srcReg dstReg : ℕ) (allowFix : Bool) : Gen Unit Parts := do
  let s := getRegs srcReg
  let d := getRegs dstReg
  let opcodes ← getOpcodes isARM srcReg dstReg
  if allowFix then do
    let op ← Draw.choice opcodes
    vfpGenHelper op.1 isARM s d setMemBase
  else do
    let op ← Draw.choice (opcodes.erase .vmrs)
    vfpGenHelper op.1 isARM s d (if op.1 ∈ memVfpOp then setRegAlign else setMemBase)

def genInstr (isARM : Bool) (cond srcReg dstReg : ℕ) (allowFix : Bool) :
    Gen Unit (Option (List Inst)) := do
  let cond := if isARM then cond else 14
  let parts ← genParts isARM srcReg dstReg allowFix
  match parts.rinst with
  | none => pure none
  | some rinst => do
    let rval ← randint 0 100
    let reinit ← Draw.drawIf (rval.1 > 80) (reinitVFPRegs "bv_vfp" 512) []
    let inst ← setInstCond rinst cond
    pure (some (reinit ++ parts.preinst ++ [inst] ++ parts.postinst))

end Rit.Art.Vfp
