import Mathlib.Algebra.BigOperators.Group.List.Basic
import Rit.Lib.Arm.Machine

/-!
# `instrgen`: the exclusive sequence

An exclusive block is a load-exclusive (`genLDREX`) followed by a store-exclusive (`genSTREX`) in a
retry loop.  Whether a store-exclusive succeeds is not determined, so the sequence hides it: it
counts the attempts in `exclcnt`, restores the flags from `exclflag` before each one, passes the
address of the lock through `excladdr`, and at the end overwrites what the attempts wrote.

Registers are drawn from lists that shrink as registers are used.  The lists stand in the types of
the draws as the source computes them.
-/

namespace Rit.Art

open Arm (Reg Operand Transfer)

/-! ## The data section -/

/-- The symbols of `genDataBlock`. -/
inductive DataSym
  | ritdata | regbak | cfgdata | excladdr | exclflag | exclcnt | bvGeneral | bvVfp
  deriving DecidableEq, Repr

/-- `genDataBlock`: the symbols with their sizes in bytes. -/
def genDataBlock : List (DataSym × ℕ) :=
  [(.ritdata, 4 * 0x18000), (.regbak, 64), (.cfgdata, 64), (.excladdr, 4), (.exclflag, 4),
    (.exclcnt, 4), (.bvGeneral, 4 * 512), (.bvVfp, 4 * 512)]

/-- The address of a symbol; the section is linked at `-Tdata=0x03fb0000`. -/
@[irreducible] def symAddr (sym : DataSym) : Arm.Word :=
  .ofNat 32 (0x03fb0000 + ((genDataBlock.takeWhile (·.1 ≠ sym)).map Prod.snd).sum)

def getMemLimit : ℕ × ℕ := (0x03fc0000, 0x03ffffff)

/-! ## Tables -/

inductive OpSize
  | b | h | w | d
  deriving DecidableEq, Repr

def exclCnt : Arm.Word := 0xff

/-- `arminfo.INVCONDCODE` at the index of a condition in `arminfo.CONDCODE`. -/
def invCondcode : Arm.Cond → Arm.Cond
  | .eq => .ne
  | .ne => .eq
  | .cs => .cc
  | .cc => .cs
  | .mi => .pl
  | .pl => .mi
  | .vs => .vc
  | .vc => .vs
  | .hi => .ls
  | .ls => .hi
  | .ge => .lt
  | .lt => .ge
  | .gt => .le
  | .le => .gt

/-- `range(n)`, as registers. -/
def regRange (n : ℕ) : List Reg := (List.finRange 16).take n

/-- The labels of the sequence, after the prefix of its block. -/
inductive ExclLabel
  | backEdge | fillLockMem | stub
  deriving DecidableEq, Repr

/-- The lines of the sequence. -/
abbrev ExclLine := Arm.Line ExclLabel

/-- The operand of an exclusive access. -/
def OpSize.transfer (rt rt2 : Reg) : OpSize → Transfer
  | .b => .b rt
  | .h => .h rt
  | .w => .w rt
  | .d => .d rt rt2

/-- `rval >> k << k` for the size. -/
def OpSize.align (rval : ℕ) : OpSize → ℕ
  | .b => rval
  | .h => rval >>> 1 <<< 1
  | .w => rval >>> 2 <<< 2
  | .d => rval >>> 3 <<< 3

/-! ## `genLDREX` -/

/-- `reglist` when `rt` is drawn. -/
def ldrexRegs (isARM : Bool) (size : OpSize) : List Reg :=
  if isARM then
    if size = .d then ((regRange 15).erase 14).filter fun i => i.val &&& 1 = 0 else regRange 15
  else (regRange 15).erase 13

/-- The draws of `genLDREX`; `rt2` is drawn for a Thumb pair only.  The constants come from
`getRandRegVal` and may be any word. -/
structure LdrexChoice (isARM : Bool) (size : OpSize) where
  cond : Arm.Cond
  rval : ℕ
  le_rval : getMemLimit.1 ≤ rval
  rval_le : rval ≤ getMemLimit.2
  rn : Reg
  rn_mem : rn ∈ regRange 15
  rt : Reg
  rt_mem : rt ∈ ldrexRegs isARM size
  rp : Reg
  rp_mem : rp ∈ (ldrexRegs isARM size).erase 13
  rq : Reg
  rq_mem : rq ∈ ((ldrexRegs isARM size).erase 13).erase rp
  immOffset : Bool
  imm : Fin 256
  rt2 : Reg
  rt2_mem : isARM = false → size = .d →
    rt2 ∈ (((ldrexRegs isARM size).erase 13).erase rp).erase rt
  rx : Reg
  rx_mem : rx ∈ regRange 13
  ry : Reg
  ry_mem : ry ∈ (regRange 13).erase rx
  rtVal : Arm.Word
  rt2Val : Arm.Word

namespace LdrexChoice

variable {isARM : Bool} {size : OpSize} (r : LdrexChoice isARM size)

/-- The address of the lock. -/
def lock : Arm.Word := .ofNat 32 (size.align r.rval)

/-- The offset in the instruction: only Thumb has one, and only for words. -/
def offset : Arm.Word :=
  if !isARM && decide (size = .w) && r.immOffset then .ofNat 32 (r.imm <<< 2) else 0

/-- The second register of a pair. -/
def pair : Reg := if isARM then r.rt + 1 else r.rt2

/-- Saving the flags. -/
def save : List ExclLine :=
  [.op none (.mrs r.rp),
    .op none (.ldrConst r.rq (symAddr .exclflag)),
    .op none (.str (.w r.rp) r.rq 0)]

/-- Restoring the flags, at the back edge. -/
def restore : List ExclLine :=
  [.op none (.ldrConst r.rq (symAddr .exclflag)),
    .op none (.ldr (.w r.rp) r.rq 0),
    .op none (.msr r.rp)]

/-- The load-exclusive, after which `excladdr` has the address of the lock. -/
def load (cond : Option Arm.Cond) : List ExclLine :=
  let it : List ExclLine := if isARM then [] else cond.elim [] fun c => [.it c]
  it ++
    [.op cond (.ldrConst r.rn (r.lock - r.offset)),
      .op cond (.ldr (size.transfer r.rt r.pair) r.rn r.offset),
      .op cond (.ldrConst r.rx (symAddr .excladdr)),
      .op cond (.ldrConst r.ry r.lock)] ++
    it ++
    [.op cond (.str (.w r.ry) r.rx 0),
      .op cond (.ldrConst r.rt r.rtVal)] ++
    if size = .d then [.op cond (.ldrConst r.pair r.rt2Val)] else []

end LdrexChoice

def genLDREX (isARM isconditional : Bool) {size : OpSize} (r : LdrexChoice isARM size) :
    List ExclLine :=
  let cond := if isconditional then some r.cond else none
  r.save ++ [.label .backEdge] ++ r.restore ++ r.load cond

/-! ## `genSTREX` -/

/-- `reglist` when `rs` is drawn. -/
def strexRegs (isARM : Bool) : List Reg := if isARM then regRange 15 else (regRange 15).erase 13

/-- `reglist` when `rt` is removed from it.  For an ARM pair `regtmp` is another name for the same
list, so that 14 has gone. -/
def strexTransferRegs (isARM : Bool) (size : OpSize) : List Reg :=
  if isARM then if size = .d then (regRange 15).erase 14 else regRange 15
  else (regRange 15).erase 13

/-- The list `rt` is drawn from in the end. -/
def strexRtRegs (isARM : Bool) (size : OpSize) : List Reg :=
  if isARM && decide (size = .d) then
    (strexTransferRegs isARM size).filter fun i => i.val &&& 1 = 0
  else strexTransferRegs isARM size

/-- The second transfer register. -/
def strexPair (isARM : Bool) (rt rt2 : Reg) : Reg := if isARM then rt + 1 else rt2

def regLm (size : OpSize) (rt pair : Reg) : List Reg :=
  let reglm := (regRange 13).erase rt
  if size = .d then reglm.erase pair else reglm

/-- The draws of `genSTREX`. -/
structure StrexChoice (isARM : Bool) (size : OpSize) where
  cond : Arm.Cond
  rs : Reg
  rs_mem : rs ∈ strexRegs isARM
  rw : Reg
  rw_mem : rw ∈ (strexRegs isARM).erase rs
  rn : Reg
  rn_mem : rn ∈ ((strexRegs isARM).erase rs).erase rw
  rv : Reg
  rv_mem : rv ∈ (((strexRegs isARM).erase rs).erase rw).erase rn
  immOffset : Bool
  imm : Fin 256
  rt : Reg
  rt_mem : rt ∈ strexRtRegs isARM size
  rt2 : Reg
  rt2_mem : isARM = false → rt2 ∈ (strexTransferRegs isARM size).erase rt
  rd : Reg
  rd_mem : rd ∈
    (((strexTransferRegs isARM size).erase rt).erase (strexPair isARM rt rt2)).erase rn
  rz1 : Reg
  rz1_mem : rz1 ∈ (regRange 15).erase rn
  rz2 : Reg
  rz2_mem : rz2 ∈ ((regRange 15).erase rn).erase rz1
  rm : Reg
  rm_mem : rm ∈ regLm size rt (strexPair isARM rt rt2)
  rtVal : Arm.Word
  rt2Val : Arm.Word
  rsVal : Arm.Word
  rnVal : Arm.Word

namespace StrexChoice

variable {isARM : Bool} {size : OpSize} (r : StrexChoice isARM size)

/-- The second transfer register. -/
def pair : Reg := strexPair isARM r.rt r.rt2

/-- Whether the instruction has an offset. -/
def hasOffset : Bool := !isARM && r.immOffset && decide (size = .w)

/-- The offset in the instruction. -/
def offset : Arm.Word := if r.hasOffset then .ofNat 32 (r.imm <<< 2) else 0

/-- `rn in reg_lm`. -/
def keepsRn : Bool := r.rn ∈ regLm size r.rt r.pair

/-- The value of the variable `rn` after the choice of `rm`. -/
def lockReg : Reg := if r.keepsRn then r.rn else r.rm

/-- Reading the address of the lock. -/
def readAddr : List ExclLine :=
  [.op none (.mrs r.rs),
    .op none (.ldrConst r.rw (symAddr .excladdr)),
    .op none (.ldr (.w r.rn) r.rw 0),
    .op none (.cmp r.rn (.imm 0))]

/-- Clearing `excladdr` and restoring the flags before the attempt. -/
def prepare (cond : Option Arm.Cond) : List ExclLine :=
  [.op none (.mov r.rv (.imm 0)),
    .op none (.str (.w r.rv) r.rw 0),
    .op none (.msr r.rs)] ++
  (if r.hasOffset then [.op none (.alu .sub r.rn r.rn (.imm r.offset))] else []) ++
  [.op none (.mov r.rd (.imm 0))] ++
  if isARM then [] else cond.elim [] fun c => [.it c]

/-- The attempt. -/
def attempt (cond : Option Arm.Cond) : ExclLine :=
  .strex cond r.rd (size.transfer r.rt r.pair) r.rn r.offset

/-- Counting the attempt. -/
def count : List ExclLine :=
  [.op none (.cmp r.rd (.imm 0)),
    .op none (.ldrConst r.rz1 (symAddr .exclcnt)),
    .op none (.ldr (.w r.rz2) r.rz1 0),
    .op none (.alu .sub r.rz2 r.rz2 (.imm 1)),
    .op none (.str (.w r.rz2) r.rz1 0)] ++
  (if isARM then [] else [.it .ne]) ++
  [.op (some .ne) (.cmp r.rz2 (.imm 0))]

/-- Overwriting the lock with constants. -/
def fill : List ExclLine :=
  (if r.hasOffset then [.op none (.alu .add r.rn r.rn (.imm r.offset))] else []) ++
  (if r.keepsRn then [] else [.op none (.mov r.rm (.reg r.rn))]) ++
  [.op none (.ldrConst r.rt r.rtVal)] ++
  if size = .d then
    [.op none (.ldrConst r.pair r.rt2Val), .op none (.str (.d r.rt r.pair) r.lockReg 0)]
  else [.op none (.str (.w r.rt) r.lockReg 0)]

/-- Overwriting the registers and the counter with constants. -/
def stub : List ExclLine :=
  [.op none (.ldrConst r.rs r.rsVal),
    .op none (.ldrConst r.lockReg r.rnVal),
    .op none (.mov r.rd (.imm 0)),
    .op none (.cmp r.rd (.imm 0)),
    .op none (.ldrConst r.rz1 (symAddr .exclcnt)),
    .op none (.ldrConst r.rz2 exclCnt),
    .op none (.str (.w r.rz2) r.rz1 0)]

end StrexChoice

/-- `genSTREX` with the size of the load. -/
def genSTREX (isARM isconditional : Bool) {size : OpSize} (r : StrexChoice isARM size) :
    List ExclLine :=
  let cond := if isconditional then some r.cond else none
  r.readAddr ++ [.b (some .eq) .stub] ++ r.prepare cond ++ [r.attempt cond] ++
    cond.elim [] (fun c => [.b (some (invCondcode c)) .fillLockMem]) ++ r.count ++
    [.b (some .ne) .backEdge, .label .fillLockMem] ++ r.fill ++ [.label .stub] ++ r.stub

/-- The draws of one exclusive block: `condcode` is shared by both halves. -/
structure ExclChoice (isARM : Bool) where
  condcode : Bool
  size : OpSize
  ldrex : LdrexChoice isARM size
  strex : StrexChoice isARM size

/-- The sequence of `ExclsiveRBlock`, `e_l` followed by `e_s`. -/
def exclSequence {isARM : Bool} (r : ExclChoice isARM) : List ExclLine :=
  genLDREX isARM r.condcode r.ldrex ++ genSTREX isARM r.condcode r.strex

end Rit.Art
