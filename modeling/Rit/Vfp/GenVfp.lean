import Mathlib.Data.Fintype.Basic
import Rit.Lib.Arm.Cpu

/-!
# `gen_vfp.py`: single-register loads and stores, and their data area

`gen_vfp.py` prints one test program with one floating-point instruction in it.  A load or store
gets a line before it that sets its base register to a random place near `mem_data`, unless the base
is the program counter.  The data section, printed elsewhere in the script, has three areas in a
row: `b_mem_data`, `mem_data` and `a_mem_data`, so that the access may miss the middle one on both
sides.

Instructions are records here, not texts.  The random draws of a function are a record too, with the
ranges of `random.randint` and `random.choice` as its types.
-/

namespace Rit.GenVfp

/-! ## The data section -/

abbrev Word := BitVec 32

/-- The labels of the data section. -/
inductive DataLabel
  | bMemData | memData | aMemData
  deriving DecidableEq, Repr

/-- A line of the data section; `align n` aligns to `2 ^ n` bytes. -/
inductive DataLine
  | align (n : ℕ)
  | label (l : DataLabel)
  | word (ws : List Word)
  deriving DecidableEq, Repr

/-- The words of one `.word` line. -/
def randomWords (draw : ℕ → Word) (start n : ℕ) : List Word :=
  (List.range n).map fun i => draw (start + i)

/-- `RandomData`: lines of four words, and a line with the words that are left. -/
def randomData (size : ℕ) (draw : ℕ → Word) : List DataLine :=
  (List.range (size / 4)).map (fun i => .word (randomWords draw (4 * i) 4)) ++
    if size % 4 ≠ 0 then [.word (randomWords draw (4 * (size / 4)) (size % 4))] else []

/-- The data section of `gen_exit_code`. -/
def dataSection (before mid behind : ℕ → Word) : List DataLine :=
  [.align 4, .label .bMemData] ++ randomData 253 before ++
    [.align 4, .label .memData] ++ randomData 64 mid ++
    [.align 4, .label .aMemData] ++ randomData 256 behind

/-- The address behind a line. -/
def DataLine.next (addr : ℕ) : DataLine → ℕ
  | .align n => (addr + 2 ^ n - 1) / 2 ^ n * 2 ^ n
  | .label _ => addr
  | .word ws => addr + 4 * ws.length

/-- The address behind some lines. -/
def endOf (addr : ℕ) (ls : List DataLine) : ℕ := ls.foldl DataLine.next addr

/-- The address of a label. -/
def addressOf (l : DataLabel) (addr : ℕ) (ls : List DataLine) : ℕ :=
  endOf addr (ls.takeWhile (· ≠ .label l))

/-- `-Tdata`: where the section starts. -/
def tdata : ℕ := 0x40a000

/-! ## The instruction -/

/-- The two instructions. -/
inductive MemOp
  | vldr | vstr
  deriving DecidableEq, Repr

/-- `vldr<c> dst, [rn, #imm]`, or with `#-imm` if it is not to be added.  `dp` is the width of the
register `dst`. -/
structure MemInst where
  op : MemOp
  dp : Bool
  dst : Fin 32
  n : Fin 16
  add : Bool
  imm : ℕ
  deriving DecidableEq, Repr

/-- `ldr rn, =mem_data+offset`. -/
structure PreInst where
  n : Fin 16
  offset : ℕ
  deriving DecidableEq, Repr

/-- The draws of `gen_vfp_mem`; `imm` and `rval` are drawn before they are multiplied by 4. -/
structure MemChoice where
  add : Bool
  dp : Bool
  dst : Fin 32
  n : Fin 16
  imm : Fin 256
  rval : Fin 65
  deriving DecidableEq, Repr

def genVfpMem (op : MemOp) (c : MemChoice) : MemInst × Option PreInst :=
  let imm := c.imm.val * 4
  let imm := if c.add = false ∧ c.n = 15 ∧ imm < 12 then 0 else imm
  let rinst := { op, dp := c.dp, dst := c.dst, n := c.n, add := c.add, imm }
  let preinst := if c.n < 15 then some ⟨c.n, c.rval.val * 4⟩ else none
  (rinst, preinst)

/-! ## Executing it -/

/-- The core registers. -/
abbrev Regs := Fin 16 → Word

/-- The preparation line sets its register. -/
def PreInst.exec (p : PreInst) (memData : ℕ) (r : Regs) : Regs :=
  Function.update r p.n (.ofNat 32 (memData + p.offset))

/-- The address of the access. -/
def MemInst.address (i : MemInst) (r : Regs) : Word :=
  if i.add then r i.n + .ofNat 32 i.imm else r i.n - .ofNat 32 i.imm

/-- The bytes of the access: one word or two. -/
def MemInst.bytes (i : MemInst) (r : Regs) : List ℕ :=
  (List.range (if i.dp then 8 else 4)).map fun k => (i.address r + .ofNat 32 k).toNat

end Rit.GenVfp
