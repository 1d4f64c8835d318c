import Rit.Art.Exclusive
import Rit.Lib.Arm.ItBlock

/-!
# `instrgen`: sequences as they are printed

The lines of `Exclusive` are what the machine executes; two things the printed text has are not in
them, the mnemonic of an instruction and the letters of an `it`.  Here the sequences are given with
both.  Forgetting them gives the lines of `Exclusive` again (`genLDREX_lines`, `genSTREX_lines`).
-/

namespace Rit.Art.Listing

open Arm (Reg)

/-! ## Entries -/

/-- The mnemonics, without condition and width; `dotInst` is the directive of a word. -/
inductive Mnemonic
  | mrs | msr | isb
  | ldr | str | strd
  | ldrexb | ldrexh | ldrex | ldrexd
  | strexb | strexh | strex | strexd
  | cmp | mov | add | sub | subs | and | ands
  | b
  | dotInst
  deriving DecidableEq, Repr

/-- An entry of a sequence: an `it` with its letters, an instruction, or a line that is none. -/
inductive Entry (L : Type)
  | it (c : Arm.Cond) (mask : List Bool)
  | inst (op : Mnemonic) (line : Arm.Line L)
  | mark (line : Arm.Line L)
  deriving DecidableEq, Repr

namespace Entry

variable {L : Type}

/-- The line that the machine executes. -/
def line : Entry L → Arm.Line L
  | it c _ => .it c
  | inst _ l => l
  | mark l => l

/-- The condition that is printed at an instruction. -/
def cond? : Arm.Line L → Option Arm.Cond
  | .op c _ => c
  | .strex c _ _ _ _ => c
  | .b c _ => c
  | .addPc c _ => c
  | .movPc c _ => c
  | _ => none

/-- What the entry looks like in an IT block; writing `r15` counts as a branch. -/
def look : Entry L → Arm.Look
  | it c mask => .it c mask
  | inst _ (.word _) => .word false
  | inst _ (.b c _) => .text c true
  | inst _ (.addPc c _) => .text c true
  | inst _ (.movPc c _) => .text c true
  | inst _ l => .text (cond? l) false
  | mark _ => .other

end Entry

/-- The entries of the exclusive sequence. -/
abbrev ExclEntry := Entry ExclLabel

/-- `if not isARM and cond != ''` followed by an `it`. -/
def itIf (isARM : Bool) (cond : Option Arm.Cond) (mask : List Bool) : List ExclEntry :=
  if isARM then [] else cond.elim [] fun c => [.it c mask]

/-- The mnemonic of the load-exclusive. -/
def ldrexOp : OpSize → Mnemonic
  | .b => .ldrexb
  | .h => .ldrexh
  | .w => .ldrex
  | .d => .ldrexd

/-- The mnemonic of the store-exclusive. -/
def strexOp : OpSize → Mnemonic
  | .b => .strexb
  | .h => .strexh
  | .w => .strex
  | .d => .strexd

/-! ## `genLDREX` -/

section Load

variable {isARM : Bool} {size : OpSize} (r : LdrexChoice isARM size)

/-- Saving and restoring the flags, with the back edge between. -/
def flags : List ExclEntry :=
  [.inst .mrs (.op none (.mrs r.rp)),
    .inst .ldr (.op none (.ldrConst r.rq (symAddr .exclflag))),
    .inst .str (.op none (.str (.w r.rp) r.rq 0)),
    .mark (.label .backEdge),
    .inst .ldr (.op none (.ldrConst r.rq (symAddr .exclflag))),
    .inst .ldr (.op none (.ldr (.w r.rp) r.rq 0)),
    .inst .msr (.op none (.msr r.rp))]

/-- The four entries of the first `it`. -/
def load (cond : Option Arm.Cond) : List ExclEntry :=
  [.inst .ldr (.op cond (.ldrConst r.rn (r.lock - r.offset))),
    .inst (ldrexOp size) (.op cond (.ldr (size.transfer r.rt r.pair) r.rn r.offset)),
    .inst .ldr (.op cond (.ldrConst r.rx (symAddr .excladdr))),
    .inst .ldr (.op cond (.ldrConst r.ry r.lock))]

/-- The entries of the second `it`. -/
def keep (cond : Option Arm.Cond) : List ExclEntry :=
  if size = .d then
    [.inst .str (.op cond (.str (.w r.ry) r.rx 0)),
      .inst .ldr (.op cond (.ldrConst r.rt r.rtVal)),
      .inst .ldr (.op cond (.ldrConst r.pair r.rt2Val))]
  else
    [.inst .str (.op cond (.str (.w r.ry) r.rx 0)),
      .inst .ldr (.op cond (.ldrConst r.rt r.rtVal))]

def genLDREX (isconditional : Bool) : List ExclEntry :=
  let cond := if isconditional then some r.cond else none
  flags r ++ itIf isARM cond [true, true, true] ++ load r cond ++
    itIf isARM cond (if size = .d then [true, true] else [true]) ++ keep r cond

end Load

/-! ## `genSTREX` -/

section Store

variable {isARM : Bool} {size : OpSize} (r : StrexChoice isARM size)

/-- Reading the address of the lock; without one the attempt is skipped. -/
def readAddr : List ExclEntry :=
  [.inst .mrs (.op none (.mrs r.rs)),
    .inst .ldr (.op none (.ldrConst r.rw (symAddr .excladdr))),
    .inst .ldr (.op none (.ldr (.w r.rn) r.rw 0)),
    .inst .cmp (.op none (.cmp r.rn (.imm 0))),
    .inst .b (.b (some .eq) .stub)]

/-- Clearing `excladdr` and restoring the flags. -/
def clearAddr : List ExclEntry :=
  [.inst .mov (.op none (.mov r.rv (.imm 0))),
    .inst .str (.op none (.str (.w r.rv) r.rw 0)),
    .inst .msr (.op none (.msr r.rs))]

/-- The base without the offset of the instruction. -/
def subOffset : List ExclEntry :=
  if r.hasOffset then [.inst .sub (.op none (.alu .sub r.rn r.rn (.imm r.offset)))] else []

/-- The attempt, alone under its `it`. -/
def attempt (cond : Option Arm.Cond) : ExclEntry :=
  .inst (strexOp size) (.strex cond r.rd (size.transfer r.rt r.pair) r.rn r.offset)

/-- The way out if the attempt was not made. -/
def skip (cond : Option Arm.Cond) : List ExclEntry :=
  cond.elim [] fun c => [.inst .b (.b (some (invCondcode c)) .fillLockMem)]

/-- Counting the attempt. -/
def count : List ExclEntry :=
  [.inst .cmp (.op none (.cmp r.rd (.imm 0))),
    .inst .ldr (.op none (.ldrConst r.rz1 (symAddr .exclcnt))),
    .inst .ldr (.op none (.ldr (.w r.rz2) r.rz1 0)),
    .inst .sub (.op none (.alu .sub r.rz2 r.rz2 (.imm 1))),
    .inst .str (.op none (.str (.w r.rz2) r.rz1 0))]

/-- Another round, unless the counter has run out. -/
def again : List ExclEntry :=
  [.inst .cmp (.op (some .ne) (.cmp r.rz2 (.imm 0))),
    .inst .b (.b (some .ne) .backEdge),
    .mark (.label .fillLockMem)]

/-- The address of the lock in a register that the constants leave alone. -/
def lockAddr : List ExclEntry :=
  (if r.hasOffset then [.inst .add (.op none (.alu .add r.rn r.rn (.imm r.offset)))] else []) ++
  if r.keepsRn then [] else [.inst .mov (.op none (.mov r.rm (.reg r.rn)))]

/-- Overwriting the lock with constants. -/
def fill : List ExclEntry :=
  if size = .d then
    [.inst .ldr (.op none (.ldrConst r.rt r.rtVal)),
      .inst .ldr (.op none (.ldrConst r.pair r.rt2Val)),
      .inst .strd (.op none (.str (.d r.rt r.pair) r.lockReg 0))]
  else
    [.inst .ldr (.op none (.ldrConst r.rt r.rtVal)),
      .inst .str (.op none (.str (.w r.rt) r.lockReg 0))]

/-- Overwriting the registers and the counter with constants. -/
def stub : List ExclEntry :=
  [.mark (.label .stub),
    .inst .ldr (.op none (.ldrConst r.rs r.rsVal)),
    .inst .ldr (.op none (.ldrConst r.lockReg r.rnVal)),
    .inst .mov (.op none (.mov r.rd (.imm 0))),
    .inst .cmp (.op none (.cmp r.rd (.imm 0))),
    .inst .ldr (.op none (.ldrConst r.rz1 (symAddr .exclcnt))),
    .inst .ldr (.op none (.ldrConst r.rz2 exclCnt)),
    .inst .str (.op none (.str (.w r.rz2) r.rz1 0))]

/-- `genSTREX` with the size of the load. -/
def genSTREX (isconditional : Bool) : List ExclEntry :=
  let cond := if isconditional then some r.cond else none
  readAddr r ++ clearAddr r ++ subOffset r ++ [.inst .mov (.op none (.mov r.rd (.imm 0)))] ++
    itIf isARM cond [false] ++ [attempt r cond] ++ skip cond ++ count r ++
    itIf isARM (some .ne) [] ++ again r ++ lockAddr r ++ fill r ++ stub r

end Store

/-! ## The lines of the machine -/

lemma itIf_lines (isARM : Bool) (cond : Option Arm.Cond) (mask : List Bool) :
    (itIf isARM cond mask).map Entry.line =
      if isARM then [] else cond.elim [] fun c => [.it c] := by
  cases isARM <;> cases cond <;> rfl

/-- Without mnemonics and letters this is the sequence that the machine executes. -/
theorem genLDREX_lines {isARM : Bool} {size : OpSize} (r : LdrexChoice isARM size)
    (isconditional : Bool) :
    (genLDREX r isconditional).map Entry.line = Art.genLDREX isARM isconditional r := by
  simp only [genLDREX, Art.genLDREX, LdrexChoice.save, LdrexChoice.restore, LdrexChoice.load,
    flags, load, keep, List.map_append, itIf_lines]
  by_cases hsize : size = .d
  · simp [hsize, Entry.line]
  · simp [hsize, Entry.line]

section Store

variable {isARM : Bool} {size : OpSize} (r : StrexChoice isARM size)

lemma skip_lines (cond : Option Arm.Cond) : (skip cond).map Entry.line =
    cond.elim [] fun c => [.b (some (invCondcode c)) .fillLockMem] := by
  cases cond <;> rfl

lemma prepare_lines (cond : Option Arm.Cond) : (clearAddr r ++ subOffset r ++
    [Entry.inst .mov (.op none (.mov r.rd (.imm 0)))] ++ itIf isARM cond [false]).map Entry.line =
      r.prepare cond := by
  simp only [StrexChoice.prepare, List.map_append, itIf_lines, subOffset]
  cases r.hasOffset <;> rfl

lemma fill_lines : (lockAddr r ++ fill r).map Entry.line = r.fill := by
  simp only [lockAddr, fill, StrexChoice.fill, List.map_append]
  by_cases hsize : size = .d
  · simp only [if_pos hsize]
    cases r.hasOffset <;> cases r.keepsRn <;> rfl
  · simp only [if_neg hsize]
    cases r.hasOffset <;> cases r.keepsRn <;> rfl

theorem genSTREX_lines (isconditional : Bool) :
    (genSTREX r isconditional).map Entry.line = Art.genSTREX isARM isconditional r := by
  have hprepare := prepare_lines r (if isconditional then some r.cond else none)
  have hfill := fill_lines r
  simp only [List.map_append, List.append_assoc] at hprepare hfill
  simp only [genSTREX, Art.genSTREX, List.map_append, List.append_assoc, ← hprepare, ← hfill,
    skip_lines, StrexChoice.count, itIf_lines]
  rfl

end Store

end Rit.Art.Listing
