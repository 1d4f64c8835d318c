import Rit.Art.RandomBlock

/-!
# Execution of the control skeleton

The program text of `RandomBlock` as a machine executes it.  The program counter is the index of a
line.  Labels and alignment are passed over, literal pools are not code, and an instruction is
executed only in the instruction set it was generated for: reaching it in the other one is stuck,
like every other use the machine does not define.

Values are machine words, addresses in `cfgdata` and addresses of lines; the last carry the
interworking bit.  Where the outcome of a condition depends on the random instructions, it is
taken from `coins`; the one condition that the skeleton itself decides is the `ble` of a loop
tail, which follows its `cmp`.  A `body` line leaves every register with an arbitrary word or a
copy of some register and does not touch `cfgdata`.

Of the arithmetic on code addresses the machine has what two facts of the link step give: an even
address plus one is the same line with the interworking bit set, and the text lies above every
limit a loop compares with.  Other sums leave the lines of the text, and the machine stops there.

The last three fields of the state do not influence the execution: they count the back-edges and
the loop exits, by the depth of the loop, and list the pending calls.
-/

namespace Rit.Art

/-- A value in a register or in `cfgdata`. -/
inductive Val
  | word (w : BitVec 32)
  /-- An address `cfgdata+off`. -/
  | data (off : ℤ)
  /-- The address of a line; `thumb` is its lowest bit. -/
  | code (line : ℕ) (thumb : Bool)
  deriving DecidableEq, Repr

/-- What a `body` line does to a register. -/
inductive Noise
  | word (w : BitVec 32)
  | copy (r : ℕ)
  deriving DecidableEq, Repr

/-- The state of a run. -/
structure State where
  pc : ℕ
  isARM : Bool
  regs : ℕ → Val
  /-- Whether the last `cmp` found less or equal, until a `ble` has used it. -/
  le : Option Bool
  /-- The words of `cfgdata` by their offset. -/
  cfg : ℤ → Val
  coins : ℕ → Bool
  noise : ℕ → ℕ → Noise
  backEdges : ℕ → ℕ
  exits : ℕ → ℕ
  /-- The pending calls: the line to return to and the line entered. -/
  calls : List (ℕ × ℕ)

namespace State

variable (s : State)

/-- Continue with the next line. -/
def next : State := { s with pc := s.pc + 1 }

/-- Assign a register. -/
def set (r : ℕ) (v : Val) : State := { s with regs := Function.update s.regs r v }

/-- Whether an instruction with this condition is executed. -/
def holds (c : Option Cond) : Bool := c.isNone || s.coins 0

/-- The state after a condition has been tested. -/
def spend (c : Option Cond) : State :=
  if c.isSome then { s with coins := fun i => s.coins (i + 1) } else s

/-- Set the link register to the next line and note the call. -/
def link (target : ℕ) : State :=
  { s.set 14 (.code (s.pc + 1) (!s.isARM)) with calls := (s.pc + 1, target) :: s.calls }

/-- An interworking transfer to the address `v`. -/
def transfer (v : Val) : Option State :=
  match v with
  | .code line thumb => some { s with pc := line, isARM := !thumb }
  | _ => none

end State

/-- The line of a block's label. -/
def lineOf (P : List Line) (target : Label) : ℕ := P.idxOf (.label (.start target))

/-- Continue at a label in the current instruction set. -/
def State.goto (P : List Line) (target : Label) (s : State) : State :=
  { s with pc := lineOf P target }

/-- One instruction. -/
def exec (P : List Line) (s : State) : Inst → Option State
  | .b c _ target =>
    some (if s.holds c then (s.spend c).goto P target else (s.spend c).next)
  | .cbz _ _ target =>
    some (if s.coins 0 then (s.spend (some .eq)).goto P target else (s.spend (some .eq)).next)
  | .adrPc c target =>
    some (if s.holds c then (s.spend c).goto P target else (s.spend c).next)
  | .ldrCfg rt off => some (s.set rt (.data off)).next
  | .ldr rt rn =>
    match s.regs rn with
    | .data off => some (s.set rt (s.cfg off)).next
    | _ => none
  | .add rd rn imm =>
    match s.regs rn with
    | .word w => some (s.set rd (.word (w + .ofNat 32 imm))).next
    | .code line false => if imm = 1 then some (s.set rd (.code line true)).next else none
    | _ => none
  | .str rt rn =>
    match s.regs rn with
    | .data off => some { s.next with cfg := Function.update s.cfg off (s.regs rt) }
    | _ => none
  | .cmp _ rn imm =>
    match s.regs rn with
    | .word w => some { s.next with le := some (w.sle (.ofNat 32 imm)) }
    | .code _ _ => some { s.next with le := some false }
    | _ => none
  | .ble _ target =>
    match s.le with
    | none => none
    | some true =>
      some { s.goto P target with
        le := none
        backEdges := Function.update s.backEdges target.length (s.backEdges target.length + 1) }
    | some false =>
      some { s.next with
        le := none
        exits := Function.update s.exits target.length (s.exits target.length + 1) }
  | .bxPcInst c =>
    -- the program counter reads as two instructions ahead, with the lowest bit clear
    if c = 14 then some { s with pc := s.pc + 2 }
    else
      some (if s.coins 0 then { s.spend (some .eq) with pc := s.pc + 2 }
        else (s.spend (some .eq)).next)
  | .ldrPc c _ target plus1 =>
    if s.holds c then (s.spend c).transfer (.code (lineOf P target) plus1)
    else some (s.spend c).next
  | .ldrLabel _ rt target plus1 => some (s.set rt (.code (lineOf P target) plus1)).next
  | .bx c rm => if s.holds c then (s.spend c).transfer (s.regs rm) else some (s.spend c).next
  | .bxPc =>
    -- four bytes ahead, behind this instruction and the `nop`, with the lowest bit clear
    some { s with pc := s.pc + 2, isARM := true }
  | .nop => some s.next
  | .it _ => some s.next
  | .blxReg c rm =>
    if s.holds c then
      match s.regs rm with
      | .code line thumb => ((s.spend c).link line).transfer (.code line thumb)
      | _ => none
    else some (s.spend c).next
  | .bl c target =>
    some (if s.holds c then ((s.spend c).link (lineOf P target)).goto P target
      else (s.spend c).next)
  | .blx target =>
    some { (s.link (lineOf P target)).goto P target with isARM := !s.isARM }
  | .movSp rm => some (s.set 13 (s.regs rm)).next
  | .pushLr =>
    match s.regs 13 with
    | .data off =>
      some { (s.set 13 (.data (off - 4))).next with
        cfg := Function.update s.cfg (off - 4) (s.regs 14) }
    | _ => none
  | .popPc =>
    match s.regs 13 with
    | .data off =>
      State.transfer { s.set 13 (.data (off + 4)) with calls := s.calls.tail } (s.cfg off)
    | _ => none
  | .body =>
    some { s.next with
      regs := fun r => match s.noise 0 r with
        | .word w => .word w
        | .copy r' => s.regs r'
      noise := fun i => s.noise (i + 1)
      le := none }

/-- One step; `none` is a stuck state or the end of the text. -/
def step (P : List Line) (s : State) : Option State :=
  match P[s.pc]? with
  | none => none
  | some (.label _) => some s.next
  | some (.directive .ltorg) => none
  | some (.directive _) => some s.next
  | some (.inst isARM i) => if isARM = s.isARM then exec P s i else none

end Rit.Art
