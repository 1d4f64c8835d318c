import Rit.Art.RandomBlock

/-!
# `genCodeBlocks`: the phases of the basic blocks

Once the tree is built, `genCodeBlocks` walks the list of basic blocks and gives each one a
phase: random instructions, instructions of one kind, or one of the steps define, join and use of
a flag or register dependency.  A pair in the list is walked component by component.

The walk returns the phase the next block continues from, and leaves the instruction set of its last
block in `ctx[CTX.ISA]`.  Here it also returns the calls of `genBlockInstrs` that it makes on the
way, each in the place of its block.
-/

namespace Rit.Art

inductive FSMType
  | random | sameKind
  | flagDu | flagDuD | flagDuJ | flagDuU
  | regAlloc | regAllocD | regAllocJ | regAllocU
  deriving DecidableEq, Repr

/-- The draws still to come; a draw is reduced to the length of the sequence chosen from. -/
abbrev Draws := ℕ → ℕ

/-- `random.choice((a, …))` on a nonempty tuple. -/
def choice {α : Type*} (a : α) (as : List α) (r : Draws) : α × Draws :=
  ((a :: as).getD (r 0 % (a :: as).length) a, fun i => r (i + 1))

/-- `alltypes` of `nextFSM`. -/
def anyPhase (r : Draws) : FSMType × Draws :=
  choice .random [.sameKind, .flagDuD, .regAllocD] r

def nextFSM (prev : Option FSMType) (r : Draws) : FSMType × Draws :=
  match prev with
  | none => anyPhase r
  | some .flagDuD => choice .flagDuJ [.flagDuU] r
  | some .flagDuJ => (.flagDuU, r)
  | some .regAllocD => choice .regAllocJ [.regAllocU] r
  | some .regAllocJ => (.regAllocU, r)
  | some _ => anyPhase r

/-- A call of `genBlockInstrs`: the block, its phase, and `ctx[CTX.ISA]`. -/
structure BlockCall where
  block : BasicBlock
  fsm : FSMType
  isa : Bool
  deriving DecidableEq, Repr

/-- `genCodeBlocks`, where `isa` is `ctx[CTX.ISA]`. -/
def genCodeBlocks : Blocks BasicBlock → Option FSMType → Bool → Draws →
    Option FSMType × Blocks BlockCall × Bool × Draws
  | .nil, fsm, isa, r => (fsm, .nil, isa, r)
  | .basic b rest, fsm, _, r =>
    let (fsm, r) := nextFSM fsm r
    let isa := b.isARM
    let call : BlockCall := ⟨b, fsm, isa⟩
    let (fsm, rest, isa, r) := genCodeBlocks rest (some fsm) isa r
    (fsm, .basic call rest, isa, r)
  | .pair s t rest, fsm, isa, r =>
    let (nFsm, r) := nextFSM fsm r
    let (fsm1, s, isa, r) := genCodeBlocks s (some nFsm) isa r
    let (nFsm, r) := nextFSM fsm r
    let (fsm2, t, isa, r) := genCodeBlocks t (some nFsm) isa r
    let (fsm, r) := choice fsm1 [fsm2] r
    let (fsm, rest, isa, r) := genCodeBlocks rest fsm isa r
    (fsm, .pair s t rest, isa, r)

end Rit.Art
