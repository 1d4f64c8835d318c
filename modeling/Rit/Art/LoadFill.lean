import Rit.Art.CodeBlocks
import Rit.Art.Generate

/-!
# `genCodeBlocksWithLoadInsts`: filling the blocks with loads

The walk that `art.py` calls fills every basic block of the tree by `genMemInstrs`, up to a limit
that is drawn for the block.  It goes through the phases as `genCodeBlocks` does, but nothing is
done with them.

Here the walk returns what it appends to each block, beside the phase.
-/

namespace Rit.Art.Generate

open Draw Query

/-- `nextFSM`, as a draw. -/
def drawFSM (prev : Option FSMType) : Gen Unit FSMType := fun s =>
  .ok ((nextFSM prev s.draws).1, { s with draws := (nextFSM prev s.draws).2 })

/-- `regs`. -/
def loadRegs (isARM : Bool) : List (Option ℕ) :=
  [some R_0_3, some R_4_7, none] ++ if isARM then [some R_8_12, some R_SP] else []

section

variable (o : Options) (num instrLimit : ℕ) (bb : BlockDict)

/-- `getBlockLimit`, when the dictionary does not change any more. -/
def drawLimit (label : Label) : Gen Unit ℕ := do
  let range := Build.blockLimitRange num instrLimit bb label
  let limit ← randint range.1 range.2
  pure limit.1

def genBlockInstrsWithLoadInsts (block : BasicBlock) : Fill (List ParsedInst) := do
  let limit ← draws (drawLimit num instrLimit bb block.label)
  let reg ← draws (Draw.choice (loadRegs block.isARM))
  genMemInstrs o block.isARM reg.1 {} limit

/-- `genCodeBlocksWithLoadInsts`.  The phase of a pair is drawn again after each of its components,
so that the second component continues from the first. -/
def genCodeBlocksWithLoadInsts : Blocks BasicBlock → Option FSMType →
    Fill (Option FSMType × List (BasicBlock × List ParsedInst))
  | .nil, fsm => pure (fsm, [])
  | .basic b rest, fsm => do
    let fsm ← draws (drawFSM fsm)
    let instrs ← genBlockInstrsWithLoadInsts o num instrLimit bb b
    let (fsm, rest) ← genCodeBlocksWithLoadInsts rest (some fsm)
    pure (fsm, (b, instrs) :: rest)
  | .pair s t rest, fsm => do
    let nFsm ← draws (drawFSM fsm)
    let (fsm1, s) ← genCodeBlocksWithLoadInsts s (some nFsm)
    let fsm ← draws (Draw.choice [fsm1])
    let nFsm ← draws (drawFSM fsm.1)
    let (fsm2, t) ← genCodeBlocksWithLoadInsts t (some nFsm)
    let fsm ← draws (Draw.choice [fsm1, fsm2])
    let (fsm, rest) ← genCodeBlocksWithLoadInsts rest fsm.1
    pure (fsm, s ++ t ++ rest)

end

end Rit.Art.Generate
