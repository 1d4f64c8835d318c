import Rit.Art.CodeBlocks

/-!
# The code of a block as a tree

A block keeps its code as a list whose elements are lines or further blocks.  `make` prints the
tree as it goes; here it is kept, so that one can say what happens to it later: `genCodeBlocks`
walks the list of basic blocks that `makeRandomBlock` returned and appends to the code of each.

A block object stands in the tree and in that list at once.  The model finds it by its label.
-/

namespace Rit.Art

/-- `code` of a block: what each element is, and the rest.  A block carries its label and `isARM`,
and whether it is a `BasicRBlock`. -/
inductive Code
  | nil
  | lines (ls : List Line) (rest : Code)
  | block (basic : Bool) (b : BasicBlock) (code rest : Code)
  deriving DecidableEq, Repr

namespace Code

/-- `Block.__str__` and `RBlock.__str__`. -/
def print : Code → List Line
  | nil => []
  | lines ls rest => ls ++ rest.print
  | block _ b code rest => printBlock b.isARM b.label code.print ++ rest.print

/-- The basic blocks in the tree, in the order of the text. -/
def leaves : Code → List BasicBlock
  | nil => []
  | lines _ rest => rest.leaves
  | block basic b code rest => (if basic then [b] else code.leaves) ++ rest.leaves

/-- The lists of instructions that stand for a list of instruction sets. -/
def bodies (isas : List Bool) : List Line := isas.map fun isARM => .inst isARM .body

/-- The tree when `log l` has the instruction sets for which lists of instructions were appended to
the block of label `l`. -/
def fill (log : Label → List Bool) : Code → Code
  | nil => nil
  | lines ls rest => lines ls (rest.fill log)
  | block basic b code rest =>
    block basic b
      (if basic then lines (code.print ++ bodies (log b.label)) nil else code.fill log)
      (rest.fill log)

end Code

/-- The tree of a block of label `l` whose `code` holds `init`, in front of `rest`. -/
def codeTree : Shape → Label → List Line → Ctx → Code → Code
  | .basic, l, init, ctx, rest => .block true ⟨l, ctx.isa⟩ (.lines init .nil) rest
  | .byPass br b1 b2 b3, l, init, ctx, rest =>
    let below := { ctx with nest := ctx.nest - 1 }
    .block false ⟨l, ctx.isa⟩ (.lines init <|
      codeTree b1 (.b1 :: l) [] below <|
      .lines (genBranch ctx.isa below (.b3 :: l) true true br) <|
      codeTree b2 (.b2 :: l) [] below <|
      codeTree b3 (.b3 :: l) [] below .nil) rest
  | .hammock br3 br4 h1 h2 h3 h4, l, init, ctx, rest =>
    let below := { ctx with nest := ctx.nest - 1 }
    .block false ⟨l, ctx.isa⟩ (.lines init <|
      codeTree h1 (.h1 :: l) [] below <|
      .lines (genBranch ctx.isa below (.h3 :: l) true true br3) <|
      codeTree h2 (.h2 :: l) [] below <|
      .lines (genBranch ctx.isa below (.h4 :: l) false true br4) <|
      codeTree h3 (.h3 :: l) [] below <|
      codeTree h4 (.h4 :: l) [] below .nil) rest
  | .loop lp l1, l, init, ctx, rest =>
    let below := { ctx with nest := ctx.nest - 1 }
    .block false ⟨l, ctx.isa⟩ (.lines init <|
      codeTree l1 (.l1 :: l) [] below <|
      .lines (genLoop ctx.isa below (.l1 :: l) lp) .nil) rest
  | .irLoop lp br ir1 ir2 ir3, l, init, ctx, rest =>
    let below := { ctx with nest := ctx.nest - 1 }
    .block false ⟨l, ctx.isa⟩ (.lines init <|
      codeTree ir1 (.ir1 :: l) [] below <|
      .lines (genBranch ctx.isa below (.ir3 :: l) true false br) <|
      codeTree ir2 (.ir2 :: l) [] below <|
      codeTree ir3 (.ir3 :: l) [] below <|
      .lines (genLoop ctx.isa below (.ir2 :: l) lp) .nil) rest
  | .interwork condBx iwFollowed bx1 bx2 bx3 br iw1 iw2 iw3, l, init, ctx, rest =>
    let below := { ctx with nest := ctx.nest - 1 }
    let bx1 := genBX ctx.isa (.iw2 :: l) condBx bx1
    let bx2 := genBX (!ctx.isa) (.iw1 :: l) condBx bx2
    let bx3 := genBX (!ctx.isa) (.iw3 :: l) false bx3
    let b := genBranch ctx.isa below (.iw3 :: l) false false br
    let iw1 := codeTree iw1 (.iw1 :: l) [] below
    let iw2 := codeTree iw2 (.iw2 :: l) [] { below with isa := !ctx.isa }
    let iw3 := codeTree iw3 (.iw3 :: l) [] below
    .block false ⟨l, ctx.isa⟩ (.lines init <| .lines [isaLine ctx.isa] <|
      if iwFollowed then
        .lines bx1 <| .lines b <| iw2 <| .lines bx2 <| .lines bx3 <| iw1 <| iw3 .nil
      else
        .lines bx1 <| iw1 <| .lines b <| iw2 <| .lines bx2 <| .lines bx3 <| iw3 .nil) rest
  | .callRet iwcall calleeFollowed beginWithCall call pre post br c1 c2 c3, l, init, ctx, rest =>
    let below := { ctx with nest := ctx.nest - 1 }
    let callee := { below with isa := if iwcall then !ctx.isa else ctx.isa }
    let call := genCall ctx.isa callee.isa (.c2 :: l) call
    let first := if beginWithCall then call else []
    let second := if beginWithCall then [] else call
    let postCall := getPostCalleeInsts callee post
    let c1 := codeTree c1 (.c1 :: l) [] below
    let c2 := codeTree c2 (.c2 :: l) (getPreCalleeInsts callee pre) callee
    let c3 := codeTree c3 (.c3 :: l) [] below
    .block false ⟨l, ctx.isa⟩ (.lines init <| .lines [isaLine ctx.isa] <|
      if calleeFollowed then
        .lines first <| .lines (genBranch ctx.isa ctx (.c1 :: l) false false br) <| c2 <|
          .lines postCall <| c1 <| .lines second <| c3 .nil
      else
        .lines first <| c1 <| .lines second <|
          .lines (genBranch ctx.isa ctx (.c3 :: l) false false br) <| c2 <| .lines postCall <|
          c3 .nil) rest
  | .exclusive e1 e2, l, init, ctx, rest =>
    let below := { ctx with nest := ctx.nest - 1 }
    .block false ⟨l, ctx.isa⟩ (.lines init <|
      codeTree e1 (.e1 :: l) [] below <|
      .lines [.inst ctx.isa .body] <| .lines [.inst ctx.isa .body] <|
      codeTree e2 (.e2 :: l) [] below .nil) rest
  | .aluWritePC p1 p2, l, init, ctx, rest =>
    let below := { ctx with nest := ctx.nest - 1 }
    .block false ⟨l, ctx.isa⟩ (.lines init <|
      codeTree p1 (.aluwpc1 :: l) [] below <|
      .lines [.inst ctx.isa .body] <|
      codeTree p2 (.aluwpc2 :: l) [] below .nil) rest

/-! ## Filling the basic blocks -/

/-- The elements of a block list, through its pairs. -/
def Blocks.flatten {α : Type*} : Blocks α → List α
  | .nil => []
  | .basic a rest => a :: rest.flatten
  | .pair s t rest => s.flatten ++ t.flatten ++ rest.flatten

/-- The instruction sets of the lists that calls of `genBlockInstrs` append to the block of
label `l`. -/
def appended (calls : Blocks BlockCall) (l : Label) : List Bool :=
  calls.flatten.filterMap fun c => if c.block.label = l then some c.isa else none

end Rit.Art
