import Rit.Art.InstrGen

/-!
# `randomblock`: the block tree

A test program is one block, drawn by `getRBlock` and filled in by `makeRandomBlock`, which draws
its children in turn.  `Shape` records the class drawn at every node together with the other
draws of that node, so one `Shape` stands for one run of the construction.  `Shape.Drawable` says
which shapes `getRBlock` can draw at a nesting level, and `make` is `makeRandomBlock` followed by
the printing of `code.py`.

The construction keeps the nesting level and the current instruction set in a shared dictionary
that every class changes before it builds its children and restores afterwards.  `make` passes
that dictionary along as `Ctx`; `make_snd` is the proof that it comes back unchanged, and the
equations after it describe the text without the threading.
-/

namespace Rit.Art

/-! ## Block lists -/

/-- A list of blocks as `makeRandomBlock` returns it: an element is a basic block or a pair of
alternatives, the tuple that `HammockRBlock` appends. -/
inductive Blocks (α : Type*)
  | nil
  | basic (a : α) (rest : Blocks α)
  | pair (fst snd rest : Blocks α)
  deriving DecidableEq, Repr

namespace Blocks

variable {α : Type*}

/-- `+` on lists of blocks. -/
def append : Blocks α → Blocks α → Blocks α
  | nil, bs => bs
  | basic a rest, bs => basic a (rest.append bs)
  | pair s t rest, bs => pair s t (rest.append bs)

instance : Append (Blocks α) := ⟨append⟩

@[simp] lemma nil_append (bs : Blocks α) : (nil : Blocks α) ++ bs = bs := rfl

@[simp] lemma basic_append (a : α) (rest bs : Blocks α) :
    basic a rest ++ bs = basic a (rest ++ bs) := rfl

@[simp] lemma pair_append (s t rest bs : Blocks α) :
    pair s t rest ++ bs = pair s t (rest ++ bs) := rfl

end Blocks

/-- What the list keeps of a basic block: its label and its `isARM`. -/
structure BasicBlock where
  label : Label
  isARM : Bool
  deriving DecidableEq, Repr

/-! ## Shapes -/

/-- The class of every block of a tree, with the draws made by its `makeRandomBlock`. -/
inductive Shape
  | basic
  | byPass (br : BranchChoice) (b1 b2 b3 : Shape)
  | hammock (br3 br4 : BranchChoice) (h1 h2 h3 h4 : Shape)
  | loop (lp : LoopChoice) (l1 : Shape)
  | irLoop (lp : LoopChoice) (br : BranchChoice) (ir1 ir2 ir3 : Shape)
  | interwork (condBx iwFollowed : Bool) (bx1 bx2 bx3 : BxChoice) (br : BranchChoice)
      (iw1 iw2 iw3 : Shape)
  | callRet (iwcall calleeFollowed beginWithCall : Bool) (call : CallChoice) (pre post : Fin 8)
      (br : BranchChoice) (c1 c2 c3 : Shape)
  | exclusive (e1 e2 : Shape)
  | aluWritePC (p1 p2 : Shape)
  deriving DecidableEq, Repr

namespace Shape

/-- The blocks a `makeRandomBlock` builds with `ctx['getRBlock']`. -/
def children : Shape → List Shape
  | basic => []
  | byPass _ b1 b2 b3 => [b1, b2, b3]
  | hammock _ _ h1 h2 h3 h4 => [h1, h2, h3, h4]
  | loop _ l1 => [l1]
  | irLoop _ _ ir1 ir2 ir3 => [ir1, ir2, ir3]
  | interwork _ _ _ _ _ _ iw1 iw2 iw3 => [iw1, iw2, iw3]
  | callRet _ _ _ _ _ _ _ c1 c2 c3 => [c1, c2, c3]
  | exclusive e1 e2 => [e1, e2]
  | aluWritePC p1 p2 => [p1, p2]

/-- The options `getRBlock` reads. -/
structure Options where
  exclBlock : Bool
  aluwpcBlock : Bool
  deriving DecidableEq, Repr

/-- Whether `getRBlock(label, nest)` can return a block of this class.  At the upper levels the
plain and the exclusive block are struck from the list, but drawing the ALU class still gives a
plain block seven times out of ten. -/
def classDrawable (o : Options) (nest : ℤ) : Shape → Bool
  | basic => decide (nest ≤ 3) || o.aluwpcBlock
  | exclusive .. => decide (0 < nest) && decide (nest ≤ 3) && o.exclBlock
  | aluWritePC .. => decide (0 < nest) && o.aluwpcBlock
  | _ => decide (0 < nest)

/-- Whether the construction can draw this tree when it starts at `nest`. -/
def drawable (o : Options) : ℤ → Shape → Bool
  | nest, basic => classDrawable o nest basic
  | nest, s@(byPass _ b1 b2 b3) =>
    classDrawable o nest s && drawable o (nest - 1) b1 && drawable o (nest - 1) b2 &&
      drawable o (nest - 1) b3
  | nest, s@(hammock _ _ h1 h2 h3 h4) =>
    classDrawable o nest s && drawable o (nest - 1) h1 && drawable o (nest - 1) h2 &&
      drawable o (nest - 1) h3 && drawable o (nest - 1) h4
  | nest, s@(loop _ l1) => classDrawable o nest s && drawable o (nest - 1) l1
  | nest, s@(irLoop _ _ ir1 ir2 ir3) =>
    classDrawable o nest s && drawable o (nest - 1) ir1 && drawable o (nest - 1) ir2 &&
      drawable o (nest - 1) ir3
  | nest, s@(interwork _ _ _ _ _ _ iw1 iw2 iw3) =>
    classDrawable o nest s && drawable o (nest - 1) iw1 && drawable o (nest - 1) iw2 &&
      drawable o (nest - 1) iw3
  | nest, s@(callRet _ _ _ _ _ _ _ c1 c2 c3) =>
    classDrawable o nest s && drawable o (nest - 1) c1 && drawable o (nest - 1) c2 &&
      drawable o (nest - 1) c3
  | nest, s@(exclusive e1 e2) =>
    classDrawable o nest s && drawable o (nest - 1) e1 && drawable o (nest - 1) e2
  | nest, s@(aluWritePC p1 p2) =>
    classDrawable o nest s && drawable o (nest - 1) p1 && drawable o (nest - 1) p2

lemma drawable_iff {o : Options} {nest : ℤ} {sh : Shape} :
    drawable o nest sh = true ↔
      classDrawable o nest sh = true ∧ ∀ c ∈ sh.children, drawable o (nest - 1) c = true := by
  cases sh <;> simp [drawable, children, and_assoc]

/-- Only a plain block is drawn at level 0 and below. -/
lemma drawable_pos {o : Options} {nest : ℤ} {sh : Shape} (h : drawable o nest sh = true)
    (hsh : sh ≠ basic) : 0 < nest := by
  have hclass := (drawable_iff.1 h).1
  cases sh <;> simp_all [classDrawable]

end Shape

/-! ## Construction -/

/-- A block after `makeRandomBlock`: `isARM`, its printed text, the list the call returns, and the
label and `isARM` of it and of every block below it. -/
structure Made where
  isARM : Bool
  text : List Line
  blocks : Blocks BasicBlock
  isas : List (Label × Bool)

/-- `.arm` or `.thumb`. -/
def isaLine (isARM : Bool) : Line := .directive (if isARM then .arm else .thumb)

/-- `RBlock.__str__`, with the code already printed. -/
def printBlock (isARM : Bool) (l : Label) (code : List Line) : List Line :=
  [.directive .align, isaLine isARM, .label (.start l)] ++
    (code ++ [.directive .align, .label (.fin l)])

/-- `makeRandomBlock` on a block of label `l` whose `code` holds `init`. -/
def make : Shape → Label → List Line → Ctx → Made × Ctx
  | .basic, l, init, ctx =>
    let isARM := ctx.isa
    ({ isARM, text := printBlock isARM l (init ++ [.inst isARM .body]),
       blocks := .basic ⟨l, isARM⟩ .nil, isas := [(l, isARM)] }, ctx)
  | .byPass br b1 b2 b3, l, init, ctx =>
    let isARM := ctx.isa
    let nest := ctx.nest - 1
    let ctx := { ctx with nest := nest }
    let (b1, ctx) := make b1 (.b1 :: l) [] ctx
    let (b2, ctx) := make b2 (.b2 :: l) [] ctx
    let (b3, ctx) := make b3 (.b3 :: l) [] ctx
    let bB3 := genBranch ctx.isa ctx (.b3 :: l) true true br
    ({ isARM, text := printBlock isARM l (init ++ (b1.text ++ bB3 ++ b2.text ++ b3.text)),
       blocks := b1.blocks ++ b2.blocks ++ b3.blocks,
       isas := (l, isARM) :: (b1.isas ++ b2.isas ++ b3.isas) },
      { ctx with nest := nest + 1 })
  | .hammock br3 br4 h1 h2 h3 h4, l, init, ctx =>
    let isARM := ctx.isa
    let nest := ctx.nest - 1
    let ctx := { ctx with nest := nest }
    let (h1, ctx) := make h1 (.h1 :: l) [] ctx
    let (h2, ctx) := make h2 (.h2 :: l) [] ctx
    let (h3, ctx) := make h3 (.h3 :: l) [] ctx
    let (h4, ctx) := make h4 (.h4 :: l) [] ctx
    let bH3 := genBranch ctx.isa ctx (.h3 :: l) true true br3
    let bH4 := genBranch ctx.isa ctx (.h4 :: l) false true br4
    ({ isARM,
       text := printBlock isARM l
         (init ++ (h1.text ++ bH3 ++ h2.text ++ bH4 ++ h3.text ++ h4.text)),
       blocks := h1.blocks ++ .pair h2.blocks h3.blocks h4.blocks,
       isas := (l, isARM) :: (h1.isas ++ h2.isas ++ h3.isas ++ h4.isas) },
      { ctx with nest := nest + 1 })
  | .loop lp l1, l, init, ctx =>
    let isARM := ctx.isa
    let nest := ctx.nest - 1
    let ctx := { ctx with nest := nest }
    let (l1, ctx) := make l1 (.l1 :: l) [] ctx
    let bL1 := genLoop ctx.isa ctx (.l1 :: l) lp
    ({ isARM, text := printBlock isARM l (init ++ (l1.text ++ bL1)), blocks := l1.blocks,
       isas := (l, isARM) :: l1.isas },
      { ctx with nest := nest + 1 })
  | .irLoop lp br ir1 ir2 ir3, l, init, ctx =>
    let isARM := ctx.isa
    let nest := ctx.nest - 1
    let ctx := { ctx with nest := nest }
    let (ir1, ctx) := make ir1 (.ir1 :: l) [] ctx
    let (ir2, ctx) := make ir2 (.ir2 :: l) [] ctx
    let (ir3, ctx) := make ir3 (.ir3 :: l) [] ctx
    let bIr2 := genLoop ctx.isa ctx (.ir2 :: l) lp
    let bIr3 := genBranch ctx.isa ctx (.ir3 :: l) true false br
    ({ isARM,
       text := printBlock isARM l (init ++ (ir1.text ++ bIr3 ++ ir2.text ++ ir3.text ++ bIr2)),
       blocks := ir1.blocks ++ ir2.blocks ++ ir3.blocks,
       isas := (l, isARM) :: (ir1.isas ++ ir2.isas ++ ir3.isas) },
      { ctx with nest := nest + 1 })
  | .interwork condBx iwFollowed bx1 bx2 bx3 br iw1 iw2 iw3, l, init, ctx =>
    let isARM := ctx.isa
    let nest := ctx.nest - 1
    let ctx := { ctx with nest := nest }
    let (iw1, ctx) := make iw1 (.iw1 :: l) [] ctx
    let ctx := { ctx with isa := !ctx.isa }
    let (iw2, ctx) := make iw2 (.iw2 :: l) [] ctx
    let ctx := { ctx with isa := !ctx.isa }
    let (iw3, ctx) := make iw3 (.iw3 :: l) [] ctx
    let inIsa := ctx.isa
    let bx1 := genBX inIsa (.iw2 :: l) condBx bx1
    let bx2 := genBX (!inIsa) (.iw1 :: l) condBx bx2
    let bx3 := genBX (!inIsa) (.iw3 :: l) false bx3
    let b := genBranch inIsa ctx (.iw3 :: l) false false br
    let ctx := { ctx with nest := nest + 1 }
    let isas := (l, isARM) :: (iw1.isas ++ iw2.isas ++ iw3.isas)
    if iwFollowed then
      ({ isARM,
         text := printBlock isARM l (init ++ (isaLine inIsa ::
           (bx1 ++ b ++ iw2.text ++ bx2 ++ bx3 ++ iw1.text ++ iw3.text))),
         blocks := iw2.blocks ++ iw1.blocks ++ iw3.blocks, isas }, ctx)
    else
      ({ isARM,
         text := printBlock isARM l (init ++ (isaLine inIsa ::
           (bx1 ++ iw1.text ++ b ++ iw2.text ++ bx2 ++ bx3 ++ iw3.text))),
         blocks := iw1.blocks ++ iw2.blocks ++ iw3.blocks, isas }, ctx)
  | .callRet iwcall calleeFollowed beginWithCall call pre post br c1 c2 c3, l, init, ctx =>
    let isARM := ctx.isa
    let nest := ctx.nest - 1
    let ctx := { ctx with nest := nest }
    let callerIsa := ctx.isa
    let calleeIsa := if iwcall then !callerIsa else callerIsa
    let call := genCall callerIsa calleeIsa (.c2 :: l) call
    let (c1, ctx) := make c1 (.c1 :: l) [] ctx
    let ctx := if iwcall then { ctx with isa := !ctx.isa } else ctx
    let preCall := getPreCalleeInsts ctx pre
    let postCall := getPostCalleeInsts ctx post
    let (c2, ctx) := make c2 (.c2 :: l) preCall ctx
    let ctx := if iwcall then { ctx with isa := !ctx.isa } else ctx
    let (c3, ctx) := make c3 (.c3 :: l) [] ctx
    let ctx := { ctx with nest := nest + 1 }
    let first := if beginWithCall then call else []
    let second := if beginWithCall then [] else call
    let isas := (l, isARM) :: (c1.isas ++ c2.isas ++ c3.isas)
    if calleeFollowed then
      let b := genBranch callerIsa ctx (.c1 :: l) false false br
      ({ isARM,
         text := printBlock isARM l (init ++ (isaLine callerIsa ::
           (first ++ b ++ c2.text ++ postCall ++ c1.text ++ second ++ c3.text))),
         blocks := c2.blocks ++ c1.blocks ++ c3.blocks, isas }, ctx)
    else
      let b := genBranch callerIsa ctx (.c3 :: l) false false br
      ({ isARM,
         text := printBlock isARM l (init ++ (isaLine callerIsa ::
           (first ++ c1.text ++ second ++ b ++ c2.text ++ postCall ++ c3.text))),
         blocks := c1.blocks ++ c2.blocks ++ c3.blocks, isas }, ctx)
  | .exclusive e1 e2, l, init, ctx =>
    let isARM := ctx.isa
    let nest := ctx.nest - 1
    let ctx := { ctx with nest := nest }
    let (e1, ctx) := make e1 (.e1 :: l) [] ctx
    -- the LDREX and STREX sequences, generated for the current instruction set
    let excl := [Line.inst ctx.isa .body, Line.inst ctx.isa .body]
    let (e2, ctx) := make e2 (.e2 :: l) [] ctx
    ({ isARM, text := printBlock isARM l (init ++ (e1.text ++ excl ++ e2.text)),
       blocks := e1.blocks ++ e2.blocks, isas := (l, isARM) :: (e1.isas ++ e2.isas) },
      { ctx with nest := nest + 1 })
  | .aluWritePC p1 p2, l, init, ctx =>
    let isARM := ctx.isa
    let nest := ctx.nest - 1
    let ctx := { ctx with nest := nest }
    let (p1, ctx) := make p1 (.aluwpc1 :: l) [] ctx
    let aluwpc := [Line.inst ctx.isa .body]
    let (p2, ctx) := make p2 (.aluwpc2 :: l) [] ctx
    ({ isARM, text := printBlock isARM l (init ++ (p1.text ++ aluwpc ++ p2.text)),
       blocks := p1.blocks ++ p2.blocks, isas := (l, isARM) :: (p1.isas ++ p2.isas) },
      { ctx with nest := nest + 1 })

/-- Every class restores the context it was given. -/
@[simp] lemma make_snd (sh : Shape) (l : Label) (init : List Line) (ctx : Ctx) :
    (make sh l init ctx).2 = ctx := by
  induction sh generalizing l init ctx with
  | basic => rfl
  | byPass br b1 b2 b3 ih1 ih2 ih3 => ext <;> simp [make, ih1, ih2, ih3]
  | hammock br3 br4 h1 h2 h3 h4 ih1 ih2 ih3 ih4 => ext <;> simp [make, ih1, ih2, ih3, ih4]
  | loop lp l1 ih => ext <;> simp [make, ih]
  | irLoop lp br ir1 ir2 ir3 ih1 ih2 ih3 => ext <;> simp [make, ih1, ih2, ih3]
  | interwork condBx iwFollowed bx1 bx2 bx3 br iw1 iw2 iw3 ih1 ih2 ih3 =>
    ext <;> cases iwFollowed <;> simp [make, ih1, ih2, ih3]
  | callRet iwcall calleeFollowed beginWithCall call pre post br c1 c2 c3 ih1 ih2 ih3 =>
    ext <;> cases calleeFollowed <;> cases iwcall <;> simp [make, ih1, ih2, ih3]
  | exclusive e1 e2 ih1 ih2 => ext <;> simp [make, ih1, ih2]
  | aluWritePC p1 p2 ih1 ih2 => ext <;> simp [make, ih1, ih2]

end Rit.Art
