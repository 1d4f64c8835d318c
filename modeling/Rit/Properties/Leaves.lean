import Rit.Art.CodeTree
import Rit.Properties.Isa

/-!
# The leaves of the block tree

The list that `makeRandomBlock` returns has the basic blocks of the tree in the order of the text,
each once.  So `genCodeBlocks` appends one list of instructions to each of them, for the instruction
set the block was built in, and the text that is printed afterwards is the one of `make`.
-/

namespace Rit.Art

/-! ## The returned list -/

section Flatten

@[simp] lemma Blocks.flatten_append {α : Type*} (as bs : Blocks α) :
    (as ++ bs).flatten = as.flatten ++ bs.flatten := by
  induction as with
  | nil => rfl
  | basic a rest ih => simp [flatten, ih]
  | pair s t rest ihs iht ih => simp [flatten, ih]

/-- The walk visits the blocks of the list, each with `ctx[CTX.ISA]` at its instruction set. -/
lemma genCodeBlocks_flatten (bs : Blocks BasicBlock) (fsm : Option FSMType) (isa : Bool)
    (r : Draws) : (genCodeBlocks bs fsm isa r).2.1.flatten.map (fun c => (c.block, c.isa)) =
      bs.flatten.map fun b => (b, b.isARM) := by
  induction bs generalizing fsm isa r with
  | nil => rfl
  | basic b rest ih => simp [genCodeBlocks, Blocks.flatten, ih]
  | pair s t rest ihs iht ih => simp [genCodeBlocks, Blocks.flatten, ihs, iht, ih]

/-- The list has the leaves of the tree in the order of the text. -/
lemma leaves_codeTree (sh : Shape) (l : Label) (init : List Line) (ctx : Ctx) (rest : Code) :
    (codeTree sh l init ctx rest).leaves =
      (make sh l init ctx).1.blocks.flatten ++ rest.leaves := by
  induction sh generalizing l init ctx rest with
  | basic => rfl
  | byPass br b1 b2 b3 ih1 ih2 ih3 =>
    simp [codeTree, Code.leaves, make, ih1, ih2, ih3]
  | hammock br3 br4 h1 h2 h3 h4 ih1 ih2 ih3 ih4 =>
    simp [codeTree, Code.leaves, Blocks.flatten, make, ih1, ih2, ih3, ih4]
  | loop lp l1 ih => simp [codeTree, Code.leaves, make, ih]
  | irLoop lp br ir1 ir2 ir3 ih1 ih2 ih3 => simp [codeTree, Code.leaves, make, ih1, ih2, ih3]
  | interwork condBx iwFollowed bx1 bx2 bx3 br iw1 iw2 iw3 ih1 ih2 ih3 =>
    cases iwFollowed <;> simp [codeTree, Code.leaves, make, ih1, ih2, ih3]
  | callRet iwcall calleeFollowed beginWithCall call pre post br c1 c2 c3 ih1 ih2 ih3 =>
    cases calleeFollowed <;> cases iwcall <;> simp [codeTree, Code.leaves, make, ih1, ih2, ih3]
  | exclusive e1 e2 ih1 ih2 => simp [codeTree, Code.leaves, make, ih1, ih2]
  | aluWritePC p1 p2 ih1 ih2 => simp [codeTree, Code.leaves, make, ih1, ih2]

end Flatten

/-! ## What a tree has at its blocks -/

/-- What `f` finds at each block of a tree. -/
def Shape.collect {α : Type*} (f : Shape → Label → Ctx → List α) : Shape → Label → Ctx → List α
  | .basic, l, ctx => f .basic l ctx
  | sh@(.byPass _ b1 b2 b3), l, ctx =>
    f sh l ctx ++ (b1.collect f (.b1 :: l) ctx.down ++ (b2.collect f (.b2 :: l) ctx.down ++
      b3.collect f (.b3 :: l) ctx.down))
  | sh@(.hammock _ _ h1 h2 h3 h4), l, ctx =>
    f sh l ctx ++ (h1.collect f (.h1 :: l) ctx.down ++ (h2.collect f (.h2 :: l) ctx.down ++
      (h3.collect f (.h3 :: l) ctx.down ++ h4.collect f (.h4 :: l) ctx.down)))
  | sh@(.loop _ l1), l, ctx => f sh l ctx ++ l1.collect f (.l1 :: l) ctx.down
  | sh@(.irLoop _ _ ir1 ir2 ir3), l, ctx =>
    f sh l ctx ++ (ir1.collect f (.ir1 :: l) ctx.down ++ (ir2.collect f (.ir2 :: l) ctx.down ++
      ir3.collect f (.ir3 :: l) ctx.down))
  | sh@(.interwork _ _ _ _ _ _ iw1 iw2 iw3), l, ctx =>
    f sh l ctx ++ (iw1.collect f (.iw1 :: l) ctx.down ++
      (iw2.collect f (.iw2 :: l) ctx.down.other ++ iw3.collect f (.iw3 :: l) ctx.down))
  | sh@(.callRet iwcall _ _ _ _ _ _ c1 c2 c3), l, ctx =>
    f sh l ctx ++ (c1.collect f (.c1 :: l) ctx.down ++
      (c2.collect f (.c2 :: l) (ctx.down.callee iwcall) ++ c3.collect f (.c3 :: l) ctx.down))
  | sh@(.exclusive e1 e2), l, ctx =>
    f sh l ctx ++ (e1.collect f (.e1 :: l) ctx.down ++ e2.collect f (.e2 :: l) ctx.down)
  | sh@(.aluWritePC p1 p2), l, ctx =>
    f sh l ctx ++ (p1.collect f (.aluwpc1 :: l) ctx.down ++ p2.collect f (.aluwpc2 :: l) ctx.down)

/-- A basic block. -/
def leafAt (sh : Shape) (l : Label) (ctx : Ctx) : List BasicBlock :=
  if sh = .basic then [⟨l, ctx.isa⟩] else []

/-- The basic blocks of a tree, in the order they are built. -/
def leafBlocks (sh : Shape) (l : Label) (ctx : Ctx) : List BasicBlock := sh.collect leafAt l ctx

section Leaves

lemma Shape.collect_eq {α : Type*} (f : Shape → Label → Ctx → List α) (sh : Shape) (l : Label)
    (ctx : Ctx) : sh.collect f l ctx =
      f sh l ctx ++ (sh.parts ctx).flatMap fun p => p.2.1.collect f (p.1 :: l) p.2.2 := by
  cases sh <;> simp [collect, parts]

/-- The leaves are among the blocks. -/
lemma leafBlocks_sublist (sh : Shape) (l : Label) (ctx : Ctx) :
    ((leafBlocks sh l ctx).map BasicBlock.label).Sublist ((blockIsas sh l ctx).map Prod.fst) := by
  induction sh using Shape.parts_induction generalizing l ctx with
  | h sh ih =>
    have hself : ((leafAt sh l ctx).map BasicBlock.label).Sublist [l] := by
      unfold leafAt
      split
      · exact .refl _
      · exact List.nil_sublist _
    rw [leafBlocks, Shape.collect_eq, blockIsas_eq, List.map_append, List.map_cons,
      List.map_flatMap, List.map_flatMap]
    refine hself.append ?_
    have hsub : ∀ ps : List (Part × Shape × Ctx), (∀ p ∈ ps, p ∈ sh.parts ctx) →
        (ps.flatMap fun p => (p.2.1.collect leafAt (p.1 :: l) p.2.2).map BasicBlock.label).Sublist
          (ps.flatMap fun p => (blockIsas p.2.1 (p.1 :: l) p.2.2).map Prod.fst) := by
      intro ps hps
      induction ps with
      | nil => exact .refl _
      | cons p ps ihps =>
        rw [List.flatMap_cons, List.flatMap_cons]
        exact (ih ctx p (hps p List.mem_cons_self) _ _).append
          (ihps fun q hq => hps q (List.mem_cons_of_mem p hq))
    exact hsub _ fun p hp => hp

/-- No two leaves have the same label. -/
lemma leafBlocks_nodup (sh : Shape) (l : Label) (ctx : Ctx) :
    ((leafBlocks sh l ctx).map BasicBlock.label).Nodup := by
  exact (leafBlocks_sublist sh l ctx).nodup (blockIsas_nodup sh l ctx)

/-- The returned list has the leaves. -/
lemma flatten_perm_leafBlocks (sh : Shape) (l : Label) (init : List Line) (ctx : Ctx) :
    (make sh l init ctx).1.blocks.flatten.Perm (leafBlocks sh l ctx) := by
  unfold leafBlocks
  induction sh generalizing l init ctx with
  | basic => exact .refl _
  | byPass br b1 b2 b3 ih1 ih2 ih3 =>
    simp only [make, make_snd, Blocks.flatten_append, List.append_assoc]
    exact (ih1 _ _ _).append ((ih2 _ _ _).append (ih3 _ _ _))
  | hammock br3 br4 h1 h2 h3 h4 ih1 ih2 ih3 ih4 =>
    simp only [make, make_snd, Blocks.flatten_append, Blocks.flatten, List.append_assoc]
    exact (ih1 _ _ _).append ((ih2 _ _ _).append ((ih3 _ _ _).append (ih4 _ _ _)))
  | loop lp l1 ih => exact ih _ _ _
  | irLoop lp br ir1 ir2 ir3 ih1 ih2 ih3 =>
    simp only [make, make_snd, Blocks.flatten_append, List.append_assoc]
    exact (ih1 _ _ _).append ((ih2 _ _ _).append (ih3 _ _ _))
  | interwork condBx iwFollowed bx1 bx2 bx3 br iw1 iw2 iw3 ih1 ih2 ih3 =>
    cases iwFollowed with
    | false =>
      simp only [make, make_snd, Blocks.flatten_append, List.append_assoc, Bool.not_not,
        Bool.false_eq_true, if_false]
      exact (ih1 _ _ _).append ((ih2 _ _ _).append (ih3 _ _ _))
    | true =>
      simp only [make, make_snd, Blocks.flatten_append, List.append_assoc, Bool.not_not, if_true]
      exact ((ih2 _ _ _).append ((ih1 _ _ _).append (ih3 _ _ _))).trans
        (List.perm_append_comm_assoc _ _ _)
  | callRet iwcall calleeFollowed beginWithCall call pre post br c1 c2 c3 ih1 ih2 ih3 =>
    cases calleeFollowed with
    | false =>
      cases iwcall <;>
        simp only [make, make_snd, Blocks.flatten_append, List.append_assoc, Bool.not_not,
          Bool.false_eq_true, if_false, if_true] <;>
        exact (ih1 _ _ _).append ((ih2 _ _ _).append (ih3 _ _ _))
    | true =>
      cases iwcall <;>
        simp only [make, make_snd, Blocks.flatten_append, List.append_assoc, Bool.not_not,
          Bool.false_eq_true, if_false, if_true] <;>
        exact ((ih2 _ _ _).append ((ih1 _ _ _).append (ih3 _ _ _))).trans
          (List.perm_append_comm_assoc _ _ _)
  | exclusive e1 e2 ih1 ih2 =>
    simp only [make, make_snd, Blocks.flatten_append]
    exact (ih1 _ _ _).append (ih2 _ _ _)
  | aluWritePC p1 p2 ih1 ih2 =>
    simp only [make, make_snd, Blocks.flatten_append]
    exact (ih1 _ _ _).append (ih2 _ _ _)

/-- The list of a leaf: one call of `genBlockInstrs`, for the leaf's instruction set. -/
lemma appended_eq {bs : List BasicBlock} {cs : Blocks BlockCall}
    (hcs : cs.flatten.map (fun c => (c.block, c.isa)) = bs.map fun b => (b, b.isARM))
    (hnodup : (bs.map BasicBlock.label).Nodup) {b : BasicBlock} (hb : b ∈ bs) :
    appended cs b.label = [b.isARM] := by
  let isaAt (p : BasicBlock × Bool) := if p.1.label = b.label then some p.2 else none
  have hlog : appended cs b.label = (bs.map fun b => (b, b.isARM)).filterMap isaAt := by
    rw [← hcs, List.filterMap_map]
    rfl
  rw [hlog]
  clear hlog hcs
  induction bs with
  | nil => cases hb
  | cons c bs ih =>
    rw [List.map_cons, List.nodup_cons] at hnodup
    rcases List.mem_cons.1 hb with rfl | hb
    · have hrest : (bs.map fun b => (b, b.isARM)).filterMap isaAt = [] := by
        refine List.filterMap_eq_nil_iff.2 fun p hp => if_neg fun hlabel => hnodup.1 ?_
        obtain ⟨c, hc, rfl⟩ := List.mem_map.1 hp
        exact List.mem_map.2 ⟨c, hc, hlabel⟩
      rw [List.map_cons, List.filterMap_cons, hrest]
      simp [isaAt]
    · have hnone : isaAt (c, c.isARM) = none :=
        if_neg fun hlabel => hnodup.1 (List.mem_map.2 ⟨b, hb, hlabel.symm⟩)
      rw [List.map_cons, List.filterMap_cons_none hnone]
      exact ih hnodup.2 hb

/-- The leaves of a child are leaves of the block. -/
lemma mem_leafBlocks_of_part {sh : Shape} {l : Label} {ctx : Ctx} {p : Part × Shape × Ctx}
    (hp : p ∈ sh.parts ctx) {b : BasicBlock} (hb : b ∈ leafBlocks p.2.1 (p.1 :: l) p.2.2) :
    b ∈ leafBlocks sh l ctx := by
  rw [leafBlocks, Shape.collect_eq]
  exact List.mem_append.2 (.inr (List.mem_flatMap.2 ⟨p, hp, hb⟩))

/-- Once every leaf has its list, the tree prints the text of `make`. -/
lemma print_fill {log : Label → List Bool} (sh : Shape) (l : Label) (init : List Line) (ctx : Ctx)
    (rest : Code) (hlog : ∀ b ∈ leafBlocks sh l ctx, log b.label = [b.isARM]) :
    ((codeTree sh l init ctx rest).fill log).print =
      (make sh l init ctx).1.text ++ (rest.fill log).print := by
  induction sh using Shape.parts_induction generalizing l init ctx rest with
  | h sh ih =>
    have hchild : ∀ p ∈ sh.parts ctx, ∀ init rest,
        ((codeTree p.2.1 (p.1 :: l) init p.2.2 rest).fill log).print =
          (make p.2.1 (p.1 :: l) init p.2.2).1.text ++ (rest.fill log).print :=
      fun p hp init rest => ih ctx p hp _ init _ rest fun b hb =>
        hlog b (mem_leafBlocks_of_part hp hb)
    cases sh with
    | basic =>
      have hself := hlog ⟨l, ctx.isa⟩ List.mem_cons_self
      simp [codeTree, Code.fill, Code.print, make, hself, Code.bodies]
    | interwork condBx iwFollowed bx1 bx2 bx3 br iw1 iw2 iw3 =>
      simp only [Shape.parts, Ctx.down, Ctx.other, List.forall_mem_cons] at hchild
      cases iwFollowed <;> simp [codeTree, Code.fill, Code.print, make, hchild]
    | callRet iwcall calleeFollowed beginWithCall call pre post br c1 c2 c3 =>
      cases iwcall <;>
        simp only [Shape.parts, Ctx.down, Ctx.other, Ctx.callee, List.forall_mem_cons, if_true,
          Bool.false_eq_true, if_false] at hchild <;>
        cases calleeFollowed <;> simp [codeTree, Code.fill, Code.print, make, hchild]
    | _ =>
      simp only [Shape.parts, Ctx.down, List.forall_mem_cons] at hchild
      simp [codeTree, Code.fill, Code.print, make, hchild]

end Leaves

/-- `makeRandomBlock` returns the leaves of the tree, and `genCodeBlocks` then appends one list of
instructions to each, for the instruction set the leaf was built in. -/
theorem genCodeBlocks_fills_leaves (sh : Shape) (l : Label) (init : List Line) (ctx : Ctx)
    (fsm : Option FSMType) (isa : Bool) (r : Draws) :
    (make sh l init ctx).1.blocks.flatten.Perm (codeTree sh l init ctx .nil).leaves ∧
      ∀ b ∈ (codeTree sh l init ctx .nil).leaves,
        appended (genCodeBlocks (make sh l init ctx).1.blocks fsm isa r).2.1 b.label =
          [b.isARM] := by
  have hleaves : (codeTree sh l init ctx .nil).leaves = (make sh l init ctx).1.blocks.flatten := by
    rw [leaves_codeTree, Code.leaves, List.append_nil]
  have hnodup : ((make sh l init ctx).1.blocks.flatten.map BasicBlock.label).Nodup :=
    ((flatten_perm_leafBlocks sh l init ctx).map _).nodup_iff.2 (leafBlocks_nodup sh l ctx)
  rw [hleaves]
  exact ⟨.refl _, fun b hb => appended_eq (genCodeBlocks_flatten _ fsm isa r) hnodup hb⟩

/-- The text that is printed when `genCodeBlocks` has run is the one of `make`. -/
theorem print_genCodeBlocks (sh : Shape) (l : Label) (init : List Line) (ctx : Ctx)
    (fsm : Option FSMType) (isa : Bool) (r : Draws) :
    ((codeTree sh l init ctx .nil).fill
      (appended (genCodeBlocks (make sh l init ctx).1.blocks fsm isa r).2.1)).print =
        (make sh l init ctx).1.text := by
  have hperm := flatten_perm_leafBlocks sh l init ctx
  rw [print_fill sh l init ctx .nil, Code.fill, Code.print, List.append_nil]
  intro b hb
  exact appended_eq (genCodeBlocks_flatten _ fsm isa r)
    ((hperm.map _).nodup_iff.2 (leafBlocks_nodup sh l ctx)) (hperm.mem_iff.2 hb)

end Rit.Art
