import Rit.Properties.Build
import Rit.Properties.Leaves

/-!
# The limits of the basic blocks

After the construction `ctx[CTX.BB]` has the leaves of the tree, and a leaf is marked with the limit
32 if it is what a conditional forward branch of a Thumb block of the lowest level skips.

`getBlockLimit` draws from a range whose lower end grows when there are few blocks.  The range of a
marked block ends at 32, whatever its lower end is.
-/

namespace Rit.Art

open Draw Build PyStr

/-- The leaf that the branch of a block skips and that must stay short. -/
def shortAt (sh : Shape) (l : Label) (ctx : Ctx) : List Label :=
  match sh with
  | .byPass .. => if ctx.isa = false ∧ ctx.nest - 1 ≤ 0 then [.b2 :: l] else []
  | .hammock .. => if ctx.isa = false ∧ ctx.nest - 1 ≤ 0 then [.h2 :: l] else []
  | _ => []

/-- The leaves of a tree that must stay short. -/
def shortBlocks (sh : Shape) (l : Label) (ctx : Ctx) : List Label := sh.collect shortAt l ctx

/-- The labels of the leaves. -/
def leafLabels (sh : Shape) (l : Label) (ctx : Ctx) : List Label :=
  (leafBlocks sh l ctx).map BasicBlock.label

section Registered

variable {o : Shape.Options} {sh : Shape} {l x : Label} {ctx : Ctx} {bb : BlockDict}

/-- The children are registered one after the other, and then the skipped one is marked. -/
lemma registered_eq (hsh : sh ≠ .basic) (l : Label) (ctx : Ctx) (bb : BlockDict) :
    registered sh l ctx bb = (shortAt sh l ctx).foldl (fun bb y => bb.insert y (some 32))
      ((sh.parts ctx).foldl (fun bb p => registered p.2.1 (p.1 :: l) p.2.2 bb) bb) := by
  cases sh with
  | basic => exact absurd rfl hsh
  | byPass br b1 b2 b3 =>
    simp only [registered, limited, shortAt, Shape.parts, Ctx.down, List.foldl_cons, List.foldl_nil]
    split <;> rfl
  | hammock br3 br4 h1 h2 h3 h4 =>
    simp only [registered, limited, shortAt, Shape.parts, Ctx.down, List.foldl_cons, List.foldl_nil]
    split <;> rfl
  | callRet iwcall calleeFollowed beginWithCall call pre post br c1 c2 c3 => cases iwcall <;> rfl
  | _ => rfl

lemma leafLabels_eq (sh : Shape) (l : Label) (ctx : Ctx) : leafLabels sh l ctx =
    (leafAt sh l ctx).map BasicBlock.label ++
      (sh.parts ctx).flatMap fun p => leafLabels p.2.1 (p.1 :: l) p.2.2 := by
  rw [leafLabels, leafBlocks, Shape.collect_eq, List.map_append, List.map_flatMap]
  rfl

lemma shortBlocks_eq (sh : Shape) (l : Label) (ctx : Ctx) : shortBlocks sh l ctx =
    shortAt sh l ctx ++ (sh.parts ctx).flatMap fun p => shortBlocks p.2.1 (p.1 :: l) p.2.2 :=
  Shape.collect_eq _ _ _ _

lemma Shape.parts_shapes (sh : Shape) (ctx : Ctx) :
    (sh.parts ctx).map (fun p => p.2.1) = sh.children := by
  cases sh <;> rfl

lemma Shape.parts_nest {p : Part × Shape × Ctx} (hp : p ∈ sh.parts ctx) :
    p.2.2.nest = ctx.nest - 1 := by
  have h : ∀ n ∈ (sh.parts ctx).map (fun p => p.2.2.nest), n = ctx.nest - 1 := by
    cases sh <;> simp [parts]
  exact h _ (List.mem_map.2 ⟨p, hp, rfl⟩)

/-- The children of a tree that can be drawn can be drawn one level below. -/
lemma drawable_part (h : sh.drawable o ctx.nest = true) {p : Part × Shape × Ctx}
    (hp : p ∈ sh.parts ctx) : p.2.1.drawable o p.2.2.nest = true := by
  rw [Shape.parts_nest hp]
  refine (Shape.drawable_iff.1 h).2 _ ?_
  rw [← Shape.parts_shapes sh ctx]
  exact List.mem_map.2 ⟨p, hp, rfl⟩

/-- What is skipped is a child, and a leaf. -/
lemma shortAt_subset (h : sh.drawable o ctx.nest = true) (hx : x ∈ shortAt sh l ctx) :
    ∃ p ∈ sh.parts ctx, x ∈ leafLabels p.2.1 (p.1 :: l) p.2.2 := by
  have hlow {p : Part × Shape × Ctx} (hp : p ∈ sh.parts ctx) (hnest : ctx.nest - 1 ≤ 0)
      (hpx : x = p.1 :: l) : x ∈ leafLabels p.2.1 (p.1 :: l) p.2.2 := by
    have hbasic : p.2.1 = .basic := by
      by_contra hne
      have hpos := Shape.drawable_pos (drawable_part h hp) hne
      rw [Shape.parts_nest hp] at hpos
      omega
    rw [hbasic, hpx]
    exact List.mem_cons_self
  cases sh with
  | byPass br b1 b2 b3 =>
    simp only [shortAt] at hx
    split at hx
    · rename_i hcbz
      refine ⟨(.b2, b2, ctx.down), by simp [Shape.parts], hlow (by simp [Shape.parts]) hcbz.2 ?_⟩
      exact List.mem_singleton.1 hx
    · cases hx
  | hammock br3 br4 h1 h2 h3 h4 =>
    simp only [shortAt] at hx
    split at hx
    · rename_i hcbz
      refine ⟨(.h2, h2, ctx.down), by simp [Shape.parts], hlow (by simp [Shape.parts]) hcbz.2 ?_⟩
      exact List.mem_singleton.1 hx
    · cases hx
  | _ => cases hx

lemma shortBlocks_subset (h : sh.drawable o ctx.nest = true) (hx : x ∈ shortBlocks sh l ctx) :
    x ∈ leafLabels sh l ctx := by
  induction sh using Shape.parts_induction generalizing l ctx with
  | h sh ih =>
    rw [shortBlocks_eq] at hx
    rw [leafLabels_eq]
    refine List.mem_append.2 (.inr (List.mem_flatMap.2 ?_))
    rcases List.mem_append.1 hx with hx | hx
    · exact shortAt_subset h hx
    · obtain ⟨p, hp, hx⟩ := List.mem_flatMap.1 hx
      exact ⟨p, hp, ih ctx p hp (drawable_part h hp) hx⟩

/-- What the dictionary has under a label: 32 for the leaves that must stay short, nothing for the
other leaves. -/
def limitOf (shorts leaves : List Label) (bb : BlockDict) (x : Label) : Option (Option ℕ) :=
  if x ∈ shorts then some (some 32) else if x ∈ leaves then some none else bb.lookup x

/-- One child after the other. -/
lemma lookup_foldl {α : Type} (ps : List α) {reg : α → BlockDict → BlockDict}
    {shorts leaves : α → List Label}
    (hreg : ∀ p ∈ ps, ∀ bb x, (reg p bb).lookup x = limitOf (shorts p) (leaves p) bb x)
    (hsub : ∀ p ∈ ps, shorts p ⊆ leaves p) (hnodup : (ps.flatMap leaves).Nodup) (bb : BlockDict)
    (x : Label) : (ps.foldl (fun bb p => reg p bb) bb).lookup x =
      limitOf (ps.flatMap shorts) (ps.flatMap leaves) bb x := by
  induction ps generalizing bb with
  | nil => simp [limitOf]
  | cons p ps ih =>
    rw [List.flatMap_cons, List.nodup_append'] at hnodup
    obtain ⟨-, hrest, hdisj⟩ := hnodup
    rw [List.foldl_cons, ih (fun q hq => hreg q (List.mem_cons_of_mem p hq))
      (fun q hq => hsub q (List.mem_cons_of_mem p hq)) hrest]
    have hp := hreg p List.mem_cons_self bb x
    have hnot : x ∈ shorts p → x ∉ ps.flatMap leaves := fun hx =>
      hdisj (hsub p List.mem_cons_self hx)
    simp only [limitOf, List.flatMap_cons, List.mem_append] at hp ⊢
    by_cases h1 : x ∈ ps.flatMap shorts
    · simp [h1]
    · by_cases h2 : x ∈ ps.flatMap leaves
      · have h3 : x ∉ shorts p := fun hx => hnot hx h2
        simp [h1, h2, h3]
      · simp [h1, h2, hp]

lemma lookup_foldl_insert (ys : List Label) (bb : BlockDict) (x : Label) :
    (ys.foldl (fun bb y => bb.insert y (some 32)) bb).lookup x =
      if x ∈ ys then some (some 32) else bb.lookup x := by
  induction ys generalizing bb with
  | nil => simp
  | cons y ys ih =>
    rw [List.foldl_cons, ih]
    by_cases hx : x ∈ ys
    · simp [hx]
    · by_cases hy : x = y
      · subst hy
        simp [hx, AList.lookup_insert]
      · simp [hx, hy, AList.lookup_insert_ne hy]

/-- The dictionary after the construction. -/
lemma lookup_registered (h : sh.drawable o ctx.nest = true) (bb : BlockDict) (x : Label) :
    (registered sh l ctx bb).lookup x =
      limitOf (shortBlocks sh l ctx) (leafLabels sh l ctx) bb x := by
  induction sh using Shape.parts_induction generalizing l ctx bb x with
  | h sh ih =>
    by_cases hsh : sh = .basic
    · subst hsh
      by_cases hx : x = l
      · subst hx
        simp [registered, limitOf, shortBlocks, leafLabels, leafBlocks, Shape.collect, shortAt,
          leafAt]
      · simp [registered, limitOf, shortBlocks, leafLabels, leafBlocks, Shape.collect, shortAt,
          leafAt, hx, AList.lookup_insert_ne hx]
    · have hnodup : (leafLabels sh l ctx).Nodup := leafBlocks_nodup sh l ctx
      have hself : (leafAt sh l ctx).map BasicBlock.label = [] := by rw [leafAt, if_neg hsh]; rfl
      rw [leafLabels_eq, hself, List.nil_append] at hnodup ⊢
      have hreg : ∀ p ∈ sh.parts ctx, ∀ bb x,
          (registered p.2.1 (p.1 :: l) p.2.2 bb).lookup x =
            limitOf (shortBlocks p.2.1 (p.1 :: l) p.2.2) (leafLabels p.2.1 (p.1 :: l) p.2.2) bb x :=
        fun p hp => ih ctx p hp (drawable_part h hp)
      have hfold := lookup_foldl (sh.parts ctx) hreg
        (fun p hp x hx => shortBlocks_subset (drawable_part h hp) hx) hnodup bb x
      rw [registered_eq hsh, lookup_foldl_insert, hfold, shortBlocks_eq]
      by_cases hx : x ∈ shortAt sh l ctx
      · simp [limitOf, hx]
      · simp only [limitOf, List.mem_append, hx, false_or, if_false]

/-- The dictionary has as many keys as the tree has leaves. -/
lemma length_keys_registered (h : sh.drawable o ctx.nest = true) (l : Label) :
    (registered sh l ctx ∅).keys.length = (leafBlocks sh l ctx).length := by
  have hperm : (registered sh l ctx ∅).keys.Perm (leafLabels sh l ctx) := by
    have hnodup : (leafLabels sh l ctx).Nodup := leafBlocks_nodup sh l ctx
    refine (List.perm_ext_iff_of_nodup (AList.keys_nodup _) hnodup).2 fun x => ?_
    rw [← AList.mem_keys, ← AList.lookup_isSome, lookup_registered h]
    by_cases hleaf : x ∈ leafLabels sh l ctx
    · by_cases hshort : x ∈ shortBlocks sh l ctx <;> simp [limitOf, hleaf, hshort]
    · have hshort : x ∉ shortBlocks sh l ctx := fun hx => hleaf (shortBlocks_subset h hx)
      simp [limitOf, hleaf, hshort]
  rw [hperm.length_eq, leafLabels, List.length_map]

end Registered

/-! ## `getBlockLimit` -/

/-- The range of every basic block of the tree has an element. -/
def LimitsDrawable (num instrLimit : ℕ) (bb : BlockDict) (leaves : List BasicBlock) : Prop :=
  ∀ b ∈ leaves, (blockLimitRange num instrLimit bb b.label).1 ≤
    (blockLimitRange num instrLimit bb b.label).2

/-- No leaf must stay short, or there are many leaves, or the lower end of the range is small. -/
def Roomy (num : ℕ) (sh : Shape) (l : Label) (ctx : Ctx) : Prop :=
  shortBlocks sh l ctx = [] ∨ 10 ≤ (leafBlocks sh l ctx).length ∨
    num / (leafBlocks sh l ctx).length ≤ 32

section Limits

variable {o : Shape.Options} {sh : Shape} {l : Label} {ctx : Ctx}

lemma limitsDrawable_iff (h : sh.drawable o ctx.nest = true) (num instrLimit : ℕ) (l : Label) :
    LimitsDrawable num instrLimit (registered sh l ctx ∅) (leafBlocks sh l ctx) ↔
      Roomy num sh l ctx := by
  have hlookup {b : BasicBlock} (hb : b ∈ leafBlocks sh l ctx) :
      ((registered sh l ctx ∅).lookup b.label).bind id =
        if b.label ∈ shortBlocks sh l ctx then some 32 else none := by
    have hleaf : b.label ∈ leafLabels sh l ctx := List.mem_map.2 ⟨b, hb, rfl⟩
    rw [lookup_registered h]
    by_cases hshort : b.label ∈ shortBlocks sh l ctx <;> simp [limitOf, hleaf, hshort]
  have hrange {b : BasicBlock} (hb : b ∈ leafBlocks sh l ctx) :
      (blockLimitRange num instrLimit (registered sh l ctx ∅) b.label).1 ≤
          (blockLimitRange num instrLimit (registered sh l ctx ∅) b.label).2 ↔
        (b.label ∈ shortBlocks sh l ctx → 10 ≤ (leafBlocks sh l ctx).length ∨
          num / (leafBlocks sh l ctx).length ≤ 32) := by
    rw [blockLimitRange, length_keys_registered h, hlookup hb]
    generalize (leafBlocks sh l ctx).length = n
    by_cases hshort : b.label ∈ shortBlocks sh l ctx
    · by_cases hn : n < 10
      · simp [hshort, hn]
      · simp [hshort, hn]
        omega
    · by_cases hn : n < 10
      · simp [hshort, hn]
      · simp [hshort, hn]
  constructor
  · intro hdraw
    by_cases hnil : shortBlocks sh l ctx = []
    · exact .inl hnil
    · obtain ⟨x, hx⟩ := List.exists_mem_of_ne_nil _ hnil
      obtain ⟨b, hb, rfl⟩ := List.mem_map.1 (shortBlocks_subset h hx)
      exact .inr ((hrange hb).1 (hdraw b hb) hx)
  · rintro (hnil | hroom) b hb
    · refine (hrange hb).2 fun hx => ?_
      rw [hnil] at hx
      cases hx
    · exact (hrange hb).2 fun _ => hroom

/-- `genTest` builds a tree that can be drawn and registers its leaves. -/
lemma genTest_gives (o : Shape.Options) (maxretry : ℕ) {depth : ℕ} (nest : ℤ) (draws : ℕ → ℕ)
    {rit : ℕ → Str} (hfed : ∀ i, WellFormed (rit i)) (hdepth : nest.toNat + 2 ≤ depth) :
    Gives (genTest o maxretry depth) ⟨draws, initContext nest rit⟩ fun sh s' =>
      sh.drawable o nest = true ∧ s'.st.bb = registered sh [] ⟨nest, true⟩ ∅ := by
  refine .getSt_bind (getRBlock_seq fun cls d hcls => ?_)
  refine (makeRandomBlock_gives cls [] ⟨d, initContext nest rit⟩ hfed hdepth).mono ?_
  rintro sh s' ⟨hsh, hchildren, hbuilt⟩
  refine ⟨Shape.drawable_iff.2 ⟨?_, hchildren⟩, hbuilt.bb⟩
  rw [classDrawable_eq, hsh]
  exact hcls

end Limits

/-- A test program is built, and then every block can draw its limit if and only if the tree leaves
room for it. -/
theorem genTest_limitsDrawable_iff (o : Shape.Options) (maxretry : ℕ) (nest : ℤ) (draws : ℕ → ℕ)
    {rit : ℕ → Str} (hfed : ∀ i, WellFormed (rit i)) {depth : ℕ} (hdepth : nest.toNat + 2 ≤ depth)
    (num instrLimit : ℕ) :
    ∃ sh s', (genTest o maxretry depth).run ⟨draws, initContext nest rit⟩ = .ok (sh, s') ∧
      (LimitsDrawable num instrLimit s'.st.bb (leafBlocks sh [] ⟨nest, true⟩) ↔
        Roomy num sh [] ⟨nest, true⟩) := by
  obtain ⟨sh, s', hrun, hdraw, hbb⟩ := genTest_gives o maxretry nest draws hfed hdepth
  refine ⟨sh, s', hrun, ?_⟩
  rw [hbb]
  exact limitsDrawable_iff hdraw num instrLimit []

/-- A library that supports nothing. -/
def emptyLibrary : ℕ → Str := fun _ => Src.printBuff 0 0 .unsupported [] []

lemma emptyLibrary_wellFormed (i : ℕ) : WellFormed (emptyLibrary i) :=
  ⟨0, 0, .unsupported, [], rfl, by simp, by simp⟩

/-- The defaults, at two levels. -/
theorem genTest_limitsDrawable_two :
    (∀ i, WellFormed (emptyLibrary i)) ∧ (2 : ℤ).toNat + 2 ≤ 4 ∧
    ∃ sh s', (genTest ⟨true, true⟩ 8 4).run ⟨fun _ => 0, initContext 2 emptyLibrary⟩ =
      .ok (sh, s') ∧
      (LimitsDrawable 100 100 s'.st.bb (leafBlocks sh [] ⟨2, true⟩) ↔
        Roomy 100 sh [] ⟨2, true⟩) :=
  ⟨emptyLibrary_wellFormed, by decide,
    genTest_limitsDrawable_iff ⟨true, true⟩ 8 2 (fun _ => 0) emptyLibrary_wellFormed (by decide) 100
      100⟩

/-- The draws of an interworking block whose Thumb part is a by-pass block. -/
def thumbByPass : ℕ → ℕ := fun i => [5, 0, 1, 0, 0, 50].getD i 0

/-- Its tree. -/
def thumbByPassShape : Shape :=
  let bx : BxChoice := ⟨true, .eq, 0, 0, 0⟩
  .interwork true true bx bx bx ⟨.eq, none, true⟩ .basic
    (.byPass ⟨.eq, none, false⟩ .basic .basic .basic) .basic

lemma genTest_thumbByPass :
    ((genTest ⟨false, false⟩ 8 4).run ⟨thumbByPass, initContext 2 emptyLibrary⟩).toOption.map
      Prod.fst = some thumbByPassShape := rfl

/-- With 165 instructions for five blocks, one of which must stay below 32, the range is empty. -/
theorem genTest_limit_empty :
    ∃ sh s', (genTest ⟨false, false⟩ 8 4).run ⟨thumbByPass, initContext 2 emptyLibrary⟩ =
        .ok (sh, s') ∧
      ∃ b ∈ leafBlocks sh [] ⟨2, true⟩, blockLimitRange 165 100 s'.st.bb b.label = (33, 32) := by
  obtain ⟨sh, s', hrun, -, hbb⟩ :=
    genTest_gives ⟨false, false⟩ 8 2 thumbByPass emptyLibrary_wellFormed (Nat.le_refl 4)
  have hshape := genTest_thumbByPass
  rw [hrun] at hshape
  obtain rfl : sh = thumbByPassShape := Option.some.inj hshape
  refine ⟨_, s', hrun, ⟨[.b2, .iw2], false⟩, by decide, ?_⟩
  rw [hbb]
  decide +kernel

end Rit.Art
