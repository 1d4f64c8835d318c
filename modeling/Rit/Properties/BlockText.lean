import Mathlib.Data.List.Chain
import Rit.Lib.Layout
import Rit.Art.Machine

/-!
# The text of a block

`make` threads the context through the construction.  Here the text is described without the
threading: `blockCode` is the code of a block in terms of the context it was drawn in, and
`make_text` says that this is what `make` prints.

Two facts about the text as a listing are used by every proof about its execution.  No label
occurs twice, because a label spells the path from the root (`blockText_once`), and a block's
label directly follows a mode directive (`blockText_headed`), so that it is reached by a transfer
or through the header of its block, and in no other way.
-/

namespace Rit.Art

open Layout

/-! ## The text without the threading -/

namespace Ctx

/-- The context of the children of a block. -/
def down (ctx : Ctx) : Ctx := { ctx with nest := ctx.nest - 1 }

/-- The same level in the other instruction set. -/
def other (ctx : Ctx) : Ctx := { ctx with isa := !ctx.isa }

/-- The context of the callee of a call block. -/
def callee (iwcall : Bool) (ctx : Ctx) : Ctx := if iwcall then ctx.other else ctx

variable (ctx : Ctx)

@[simp] lemma down_nest : ctx.down.nest = ctx.nest - 1 := rfl

@[simp] lemma down_isa : ctx.down.isa = ctx.isa := rfl

@[simp] lemma other_nest : ctx.other.nest = ctx.nest := rfl

@[simp] lemma other_isa : ctx.other.isa = !ctx.isa := rfl

@[simp] lemma callee_nest (iwcall : Bool) : (ctx.callee iwcall).nest = ctx.nest := by
  cases iwcall <;> rfl

end Ctx

/-- The code of a block of label `l` drawn in the context `ctx`. -/
def blockCode : Shape → Label → Ctx → List Line
  | .basic, _, ctx => [.inst ctx.isa .body]
  | .byPass br b1 b2 b3, l, ctx =>
    printBlock ctx.isa (.b1 :: l) (blockCode b1 (.b1 :: l) ctx.down) ++
      genBranch ctx.isa ctx.down (.b3 :: l) true true br ++
      printBlock ctx.isa (.b2 :: l) (blockCode b2 (.b2 :: l) ctx.down) ++
      printBlock ctx.isa (.b3 :: l) (blockCode b3 (.b3 :: l) ctx.down)
  | .hammock br3 br4 h1 h2 h3 h4, l, ctx =>
    printBlock ctx.isa (.h1 :: l) (blockCode h1 (.h1 :: l) ctx.down) ++
      genBranch ctx.isa ctx.down (.h3 :: l) true true br3 ++
      printBlock ctx.isa (.h2 :: l) (blockCode h2 (.h2 :: l) ctx.down) ++
      genBranch ctx.isa ctx.down (.h4 :: l) false true br4 ++
      printBlock ctx.isa (.h3 :: l) (blockCode h3 (.h3 :: l) ctx.down) ++
      printBlock ctx.isa (.h4 :: l) (blockCode h4 (.h4 :: l) ctx.down)
  | .loop lp l1, l, ctx =>
    printBlock ctx.isa (.l1 :: l) (blockCode l1 (.l1 :: l) ctx.down) ++
      genLoop ctx.isa ctx.down (.l1 :: l) lp
  | .irLoop lp br ir1 ir2 ir3, l, ctx =>
    printBlock ctx.isa (.ir1 :: l) (blockCode ir1 (.ir1 :: l) ctx.down) ++
      genBranch ctx.isa ctx.down (.ir3 :: l) true false br ++
      printBlock ctx.isa (.ir2 :: l) (blockCode ir2 (.ir2 :: l) ctx.down) ++
      printBlock ctx.isa (.ir3 :: l) (blockCode ir3 (.ir3 :: l) ctx.down) ++
      genLoop ctx.isa ctx.down (.ir2 :: l) lp
  | .interwork condBx iwFollowed bx1 bx2 bx3 br iw1 iw2 iw3, l, ctx =>
    let iw1 := printBlock ctx.isa (.iw1 :: l) (blockCode iw1 (.iw1 :: l) ctx.down)
    let iw2 := printBlock (!ctx.isa) (.iw2 :: l) (blockCode iw2 (.iw2 :: l) ctx.down.other)
    let iw3 := printBlock ctx.isa (.iw3 :: l) (blockCode iw3 (.iw3 :: l) ctx.down)
    let bx1 := genBX ctx.isa (.iw2 :: l) condBx bx1
    let bx2 := genBX (!ctx.isa) (.iw1 :: l) condBx bx2
    let bx3 := genBX (!ctx.isa) (.iw3 :: l) false bx3
    let b := genBranch ctx.isa ctx.down (.iw3 :: l) false false br
    isaLine ctx.isa ::
      if iwFollowed then bx1 ++ b ++ iw2 ++ bx2 ++ bx3 ++ iw1 ++ iw3
      else bx1 ++ iw1 ++ b ++ iw2 ++ bx2 ++ bx3 ++ iw3
  | .callRet iwcall calleeFollowed beginWithCall call pre post br c1 c2 c3, l, ctx =>
    let callee := ctx.down.callee iwcall
    let c1 := printBlock ctx.isa (.c1 :: l) (blockCode c1 (.c1 :: l) ctx.down)
    let c2 := printBlock callee.isa (.c2 :: l)
      (getPreCalleeInsts callee pre ++ blockCode c2 (.c2 :: l) callee)
    let c3 := printBlock ctx.isa (.c3 :: l) (blockCode c3 (.c3 :: l) ctx.down)
    let call := genCall ctx.isa callee.isa (.c2 :: l) call
    let first := if beginWithCall then call else []
    let second := if beginWithCall then [] else call
    let postCall := getPostCalleeInsts callee post
    isaLine ctx.isa ::
      if calleeFollowed then
        first ++ genBranch ctx.isa ctx (.c1 :: l) false false br ++ c2 ++ postCall ++ c1 ++
          second ++ c3
      else
        first ++ c1 ++ second ++ genBranch ctx.isa ctx (.c3 :: l) false false br ++ c2 ++
          postCall ++ c3
  | .exclusive e1 e2, l, ctx =>
    printBlock ctx.isa (.e1 :: l) (blockCode e1 (.e1 :: l) ctx.down) ++
      [.inst ctx.isa .body, .inst ctx.isa .body] ++
      printBlock ctx.isa (.e2 :: l) (blockCode e2 (.e2 :: l) ctx.down)
  | .aluWritePC p1 p2, l, ctx =>
    printBlock ctx.isa (.aluwpc1 :: l) (blockCode p1 (.aluwpc1 :: l) ctx.down) ++
      [.inst ctx.isa .body] ++
      printBlock ctx.isa (.aluwpc2 :: l) (blockCode p2 (.aluwpc2 :: l) ctx.down)

/-- The text of a block whose code starts with `init`. -/
def blockText (sh : Shape) (l : Label) (init : List Line) (ctx : Ctx) : List Line :=
  printBlock ctx.isa l (init ++ blockCode sh l ctx)

/-- The construction prints this text. -/
lemma make_text (sh : Shape) (l : Label) (init : List Line) (ctx : Ctx) :
    (make sh l init ctx).1.text = blockText sh l init ctx := by
  induction sh generalizing l init ctx with
  | basic => rfl
  | byPass br b1 b2 b3 ih1 ih2 ih3 =>
    simp only [make, make_snd, ih1, ih2, ih3, blockText, blockCode, List.nil_append]
    rfl
  | hammock br3 br4 h1 h2 h3 h4 ih1 ih2 ih3 ih4 =>
    simp only [make, make_snd, ih1, ih2, ih3, ih4, blockText, blockCode, List.nil_append]
    rfl
  | loop lp l1 ih =>
    simp only [make, make_snd, ih, blockText, blockCode, List.nil_append]
    rfl
  | irLoop lp br ir1 ir2 ir3 ih1 ih2 ih3 =>
    simp only [make, make_snd, ih1, ih2, ih3, blockText, blockCode, List.nil_append]
    rfl
  | interwork condBx iwFollowed bx1 bx2 bx3 br iw1 iw2 iw3 ih1 ih2 ih3 =>
    cases iwFollowed <;>
      simp only [make, make_snd, ih1, ih2, ih3, blockText, blockCode, List.nil_append,
        Bool.not_not] <;> rfl
  | callRet iwcall calleeFollowed beginWithCall call pre post br c1 c2 c3 ih1 ih2 ih3 =>
    cases calleeFollowed <;> cases iwcall <;>
      simp [make, ih1, ih2, ih3, blockText, blockCode, Ctx.callee, Ctx.down, Ctx.other]
  | exclusive e1 e2 ih1 ih2 =>
    simp only [make, make_snd, ih1, ih2, blockText, blockCode, List.nil_append]
    rfl
  | aluWritePC p1 p2 ih1 ih2 =>
    simp only [make, make_snd, ih1, ih2, blockText, blockCode, List.nil_append]
    rfl

/-! ## Emitted sequences have no labels -/

/-- No line is a label. -/
def NoLabels (ls : List Line) : Prop := ∀ c, .label c ∉ ls

lemma noLabels_genBranch {isARM : Bool} {ctx : Ctx} {target : Label}
    {isconditional forward : Bool} {r : BranchChoice} :
      NoLabels (genBranch isARM ctx target isconditional forward r) := by
  intro c
  cases isconditional <;> simp [genBranch]

lemma noLabels_genLoop {isARM : Bool} {ctx : Ctx} {target : Label} {r : LoopChoice} :
    NoLabels (genLoop isARM ctx target r) := by
  intro c
  simp [genLoop]

lemma noLabels_genBX {isARM : Bool} {target : Label} {isconditional : Bool} {r : BxChoice} :
    NoLabels (genBX isARM target isconditional r) := by
  intro c
  cases isconditional <;> simp only [genBX] <;> split_ifs <;> simp_all

lemma noLabels_genCall {isCallerARM isCalleeARM : Bool} {target : Label} {r : CallChoice} :
    NoLabels (genCall isCallerARM isCalleeARM target r) := by
  intro c
  simp only [genCall]
  split_ifs <;> simp

lemma noLabels_getPreCalleeInsts {ctx : Ctx} {r : Fin 8} : NoLabels (getPreCalleeInsts ctx r) := by
  intro c
  simp [getPreCalleeInsts]

lemma noLabels_getPostCalleeInsts {ctx : Ctx} {r : Fin 8} :
    NoLabels (getPostCalleeInsts ctx r) := by
  intro c
  simp [getPostCalleeInsts]

lemma noLabels_ite {b : Bool} {as bs : List Line} (ha : NoLabels as) (hb : NoLabels bs) :
    NoLabels (if b then as else bs) := by
  cases b
  · exact hb
  · exact ha

lemma noLabels_isaLine {isARM : Bool} : NoLabels [isaLine isARM] := fun c => by simp [isaLine]

lemma noLabels_nil : NoLabels [] := fun _ => List.not_mem_nil

/-! ## Labels occur once -/

/-- The label of a label line. -/
def Line.label? : Line → Option CodeLabel
  | .label c => some c
  | _ => none

/-- The block a label belongs to. -/
def CodeLabel.block : CodeLabel → Label
  | .start l => l
  | .fin l => l

/-- The labels of a piece of text occur once and belong to the children of `l` that are listed, or
to blocks below them. -/
structure Below (l : Label) (xs : List Part) (ls : List Line) : Prop where
  once : Once Line.label? ls
  under : ∀ c, .label c ∈ ls → ∃ x ∈ xs, (x :: l) <:+ c.block

lemma once_of_noLabels {ls : List Line} (h : NoLabels ls) : Once Line.label? ls := by
  have hnil : ls.filterMap Line.label? = [] := by
    refine List.filterMap_eq_nil_iff.2 fun y hy => ?_
    cases y with
    | label c => exact absurd hy (h c)
    | directive d => rfl
    | inst isARM i => rfl
  unfold Once
  rw [hnil]
  exact List.nodup_nil

namespace Below

variable {l : Label} {xs ys : List Part} {as bs : List Line}

lemma of_noLabels (h : NoLabels as) : Below l [] as :=
  ⟨once_of_noLabels h, fun c hc => absurd hc (h c)⟩

/-- Different children have different labels. -/
lemma append (ha : Below l xs as) (hb : Below l ys bs) (hxy : ∀ x ∈ xs, x ∉ ys) :
    Below l (xs ++ ys) (as ++ bs) := by
  refine ⟨?_, fun c hc => ?_⟩
  · unfold Once
    rw [List.filterMap_append]
    refine List.nodup_append.2 ⟨ha.once, hb.once, fun c hca d hdb hcd => ?_⟩
    obtain ⟨y, hy, hyc⟩ := List.mem_filterMap.1 hca
    obtain ⟨z, hz, hzd⟩ := List.mem_filterMap.1 hdb
    cases y <;> cases hyc
    cases z <;> cases hzd
    subst hcd
    obtain ⟨x, hx, hxc⟩ := ha.under c hy
    obtain ⟨w, hw, hwc⟩ := hb.under c hz
    -- two suffixes of one length are equal
    have heq : x :: l = w :: l :=
      (List.suffix_of_suffix_length_le hxc hwc (by simp)).eq_of_length (by simp)
    obtain rfl := (List.cons.inj heq).1
    exact hxy x hx hw
  · rcases List.mem_append.1 hc with hc | hc
    · obtain ⟨x, hx, hxc⟩ := ha.under c hc
      exact ⟨x, List.mem_append_left _ hx, hxc⟩
    · obtain ⟨x, hx, hxc⟩ := hb.under c hc
      exact ⟨x, List.mem_append_right _ hx, hxc⟩

/-- Text without labels may stand anywhere. -/
lemma append_noLabels (ha : Below l xs as) (hb : NoLabels bs) : Below l xs (as ++ bs) := by
  have h := ha.append (Below.of_noLabels hb) (by simp)
  rwa [List.append_nil] at h

lemma noLabels_append (hb : Below l xs bs) (ha : NoLabels as) : Below l xs (as ++ bs) :=
  (Below.of_noLabels ha).append hb (by simp)

/-- The labels of the block itself differ from those below it. -/
lemma once_print (h : Below l xs as) (isARM : Bool) : Once Line.label? (printBlock isARM l as) := by
  have hlist : (printBlock isARM l as).filterMap Line.label? =
      .start l :: (as.filterMap Line.label? ++ [.fin l]) := by
    simp [printBlock, isaLine, Line.label?, List.filterMap_cons]
  have hne : ∀ {c : CodeLabel}, c ∈ as.filterMap Line.label? → c.block ≠ l := by
    intro c hc heq
    obtain ⟨y, hy, hyc⟩ := List.mem_filterMap.1 hc
    cases y <;> cases hyc
    obtain ⟨y, -, hy⟩ := h.under c hy
    have hlen := hy.length_le
    rw [heq, List.length_cons] at hlen
    omega
  unfold Once
  rw [hlist]
  refine List.nodup_cons.2 ⟨fun hc => ?_, List.nodup_append.2
    ⟨h.once, List.nodup_singleton _, fun c hc d hd hcd => ?_⟩⟩
  · rcases List.mem_append.1 hc with hc | hc
    · exact hne hc rfl
    · cases List.mem_singleton.1 hc
  · obtain rfl := List.mem_singleton.1 hd
    subst hcd
    exact hne hc rfl

lemma print {x : Part} (h : Below (x :: l) xs as) (isARM : Bool) :
    Below l [x] (printBlock isARM (x :: l) as) := by
  refine ⟨h.once_print isARM, fun c hc => ⟨x, List.mem_singleton.2 rfl, ?_⟩⟩
  have hmem : c = .start (x :: l) ∨ .label c ∈ as ∨ c = .fin (x :: l) := by
    simpa [printBlock, isaLine] using hc
  rcases hmem with rfl | hc | rfl
  · exact List.suffix_rfl
  · obtain ⟨y, -, hy⟩ := h.under c hc
    exact (List.suffix_cons y _).trans hy
  · exact List.suffix_rfl

end Below

/-- The children whose text a block contains. -/
lemma blockCode_below (sh : Shape) (l : Label) (ctx : Ctx) :
    ∃ xs, Below l xs (blockCode sh l ctx) := by
  induction sh generalizing l ctx with
  | basic => exact ⟨_, .of_noLabels fun c => by simp [blockCode]⟩
  | byPass br b1 b2 b3 ih1 ih2 ih3 =>
    obtain ⟨_, h1⟩ := ih1 (.b1 :: l) ctx.down
    obtain ⟨_, h2⟩ := ih2 (.b2 :: l) ctx.down
    obtain ⟨_, h3⟩ := ih3 (.b3 :: l) ctx.down
    exact ⟨_, (((h1.print _).append_noLabels noLabels_genBranch).append (h2.print _)
      (by decide)).append (h3.print _) (by decide)⟩
  | hammock br3 br4 h1 h2 h3 h4 ih1 ih2 ih3 ih4 =>
    obtain ⟨_, h1⟩ := ih1 (.h1 :: l) ctx.down
    obtain ⟨_, h2⟩ := ih2 (.h2 :: l) ctx.down
    obtain ⟨_, h3⟩ := ih3 (.h3 :: l) ctx.down
    obtain ⟨_, h4⟩ := ih4 (.h4 :: l) ctx.down
    exact ⟨_, (((((h1.print _).append_noLabels noLabels_genBranch).append (h2.print _)
      (by decide)).append_noLabels noLabels_genBranch).append (h3.print _)
      (by decide)).append (h4.print _) (by decide)⟩
  | loop lp l1 ih =>
    obtain ⟨_, h1⟩ := ih (.l1 :: l) ctx.down
    exact ⟨_, (h1.print _).append_noLabels noLabels_genLoop⟩
  | irLoop lp br ir1 ir2 ir3 ih1 ih2 ih3 =>
    obtain ⟨_, h1⟩ := ih1 (.ir1 :: l) ctx.down
    obtain ⟨_, h2⟩ := ih2 (.ir2 :: l) ctx.down
    obtain ⟨_, h3⟩ := ih3 (.ir3 :: l) ctx.down
    exact ⟨_, ((((h1.print _).append_noLabels noLabels_genBranch).append (h2.print _)
      (by decide)).append (h3.print _) (by decide)).append_noLabels noLabels_genLoop⟩
  | interwork condBx iwFollowed bx1 bx2 bx3 br iw1 iw2 iw3 ih1 ih2 ih3 =>
    obtain ⟨_, h1⟩ := ih1 (.iw1 :: l) ctx.down
    obtain ⟨_, h2⟩ := ih2 (.iw2 :: l) ctx.down.other
    obtain ⟨_, h3⟩ := ih3 (.iw3 :: l) ctx.down
    cases iwFollowed
    · exact ⟨_, Below.noLabels_append ((((((h1.print _).noLabels_append noLabels_genBX
        ).append_noLabels noLabels_genBranch).append (h2.print _) (by decide)
        ).append_noLabels noLabels_genBX).append_noLabels noLabels_genBX
        |>.append (h3.print _) (by decide)) noLabels_isaLine⟩
    · exact ⟨_, Below.noLabels_append (((((((Below.of_noLabels noLabels_genBX
        ).append_noLabels noLabels_genBranch).append (h2.print _) (by decide)
        ).append_noLabels noLabels_genBX).append_noLabels noLabels_genBX
        ).append (h1.print _) (by decide)).append (h3.print _) (by decide)) noLabels_isaLine⟩
  | callRet iwcall calleeFollowed beginWithCall call pre post br c1 c2 c3 ih1 ih2 ih3 =>
    obtain ⟨_, h1⟩ := ih1 (.c1 :: l) ctx.down
    obtain ⟨_, h2⟩ := ih2 (.c2 :: l) (ctx.down.callee iwcall)
    obtain ⟨_, h3⟩ := ih3 (.c3 :: l) ctx.down
    have h2' := h2.noLabels_append (@noLabels_getPreCalleeInsts (ctx.down.callee iwcall) pre)
    have hcall := @noLabels_genCall ctx.isa (ctx.down.callee iwcall).isa (.c2 :: l) call
    have hfirst : NoLabels (if beginWithCall then _ else _) := noLabels_ite hcall noLabels_nil
    have hsecond : NoLabels (if beginWithCall then _ else _) := noLabels_ite noLabels_nil hcall
    cases calleeFollowed
    · exact ⟨_, Below.noLabels_append ((((((h1.print _).noLabels_append hfirst
        ).append_noLabels hsecond).append_noLabels noLabels_genBranch
        ).append (h2'.print _) (by decide)).append_noLabels noLabels_getPostCalleeInsts
        |>.append (h3.print _) (by decide)) noLabels_isaLine⟩
    · exact ⟨_, Below.noLabels_append (((((((Below.of_noLabels hfirst
        ).append_noLabels noLabels_genBranch).append (h2'.print _) (by decide)
        ).append_noLabels noLabels_getPostCalleeInsts).append (h1.print _) (by decide)
        ).append_noLabels hsecond).append (h3.print _) (by decide)) noLabels_isaLine⟩
  | exclusive e1 e2 ih1 ih2 =>
    obtain ⟨_, h1⟩ := ih1 (.e1 :: l) ctx.down
    obtain ⟨_, h2⟩ := ih2 (.e2 :: l) ctx.down
    exact ⟨_, ((h1.print _).append_noLabels fun c => by simp).append (h2.print _) (by decide)⟩
  | aluWritePC p1 p2 ih1 ih2 =>
    obtain ⟨_, h1⟩ := ih1 (.aluwpc1 :: l) ctx.down
    obtain ⟨_, h2⟩ := ih2 (.aluwpc2 :: l) ctx.down
    exact ⟨_, ((h1.print _).append_noLabels fun c => by simp).append (h2.print _) (by decide)⟩

/-- No label occurs twice in the text of a block. -/
lemma blockText_once (sh : Shape) (l : Label) (ctx : Ctx) :
    Once Line.label? (blockText sh l [] ctx) := by
  obtain ⟨_, h⟩ := blockCode_below sh l ctx
  exact h.once_print ctx.isa

/-! ## A block's label follows a mode directive -/

/-- The line is a block's label. -/
def Line.isStart : Line → Bool
  | .label (.start _) => true
  | _ => false

/-- The line is `.arm` or `.thumb`. -/
def Line.isMode : Line → Bool
  | .directive .arm => true
  | .directive .thumb => true
  | _ => false

/-- Every block's label in the text directly follows a mode directive of the text. -/
structure Headed (ls : List Line) : Prop where
  chain : ls.IsChain fun x y => y.isStart = true → x.isMode = true
  head : ∀ y ∈ ls.head?, y.isStart = false

lemma isMode_isaLine (isARM : Bool) : (isaLine isARM).isMode = true := by
  cases isARM <;> rfl

namespace Headed

variable {as bs : List Line}

lemma of_noLabels (h : NoLabels as) : Headed as := by
  have hstart : ∀ y ∈ as, y.isStart = false := by
    intro y hy
    cases y with
    | label c => exact absurd hy (h c)
    | directive d => rfl
    | inst isARM i => rfl
  refine ⟨?_, fun y hy => hstart y (List.mem_of_head? hy)⟩
  induction as with
  | nil => exact .nil
  | cons x as ih =>
    refine List.isChain_cons.2 ⟨fun y hy hst => ?_, ih (fun c hc => h c (.tail _ hc))
      (fun y hy => hstart y (.tail _ hy))⟩
    rw [hstart y (.tail _ (List.mem_of_head? hy))] at hst
    cases hst

lemma append (ha : Headed as) (hb : Headed bs) : Headed (as ++ bs) := by
  refine ⟨List.isChain_append.2 ⟨ha.chain, hb.chain, fun x _ y hy hst => ?_⟩, fun y hy => ?_⟩
  · rw [hb.head y hy] at hst
    cases hst
  · cases as with
    | nil => exact hb.head y hy
    | cons x as => exact ha.head y hy

lemma print (h : Headed as) (isARM : Bool) (l : Label) : Headed (printBlock isARM l as) := by
  have htail : Headed (as ++ [.directive .align, .label (.fin l)]) := by
    refine h.append ⟨?_, ?_⟩
    · exact List.isChain_cons_cons.2 ⟨nofun, .singleton _⟩
    · rintro y ⟨⟩
      rfl
  refine ⟨?_, ?_⟩
  · refine List.isChain_cons_cons.2 ⟨fun hst => ?_, List.isChain_cons_cons.2
      ⟨fun _ => isMode_isaLine isARM, List.isChain_cons.2 ⟨fun y hy hst => ?_, htail.chain⟩⟩⟩
    · cases isARM <;> cases hst
    · rw [htail.head y hy] at hst
      cases hst
  · rintro y ⟨⟩
    rfl

end Headed

lemma blockCode_headed (sh : Shape) (l : Label) (ctx : Ctx) : Headed (blockCode sh l ctx) := by
  have hmode : ∀ isARM, Headed [isaLine isARM] := fun _ => .of_noLabels noLabels_isaLine
  induction sh generalizing l ctx with
  | basic => exact .of_noLabels fun c => by simp [blockCode]
  | byPass br b1 b2 b3 ih1 ih2 ih3 =>
    exact ((((ih1 ..).print ..).append (.of_noLabels noLabels_genBranch)).append
      ((ih2 ..).print ..)).append ((ih3 ..).print ..)
  | hammock br3 br4 h1 h2 h3 h4 ih1 ih2 ih3 ih4 =>
    exact ((((((ih1 ..).print ..).append (.of_noLabels noLabels_genBranch)).append
      ((ih2 ..).print ..)).append (.of_noLabels noLabels_genBranch)).append
      ((ih3 ..).print ..)).append ((ih4 ..).print ..)
  | loop lp l1 ih => exact ((ih ..).print ..).append (.of_noLabels noLabels_genLoop)
  | irLoop lp br ir1 ir2 ir3 ih1 ih2 ih3 =>
    exact (((((ih1 ..).print ..).append (.of_noLabels noLabels_genBranch)).append
      ((ih2 ..).print ..)).append ((ih3 ..).print ..)).append (.of_noLabels noLabels_genLoop)
  | interwork condBx iwFollowed bx1 bx2 bx3 br iw1 iw2 iw3 ih1 ih2 ih3 =>
    cases iwFollowed
    · exact (hmode _).append (((((((Headed.of_noLabels noLabels_genBX).append
        ((ih1 ..).print ..)).append (.of_noLabels noLabels_genBranch)).append
        ((ih2 ..).print ..)).append (.of_noLabels noLabels_genBX)).append
        (.of_noLabels noLabels_genBX)).append ((ih3 ..).print ..))
    · exact (hmode _).append (((((((Headed.of_noLabels noLabels_genBX).append
        (.of_noLabels noLabels_genBranch)).append ((ih2 ..).print ..)).append
        (.of_noLabels noLabels_genBX)).append (.of_noLabels noLabels_genBX)).append
        ((ih1 ..).print ..)).append ((ih3 ..).print ..))
  | callRet iwcall calleeFollowed beginWithCall call pre post br c1 c2 c3 ih1 ih2 ih3 =>
    have hcall := @noLabels_genCall ctx.isa (ctx.down.callee iwcall).isa (.c2 :: l) call
    have hfirst : Headed (if beginWithCall then _ else _) :=
      .of_noLabels (noLabels_ite hcall noLabels_nil)
    have hsecond : Headed (if beginWithCall then _ else _) :=
      .of_noLabels (noLabels_ite noLabels_nil hcall)
    have hcallee := (Headed.of_noLabels (@noLabels_getPreCalleeInsts (ctx.down.callee iwcall)
      pre)).append (ih2 (.c2 :: l) (ctx.down.callee iwcall))
    cases calleeFollowed
    · exact (hmode _).append ((((((hfirst.append ((ih1 ..).print ..)).append hsecond).append
        (.of_noLabels noLabels_genBranch)).append (hcallee.print ..)).append
        (.of_noLabels noLabels_getPostCalleeInsts)).append ((ih3 ..).print ..))
    · exact (hmode _).append ((((((hfirst.append (.of_noLabels noLabels_genBranch)).append
        (hcallee.print ..)).append (.of_noLabels noLabels_getPostCalleeInsts)).append
        ((ih1 ..).print ..)).append hsecond).append ((ih3 ..).print ..))
  | exclusive e1 e2 ih1 ih2 =>
    exact (((ih1 ..).print ..).append (.of_noLabels fun c => by simp)).append ((ih2 ..).print ..)
  | aluWritePC p1 p2 ih1 ih2 =>
    exact (((ih1 ..).print ..).append (.of_noLabels fun c => by simp)).append ((ih2 ..).print ..)

/-- Every block's label in a block's text directly follows a mode directive. -/
lemma blockText_headed (sh : Shape) (l : Label) (ctx : Ctx) : Headed (blockText sh l [] ctx) :=
  (blockCode_headed sh l ctx).print ctx.isa l

/-- The line before a block's label. -/
lemma Headed.isMode {P : List Line} (h : Headed P) {p : ℕ} {x y : Line} (hx : P[p]? = some x)
    (hy : P[p + 1]? = some y) (hstart : y.isStart = true) : x.isMode = true := by
  obtain ⟨hlt, rfl⟩ := List.getElem?_eq_some_iff.1 hy
  obtain ⟨hlt', rfl⟩ := List.getElem?_eq_some_iff.1 hx
  exact List.isChain_iff_getElem.1 h.chain p hlt hstart

end Rit.Art
