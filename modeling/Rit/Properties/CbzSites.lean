import Rit.Properties.Limits

/-!
# Where a `cbz` stands

`genBranch` emits `cbz` or `cbnz` only for a conditional forward branch of a Thumb block whose
children are at the lowest level, that is, for the branch of a by-pass or of a hammock block whose
children are basic blocks.  So a `cbz` follows the end of a basic block, and it skips one basic
block and at most a branch and its literal pool (`Site`).

`blockText_sited` says so of every `cbz` in the text of a tree.  The blocks that are skipped are
`cbzBlocks`, which are among those that must stay short.
-/

namespace Rit.Art

/-! ## Sites -/

/-- The lines before and behind a `cbz` to `t` that skips the block `b`. -/
structure Site (b : BasicBlock) (t : Label) (as bs : List Line) : Prop where
  isThumb : b.isARM = false
  before : ∃ as' c, as = as' ++ [.directive .align, .label c]
  behind : ∃ br bs', bs = printBlock false b.label [.inst false .body] ++
      (br ++ ([.directive .align, isaLine false, .label (.start t)] ++ bs')) ∧
    (br = [] ∨ ∃ i, i ≠ .body ∧ br = [.inst false i, .directive .ltorg])

/-- Every `cbz` of a text skips a block that satisfies `S`. -/
def Sited (S : BasicBlock → Prop) (ls : List Line) : Prop :=
  ∀ as bs m nz rn t, ls = as ++ .inst m (.cbz nz rn t) :: bs → ∃ b, S b ∧ Site b t as bs

/-- No line is a `cbz`. -/
def NoCbz (ls : List Line) : Prop := ∀ m nz rn t, .inst m (.cbz nz rn t) ∉ ls

section Sited

variable {S : BasicBlock → Prop} {as bs ls : List Line}

lemma Site.extend {b : BasicBlock} {t : Label} (h : Site b t as bs) (xs ys : List Line) :
    Site b t (xs ++ as) (bs ++ ys) := by
  obtain ⟨as', c, rfl⟩ := h.before
  obtain ⟨br, bs', rfl, hbr⟩ := h.behind
  refine ⟨h.isThumb, ⟨xs ++ as', c, ?_⟩, br, bs' ++ ys, ?_, hbr⟩
  · rw [List.append_assoc]
  · simp only [List.append_assoc]

namespace Sited

lemma of_noCbz (h : NoCbz ls) : Sited S ls := by
  intro as bs m nz rn t heq
  exact absurd (heq ▸ List.mem_append_right as List.mem_cons_self) (h m nz rn t)

lemma mono {S' : BasicBlock → Prop} (h : Sited S ls) (hS : ∀ b, S b → S' b) : Sited S' ls := by
  intro as bs m nz rn t heq
  obtain ⟨b, hb, hsite⟩ := h as bs m nz rn t heq
  exact ⟨b, hS b hb, hsite⟩

lemma append (h : Sited S as) (h' : Sited S bs) : Sited S (as ++ bs) := by
  intro xs ys m nz rn t hls
  rcases List.append_eq_append_iff.1 hls with ⟨zs, rfl, hzs⟩ | ⟨zs, rfl, hzs⟩
  · obtain ⟨b, hb, hsite⟩ := h' zs ys m nz rn t hzs
    have hext := hsite.extend as []
    rw [List.append_nil] at hext
    exact ⟨b, hb, hext⟩
  · cases zs with
    | nil =>
      obtain ⟨b, hb, hsite⟩ := h' [] ys m nz rn t hzs.symm
      have hext := hsite.extend xs []
      rw [List.append_nil, List.append_nil] at hext
      exact ⟨b, hb, hext⟩
    | cons z zs =>
      obtain ⟨rfl, rfl⟩ := List.cons.inj hzs
      obtain ⟨b, hb, hsite⟩ := h xs zs m nz rn t rfl
      exact ⟨b, hb, hsite.extend [] bs⟩

/-- One `cbz` between lines that have none. -/
lemma single {b : BasicBlock} {m nz : Bool} {rn : ℕ} {t : Label} (ha : NoCbz as) (hb : NoCbz bs)
    (hS : S b) (hsite : Site b t as bs) : Sited S (as ++ .inst m (.cbz nz rn t) :: bs) := by
  intro xs ys m' nz' rn' t' hls
  rcases List.append_eq_append_iff.1 hls with ⟨zs, rfl, hzs⟩ | ⟨zs, rfl, hzs⟩
  · cases zs with
    | nil =>
      obtain ⟨hline, rfl⟩ := List.cons.inj hzs
      cases hline
      rw [List.append_nil]
      exact ⟨b, hS, hsite⟩
    | cons z zs =>
      obtain ⟨-, rfl⟩ := List.cons.inj hzs
      exact absurd (List.mem_append_right zs List.mem_cons_self) (hb m' nz' rn' t')
  · cases zs with
    | nil =>
      obtain ⟨hline, rfl⟩ := List.cons.inj hzs
      cases hline
      rw [List.append_nil] at hsite
      exact ⟨b, hS, hsite⟩
    | cons z zs =>
      obtain ⟨rfl, -⟩ := List.cons.inj hzs
      exact absurd (List.mem_append_right xs List.mem_cons_self) (ha m' nz' rn' t')

end Sited

/-! ## Emitted sequences -/

lemma NoCbz.append (ha : NoCbz as) (hb : NoCbz bs) : NoCbz (as ++ bs) := by
  intro m nz rn t h
  rcases List.mem_append.1 h with h | h
  · exact ha m nz rn t h
  · exact hb m nz rn t h

lemma NoCbz.ite {b : Bool} (ha : NoCbz as) (hb : NoCbz bs) : NoCbz (if b then as else bs) := by
  cases b
  · exact hb
  · exact ha

lemma noCbz_nil : NoCbz [] := fun _ _ _ _ => List.not_mem_nil

lemma noCbz_isaLine (isARM : Bool) : NoCbz [isaLine isARM] := fun m nz rn t => by simp [isaLine]

lemma noCbz_head (isARM : Bool) (l : Label) :
    NoCbz [.directive .align, isaLine isARM, .label (.start l)] :=
  fun m nz rn t => by simp [isaLine]

lemma noCbz_tail (l : Label) : NoCbz [.directive .align, .label (.fin l)] :=
  fun m nz rn t => by simp

lemma NoCbz.print (h : NoCbz ls) (isARM : Bool) (l : Label) : NoCbz (printBlock isARM l ls) :=
  (noCbz_head isARM l).append (h.append (noCbz_tail l))

lemma Sited.print (h : Sited S ls) (isARM : Bool) (l : Label) : Sited S (printBlock isARM l ls) :=
  (of_noCbz (noCbz_head isARM l)).append (h.append (of_noCbz (noCbz_tail l)))

variable {isARM : Bool} {ctx : Ctx} {target : Label}

/-- A branch that is not conditional, or not forward, is no `cbz`. -/
lemma noCbz_genBranch {isconditional forward : Bool} {r : BranchChoice}
    (h : isconditional = false ∨ forward = false) :
    NoCbz (genBranch isARM ctx target isconditional forward r) := by
  intro m nz rn t
  rcases h with rfl | rfl
  · simp only [genBranch, Bool.false_and, Bool.false_eq_true, if_false]
    split <;> simp
  · simp only [genBranch, Bool.and_false, Bool.false_eq_true, if_false]
    split <;> cases isconditional <;> simp

lemma noCbz_genLoop {r : LoopChoice} : NoCbz (genLoop isARM ctx target r) := by
  intro m nz rn t
  simp [genLoop]

lemma noCbz_genBX {isconditional : Bool} {r : BxChoice} :
    NoCbz (genBX isARM target isconditional r) := by
  intro m nz rn t
  cases isconditional <;> simp only [genBX] <;> split_ifs <;> simp_all

lemma noCbz_genCall {isCalleeARM : Bool} {r : CallChoice} :
    NoCbz (genCall isARM isCalleeARM target r) := by
  intro m nz rn t
  simp only [genCall]
  split_ifs <;> simp

lemma noCbz_getPreCalleeInsts {r : Fin 8} : NoCbz (getPreCalleeInsts ctx r) := by
  intro m nz rn t
  simp [getPreCalleeInsts]

lemma noCbz_getPostCalleeInsts {r : Fin 8} : NoCbz (getPostCalleeInsts ctx r) := by
  intro m nz rn t
  simp [getPostCalleeInsts]

/-- The branch of `genBranch` is a `cbz`. -/
def PicksCbz (ctx : Ctx) (r : BranchChoice) : Prop :=
  ctx.isa = false ∧ ctx.nest ≤ 0 ∧ r.cbz.isSome = true

instance (ctx : Ctx) (r : BranchChoice) : Decidable (PicksCbz ctx r) := by
  unfold PicksCbz
  infer_instance

lemma genBranch_of_picksCbz {r : BranchChoice} (h : PicksCbz ctx r) (target : Label) :
    ∃ nz rn, genBranch ctx.isa ctx target true true r = [.inst false (.cbz nz rn target)] := by
  obtain ⟨hisa, hnest, hcbz⟩ := h
  obtain ⟨c, hc⟩ := Option.isSome_iff_exists.1 hcbz
  refine ⟨c.1, c.2, ?_⟩
  simp [genBranch, hisa, hc, Int.not_lt.2 hnest]

lemma noCbz_of_not_picksCbz {r : BranchChoice} (h : ¬PicksCbz ctx r) :
    NoCbz (genBranch ctx.isa ctx target true true r) := by
  intro m nz rn t
  by_cases hallow : ctx.isa = false ∧ ctx.nest ≤ 0
  · have hcbz : r.cbz = none := by
      by_contra hne
      exact h ⟨hallow.1, hallow.2, Option.isSome_iff_ne_none.2 hne⟩
    simp [genBranch, hallow.1, hcbz]
  · have hnot : (!(ctx.isa || decide (ctx.nest > 0))) = false := by
      cases hisa : ctx.isa
      · have hpos : ctx.nest > 0 := by
          by_contra hle
          exact hallow ⟨hisa, by omega⟩
        simp [hpos]
      · rfl
    simp only [genBranch, hnot, Bool.and_false, Bool.false_and, Bool.false_eq_true, if_false]
    split <;> simp

end Sited

/-! ## The text of a tree -/

/-- The block that a `cbz` of this block skips. -/
def cbzAt (sh : Shape) (l : Label) (ctx : Ctx) : List Label :=
  match sh with
  | .byPass br _ _ _ => if PicksCbz ctx.down br then [.b2 :: l] else []
  | .hammock br3 _ _ _ _ _ => if PicksCbz ctx.down br3 then [.h2 :: l] else []
  | _ => []

/-- The blocks of a tree that are skipped by a `cbz`. -/
def cbzBlocks (sh : Shape) (l : Label) (ctx : Ctx) : List Label := sh.collect cbzAt l ctx

section Tree

variable {o : Shape.Options} {sh : Shape} {l x : Label} {ctx : Ctx}

lemma cbzBlocks_eq (sh : Shape) (l : Label) (ctx : Ctx) : cbzBlocks sh l ctx =
    cbzAt sh l ctx ++ (sh.parts ctx).flatMap fun p => cbzBlocks p.2.1 (p.1 :: l) p.2.2 :=
  Shape.collect_eq _ _ _ _

lemma cbzAt_subset (hx : x ∈ cbzAt sh l ctx) : x ∈ shortAt sh l ctx := by
  have hshort {r : BranchChoice} {y : Label} (hx : x ∈ if PicksCbz ctx.down r then [y] else []) :
      x ∈ if ctx.isa = false ∧ ctx.nest - 1 ≤ 0 then [y] else [] := by
    split at hx
    · rename_i hpick
      rw [if_pos ⟨hpick.1, hpick.2.1⟩]
      exact hx
    · cases hx
  cases sh with
  | byPass br b1 b2 b3 => exact hshort hx
  | hammock br3 br4 h1 h2 h3 h4 => exact hshort hx
  | _ => cases hx

/-- What a `cbz` skips must stay short. -/
lemma cbzBlocks_subset (hx : x ∈ cbzBlocks sh l ctx) : x ∈ shortBlocks sh l ctx := by
  induction sh using Shape.parts_induction generalizing l ctx with
  | h sh ih =>
    rw [cbzBlocks_eq] at hx
    rw [shortBlocks_eq]
    rcases List.mem_append.1 hx with hx | hx
    · exact List.mem_append_left _ (cbzAt_subset hx)
    · obtain ⟨p, hp, hx⟩ := List.mem_flatMap.1 hx
      exact List.mem_append_right _ (List.mem_flatMap.2 ⟨p, hp, ih ctx p hp hx⟩)

/-- Below a `cbz` there are basic blocks only. -/
lemma part_basic (h : sh.drawable o ctx.nest = true) (hnest : ctx.down.nest ≤ 0)
    {p : Part × Shape × Ctx} (hp : p ∈ sh.parts ctx) : p.2.1 = .basic := by
  by_contra hne
  have hpos := Shape.drawable_pos (drawable_part h hp) hne
  rw [Shape.parts_nest hp] at hpos
  rw [Ctx.down_nest] at hnest
  omega

/-- The text of a basic block, as `Site` has it. -/
lemma noCbz_basic (l : Label) (isARM : Bool) : NoCbz (printBlock isARM l [.inst isARM .body]) :=
  NoCbz.print (fun m nz rn t => by simp) isARM l

lemma printBlock_ends (isARM : Bool) (l : Label) (ls : List Line) :
    ∃ as' c, printBlock isARM l ls = as' ++ [.directive .align, .label c] :=
  ⟨[.directive .align, isaLine isARM, .label (.start l)] ++ ls, .fin l, by simp [printBlock]⟩

/-- What is skipped in the text of a block: a basic block that a `cbz` of the tree skips. -/
def Skipped (sh : Shape) (l : Label) (ctx : Ctx) (b : BasicBlock) : Prop :=
  b ∈ leafBlocks sh l ctx ∧ b.label ∈ cbzBlocks sh l ctx

lemma Skipped.of_part {p : Part × Shape × Ctx} (hp : p ∈ sh.parts ctx) {b : BasicBlock}
    (hb : Skipped p.2.1 (p.1 :: l) p.2.2 b) : Skipped sh l ctx b := by
  refine ⟨mem_leafBlocks_of_part hp hb.1, ?_⟩
  rw [cbzBlocks_eq]
  exact List.mem_append_right _ (List.mem_flatMap.2 ⟨p, hp, hb.2⟩)

lemma byPass_sited {br : BranchChoice} (hpick : PicksCbz ctx.down br) (l : Label) :
    Sited (Skipped (.byPass br .basic .basic .basic) l ctx)
      (blockCode (.byPass br .basic .basic .basic) l ctx) := by
  obtain ⟨nz, rn, hbr⟩ := genBranch_of_picksCbz hpick (.b3 :: l)
  have hisa : ctx.isa = false := hpick.1
  have hbasic (y : Label) := noCbz_basic y false
  simp only [blockCode, ← Ctx.down_isa ctx, hbr]
  simp only [Ctx.down_isa, hisa, List.append_assoc, List.singleton_append]
  refine Sited.single (b := ⟨.b2 :: l, false⟩) (hbasic _) ((hbasic _).append (hbasic _)) ?_
    ⟨rfl, printBlock_ends _ _ _, [],
      [.inst false .body, .directive .align, .label (.fin (.b3 :: l))], rfl, .inl rfl⟩
  refine ⟨?_, ?_⟩
  · simp [leafBlocks, Shape.collect, leafAt, hisa]
  · simp [cbzBlocks, Shape.collect, cbzAt, hpick]

lemma hammock_sited {br3 br4 : BranchChoice} (hpick : PicksCbz ctx.down br3) (l : Label) :
    Sited (Skipped (.hammock br3 br4 .basic .basic .basic .basic) l ctx)
      (blockCode (.hammock br3 br4 .basic .basic .basic .basic) l ctx) := by
  obtain ⟨nz, rn, hbr⟩ := genBranch_of_picksCbz hpick (.h3 :: l)
  have hisa : ctx.isa = false := hpick.1
  have hbasic (y : Label) := noCbz_basic y false
  have hback : ∃ i, i ≠ Inst.body ∧ genBranch false ctx.down (.h4 :: l) false true br4 =
      [.inst false i, .directive .ltorg] := by
    refine ⟨_, ?_, rfl⟩
    simp
  obtain ⟨i, hi, hbr4⟩ := hback
  have hnone : NoCbz [.inst false i, .directive .ltorg] := by
    rw [← hbr4]
    exact noCbz_genBranch (.inl rfl)
  simp only [blockCode, ← Ctx.down_isa ctx, hbr]
  simp only [Ctx.down_isa, hisa, hbr4, List.append_assoc, List.singleton_append]
  refine Sited.single (b := ⟨.h2 :: l, false⟩) (hbasic _)
    ((hbasic _).append (hnone.append ((hbasic _).append (hbasic _)))) ?_
    ⟨rfl, printBlock_ends _ _ _, [.inst false i, .directive .ltorg],
      [.inst false .body, .directive .align, .label (.fin (.h3 :: l))] ++
        printBlock false (.h4 :: l) [.inst false .body], rfl, .inr ⟨i, hi, rfl⟩⟩
  refine ⟨?_, ?_⟩
  · simp [leafBlocks, Shape.collect, leafAt, hisa]
  · simp [cbzBlocks, Shape.collect, cbzAt, hpick]

/-- Every `cbz` of a tree skips a block of `cbzBlocks`. -/
lemma blockCode_sited (h : sh.drawable o ctx.nest = true) (l : Label) :
    Sited (Skipped sh l ctx) (blockCode sh l ctx) := by
  induction sh using Shape.parts_induction generalizing l ctx with
  | h sh ih =>
    have hchild : ∀ p ∈ sh.parts ctx, ∀ init, NoCbz init → Sited (Skipped sh l ctx)
        (printBlock p.2.2.isa (p.1 :: l) (init ++ blockCode p.2.1 (p.1 :: l) p.2.2)) := by
      intro p hp init hinit
      have hcode := (ih ctx p hp (drawable_part h hp) (p.1 :: l)).mono
        fun b hb => Skipped.of_part (l := l) hp hb
      exact ((Sited.of_noCbz hinit).append hcode).print p.2.2.isa (p.1 :: l)
    have hbasic {p : Part × Shape × Ctx} (hp : p ∈ sh.parts ctx) {r : BranchChoice}
        (hpick : PicksCbz ctx.down r) : p.2.1 = .basic := part_basic h hpick.2.1 hp
    cases sh with
    | basic => exact .of_noCbz fun m nz rn t => by simp [blockCode]
    | byPass br b1 b2 b3 =>
      by_cases hpick : PicksCbz ctx.down br
      · obtain rfl : b1 = .basic := hbasic (p := (.b1, b1, ctx.down)) (by simp [Shape.parts]) hpick
        obtain rfl : b2 = .basic := hbasic (p := (.b2, b2, ctx.down)) (by simp [Shape.parts]) hpick
        obtain rfl : b3 = .basic := hbasic (p := (.b3, b3, ctx.down)) (by simp [Shape.parts]) hpick
        exact byPass_sited hpick l
      · simp only [Shape.parts, List.forall_mem_cons] at hchild
        obtain ⟨h1, h2, h3, -⟩ := hchild
        exact (((h1 [] noCbz_nil).append (.of_noCbz (noCbz_of_not_picksCbz hpick))).append
          (h2 [] noCbz_nil)).append (h3 [] noCbz_nil)
    | hammock br3 br4 b1 b2 b3 b4 =>
      by_cases hpick : PicksCbz ctx.down br3
      · obtain rfl : b1 = .basic := hbasic (p := (.h1, b1, ctx.down)) (by simp [Shape.parts]) hpick
        obtain rfl : b2 = .basic := hbasic (p := (.h2, b2, ctx.down)) (by simp [Shape.parts]) hpick
        obtain rfl : b3 = .basic := hbasic (p := (.h3, b3, ctx.down)) (by simp [Shape.parts]) hpick
        obtain rfl : b4 = .basic := hbasic (p := (.h4, b4, ctx.down)) (by simp [Shape.parts]) hpick
        exact hammock_sited hpick l
      · simp only [Shape.parts, List.forall_mem_cons] at hchild
        obtain ⟨h1, h2, h3, h4, -⟩ := hchild
        exact (((((h1 [] noCbz_nil).append (.of_noCbz (noCbz_of_not_picksCbz hpick))).append
          (h2 [] noCbz_nil)).append (.of_noCbz (noCbz_genBranch (.inl rfl)))).append
          (h3 [] noCbz_nil)).append (h4 [] noCbz_nil)
    | loop lp l1 =>
      simp only [Shape.parts, List.forall_mem_cons] at hchild
      exact (hchild.1 [] noCbz_nil).append (.of_noCbz noCbz_genLoop)
    | irLoop lp br ir1 ir2 ir3 =>
      simp only [Shape.parts, List.forall_mem_cons] at hchild
      obtain ⟨h1, h2, h3, -⟩ := hchild
      exact ((((h1 [] noCbz_nil).append (.of_noCbz (noCbz_genBranch (.inr rfl)))).append
        (h2 [] noCbz_nil)).append (h3 [] noCbz_nil)).append (.of_noCbz noCbz_genLoop)
    | interwork condBx iwFollowed bx1 bx2 bx3 br iw1 iw2 iw3 =>
      simp only [Shape.parts, List.forall_mem_cons] at hchild
      obtain ⟨h1, h2, h3, -⟩ := hchild
      have hbx1 : NoCbz (genBX ctx.isa (.iw2 :: l) condBx bx1) := noCbz_genBX
      have hbx2 : NoCbz (genBX (!ctx.isa) (.iw1 :: l) condBx bx2) := noCbz_genBX
      have hbx3 : NoCbz (genBX (!ctx.isa) (.iw3 :: l) false bx3) := noCbz_genBX
      have hb : NoCbz (genBranch ctx.isa ctx.down (.iw3 :: l) false false br) :=
        noCbz_genBranch (.inl rfl)
      refine (Sited.of_noCbz (noCbz_isaLine ctx.isa)).append ?_
      cases iwFollowed
      · exact ((((((Sited.of_noCbz hbx1).append (h1 [] noCbz_nil)).append (.of_noCbz hb)).append
          (h2 [] noCbz_nil)).append (.of_noCbz hbx2)).append (.of_noCbz hbx3)).append
          (h3 [] noCbz_nil)
      · exact ((((((Sited.of_noCbz hbx1).append (.of_noCbz hb)).append (h2 [] noCbz_nil)).append
          (.of_noCbz hbx2)).append (.of_noCbz hbx3)).append (h1 [] noCbz_nil)).append
          (h3 [] noCbz_nil)
    | callRet iwcall calleeFollowed beginWithCall call pre post br c1 c2 c3 =>
      simp only [Shape.parts, List.forall_mem_cons] at hchild
      obtain ⟨h1, h2, h3, -⟩ := hchild
      have hc2 := h2 (getPreCalleeInsts (ctx.down.callee iwcall) pre) noCbz_getPreCalleeInsts
      have hcall : NoCbz (genCall ctx.isa (ctx.down.callee iwcall).isa (.c2 :: l) call) :=
        noCbz_genCall
      have hfirst := hcall.ite (b := beginWithCall) noCbz_nil
      have hsecond := noCbz_nil.ite (b := beginWithCall) hcall
      have hpost : NoCbz (getPostCalleeInsts (ctx.down.callee iwcall) post) :=
        noCbz_getPostCalleeInsts
      have hb (target : Label) : NoCbz (genBranch ctx.isa ctx target false false br) :=
        noCbz_genBranch (.inl rfl)
      refine (Sited.of_noCbz (noCbz_isaLine ctx.isa)).append ?_
      cases calleeFollowed
      · exact ((((((Sited.of_noCbz hfirst).append (h1 [] noCbz_nil)).append
          (.of_noCbz hsecond)).append (.of_noCbz (hb _))).append hc2).append
          (.of_noCbz hpost)).append (h3 [] noCbz_nil)
      · exact ((((((Sited.of_noCbz hfirst).append (.of_noCbz (hb _))).append hc2).append
          (.of_noCbz hpost)).append (h1 [] noCbz_nil)).append (.of_noCbz hsecond)).append
          (h3 [] noCbz_nil)
    | exclusive e1 e2 =>
      simp only [Shape.parts, List.forall_mem_cons] at hchild
      obtain ⟨h1, h2, -⟩ := hchild
      exact ((h1 [] noCbz_nil).append (.of_noCbz fun m nz rn t => by simp)).append
        (h2 [] noCbz_nil)
    | aluWritePC p1 p2 =>
      simp only [Shape.parts, List.forall_mem_cons] at hchild
      obtain ⟨h1, h2, -⟩ := hchild
      exact ((h1 [] noCbz_nil).append (.of_noCbz fun m nz rn t => by simp)).append
        (h2 [] noCbz_nil)

lemma blockText_sited (h : sh.drawable o ctx.nest = true) (l : Label) :
    Sited (Skipped sh l ctx) (blockText sh l [] ctx) := (blockCode_sited h l).print ctx.isa l

/-- A tree that has a block of `cbzBlocks` has a `cbz`. -/
lemma cbz_mem_blockText {init : List Line} (hx : x ∈ cbzBlocks sh l ctx) :
    ∃ m nz rn t, .inst m (.cbz nz rn t) ∈ blockText sh l init ctx := by
  induction sh using Shape.parts_induction generalizing l init ctx with
  | h sh ih =>
    have hlift {m nz : Bool} {rn : ℕ} {t : Label}
        (h : .inst m (.cbz nz rn t) ∈ blockCode sh l ctx) :
        ∃ m nz rn t, .inst m (.cbz nz rn t) ∈ blockText sh l init ctx :=
      ⟨m, nz, rn, t, by simp [blockText, printBlock, h]⟩
    rw [cbzBlocks_eq] at hx
    rcases List.mem_append.1 hx with hx | hx
    · cases sh with
      | byPass br b1 b2 b3 =>
        by_cases hpick : PicksCbz ctx.down br
        · obtain ⟨nz, rn, hbr⟩ := genBranch_of_picksCbz hpick (.b3 :: l)
          rw [Ctx.down_isa] at hbr
          have hmem : .inst false (.cbz nz rn (.b3 :: l)) ∈
              blockCode (.byPass br b1 b2 b3) l ctx := by simp [blockCode, hbr]
          exact hlift hmem
        · rw [cbzAt, if_neg hpick] at hx
          cases hx
      | hammock br3 br4 h1 h2 h3 h4 =>
        by_cases hpick : PicksCbz ctx.down br3
        · obtain ⟨nz, rn, hbr⟩ := genBranch_of_picksCbz hpick (.h3 :: l)
          rw [Ctx.down_isa] at hbr
          have hmem : .inst false (.cbz nz rn (.h3 :: l)) ∈
              blockCode (.hammock br3 br4 h1 h2 h3 h4) l ctx := by simp [blockCode, hbr]
          exact hlift hmem
        · rw [cbzAt, if_neg hpick] at hx
          cases hx
      | _ => cases hx
    · obtain ⟨p, hp, hx⟩ := List.mem_flatMap.1 hx
      obtain ⟨init', hsub⟩ := child_subset hp l
      obtain ⟨m, nz, rn, t, hmem⟩ := @ih ctx p hp _ _ init' hx
      exact hlift (hsub _ hmem)

end Tree

end Rit.Art
