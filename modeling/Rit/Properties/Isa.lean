import Rit.Properties.Skeleton

/-!
# Instruction sets of the emitted program

Three notions of instruction set meet in a program: the one an instruction was generated for (the
tag of its line), the mode the assembler is in when it reads the line, and the state of the
processor when it executes it.

The first two are compared by reading the text in order.  `Reads` says that every tag is the mode
in force, that the two labels of a block are read in the block's instruction set, and that every
transfer names its target in the way the target's instruction set asks for; it composes along the
text, so the proof follows the construction (`blockCode_reads`).  The third is compared along the
runs of the program.  There the text alone does not decide: a return enters what it finds in
`cfgdata`, which is the saved address as long as no more than eight levels are drawn.
-/

namespace Rit.Art

open Layout

/-! ## Reading the text -/

/-- The mode a line puts the assembler in. -/
def Line.mode? : Line → Option Bool
  | .directive .arm => some true
  | .directive .thumb => some false
  | _ => none

/-- The assembler's mode in front of line `i` of a text that is entered in mode `m`. -/
def modeAt (m : Bool) (P : List Line) (i : ℕ) : Bool :=
  (P.take i).foldl (fun m x => x.mode?.getD m) m

/-- The instruction set of the first instruction, if no literal pool stands in front of it. -/
def lead : List Line → Option Bool
  | [] => none
  | .inst isARM _ :: _ => some isARM
  | .directive .ltorg :: _ => none
  | _ :: ls => lead ls

/-- How an instruction generated for `isARM` has to name its target, given the instruction set of
every block: a direct branch stays in its instruction set, `blx` to a label changes it, and an
address has its lowest bit set exactly for Thumb. -/
def Inst.Enters (isas : List (Label × Bool)) (isARM : Bool) : Inst → Prop
  | .b _ _ target | .cbz _ _ target | .adrPc _ target | .ble _ target | .bl _ target =>
    (target, isARM) ∈ isas
  | .blx target => (target, !isARM) ∈ isas
  | .ldrPc _ _ target plus1 | .ldrLabel _ _ target plus1 => (target, !plus1) ∈ isas
  | _ => True

/-- Reading a text from mode `m` ends in mode `m'`, and instruction sets agree all along. -/
def Reads (isas : List (Label × Bool)) : Bool → List Line → Bool → Prop
  | m, [], m' => m = m'
  | m, .inst isARM x :: ls, m' => isARM = m ∧ x.Enters isas isARM ∧ Reads isas m ls m'
  | m, .label (.start l) :: ls, m' => (l, m) ∈ isas ∧ lead ls = some m ∧ Reads isas m ls m'
  | m, .label (.fin l) :: ls, m' => (l, m) ∈ isas ∧ Reads isas m ls m'
  | m, .directive d :: ls, m' => Reads isas ((Line.directive d).mode?.getD m) ls m'

section Reading

variable {isas : List (Label × Bool)} {m k m' : Bool} {as bs P : List Line}

lemma lead_append (h : lead as = some m) : lead (as ++ bs) = some m := by
  induction as with
  | nil => cases h
  | cons x as ih =>
    cases x with
    | inst isARM i => exact h
    | label c => exact ih h
    | directive d =>
      cases d with
      | ltorg => cases h
      | _ => exact ih h

lemma Reads.append (ha : Reads isas m as k) (hb : Reads isas k bs m') :
    Reads isas m (as ++ bs) m' := by
  induction as generalizing m with
  | nil =>
    obtain rfl : m = k := ha
    exact hb
  | cons x as ih =>
    cases x with
    | inst isARM i => exact ⟨ha.1, ha.2.1, ih ha.2.2⟩
    | label c =>
      cases c with
      | start l => exact ⟨ha.1, lead_append ha.2.1, ih ha.2.2⟩
      | fin l => exact ⟨ha.1, ih ha.2⟩
    | directive d => exact ih ha

/-- What remains of the text is read from the mode in force there. -/
lemma Reads.drop (h : Reads isas m P m') (i : ℕ) : Reads isas (modeAt m P i) (P.drop i) m' := by
  induction P generalizing m i with
  | nil => simpa [modeAt] using h
  | cons x P ih =>
    cases i with
    | zero => exact h
    | succ i =>
      cases x with
      | inst isARM y => exact ih h.2.2 i
      | label c =>
        cases c with
        | start l => exact ih h.2.2 i
        | fin l => exact ih h.2 i
      | directive d => exact ih h i

lemma drop_of_getElem? {x : Line} {i : ℕ} (h : P[i]? = some x) :
    P.drop i = x :: P.drop (i + 1) := by
  obtain ⟨hi, rfl⟩ := List.getElem?_eq_some_iff.1 h
  exact List.drop_eq_getElem_cons hi

lemma Reads.inst (h : Reads isas m P m') {i : ℕ} {isARM : Bool} {x : Inst}
    (hi : P[i]? = some (.inst isARM x)) : modeAt m P i = isARM ∧ x.Enters isas isARM := by
  have hread := h.drop i
  rw [drop_of_getElem? hi] at hread
  exact ⟨hread.1.symm, hread.2.1⟩

lemma Reads.fin (h : Reads isas m P m') {i : ℕ} {l : Label}
    (hi : P[i]? = some (.label (.fin l))) : (l, modeAt m P i) ∈ isas := by
  have hread := h.drop i
  rw [drop_of_getElem? hi] at hread
  exact hread.1

lemma Reads.start (h : Reads isas m P m') {i : ℕ} {l : Label}
    (hi : P[i]? = some (.label (.start l))) :
    (l, modeAt m P i) ∈ isas ∧ lead (P.drop i) = some (modeAt m P i) := by
  have hread := h.drop i
  rw [drop_of_getElem? hi] at hread ⊢
  exact ⟨hread.1, hread.2.1⟩

/-! ## The emitted sequences -/

variable {isARM : Bool} {target l : Label}

lemma genBranch_reads {ctx : Ctx} {isconditional forward : Bool} {r : BranchChoice}
    (h : (target, isARM) ∈ isas) :
    Reads isas isARM (genBranch isARM ctx target isconditional forward r) isARM := by
  have henters : ∀ binst : Inst, binst.Enters isas isARM →
      Reads isas isARM (.inst isARM binst :: if isconditional then [] else [.directive .ltorg])
        isARM := by
    intro binst hb
    cases isconditional
    · exact ⟨rfl, hb, rfl⟩
    · exact ⟨rfl, hb, rfl⟩
  refine henters _ ?_
  -- every form of the branch names the same target
  cases r.cbz <;> split_ifs <;> exact h

lemma genLoop_reads {ctx : Ctx} {r : LoopChoice} (h : (target, isARM) ∈ isas) :
    Reads isas isARM (genLoop isARM ctx target r) isARM := by
  simp [genLoop, Reads, Inst.Enters, h]

lemma genBX_reads {isconditional : Bool} {r : BxChoice} (h : (target, !isARM) ∈ isas) :
    Reads isas isARM (genBX isARM target isconditional r) isARM := by
  cases isARM with
  | true =>
    simp only [genBX]
    split_ifs <;> simp_all [Reads, Inst.Enters]
  | false =>
    simp only [genBX]
    split_ifs <;> simp_all [Reads, Inst.Enters, Line.mode?]

lemma genCall_reads {isCalleeARM : Bool} {r : CallChoice} (h : (target, isCalleeARM) ∈ isas) :
    Reads isas isARM (genCall isARM isCalleeARM target r) isARM := by
  cases isARM <;> cases isCalleeARM <;> simp only [genCall] <;> split_ifs <;>
    simp_all [Reads, Inst.Enters]

lemma getPreCalleeInsts_reads {ctx : Ctx} {r : Fin 8} :
    Reads isas ctx.isa (getPreCalleeInsts ctx r) ctx.isa := by
  simp [getPreCalleeInsts, Reads, Inst.Enters]

lemma getPostCalleeInsts_reads {ctx : Ctx} {r : Fin 8} :
    Reads isas ctx.isa (getPostCalleeInsts ctx r) ctx.isa := by
  simp [getPostCalleeInsts, Reads, Inst.Enters, Line.mode?]

lemma isaLine_reads (h : Reads isas isARM as m') : Reads isas m (isaLine isARM :: as) m' := by
  cases isARM <;> exact h

/-- A block is read in its own instruction set, whatever the mode in front of it. -/
lemma printBlock_reads (hl : (l, isARM) ∈ isas) (hlead : lead as = some isARM)
    (h : Reads isas isARM as isARM) : Reads isas m (printBlock isARM l as) isARM := by
  have hcode : Reads isas isARM (as ++ [.directive .align, .label (.fin l)]) isARM :=
    h.append ⟨hl, rfl⟩
  have hlabel : Reads isas isARM
      (.label (.start l) :: (as ++ [.directive .align, .label (.fin l)])) isARM :=
    ⟨hl, lead_append hlead, hcode⟩
  exact isaLine_reads (m := m) hlabel

end Reading

/-! ## The instruction set of every block -/

/-- The label and the instruction set of a block and of every block below it. -/
def blockIsas : Shape → Label → Ctx → List (Label × Bool)
  | .basic, l, ctx => [(l, ctx.isa)]
  | .byPass _ b1 b2 b3, l, ctx =>
    (l, ctx.isa) :: (blockIsas b1 (.b1 :: l) ctx.down ++ blockIsas b2 (.b2 :: l) ctx.down ++
      blockIsas b3 (.b3 :: l) ctx.down)
  | .hammock _ _ h1 h2 h3 h4, l, ctx =>
    (l, ctx.isa) :: (blockIsas h1 (.h1 :: l) ctx.down ++ blockIsas h2 (.h2 :: l) ctx.down ++
      blockIsas h3 (.h3 :: l) ctx.down ++ blockIsas h4 (.h4 :: l) ctx.down)
  | .loop _ l1, l, ctx => (l, ctx.isa) :: blockIsas l1 (.l1 :: l) ctx.down
  | .irLoop _ _ ir1 ir2 ir3, l, ctx =>
    (l, ctx.isa) :: (blockIsas ir1 (.ir1 :: l) ctx.down ++ blockIsas ir2 (.ir2 :: l) ctx.down ++
      blockIsas ir3 (.ir3 :: l) ctx.down)
  | .interwork _ _ _ _ _ _ iw1 iw2 iw3, l, ctx =>
    (l, ctx.isa) :: (blockIsas iw1 (.iw1 :: l) ctx.down ++
      blockIsas iw2 (.iw2 :: l) ctx.down.other ++ blockIsas iw3 (.iw3 :: l) ctx.down)
  | .callRet iwcall _ _ _ _ _ _ c1 c2 c3, l, ctx =>
    (l, ctx.isa) :: (blockIsas c1 (.c1 :: l) ctx.down ++
      blockIsas c2 (.c2 :: l) (ctx.down.callee iwcall) ++ blockIsas c3 (.c3 :: l) ctx.down)
  | .exclusive e1 e2, l, ctx =>
    (l, ctx.isa) :: (blockIsas e1 (.e1 :: l) ctx.down ++ blockIsas e2 (.e2 :: l) ctx.down)
  | .aluWritePC p1 p2, l, ctx =>
    (l, ctx.isa) :: (blockIsas p1 (.aluwpc1 :: l) ctx.down ++
      blockIsas p2 (.aluwpc2 :: l) ctx.down)

/-- These are the `isARM` that the construction assigns. -/
lemma make_isas (sh : Shape) (l : Label) (init : List Line) (ctx : Ctx) :
    (make sh l init ctx).1.isas = blockIsas sh l ctx := by
  induction sh generalizing l init ctx with
  | basic => rfl
  | byPass br b1 b2 b3 ih1 ih2 ih3 => simp only [make, make_snd, ih1, ih2, ih3, blockIsas]; rfl
  | hammock br3 br4 h1 h2 h3 h4 ih1 ih2 ih3 ih4 =>
    simp only [make, make_snd, ih1, ih2, ih3, ih4, blockIsas]
    rfl
  | loop lp l1 ih => simp only [make, ih, blockIsas]; rfl
  | irLoop lp br ir1 ir2 ir3 ih1 ih2 ih3 =>
    simp only [make, make_snd, ih1, ih2, ih3, blockIsas]
    rfl
  | interwork condBx iwFollowed bx1 bx2 bx3 br iw1 iw2 iw3 ih1 ih2 ih3 =>
    cases iwFollowed <;>
      simp only [make, make_snd, ih1, ih2, ih3, blockIsas, Bool.not_not] <;> rfl
  | callRet iwcall calleeFollowed beginWithCall call pre post br c1 c2 c3 ih1 ih2 ih3 =>
    cases calleeFollowed <;> cases iwcall <;>
      simp [make, ih1, ih2, ih3, blockIsas, Ctx.callee, Ctx.down, Ctx.other]
  | exclusive e1 e2 ih1 ih2 => simp only [make, make_snd, ih1, ih2, blockIsas]; rfl
  | aluWritePC p1 p2 ih1 ih2 => simp only [make, make_snd, ih1, ih2, blockIsas]; rfl

lemma self_mem_blockIsas (sh : Shape) (l : Label) (ctx : Ctx) :
    (l, ctx.isa) ∈ blockIsas sh l ctx := by
  cases sh <;> exact List.mem_cons_self

/-! ## The text of a block -/

section Text

variable {isARM isconditional : Bool} {target l : Label} {as bs : List Line}

@[simp] lemma lead_isaLine : lead (isaLine isARM :: as) = lead as := by
  cases isARM <;> rfl

lemma lead_printBlock (h : lead as = some isARM) :
    lead (printBlock isARM l as ++ bs) = some isARM := by
  have hcode : lead (as ++ [.directive .align, .label (.fin l)]) = some isARM := lead_append h
  refine lead_append ?_
  change lead (isaLine isARM :: .label (.start l) :: (as ++ _)) = _
  rw [lead_isaLine]
  exact hcode

lemma lead_genBranch {ctx : Ctx} {forward : Bool} {r : BranchChoice} :
    lead (genBranch isARM ctx target isconditional forward r ++ as) = some isARM := rfl

lemma lead_genBX {r : BxChoice} : lead (genBX isARM target isconditional r ++ as) = some isARM := by
  refine lead_append ?_
  cases isARM <;> cases isconditional <;> simp only [genBX] <;> split_ifs <;> simp_all [lead]

lemma lead_genCall {isCalleeARM : Bool} {r : CallChoice} :
    lead (genCall isARM isCalleeARM target r ++ as) = some isARM := by
  refine lead_append ?_
  simp only [genCall]
  split_ifs <;> rfl

/-- The first instruction of a block is one of the block's instruction set. -/
lemma lead_blockCode (sh : Shape) (l : Label) (ctx : Ctx) :
    lead (blockCode sh l ctx) = some ctx.isa := by
  induction sh generalizing l ctx with
  | basic => rfl
  | byPass br b1 b2 b3 ih1 ih2 ih3 =>
    simp only [blockCode, List.append_assoc]
    exact lead_printBlock (ih1 _ ctx.down)
  | hammock br3 br4 h1 h2 h3 h4 ih1 ih2 ih3 ih4 =>
    simp only [blockCode, List.append_assoc]
    exact lead_printBlock (ih1 _ ctx.down)
  | loop lp l1 ih => exact lead_printBlock (ih _ ctx.down)
  | irLoop lp br ir1 ir2 ir3 ih1 ih2 ih3 =>
    simp only [blockCode, List.append_assoc]
    exact lead_printBlock (ih1 _ ctx.down)
  | interwork condBx iwFollowed bx1 bx2 bx3 br iw1 iw2 iw3 ih1 ih2 ih3 =>
    cases iwFollowed <;> simp only [blockCode, lead_isaLine, List.append_assoc] <;>
      exact lead_genBX
  | callRet iwcall calleeFollowed beginWithCall call pre post br c1 c2 c3 ih1 ih2 ih3 =>
    -- the code begins with the call, or else with the branch around the callee or the first block
    cases calleeFollowed <;> cases beginWithCall <;>
      simp only [blockCode, lead_isaLine, List.append_assoc, if_true, if_false, Bool.false_eq_true,
        List.nil_append, lead_genCall, lead_genBranch]
    exact lead_printBlock (ih1 _ ctx.down)
  | exclusive e1 e2 ih1 ih2 =>
    simp only [blockCode, List.append_assoc]
    exact lead_printBlock (ih1 _ ctx.down)
  | aluWritePC p1 p2 ih1 ih2 =>
    simp only [blockCode, List.append_assoc]
    exact lead_printBlock (ih1 _ ctx.down)

variable {isas : List (Label × Bool)}

/-- The text of a child, from its code. -/
lemma child_reads {sh : Shape} {ctx : Ctx} {m : Bool}
    (h : Reads isas ctx.isa (blockCode sh l ctx) ctx.isa)
    (hsub : ∀ p ∈ blockIsas sh l ctx, p ∈ isas) (hctx : ctx.isa = isARM) :
    Reads isas m (printBlock isARM l (blockCode sh l ctx)) isARM := by
  subst hctx
  exact printBlock_reads (hsub _ (self_mem_blockIsas sh l ctx)) (lead_blockCode sh l ctx) h

/-- The code of a block is read in its instruction set from beginning to end. -/
lemma blockCode_reads (sh : Shape) (l : Label) (ctx : Ctx)
    (hsub : ∀ p ∈ blockIsas sh l ctx, p ∈ isas) :
    Reads isas ctx.isa (blockCode sh l ctx) ctx.isa := by
  induction sh generalizing l ctx with
  | basic => exact ⟨rfl, trivial, rfl⟩
  | byPass br b1 b2 b3 ih1 ih2 ih3 =>
    simp only [blockIsas, List.forall_mem_cons, List.forall_mem_append] at hsub
    obtain ⟨-, ⟨hs1, hs2⟩, hs3⟩ := hsub
    have h1 := child_reads (m := ctx.isa) (ih1 _ ctx.down hs1) hs1 rfl
    have h2 := child_reads (m := ctx.isa) (ih2 _ ctx.down hs2) hs2 rfl
    have h3 := child_reads (m := ctx.isa) (ih3 _ ctx.down hs3) hs3 rfl
    exact ((h1.append (genBranch_reads (hs3 _ (self_mem_blockIsas ..)))).append h2).append h3
  | hammock br3 br4 h1 h2 h3 h4 ih1 ih2 ih3 ih4 =>
    simp only [blockIsas, List.forall_mem_cons, List.forall_mem_append] at hsub
    obtain ⟨-, ⟨⟨hs1, hs2⟩, hs3⟩, hs4⟩ := hsub
    have h1 := child_reads (m := ctx.isa) (ih1 _ ctx.down hs1) hs1 rfl
    have h2 := child_reads (m := ctx.isa) (ih2 _ ctx.down hs2) hs2 rfl
    have h3 := child_reads (m := ctx.isa) (ih3 _ ctx.down hs3) hs3 rfl
    have h4 := child_reads (m := ctx.isa) (ih4 _ ctx.down hs4) hs4 rfl
    exact ((((h1.append (genBranch_reads (hs3 _ (self_mem_blockIsas ..)))).append h2).append
      (genBranch_reads (hs4 _ (self_mem_blockIsas ..)))).append h3).append h4
  | loop lp l1 ih =>
    simp only [blockIsas, List.forall_mem_cons] at hsub
    have h1 := child_reads (m := ctx.isa) (ih _ ctx.down hsub.2) hsub.2 rfl
    exact h1.append (genLoop_reads (hsub.2 _ (self_mem_blockIsas ..)))
  | irLoop lp br ir1 ir2 ir3 ih1 ih2 ih3 =>
    simp only [blockIsas, List.forall_mem_cons, List.forall_mem_append] at hsub
    obtain ⟨-, ⟨hs1, hs2⟩, hs3⟩ := hsub
    have h1 := child_reads (m := ctx.isa) (ih1 _ ctx.down hs1) hs1 rfl
    have h2 := child_reads (m := ctx.isa) (ih2 _ ctx.down hs2) hs2 rfl
    have h3 := child_reads (m := ctx.isa) (ih3 _ ctx.down hs3) hs3 rfl
    exact (((h1.append (genBranch_reads (hs3 _ (self_mem_blockIsas ..)))).append h2).append
      h3).append (genLoop_reads (hs2 _ (self_mem_blockIsas ..)))
  | interwork condBx iwFollowed bx1 bx2 bx3 br iw1 iw2 iw3 ih1 ih2 ih3 =>
    simp only [blockIsas, List.forall_mem_cons, List.forall_mem_append] at hsub
    obtain ⟨-, ⟨hs1, hs2⟩, hs3⟩ := hsub
    have hto1 : ((.iw1 :: l : Label), !(!ctx.isa)) ∈ isas := by
      rw [Bool.not_not]
      exact hs1 _ (self_mem_blockIsas ..)
    have hto3 : ((.iw3 :: l : Label), !(!ctx.isa)) ∈ isas := by
      rw [Bool.not_not]
      exact hs3 _ (self_mem_blockIsas ..)
    have h1 : ∀ m, Reads isas m _ ctx.isa := fun m => child_reads (ih1 _ ctx.down hs1) hs1 rfl
    have h2 := child_reads (m := ctx.isa) (ih2 _ ctx.down.other hs2) hs2 rfl
    have h3 : ∀ m, Reads isas m _ ctx.isa := fun m => child_reads (ih3 _ ctx.down hs3) hs3 rfl
    have hbx1 : Reads isas ctx.isa (genBX ctx.isa (.iw2 :: l) condBx bx1) ctx.isa :=
      genBX_reads (hs2 _ (self_mem_blockIsas ..))
    have hbx2 : Reads isas (!ctx.isa) (genBX (!ctx.isa) (.iw1 :: l) condBx bx2) (!ctx.isa) :=
      genBX_reads hto1
    have hbx3 : Reads isas (!ctx.isa) (genBX (!ctx.isa) (.iw3 :: l) false bx3) (!ctx.isa) :=
      genBX_reads hto3
    have hb : Reads isas ctx.isa (genBranch ctx.isa ctx.down (.iw3 :: l) false false br) ctx.isa :=
      genBranch_reads (hs3 _ (self_mem_blockIsas ..))
    refine isaLine_reads ?_
    cases iwFollowed
    · exact (((((hbx1.append (h1 _)).append hb).append h2).append hbx2).append hbx3).append (h3 _)
    · exact (((((hbx1.append hb).append h2).append hbx2).append hbx3).append (h1 _)).append (h3 _)
  | callRet iwcall calleeFollowed beginWithCall call pre post br c1 c2 c3 ih1 ih2 ih3 =>
    simp only [blockIsas, List.forall_mem_cons, List.forall_mem_append] at hsub
    obtain ⟨-, ⟨hs1, hs2⟩, hs3⟩ := hsub
    let callee := ctx.down.callee iwcall
    have hto2 : ((.c2 :: l : Label), callee.isa) ∈ isas := hs2 _ (self_mem_blockIsas ..)
    have h1 : ∀ m, Reads isas m _ ctx.isa := fun m => child_reads (ih1 _ ctx.down hs1) hs1 rfl
    have h3 : ∀ m, Reads isas m _ ctx.isa := fun m => child_reads (ih3 _ ctx.down hs3) hs3 rfl
    -- the callee's own code stands behind the lines that save the return address
    have h2 : ∀ m, Reads isas m (printBlock callee.isa (.c2 :: l)
        (getPreCalleeInsts callee pre ++ blockCode c2 (.c2 :: l) callee)) callee.isa :=
      fun m => printBlock_reads hto2 rfl (getPreCalleeInsts_reads.append (ih2 _ callee hs2))
    have hcall : ∀ b : Bool, Reads isas ctx.isa
        (if b then genCall ctx.isa callee.isa (.c2 :: l) call else []) ctx.isa := by
      intro b
      cases b
      · rfl
      · exact genCall_reads hto2
    have hcall' : Reads isas ctx.isa
        (if beginWithCall then [] else genCall ctx.isa callee.isa (.c2 :: l) call) ctx.isa := by
      cases beginWithCall
      · exact hcall true
      · rfl
    refine isaLine_reads ?_
    cases calleeFollowed
    · have hb : Reads isas ctx.isa (genBranch ctx.isa ctx (.c3 :: l) false false br) ctx.isa :=
        genBranch_reads (hs3 _ (self_mem_blockIsas ..))
      exact ((((((hcall _).append (h1 _)).append hcall').append hb).append (h2 _)).append
        getPostCalleeInsts_reads).append (h3 _)
    · have hb : Reads isas ctx.isa (genBranch ctx.isa ctx (.c1 :: l) false false br) ctx.isa :=
        genBranch_reads (hs1 _ (self_mem_blockIsas ..))
      exact ((((((hcall _).append hb).append (h2 _)).append getPostCalleeInsts_reads).append
        (h1 _)).append hcall').append (h3 _)
  | exclusive e1 e2 ih1 ih2 =>
    simp only [blockIsas, List.forall_mem_cons, List.forall_mem_append] at hsub
    obtain ⟨-, hs1, hs2⟩ := hsub
    have h1 := child_reads (m := ctx.isa) (ih1 _ ctx.down hs1) hs1 rfl
    have h2 := child_reads (m := ctx.isa) (ih2 _ ctx.down hs2) hs2 rfl
    have hbody : Reads isas ctx.isa [.inst ctx.isa .body, .inst ctx.isa .body] ctx.isa :=
      ⟨rfl, trivial, rfl, trivial, rfl⟩
    exact (h1.append hbody).append h2
  | aluWritePC p1 p2 ih1 ih2 =>
    simp only [blockIsas, List.forall_mem_cons, List.forall_mem_append] at hsub
    obtain ⟨-, hs1, hs2⟩ := hsub
    have h1 := child_reads (m := ctx.isa) (ih1 _ ctx.down hs1) hs1 rfl
    have h2 := child_reads (m := ctx.isa) (ih2 _ ctx.down hs2) hs2 rfl
    have hbody : Reads isas ctx.isa [.inst ctx.isa .body] ctx.isa := ⟨rfl, trivial, rfl⟩
    exact (h1.append hbody).append h2

end Text

/-! ## The list of blocks -/

/-- The children of a block, with the part of the label and the context each is built with. -/
def Shape.parts : Shape → Ctx → List (Part × Shape × Ctx)
  | .basic, _ => []
  | .byPass _ b1 b2 b3, ctx => [(.b1, b1, ctx.down), (.b2, b2, ctx.down), (.b3, b3, ctx.down)]
  | .hammock _ _ h1 h2 h3 h4, ctx =>
    [(.h1, h1, ctx.down), (.h2, h2, ctx.down), (.h3, h3, ctx.down), (.h4, h4, ctx.down)]
  | .loop _ l1, ctx => [(.l1, l1, ctx.down)]
  | .irLoop _ _ ir1 ir2 ir3, ctx =>
    [(.ir1, ir1, ctx.down), (.ir2, ir2, ctx.down), (.ir3, ir3, ctx.down)]
  | .interwork _ _ _ _ _ _ iw1 iw2 iw3, ctx =>
    [(.iw1, iw1, ctx.down), (.iw2, iw2, ctx.down.other), (.iw3, iw3, ctx.down)]
  | .callRet iwcall _ _ _ _ _ _ c1 c2 c3, ctx =>
    [(.c1, c1, ctx.down), (.c2, c2, ctx.down.callee iwcall), (.c3, c3, ctx.down)]
  | .exclusive e1 e2, ctx => [(.e1, e1, ctx.down), (.e2, e2, ctx.down)]
  | .aluWritePC p1 p2, ctx => [(.aluwpc1, p1, ctx.down), (.aluwpc2, p2, ctx.down)]

/-- What holds of a block whenever it holds of its children holds of every block. -/
lemma Shape.parts_induction {motive : Shape → Prop}
    (h : ∀ sh, (∀ ctx, ∀ p ∈ sh.parts ctx, motive p.2.1) → motive sh) (sh : Shape) : motive sh := by
  induction sh with
  | basic => exact h _ fun ctx => by simp [parts]
  | byPass br b1 b2 b3 ih1 ih2 ih3 => exact h _ fun ctx => by simp [parts, ih1, ih2, ih3]
  | hammock br3 br4 h1 h2 h3 h4 ih1 ih2 ih3 ih4 =>
    exact h _ fun ctx => by simp [parts, ih1, ih2, ih3, ih4]
  | loop lp l1 ih => exact h _ fun ctx => by simp [parts, ih]
  | irLoop lp br ir1 ir2 ir3 ih1 ih2 ih3 => exact h _ fun ctx => by simp [parts, ih1, ih2, ih3]
  | interwork condBx iwFollowed bx1 bx2 bx3 br iw1 iw2 iw3 ih1 ih2 ih3 =>
    exact h _ fun ctx => by simp [parts, ih1, ih2, ih3]
  | callRet iwcall calleeFollowed beginWithCall call pre post br c1 c2 c3 ih1 ih2 ih3 =>
    exact h _ fun ctx => by simp [parts, ih1, ih2, ih3]
  | exclusive e1 e2 ih1 ih2 => exact h _ fun ctx => by simp [parts, ih1, ih2]
  | aluWritePC p1 p2 ih1 ih2 => exact h _ fun ctx => by simp [parts, ih1, ih2]

lemma Shape.parts_nodup (sh : Shape) (ctx : Ctx) : ((sh.parts ctx).map Prod.fst).Nodup := by
  cases sh <;> simp [parts]

lemma blockIsas_eq (sh : Shape) (l : Label) (ctx : Ctx) :
    blockIsas sh l ctx = (l, ctx.isa) ::
      (sh.parts ctx).flatMap fun p => blockIsas p.2.1 (p.1 :: l) p.2.2 := by
  cases sh <;> simp [blockIsas, Shape.parts]

/-- The text of a child is part of the block's code. -/
lemma child_subset {sh : Shape} {ctx : Ctx} {p : Part × Shape × Ctx} (hp : p ∈ sh.parts ctx)
    (l : Label) : ∃ init, ∀ y ∈ printBlock p.2.2.isa (p.1 :: l)
      (init ++ blockCode p.2.1 (p.1 :: l) p.2.2), y ∈ blockCode sh l ctx := by
  cases sh with
  | basic => cases hp
  | interwork condBx iwFollowed bx1 bx2 bx3 br iw1 iw2 iw3 =>
    refine ⟨[], fun y hy => ?_⟩
    simp only [Shape.parts, List.mem_cons, List.not_mem_nil, or_false] at hp
    rcases hp with rfl | rfl | rfl <;> rw [List.nil_append] at hy <;> cases iwFollowed <;>
      simp_all [blockCode]
  | callRet iwcall calleeFollowed beginWithCall call pre post br c1 c2 c3 =>
    simp only [Shape.parts, List.mem_cons, List.not_mem_nil, or_false] at hp
    rcases hp with rfl | rfl | rfl
    · refine ⟨[], fun y hy => ?_⟩
      rw [List.nil_append] at hy
      cases calleeFollowed <;> simp_all [blockCode]
    · refine ⟨getPreCalleeInsts (ctx.down.callee iwcall) pre, fun y hy => ?_⟩
      cases calleeFollowed <;> simp_all [blockCode]
    · refine ⟨[], fun y hy => ?_⟩
      rw [List.nil_append] at hy
      cases calleeFollowed <;> simp_all [blockCode]
  | _ =>
    refine ⟨[], fun y hy => ?_⟩
    rw [List.nil_append] at hy
    simp only [Shape.parts, List.mem_cons, List.not_mem_nil, or_false] at hp
    rcases hp with rfl | rfl | rfl | rfl <;> simp_all [blockCode]

/-- Every block that is listed has its end label in the text. -/
lemma fin_mem_blockText {sh : Shape} {l k : Label} {init : List Line} {ctx : Ctx} {a : Bool}
    (h : (k, a) ∈ blockIsas sh l ctx) : .label (.fin k) ∈ blockText sh l init ctx := by
  induction sh using Shape.parts_induction generalizing l init ctx with
  | h sh ih =>
    rw [blockIsas_eq] at h
    rcases List.mem_cons.1 h with h | h
    · cases h
      simp [blockText, printBlock]
    · obtain ⟨p, hp, hk⟩ := List.mem_flatMap.1 h
      obtain ⟨init', hsub⟩ := child_subset hp l
      have hmem := hsub _ (ih ctx p hp hk)
      simp [blockText, printBlock, hmem]

/-! ## One instruction set for a block -/

/-- The labels of a list of blocks, as lines. -/
def labelLines (isas : List (Label × Bool)) : List Line := isas.map fun p => .label (.start p.1)

/-- A block's label differs from those below it. -/
lemma Below.once_cons {l : Label} {xs : List Part} {as : List Line} (h : Below l xs as) :
    Once Line.label? (.label (.start l) :: as) := by
  refine List.nodup_cons.2 ⟨fun hc => ?_, h.once⟩
  obtain ⟨y, hy, hyc⟩ := List.mem_filterMap.1 hc
  cases y <;> cases hyc
  obtain ⟨x, -, hx⟩ := h.under _ hy
  have hlen := hx.length_le
  simp [CodeLabel.block] at hlen

/-- A child in front of the blocks below it. -/
lemma Below.cons {l : Label} {x : Part} {xs : List Part} {as : List Line}
    (h : Below (x :: l) xs as) : Below l [x] (.label (.start (x :: l)) :: as) := by
  refine ⟨h.once_cons, fun c hc => ⟨x, List.mem_singleton.2 rfl, ?_⟩⟩
  rcases List.mem_cons.1 hc with hc | hc
  · cases hc
    exact List.suffix_rfl
  · obtain ⟨y, -, hy⟩ := h.under c hc
    exact (List.suffix_cons y _).trans hy

lemma Below.flatMap {l : Label} {ps : List (Part × Shape × Ctx)}
    {f : Part × Shape × Ctx → List (Label × Bool)}
    (h : ∀ p ∈ ps, Below l [p.1] (labelLines (f p))) (hnodup : (ps.map Prod.fst).Nodup) :
    Below l (ps.map Prod.fst) (labelLines (ps.flatMap f)) := by
  induction ps with
  | nil => exact .of_noLabels noLabels_nil
  | cons p ps ih =>
    rw [List.map_cons, List.nodup_cons] at hnodup
    rw [List.flatMap_cons, labelLines, List.map_append]
    refine (h p List.mem_cons_self).append
      (ih (fun q hq => h q (List.mem_cons_of_mem _ hq)) hnodup.2) fun x hx => ?_
    rw [List.mem_singleton.1 hx]
    exact hnodup.1

lemma blockIsas_below (sh : Shape) (l : Label) (ctx : Ctx) :
    ∃ xs, Below l xs (labelLines (blockIsas sh l ctx).tail) := by
  induction sh using Shape.parts_induction generalizing l ctx with
  | h sh ih =>
    refine ⟨(sh.parts ctx).map Prod.fst, ?_⟩
    rw [blockIsas_eq, List.tail_cons]
    refine Below.flatMap (fun p hp => ?_) (sh.parts_nodup ctx)
    obtain ⟨xs, h⟩ := ih ctx p hp (p.1 :: l) p.2.2
    rw [blockIsas_eq]
    rw [blockIsas_eq, List.tail_cons] at h
    exact h.cons

/-- No block is listed twice. -/
lemma blockIsas_nodup (sh : Shape) (l : Label) (ctx : Ctx) :
    ((blockIsas sh l ctx).map Prod.fst).Nodup := by
  obtain ⟨xs, hbelow⟩ := blockIsas_below sh l ctx
  have honce : Once Line.label? (labelLines (blockIsas sh l ctx)) := by
    rw [blockIsas_eq] at hbelow ⊢
    exact hbelow.once_cons
  have hnodup : ((blockIsas sh l ctx).map fun p => CodeLabel.start p.1).Nodup := by
    simpa [Once, labelLines, List.filterMap_map, Function.comp_def, Line.label?] using honce
  exact List.Nodup.of_map CodeLabel.start (by simpa [Function.comp_def] using hnodup)

/-- No block is listed with two instruction sets. -/
lemma blockIsas_functional {sh : Shape} {l k : Label} {ctx : Ctx} {a b : Bool}
    (ha : (k, a) ∈ blockIsas sh l ctx) (hb : (k, b) ∈ blockIsas sh l ctx) : a = b :=
  (Prod.mk.inj (List.inj_on_of_nodup_map (blockIsas_nodup sh l ctx) ha hb rfl)).2

/-! ## Runs -/

/-- The states a program reaches. -/
abbrev Reachable (P : List Line) : State → State → Prop :=
  Relation.ReflTransGen fun s t => step P s = some t

section Runs

variable {P : List Line} {s t u : State} {m : Bool}

lemma Runs.reachable (h : Runs P s t) : Reachable P s t := by
  have hle : Advance P ≤ fun s t => step P s = some t := fun _ _ hst => hst.1
  exact Relation.ReflTransGen.mono hle _ _ h

/-- A run that goes past the next instruction is in the instruction set of that instruction. -/
lemma isARM_of_lead (hrun : Reachable P s t) (hend : lead (P.drop t.pc) = none)
    (hlead : lead (P.drop s.pc) = some m) : s.isARM = m := by
  induction hrun using Relation.ReflTransGen.head_induction_on with
  | refl => rw [hend] at hlead; cases hlead
  | @head s u hstep _ ih =>
    unfold step at hstep
    split at hstep
    · cases hstep
    · next hx =>
      cases hstep
      rw [drop_of_getElem? hx] at hlead
      exact ih hlead
    · cases hstep
    · next d hd hx =>
      cases hstep
      rw [drop_of_getElem? hx] at hlead
      cases d with
      | ltorg => exact absurd rfl hd
      | _ => exact ih hlead
    · next hx =>
      rw [drop_of_getElem? hx] at hlead
      split at hstep
      · next heq => exact heq.symm.trans (Option.some.inj hlead)
      · cases hstep

/-- The step is a function, so a state reached from the start of a complete run lies on it. -/
lemma isARM_of_reachable (hrun : Reachable P s t) (hlast : P[t.pc]? = some (.label (.fin [])))
    (hlen : t.pc + 1 = P.length) (hsu : Reachable P s u) (hlead : lead (P.drop u.pc) = some m) :
    u.isARM = m := by
  have hafter : P.drop (t.pc + 1) = [] := by rw [hlen, List.drop_length]
  have hend : lead (P.drop t.pc) = none := by
    rw [drop_of_getElem? hlast, hafter]
    rfl
  have hunique : Relator.RightUnique fun s t => step P s = some t :=
    fun _ _ _ hb hc => Option.some.inj (hb.symm.trans hc)
  rcases Relation.ReflTransGen.total_of_right_unique hunique hrun hsu with htu | hut
  · -- behind the end label there is nothing
    rcases Relation.ReflTransGen.cases_head htu with rfl | ⟨v, hv, hvu⟩
    · rw [hend] at hlead
      cases hlead
    · obtain rfl : t.next = v := by
        simpa [step, hlast] using hv
      have hnone : P[t.next.pc]? = none := List.getElem?_eq_none hlen.ge
      rcases Relation.ReflTransGen.cases_head hvu with rfl | ⟨w, hw, -⟩
      · rw [show P.drop t.next.pc = [] from hafter] at hlead
        cases hlead
      · simp [step, hnone] at hw
  · exact isARM_of_lead hut hend hlead

end Runs

/-! ## The program -/

/-- Instruction sets agree in the text `P` of blocks with the instruction sets `isas`. -/
structure TextConsistent (P : List Line) (isas : List (Label × Bool)) : Prop where
  /-- Each instruction is assembled in the mode it was generated for. -/
  mode : ∀ m i isARM x, P[i]? = some (.inst isARM x) → modeAt m P i = isARM
  /-- The text of each block ends in the mode of the block. -/
  ends : ∀ m l isARM, (l, isARM) ∈ isas →
    ∃ i, P[i]? = some (.label (.fin l)) ∧ modeAt m P i = isARM
  /-- Each transfer fits its target. -/
  targets : ∀ isARM x, .inst isARM x ∈ P → x.Enters isas isARM
  /-- Each block has one instruction set. -/
  unique : ∀ l a b, (l, a) ∈ isas → (l, b) ∈ isas → a = b

/-- Instruction sets agree in every state that is reached from `s`. -/
structure RunConsistent (P : List Line) (isas : List (Label × Bool)) (s : State) : Prop where
  /-- Each instruction is executed in the instruction set it was generated for. -/
  executes : ∀ t, Reachable P s t →
    ∀ isARM x, P[t.pc]? = some (.inst isARM x) → t.isARM = isARM
  /-- Each block is entered in its instruction set. -/
  enters : ∀ t, Reachable P s t →
    ∀ l isARM, P[t.pc]? = some (.label (.start l)) → (l, isARM) ∈ isas → t.isARM = isARM

/-- **Instruction sets agree in the text of every tree, and in every run of a tree of at most eight
levels.**  The first part holds for any level. -/
theorem make_consistent (o : Shape.Options) (sh : Shape) (nest : ℤ) (isARM : Bool) :
    let made := (make sh [] [] ⟨nest, isARM⟩).1
    TextConsistent made.text made.isas ∧
      (nest ≤ 8 → sh.drawable o nest = true → ∀ regs coins noise,
        RunConsistent made.text made.isas
          (initialState made.text isARM regs coins noise)) := by
  intro made
  let ctx : Ctx := ⟨nest, isARM⟩
  have htext : made.text = blockText sh [] [] ctx := make_text sh [] [] ctx
  have hisas : made.isas = blockIsas sh [] ctx := make_isas sh [] [] ctx
  have hread : ∀ m, Reads made.isas m made.text isARM := by
    intro m
    rw [htext]
    refine printBlock_reads ?_ (lead_blockCode sh [] ctx) (blockCode_reads sh [] ctx ?_)
    · rw [hisas]
      exact self_mem_blockIsas sh [] ctx
    · rw [hisas]
      exact fun p hp => hp
  have hunique : ∀ l a b, (l, a) ∈ made.isas → (l, b) ∈ made.isas → a = b := by
    rw [hisas]
    exact fun l a b => blockIsas_functional
  refine ⟨⟨fun m i a x hi => ((hread m).inst hi).1, ?_, ?_, hunique⟩, ?_⟩
  · intro m l a hl
    have hmem : .label (.fin l) ∈ made.text := by
      rw [htext]
      exact fin_mem_blockText (hisas ▸ hl)
    obtain ⟨i, hi⟩ := List.mem_iff_getElem?.1 hmem
    exact ⟨i, hi, hunique l _ _ ((hread m).fin hi) hl⟩
  · intro a x hx
    obtain ⟨i, hi⟩ := List.mem_iff_getElem?.1 hx
    exact ((hread isARM).inst hi).2
  · intro hnest hdraw regs coins noise
    obtain ⟨t, hruns, hpc, -, -⟩ := root_runs hnest hdraw isARM regs coins noise
    have hlen : t.pc + 1 = made.text.length := by
      have hlast : made.text[made.text.length - 1]? = some (.label (.fin [])) := by
        rw [htext]
        simp [blockText, printBlock]
      have honce : Once Line.label? made.text := by
        rw [htext]
        exact (blockText_listing sh [] ctx).once
      have hindex : t.pc = made.text.length - 1 := honce.index_eq rfl hpc hlast
      have hpos : t.pc < made.text.length := (List.getElem?_eq_some_iff.1 hpc).1
      omega
    have hlead : ∀ u a, Reachable made.text _ u → lead (made.text.drop u.pc) = some a →
        u.isARM = a := fun u a hu => isARM_of_reachable (Runs.reachable hruns) hpc hlen hu
    refine ⟨fun u hu a x hx => hlead u a hu ?_, fun u hu l a hx hl => hlead u a hu ?_⟩
    · rw [drop_of_getElem? hx]
      rfl
    · obtain ⟨hmem, hstart⟩ := (hread isARM).start hx
      rw [hstart, hunique l _ _ hmem hl]

/-- An interworking call inside an interworking block. -/
theorem make_consistent_interwork :
    let br : BranchChoice := ⟨.eq, none, false⟩
    let bx : BxChoice := ⟨true, .ne, 15, 3, 14⟩
    let sh : Shape := .interwork true false bx bx bx br .basic
      (.callRet true false true ⟨true, 14, some .ne⟩ 3 4 br .basic .basic .basic) .basic
    let made := (make sh [] [] ⟨2, true⟩).1
    TextConsistent made.text made.isas ∧ RunConsistent made.text made.isas
      (initialState made.text true (fun _ => .word 7) (fun i => i % 2 = 0) fun _ r => .copy r) := by
  intro br bx sh made
  have h := make_consistent ⟨true, true⟩ sh 2 true
  exact ⟨h.1, h.2 (by decide) (by decide) _ _ _⟩

/-! ## Nine levels

At nine levels the return address of the outermost call and the counter of an innermost loop are
one word of `cfgdata`.  The loop adds its increment to the address. -/

/-- `n` steps. -/
def steps (P : List Line) : ℕ → State → Option State
  | 0, s => some s
  | n + 1, s => (step P s).bind (steps P n)

lemma reachable_of_steps {P : List Line} {n : ℕ} {s t : State} (h : steps P n s = some t) :
    Reachable P s t := by
  induction n generalizing s with
  | zero =>
    cases h
    exact .refl
  | succ n ih =>
    obtain ⟨u, hu, hut⟩ := Option.bind_eq_some_iff.1 h
    exact .head hu (ih hut)

/-- Loops inside each other. -/
def loops (lp : LoopChoice) : ℕ → Shape
  | 0 => .basic
  | n + 1 => .loop lp (loops lp n)

/-- The condition of eight levels cannot be dropped: with nine, a call in ARM state whose callee
contains a loop seven levels down that counts by ones comes back in Thumb state. -/
theorem return_in_thumb :
    let lp : LoopChoice :=
      ⟨1, 0, 0, 1, by decide, by decide, by decide, by decide, by decide, by decide⟩
    let br : BranchChoice := ⟨.eq, none, false⟩
    let sh : Shape :=
      .callRet false false false ⟨false, 0, none⟩ 3 4 br .basic (loops lp 8) .basic
    let P := (make sh [] [] ⟨9, true⟩).1.text
    sh.drawable ⟨true, true⟩ 9 = true ∧
      ∃ s, Reachable P (initialState P true (fun _ => .word 0) (fun _ => false)
          fun _ r => .copy r) s ∧
        P[s.pc]? = some (.inst true (.b none false [.c3])) ∧ s.isARM = false := by
  intro lp br sh P
  refine ⟨by decide, ?_⟩
  have hrun : (steps P 107 (initialState P true (fun _ => .word 0) (fun _ => false)
      fun _ r => .copy r)).map (fun s => (P[s.pc]?, s.isARM)) =
      some (some (.inst true (.b none false [.c3])), false) := by
    decide +kernel
  obtain ⟨s, hs, heq⟩ := Option.map_eq_some_iff.1 hrun
  exact ⟨s, reachable_of_steps hs, congrArg Prod.fst heq, congrArg Prod.snd heq⟩

end Rit.Art
