import Mathlib.Data.List.GetD
import Rit.Art.CodeBlocks

/-!
# The define/join/use discipline of the phases

A dependency is spread over consecutive blocks: a block that defines is followed by one that joins
or uses, a block that joins by one that uses, and nothing else joins or uses.  `disciplinedFrom`
states this along one path through the block list.

Block by block `nextFSM` keeps the discipline, so it holds on every list without a pair
(`disciplinedFrom_of_noPair`).  At a pair the walk advances the phase once for the component and
once more for the component's first block.  The phase in between is given to no block, and when it
is a defining one the component opens with a block that joins or uses what nothing defined.  So the
discipline holds for all draws exactly on the lists without a pair.
-/

namespace Rit.Art

/-! ## Paths and their discipline -/

namespace Blocks

variable {α : Type*}

/-- The ways through a list that take one component of every pair. -/
def paths : Blocks α → List (List α)
  | nil => [[]]
  | basic a rest => rest.paths.map (a :: ·)
  | pair s t rest => (s.paths ++ t.paths).flatMap fun p => rest.paths.map (p ++ ·)

/-- No element of the list is a pair. -/
def noPair : Blocks α → Bool
  | nil => true
  | basic _ rest => rest.noPair
  | pair .. => false

/-- The first element is a basic block. -/
def startsBasic : Blocks α → Bool
  | basic .. => true
  | _ => false

/-- The first component of every top-level pair starts with a basic block. -/
def opensBasic : Blocks α → Bool
  | nil => true
  | basic _ rest => rest.opensBasic
  | pair s _ rest => s.startsBasic && rest.opensBasic

lemma paths_ne_nil (bs : Blocks α) : bs.paths ≠ [] := by
  induction bs with
  | nil => exact List.cons_ne_nil _ _
  | basic a rest ih => simpa [paths] using ih
  | pair s t rest ihs iht ih =>
    obtain ⟨p, hp⟩ := List.exists_mem_of_ne_nil _ ihs
    obtain ⟨q, hq⟩ := List.exists_mem_of_ne_nil _ ih
    refine List.ne_nil_of_mem (a := p ++ q) (List.mem_flatMap.2 ⟨p, ?_, List.mem_map_of_mem hq⟩)
    exact List.mem_append_left _ hp

lemma startsBasic_append {bs : Blocks α} (h : bs.startsBasic = true) (cs : Blocks α) :
    (bs ++ cs).startsBasic = true := by
  cases bs with
  | nil => cases h
  | basic a rest => rfl
  | pair s t rest => cases h

lemma opensBasic_append {bs cs : Blocks α} (hbs : bs.opensBasic = true)
    (hcs : cs.opensBasic = true) : (bs ++ cs).opensBasic = true := by
  induction bs with
  | nil => exact hcs
  | basic a rest ih => exact ih hbs
  | pair s t rest _ _ ih =>
    obtain ⟨hs, hrest⟩ := Bool.and_eq_true_iff.1 hbs
    exact Bool.and_eq_true_iff.2 ⟨hs, ih hrest⟩

end Blocks

/-- What has to stand directly before a block of this phase. -/
def FSMType.needs : FSMType → Option (List FSMType)
  | .flagDuU => some [.flagDuD, .flagDuJ]
  | .flagDuJ => some [.flagDuD]
  | .regAllocU => some [.regAllocD, .regAllocJ]
  | .regAllocJ => some [.regAllocD]
  | _ => none

/-- What has to stand directly after a block of this phase, if anything does. -/
def FSMType.requires : FSMType → Option (List FSMType)
  | .flagDuD => some [.flagDuJ, .flagDuU]
  | .flagDuJ => some [.flagDuU]
  | .regAllocD => some [.regAllocJ, .regAllocU]
  | .regAllocJ => some [.regAllocU]
  | _ => none

/-- A block of phase `f` may follow `prev`, where `none` is the start of the path. -/
def mayFollow (prev : Option FSMType) (f : FSMType) : Bool :=
  (f.needs.all fun l => prev.any (l.contains ·)) &&
    (prev.bind FSMType.requires).all (List.contains · f)

/-- The discipline along a path that continues after `prev`. -/
def disciplinedFrom : Option FSMType → List FSMType → Bool
  | _, [] => true
  | prev, f :: path => mayFollow prev f && disciplinedFrom (some f) path

/-! ## Lists without a pair -/

lemma choice_mem {α : Type*} (a : α) (as : List α) (r : Draws) : (choice a as r).1 ∈ a :: as := by
  have hlt : r 0 % (a :: as).length < (a :: as).length := Nat.mod_lt _ (Nat.succ_pos _)
  have heq : (choice a as r).1 = (a :: as)[r 0 % (a :: as).length] := List.getD_eq_getElem _ _ hlt
  exact heq ▸ List.getElem_mem _

lemma mayFollow_anyPhase {prev : Option FSMType} (h : prev.bind FSMType.requires = none)
    (r : Draws) : mayFollow prev (anyPhase r).1 = true := by
  have hmem := choice_mem FSMType.random [.sameKind, .flagDuD, .regAllocD] r
  have hneeds : (anyPhase r).1.needs = none := by
    simp only [List.mem_cons, List.not_mem_nil, or_false] at hmem
    rcases hmem with h | h | h | h <;> rw [anyPhase, h] <;> rfl
  simp [mayFollow, hneeds, h]

/-- One step of the automaton respects the discipline. -/
lemma mayFollow_nextFSM (prev : Option FSMType) (r : Draws) :
    mayFollow prev (nextFSM prev r).1 = true := by
  cases prev with
  | none => exact mayFollow_anyPhase rfl r
  | some f =>
    cases f with
    | flagDuD =>
      have hmem := choice_mem FSMType.flagDuJ [.flagDuU] r
      simp only [List.mem_cons, List.not_mem_nil, or_false] at hmem
      rcases hmem with h | h <;> rw [nextFSM, h] <;> rfl
    | regAllocD =>
      have hmem := choice_mem FSMType.regAllocJ [.regAllocU] r
      simp only [List.mem_cons, List.not_mem_nil, or_false] at hmem
      rcases hmem with h | h <;> rw [nextFSM, h] <;> rfl
    | flagDuJ => rfl
    | regAllocJ => rfl
    | _ => exact mayFollow_anyPhase rfl r

lemma disciplinedFrom_of_noPair {bs : Blocks BasicBlock} (hbs : bs.noPair = true)
    (prev : Option FSMType) (isa : Bool) (r : Draws) {p : List BlockCall}
    (hp : p ∈ (genCodeBlocks bs prev isa r).2.1.paths) :
    disciplinedFrom prev (p.map BlockCall.fsm) = true := by
  induction bs generalizing prev isa r p with
  | nil =>
    obtain rfl := List.mem_singleton.1 hp
    rfl
  | basic b rest ih =>
    obtain ⟨q, hq, rfl⟩ := List.mem_map.1 hp
    exact Bool.and_eq_true_iff.2 ⟨mayFollow_nextFSM prev r, ih hbs _ _ _ hq⟩
  | pair s t rest => cases hbs

/-! ## Lists with a pair -/

/-- Draws that start with `x`. -/
def Draws.cons (x : ℕ) (r : Draws) : Draws
  | 0 => x
  | i + 1 => r i

/-- Before the pair every block is given the random phase, at the pair the defining phase of the
flags is drawn, and the component opens with a joining block. -/
lemma exists_undisciplined {bs : Blocks BasicBlock} (hopens : bs.opensBasic = true)
    (hpair : bs.noPair = false) {prev : Option FSMType}
    (hprev : prev = none ∨ prev = some .random) (isa : Bool) :
    ∃ r, ∃ p ∈ (genCodeBlocks bs prev isa r).2.1.paths,
      disciplinedFrom prev (p.map BlockCall.fsm) = false := by
  induction bs generalizing prev isa with
  | nil => cases hpair
  | basic b rest ih =>
    obtain ⟨r, p, hp, hdis⟩ := ih hopens hpair (.inr rfl) b.isARM
    have hnext : nextFSM prev (Draws.cons 0 r) = (.random, r) := by
      rcases hprev with rfl | rfl <;> rfl
    refine ⟨Draws.cons 0 r, ⟨b, .random, b.isARM⟩ :: p, ?_, ?_⟩
    · simp only [genCodeBlocks, hnext]
      exact List.mem_map_of_mem hp
    · exact Bool.and_eq_false_iff.2 (.inr hdis)
  | pair s t rest =>
    obtain ⟨hs, -⟩ := Bool.and_eq_true_iff.1 hopens
    cases s with
    | nil => cases hs
    | pair => cases hs
    | basic b s =>
      have hnext : nextFSM prev (Draws.cons 2 (Draws.cons 0 fun _ => 0)) =
          (.flagDuD, Draws.cons 0 fun _ => 0) := by
        rcases hprev with rfl | rfl <;> rfl
      have hjoin : nextFSM (some .flagDuD) (Draws.cons 0 fun _ => 0) = (.flagDuJ, fun _ => 0) := rfl
      let inner := genCodeBlocks s (some .flagDuJ) b.isARM fun _ => 0
      obtain ⟨q, hq⟩ := List.exists_mem_of_ne_nil _ inner.2.1.paths_ne_nil
      have hrest : ∀ fsm isa r, ∃ p, p ∈ (genCodeBlocks rest fsm isa r).2.1.paths :=
        fun fsm isa r => List.exists_mem_of_ne_nil _ (Blocks.paths_ne_nil _)
      refine ⟨Draws.cons 2 (Draws.cons 0 fun _ => 0), ?_⟩
      simp only [genCodeBlocks, hnext, hjoin]
      obtain ⟨p, hp⟩ := hrest _ _ _
      refine ⟨⟨b, .flagDuJ, b.isARM⟩ :: q ++ p, List.mem_flatMap.2 ⟨⟨b, .flagDuJ, b.isARM⟩ :: q, ?_,
        List.mem_map_of_mem hp⟩, ?_⟩
      · exact List.mem_append_left _ (List.mem_map_of_mem hq)
      · refine Bool.and_eq_false_iff.2 (.inl ?_)
        rcases hprev with rfl | rfl <;> rfl

/-! ## Lists of `makeRandomBlock` -/

/-- Every class returns a list that starts with a basic block, and so does every component of a
pair in it. -/
lemma make_blocks_basic (sh : Shape) (l : Label) (init : List Line) (ctx : Ctx) :
    (make sh l init ctx).1.blocks.startsBasic = true ∧
      (make sh l init ctx).1.blocks.opensBasic = true := by
  have happ : ∀ {bs cs : Blocks BasicBlock}, bs.startsBasic = true ∧ bs.opensBasic = true →
      cs.opensBasic = true → (bs ++ cs).startsBasic = true ∧ (bs ++ cs).opensBasic = true :=
    fun hbs hcs => ⟨Blocks.startsBasic_append hbs.1 _, Blocks.opensBasic_append hbs.2 hcs⟩
  induction sh generalizing l init ctx with
  | basic => exact ⟨rfl, rfl⟩
  | byPass br b1 b2 b3 ih1 ih2 ih3 => exact happ (happ (ih1 ..) (ih2 ..).2) (ih3 ..).2
  | hammock br3 br4 h1 h2 h3 h4 ih1 ih2 ih3 ih4 =>
    exact happ (ih1 ..) (Bool.and_eq_true_iff.2 ⟨(ih2 ..).1, (ih4 ..).2⟩)
  | loop lp l1 ih => exact ih ..
  | irLoop lp br ir1 ir2 ir3 ih1 ih2 ih3 => exact happ (happ (ih1 ..) (ih2 ..).2) (ih3 ..).2
  | interwork condBx iwFollowed bx1 bx2 bx3 br iw1 iw2 iw3 ih1 ih2 ih3 =>
    cases iwFollowed
    · exact happ (happ (ih1 ..) (ih2 ..).2) (ih3 ..).2
    · exact happ (happ (ih2 ..) (ih1 ..).2) (ih3 ..).2
  | callRet iwcall calleeFollowed beginWithCall call pre post br c1 c2 c3 ih1 ih2 ih3 =>
    cases calleeFollowed
    · exact happ (happ (ih1 ..) (ih2 ..).2) (ih3 ..).2
    · exact happ (happ (ih2 ..) (ih1 ..).2) (ih3 ..).2
  | exclusive e1 e2 ih1 ih2 => exact happ (ih1 ..) (ih2 ..).2
  | aluWritePC p1 p2 ih1 ih2 => exact happ (ih1 ..) (ih2 ..).2

/-- **The discipline holds for all draws exactly on the lists without a pair**, that is, for the
trees in which no hammock was drawn. -/
theorem genCodeBlocks_disciplined_iff (sh : Shape) (l : Label) (init : List Line) (ctx : Ctx)
    (isa : Bool) :
    (∀ r, ∀ p ∈ (genCodeBlocks (make sh l init ctx).1.blocks none isa r).2.1.paths,
        disciplinedFrom none (p.map BlockCall.fsm) = true) ↔
      (make sh l init ctx).1.blocks.noPair = true := by
  constructor
  · intro hall
    by_contra hpair
    obtain ⟨r, p, hp, hdis⟩ := exists_undisciplined (make_blocks_basic sh l init ctx).2
      (Bool.eq_false_iff.2 hpair) (.inl rfl) isa
    exact Bool.false_ne_true (hdis.symm.trans (hall r p hp))
  · intro hpair r p hp
    exact disciplinedFrom_of_noPair hpair none isa r hp

/-- A hammock of plain blocks: the block before the pair is random, and the first component is a
joining block. -/
theorem genCodeBlocks_hammock_undisciplined :
    let br : BranchChoice := ⟨.eq, none, false⟩
    let bs := (make (.hammock br br .basic .basic .basic .basic) [] [] ⟨1, true⟩).1.blocks
    ∃ p ∈ (genCodeBlocks bs none true fun i => if i = 1 then 2 else 0).2.1.paths,
      p.map BlockCall.fsm = [.random, .flagDuJ, .flagDuU] ∧
        disciplinedFrom none (p.map BlockCall.fsm) = false := by
  decide

end Rit.Art
