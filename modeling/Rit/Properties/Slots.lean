import Mathlib.Data.List.Basic
import Rit.Art.RandomBlock

/-!
# The words of `cfgdata`

A call keeps its return address, and a loop its counter, in a word of the 64-byte area `cfgdata`
whose offset is computed from the nesting level.  The level falls by one from a block to its
children, so nested blocks use different words of each half as long as the lower half, of eight
words, is not overrun.

Nothing bounds the option that gives the first level.  `savedWords_separate_iff` shows that eight
is the bound: the words of every chain of nested blocks are disjoint and inside the area exactly
for the options up to eight.
-/

namespace Rit.Art

/-- The size of `cfgdata` in bytes. -/
def cfgdataSize : ℤ := 64

/-- The offsets in `cfgdata` that a piece of code addresses. -/
def cfgOffsets (ls : List Line) : List ℤ :=
  ls.filterMap fun
    | .inst _ (.ldrCfg _ off) => some off
    | _ => none

/-- The word in which a block drawn at `nest` keeps its own counter or return address: what its
loop tail increments, and what the code after its callee returns through. -/
def savedWord (nest : ℤ) : Shape → List ℤ
  | .loop lp _ => cfgOffsets (genLoop true ⟨nest - 1, true⟩ [] lp)
  | .irLoop lp .. => cfgOffsets (genLoop true ⟨nest - 1, true⟩ [] lp)
  | .callRet _ _ _ _ _ post .. => cfgOffsets (getPostCalleeInsts ⟨nest - 1, true⟩ post)
  | _ => []

/-- The words in use along a chain of nested blocks that starts at a block drawn at `nest`. -/
inductive SavedWords : ℤ → Shape → List ℤ → Prop
  | here (nest : ℤ) (sh : Shape) : SavedWords nest sh (savedWord nest sh)
  | child {nest : ℤ} {sh c : Shape} {ws : List ℤ} (hc : c ∈ sh.children)
      (h : SavedWords (nest - 1) c ws) : SavedWords nest sh (savedWord nest sh ++ ws)

/-- The four-byte words at these offsets do not overlap and lie inside `cfgdata`. -/
def Separate (ws : List ℤ) : Prop :=
  ws.Pairwise (fun a b => a + 4 ≤ b ∨ b + 4 ≤ a) ∧ ∀ a ∈ ws, 0 ≤ a ∧ a + 4 ≤ cfgdataSize

/-! ## Options up to eight -/

/-- A word of a level below `nest`: the return address or the counter of some level. -/
def WordBelow (nest a : ℤ) : Prop :=
  ∃ n, 0 ≤ n ∧ n < nest ∧ (a = (⟨n, true⟩ : Ctx).retSlot ∨ a = (⟨n, true⟩ : Ctx).loopSlot)

lemma WordBelow.mono {m n a : ℤ} (hmn : m ≤ n) (h : WordBelow m a) : WordBelow n a := by
  obtain ⟨k, hk0, hk, ha⟩ := h
  exact ⟨k, hk0, by omega, ha⟩

/-- A block has at most one word of its own, that of the level below it. -/
lemma savedWord_eq (nest : ℤ) (sh : Shape) :
    savedWord nest sh = [] ∨ sh ≠ .basic ∧ ∃ a, savedWord nest sh = [a] ∧
      (a = (⟨nest - 1, true⟩ : Ctx).retSlot ∨ a = (⟨nest - 1, true⟩ : Ctx).loopSlot) := by
  cases sh with
  | loop lp l1 => exact .inr ⟨nofun, _, rfl, .inr rfl⟩
  | irLoop lp br ir1 ir2 ir3 => exact .inr ⟨nofun, _, rfl, .inr rfl⟩
  | callRet iwcall followed first call pre post br c1 c2 c3 =>
    exact .inr ⟨nofun, _, rfl, .inl rfl⟩
  | _ => exact .inl rfl

lemma WordBelow.bounds {nest a : ℤ} (hnest : nest ≤ 8) (h : WordBelow nest a) :
    0 ≤ a ∧ a + 4 ≤ cfgdataSize := by
  obtain ⟨n, h0, hn, rfl | rfl⟩ := h <;>
    simp only [Ctx.retSlot, Ctx.loopSlot, cfgdataSize] <;> omega

/-- A word of one level is apart from the words of the levels below it. -/
lemma WordBelow.apart {nest a b : ℤ} (hnest : nest ≤ 8) (hpos : 0 < nest)
    (ha : a = (⟨nest - 1, true⟩ : Ctx).retSlot ∨ a = (⟨nest - 1, true⟩ : Ctx).loopSlot)
    (hb : WordBelow (nest - 1) b) : a + 4 ≤ b ∨ b + 4 ≤ a := by
  obtain ⟨n, h0, hn, hb⟩ := hb
  rcases ha with rfl | rfl <;> rcases hb with rfl | rfl <;>
    simp only [Ctx.retSlot, Ctx.loopSlot] <;> omega

/-- The words along a chain belong to the levels below its start and are apart. -/
lemma SavedWords.wordBelow {o : Shape.Options} {nest : ℤ} (hnest : nest ≤ 8) {sh : Shape}
    {ws : List ℤ} (hsh : sh.drawable o nest = true) (h : SavedWords nest sh ws) :
    (∀ a ∈ ws, WordBelow nest a) ∧ ws.Pairwise (fun a b => a + 4 ≤ b ∨ b + 4 ≤ a) := by
  induction h with
  | here nest sh =>
    rcases savedWord_eq nest sh with h | ⟨hne, a, h, ha⟩
    · rw [h]
      exact ⟨nofun, .nil⟩
    · have hpos := Shape.drawable_pos hsh hne
      rw [h]
      refine ⟨fun b hb => ?_, List.pairwise_singleton _ _⟩
      obtain rfl := List.mem_singleton.1 hb
      exact ⟨nest - 1, by omega, by omega, ha⟩
  | @child nest sh c ws hc h ih =>
    have hchild := (Shape.drawable_iff.1 hsh).2 c hc
    obtain ⟨hwords, hapart⟩ := ih (by omega) hchild
    have hwords' : ∀ a ∈ ws, WordBelow nest a := fun a ha => (hwords a ha).mono (by omega)
    rcases savedWord_eq nest sh with h | ⟨hne, a, h, ha⟩
    · rw [h]
      exact ⟨hwords', hapart⟩
    · have hpos := Shape.drawable_pos hsh hne
      rw [h]
      refine ⟨fun b hb => ?_, List.pairwise_cons.2 ⟨fun b hb => ?_, hapart⟩⟩
      · rcases List.mem_cons.1 hb with rfl | hb
        · exact ⟨nest - 1, by omega, by omega, ha⟩
        · exact hwords' b hb
      · exact (hwords b hb).apart hnest hpos ha

/-! ## The bound -/

/-- **The saved words of every tree are separate exactly for the options up to eight.**  The
option is any integer; from nine on a loop at the first level already has its counter outside the
area. -/
theorem savedWords_separate_iff (nest : ℤ) :
    (∀ (o : Shape.Options) (sh : Shape), sh.drawable o nest = true →
        ∀ ws, SavedWords nest sh ws → Separate ws) ↔ nest ≤ 8 := by
  constructor
  · intro hall
    by_contra hnest
    let lp : LoopChoice :=
      ⟨1, 0, 0, 1, by decide, by decide, by decide, by decide, by decide, by decide⟩
    have hdraw : (Shape.loop lp .basic).drawable ⟨true, true⟩ nest = true := by
      refine Shape.drawable_iff.2 ⟨decide_eq_true (by omega), fun c hc => ?_⟩
      obtain rfl := List.mem_singleton.1 hc
      exact Bool.or_true _
    have hin := (hall _ _ hdraw _ (.here nest _)).2 _ (List.mem_singleton.2 rfl)
    simp only [Ctx.loopSlot, cfgdataSize] at hin
    omega
  · intro hnest o sh hsh ws hws
    obtain ⟨hwords, hapart⟩ := hws.wordBelow hnest hsh
    exact ⟨hapart, fun a ha => (hwords a ha).bounds hnest⟩

/-- With the option nine, a loop at the first level counts in the word behind `cfgdata`, and a
call at the first level keeps its return address in the counter of the innermost level. -/
theorem savedWords_nine :
    (∃ sh : Shape, sh.drawable ⟨true, true⟩ 9 = true ∧ SavedWords 9 sh [64]) ∧
      ∃ sh : Shape, sh.drawable ⟨true, true⟩ 9 = true ∧ SavedWords 9 sh [32, 32] := by
  let lp : LoopChoice :=
    ⟨1, 0, 0, 1, by decide, by decide, by decide, by decide, by decide, by decide⟩
  let br : BranchChoice := ⟨.eq, none, false⟩
  -- a level that has no word of its own
  let skip (sh : Shape) : Shape := .byPass br sh .basic .basic
  have hskip : ∀ {nest : ℤ} {sh : Shape} {ws : List ℤ}, SavedWords (nest - 1) sh ws →
      SavedWords nest (skip sh) ws := fun h => .child (.head _) h
  let deep := skip (skip (skip (skip (skip (skip (skip (.loop lp .basic)))))))
  refine ⟨⟨.loop lp .basic, by decide, .here 9 _⟩,
    .callRet false false false ⟨false, 0, none⟩ 0 0 br .basic deep .basic, by decide, ?_⟩
  exact @SavedWords.child 9 _ _ [32] (.tail _ (.head _))
    (hskip (hskip (hskip (hskip (hskip (hskip (hskip (.here _ _))))))))

end Rit.Art
