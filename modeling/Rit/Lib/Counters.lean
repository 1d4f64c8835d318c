import Mathlib.Algebra.BigOperators.Group.List.Basic
import Mathlib.Algebra.Ring.Nat
import Rit.Lib.InPlace

/-!
# Counters in the lines of a file

Some lines of a file are counters: a few keys, each with a colon behind it, and then a count.  A
count is raised by finding the line and writing its keys and the new number over it.  Nothing keeps
the number inside of its line.

`Slot` is what a line should be: the line itself and the counts that were added to it.  As long as
every sum fits into the count it replaces (`AllFit`), the file is what the slots say (`Track`).  The
two ways to leave this are kept apart.

* `Off`: the lines are still there, but a count is read as more than its sum, or not at all, because
  something of the old count is left behind the new one.
* `Broken`: a number has swallowed the newline of its line.

Neither can be left again (`Bad`): a count that is too large stays too large, and the digit in the
place of the newline stays a digit, because numbers do not become shorter.
-/

namespace Counters

open PyStr PyInt InPlace

/-! ## Counters -/

/-- The line of a counter: the keys, the text of the count, and its value. -/
structure Cell where
  keys : List Str
  cnt : Str
  n : ℕ
  plain : ∀ k ∈ keys, ':' ∉ k ∧ '\n' ∉ k
  noColon : ':' ∉ cnt
  value : int 10 cnt = some (n : ℤ)

/-- The keys, each with its colon. -/
def joinKeys (ks : List Str) : Str := ks.flatMap fun k => k ++ [':']

/-- What stands before the count. -/
def Cell.pre (c : Cell) : Str := joinKeys c.keys

/-- A line of the file. -/
inductive Row
  | other (text : Str)
  | cell (c : Cell)

def Row.text : Row → Str
  | other t => t
  | cell c => c.pre ++ c.cnt

/-- A line, and the counts that were added to it. -/
structure Slot where
  line : Row
  hits : List ℕ

/-- The text of the count behind these. -/
def Cell.put (c : Cell) (hits : List ℕ) : Str :=
  if hits = [] then c.cnt else InPlace.put (c.n + hits.sum) c.cnt

def Slot.text : Slot → Str
  | ⟨.other t, _⟩ => t
  | ⟨.cell c, hits⟩ => c.pre ++ c.put hits

section Keys

variable {ks : List Str} {f : Str} {more : List Str}

lemma newline_notMem_pre (c : Cell) : '\n' ∉ c.pre := by
  intro h
  obtain ⟨k, hk, h⟩ := List.mem_flatMap.1 h
  rcases List.mem_append.1 h with h | h
  · exact (c.plain k hk).2 h
  · cases List.mem_singleton.1 h

lemma splitOn_joinKeys (h : ∀ k ∈ ks, ':' ∉ k) (s : Str) :
    (joinKeys ks ++ s).splitOn ':' = ks ++ s.splitOn ':' := by
  induction ks with
  | nil => rfl
  | cons k ks ih =>
    have hk := h k List.mem_cons_self
    rw [joinKeys, List.flatMap_cons, List.append_assoc, List.append_assoc, List.singleton_append,
      List.splitOn_append_cons_self_of_not_mem hk]
    exact congrArg (k :: ·) (ih fun k' hk' => h k' (List.mem_cons_of_mem k hk'))

lemma Cell.splitOn_pre (c : Cell) (s : Str) : (c.pre ++ s).splitOn ':' = c.keys ++ s.splitOn ':' :=
  splitOn_joinKeys (fun k hk => (c.plain k hk).1) s

lemma intercalate_append_cons (ks : List Str) (f : Str) (more : List Str) :
    [':'].intercalate (ks ++ f :: more) = joinKeys ks ++ [':'].intercalate (f :: more) := by
  induction ks with
  | nil => rfl
  | cons k ks ih =>
    have hne : ks ++ f :: more ≠ [] := by simp
    rw [List.cons_append, List.intercalate_cons_of_ne_nil hne, ih]
    simp [joinKeys]

lemma exists_intercalate_cons (f : Str) (more : List Str) :
    ∃ tail, [':'].intercalate (f :: more) = f ++ tail := by
  cases more with
  | nil => exact ⟨[], by simp⟩
  | cons g more =>
    refine ⟨[':'] ++ [':'].intercalate (g :: more), ?_⟩
    rw [List.intercalate_cons_of_ne_nil (by simp), List.append_assoc]

/-- Cutting a text that starts without a colon. -/
lemma splitOn_append_of_notMem {x : Str} (hx : ':' ∉ x) (s : Str) :
    ∃ z more, (x ++ s).splitOn ':' = (x ++ z) :: more := by
  by_cases hs : ':' ∈ s
  · obtain ⟨z, t, rfl, hz⟩ := List.eq_append_cons_of_mem hs
    have hxz : ':' ∉ x ++ z := fun h => (List.mem_append.1 h).elim hx hz
    exact ⟨z, t.splitOn ':', by
      rw [← List.append_assoc, List.splitOn_append_cons_self_of_not_mem hxz]⟩
  · have hxs : ':' ∉ x ++ s := fun h => (List.mem_append.1 h).elim hx hs
    exact ⟨s, [], List.splitOn_eq_singleton hxs⟩

lemma colon_notMem_dec (n : ℕ) : ':' ∉ dec n := by
  intro h
  have := isDigit_of_mem_dec _ h
  cases this

lemma newline_notMem_dec (n : ℕ) : '\n' ∉ dec n := by
  intro h
  have := isDigit_of_mem_dec _ h
  cases this

end Keys

/-! ## The lines that are there -/

/-- The text of a line may be another count behind its keys. -/
def Shaped : Row → Str → Prop
  | .other t, cur => cur = t
  | .cell c, cur => ∃ u, cur = c.pre ++ u ∧ ':' ∉ u ∧ ∀ x, int 10 u = some x → 0 ≤ x

/-- A line in the place of another one.  The last line need not be ended. -/
structure At (last : Bool) (l : Row) (cur : Str) : Prop where
  shape : Shaped l cur
  ended : last = false → Ended cur ∧ cur.length = l.text.length
  last : last = true → cur ≠ [] ∧ (Ended cur ∨ '\n' ∉ cur)

/-- All the lines are there. -/
def Intact : List Row → List Str → Prop
  | [], curs => curs = []
  | l :: ls, curs => ∃ cur rest, curs = cur :: rest ∧ At ls.isEmpty l cur ∧ Intact ls rest

section Lines

variable {l : Row} {ls lp lq : List Row} {cur : Str} {curs cp : List Str}

lemma intact_append_cons : Intact (lp ++ l :: lq) curs ↔ ∃ cp cur cq, curs = cp ++ cur :: cq ∧
    List.Forall₂ (At false) lp cp ∧ At lq.isEmpty l cur ∧ Intact lq cq := by
  induction lp generalizing curs with
  | nil =>
    constructor
    · rintro ⟨cur, rest, rfl, hat, hrest⟩
      exact ⟨[], cur, rest, rfl, .nil, hat, hrest⟩
    · rintro ⟨cp, cur, cq, rfl, hp, hat, hq⟩
      cases hp
      exact ⟨cur, cq, rfl, hat, hq⟩
  | cons a lp ih =>
    have hne : (lp ++ l :: lq).isEmpty = false := by simp
    constructor
    · rintro ⟨c, rest, rfl, hat, hrest⟩
      obtain ⟨cp, cur, cq, rfl, hp, hl, hq⟩ := ih.1 hrest
      have hat : At (lp ++ l :: lq).isEmpty a c := hat
      rw [hne] at hat
      exact ⟨c :: cp, cur, cq, rfl, .cons hat hp, hl, hq⟩
    · rintro ⟨cp, cur, cq, rfl, hp, hl, hq⟩
      cases hp with
      | cons hat hp =>
        refine ⟨_, _, rfl, ?_, ih.2 ⟨_, cur, cq, rfl, hp, hl, hq⟩⟩
        change At (lp ++ l :: lq).isEmpty a _
        rwa [hne]

lemma ended_of_forall₂ (h : List.Forall₂ (At false) lp cp) : ∀ a ∈ cp, Ended a := by
  induction h with
  | nil => simp
  | cons hat _ ih => exact List.forall_mem_cons.2 ⟨(hat.ended rfl).1, ih⟩

lemma shape_of_intact (h : Intact ls curs) : List.Forall₂ Shaped ls curs := by
  induction ls generalizing curs with
  | nil =>
    rw [show curs = [] from h]
    exact .nil
  | cons l ls ih =>
    obtain ⟨cur, rest, rfl, hat, hrest⟩ := h
    exact .cons hat.shape (ih hrest)

lemma isLines_of_intact (h : Intact ls curs) : IsLines curs := by
  induction ls generalizing curs with
  | nil =>
    rw [show curs = [] from h]
    trivial
  | cons l ls ih =>
    obtain ⟨cur, rest, rfl, hat, hrest⟩ := h
    refine ⟨?_, ih hrest⟩
    cases ls with
    | nil =>
      rw [show rest = [] from hrest]
      obtain ⟨hne, hend⟩ := hat.last rfl
      exact hend.imp_right fun h => ⟨rfl, hne, h⟩
    | cons => exact .inl (hat.ended rfl).1

lemma intact_text (h : IsLines (ls.map Row.text)) : Intact ls (ls.map Row.text) := by
  induction ls with
  | nil => rfl
  | cons l ls ih =>
    obtain ⟨hl, hrest⟩ := h
    refine ⟨l.text, ls.map Row.text, rfl, ⟨?_, fun hlast => ?_, fun hlast => ?_⟩, ih hrest⟩
    · cases l with
      | other t => rfl
      | cell c =>
        refine ⟨c.cnt, rfl, c.noColon, fun x hx => ?_⟩
        rw [c.value] at hx
        cases hx
        exact Int.natCast_nonneg c.n
    · refine ⟨hl.resolve_right fun h => ?_, rfl⟩
      rw [List.map_eq_nil_iff.1 h.1] at hlast
      cases hlast
    · rcases hl with hend | ⟨-, hne, hopen⟩
      · exact ⟨hend.ne_nil, .inl hend⟩
      · exact ⟨hne, .inr hopen⟩

end Lines

/-! ## Raising a count -/

/-- The text with a new number behind the keys of one of its lines. -/
lemma overwrite_cell (cp cq : List Str) (c : Cell) (u : Str) (y : ℕ) :
    overwrite (cp ++ (c.pre ++ u) :: cq).flatten cp.flatten.length (c.pre ++ dec y) =
      cp.flatten ++ (c.pre ++ (dec y ++ (u ++ cq.flatten).drop (dec y).length)) := by
  rw [List.flatten_append, List.flatten_cons, overwrite_append, List.append_assoc c.pre u,
    List.length_append, ← List.drop_drop, List.drop_left]
  simp

/-- A number that stays in its line. -/
lemma flatten_put (cp cq : List Str) (c : Cell) {u : Str} {y : ℕ}
    (h : (dec y).length ≤ u.length ∨ cq = []) :
    cp.flatten ++ (c.pre ++ (dec y ++ (u ++ cq.flatten).drop (dec y).length)) =
      (cp ++ (c.pre ++ InPlace.put y u) :: cq).flatten := by
  have hdrop : (u ++ cq.flatten).drop (dec y).length = u.drop (dec y).length ++ cq.flatten := by
    rcases h with h | rfl
    · rw [List.drop_append_of_le_length h]
    · simp
  rw [hdrop, List.flatten_append, List.flatten_cons, InPlace.put]
  simp

section Put

variable {c : Cell} {u : Str} {y : ℕ}

/-- The end of a count behind the keys. -/
lemma ended_pre_append : Ended (c.pre ++ u) ↔ Ended u := by
  constructor
  · rintro ⟨b, hb, heq⟩
    rcases List.append_eq_append_iff.1 heq with ⟨v, rfl, rfl⟩ | ⟨v, hpre, hv⟩
    · exact ⟨v, fun h => hb (List.mem_append_right _ h), rfl⟩
    · -- the newline would belong to the keys
      cases u with
      | nil =>
        rw [List.append_nil] at hv
        exact absurd (hpre ▸ List.mem_append_right _ (hv ▸ List.mem_singleton.2 rfl))
          (newline_notMem_pre c)
      | cons a u =>
        have hv' : v = [] ∧ a :: u = ['\n'] := by
          cases v with
          | nil => exact ⟨rfl, hv.symm⟩
          | cons b v => simp at hv
        rw [hv'.2]
        exact ⟨[], by simp, rfl⟩
  · rintro ⟨b, hb, rfl⟩
    refine ⟨c.pre ++ b, fun h => ?_, by simp⟩
    exact (List.mem_append.1 h).elim (newline_notMem_pre c) hb

lemma ended_put (hu : Ended u) (h : (dec y).length < u.length) : Ended (InPlace.put y u) := by
  obtain ⟨b, hb, rfl⟩ := hu
  rw [List.length_append, List.length_singleton] at h
  refine ⟨dec y ++ b.drop (dec y).length, fun hmem => ?_, ?_⟩
  · rcases List.mem_append.1 hmem with hmem | hmem
    · exact newline_notMem_dec y hmem
    · exact hb (List.mem_of_mem_drop hmem)
  · rw [InPlace.put, List.drop_append_of_le_length (by omega), List.append_assoc]

lemma put_of_le (h : u.length ≤ (dec y).length) : InPlace.put y u = dec y := by
  rw [InPlace.put, List.drop_eq_nil_of_le h, List.append_nil]

/-- A count that was written can be read as a natural number, if it can be read. -/
lemma shape_put (hu : ':' ∉ u) : Shaped (.cell c) (c.pre ++ InPlace.put y u) := by
  refine ⟨_, rfl, fun h => ?_, fun x hx => ?_⟩
  · rcases List.mem_append.1 h with h | h
    · exact colon_notMem_dec y h
    · exact hu (List.mem_of_mem_drop h)
  · exact Int.le_trans (Int.natCast_nonneg y) (le_of_int_dec_append hx)

lemma At.length_cnt (h : At false (.cell c) (c.pre ++ u)) : u.length = c.cnt.length := by
  have hlen := (h.ended rfl).2
  rw [Row.text, List.length_append, List.length_append] at hlen
  omega

/-- A number that stays in its line, which is not the last one. -/
lemma At.put (h : At false (.cell c) (c.pre ++ u)) (hu : ':' ∉ u)
    (hlt : (dec y).length < u.length) : At false (.cell c) (c.pre ++ InPlace.put y u) where
  shape := shape_put hu
  ended := by
    intro _
    obtain ⟨hend, hlen⟩ := h.ended rfl
    refine ⟨ended_pre_append.2 (ended_put (ended_pre_append.1 hend) hlt), ?_⟩
    rw [← hlen, List.length_append, List.length_append, length_put (Nat.le_of_lt hlt)]
  last := by simp

/-- A number in the last line, where it may take the place of the newline. -/
lemma At.put_last (h : At true (.cell c) (c.pre ++ u)) (hu : ':' ∉ u) :
    At true (.cell c) (c.pre ++ InPlace.put y u) where
  shape := shape_put hu
  ended := by simp
  last := by
    intro _
    refine ⟨by simp [InPlace.put, dec_ne_nil], ?_⟩
    have hnew : '\n' ∉ c.pre ++ dec y := fun h =>
      (List.mem_append.1 h).elim (newline_notMem_pre c) (newline_notMem_dec y)
    by_cases hle : u.length ≤ (dec y).length
    · rw [put_of_le hle]
      exact .inr hnew
    · rcases (h.last rfl).2 with hend | hopen
      · exact .inl (ended_pre_append.2 (ended_put (ended_pre_append.1 hend) (by omega)))
      · rw [InPlace.put, ← List.append_assoc]
        refine .inr fun hmem => (List.mem_append.1 hmem).elim hnew fun hmem => ?_
        exact hopen (List.mem_append_right _ (List.mem_of_mem_drop hmem))

/-- A number has swallowed the newline of its line, behind which there is another one. -/
def Broken (ls : List Row) (F : Str) : Prop :=
  ∃ lp c lq cp x rest, ls = lp ++ .cell c :: lq ∧ lq ≠ [] ∧ List.Forall₂ (At false) lp cp ∧
    F = cp.flatten ++ (c.pre ++ (dec x ++ rest)) ∧ c.cnt.length ≤ (dec x).length

/-- Raising a count.  The number stays in its line, or it is too long. -/
lemma intact_raise {lp lq : List Row} {cp cq : List Str}
    (hp : List.Forall₂ (At false) lp cp) (hat : At lq.isEmpty (.cell c) (c.pre ++ u))
    (hq : Intact lq cq) (hu : ':' ∉ u) (y : ℕ) :
    let F := overwrite (cp ++ (c.pre ++ u) :: cq).flatten cp.flatten.length (c.pre ++ dec y)
    ((lq = [] ∨ (dec y).length < c.cnt.length) ∧
      readlines F = cp ++ (c.pre ++ InPlace.put y u) :: cq ∧
      Intact (lp ++ .cell c :: lq) (readlines F)) ∨
    (¬(lq = [] ∨ (dec y).length < c.cnt.length) ∧ Broken (lp ++ .cell c :: lq) F) := by
  intro F
  have hF : F = cp.flatten ++ (c.pre ++ (dec y ++ (u ++ cq.flatten).drop (dec y).length)) :=
    overwrite_cell cp cq c u y
  by_cases hfit : lq = [] ∨ (dec y).length < c.cnt.length
  · left
    have hroom : lq ≠ [] → (dec y).length < u.length := by
      intro hne
      have hempty : lq.isEmpty = false := by simpa using hne
      rw [hempty] at hat
      rw [hat.length_cnt]
      exact hfit.resolve_left hne
    have hintact : Intact (lp ++ .cell c :: lq) (cp ++ (c.pre ++ InPlace.put y u) :: cq) := by
      refine intact_append_cons.2 ⟨cp, _, cq, rfl, hp, ?_, hq⟩
      cases lq with
      | nil => exact hat.put_last hu
      | cons l lq => exact At.put hat hu (hroom (List.cons_ne_nil l lq))
    have hstay : (dec y).length ≤ u.length ∨ cq = [] := by
      cases lq with
      | nil => exact .inr hq
      | cons l lq => exact .inl (Nat.le_of_lt (hroom (List.cons_ne_nil l lq)))
    have hlines : readlines F = cp ++ (c.pre ++ InPlace.put y u) :: cq := by
      rw [hF, flatten_put cp cq c hstay, readlines_flatten (isLines_of_intact hintact)]
    exact ⟨hfit, hlines, hlines ▸ hintact⟩
  · right
    refine ⟨hfit, lp, c, lq, cp, y, _, rfl, ?_, hp, hF, ?_⟩
    · exact fun h => hfit (.inl h)
    · exact Nat.le_of_not_lt fun h => hfit (.inr h)

end Put

/-! ## Sums that fit -/

/-- The sum can be written over a count, so that it is read again. -/
def Cell.Reads (c : Cell) (y : ℕ) : Prop := int 10 (InPlace.put y c.cnt) = some (y : ℤ)

/-- Every sum of the slot fits into the count and is read again.  In a line that is not the last one
there has to be room for the newline. -/
def Slot.Fits (room : Cell → ℕ → Prop) : Slot → Prop
  | ⟨.other _, _⟩ => True
  | ⟨.cell c, hits⟩ => ∀ hs, hs ≠ [] → hs <+: hits →
      room c (dec (c.n + hs.sum)).length ∧ c.Reads (c.n + hs.sum)

/-- The room in a line with another one behind it. -/
def Cell.inner (c : Cell) (k : ℕ) : Prop := k < c.cnt.length

/-- All the slots fit; `room` is that of the last line. -/
def AllFit (room : Cell → ℕ → Prop) : List Slot → Prop
  | [] => True
  | s :: ss => s.Fits (if ss.isEmpty then room else Cell.inner) ∧ AllFit room ss

section Fit

variable {room : Cell → ℕ → Prop} {s s' : Slot} {ss sp sq : List Slot}

lemma allFit_append_cons : AllFit room (sp ++ s :: sq) ↔ (∀ x ∈ sp, x.Fits Cell.inner) ∧
    s.Fits (if sq.isEmpty then room else Cell.inner) ∧ AllFit room sq := by
  induction sp with
  | nil => simp [AllFit]
  | cons a sp ih =>
    have hne : (sp ++ s :: sq).isEmpty = false := by simp
    rw [List.cons_append, AllFit, hne, ih, List.forall_mem_cons, and_assoc]
    rfl

lemma Slot.Fits.mono {l : Row} {hits hits' : List ℕ}
    (h : Slot.Fits room ⟨l, hits'⟩) (hp : hits <+: hits') : Slot.Fits room ⟨l, hits⟩ := by
  cases l with
  | other t => trivial
  | cell c => exact fun hs hne hhs => h hs hne (hhs.trans hp)

lemma Slot.Fits.concat_iff {c : Cell} {hits : List ℕ} {m : ℕ} :
    Slot.Fits room ⟨.cell c, hits ++ [m]⟩ ↔ Slot.Fits room ⟨.cell c, hits⟩ ∧
      room c (dec (c.n + (hits ++ [m]).sum)).length ∧ c.Reads (c.n + (hits ++ [m]).sum) := by
  constructor
  · intro h
    exact ⟨h.mono (List.prefix_append _ _), h _ (by simp) (List.prefix_refl _)⟩
  · rintro ⟨hold, hnew⟩ hs hne hhs
    rcases List.prefix_concat_iff.1 hhs with rfl | hhs
    · exact hnew
    · exact hold hs hne hhs

/-- Nothing has to fit as long as nothing is added. -/
lemma allFit_of_forall (h : ∀ x ∈ ss, x.hits = []) : AllFit room ss := by
  induction ss with
  | nil => trivial
  | cons s ss ih =>
    obtain ⟨hs, hss⟩ := List.forall_mem_cons.1 h
    refine ⟨?_, ih hss⟩
    obtain ⟨l, hits⟩ := s
    obtain rfl : hits = [] := hs
    cases l with
    | other t => trivial
    | cell c => exact fun hs hne hp => absurd (List.prefix_nil.1 hp) hne

end Fit

/-! ## The slot of an update -/

/-- The first line that is found takes one more count. -/
def place (hit : Row → Bool) (m : ℕ) : List Slot → Option (List Slot)
  | [] => none
  | s :: ss =>
    if hit s.line then some (⟨s.line, s.hits ++ [m]⟩ :: ss) else (place hit m ss).map (s :: ·)

section Place

variable {hit : Row → Bool} {m : ℕ} {slots slots' : List Slot}

lemma place_eq_none : place hit m slots = none ↔ ∀ s ∈ slots, hit s.line = false := by
  induction slots with
  | nil => simp [place]
  | cons s slots ih =>
    rw [place, List.forall_mem_cons]
    split
    · rename_i h
      simp [h]
    · rename_i h
      rw [Option.map_eq_none_iff, ih]
      simp [h]

lemma place_append_cons {sp sq : List Slot} {s : Slot} (hsp : ∀ x ∈ sp, hit x.line = false)
    (hs : hit s.line = true) :
    place hit m (sp ++ s :: sq) = some (sp ++ ⟨s.line, s.hits ++ [m]⟩ :: sq) := by
  induction sp with
  | nil => rw [List.nil_append, place, if_pos hs, List.nil_append]
  | cons x sp ih =>
    obtain ⟨hx, hsp⟩ := List.forall_mem_cons.1 hsp
    rw [List.cons_append, place, if_neg (by simp [hx]), ih hsp]
    rfl

/-- The lines stay, and the counts only become more. -/
def Extends (slots slots' : List Slot) : Prop :=
  List.Forall₂ (fun s s' => s'.line = s.line ∧ s.hits <+: s'.hits) slots slots'

lemma Extends.refl (slots : List Slot) : Extends slots slots :=
  List.forall₂_same.2 fun _ _ => ⟨rfl, List.prefix_refl _⟩

lemma Extends.trans {slots'' : List Slot} (h : Extends slots slots') (h' : Extends slots' slots'') :
    Extends slots slots'' := by
  induction h generalizing slots'' with
  | nil => exact h'
  | cons hs _ ih =>
    cases h' with
    | cons hs' h' => exact .cons ⟨hs'.1.trans hs.1, hs.2.trans hs'.2⟩ (ih h')

lemma place_extends (h : place hit m slots = some slots') : Extends slots slots' := by
  induction slots generalizing slots' with
  | nil => cases h
  | cons s slots ih =>
    rw [place] at h
    split at h
    · cases h
      exact .cons ⟨rfl, List.prefix_append _ _⟩ (Extends.refl slots)
    · obtain ⟨ss, hss, rfl⟩ := Option.map_eq_some_iff.1 h
      exact .cons ⟨rfl, List.prefix_refl _⟩ (ih hss)

lemma Extends.map_line (h : Extends slots slots') : slots'.map Slot.line = slots.map Slot.line := by
  induction h with
  | nil => rfl
  | cons hs _ ih => rw [List.map_cons, List.map_cons, hs.1, ih]

/-- Slots that fit did so before. -/
lemma AllFit.of_extends {room : Cell → ℕ → Prop} (h : Extends slots slots')
    (hfit : AllFit room slots') : AllFit room slots := by
  induction h with
  | nil => trivial
  | @cons s s' ss ss' hs hrest ih =>
    have hempty : ss'.isEmpty = ss.isEmpty := by
      cases hrest <;> rfl
    obtain ⟨hfirst, hfit⟩ := hfit
    refine ⟨?_, ih hfit⟩
    rw [hempty] at hfirst
    obtain ⟨l, hits⟩ := s
    obtain ⟨l', hits'⟩ := s'
    obtain ⟨rfl, hp⟩ := hs
    exact hfirst.mono hp

end Place

/-! ## States of the file -/

/-- The lines are what the slots say. -/
structure Track (slots : List Slot) (L : List Str) : Prop where
  text : L = slots.map Slot.text
  intact : Intact (slots.map Slot.line) L

/-- The lines are there, but one of the counts is read as more than its sum, or not at all. -/
structure Off (slots : List Slot) (L : List Str) : Prop where
  intact : Intact (slots.map Slot.line) L
  wrong : ∃ (i : ℕ) (c : Cell) (hits : List ℕ) (u : Str), slots[i]? = some ⟨.cell c, hits⟩ ∧
    L[i]? = some (c.pre ++ u) ∧ ∀ x, int 10 u = some x → ((c.n + hits.sum : ℕ) : ℤ) < x

/-- A count is wrong, or a line is lost. -/
def Bad (slots : List Slot) (F : Str) : Prop :=
  Off slots (readlines F) ∨ Broken (slots.map Slot.line) F

section States

variable {room : Cell → ℕ → Prop} {sp sq slots : List Slot} {c : Cell} {hits : List ℕ} {m : ℕ}
  {L : List Str}

lemma getElem?_append_cons_of_ne {α : Type} {xs ys : List α} {a b : α} {i : ℕ}
    (h : i ≠ xs.length) : (xs ++ a :: ys)[i]? = (xs ++ b :: ys)[i]? := by
  rcases Nat.lt_or_gt_of_ne h with hlt | hgt
  · rw [List.getElem?_append_left hlt, List.getElem?_append_left hlt]
  · obtain ⟨k, rfl⟩ : ∃ k, i = xs.length + 1 + k := ⟨i - (xs.length + 1), by omega⟩
    have hk : xs.length + 1 + k - xs.length = k + 1 := by omega
    rw [List.getElem?_append_right (by omega), List.getElem?_append_right (by omega), hk]
    rfl

/-- A sum that fits is read again. -/
lemma Slot.Fits.int_put (h : Slot.Fits room ⟨.cell c, hits⟩) :
    int 10 (c.put hits) = some ((c.n + hits.sum : ℕ) : ℤ) := by
  rw [Cell.put]
  split
  · rename_i hnil
    rw [hnil]
    exact c.value
  · rename_i hne
    exact (h hits hne (List.prefix_refl _)).2

/-- Writing one more sum over the last one. -/
lemma Cell.put_concat (c : Cell) (hits : List ℕ) (m : ℕ) :
    InPlace.put (c.n + (hits ++ [m]).sum) (c.put hits) = c.put (hits ++ [m]) := by
  rw [Cell.put, Cell.put, if_neg (by simp : hits ++ [m] ≠ [])]
  split
  · rfl
  · exact put_put (by simp) c.cnt

lemma Cell.colon_notMem_put (c : Cell) (hits : List ℕ) : ':' ∉ c.put hits := by
  rw [Cell.put]
  split
  · exact c.noColon
  · intro h
    rcases List.mem_append.1 h with h | h
    · exact colon_notMem_dec _ h
    · exact c.noColon (List.mem_of_mem_drop h)

/-- The same slots with one more count in one of them. -/
lemma allFit_concat_iff : AllFit room (sp ++ ⟨.cell c, hits ++ [m]⟩ :: sq) ↔
    AllFit room (sp ++ ⟨.cell c, hits⟩ :: sq) ∧
      (if sq.isEmpty then room else Cell.inner) c (dec (c.n + (hits ++ [m]).sum)).length ∧
      c.Reads (c.n + (hits ++ [m]).sum) := by
  rw [allFit_append_cons, allFit_append_cons, Slot.Fits.concat_iff]
  tauto

/-- A step from lines that are what the slots say. -/
theorem Track.raise (h : Track (sp ++ ⟨.cell c, hits⟩ :: sq) L)
    (hfit : AllFit room (sp ++ ⟨.cell c, hits⟩ :: sq))
    (hroom : sq = [] → room c (dec (c.n + (hits ++ [m]).sum)).length) :
    let slots' := sp ++ ⟨.cell c, hits ++ [m]⟩ :: sq
    let F' := overwrite L.flatten (sp.map Slot.text).flatten.length
      (c.pre ++ dec (c.n + (hits ++ [m]).sum))
    (AllFit room slots' ∧ Track slots' (readlines F')) ∨
      (¬AllFit room slots' ∧ Bad slots' F') := by
  intro slots' F'
  obtain ⟨rfl, hintact⟩ := h
  rw [List.map_append, List.map_cons, List.map_append, List.map_cons] at hintact
  obtain ⟨cp, cur, cq, heq, hp, hat, hq⟩ := intact_append_cons.1 hintact
  have hlen : (sp.map Slot.text).length = cp.length := by
    rw [List.length_map, ← hp.length_eq, List.length_map]
  obtain ⟨rfl, hrest⟩ := List.append_inj heq hlen
  obtain ⟨rfl, rfl⟩ := List.cons.inj hrest
  have hraise := intact_raise hp hat hq (c.colon_notMem_put hits) (c.n + (hits ++ [m]).sum)
  have hF' : F' = overwrite
      (sp.map Slot.text ++ (c.pre ++ c.put hits) :: sq.map Slot.text).flatten
      (sp.map Slot.text).flatten.length (c.pre ++ dec (c.n + (hits ++ [m]).sum)) := by
    simp only [F', List.map_append, List.map_cons]
    rfl
  rw [← hF', c.put_concat] at hraise
  have hmap : sq.map Slot.line = [] ↔ sq = [] := List.map_eq_nil_iff
  have hlines : slots'.map Slot.line = sp.map Slot.line ++ .cell c :: sq.map Slot.line := by
    rw [List.map_append, List.map_cons]
  rcases hraise with ⟨hstay, htext, hintact'⟩ | ⟨hleave, hbroken⟩
  · have hspace : (if sq.isEmpty then room else Cell.inner) c
        (dec (c.n + (hits ++ [m]).sum)).length := by
      split
      · rename_i hnil
        exact hroom (List.isEmpty_iff.1 hnil)
      · rename_i hne
        refine hstay.resolve_left fun h => hne ?_
        rw [hmap.1 h]
        rfl
    have htrack : Track slots' (readlines F') := by
      refine ⟨?_, hlines ▸ hintact'⟩
      rw [htext, List.map_append, List.map_cons]
      rfl
    by_cases hreads : c.Reads (c.n + (hits ++ [m]).sum)
    · exact .inl ⟨allFit_concat_iff.2 ⟨hfit, hspace, hreads⟩, htrack⟩
    · refine .inr ⟨fun h => hreads (allFit_concat_iff.1 h).2.2, .inl ⟨htrack.intact, ?_⟩⟩
      refine ⟨sp.length, c, hits ++ [m], c.put (hits ++ [m]), by simp [slots'], ?_, ?_⟩
      · rw [htext, ← List.length_map Slot.text]
        simp
      · intro x hx
        rw [Cell.put, if_neg (by simp : hits ++ [m] ≠ [])] at hx
        rcases Int.lt_or_eq_of_le (le_of_int_dec_append hx) with hlt | rfl
        · exact hlt
        · exact absurd hx hreads
  · refine .inr ⟨fun h => hleave ?_, .inr ?_⟩
    · rw [hmap]
      by_cases hnil : sq = []
      · exact .inl hnil
      · have hspace := (allFit_concat_iff.1 h).2.1
        rw [if_neg (by simpa using hnil)] at hspace
        exact .inr hspace
    · rw [hlines]
      exact hbroken

/-- A step from lines with a wrong count. -/
theorem Off.raise {cp cq : List Str} {u : Str} {x : ℕ}
    (h : Off (sp ++ ⟨.cell c, hits⟩ :: sq) (cp ++ (c.pre ++ u) :: cq))
    (hlen : cp.length = sp.length) (hu : ':' ∉ u) (hx : int 10 u = some (x : ℤ)) :
    Bad (sp ++ ⟨.cell c, hits ++ [m]⟩ :: sq) (overwrite
      (cp ++ (c.pre ++ u) :: cq).flatten cp.flatten.length (c.pre ++ dec (x + m))) := by
  obtain ⟨hintact, i, d, hs, v, hslot, hline, hwrong⟩ := h
  rw [List.map_append, List.map_cons] at hintact
  obtain ⟨cp', cur, cq', heq, hp, hat, hq⟩ := intact_append_cons.1 hintact
  obtain ⟨rfl, hrest⟩ := List.append_inj heq (by rw [hlen, ← hp.length_eq, List.length_map])
  obtain ⟨rfl, rfl⟩ := List.cons.inj hrest
  have hlines : (sp ++ ⟨.cell c, hits ++ [m]⟩ :: sq).map Slot.line =
      sp.map Slot.line ++ .cell c :: sq.map Slot.line := by
    rw [List.map_append, List.map_cons]
  rcases intact_raise hp hat hq hu (x + m) with ⟨-, htext, hintact'⟩ | ⟨-, hbroken⟩
  · refine .inl ⟨hlines ▸ hintact', ?_⟩
    rw [htext]
    have hslot' : (sp ++ (⟨.cell c, hits⟩ : Slot) :: sq)[sp.length]? = some ⟨.cell c, hits⟩ := by
      simp
    have hline' : (cp ++ (c.pre ++ u) :: cq)[sp.length]? = some (c.pre ++ u) := by simp [← hlen]
    by_cases hi : i = sp.length
    · -- the wrong count is the one that is raised
      subst hi
      obtain ⟨hd, rfl⟩ := Slot.mk.inj (Option.some.inj (hslot'.symm.trans hslot))
      obtain rfl : c = d := by cases hd; rfl
      obtain rfl : u = v := List.append_cancel_left (Option.some.inj (hline'.symm.trans hline))
      refine ⟨sp.length, c, hits ++ [m], InPlace.put (x + m) u, by simp, by simp [← hlen], ?_⟩
      intro z hz
      have hsum := hwrong _ hx
      have hle := le_of_int_dec_append hz
      rw [List.sum_append, List.sum_singleton]
      omega
    · refine ⟨i, d, hs, v, ?_, ?_, hwrong⟩
      · rw [getElem?_append_cons_of_ne hi, hslot]
      · rw [getElem?_append_cons_of_ne (hlen ▸ hi), hline]
  · right
    rw [hlines]
    exact hbroken

/-! A step behind the number that is too long, at it, or before it. -/

lemma Broken.raise_later {ls : List Row} {lp lq : List Row} {cp : List Str} {x pos : ℕ}
    {rest s : Str} (hls : ls = lp ++ .cell c :: lq) (hne : lq ≠ [])
    (hp : List.Forall₂ (At false) lp cp) (hlen : c.cnt.length ≤ (dec x).length)
    (hpos : (cp.flatten ++ (c.pre ++ dec x)).length ≤ pos) :
    Broken ls (overwrite (cp.flatten ++ (c.pre ++ (dec x ++ rest))) pos s) := by
  have heq : cp.flatten ++ (c.pre ++ (dec x ++ rest)) =
      cp.flatten ++ (c.pre ++ dec x) ++ rest := by simp
  obtain ⟨rest', h⟩ := overwrite_of_le (Y := rest) (s := s) hpos
  refine ⟨lp, c, lq, cp, x, rest', hls, hne, hp, ?_, hlen⟩
  rw [heq, h]
  simp

lemma Broken.raise_here {ls : List Row} {lp lq : List Row} {cp : List Str} {x y : ℕ}
    {rest t : Str} (hls : ls = lp ++ .cell c :: lq) (hne : lq ≠ [])
    (hp : List.Forall₂ (At false) lp cp) (hlen : c.cnt.length ≤ (dec x).length) (hxy : x ≤ y) :
    Broken ls (overwrite (cp.flatten ++ (c.pre ++ (dec x ++ rest))) cp.flatten.length
      (c.pre ++ (dec y ++ t))) := by
  rw [overwrite_append, List.append_assoc, List.append_assoc]
  exact ⟨lp, c, lq, cp, y, _, hls, hne, hp, rfl, Nat.le_trans hlen (length_dec_le hxy)⟩

lemma Broken.raise_before {ls : List Row} {lp lr lq : List Row} {cp cr : List Str} {d : Cell}
    {x y : ℕ} {u rest : Str} (hls : ls = lp ++ .cell d :: (lr ++ .cell c :: lq)) (hne : lq ≠ [])
    (hp : List.Forall₂ (At false) lp cp) (hat : At false (.cell d) (d.pre ++ u))
    (hr : List.Forall₂ (At false) lr cr) (hlen : c.cnt.length ≤ (dec x).length) (hu : ':' ∉ u) :
    Broken ls (overwrite ((cp ++ (d.pre ++ u) :: cr).flatten ++ (c.pre ++ (dec x ++ rest)))
      cp.flatten.length (d.pre ++ dec y)) := by
  have heq : (cp ++ (d.pre ++ u) :: cr).flatten ++ (c.pre ++ (dec x ++ rest)) =
      (cp ++ (d.pre ++ u) :: (cr ++ [c.pre ++ (dec x ++ rest)])).flatten := by simp
  rw [heq, overwrite_cell]
  by_cases hlt : (dec y).length < u.length
  · rw [flatten_put _ _ _ (.inl (Nat.le_of_lt hlt))]
    refine ⟨lp ++ .cell d :: lr, c, lq, cp ++ (d.pre ++ InPlace.put y u) :: cr, x, rest, ?_, hne,
      ?_, by simp, hlen⟩
    · rw [hls, List.append_assoc, List.cons_append]
    · exact List.rel_append hp (.cons (hat.put hu hlt) hr)
  · refine ⟨lp, d, _, cp, y, _, hls, by simp, hp, rfl, ?_⟩
    rw [← hat.length_cnt]
    omega

/-! What is then read. -/

/-- A line with the counts that were added to it.  Without any it is the same line. -/
def Slot.Is : Slot → Str → Prop
  | ⟨.other t, _⟩, cur => cur = t
  | ⟨.cell c, hits⟩, cur => (hits = [] → cur = c.pre ++ c.cnt) ∧
      ∃ u, cur = c.pre ++ u ∧ ':' ∉ u ∧ int 10 u = some ((c.n + hits.sum : ℕ) : ℤ)

lemma Slot.Fits.is {s : Slot} (h : s.Fits room) : s.Is s.text := by
  obtain ⟨l, hits⟩ := s
  cases l with
  | other t => rfl
  | cell c =>
    refine ⟨fun hnil => ?_, c.put hits, rfl, c.colon_notMem_put hits, h.int_put⟩
    rw [Slot.text, Cell.put, if_pos hnil]

lemma forall₂_is_of_allFit (h : AllFit room slots) :
    List.Forall₂ Slot.Is slots (slots.map Slot.text) := by
  induction slots with
  | nil => exact .nil
  | cons s slots ih => exact .cons h.1.is (ih h.2)

lemma Off.not_is (h : Off slots L) : ¬List.Forall₂ Slot.Is slots L := by
  intro his
  obtain ⟨-, i, c, hits, u, hslot, hline, hwrong⟩ := h
  obtain ⟨hi, hsi⟩ := List.getElem?_eq_some_iff.1 hslot
  obtain ⟨hj, hlj⟩ := List.getElem?_eq_some_iff.1 hline
  have hat := his.get hi hj
  rw [List.get_eq_getElem, List.get_eq_getElem, hsi, hlj] at hat
  obtain ⟨-, v, hv, -, hval⟩ := hat
  obtain rfl : u = v := List.append_cancel_left hv
  exact absurd (hwrong _ hval) (Int.lt_irrefl _)

/-- A line that is too long. -/
lemma Broken.not_sameLength {ls : List Row} {F : Str} (h : Broken ls F) :
    ¬List.Forall₂ (fun l cur => cur.length = l.text.length) ls (readlines F) := by
  intro hsame
  obtain ⟨lp, c, lq, cp, x, rest, rfl, hne, hp, rfl, hlen⟩ := h
  have hopen : '\n' ∉ c.pre ++ dec x := fun h =>
    (List.mem_append.1 h).elim (newline_notMem_pre c) (newline_notMem_dec x)
  have hnil : c.pre ++ dec x ≠ [] := by simp [dec_ne_nil]
  obtain ⟨z, more, hread⟩ := readlines_open hnil hopen rest
  have hlines := isLines_readlines (cp.flatten ++ (c.pre ++ (dec x ++ rest)))
  rw [← List.append_assoc c.pre, readlines_append (ended_of_forall₂ hp), hread] at hsame hlines
  have hrest := List.forall₂_drop_append _ _ _ hsame
  rw [← hp.length_eq, List.drop_left] at hrest
  cases hrest with
  | cons hcur hmore =>
    rw [Row.text, List.append_assoc, List.length_append, List.length_append,
      List.length_append] at hcur
    have hz : z = [] := List.length_eq_zero_iff.1 (by omega)
    rcases (isLines_append_cons.1 hlines).2.1 with hend | ⟨hlast, -⟩
    · rw [hz, List.append_nil] at hend
      exact hopen hend.not_open
    · -- the lines behind it are missing
      rw [hlast] at hmore
      cases hmore
      exact hne rfl

end States

end Counters
