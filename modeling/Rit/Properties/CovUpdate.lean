import Rit.Lib.Counters
import Rit.Script.GenCovRpt

/-!
# Updating the definition files in place

`parseCovLog` looks for each line of a log in the lines of the first definition file and then in
those of the second one.  In the first line whose variant starts with that of the log line it writes
the number, the variant and the new count over the old text.

The line of an item is a counter with two keys.  The count is the last field of its line and has the
newline in it, so the new text has no newline: a sum that is shorter than the text of the old count
leaves the rest of it where it is, and a longer one runs into the next line.  In the last line it
would run out of the mapping, which raises.

Each file sees only those log lines that no file before it has taken (`fileRun`), so the two are
treated one after the other.  What one log line does to a file is one of the steps of a counter
(`Track.step`, `Off.step`, `Broken.step`), and a whole log is a run of these.
-/

namespace Rit.GenCovRpt

open PyStr PyInt InPlace Counters
open Draw (PyErr)

/-! ## Definition files and logs -/

/-- The first character besides blanks is a digit. -/
def DigitFirst (l : Str) : Prop := (strip l).head?.map Char.isDigit = some true

instance (l : Str) : Decidable (DigitFirst l) := inferInstanceAs (Decidable (_ = _))

/-- The line of an item is `number:variant:count`.  The other lines start with something else. -/
def IsDefLine : Row → Prop
  | .other t => ¬DigitFirst t
  | .cell c => ∃ sn variant, c.keys = [sn, variant] ∧ DigitFirst sn

/-- A definition file. -/
structure DefFile where
  lines : List Row
  form : ∀ l ∈ lines, IsDefLine l
  isLines : IsLines (lines.map Row.text)

def DefFile.text (f : DefFile) : Str := (f.lines.map Row.text).flatten

/-- A line `variant:count` of a log. -/
structure LogEntry where
  text : Str
  variant : Str
  count : Str
  more : List Str
  m : ℕ
  fields : text.splitOn ':' = variant :: count :: more
  value : int 10 count = some (m : ℤ)

/-- The variant of the line starts with this one. -/
def isMatch (v : Str) : Row → Bool
  | .other _ => false
  | .cell c => startsWith (c.keys.getD 1 []) v

/-- No blank line stands before the first line that matches. -/
def Readable (v : Str) (ls : List Row) : Prop :=
  ∀ lp t lq, ls = lp ++ .other t :: lq → strip t = [] → ∃ l ∈ lp, isMatch v l = true

/-- The slots behind a log, and the entries that match no line. -/
def assign : List Slot → List LogEntry → List Slot × List LogEntry
  | slots, [] => (slots, [])
  | slots, e :: log =>
    match place (isMatch e.variant) e.m slots with
    | some slots' => assign slots' log
    | none => ((assign slots log).1, e :: (assign slots log).2)

/-- The lines of a file, to which nothing has been added. -/
def DefFile.slots (f : DefFile) : List Slot := f.lines.map fun l => ⟨l, []⟩

/-! ## The search -/

/-- The search goes on behind this line. -/
def Passed (v : Str) : Row → Prop
  | .other t => strip t ≠ []
  | .cell c => isMatch v (.cell c) = false

section Search

variable {e : LogEntry} {c : Cell} {t w : Str} {L : List Str} {pos : ℕ}

lemma digitFirst_append (h : DigitFirst t) (w : Str) : DigitFirst (t ++ w) := by
  rw [DigitFirst, head?_strip] at h ⊢
  have hne : (t.dropWhile isSpace).isEmpty = false := by
    cases ht : t.dropWhile isSpace with
    | nil =>
      rw [ht] at h
      cases h
    | cons => rfl
  rw [List.dropWhile_append, if_neg (by simp [hne]), List.head?_append_of_ne_nil]
  · exact h
  · simpa using hne

lemma search_other (h : IsDefLine (.other t)) (v n : Str) : search v n pos (t :: L) =
    if strip t = [] then .error .indexError else search v n (pos + t.length) L := by
  rw [search]
  cases hs : strip t with
  | nil => rfl
  | cons a r =>
    have ha : a.isDigit = false := by
      cases had : a.isDigit with
      | false => rfl
      | true => exact absurd (by rw [DigitFirst, hs, List.head?_cons, Option.map_some, had]) h
    simp [ha]

/-- The line of an item, with anything behind the keys. -/
lemma search_cell (h : IsDefLine (.cell c)) {f : Str} {more : List Str}
    (hw : w.splitOn ':' = f :: more) : search e.variant e.count pos ((c.pre ++ w) :: L) =
      if isMatch e.variant (.cell c) then (intOf 10 f).map fun a =>
        some ⟨pos, c.pre ++ [':'].intercalate (decInt (a + e.m) :: more)⟩
      else search e.variant e.count (pos + (c.pre ++ w).length) L := by
  obtain ⟨sn, variant, hkeys, hsn⟩ := h
  have hdigit : DigitFirst (c.pre ++ w) := by
    have hpre : c.pre ++ w = sn ++ (':' :: (variant ++ (':' :: w))) := by
      rw [Cell.pre, hkeys]
      simp [joinKeys]
    rw [hpre]
    exact digitFirst_append hsn _
  obtain ⟨a, ha, hda⟩ := Option.map_eq_some_iff.1 hdigit
  have hfields : (c.pre ++ w).splitOn ':' = sn :: variant :: f :: more := by
    rw [c.splitOn_pre, hkeys, hw]
    rfl
  have hcount : intOf 10 e.count = .ok (e.m : ℤ) := by rw [intOf, e.value]; rfl
  have hmatch : isMatch e.variant (.cell c) = startsWith variant e.variant := by
    rw [isMatch, hkeys]
    rfl
  have hjoin : ∀ s, [':'].intercalate (sn :: variant :: s :: more) =
      c.pre ++ [':'].intercalate (s :: more) := by
    intro s
    have := intercalate_append_cons [sn, variant] s more
    rw [← hkeys] at this
    rw [Cell.pre, ← this, hkeys]
    rfl
  rw [search, ha]
  simp only [hda, if_true, hfields, hmatch, hjoin, hcount]
  split
  · cases intOf 10 f <;> rfl
  · rfl

lemma search_append {lp : List Row} {cp : List Str} (hshape : List.Forall₂ Shaped lp cp)
    (hform : ∀ l ∈ lp, IsDefLine l) (hpass : ∀ l ∈ lp, Passed e.variant l) (pos : ℕ)
    (L : List Str) : search e.variant e.count pos (cp ++ L) =
      search e.variant e.count (pos + cp.flatten.length) L := by
  induction hshape generalizing pos with
  | nil => simp
  | @cons l cur lp cp hl _ ih =>
    obtain ⟨hform, hforms⟩ := List.forall_mem_cons.1 hform
    obtain ⟨hpass, hpasses⟩ := List.forall_mem_cons.1 hpass
    have hstep : search e.variant e.count pos (cur :: (cp ++ L)) =
        search e.variant e.count (pos + cur.length) (cp ++ L) := by
      cases l with
      | other t =>
        obtain rfl : cur = t := hl
        rw [search_other hform, if_neg hpass]
      | cell c =>
        obtain ⟨u, rfl, hu, -⟩ := hl
        have hpass : isMatch e.variant (.cell c) = false := hpass
        rw [search_cell hform (List.splitOn_eq_singleton hu), if_neg (by simp [hpass])]
    rw [List.cons_append, hstep, ih hforms hpasses, List.flatten_cons, List.length_append,
      Nat.add_assoc]

/-- What is found does not stand before the place where the search starts. -/
lemma search_pos {v n : Str} {f : Found} (h : search v n pos L = .ok (some f)) :
    pos ≤ f.lastPos := by
  induction L generalizing pos with
  | nil => cases h
  | cons cd L ih =>
    have hnext : search v n (pos + cd.length) L = .ok (some f) → pos ≤ f.lastPos := fun h =>
      Nat.le_trans (Nat.le_add_right _ _) (ih h)
    rw [search] at h
    split at h
    · cases h
    · split at h
      · split at h
        · split at h
          · rename_i count _ _ _
            cases hc : intOf 10 count with
            | error => rw [hc] at h; cases h
            | ok a =>
              cases hn : intOf 10 n with
              | error => rw [hc, hn] at h; cases h
              | ok b =>
                rw [hc, hn] at h
                cases h
                exact Nat.le_refl _
          · exact hnext h
        · cases h
      · exact hnext h

end Search

/-! ## What a log line finds -/

section Scan

variable {v : Str} {lp lq : List Row}

lemma Passed.isMatch_eq {l : Row} (h : Passed v l) : isMatch v l = false := by
  cases l with
  | other t => rfl
  | cell c => exact h

/-- The search passes all lines, comes to a blank one, or finds the item. -/
lemma scan_cases {α : Type} (v : Str) (line : α → Row) (xs : List α) :
    (∀ s ∈ xs, Passed v (line s)) ∨
    ∃ sp s sq, xs = sp ++ s :: sq ∧ (∀ x ∈ sp, Passed v (line x)) ∧
      ((∃ t, line s = .other t ∧ strip t = []) ∨
        ∃ c, line s = .cell c ∧ isMatch v (.cell c) = true) := by
  induction xs with
  | nil => exact .inl (by simp)
  | cons s xs ih =>
    by_cases hs : Passed v (line s)
    · rcases ih with hall | ⟨sp, x, sq, rfl, hsp, hx⟩
      · exact .inl (List.forall_mem_cons.2 ⟨hs, hall⟩)
      · exact .inr ⟨s :: sp, x, sq, rfl, List.forall_mem_cons.2 ⟨hs, hsp⟩, hx⟩
    · refine .inr ⟨[], s, xs, rfl, by simp, ?_⟩
      cases hl : line s with
      | other t =>
        rw [hl] at hs
        exact .inl ⟨t, rfl, Decidable.not_not.1 hs⟩
      | cell c =>
        rw [hl] at hs
        exact .inr ⟨c, rfl, by simpa [Passed] using hs⟩

lemma readable_of_passed {ls : List Row} (h : ∀ l ∈ ls, Passed v l) : Readable v ls := by
  rintro lp t lq rfl ht
  exact absurd ht (h (.other t) (by simp))

lemma not_readable {t : Str} (h : ∀ l ∈ lp, Passed v l) (ht : strip t = []) :
    ¬Readable v (lp ++ .other t :: lq) := by
  intro hread
  obtain ⟨l, hl, hmatch⟩ := hread lp t lq rfl ht
  rw [(h l hl).isMatch_eq] at hmatch
  cases hmatch

lemma readable_of_match {c : Cell} (h : ∀ l ∈ lp, Passed v l)
    (hc : isMatch v (.cell c) = true) : Readable v (lp ++ .cell c :: lq) := by
  intro lp' t lq' heq ht
  rcases List.append_eq_append_iff.1 heq with ⟨k, rfl, hk⟩ | ⟨k, rfl, hk⟩
  · cases k with
    | nil => cases hk
    | cons l k =>
      obtain ⟨rfl, -⟩ := List.cons.inj hk
      exact ⟨.cell c, by simp, hc⟩
  · -- the blank line would be one of those that are passed
    cases k with
    | nil => cases hk
    | cons l k =>
      obtain ⟨rfl, -⟩ := List.cons.inj hk
      exact absurd ht (h (.other t) (by simp))

end Scan

section Update

variable {e : LogEntry} {F F' : Str} {slots : List Slot} {lp : List Row} {cp cq : List Str}
  {c : Cell} {u : Str}

lemma updateMap_of_search {f : Found}
    (h : search e.variant e.count 0 (readlines F) = .ok (some f)) :
    updateMap e.variant e.count F =
      if f.lastPos + f.newstr.length ≤ F.length then .ok (some (overwrite F f.lastPos f.newstr))
      else .error .valueError := by
  rw [updateMap, h]
  rfl

lemma updateMap_pass (hshape : List.Forall₂ Shaped lp (readlines F))
    (hform : ∀ l ∈ lp, IsDefLine l) (hpass : ∀ l ∈ lp, Passed e.variant l) :
    updateMap e.variant e.count F = .ok none := by
  have h := search_append hshape hform hpass 0 []
  rw [List.append_nil] at h
  rw [updateMap, h]
  rfl

lemma updateMap_blank {t : Str} (hread : readlines F = cp ++ t :: cq)
    (hshape : List.Forall₂ Shaped lp cp) (hform : ∀ l ∈ lp, IsDefLine l)
    (hpass : ∀ l ∈ lp, Passed e.variant l) (ht : IsDefLine (.other t)) (hblank : strip t = []) :
    updateMap e.variant e.count F = .error .indexError := by
  rw [updateMap, hread, search_append hshape hform hpass, search_other ht, if_pos hblank]
  rfl

lemma updateMap_hit (hread : readlines F = cp ++ (c.pre ++ u) :: cq)
    (hshape : List.Forall₂ Shaped lp cp) (hform : ∀ l ∈ lp, IsDefLine l)
    (hpass : ∀ l ∈ lp, Passed e.variant l) (hc : IsDefLine (.cell c))
    (hmatch : isMatch e.variant (.cell c) = true) (hu : ':' ∉ u)
    (hnat : ∀ x, int 10 u = some x → 0 ≤ x) :
    (int 10 u = none ∧ updateMap e.variant e.count F = .error .valueError) ∨
    ∃ x : ℕ, int 10 u = some (x : ℤ) ∧
      updateMap e.variant e.count F =
        if cp.flatten.length + (c.pre ++ dec (x + e.m)).length ≤ F.length then
          .ok (some (overwrite F cp.flatten.length (c.pre ++ dec (x + e.m))))
        else .error .valueError := by
  have hsearch : search e.variant e.count 0 (readlines F) = (intOf 10 u).map fun a =>
      some ⟨cp.flatten.length, c.pre ++ decInt (a + e.m)⟩ := by
    rw [hread, search_append hshape hform hpass, search_cell hc (List.splitOn_eq_singleton hu),
      if_pos hmatch, Nat.zero_add]
    simp
  cases hint : int 10 u with
  | none =>
    refine .inl ⟨rfl, ?_⟩
    have hraise : intOf 10 u = .error .valueError := by rw [intOf, hint]; rfl
    rw [updateMap, hsearch, hraise]
    rfl
  | some a =>
    right
    obtain ⟨x, rfl⟩ := Int.eq_ofNat_of_zero_le (hnat a hint)
    refine ⟨x, rfl, ?_⟩
    have hok : intOf 10 u = .ok (x : ℤ) := by rw [intOf, hint]; rfl
    rw [hok] at hsearch
    rw [updateMap_of_search hsearch, ← Int.natCast_add, decInt_natCast]

/-- A log line and a file whose lines are there. -/
lemma updateMap_intact (hform : ∀ s ∈ slots, IsDefLine s.line)
    (h : Intact (slots.map Slot.line) (readlines F)) (e : LogEntry) :
    (Readable e.variant (slots.map Slot.line) ∧ place (isMatch e.variant) e.m slots = none ∧
      updateMap e.variant e.count F = .ok none) ∨
    (¬Readable e.variant (slots.map Slot.line) ∧
      updateMap e.variant e.count F = .error .indexError) ∨
    ∃ sp c hits sq cp u cq, slots = sp ++ ⟨.cell c, hits⟩ :: sq ∧
      readlines F = cp ++ (c.pre ++ u) :: cq ∧ cp.length = sp.length ∧ ':' ∉ u ∧
      Readable e.variant (slots.map Slot.line) ∧
      place (isMatch e.variant) e.m slots = some (sp ++ ⟨.cell c, hits ++ [e.m]⟩ :: sq) ∧
      ((int 10 u = none ∧ updateMap e.variant e.count F = .error .valueError) ∨
        ∃ x : ℕ, int 10 u = some (x : ℤ) ∧ updateMap e.variant e.count F =
          if cp.flatten.length + (c.pre ++ dec (x + e.m)).length ≤ F.length then
            .ok (some (overwrite F cp.flatten.length (c.pre ++ dec (x + e.m))))
          else .error .valueError) := by
  have hforms : ∀ l ∈ slots.map Slot.line, IsDefLine l := by simpa using hform
  rcases scan_cases e.variant Slot.line slots with hall | ⟨sp, s, sq, rfl, hsp, hs⟩
  · left
    have hpass : ∀ l ∈ slots.map Slot.line, Passed e.variant l := by simpa using hall
    refine ⟨readable_of_passed hpass, place_eq_none.2 fun s hs => (hall s hs).isMatch_eq, ?_⟩
    exact updateMap_pass (shape_of_intact h) hforms hpass
  · right
    have hpass : ∀ l ∈ sp.map Slot.line, Passed e.variant l := by simpa using hsp
    have hfront : ∀ l ∈ sp.map Slot.line, IsDefLine l := fun l hl =>
      hforms l (by rw [List.map_append]; exact List.mem_append_left _ hl)
    have hline : IsDefLine s.line := hform s (by simp)
    rw [List.map_append, List.map_cons] at h ⊢
    obtain ⟨cp, cur, cq, hread, hp, hat, -⟩ := intact_append_cons.1 h
    have hshape : List.Forall₂ Shaped (sp.map Slot.line) cp := hp.imp fun _ _ h => h.shape
    obtain ⟨l, hits⟩ := s
    rcases hs with ⟨t, rfl, ht⟩ | ⟨c, rfl, hmatch⟩
    · left
      obtain rfl : cur = t := hat.shape
      exact ⟨not_readable hpass ht, updateMap_blank hread hshape hfront hpass hline ht⟩
    · right
      obtain ⟨u, rfl, hu, hnat⟩ := hat.shape
      refine ⟨sp, c, hits, sq, cp, u, cq, rfl, hread, ?_, hu, ?_, ?_, ?_⟩
      · rw [← hp.length_eq, List.length_map]
      · exact readable_of_match hpass hmatch
      · exact place_append_cons (fun s hs => (hsp s hs).isMatch_eq) hmatch
      · exact updateMap_hit hread hshape hfront hpass hline hmatch hu hnat

end Update

/-! ## Steps -/

/-- The count of the last line can become as long as its text. -/
def outer (c : Cell) (k : ℕ) : Prop := k ≤ c.cnt.length

section Steps

variable {e : LogEntry} {F F' : Str} {slots : List Slot} {r : Option Str}

/-- A count that fits has the length of the old one. -/
lemma length_put_of_fits {c : Cell} {hits : List ℕ} {room : Cell → ℕ → Prop}
    (hroom : ∀ k, room c k → k ≤ c.cnt.length) (h : Slot.Fits room ⟨.cell c, hits⟩) :
    (c.put hits).length = c.cnt.length := by
  rw [Cell.put]
  split
  · rfl
  · rename_i hne
    exact length_put (hroom _ (h hits hne (List.prefix_refl _)).1)

lemma le_of_room {c : Cell} {b : Bool} {k : ℕ} (h : (if b then outer else Cell.inner) c k) :
    k ≤ c.cnt.length := by
  cases b with
  | false => exact Nat.le_of_lt h
  | true => exact h

/-- The lines have the lengths they had. -/
lemma forall₂_length_of_allFit (h : AllFit outer slots) :
    List.Forall₂ (fun l (cur : Str) => cur.length = l.text.length) (slots.map Slot.line)
      (slots.map Slot.text) := by
  induction slots with
  | nil => exact .nil
  | cons s slots ih =>
    obtain ⟨hs, hslots⟩ := h
    refine .cons ?_ (ih hslots)
    obtain ⟨l, hits⟩ := s
    cases l with
    | other t => rfl
    | cell c =>
      rw [Slot.text, Row.text, List.length_append, List.length_append,
        length_put_of_fits (fun _ h => le_of_room h) hs]

/-- A step from a file that is what the slots say. -/
lemma track_step (hform : ∀ s ∈ slots, IsDefLine s.line) (h : Track slots (readlines F))
    (hfit : AllFit outer slots) (hread : Readable e.variant (slots.map Slot.line)) :
    (place (isMatch e.variant) e.m slots = none ∧ updateMap e.variant e.count F = .ok none) ∨
    ∃ slots', place (isMatch e.variant) e.m slots = some slots' ∧
      ((AllFit outer slots' ∧ ∃ F', updateMap e.variant e.count F = .ok (some F') ∧
        Track slots' (readlines F')) ∨
      (¬AllFit outer slots' ∧ ∀ r, updateMap e.variant e.count F = .ok r →
        ∃ F', r = some F' ∧ Bad slots' F')) := by
  rcases updateMap_intact hform h.intact e with ⟨-, hplace, hupdate⟩ | ⟨hnot, -⟩ |
    ⟨sp, c, hits, sq, cp, u, cq, rfl, hlines, hlen, -, -, hplace, hupdate⟩
  · exact .inl ⟨hplace, hupdate⟩
  · exact absurd hread hnot
  · refine .inr ⟨_, hplace, ?_⟩
    have htext := h.text
    rw [hlines, List.map_append, List.map_cons] at htext
    obtain ⟨rfl, hrest⟩ := List.append_inj htext (by rw [hlen, List.length_map])
    obtain ⟨hu, rfl⟩ := List.cons.inj hrest
    obtain rfl : u = c.put hits := List.append_cancel_left hu
    have hslot := (allFit_append_cons.1 hfit).2.1
    have hsum : c.n + hits.sum + e.m = c.n + (hits ++ [e.m]).sum := by
      rw [List.sum_append, List.sum_singleton, Nat.add_assoc]
    obtain ⟨x, hx, hupdate⟩ := hupdate.resolve_left fun hnone => by
      rw [hslot.int_put] at hnone
      cases hnone.1
    obtain rfl : x = c.n + hits.sum :=
      (Int.ofNat_inj.1 (Option.some.inj (hslot.int_put.symm.trans hx))).symm
    rw [hsum] at hupdate
    -- the size of the file from this line on
    have hsize : F.length = (sp.map Slot.text).flatten.length + (c.pre.length + c.cnt.length) +
        (sq.map Slot.text).flatten.length := by
      rw [← flatten_readlines F, hlines, List.flatten_append, List.flatten_cons,
        List.length_append, List.length_append, List.length_append,
        length_put_of_fits (fun _ h => le_of_room h) hslot]
      omega
    rw [List.length_append] at hupdate
    by_cases hroom : (sp.map Slot.text).flatten.length +
        (c.pre.length + (dec (c.n + (hits ++ [e.m]).sum)).length) ≤ F.length
    · rw [if_pos hroom] at hupdate
      have hlast : sq = [] → outer c (dec (c.n + (hits ++ [e.m]).sum)).length := by
        rintro rfl
        have : (([] : List Slot).map Slot.text).flatten.length = 0 := rfl
        rw [outer]
        omega
      have hstep := h.raise hfit hlast
      rw [flatten_readlines] at hstep
      rcases hstep with ⟨hfit', htrack⟩ | ⟨hfit', hbad⟩
      · exact .inl ⟨hfit', _, hupdate, htrack⟩
      · refine .inr ⟨hfit', fun r hr => ?_⟩
        rw [hupdate] at hr
        cases hr
        exact ⟨_, rfl, hbad⟩
    · rw [if_neg hroom] at hupdate
      refine .inr ⟨fun hfit' => hroom ?_, fun r hr => ?_⟩
      · have := le_of_room (allFit_concat_iff.1 hfit').2.1
        omega
      · rw [hupdate] at hr
        cases hr

/-- A step from a file with a wrong count. -/
lemma off_step (hform : ∀ s ∈ slots, IsDefLine s.line) (h : Off slots (readlines F))
    (hr : updateMap e.variant e.count F = .ok r) :
    (place (isMatch e.variant) e.m slots = none ∧ r = none) ∨
    ∃ slots' F', place (isMatch e.variant) e.m slots = some slots' ∧ r = some F' ∧
      Bad slots' F' := by
  rcases updateMap_intact hform h.intact e with ⟨-, hplace, hupdate⟩ | ⟨-, hupdate⟩ |
    ⟨sp, c, hits, sq, cp, u, cq, rfl, hlines, hlen, hu, -, hplace, hupdate⟩
  · rw [hupdate] at hr
    cases hr
    exact .inl ⟨hplace, rfl⟩
  · rw [hupdate] at hr
    cases hr
  · rcases hupdate with ⟨-, hupdate⟩ | ⟨x, hx, hupdate⟩
    · rw [hupdate] at hr
      cases hr
    · rw [hupdate] at hr
      split at hr
      · cases hr
        refine .inr ⟨_, _, hplace, rfl, ?_⟩
        rw [hlines] at h
        have hbad := h.raise (m := e.m) hlen hu hx
        rw [← hlines, flatten_readlines] at hbad
        exact hbad
      · cases hr

lemma updateMap_eq_some {v n : Str} (h : updateMap v n F = .ok (some F')) :
    ∃ f : Found, search v n 0 (readlines F) = .ok (some f) ∧
      F' = overwrite F f.lastPos f.newstr := by
  rw [updateMap] at h
  cases hs : search v n 0 (readlines F) with
  | error => rw [hs] at h; cases h
  | ok r =>
    rw [hs] at h
    cases r with
    | none => cases h
    | some f =>
      refine ⟨f, rfl, ?_⟩
      have h : (if f.lastPos + f.newstr.length ≤ F.length then
          Except.ok (some (overwrite F f.lastPos f.newstr)) else .error .valueError) =
          (.ok (some F') : Except PyErr (Option Str)) := h
      split at h
      · cases h
        rfl
      · cases h

lemma forall₂_append_cons {R : Row → Str → Prop} {lp lr : List Row} {l : Row} {cs : List Str}
    (h : List.Forall₂ R (lp ++ l :: lr) cs) : ∃ cp cur cr, cs = cp ++ cur :: cr ∧
      List.Forall₂ R lp cp ∧ R l cur ∧ List.Forall₂ R lr cr := by
  induction lp generalizing cs with
  | nil =>
    cases h with
    | cons hl hr => exact ⟨[], _, _, rfl, .nil, hl, hr⟩
  | cons a lp ih =>
    cases h with
    | cons ha h =>
      obtain ⟨cp, cur, cr, rfl, hp, hl, hr⟩ := ih h
      exact ⟨_ :: cp, cur, cr, rfl, .cons ha hp, hl, hr⟩

/-- What is written into the line of an item. -/
lemma search_cell_eq_some {c : Cell} {w g : Str} {more L : List Str} {pos : ℕ} {f : Found}
    (hc : IsDefLine (.cell c)) (hw : w.splitOn ':' = g :: more)
    (hmatch : isMatch e.variant (.cell c) = true)
    (h : search e.variant e.count pos ((c.pre ++ w) :: L) = .ok (some f)) :
    ∃ a, int 10 g = some a ∧
      f = ⟨pos, c.pre ++ [':'].intercalate (decInt (a + e.m) :: more)⟩ := by
  rw [search_cell hc hw, if_pos hmatch, intOf] at h
  cases hg : int 10 g with
  | none => rw [hg] at h; cases h
  | some a =>
    rw [hg] at h
    cases h
    exact ⟨a, rfl, rfl⟩

/-- A step from a file with a number that is too long. -/
lemma broken_step {ls : List Row} (hform : ∀ l ∈ ls, IsDefLine l) (h : Broken ls F)
    (hr : updateMap e.variant e.count F = .ok (some F')) : Broken ls F' := by
  obtain ⟨f, hsearch, rfl⟩ := updateMap_eq_some hr
  obtain ⟨lp, c, lq, cp, x, rest, hls, hne, hp, rfl, hlen⟩ := h
  have hfront : ∀ l ∈ lp, IsDefLine l := fun l hl =>
    hform l (hls ▸ List.mem_append_left _ hl)
  have hc : IsDefLine (.cell c) := hform _ (by rw [hls]; simp)
  have hshape : List.Forall₂ Shaped lp cp := hp.imp fun _ _ h => h.shape
  have hopen : '\n' ∉ c.pre ++ dec x := fun h =>
    (List.mem_append.1 h).elim (newline_notMem_pre c) (newline_notMem_dec x)
  obtain ⟨z, more, hread⟩ := readlines_open (by simp [dec_ne_nil]) hopen rest
  rw [← List.append_assoc c.pre, readlines_append (ended_of_forall₂ hp), hread,
    List.append_assoc] at hsearch
  rcases scan_cases e.variant id lp with hpass | ⟨lp, l, lr, rfl, hpass, hl⟩
  · -- no line before it takes the count
    rw [search_append hshape hfront hpass, Nat.zero_add] at hsearch
    obtain ⟨z', more', hw⟩ := splitOn_append_of_notMem (colon_notMem_dec x) z
    cases hmatch : isMatch e.variant (.cell c) with
    | true =>
      obtain ⟨a, ha, rfl⟩ := search_cell_eq_some hc hw hmatch hsearch
      have hxa := le_of_int_dec_append ha
      obtain ⟨y, rfl⟩ := Int.eq_ofNat_of_zero_le (Int.le_trans (Int.natCast_nonneg x) hxa)
      have hxy : x ≤ y + e.m := Nat.le_trans (Int.ofNat_le.1 hxa) (Nat.le_add_right y e.m)
      obtain ⟨tail, htail⟩ := exists_intercalate_cons (dec (y + e.m)) more'
      rw [← Int.natCast_add, decInt_natCast, htail]
      exact Broken.raise_here hls hne hp hlen hxy
    | false =>
      rw [search_cell hc hw, if_neg (by simp [hmatch])] at hsearch
      refine Broken.raise_later hls hne hp hlen (Nat.le_trans ?_ (search_pos hsearch))
      simp only [List.length_append]
      omega
  · obtain ⟨cp, cur, cr, rfl, hbefore, hat, hbehind⟩ := forall₂_append_cons hp
    have hshape : List.Forall₂ Shaped lp cp := hbefore.imp fun _ _ h => h.shape
    have hfront' : ∀ l ∈ lp, IsDefLine l := fun l hl => hfront l (by simp [hl])
    have hline : IsDefLine l := hfront l (by simp)
    rw [List.append_assoc, List.cons_append, search_append hshape hfront' hpass,
      Nat.zero_add] at hsearch
    rcases hl with ⟨t, rfl, ht⟩ | ⟨d, rfl, hmatch⟩
    · obtain rfl : cur = t := hat.shape
      rw [search_other hline, if_pos ht] at hsearch
      cases hsearch
    · obtain ⟨u, rfl, hu, hnat⟩ := hat.shape
      obtain ⟨a, ha, rfl⟩ :=
        search_cell_eq_some hline (List.splitOn_eq_singleton hu) hmatch hsearch
      obtain ⟨y, rfl⟩ := Int.eq_ofNat_of_zero_le (hnat a ha)
      rw [← Int.natCast_add, decInt_natCast, List.intercalate_singleton]
      refine Broken.raise_before ?_ hne hbefore hat hbehind hlen hu
      rw [hls, List.append_assoc]
      rfl

lemma bad_step (hform : ∀ s ∈ slots, IsDefLine s.line) (h : Bad slots F)
    (hr : updateMap e.variant e.count F = .ok r) :
    Bad ((place (isMatch e.variant) e.m slots).getD slots) (r.getD F) := by
  rcases h with hoff | hbroken
  · rcases off_step hform hoff hr with ⟨hplace, rfl⟩ | ⟨slots', F', hplace, rfl, hbad⟩
    · rw [hplace]
      exact .inl hoff
    · rw [hplace]
      exact hbad
  · right
    have hlines : ((place (isMatch e.variant) e.m slots).getD slots).map Slot.line =
        slots.map Slot.line := by
      cases hplace : place (isMatch e.variant) e.m slots with
      | none => rfl
      | some slots' => exact (place_extends hplace).map_line
    rw [hlines]
    cases r with
    | none => exact hbroken
    | some F' =>
      refine broken_step (fun l hl => ?_) hbroken hr
      obtain ⟨s, hs, rfl⟩ := List.mem_map.1 hl
      exact hform s hs

end Steps

/-! ## Runs -/

/-- The file behind a log, and the log lines that were not found in it. -/
def fileRun : List LogEntry → Str → Except PyErr (Str × List LogEntry)
  | [], F => .ok (F, [])
  | e :: log, F => do
    match ← updateMap e.variant e.count F with
    | some F' => fileRun log F'
    | none =>
      let (F', rest) ← fileRun log F
      return (F', e :: rest)

section Runs

variable {e : LogEntry} {log rest : List LogEntry} {F F' : Str} {slots : List Slot}

lemma fileRun_cons_some (h : updateMap e.variant e.count F = .ok (some F')) :
    fileRun (e :: log) F = fileRun log F' := by
  rw [fileRun, h]
  rfl

lemma fileRun_cons_none (h : updateMap e.variant e.count F = .ok none) :
    fileRun (e :: log) F = (fileRun log F).map fun p => (p.1, e :: p.2) := by
  rw [fileRun, h]
  change Except.bind (fileRun log F) _ = _
  cases fileRun log F <;> rfl

lemma fileRun_cons_error {err : PyErr} (h : updateMap e.variant e.count F = .error err) :
    fileRun (e :: log) F = .error err := by
  rw [fileRun, h]
  rfl

/-- The first step of a run that does not raise. -/
lemma fileRun_cons_eq_ok (h : fileRun (e :: log) F = .ok (F', rest)) :
    ∃ r rest', updateMap e.variant e.count F = .ok r ∧
      fileRun log (r.getD F) = .ok (F', rest') := by
  cases hr : updateMap e.variant e.count F with
  | error err =>
    rw [fileRun_cons_error hr] at h
    cases h
  | ok r =>
    refine ⟨r, ?_⟩
    cases r with
    | some F₁ =>
      rw [fileRun_cons_some hr] at h
      exact ⟨rest, rfl, h⟩
    | none =>
      rw [fileRun_cons_none hr] at h
      cases hrun : fileRun log F with
      | error err =>
        rw [hrun] at h
        cases h
      | ok p =>
        rw [hrun] at h
        cases h
        exact ⟨p.2, rfl, hrun⟩

/-- The second file sees what is left over by the first one. -/
lemma foldlM_logLine_iff {A A' T T' : Str} :
    (log.map LogEntry.text).foldlM logLine (A, T) = .ok (A', T') ↔
      ∃ rest rest', fileRun log A = .ok (A', rest) ∧ fileRun rest T = .ok (T', rest') := by
  induction log generalizing A T with
  | nil =>
    constructor
    · intro h
      cases h
      exact ⟨[], [], rfl, rfl⟩
    · rintro ⟨rest, rest', h, h'⟩
      cases h
      cases h'
      rfl
  | cons e log ih =>
    have hline : logLine (A, T) e.text = (do
        match ← updateMap e.variant e.count A with
        | some mapArm => return (mapArm, T)
        | none =>
          match ← updateMap e.variant e.count T with
          | some mapThumb => return (A, mapThumb)
          | none => return (A, T)) := by
      rw [logLine, e.fields]
      rfl
    rw [List.map_cons, List.foldlM_cons, hline]
    cases hA : updateMap e.variant e.count A with
    | error err =>
      rw [fileRun_cons_error hA]
      constructor
      · intro h
        cases h
      · rintro ⟨rest, rest', h, -⟩
        cases h
    | ok r =>
      cases r with
      | some A₁ =>
        rw [fileRun_cons_some hA]
        exact ih
      | none =>
        rw [fileRun_cons_none hA]
        have hrest : (∃ rest rest',
            (fileRun log A).map (fun p => (p.1, e :: p.2)) = .ok (A', rest) ∧
            fileRun rest T = .ok (T', rest')) ↔
            ∃ rest rest', fileRun log A = .ok (A', rest) ∧
              fileRun (e :: rest) T = .ok (T', rest') := by
          cases fileRun log A with
          | error err => simp [Except.map]
          | ok p =>
            obtain ⟨A₁, rest⟩ := p
            simp [Except.map]
        rw [hrest]
        cases hT : updateMap e.variant e.count T with
        | error err =>
          simp only [fileRun_cons_error hT]
          constructor
          · intro h
            cases h
          · rintro ⟨rest, rest', -, h⟩
            cases h
        | ok r =>
          cases r with
          | some T₁ =>
            simp only [fileRun_cons_some hT]
            exact ih
          | none =>
            simp only [fileRun_cons_none hT]
            refine Iff.trans ih ⟨?_, ?_⟩
            · rintro ⟨rest, rest', h, h'⟩
              exact ⟨rest, e :: rest', h, by rw [h']; rfl⟩
            · rintro ⟨rest, rest', h, h'⟩
              cases hrun : fileRun rest T with
              | error err => rw [hrun] at h'; cases h'
              | ok p =>
                rw [hrun] at h'
                cases h'
                exact ⟨rest, p.2, h, hrun⟩

lemma assign_cons_fst (e : LogEntry) (log : List LogEntry) (slots : List Slot) :
    (assign slots (e :: log)).1 =
      (assign ((place (isMatch e.variant) e.m slots).getD slots) log).1 := by
  rw [assign]
  cases place (isMatch e.variant) e.m slots <;> rfl

lemma extends_place (hit : Row → Bool) (m : ℕ) (slots : List Slot) :
    Extends slots ((place hit m slots).getD slots) := by
  cases h : place hit m slots with
  | none => exact Extends.refl slots
  | some slots' => exact place_extends h

lemma extends_assign (slots : List Slot) (log : List LogEntry) :
    Extends slots (assign slots log).1 := by
  induction log generalizing slots with
  | nil => exact Extends.refl slots
  | cons e log ih =>
    rw [assign_cons_fst]
    exact (extends_place _ _ slots).trans (ih _)

lemma form_of_extends {slots' : List Slot} (h : Extends slots slots')
    (hform : ∀ s ∈ slots, IsDefLine s.line) : ∀ s ∈ slots', IsDefLine s.line := by
  have hlines : ∀ l ∈ slots.map Slot.line, IsDefLine l := by simpa using hform
  rw [← h.map_line] at hlines
  simpa using hlines

/-- A bad file stays bad. -/
lemma bad_run (hform : ∀ s ∈ slots, IsDefLine s.line) (h : Bad slots F)
    (hrun : fileRun log F = .ok (F', rest)) : Bad (assign slots log).1 F' := by
  induction log generalizing slots F rest with
  | nil =>
    cases hrun
    exact h
  | cons e log ih =>
    obtain ⟨r, rest', hr, hrun⟩ := fileRun_cons_eq_ok hrun
    rw [assign_cons_fst]
    exact ih (form_of_extends (extends_place _ _ slots) hform) (bad_step hform h hr) hrun

/-- As long as everything fits, the file is what the slots say. -/
lemma track_run (hform : ∀ s ∈ slots, IsDefLine s.line) (h : Track slots (readlines F))
    (hfit : AllFit outer (assign slots log).1)
    (hread : ∀ e ∈ log, Readable e.variant (slots.map Slot.line)) :
    ∃ F', fileRun log F = .ok (F', (assign slots log).2) ∧
      Track (assign slots log).1 (readlines F') := by
  induction log generalizing slots F with
  | nil => exact ⟨F, rfl, h⟩
  | cons e log ih =>
    obtain ⟨he, hread⟩ := List.forall_mem_cons.1 hread
    have hnow := hfit.of_extends (extends_assign slots (e :: log))
    rcases track_step hform h hnow he with ⟨hplace, hupdate⟩ | ⟨slots', hplace, hstep⟩
    · rw [assign, hplace] at hfit ⊢
      obtain ⟨F', hrun, htrack⟩ := ih hform h hfit hread
      exact ⟨F', by rw [fileRun_cons_none hupdate, hrun]; rfl, htrack⟩
    · rw [assign, hplace] at hfit ⊢
      have hext := place_extends hplace
      have hfit' := hfit.of_extends (extends_assign slots' log)
      obtain ⟨-, F₁, hupdate, htrack⟩ := hstep.resolve_right fun hnot => hnot.1 hfit'
      rw [← hext.map_line] at hread
      obtain ⟨F', hrun, htrack⟩ := ih (form_of_extends hext hform) htrack hfit hread
      exact ⟨F', by rw [fileRun_cons_some hupdate, hrun], htrack⟩

/-- A run that does not raise and leaves the file in order. -/
lemma fits_or_bad (hform : ∀ s ∈ slots, IsDefLine s.line) (h : Track slots (readlines F))
    (hfit : AllFit outer slots) (hrun : fileRun log F = .ok (F', rest)) :
    (AllFit outer (assign slots log).1 ∧
      ∀ e ∈ log, Readable e.variant (slots.map Slot.line)) ∨ Bad (assign slots log).1 F' := by
  induction log generalizing slots F rest with
  | nil => exact .inl ⟨hfit, by simp⟩
  | cons e log ih =>
    obtain ⟨r, rest', hr, hrun⟩ := fileRun_cons_eq_ok hrun
    have he : Readable e.variant (slots.map Slot.line) := by
      by_contra hnot
      rcases updateMap_intact hform h.intact e with ⟨hread, -⟩ | ⟨-, hupdate⟩ |
        ⟨_, _, _, _, _, _, _, -, -, -, -, hread, -⟩
      · exact hnot hread
      · rw [hr] at hupdate
        cases hupdate
      · exact hnot hread
    rw [assign_cons_fst, List.forall_mem_cons]
    rcases track_step hform h hfit he with ⟨hplace, hupdate⟩ | ⟨slots', hplace, hstep⟩
    · rw [hplace]
      rw [hr] at hupdate
      cases hupdate
      exact (ih hform h hfit hrun).imp_left fun ⟨hfits, hread⟩ => ⟨hfits, he, hread⟩
    · rw [hplace]
      have hext := place_extends hplace
      have hform' := form_of_extends hext hform
      rcases hstep with ⟨hfit', F₁, hupdate, htrack⟩ | ⟨-, hbad⟩
      · rw [hr] at hupdate
        cases hupdate
        rw [← hext.map_line]
        rw [← hext.map_line] at he
        exact (ih hform' htrack hfit' hrun).imp_left fun ⟨hfits, hread⟩ => ⟨hfits, he, hread⟩
      · obtain ⟨F₁, rfl, hbad⟩ := hbad r hr
        exact .inr (bad_run hform' hbad hrun)

end Runs

/-! ## The update -/

/-- The lines of the file are where they were.  Those that log lines have matched read as the old
count and the sum of theirs, and the other ones are unchanged. -/
structure DefFile.Updated (f : DefFile) (log : List LogEntry) (F : Str) : Prop where
  layout : List.Forall₂ (fun l cur => cur.length = l.text.length) f.lines (readlines F)
  counts : List.Forall₂ Slot.Is (assign f.slots log).1 (readlines F)

/-- There is a line, no search comes to a blank one, and every sum on the way can be written over
the count of its line, newline apart, so that it is read again. -/
structure DefFile.Fits (f : DefFile) (log : List LogEntry) : Prop where
  nonempty : f.lines ≠ []
  readable : ∀ e ∈ log, Readable e.variant f.lines
  sums : AllFit outer (assign f.slots log).1

namespace DefFile

variable (f : DefFile) (log : List LogEntry)

lemma map_line_slots : f.slots.map Slot.line = f.lines := by
  rw [slots, List.map_map]
  exact List.map_id _

lemma form_slots : ∀ s ∈ f.slots, IsDefLine s.line := by
  intro s hs
  obtain ⟨l, hl, rfl⟩ := List.mem_map.1 hs
  exact f.form l hl

lemma map_text_slots : f.slots.map Slot.text = f.lines.map Row.text := by
  rw [slots, List.map_map]
  refine List.map_congr_left fun l _ => ?_
  cases l <;> rfl

lemma readlines_text : readlines f.text = f.lines.map Row.text := readlines_flatten f.isLines

lemma text_eq_nil : f.text = [] ↔ f.lines = [] := by
  constructor
  · intro h
    have hread := f.readlines_text
    rw [h] at hread
    exact List.map_eq_nil_iff.1 hread.symm
  · intro h
    rw [text, h]
    rfl

lemma track_slots : Track f.slots (readlines f.text) := by
  refine ⟨f.readlines_text.trans f.map_text_slots.symm, ?_⟩
  rw [f.map_line_slots, f.readlines_text]
  exact intact_text f.isLines

lemma allFit_slots : AllFit outer f.slots := by
  refine allFit_of_forall fun s hs => ?_
  obtain ⟨l, -, rfl⟩ := List.mem_map.1 hs
  rfl

lemma map_line_assign : (assign f.slots log).1.map Slot.line = f.lines := by
  rw [(extends_assign f.slots log).map_line, f.map_line_slots]

variable {f log}

lemma Fits.updated {F : Str} (h : f.Fits log)
    (htrack : Track (assign f.slots log).1 (readlines F)) : f.Updated log F where
  counts := htrack.text ▸ forall₂_is_of_allFit h.sums
  layout := by
    rw [htrack.text, ← f.map_line_assign log]
    exact forall₂_length_of_allFit h.sums

lemma Updated.not_bad {F : Str} (h : f.Updated log F) : ¬Bad (assign f.slots log).1 F := by
  rintro (hoff | hbroken)
  · exact hoff.not_is h.counts
  · rw [f.map_line_assign] at hbroken
    exact hbroken.not_sameLength h.layout

lemma fileRun_updated_iff (hne : f.lines ≠ []) :
    (∃ F rest, fileRun log f.text = .ok (F, rest) ∧ f.Updated log F) ↔ f.Fits log := by
  constructor
  · rintro ⟨F, rest, hrun, hupdated⟩
    rcases fits_or_bad f.form_slots f.track_slots f.allFit_slots hrun with ⟨hfit, hread⟩ | hbad
    · exact ⟨hne, f.map_line_slots ▸ hread, hfit⟩
    · exact absurd hbad hupdated.not_bad
  · intro h
    obtain ⟨F, hrun, htrack⟩ := track_run f.form_slots f.track_slots h.sums
      (f.map_line_slots.symm ▸ h.readable)
    exact ⟨F, _, hrun, h.updated htrack⟩

end DefFile

/-- The update is local exactly if every sum fits into the count it replaces and nothing raises. -/
theorem parseCovLog_local_iff (arm thumb : DefFile) (log : List LogEntry) :
    (∃ arm' thumb', parseCovLog arm.text thumb.text (log.map LogEntry.text) = .ok (arm', thumb') ∧
      arm.Updated log arm' ∧ thumb.Updated (assign arm.slots log).2 thumb') ↔
    arm.Fits log ∧ thumb.Fits (assign arm.slots log).2 := by
  constructor
  · rintro ⟨arm', thumb', hrun, harm, hthumb⟩
    rw [parseCovLog] at hrun
    split at hrun
    · cases hrun
    · rename_i hmap
      rw [not_or, arm.text_eq_nil, thumb.text_eq_nil] at hmap
      obtain ⟨rest, rest', hfirst, hsecond⟩ := foldlM_logLine_iff.1 hrun
      have hfits := (DefFile.fileRun_updated_iff hmap.1).1 ⟨arm', rest, hfirst, harm⟩
      -- what is left over is what the slots of the first file leave over
      obtain ⟨F, hfirst', -⟩ := track_run arm.form_slots arm.track_slots hfits.sums
        (arm.map_line_slots.symm ▸ hfits.readable)
      rw [hfirst] at hfirst'
      cases hfirst'
      exact ⟨hfits, (DefFile.fileRun_updated_iff hmap.2).1 ⟨thumb', rest', hsecond, hthumb⟩⟩
  · rintro ⟨harm, hthumb⟩
    obtain ⟨arm', hfirst, htrack⟩ := track_run arm.form_slots arm.track_slots harm.sums
      (arm.map_line_slots.symm ▸ harm.readable)
    obtain ⟨thumb', rest', hsecond, hupdated⟩ :=
      (DefFile.fileRun_updated_iff hthumb.nonempty).2 hthumb
    refine ⟨arm', thumb', ?_, harm.updated htrack, hupdated⟩
    rw [parseCovLog, if_neg]
    · exact foldlM_logLine_iff.2 ⟨_, rest', hfirst, hsecond⟩
    · rw [not_or, arm.text_eq_nil, thumb.text_eq_nil]
      exact ⟨harm.nonempty, hthumb.nonempty⟩

/-- Two items and a log that takes the first count from 9 to 10. -/
def narrowArm : DefFile where
  lines := [
    .cell ⟨["1".toList, "adc".toList], "9\n".toList, 9, by decide, by decide, by decide⟩,
    .cell ⟨["2".toList, "sub".toList], "0\n".toList, 0, by decide, by decide, by decide⟩]
  form := by
    refine List.forall_mem_cons.2 ⟨?_, List.forall_mem_singleton.2 ?_⟩
    · exact ⟨"1".toList, "adc".toList, rfl, by decide⟩
    · exact ⟨"2".toList, "sub".toList, rfl, by decide⟩
  isLines :=
    ⟨.inl ⟨"1:adc:9".toList, by decide, rfl⟩, .inl ⟨"2:sub:0".toList, by decide, rfl⟩, trivial⟩

def narrowThumb : DefFile where
  lines := [.cell ⟨["3".toList, "mov".toList], "0\n".toList, 0, by decide, by decide, by decide⟩]
  form := List.forall_mem_singleton.2 ⟨"3".toList, "mov".toList, rfl, by decide⟩
  isLines := ⟨.inl ⟨"3:mov:0".toList, by decide, rfl⟩, trivial⟩

def narrowLog : List LogEntry :=
  [⟨"adc:1\n".toList, "adc".toList, "1\n".toList, [], 1, by decide, by decide⟩]

/-- The second digit takes the place of the newline, and the second item is gone. -/
theorem parseCovLog_joins_lines :
    narrowArm.text = "1:adc:9\n2:sub:0\n".toList ∧ narrowThumb.text = "3:mov:0\n".toList ∧
    narrowLog.map LogEntry.text = ["adc:1\n".toList] ∧
    parseCovLog narrowArm.text narrowThumb.text (narrowLog.map LogEntry.text) =
      .ok ("1:adc:102:sub:0\n".toList, "3:mov:0\n".toList) ∧
    readlines "1:adc:102:sub:0\n".toList = ["1:adc:102:sub:0\n".toList] ∧
    ¬narrowArm.Updated narrowLog "1:adc:102:sub:0\n".toList := by
  refine ⟨rfl, rfl, rfl, by decide, by decide, fun h => ?_⟩
  have hlen := h.layout.length_eq
  revert hlen
  decide

end Rit.GenCovRpt
