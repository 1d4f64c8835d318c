import Rit.Lib.PyInt

/-!
# Lines of a file that are overwritten in place

A text is the concatenation of its lines, all of which end with a newline, except perhaps the last
one (`IsLines`).  `overwrite` replaces a part of a text by one of the same length, whatever lines it
belongs to.

A count in a line is raised by writing the new number over the front of the old text, `put`.  A
larger number has at least as many digits, so a later number hides an earlier one (`put_put`).  What
is then read is at least the number that was written (`le_of_int_dec_append`), and it is more if
digits of the old text are left behind it.
-/

namespace InPlace

open PyStr PyInt

/-! ## Lines -/

/-- A line that ends with a newline. -/
def Ended (l : Str) : Prop := ∃ b, '\n' ∉ b ∧ l = b ++ ['\n']

/-- The lines of a text. -/
def IsLines : List Str → Prop
  | [] => True
  | l :: ls => (Ended l ∨ ls = [] ∧ l ≠ [] ∧ '\n' ∉ l) ∧ IsLines ls

section Lines

variable {A B L : List Str} {l x : Str}

lemma Ended.ne_nil (h : Ended l) : l ≠ [] := by
  obtain ⟨b, -, rfl⟩ := h
  simp

lemma Ended.not_open (h : Ended l) : '\n' ∈ l := by
  obtain ⟨b, -, rfl⟩ := h
  simp

/-- All lines before another one are ended. -/
lemma isLines_append_cons : IsLines (A ++ l :: B) ↔
    (∀ a ∈ A, Ended a) ∧ (Ended l ∨ B = [] ∧ l ≠ [] ∧ '\n' ∉ l) ∧ IsLines B := by
  induction A with
  | nil => simp [IsLines]
  | cons a A ih =>
    rw [List.cons_append, IsLines, ih, List.forall_mem_cons]
    constructor
    · rintro ⟨ha | ⟨hnil, -⟩, hA, hl, hB⟩
      · exact ⟨⟨ha, hA⟩, hl, hB⟩
      · simp at hnil
    · rintro ⟨⟨ha, hA⟩, hl, hB⟩
      exact ⟨.inl ha, hA, hl, hB⟩

lemma flatten_readlines (s : Str) : (readlines s).flatten = s := by
  induction s with
  | nil => rfl
  | cons c s ih =>
    rw [readlines]
    split
    · rename_i hc
      rw [List.flatten_cons, ih, hc]
      rfl
    · split
      · rename_i h
        rw [h] at ih
        rw [← ih]
        rfl
      · rename_i l ls h
        rw [h] at ih
        rw [← ih]
        rfl

lemma isLines_readlines (s : Str) : IsLines (readlines s) := by
  induction s with
  | nil => trivial
  | cons c s ih =>
    rw [readlines]
    split
    · exact ⟨.inl ⟨[], by simp, rfl⟩, ih⟩
    · rename_i hc
      split
      · exact ⟨.inr ⟨rfl, by simp, by simpa using Ne.symm hc⟩, trivial⟩
      · rename_i l ls h
        rw [h] at ih
        obtain ⟨hl, hls⟩ := ih
        refine ⟨?_, hls⟩
        rcases hl with ⟨b, hb, rfl⟩ | ⟨hnil, -, hl⟩
        · exact .inl ⟨c :: b, by simpa [hb] using Ne.symm hc, rfl⟩
        · exact .inr ⟨hnil, by simp, by simpa [hl] using Ne.symm hc⟩

/-- Ended lines in front of a text. -/
lemma readlines_append (hA : ∀ a ∈ A, Ended a) (s : Str) :
    readlines (A.flatten ++ s) = A ++ readlines s := by
  induction A with
  | nil => rfl
  | cons a A ih =>
    obtain ⟨b, hb, rfl⟩ := hA a List.mem_cons_self
    rw [List.flatten_cons, List.append_assoc, List.append_assoc, List.singleton_append,
      readlines_line hb, ih fun a ha => hA a (List.mem_cons_of_mem _ ha)]
    rfl

/-- A text without a newline is the beginning of a line. -/
lemma readlines_open (hx : x ≠ []) (hnew : '\n' ∉ x) (s : Str) :
    ∃ z ls, readlines (x ++ s) = (x ++ z) :: ls := by
  induction x with
  | nil => exact absurd rfl hx
  | cons c x ih =>
    have hc : c ≠ '\n' := fun h => hnew (h ▸ List.mem_cons_self)
    rw [List.cons_append, readlines, if_neg hc]
    cases x with
    | nil =>
      cases hs : readlines ([] ++ s) with
      | nil => exact ⟨[], [], rfl⟩
      | cons l ls => exact ⟨l, ls, rfl⟩
    | cons d x =>
      obtain ⟨z, ls, h⟩ := ih (by simp) fun h => hnew (List.mem_cons_of_mem c h)
      exact ⟨z, ls, by rw [h]; rfl⟩

/-- The lines of the concatenation of lines. -/
lemma readlines_flatten (h : IsLines L) : readlines L.flatten = L := by
  induction L with
  | nil => rfl
  | cons l L ih =>
    obtain ⟨hl, hL⟩ := h
    rcases hl with hl | ⟨rfl, hne, hnew⟩
    · have hA : ∀ a ∈ [l], Ended a := List.forall_mem_singleton.2 hl
      have := readlines_append hA L.flatten
      rw [ih hL] at this
      simpa using this
    · obtain ⟨z, ls, h⟩ := readlines_open hne hnew []
      have hflat := flatten_readlines (l ++ [])
      rw [h, List.flatten_cons, List.append_nil, List.append_assoc] at hflat
      obtain ⟨rfl, hls⟩ := List.append_eq_nil_iff.1 (List.append_right_eq_self.1 hflat)
      have hlines := isLines_readlines (l ++ [])
      rw [h] at hlines
      have hnil : ls = [] := by
        cases ls with
        | nil => rfl
        | cons b ls =>
          rcases hlines.1 with hend | ⟨hcons, -⟩
          · rw [List.append_nil] at hend
            exact absurd hend.not_open hnew
          · cases hcons
      rw [List.append_nil] at h
      simpa [hnil] using h

end Lines

/-! ## Overwriting -/

/-- The text with `s` written at a place. -/
def overwrite (F : Str) (pos : ℕ) (s : Str) : Str := F.take pos ++ s ++ F.drop (pos + s.length)

section Overwrite

variable {X Y s : Str} {pos : ℕ}

lemma overwrite_append (X Y s : Str) :
    overwrite (X ++ Y) X.length s = X ++ (s ++ Y.drop s.length) := by
  rw [overwrite, List.take_left, List.drop_append, List.append_assoc]
  rw [List.drop_eq_nil_of_le (by omega), Nat.add_sub_cancel_left, List.nil_append]

/-- What stands before the place is kept. -/
lemma overwrite_of_le (h : X.length ≤ pos) : ∃ Y', overwrite (X ++ Y) pos s = X ++ Y' := by
  refine ⟨Y.take (pos - X.length) ++ s ++ (X ++ Y).drop (pos + s.length), ?_⟩
  rw [overwrite, List.take_append, List.take_of_length_le h, List.append_assoc, List.append_assoc,
    List.append_assoc]

end Overwrite

/-! ## Numbers over a text -/

/-- The number written over the front of a text. -/
def put (n : ℕ) (t : Str) : Str := dec n ++ t.drop (dec n).length

section Put

variable {n m : ℕ} {t : Str}

lemma length_put (h : (dec n).length ≤ t.length) : (put n t).length = t.length := by
  rw [put, List.length_append, List.length_drop]
  omega

/-- A larger number has as many digits or more. -/
lemma length_dec_le (h : n ≤ m) : (dec n).length ≤ (dec m).length := by
  unfold dec
  induction m using Nat.strongRecOn generalizing n with
  | ind m ih =>
    have hm : 1 ≤ (Nat.toDigits 10 m).length :=
      List.length_pos_iff.2 Nat.toDigits_ne_nil
    rw [Nat.toDigits_eq_if (n := n) (by decide)]
    split
    · exact hm
    · rw [Nat.toDigits_eq_if (n := m) (by decide), if_neg (by omega), List.length_append,
        List.length_append]
      exact Nat.add_le_add_right (ih (m / 10) (by omega) (by omega)) _

/-- A later number hides an earlier one. -/
lemma put_put (h : n ≤ m) (t : Str) : put m (put n t) = put m t := by
  have hlen := length_dec_le h
  rw [put, put, put, List.drop_append, List.drop_eq_nil_of_le hlen, List.nil_append, List.drop_drop]
  congr 2
  omega

lemma le_of_pushDigit {c : Char} (h : pushDigit 10 n c = some m) : n ≤ m := by
  unfold pushDigit at h
  split at h
  · cases h
  · split at h
    · cases h
      omega
    · cases h

lemma le_of_foldlM_pushDigit (s : Str) : ∀ {n m : ℕ},
    s.foldlM (pushDigit 10) n = some m → n ≤ m := by
  induction s with
  | nil =>
    intro n m h
    cases h
    exact Nat.le_refl n
  | cons c s ih =>
    intro n m h
    rw [List.foldlM_cons] at h
    obtain ⟨k, hk, hrest⟩ := Option.bind_eq_some_iff.1 h
    exact Nat.le_trans (le_of_pushDigit hk) (ih hrest)

/-- Blanks are stripped only behind a number. -/
lemma strip_dec_append (n : ℕ) (t : Str) : ∃ r, strip (dec n ++ t) = dec n ++ r := by
  have htoken := token_dec n
  obtain ⟨z, hz, hplain⟩ := htoken.endsPlain
  obtain ⟨k, hk⟩ := List.getLast?_eq_some_iff.1 (Option.mem_def.1 hz)
  obtain ⟨c, d, hcd⟩ := List.exists_cons_of_ne_nil htoken.ne_nil
  have hc : isSpace c = false := htoken.plain c (by rw [hcd]; exact List.mem_cons_self)
  have hfront : (dec n ++ t).dropWhile isSpace = dec n ++ t := by
    rw [hcd, List.cons_append, List.dropWhile_cons_of_neg (by simp [hc])]
  have hback : (dec n).reverse.dropWhile isSpace = (dec n).reverse := by
    rw [hk, List.reverse_append, List.reverse_singleton, List.singleton_append,
      List.dropWhile_cons_of_neg (by simp [hplain])]
  refine ⟨(t.reverse.dropWhile isSpace).reverse, ?_⟩
  rw [strip, hfront, List.reverse_append, List.dropWhile_append, hback]
  split
  · rename_i h
    rw [List.isEmpty_iff.1 h]
    simp
  · simp

/-- What is read behind a number makes it larger, if it can be read at all. -/
lemma le_of_int_dec_append {v : ℤ} (h : int 10 (dec n ++ t) = some v) : (n : ℤ) ≤ v := by
  obtain ⟨r, hr⟩ := strip_dec_append n t
  obtain ⟨c, d, hcd⟩ := List.exists_cons_of_ne_nil (dec_ne_nil n)
  have hc : c.isDigit = true := isDigit_of_mem_dec c (by rw [hcd]; exact List.mem_cons_self)
  have hstrip : strip (dec n ++ t) = c :: (d ++ r) := by rw [hr, hcd]; rfl
  rw [int_of_isDigit hstrip hc, ← List.cons_append, ← hcd] at h
  obtain ⟨m, hm, rfl⟩ := Option.map_eq_some_iff.1 h
  rw [digits, if_neg (by simp [dec_ne_nil]), List.foldlM_append, dec,
    foldlM_pushDigit_toDigits (by decide) (by decide)] at hm
  exact Int.ofNat_le.2 (le_of_foldlM_pushDigit r hm)

end Put

end InPlace
