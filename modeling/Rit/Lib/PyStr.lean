import Mathlib.Tactic.Common

/-!
# Strings as Python handles them

A string is a list of characters.  `splitlines`, `strip` and `startsWith` are the methods of the
same names; `split` by one character and its inverse `join` are `List.splitOn` and
`List.intercalate`.

A text that was printed line by line, no line holding a line break, is read back by `splitlines`
(`splitlines_flatMap`).
-/

namespace PyStr

/-- A string. -/
abbrev Str := List Char

/-- `str.isspace` of one character. -/
def isSpace (c : Char) : Bool := c ∈ [' ', '\t', '\n', '\r', '\x0b', '\x0c']

/-- `str.strip`. -/
def strip (s : Str) : Str := ((s.dropWhile isSpace).reverse.dropWhile isSpace).reverse

/-- `str.startswith`. -/
def startsWith (s p : Str) : Bool := p.isPrefixOf s

/-- A character that ends a line. -/
def isBreak (c : Char) : Bool := c = '\n' || c = '\r'

/-- `str.splitlines`. -/
def splitlines : Str → List Str
  | [] => []
  | '\r' :: '\n' :: s => [] :: splitlines s
  | c :: s =>
    if isBreak c then [] :: splitlines s
    else
      match splitlines s with
      | [] => [[c]]
      | l :: ls => (c :: l) :: ls

/-- The lines of a file, each with the newline at its end; the last one may have none. -/
def readlines : Str → List Str
  | [] => []
  | c :: s =>
    if c = '\n' then ['\n'] :: readlines s
    else
      match readlines s with
      | [] => [[c]]
      | l :: ls => (c :: l) :: ls

/-- `str.split()`: the words between the blanks. -/
def split (s : Str) : List Str := (s.splitOnP isSpace).filter (· ≠ [])

/-- `str.split(sep)`, with the rest of a separator still to be skipped. -/
def splitSkip (sep : Str) : ℕ → Str → List Str
  | _, [] => [[]]
  | skip + 1, _ :: s => splitSkip sep skip s
  | 0, c :: s =>
    if sep.isPrefixOf (c :: s) then [] :: splitSkip sep (sep.length - 1) s
    else
      match splitSkip sep 0 s with
      | [] => [[c]]
      | l :: ls => (c :: l) :: ls

/-- `str.split(sep)`, for a separator of several characters. -/
def splitStr (sep s : Str) : List Str := splitSkip sep 0 s

/-! ## Kinds of strings -/

/-- No character breaks the line. -/
def OneLine (s : Str) : Prop := ∀ c ∈ s, isBreak c = false

/-- The last character is not a blank. -/
def EndsPlain (s : Str) : Prop := ∃ z ∈ s.getLast?, isSpace z = false

/-- A nonempty string without blanks. -/
structure Token (s : Str) : Prop where
  ne_nil : s ≠ []
  plain : ∀ c ∈ s, isSpace c = false

section Kinds

variable {s t : Str}

/-- For a literal, by evaluation. -/
lemma Token.of_all (hne : s ≠ []) (h : s.all (fun c => !isSpace c) = true) : Token s :=
  ⟨hne, by simpa using h⟩

lemma isBreak_of_not_isSpace {c : Char} (h : isSpace c = false) : isBreak c = false := by
  simp only [isSpace, List.mem_cons, List.not_mem_nil, or_false, decide_eq_false_iff_not,
    not_or] at h
  simp [isBreak, h]

lemma OneLine.append (hs : OneLine s) (ht : OneLine t) : OneLine (s ++ t) := by
  intro c hc
  rcases List.mem_append.1 hc with hc | hc
  · exact hs c hc
  · exact ht c hc

lemma EndsPlain.append (h : EndsPlain t) (s : Str) : EndsPlain (s ++ t) := by
  obtain ⟨z, hz, hplain⟩ := h
  refine ⟨z, ?_, hplain⟩
  rw [List.getLast?_append, Option.mem_def.1 hz]
  rfl

lemma Token.oneLine (h : Token s) : OneLine s := fun c hc => isBreak_of_not_isSpace (h.plain c hc)

lemma Token.endsPlain (h : Token s) : EndsPlain s := by
  refine ⟨s.getLast h.ne_nil, ?_, h.plain _ (List.getLast_mem h.ne_nil)⟩
  rw [List.getLast?_eq_some_getLast h.ne_nil]
  rfl

lemma Token.append (hs : Token s) (ht : Token t) : Token (s ++ t) where
  ne_nil := List.append_ne_nil_of_left_ne_nil hs.ne_nil t
  plain := by
    intro c hc
    rcases List.mem_append.1 hc with hc | hc
    · exact hs.plain c hc
    · exact ht.plain c hc

lemma Token.not_mem_blank (h : Token s) : ' ' ∉ s := by
  intro hmem
  have hblank := h.plain ' ' hmem
  cases hblank

/-- What holds of the digits holds of the characters of a number. -/
lemma forall_mem_toDigits {P : Char → Prop} {b : ℕ} (hb : 1 < b) (h : ∀ d < b, P d.digitChar)
    (n : ℕ) : ∀ c ∈ Nat.toDigits b n, P c := by
  induction n using Nat.strongRecOn with
  | ind n ih =>
    intro c hc
    rw [Nat.toDigits_eq_if hb] at hc
    split at hc
    · rw [List.mem_singleton.1 hc]
      exact h n ‹_›
    · rcases List.mem_append.1 hc with hc | hc
      · exact ih (n / b) (Nat.div_lt_self (by omega) hb) c hc
      · rw [List.mem_singleton.1 hc]
        exact h (n % b) (Nat.mod_lt n (by omega))

lemma token_toDigits {b : ℕ} (hb : 1 < b) (hb' : b ≤ 16) (n : ℕ) : Token (Nat.toDigits b n) where
  ne_nil := Nat.toDigits_ne_nil
  plain := by
    have hdigit : ∀ d < 16, isSpace d.digitChar = false := by decide
    exact forall_mem_toDigits hb (fun d hd => hdigit d (Nat.lt_of_lt_of_le hd hb')) n

end Kinds

/-! ## Reading printed lines back -/

section Lines

variable {l s : Str}

lemma splitlines_newline (s : Str) : splitlines ('\n' :: s) = [] :: splitlines s := by
  rw [splitlines]
  · rfl
  · rintro _ ⟨⟩

lemma splitlines_cons {c : Char} (hc : isBreak c = false) {ls : List Str}
    (h : splitlines s = l :: ls) : splitlines (c :: s) = (c :: l) :: ls := by
  rw [splitlines, h, hc]
  · rfl
  · rintro s' rfl -
    cases hc

lemma splitlines_line (hl : OneLine l) (s : Str) :
    splitlines (l ++ '\n' :: s) = l :: splitlines s := by
  induction l with
  | nil => exact splitlines_newline s
  | cons c l ih =>
    exact splitlines_cons (hl c List.mem_cons_self) (ih fun d hd =>
      hl d (List.mem_cons_of_mem c hd))

/-- Lines that were printed one after the other. -/
lemma splitlines_flatMap {ls : List Str} (h : ∀ l ∈ ls, OneLine l) :
    splitlines (ls.flatMap fun l => l ++ ['\n']) = ls := by
  induction ls with
  | nil => rfl
  | cons l ls ih =>
    rw [List.flatMap_cons, List.append_assoc, List.singleton_append,
      splitlines_line (h l List.mem_cons_self), ih fun l' hl' => h l' (List.mem_cons_of_mem l hl')]

lemma readlines_line (hl : '\n' ∉ l) (s : Str) :
    readlines (l ++ '\n' :: s) = (l ++ ['\n']) :: readlines s := by
  induction l with
  | nil => rfl
  | cons c l ih =>
    have hc : c ≠ '\n' := fun h => hl (h ▸ List.mem_cons_self)
    rw [List.cons_append, readlines, if_neg hc, ih fun h => hl (List.mem_cons_of_mem c h)]
    rfl

/-- The lines of a file that was written line by line. -/
lemma readlines_flatMap {ls : List Str} (h : ∀ l ∈ ls, '\n' ∉ l) :
    readlines (ls.flatMap fun l => l ++ ['\n']) = ls.map fun l => l ++ ['\n'] := by
  induction ls with
  | nil => rfl
  | cons l ls ih =>
    rw [List.flatMap_cons, List.append_assoc, List.singleton_append,
      readlines_line (h l List.mem_cons_self), ih fun l' hl' => h l' (List.mem_cons_of_mem l hl')]
    rfl

/-- A string that neither starts nor ends with a blank. -/
lemma strip_eq_self {a : Char} (ha : isSpace a = false) (h : EndsPlain (a :: s)) :
    strip (a :: s) = a :: s := by
  obtain ⟨z, hz, hplain⟩ := h
  obtain ⟨m, hm⟩ := List.getLast?_eq_some_iff.1 (Option.mem_def.1 hz)
  have hlast : (a :: s).reverse = z :: m.reverse := by rw [hm]; simp
  rw [strip, List.dropWhile_cons_of_neg (by simp [ha]), hlast,
    List.dropWhile_cons_of_neg (by simp [hplain]), ← hlast, List.reverse_reverse]

/-- Blanks are stripped around the first other character. -/
lemma head?_strip (s : Str) : (strip s).head? = (s.dropWhile isSpace).head? := by
  have hplain := List.head?_dropWhile_not isSpace s
  rw [strip]
  cases hs : s.dropWhile isSpace with
  | nil => rfl
  | cons a r =>
    rw [hs] at hplain
    have ha : isSpace a = false := hplain
    rw [List.reverse_cons, List.dropWhile_append]
    split
    · rw [List.dropWhile_cons_of_neg (by simp [ha])]
      rfl
    · rw [List.reverse_append]
      rfl

lemma strip_blanks {l t r : Str} (hl : ∀ c ∈ l, isSpace c = true) (hr : ∀ c ∈ r, isSpace c = true)
    (ht : Token t) : strip (l ++ t ++ r) = t := by
  obtain ⟨a, m, rfl⟩ := List.exists_cons_of_ne_nil ht.ne_nil
  have ha : isSpace a = false := ht.plain a List.mem_cons_self
  obtain ⟨z, hz, hplain⟩ := ht.endsPlain
  obtain ⟨k, hk⟩ := List.getLast?_eq_some_iff.1 (Option.mem_def.1 hz)
  have hrev : ((a :: m) ++ r).reverse = r.reverse ++ (z :: k.reverse) := by
    rw [List.reverse_append, hk, List.reverse_append]
    rfl
  rw [strip, List.append_assoc, List.dropWhile_append_of_pos hl, List.cons_append,
    List.dropWhile_cons_of_neg (by simp [ha]), ← List.cons_append, hrev,
    List.dropWhile_append_of_pos (fun c hc => hr c (List.mem_reverse.1 hc)),
    List.dropWhile_cons_of_neg (by simp [hplain]), hk]
  simp

end Lines

/-! ## Taking a string apart at its blanks -/

/-- What stands before the first blank and what stands after it. -/
def cutBlank (s : Str) : Str × Str := (s.takeWhile (· ≠ ' '), (s.dropWhile (· ≠ ' ')).drop 1)

variable {t rest : Str}

lemma splitOn_blank (h : ' ' ∉ t) (rest : Str) :
    (t ++ ' ' :: rest).splitOn ' ' = t :: rest.splitOn ' ' :=
  List.splitOn_append_cons_self_of_not_mem h rest

lemma cutBlank_append (h : ' ' ∉ t) (rest : Str) : cutBlank (t ++ ' ' :: rest) = (t, rest) := by
  have ht : ∀ c ∈ t, decide (c ≠ ' ') = true := by
    intro c hc
    exact decide_eq_true fun hblank => h (hblank ▸ hc)
  rw [cutBlank, List.takeWhile_append_of_pos ht, List.dropWhile_append_of_pos ht]
  simp

/-! ## Bytes

The bytes of a literal are much cheaper to evaluate than its characters, so a check of a whole
table of names is made on them. -/

/-- The bytes of a string. -/
def bytes (s : String) : List UInt8 := s.toByteArray.data.toList

lemma bytes_eq (s : String) : bytes s = s.toList.flatMap String.utf8EncodeChar := by
  have h : s.toByteArray = s.toList.utf8Encode := by
    rw [← String.toByteArray_ofList, String.ofList_toList]
  rw [bytes, h, List.utf8Encode, List.toList_data_toByteArray]

lemma val_le_of_isSpace {c : Char} (h : isSpace c = true) : c.val.toNat ≤ 32 := by
  have hmem : c ∈ [' ', '\t', '\n', '\r', '\x0b', '\x0c'] := of_decide_eq_true h
  simp only [List.mem_cons, List.not_mem_nil, or_false] at hmem
  rcases hmem with rfl | rfl | rfl | rfl | rfl | rfl <;> decide

/-- A string all of whose bytes are past the blank is a token: a blank is its own byte. -/
lemma token_of_bytes {s : String} (hne : bytes s ≠ []) (h : ∀ b ∈ bytes s, 32 < b.toNat) :
    Token s.toList := by
  rw [bytes_eq] at hne h
  refine ⟨fun hnil => hne (by rw [hnil]; rfl), fun c hc => ?_⟩
  by_contra hspace
  have hle := val_le_of_isSpace (eq_true_of_ne_false hspace)
  have henc : String.utf8EncodeChar c = [UInt8.ofNat c.val.toNat] := if_pos (by omega)
  have hmem : UInt8.ofNat c.val.toNat ∈ s.toList.flatMap String.utf8EncodeChar :=
    List.mem_flatMap.2 ⟨c, hc, by rw [henc]; exact List.mem_singleton.2 rfl⟩
  have hlt := h _ hmem
  rw [UInt8.toNat_ofNat'] at hlt
  omega

end PyStr
