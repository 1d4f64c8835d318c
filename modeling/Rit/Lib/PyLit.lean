import Rit.Lib.PyInt

/-!
# Tuples of strings as Python prints and reads them

`reprTuple` is `repr` of a tuple of byte strings: a string is quoted, with its quote, backslashes
and unprintable characters escaped.  `evalTuple` is `eval` on such a text, and `evalNum` on a
decimal number; other expressions are not read.

The text is cut into tokens by a machine that goes over it character by character, so that a text in
several parts is handled part by part (`Lex.run_append`).  What `reprTuple` prints is read back
(`evalTuple_reprTuple`).
-/

namespace PyLit

open PyStr PyInt

/-! ## Printing -/

/-- A character inside of quotes `q`. -/
def reprChar (q c : Char) : Str :=
  if c = q ∨ c = '\\' then ['\\', c]
  else if c = '\t' then ['\\', 't']
  else if c = '\n' then ['\\', 'n']
  else if c = '\r' then ['\\', 'r']
  else if c.toNat < 32 ∨ 127 ≤ c.toNat then
    ['\\', 'x', (c.toNat / 16).digitChar, (c.toNat % 16).digitChar]
  else [c]

/-- The quote that `repr` takes. -/
def quoteOf (s : Str) : Char := if '\'' ∈ s ∧ '"' ∉ s then '"' else '\''

/-- `repr` of a string. -/
def reprStr (s : Str) : Str := quoteOf s :: (s.flatMap (reprChar (quoteOf s)) ++ [quoteOf s])

/-- `repr` of a tuple of strings. -/
def reprTuple : List Str → Str
  | [] => ['(', ')']
  | [s] => '(' :: (reprStr s ++ [',', ')'])
  | s :: ss => '(' :: (reprStr s ++ ss.flatMap (fun t => ',' :: ' ' :: reprStr t) ++ [')'])

/-! ## Reading -/

/-- The tokens of a tuple. -/
inductive Tok
  | opening | closing | comma
  | str (s : Str)
  deriving DecidableEq, Repr

/-- Where the lexer is: between tokens, in a string with the quote `q`, behind a backslash in it, or
behind `\x` and the first digit. -/
inductive Mode
  | out
  | str (q : Char) (s : Str)
  | esc (q : Char) (s : Str)
  | hex (q : Char) (s : Str)
  | hexLow (q : Char) (s : Str) (high : ℕ)
  deriving DecidableEq, Repr

/-- The tokens so far, and the mode. -/
structure Lex where
  toks : List Tok
  mode : Mode
  deriving DecidableEq, Repr

/-- The character behind a backslash, for the escapes of one character. -/
def unescape (c : Char) : Option Char :=
  [('\\', '\\'), ('\'', '\''), ('"', '"'), ('t', '\t'), ('n', '\n'), ('r', '\r')].lookup c

/-- One character. -/
def Lex.step (x : Lex) (c : Char) : Option Lex :=
  match x.mode with
  | .out =>
    if c = '(' then some ⟨x.toks ++ [.opening], .out⟩
    else if c = ')' then some ⟨x.toks ++ [.closing], .out⟩
    else if c = ',' then some ⟨x.toks ++ [.comma], .out⟩
    else if c = '\'' ∨ c = '"' then some ⟨x.toks, .str c []⟩
    else if c = ' ' ∨ c = '\t' then some x
    else none
  | .str q s =>
    if c = q then some ⟨x.toks ++ [.str s], .out⟩
    else if c = '\\' then some ⟨x.toks, .esc q s⟩
    else if c = '\n' then none
    else some ⟨x.toks, .str q (s ++ [c])⟩
  | .esc q s =>
    if c = 'x' then some ⟨x.toks, .hex q s⟩
    else (unescape c).map fun d => ⟨x.toks, .str q (s ++ [d])⟩
  | .hex q s => (digitVal c).map fun d => ⟨x.toks, .hexLow q s d⟩
  | .hexLow q s d => (digitVal c).map fun e => ⟨x.toks, .str q (s ++ [Char.ofNat (16 * d + e)])⟩

/-- A text, from a state of the lexer. -/
def Lex.run (x : Lex) (s : Str) : Option Lex := s.foldlM Lex.step x

/-- The elements of a tuple, behind its parenthesis or a comma. -/
def parseElems : List Tok → Option (List Str)
  | [.closing] => some []
  | [.str s, .closing] => some [s]
  | .str s :: .comma :: ts => (parseElems ts).map (s :: ·)
  | _ => none

/-- A tuple; one string in parentheses is not one. -/
def parseTuple : List Tok → Option (List Str)
  | [.opening, .str _, .closing] => none
  | .opening :: ts => parseElems ts
  | _ => none

/-- `eval` of a tuple of strings. -/
def evalTuple (s : Str) : Option (List Str) :=
  match Lex.run ⟨[], .out⟩ s with
  | some ⟨toks, .out⟩ => parseTuple toks
  | _ => none

/-- `eval` of a decimal number, which has no leading zero. -/
def evalNum (s : Str) : Option ℕ :=
  match strip s with
  | '0' :: _ :: _ => none
  | t => digits 10 t

/-! ## Reading what was printed -/

/-- A string of bytes. -/
def IsBytes (s : Str) : Prop := ∀ c ∈ s, c.toNat < 256

section Strings

variable {x y z : Lex} {q c : Char} {s t : Str} {ts : List Tok}

lemma Lex.run_append (h : x.run s = some y) (h' : y.run t = some z) : x.run (s ++ t) = some z := by
  unfold Lex.run at h h' ⊢
  rw [List.foldlM_append, h]
  exact h'

lemma Lex.run_cons (h : x.step c = some y) (h' : y.run t = some z) : x.run (c :: t) = some z := by
  unfold Lex.run at h' ⊢
  rw [List.foldlM_cons, h]
  exact h'

/-- A quote. -/
def IsQuote (q : Char) : Prop := q = '\'' ∨ q = '"'

lemma isQuote_quoteOf (s : Str) : IsQuote (quoteOf s) := by
  unfold quoteOf
  split
  · exact .inr rfl
  · exact .inl rfl

lemma step_backslash (hq : IsQuote q) : Lex.step ⟨ts, .str q s⟩ '\\' = some ⟨ts, .esc q s⟩ := by
  rcases hq with rfl | rfl <;> rfl

lemma run_escape (hq : IsQuote q) (hx : c ≠ 'x') {d : Char} (hd : unescape c = some d) :
    Lex.run ⟨ts, .str q s⟩ ['\\', c] = some ⟨ts, .str q (s ++ [d])⟩ := by
  refine Lex.run_cons (step_backslash hq) (Lex.run_cons ?_ rfl)
  simp [Lex.step, hx, hd]

lemma run_hex (hq : IsQuote q) (hc : c.toNat < 256) :
    Lex.run ⟨ts, .str q s⟩ ['\\', 'x', (c.toNat / 16).digitChar, (c.toNat % 16).digitChar] =
      some ⟨ts, .str q (s ++ [c])⟩ := by
  have hval : ∀ d < 16, digitVal d.digitChar = some d := by decide
  have hhigh := hval (c.toNat / 16) (by omega)
  have hlow := hval (c.toNat % 16) (Nat.mod_lt _ (by decide))
  have hfirst : Lex.step ⟨ts, .hex q s⟩ (c.toNat / 16).digitChar =
      some ⟨ts, .hexLow q s (c.toNat / 16)⟩ := by
    simp [Lex.step, hhigh]
  have hsecond : Lex.step ⟨ts, .hexLow q s (c.toNat / 16)⟩ (c.toNat % 16).digitChar =
      some ⟨ts, .str q (s ++ [c])⟩ := by
    simp [Lex.step, hlow, Nat.div_add_mod]
  exact Lex.run_cons (step_backslash hq)
    (Lex.run_cons rfl (Lex.run_cons hfirst (Lex.run_cons hsecond rfl)))

/-- A printed character is read back. -/
lemma run_reprChar (hq : IsQuote q) (hc : c.toNat < 256) :
    Lex.run ⟨ts, .str q s⟩ (reprChar q c) = some ⟨ts, .str q (s ++ [c])⟩ := by
  unfold reprChar
  split_ifs with h₁ h₂ h₃ h₄ h₅
  · rcases h₁ with rfl | rfl
    · rcases hq with rfl | rfl
      · exact run_escape (.inl rfl) (by decide) rfl
      · exact run_escape (.inr rfl) (by decide) rfl
    · exact run_escape hq (by decide) rfl
  · rw [h₂]
    exact run_escape hq (by decide) rfl
  · rw [h₃]
    exact run_escape hq (by decide) rfl
  · rw [h₄]
    exact run_escape hq (by decide) rfl
  · exact run_hex hq hc
  · refine Lex.run_cons ?_ rfl
    simp [Lex.step, not_or.1 h₁, h₃]

lemma run_body (hq : IsQuote q) (h : IsBytes t) :
    Lex.run ⟨ts, .str q s⟩ (t.flatMap (reprChar q)) = some ⟨ts, .str q (s ++ t)⟩ := by
  induction t generalizing s with
  | nil =>
    rw [List.append_nil]
    rfl
  | cons c t ih =>
    rw [List.flatMap_cons, List.append_cons]
    exact Lex.run_append (run_reprChar hq (h c List.mem_cons_self))
      (ih fun d hd => h d (List.mem_cons_of_mem c hd))

/-- A printed string is one token. -/
lemma run_reprStr (h : IsBytes s) :
    Lex.run ⟨ts, .out⟩ (reprStr s) = some ⟨ts ++ [.str s], .out⟩ := by
  have hq := isQuote_quoteOf s
  have hopen : Lex.step ⟨ts, .out⟩ (quoteOf s) = some ⟨ts, .str (quoteOf s) []⟩ := by
    rcases hq with hq | hq <;> rw [hq] <;> rfl
  refine Lex.run_cons hopen (Lex.run_append (run_body hq h) (Lex.run_cons ?_ rfl))
  simp [Lex.step]

end Strings

section Tuples

variable {ss : List Str} {s : Str} {ts : List Tok}

lemma run_elems (h : ∀ s ∈ ss, IsBytes s) : Lex.run ⟨ts, .out⟩
      (ss.flatMap fun t => ',' :: ' ' :: reprStr t) =
    some ⟨ts ++ ss.flatMap (fun t => [.comma, .str t]), .out⟩ := by
  induction ss generalizing ts with
  | nil =>
    rw [List.flatMap_nil, List.flatMap_nil, List.append_nil]
    rfl
  | cons s ss ih =>
    rw [List.flatMap_cons, List.flatMap_cons, ← List.append_assoc]
    refine Lex.run_append (Lex.run_cons rfl (Lex.run_cons rfl ?_))
      (ih fun t ht => h t (List.mem_cons_of_mem s ht))
    rw [run_reprStr (h s List.mem_cons_self)]
    simp

/-- The tokens of two or more elements, behind the first. -/
lemma parseElems_flatMap (s : Str) (ss : List Str) :
    parseElems (.str s :: (ss.flatMap (fun t => [.comma, .str t]) ++ [.closing])) =
      some (s :: ss) := by
  induction ss generalizing s with
  | nil => rfl
  | cons t ss ih =>
    have hcons : parseElems (.str s :: .comma :: (.str t ::
        (ss.flatMap (fun t => [Tok.comma, .str t]) ++ [.closing]))) =
        (parseElems (.str t :: (ss.flatMap (fun t => [Tok.comma, .str t]) ++ [.closing]))).map
          (s :: ·) := rfl
    rw [ih] at hcons
    exact hcons

/-- A printed tuple is read back. -/
lemma evalTuple_reprTuple (h : ∀ s ∈ ss, IsBytes s) : evalTuple (reprTuple ss) = some ss := by
  match ss, h with
  | [], _ => rfl
  | [s], h =>
    have hrun : Lex.run ⟨[], .out⟩ (reprTuple [s]) =
        some ⟨[.opening, .str s, .comma, .closing], .out⟩ :=
      Lex.run_cons rfl (Lex.run_append (run_reprStr (h s List.mem_cons_self)) rfl)
    rw [evalTuple, hrun]
    rfl
  | s :: t :: ss, h =>
    have hrun : Lex.run ⟨[], .out⟩ (reprTuple (s :: t :: ss)) =
        some ⟨.opening :: .str s :: ((t :: ss).flatMap (fun t => [.comma, .str t]) ++ [.closing]),
          .out⟩ := by
      refine Lex.run_cons rfl (Lex.run_append (Lex.run_append (run_reprStr (h s List.mem_cons_self))
        (run_elems fun u hu => h u (List.mem_cons_of_mem s hu))) ?_)
      simp [Lex.run, Lex.step]
    rw [evalTuple, hrun]
    exact parseElems_flatMap s (t :: ss)

/-! The characters of a printed tuple. -/

/-- The characters that quotes, escapes and the tuple itself have. -/
def ownChars : Str := ['(', ')', ',', ' ', '\'', '"', '\\', 'x', 't', 'n', 'r'] ++
  (List.range 16).map Nat.digitChar

lemma mem_ownChars_of_isQuote {q : Char} (hq : IsQuote q) : q ∈ ownChars := by
  rcases hq with rfl | rfl <;> decide

lemma mem_reprChar {q c d : Char} (hq : IsQuote q) (hc : c.toNat < 256) (h : d ∈ reprChar q c) :
    d ∈ ownChars ∨ d = c ∧ 32 ≤ c.toNat := by
  have hdigit : ∀ n < 16, n.digitChar ∈ ownChars := by decide
  have hown : '\\' ∈ ownChars ∧ 't' ∈ ownChars ∧ 'n' ∈ ownChars ∧ 'r' ∈ ownChars ∧
    'x' ∈ ownChars := by decide
  unfold reprChar at h
  split_ifs at h with h₁ h₂ h₃ h₄ h₅ <;>
    simp only [List.mem_cons, List.not_mem_nil, or_false] at h
  · have hc : c ∈ ownChars := h₁.elim (· ▸ mem_ownChars_of_isQuote hq) (· ▸ hown.1)
    exact .inl (h.elim (· ▸ hown.1) (· ▸ hc))
  · exact .inl (h.elim (· ▸ hown.1) (· ▸ hown.2.1))
  · exact .inl (h.elim (· ▸ hown.1) (· ▸ hown.2.2.1))
  · exact .inl (h.elim (· ▸ hown.1) (· ▸ hown.2.2.2.1))
  · rcases h with rfl | rfl | rfl | rfl
    · exact .inl hown.1
    · exact .inl hown.2.2.2.2
    · exact .inl (hdigit _ (by omega))
    · exact .inl (hdigit _ (Nat.mod_lt _ (by decide)))
  · exact .inr ⟨h, by omega⟩

lemma mem_reprStr {d : Char} (hs : IsBytes s) (h : d ∈ reprStr s) :
    d ∈ ownChars ∨ d ∈ s ∧ 32 ≤ d.toNat := by
  have hq := isQuote_quoteOf s
  rcases List.mem_cons.1 h with rfl | h
  · exact .inl (mem_ownChars_of_isQuote hq)
  rcases List.mem_append.1 h with h | h
  · obtain ⟨c, hc, hd⟩ := List.mem_flatMap.1 h
    rcases mem_reprChar hq (hs c hc) hd with hown | ⟨rfl, hge⟩
    · exact .inl hown
    · exact .inr ⟨hc, hge⟩
  · rw [List.mem_singleton.1 h]
    exact .inl (mem_ownChars_of_isQuote hq)

/-- A character of a printed tuple is one of the tuple's own or one of a string, and in the second
case it is not a control character. -/
lemma mem_reprTuple {d : Char} (hss : ∀ s ∈ ss, IsBytes s) (h : d ∈ reprTuple ss) :
    d ∈ ownChars ∨ ∃ s ∈ ss, d ∈ s ∧ 32 ≤ d.toNat := by
  have hclose : ')' ∈ ownChars := by decide
  have hcomma : ',' ∈ ownChars := by decide
  have hstr : ∀ s ∈ ss, d ∈ reprStr s → d ∈ ownChars ∨ ∃ s ∈ ss, d ∈ s ∧ 32 ≤ d.toNat := by
    intro s hs hd
    rcases mem_reprStr (hss s hs) hd with h | h
    · exact .inl h
    · exact .inr ⟨s, hs, h⟩
  match ss, hss, h, hstr with
  | [], _, h, _ =>
    rcases List.mem_cons.1 h with rfl | h
    · exact .inl (by decide)
    · exact .inl (List.mem_singleton.1 h ▸ hclose)
  | [s], _, h, hstr =>
    rcases List.mem_cons.1 h with rfl | h
    · exact .inl (by decide)
    rcases List.mem_append.1 h with h | h
    · exact hstr s List.mem_cons_self h
    rcases List.mem_cons.1 h with rfl | h
    · exact .inl hcomma
    · exact .inl (List.mem_singleton.1 h ▸ hclose)
  | s :: t :: ss, _, h, hstr =>
    rcases List.mem_cons.1 h with rfl | h
    · exact .inl (by decide)
    rcases List.mem_append.1 h with h | h
    · rcases List.mem_append.1 h with h | h
      · exact hstr s List.mem_cons_self h
      · obtain ⟨u, hu, h⟩ := List.mem_flatMap.1 h
        rcases List.mem_cons.1 h with rfl | h
        · exact .inl hcomma
        rcases List.mem_cons.1 h with rfl | h
        · exact .inl (by decide)
        · exact hstr u (List.mem_cons_of_mem s hu) h
    · exact .inl (List.mem_singleton.1 h ▸ hclose)

/-- A printed tuple stands on one line. -/
lemma newline_notMem_reprTuple (hss : ∀ s ∈ ss, IsBytes s) : '\n' ∉ reprTuple ss := by
  intro h
  rcases mem_reprTuple hss h with h | ⟨s, -, -, h⟩
  · exact absurd h (by decide)
  · exact absurd h (by decide)

/-- A printed tuple has a colon only if one of its strings has. -/
lemma colon_notMem_reprTuple (hss : ∀ s ∈ ss, IsBytes s) (hcolon : ∀ s ∈ ss, ':' ∉ s) :
    ':' ∉ reprTuple ss := by
  intro h
  rcases mem_reprTuple hss h with h | ⟨s, hs, h, -⟩
  · exact absurd h (by decide)
  · exact hcolon s hs h

end Tuples

/-- A printed number with blanks around it is read back. -/
lemma evalNum_dec {l r : Str} (hl : ∀ c ∈ l, isSpace c = true) (hr : ∀ c ∈ r, isSpace c = true)
    (n : ℕ) : evalNum (l ++ dec n ++ r) = some n := by
  rw [evalNum, strip_blanks hl hr (token_dec n)]
  split
  · rename_i heq
    have hzero := dec_eq_of_head (n := n) (by rw [heq]; rfl)
    rw [heq] at hzero
    cases hzero
  · exact digits_dec n

end PyLit
