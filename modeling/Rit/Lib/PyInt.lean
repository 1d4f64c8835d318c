import Mathlib.Data.Int.Notation
import Rit.Lib.Draw
import Rit.Lib.PyStr

/-!
# Numbers as Python prints and reads them

`int b s` is Python 2's `int(s, b)` for the bases 10 and 16: blanks around the number, a sign, in
base 16 a leading `0x`, and then at least one digit.  `dec` is `str` of a natural number.  A printed
number is read back (`digits_dec`).
-/

namespace PyInt

open PyStr

/-! ## Reading -/

/-- The value of a digit. -/
def digitVal (c : Char) : Option ℕ :=
  if c.isDigit then some (c.toNat - '0'.toNat)
  else if 'a' ≤ c ∧ c ≤ 'f' then some (c.toNat - 'a'.toNat + 10)
  else if 'A' ≤ c ∧ c ≤ 'F' then some (c.toNat - 'A'.toNat + 10)
  else none

/-- One more digit. -/
def pushDigit (b n : ℕ) (c : Char) : Option ℕ :=
  match digitVal c with
  | none => none
  | some d => if d < b then some (b * n + d) else none

/-- The digits of a number, of which there is at least one. -/
def digits (b : ℕ) (s : Str) : Option ℕ := if s = [] then none else s.foldlM (pushDigit b) 0

/-- The leading `0x` of base 16. -/
def dropBase (b : ℕ) (s : Str) : Str :=
  match s with
  | '0' :: 'x' :: ds => if b = 16 then ds else s
  | '0' :: 'X' :: ds => if b = 16 then ds else s
  | _ => s

/-- `int(s, b)`; `none` is the `ValueError`.  Blanks may follow the sign, too. -/
def int (b : ℕ) (s : Str) : Option ℤ :=
  match strip s with
  | '-' :: ds => (digits b (dropBase b (ds.dropWhile isSpace))).map fun n : ℕ => -(n : ℤ)
  | '+' :: ds => (digits b (dropBase b (ds.dropWhile isSpace))).map fun n : ℕ => (n : ℤ)
  | ds => (digits b (dropBase b ds)).map fun n : ℕ => (n : ℤ)

/-- `int(s, b)`, which raises. -/
def intOf (b : ℕ) (s : Str) : Except Draw.PyErr ℤ := (int b s).elim (.error .valueError) .ok

/-! ## Printing -/

/-- `str` of a natural number. -/
def dec (n : ℕ) : Str := Nat.toDigits 10 n

/-- `str` of an integer. -/
def decInt (n : ℤ) : Str := if n < 0 then '-' :: dec n.natAbs else dec n.natAbs

lemma decInt_natCast (n : ℕ) : decInt n = dec n := by
  rw [decInt, if_neg (by omega), Int.natAbs_natCast]

lemma dec_ne_nil (n : ℕ) : dec n ≠ [] := Nat.toDigits_ne_nil

lemma isDigit_of_mem_dec {n : ℕ} : ∀ c ∈ dec n, c.isDigit = true :=
  forall_mem_toDigits (by decide) (by decide) n

lemma token_dec (n : ℕ) : Token (dec n) := token_toDigits (by decide) (by decide) n

/-- The digits of a number give the number. -/
lemma foldlM_pushDigit_toDigits {b : ℕ} (hb : 1 < b) (hb' : b ≤ 16) (n : ℕ) :
    (Nat.toDigits b n).foldlM (pushDigit b) 0 = some n := by
  have hval : ∀ d < 16, digitVal d.digitChar = some d := by decide
  have hpush : ∀ m d, d < b → pushDigit b m d.digitChar = some (b * m + d) := by
    intro m d hd
    rw [pushDigit, hval d (by omega)]
    exact if_pos hd
  induction n using Nat.strongRecOn with
  | ind n ih =>
    rw [Nat.toDigits_eq_if hb]
    split
    · rename_i hlt
      rw [List.foldlM_cons, hpush 0 n hlt]
      simp
    · -- the last digit, behind those of the quotient
      rw [List.foldlM_append, ih (n / b) (Nat.div_lt_self (by omega) hb)]
      simp only [Option.bind_eq_bind, Option.bind_some, List.foldlM_cons, List.foldlM_nil]
      rw [hpush _ _ (Nat.mod_lt n (by omega)), Nat.div_add_mod]
      rfl

lemma digits_dec (n : ℕ) : digits 10 (dec n) = some n := by
  rw [digits, if_neg (dec_ne_nil n)]
  exact foldlM_pushDigit_toDigits (by decide) (by decide) n

/-- Base 10 has no leading `0x`. -/
lemma dropBase_ten (s : Str) : dropBase 10 s = s := by
  unfold dropBase
  split <;> simp

/-- A number that starts with a digit has no sign. -/
lemma int_of_isDigit {c : Char} {s t : Str} (hs : strip s = c :: t) (hc : c.isDigit = true) :
    int 10 s = (digits 10 (c :: t)).map fun n : ℕ => (n : ℤ) := by
  rw [int, hs]
  split
  · rename_i heq
    cases heq
    cases hc
  · rename_i heq
    cases heq
    cases hc
  · rw [dropBase_ten]

/-- A number other than zero starts with another digit. -/
lemma head_dec_ne {n : ℕ} (h : 0 < n) : (dec n).head? ≠ some '0' := by
  have hdigit : ∀ d < 10, 0 < d → d.digitChar ≠ '0' := by decide
  unfold dec
  induction n using Nat.strongRecOn with
  | ind n ih =>
    rw [Nat.toDigits_eq_if (by decide)]
    split
    · rename_i hlt
      simpa using hdigit n hlt h
    · have hhead := ih (n / 10) (by omega) (by omega)
      rwa [List.head?_append, Option.or_of_isSome (List.isSome_head?.2 Nat.toDigits_ne_nil)]

/-- Only zero is printed with a leading zero. -/
lemma dec_eq_of_head {n : ℕ} (h : (dec n).head? = some '0') : dec n = ['0'] := by
  rcases Nat.eq_zero_or_pos n with rfl | hpos
  · rfl
  · exact absurd h (head_dec_ne hpos)

end PyInt
