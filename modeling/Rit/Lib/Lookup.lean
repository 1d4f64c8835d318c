import Mathlib.Algebra.Ring.Nat
import Mathlib.Tactic.Common

/-!
# Reading a long list by halving

`descend d k l i` reads entry `i` of a list of fewer than `2 ^ k` entries by dropping
`2 ^ (k - 1)`, `2 ^ (k - 2)`, … entries.  It is `List.getD` (`descend_eq_getD`); the point of
the second form is evaluation, since the suffixes it visits are shared between look-ups.
-/

namespace Lookup

variable {α : Type*}

/-- Entry `i` of `l`, or `d` past its end, for `i < 2 ^ k`. -/
def descend (d : α) : ℕ → List α → ℕ → α
  | 0, l, _ => l.headD d
  | k + 1, l, i =>
    if 1 <<< k ≤ i then descend d k (l.drop (1 <<< k)) (i - 1 <<< k) else descend d k l i

lemma descend_eq_getD (d : α) : ∀ (k : ℕ) (l : List α) (i : ℕ), i < 2 ^ k →
    descend d k l i = l.getD i d
  | 0, l, i, hi => by
      have : i = 0 := by simpa using hi
      subst this
      cases l <;> rfl
  | k + 1, l, i, hi => by
      rw [descend, Nat.one_shiftLeft]
      split_ifs with h
      · rw [descend_eq_getD d k _ _ (by rw [Nat.pow_succ] at hi; omega)]
        simp only [List.getD_eq_getElem?_getD, List.getElem?_drop]
        rw [Nat.add_sub_cancel' h]
      · exact descend_eq_getD d k l i (by omega)

/-- A look-up finds an entry of the list or the default. -/
lemma descend_mem_or_eq (d : α) : ∀ (k : ℕ) (l : List α) (i : ℕ),
    descend d k l i ∈ l ∨ descend d k l i = d
  | 0, l, _ => by
      cases l with
      | nil => exact .inr rfl
      | cons a l => exact .inl (by simp [descend])
  | k + 1, l, i => by
      rw [descend]
      split_ifs with h
      · rcases descend_mem_or_eq d k (l.drop (1 <<< k)) (i - 1 <<< k) with hmem | heq
        · exact .inl (List.mem_of_mem_drop hmem)
        · exact .inr heq
      · exact descend_mem_or_eq d k l i

end Lookup
