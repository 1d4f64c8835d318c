import Mathlib.Algebra.BigOperators.Group.List.Basic
import Mathlib.Algebra.Ring.Nat
import Mathlib.Data.List.AList

/-!
# Dictionaries of counts

A tally is a finite map to the natural numbers, with one entry for each of its keys.  `bump` raises
the count of a key, which it enters if it is not there.  `total` adds up what a list of pairs says
of a key; a list may name a key several times.  The items of a tally, in any order, have its counts
as their totals (`total_items`, `total_of_perm`).
-/

namespace Tally

variable {κ : Type*} [DecidableEq κ]

/-- A dictionary of counts. -/
abbrev Dict (κ : Type*) := AList fun _ : κ => ℕ

/-- The count of a key; zero if it is not there. -/
def count (d : Dict κ) (k : κ) : ℕ := (d.lookup k).getD 0

/-- `if k in d: d[k] += n`, `else: d[k] = n`. -/
def bump (d : Dict κ) (k : κ) (n : ℕ) : Dict κ :=
  if k ∈ d then d.insert k (count d k + n) else d.insert k n

/-- What a list of pairs says of a key. -/
def total (es : List (κ × ℕ)) (k : κ) : ℕ := (es.map fun e => if e.1 = k then e.2 else 0).sum

/-- The items of a dictionary. -/
def items (d : Dict κ) : List (κ × ℕ) := d.entries.map fun e => (e.1, e.2)

variable {d : Dict κ} {k k' : κ} {n : ℕ}

@[simp]
lemma count_empty (k : κ) : count (∅ : Dict κ) k = 0 := rfl

lemma count_of_notMem (h : k ∉ d) : count d k = 0 := by
  rw [count, AList.lookup_eq_none.2 h]
  rfl

@[simp]
lemma mem_bump : k' ∈ bump d k n ↔ k' = k ∨ k' ∈ d := by
  unfold bump
  split <;> exact AList.mem_insert d

/-- A key is raised, and the others keep their counts. -/
lemma count_bump (d : Dict κ) (k : κ) (n : ℕ) (k' : κ) :
    count (bump d k n) k' = count d k' + if k = k' then n else 0 := by
  by_cases hk : k = k'
  · subst hk
    unfold bump
    split
    · simp [count]
    · rename_i hmem
      rw [count_of_notMem hmem, if_pos rfl, count, AList.lookup_insert]
      simp
  · have hlookup : ∀ m, (d.insert k m).lookup k' = d.lookup k' := fun m =>
      AList.lookup_insert_ne (Ne.symm hk)
    rw [if_neg hk, Nat.add_zero]
    unfold bump
    split <;> rw [count, hlookup, count]

@[simp]
lemma total_nil (k : κ) : total [] k = 0 := rfl

@[simp]
lemma total_cons (e : κ × ℕ) (es : List (κ × ℕ)) (k : κ) :
    total (e :: es) k = (if e.1 = k then e.2 else 0) + total es k := List.sum_cons

@[simp]
lemma total_append (es fs : List (κ × ℕ)) (k : κ) :
    total (es ++ fs) k = total es k + total fs k := by
  rw [total, List.map_append, List.sum_append]
  rfl

/-- Bumping every pair of a list adds its totals. -/
lemma count_foldl_bump (es : List (κ × ℕ)) (d : Dict κ) (k : κ) :
    count (es.foldl (fun d e => bump d e.1 e.2) d) k = count d k + total es k := by
  induction es generalizing d with
  | nil => rfl
  | cons e es ih =>
    rw [List.foldl_cons, ih, count_bump, total_cons, Nat.add_assoc]

/-- The order of the items does not matter. -/
lemma total_of_perm {es fs : List (κ × ℕ)} (h : es.Perm fs) (k : κ) : total es k = total fs k :=
  (h.map _).sum_eq

/-- The items of a dictionary have its counts. -/
lemma total_items (d : Dict κ) (k : κ) : total (items d) k = count d k := by
  induction d using AList.insertRec with
  | H0 => rfl
  | IH k' n d hmem ih =>
    have hentries : items (d.insert k' n) = (k', n) :: items d := by
      rw [items, AList.entries_insert_of_notMem hmem]
      rfl
    rw [hentries, total_cons, ih]
    by_cases hk : k' = k
    · subst hk
      rw [count_of_notMem hmem, if_pos rfl, count, AList.lookup_insert]
      rfl
    · rw [if_neg hk, count, count, AList.lookup_insert_ne (Ne.symm hk), Nat.zero_add]

end Tally
