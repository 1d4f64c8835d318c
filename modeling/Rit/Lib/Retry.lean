import Mathlib.Logic.Basic
import Mathlib.Data.Nat.Notation

/-!
# Bounded retry loops

A loop that runs a numbered body until its result is acceptable or its rounds are used up,
carrying a state from each failed round to the next.  `run` is the loop and `stateAt` the
state before a given round when all earlier rounds have failed.  Two rules reason about it:
an invariant of the carried state, and a relation between two runs.
-/

namespace Retry

variable {σ α : Type*} (body : ℕ → σ → α) (next : α → σ) (ok : α → Prop) [DecidablePred ok]

/-- At most `fuel + 1` rounds, the first of which has number `n`. -/
def run : ℕ → ℕ → σ → α
  | 0, n, s => body n s
  | fuel + 1, n, s => if ok (body n s) then body n s else run fuel (n + 1) (next (body n s))

/-- The state before round `n + k`, after `k` failed rounds. -/
def stateAt (n : ℕ) (s : σ) : ℕ → σ
  | 0 => s
  | k + 1 => next (body (n + k) (stateAt n s k))

/-- The number of rounds that fail before the one the result comes from. -/
def last : ℕ → ℕ → σ → ℕ
  | 0, _, _ => 0
  | fuel + 1, n, s => if ok (body n s) then 0 else last fuel (n + 1) (next (body n s)) + 1

@[simp] lemma stateAt_zero (n : ℕ) (s : σ) : stateAt body next n s 0 = s := rfl

lemma stateAt_succ (n : ℕ) (s : σ) (k : ℕ) :
    stateAt body next n s (k + 1) = next (body (n + k) (stateAt body next n s k)) := rfl

lemma stateAt_shift (n : ℕ) (s : σ) (k : ℕ) :
    stateAt body next (n + 1) (next (body n s)) k = stateAt body next n s (k + 1) := by
  induction k with
  | zero => rfl
  | succ k ih =>
    rw [stateAt_succ, ih, stateAt_succ body next n s (k + 1), Nat.add_right_comm n 1 k]
    rfl

/-- The result of a run is that of round `last`. -/
lemma run_eq_last (fuel n : ℕ) (s : σ) :
    run body next ok fuel n s = body (n + last body next ok fuel n s)
      (stateAt body next n s (last body next ok fuel n s)) := by
  induction fuel generalizing n s with
  | zero => rfl
  | succ fuel ih =>
    rw [run, last]
    by_cases hok : ok (body n s)
    · rw [if_pos hok, if_pos hok]
      rfl
    · rw [if_neg hok, if_neg hok, ih, stateAt_shift, Nat.add_right_comm n 1, Nat.add_assoc n]

/-- The rounds before `last` fail, and so does that one only if it is the last allowed. -/
lemma last_spec (fuel n : ℕ) (s : σ) : last body next ok fuel n s ≤ fuel ∧
    (∀ k < last body next ok fuel n s, ¬ ok (body (n + k) (stateAt body next n s k))) ∧
    (ok (body (n + last body next ok fuel n s) (stateAt body next n s
      (last body next ok fuel n s))) ∨ last body next ok fuel n s = fuel) := by
  induction fuel generalizing n s with
  | zero => exact ⟨Nat.le_refl 0, fun k hk => absurd hk (Nat.not_lt_zero k), .inr rfl⟩
  | succ fuel ih =>
    rw [last]
    by_cases hok : ok (body n s)
    · rw [if_pos hok]
      exact ⟨Nat.zero_le _, fun k hk => absurd hk (Nat.not_lt_zero k), .inl hok⟩
    · rw [if_neg hok]
      obtain ⟨hle, hfail, hend⟩ := ih (n + 1) (next (body n s))
      have hround : ∀ k, n + 1 + k = n + (k + 1) := fun k => Nat.add_right_comm n 1 k
      simp only [stateAt_shift, hround] at hfail hend
      refine ⟨Nat.succ_le_succ hle, fun k hk => ?_, hend.imp_right (congrArg (· + 1))⟩
      cases k with
      | zero => exact hok
      | succ k => exact hfail k (Nat.lt_of_succ_lt_succ hk)

/-- What a round preserves holds before every round. -/
lemma stateAt_invariant {inv : σ → Prop} (hbody : ∀ n s, inv s → inv (next (body n s)))
    (n : ℕ) {s : σ} (hs : inv s) (k : ℕ) : inv (stateAt body next n s k) := by
  induction k with
  | zero => exact hs
  | succ k ih => exact hbody _ _ ih

/-- Two runs whose rounds relate give related results. -/
lemma run_rel {r : σ → σ → Prop} {q : α → α → Prop}
    (hbody : ∀ n s t, r s t → q (body n s) (body n t))
    (hnext : ∀ a b, q a b → r (next a) (next b)) (hok : ∀ a b, q a b → (ok a ↔ ok b))
    (fuel n : ℕ) {s t : σ} (hst : r s t) :
    q (run body next ok fuel n s) (run body next ok fuel n t) := by
  induction fuel generalizing n s t with
  | zero => exact hbody n s t hst
  | succ fuel ih =>
    have hq := hbody n s t hst
    by_cases hs : ok (body n s)
    · rw [run, run, if_pos hs, if_pos ((hok _ _ hq).mp hs)]
      exact hq
    · rw [run, run, if_neg hs, if_neg (mt (hok _ _ hq).mpr hs)]
      exact ih (n + 1) (hnext _ _ hq)

end Retry
