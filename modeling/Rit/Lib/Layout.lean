import Mathlib.Data.List.Nodup

/-!
# Pieces of a listing

A listing is a list of lines, and an address is an index into it.  `At P p ls` says that the piece
`ls` stands in `P` from index `p` on.  Pieces split along `++`, which is how a proof about one
piece is carried to the pieces it is made of.

A kind of line that occurs once (`Once`) is found by `List.idxOf` wherever it stands.
-/

namespace Layout

variable {α β : Type*} {P : List α} {p q : ℕ}

/-- The piece `ls` stands in `P` from index `p` on. -/
def At (P : List α) (p : ℕ) (ls : List α) : Prop := ls <+: P.drop p

lemma at_zero (P : List α) : At P 0 P := List.prefix_rfl

@[simp] lemma at_nil : At P p [] := List.nil_prefix

lemma at_cons {x : α} {ls : List α} : At P p (x :: ls) ↔ P[p]? = some x ∧ At P (p + 1) ls := by
  unfold At
  rw [← List.drop_drop]
  cases h : P.drop p with
  | nil =>
    have hp : P[p]? = none := by rw [← List.head?_drop, h, List.head?_nil]
    simp [hp]
  | cons y ys =>
    have hp : P[p]? = some y := by rw [← List.head?_drop, h, List.head?_cons]
    rw [hp, List.cons_prefix_cons, List.drop_one, List.tail_cons, Option.some_inj, eq_comm]

lemma at_append {as bs : List α} : At P p (as ++ bs) ↔ At P p as ∧ At P (p + as.length) bs := by
  induction as generalizing p with
  | nil => simp
  | cons x as ih =>
    rw [List.cons_append, at_cons, at_cons, ih, List.length_cons, and_assoc, Nat.add_right_comm,
      Nat.add_assoc]

/-- The line at an index inside a piece. -/
lemma At.getElem? {ls : List α} (h : At P p ls) {k : ℕ} {x : α} (hk : ls[k]? = some x) :
    P[p + k]? = some x := by
  induction ls generalizing p k with
  | nil => simp at hk
  | cons y ls ih =>
    obtain ⟨hy, hrest⟩ := at_cons.1 h
    cases k with
    | zero => exact hy.trans hk
    | succ k =>
      have hk' := ih hrest (k := k) hk
      rwa [Nat.add_assoc, Nat.add_comm 1 k] at hk'

/-- The lines that `f` selects occur at most once each. -/
def Once (f : α → Option β) (P : List α) : Prop := (P.filterMap f).Nodup

/-- A selected line stands at one index only. -/
lemma Once.index_eq {f : α → Option β} (h : Once f P) {x : α} {y : β} (hx : f x = some y)
    (hp : P[p]? = some x) (hq : P[q]? = some x) : p = q := by
  induction P generalizing p q with
  | nil => simp at hp
  | cons z P ih =>
    have hrest : Once f P := (List.Nodup.sublist ((List.sublist_cons_self z P).filterMap f) h)
    -- a line found again behind its first occurrence contradicts uniqueness
    have hfirst : z = x → ∀ k : ℕ, P[k]? ≠ some x := by
      rintro rfl k hk
      have hmem : y ∈ P.filterMap f := List.mem_filterMap.2 ⟨_, List.mem_of_getElem? hk, hx⟩
      unfold Once at h
      rw [List.filterMap_cons_some hx] at h
      exact (List.nodup_cons.1 h).1 hmem
    cases p with
    | zero =>
      cases q with
      | zero => rfl
      | succ q => exact absurd hq (hfirst (Option.some.inj hp) q)
    | succ p =>
      cases q with
      | zero => exact absurd hp (hfirst (Option.some.inj hq) p)
      | succ q => exact congrArg (· + 1) (ih hrest hp hq)

/-- `List.idxOf` finds the place of a selected line. -/
lemma Once.idxOf_eq [DecidableEq α] {f : α → Option β} (h : Once f P) {x : α} {y : β}
    (hx : f x = some y) (hp : P[p]? = some x) : P.idxOf x = p := by
  have hmem : x ∈ P := List.mem_of_getElem? hp
  exact h.index_eq hx (List.getElem?_idxOf hmem) hp

end Layout
