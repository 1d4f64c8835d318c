import Mathlib.Data.List.Basic

/-!
# Keyed actions that commute across keys

A list of keyed actions is run on a state, each action possibly failing.  When actions of
different keys commute, the outcome depends only on the actions of each key in their order:
two lists with the same sublist for every key are interleavings of the same sequences.
-/

namespace Interleave

variable {κ β σ : Type*} [DecidableEq κ]

/-- Run the actions from left to right; the first failure ends the run. -/
def runAll (act : κ × β → σ → Option σ) : List (κ × β) → σ → Option σ
  | [], s => some s
  | p :: ps, s => (act p s).bind (runAll act ps)

/-- The actions of one key, in their order. -/
def ofKey (k : κ) (ps : List (κ × β)) : List (κ × β) := ps.filter fun p => p.1 = k

lemma ofKey_cons_self (p : κ × β) (ps : List (κ × β)) : ofKey p.1 (p :: ps) = p :: ofKey p.1 ps :=
  List.filter_cons_of_pos (by simp)

lemma ofKey_cons_of_ne {k : κ} {p : κ × β} (h : p.1 ≠ k) (ps : List (κ × β)) :
    ofKey k (p :: ps) = ofKey k ps :=
  List.filter_cons_of_neg (by simpa using h)

variable {act : κ × β → σ → Option σ}

omit [DecidableEq κ] in
/-- An action moves to the front over a list without its key. -/
lemma runAll_append_cons (hcomm : ∀ p q : κ × β, p.1 ≠ q.1 → ∀ s,
      (act p s).bind (act q) = (act q s).bind (act p))
    (l r : List (κ × β)) (p : κ × β) (hl : ∀ q ∈ l, q.1 ≠ p.1) (s : σ) :
    runAll act (l ++ p :: r) s = runAll act (p :: (l ++ r)) s := by
  induction l generalizing s with
  | nil => rfl
  | cons q l ih =>
    have hq := hl q (List.mem_cons_self ..)
    have ih' := ih fun q' hq' => hl q' (List.mem_cons_of_mem q hq')
    calc runAll act (q :: l ++ p :: r) s
        = (act q s).bind fun s' => (act p s').bind (runAll act (l ++ r)) :=
          congrArg ((act q s).bind) (funext ih')
      _ = ((act q s).bind (act p)).bind (runAll act (l ++ r)) := (Option.bind_assoc ..).symm
      _ = ((act p s).bind (act q)).bind (runAll act (l ++ r)) := by rw [hcomm q p hq s]
      _ = runAll act (p :: (q :: l ++ r)) s := Option.bind_assoc ..

/-- The first action of a key splits the list after actions of other keys. -/
lemma split_of_ofKey {p : κ × β} {ps rest : List (κ × β)} (h : ofKey p.1 ps = p :: rest) :
    ∃ l r, ps = l ++ p :: r ∧ ∀ q ∈ l, q.1 ≠ p.1 := by
  induction ps with
  | nil => cases h
  | cons q ps ih =>
    by_cases hq : q.1 = p.1
    · have hhead : q = p := by
        rw [← hq, ofKey_cons_self] at h
        exact (List.cons.inj h).1
      exact ⟨[], ps, by rw [hhead, List.nil_append], fun _ h => absurd h (List.not_mem_nil)⟩
    · rw [ofKey_cons_of_ne hq] at h
      obtain ⟨l, r, rfl, hl⟩ := ih h
      refine ⟨q :: l, r, rfl, fun q' hq' => ?_⟩
      rcases List.mem_cons.mp hq' with rfl | hmem
      · exact hq
      · exact hl q' hmem

lemma ofKey_append_cons (k : κ) (l r : List (κ × β)) (p : κ × β) (hl : ∀ q ∈ l, q.1 ≠ p.1) :
    ofKey k (l ++ p :: r) = ofKey k (p :: (l ++ r)) := by
  by_cases hk : p.1 = k
  · have hnil : ofKey k l = [] := by
      rw [ofKey, List.filter_eq_nil_iff]
      intro q hq
      simpa [← hk] using hl q hq
    subst hk
    rw [ofKey_cons_self, ofKey, List.filter_append, ofKey, List.filter_append]
    change ofKey p.1 l ++ ofKey p.1 (p :: r) = p :: (ofKey p.1 l ++ ofKey p.1 r)
    rw [hnil, ofKey_cons_self, List.nil_append, List.nil_append]
  · rw [ofKey_cons_of_ne hk, ofKey, List.filter_append, ofKey, List.filter_append]
    exact congrArg (ofKey k l ++ ·) (ofKey_cons_of_ne hk r)

/-- **Interleavings.**  Actions that commute across keys give the same result on any two lists
that agree key by key. -/
theorem runAll_eq_of_ofKey_eq (hcomm : ∀ p q : κ × β, p.1 ≠ q.1 → ∀ s,
      (act p s).bind (act q) = (act q s).bind (act p))
    {ps qs : List (κ × β)} (h : ∀ k, ofKey k ps = ofKey k qs) (s : σ) :
    runAll act ps s = runAll act qs s := by
  induction ps generalizing qs s with
  | nil =>
    cases qs with
    | nil => rfl
    | cons q qs =>
      have hq := h q.1
      rw [ofKey_cons_self] at hq
      cases hq
  | cons p ps ih =>
    have hp := h p.1
    rw [ofKey_cons_self] at hp
    obtain ⟨l, r, rfl, hl⟩ := split_of_ofKey hp.symm
    rw [runAll_append_cons hcomm l r p hl]
    -- without the leading action the two lists still agree key by key
    have hrest : ∀ k, ofKey k ps = ofKey k (l ++ r) := by
      intro k
      have hk := h k
      rw [ofKey_append_cons k l r p hl] at hk
      by_cases hpk : p.1 = k
      · subst hpk
        rw [ofKey_cons_self, ofKey_cons_self] at hk
        exact (List.cons.inj hk).2
      · rwa [ofKey_cons_of_ne hpk, ofKey_cons_of_ne hpk] at hk
    exact congrArg ((act p s).bind) (funext fun s' => ih hrest s')

end Interleave
