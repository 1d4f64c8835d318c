import Rit.Lib.Arm.Machine

/-!
# Runs inside a piece of text

A piece of a text is entered at its first line and left for good the first time the program counter
is outside of it.  `RunsIn T p n` are the runs all of whose steps start inside the `n` lines from
line `p` on, so a run that ends outside is a passage through the piece.  The machine is
deterministic, so there is one such passage (`leave_unique`); what follows a piece does not matter
for it.
-/

namespace Arm

open Layout Relation

variable {L : Type} [DecidableEq L] {T : Text L} {p n : ℕ} {s t u : State}

/-- The program counter is one of the `n` lines from `p` on. -/
def State.Inside (p n : ℕ) (s : State) : Prop := ∃ i, s.pc = .line i ∧ p ≤ i ∧ i < p + n

/-- One step that starts inside the piece. -/
def Text.StepIn (T : Text L) (p n : ℕ) (s t : State) : Prop := T.step s = some t ∧ s.Inside p n

/-- Runs all of whose steps start inside the piece. -/
abbrev Text.RunsIn (T : Text L) (p n : ℕ) : State → State → Prop := ReflTransGen (T.StepIn p n)

/-- The passage through the piece that starts at `s` ends at line `i`. -/
def Text.LeavesAt (T : Text L) (p n : ℕ) (s : State) (i : ℕ) : Prop :=
  ∃ t, T.RunsIn p n s t ∧ ¬ t.Inside p n ∧ t.pc = .line i

lemma not_inside_of_pc {i : ℕ} (hpc : s.pc = .line i) (hi : i < p ∨ p + n ≤ i) :
    ¬ s.Inside p n := by
  rintro ⟨j, hj, hlo, hhi⟩
  obtain rfl : i = j := by simpa using hpc.symm.trans hj
  omega

/-- There is one way out of a piece. -/
lemma leave_unique (ht : T.RunsIn p n s t) (hu : T.RunsIn p n s u) (htout : ¬ t.Inside p n)
    (huout : ¬ u.Inside p n) : t = u := by
  have hdet : Relator.RightUnique (T.StepIn p n) := by
    rintro a b c ⟨hab, -⟩ ⟨hac, -⟩
    exact Option.some.inj (hab.symm.trans hac)
  -- outside of the piece there is no further step
  have hstop : ∀ {a b : State}, ¬ a.Inside p n → T.RunsIn p n a b → a = b := by
    intro a b hout hab
    rcases hab.cases_head with h | ⟨c, hac, -⟩
    · exact h
    · exact absurd hac.2 hout
  rcases ReflTransGen.total_of_right_unique hdet ht hu with h | h
  · exact hstop htout h
  · exact (hstop huout h).symm

lemma Text.LeavesAt.unique {i j : ℕ} (hi : T.LeavesAt p n s i) (hj : T.LeavesAt p n s j) :
    i = j := by
  obtain ⟨t, hst, htout, htpc⟩ := hi
  obtain ⟨u, hsu, huout, hupc⟩ := hj
  have hpc : Loc.line i = Loc.line j := by
    rw [← htpc, ← hupc, leave_unique hst hsu htout huout]
  simpa using hpc

/-- Run on from where the first part has ended. -/
lemma Text.LeavesAt.of_runsIn {i : ℕ} (hst : T.RunsIn p n s t) (ht : T.LeavesAt p n t i) :
    T.LeavesAt p n s i := by
  obtain ⟨u, htu, hout, hpc⟩ := ht
  exact ⟨u, hst.trans htu, hout, hpc⟩

/-! ## The steps of a piece -/

section Steps

variable {ls : List (Line L)}

/-- A line that moves on to the next one. -/
lemma runsIn_op {c : Option Cond} {o : Op} {i : ℕ} (hpc : s.pc = .line i)
    (hisa : s.isARM = T.isARM) (hl : T.lines[i]? = some (.op c o)) (hlo : p ≤ i) (hhi : i < p + n) :
    T.RunsIn p n s
      { s with pc := .line (i + 1), cpu := if passes c s.cpu.apsr then o.exec s.cpu else s.cpu } :=
  .single ⟨step_line hpc hisa hl, i, hpc, hlo, hhi⟩

lemma runsIn_b {c : Option Cond} {l : L} {i : ℕ} (hpc : s.pc = .line i)
    (hisa : s.isARM = T.isARM) (hl : T.lines[i]? = some (.b c l)) (hlo : p ≤ i) (hhi : i < p + n) :
    T.RunsIn p n s { s with
      pc := .line (if passes c s.cpu.apsr then T.lines.idxOf (.label l) else i + 1) } :=
  .single ⟨step_b hpc hisa hl, i, hpc, hlo, hhi⟩

end Steps

end Arm
