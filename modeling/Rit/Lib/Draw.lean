import Mathlib.Tactic.Common

/-!
# Programs that draw and may raise

A generator in the style of Python's `random`: it reads the draws still to come, it changes a state,
and it ends with a value or with an exception.  Choosing from an empty list raises, so does drawing
from an empty range and removing an element that a list does not have.

`Gives m s Q` is total correctness: started in `s`, `m` ends without an exception, and the value and
the state satisfy `Q`.  `Quiet m` is the common case of a program that only draws, and `Always m P`
the one where only the value matters.  `Ensures m P` says the same of those runs that end with a
value.  `May m a` goes the other way: there are draws with which `m` returns `a`.
-/

namespace Draw

/-- The exceptions. -/
inductive PyErr
  | indexError
  | valueError
  | keyError
  | nameError
  | ioError
  | syntaxError
  | recursionError
  /-- Not an exception that could be caught: the process has ended. -/
  | aborted
  deriving DecidableEq, Repr

/-- The draws still to come, and the state. -/
structure Run (σ : Type) where
  draws : ℕ → ℕ
  st : σ

/-- A generator. -/
abbrev Gen (σ : Type) := StateT (Run σ) (Except PyErr)

variable {σ α β : Type}

/-! ## Operations -/

/-- The next draw. -/
def draw : Gen σ ℕ := fun s => .ok (s.draws 0, { s with draws := fun i => s.draws (i + 1) })

/-- `random.choice`. -/
def choice : (l : List α) → Gen σ { a // a ∈ l }
  | [] => throw .indexError
  | a :: as => do
    let n ← draw
    pure ⟨(a :: as).get ⟨n % (as.length + 1), Nat.mod_lt n (Nat.succ_pos _)⟩, List.get_mem _ _⟩

/-- `random.randint`. -/
def randint (lo hi : ℕ) : Gen σ { n // lo ≤ n ∧ n ≤ hi } :=
  if h : lo ≤ hi then do
    let n ← draw
    have hlt : n % (hi - lo + 1) < hi - lo + 1 := Nat.mod_lt n (Nat.succ_pos _)
    pure ⟨lo + n % (hi - lo + 1), by omega⟩
  else throw .valueError

/-- `l.remove(a)` raises if `l` does not have `a`; the list is `l.erase a` from then on. -/
def remove [DecidableEq α] (a : α) (l : List α) : Gen σ Unit :=
  if a ∈ l then pure () else throw .valueError

/-- `random.sample`. -/
def sample [DecidableEq α] : ℕ → List α → Gen σ (List α)
  | 0, _ => pure []
  | n + 1, l => do
    let a ← choice l
    let as ← sample n (l.erase a.1)
    pure (a.1 :: as)

/-- The state. -/
def getSt : Gen σ σ := fun s => .ok (s.st, s)

/-- Change the state. -/
def modifySt (f : σ → σ) : Gen σ Unit := fun s => .ok ((), { s with st := f s.st })

/-- `m` if `p` holds; otherwise the value is `a`, and nothing is drawn. -/
def drawIf (p : Prop) [Decidable p] (m : Gen σ α) (a : α) : Gen σ α := if p then m else pure a

/-- A program without a state, beside a state that it leaves alone. -/
def lift (m : Gen Unit α) : Gen σ α := fun s =>
  match m ⟨s.draws, ()⟩ with
  | .ok (a, s') => .ok (a, { s with draws := s'.draws })
  | .error e => .error e

/-- `if p: m`. -/
def onlyIf (p : Prop) [Decidable p] (m : Gen σ Unit) : Gen σ Unit := drawIf p m ()

lemma run_bind_of_ok {m : Gen σ α} {f : α → Gen σ β} {s s' : Run σ} {a : α}
    (h : m.run s = .ok (a, s')) : (m >>= f).run s = (f a).run s' := by
  rw [StateT.run_bind, h]
  rfl

/-! ## Total correctness -/

/-- Started in `s`, the program ends with a value and a state that satisfy `Q`. -/
def Gives (m : Gen σ α) (s : Run σ) (Q : α → Run σ → Prop) : Prop :=
  ∃ a s', m.run s = .ok (a, s') ∧ Q a s'

section Rules

variable {m : Gen σ α} {s : Run σ} {Q R : α → Run σ → Prop}

lemma Gives.mono (h : Gives m s Q) (hQR : ∀ a s', Q a s' → R a s') : Gives m s R := by
  obtain ⟨a, s', hm, hq⟩ := h
  exact ⟨a, s', hm, hQR a s' hq⟩

lemma Gives.pure {a : α} (h : Q a s) : Gives (pure a : Gen σ α) s Q := ⟨a, s, rfl, h⟩

lemma Gives.bind {f : α → Gen σ β} {T : β → Run σ → Prop} (h : Gives m s Q)
    (hf : ∀ a s', Q a s' → Gives (f a) s' T) : Gives (m >>= f) s T := by
  obtain ⟨a, s', hm, hq⟩ := h
  obtain ⟨b, s'', hb, ht⟩ := hf a s' hq
  exact ⟨b, s'', (run_bind_of_ok hm).trans hb, ht⟩

lemma Gives.getSt_bind {f : σ → Gen σ β} {T : β → Run σ → Prop} (h : Gives (f s.st) s T) :
    Gives (getSt >>= f) s T :=
  Gives.bind (Q := fun a s' => a = s.st ∧ s' = s) ⟨s.st, s, rfl, rfl, rfl⟩
    (by rintro _ _ ⟨rfl, rfl⟩; exact h)

lemma Gives.modifySt_bind {g : σ → σ} {f : Unit → Gen σ β} {T : β → Run σ → Prop}
    (h : Gives (f ()) { s with st := g s.st } T) : Gives (modifySt g >>= f) s T :=
  Gives.bind (Q := fun _ s' => s' = { s with st := g s.st }) ⟨(), _, rfl, rfl⟩
    (by rintro _ _ rfl; exact h)

end Rules

/-! ## Programs that only draw -/

/-- Every run ends, and the state is left alone. -/
def Quiet (m : Gen σ α) : Prop := ∀ s, Gives m s fun _ s' => s'.st = s.st

namespace Quiet

variable {m : Gen σ α}

lemma pure (a : α) : Quiet (pure a : Gen σ α) := fun _ => .pure rfl

lemma bind {f : α → Gen σ β} (h : Quiet m) (hf : ∀ a, Quiet (f a)) : Quiet (m >>= f) := fun s =>
  (h s).bind fun a s' hs => (hf a s').mono fun _ _ hs' => hs'.trans hs

lemma ite {p : Prop} [Decidable p] {m' : Gen σ α} (h : p → Quiet m) (h' : ¬p → Quiet m') :
    Quiet (if p then m else m') := by
  split
  · exact h ‹_›
  · exact h' ‹_›

lemma drawIf {p : Prop} [Decidable p] (h : p → Quiet m) (a : α) : Quiet (drawIf p m a) :=
  ite h fun _ => pure a

lemma onlyIf {p : Prop} [Decidable p] {m : Gen σ Unit} (h : p → Quiet m) : Quiet (onlyIf p m) :=
  drawIf h ()

lemma draw : Quiet (draw : Gen σ ℕ) := fun s => ⟨s.draws 0, _, rfl, rfl⟩

lemma choice {l : List α} (h : l ≠ []) : Quiet (choice l : Gen σ _) := by
  cases l with
  | nil => exact absurd rfl h
  | cons a as => exact draw.bind fun _ => .pure _

lemma randint {lo hi : ℕ} (h : lo ≤ hi) : Quiet (randint lo hi : Gen σ _) := by
  rw [Draw.randint, dif_pos h]
  exact draw.bind fun _ => .pure _

lemma remove [DecidableEq α] {a : α} {l : List α} (h : a ∈ l) : Quiet (remove a l : Gen σ _) := by
  rw [Draw.remove, if_pos h]
  exact .pure _

/-- Draws first: what follows starts in the same state. -/
lemma seq {f : α → Gen σ β} {s : Run σ} {T : β → Run σ → Prop} (h : Quiet m)
    (hf : ∀ a d, Gives (f a) { draws := d, st := s.st } T) : Gives (m >>= f) s T := by
  refine (h s).bind fun a s' hs' => ?_
  obtain ⟨d, st⟩ := s'
  obtain rfl : st = s.st := hs'
  exact hf a d

end Quiet

/-! ## What a program always returns, and what it may return -/

/-- Every run ends, and its value satisfies `P`. -/
def Always (m : Gen σ α) (P : α → Prop) : Prop := ∀ s, Gives m s fun a _ => P a

namespace Always

variable {m : Gen σ α} {P : α → Prop}

lemma mono {Q : α → Prop} (h : Always m P) (hPQ : ∀ a, P a → Q a) : Always m Q :=
  fun s => (h s).mono fun a _ => hPQ a

lemma pure {a : α} (h : P a) : Always (pure a : Gen σ α) P := fun _ => .pure h

lemma bind {f : α → Gen σ β} {Q : β → Prop} (h : Always m P) (hf : ∀ a, P a → Always (f a) Q) :
    Always (m >>= f) Q :=
  fun s => (h s).bind fun a s' ha => hf a ha s'

/-- A draw, of which nothing but the type of its value is used. -/
lemma draw {f : α → Gen σ β} {Q : β → Prop} (h : Quiet m) (hf : ∀ a, Always (f a) Q) :
    Always (m >>= f) Q :=
  fun s => (h s).bind fun a s' _ => hf a s'

lemma ite {p : Prop} [Decidable p] {m' : Gen σ α} (h : p → Always m P) (h' : ¬p → Always m' P) :
    Always (if p then m else m') P := by
  split
  · exact h ‹_›
  · exact h' ‹_›

lemma drawIf {p : Prop} [Decidable p] {a : α} (h : p → Always m P) (h' : ¬p → P a) :
    Always (drawIf p m a) P :=
  ite h fun hp => pure (h' hp)

end Always

/-- If a run ends with a value, the value satisfies `P`. -/
def Ensures (m : Gen σ α) (P : α → Prop) : Prop := ∀ s a s', m.run s = .ok (a, s') → P a

namespace Ensures

variable {m : Gen σ α} {P : α → Prop}

lemma any (h : ∀ a, P a) : Ensures m P := fun _ a _ _ => h a

lemma pure {a : α} (h : P a) : Ensures (pure a : Gen σ α) P := by
  intro s b s' hb
  cases hb
  exact h

lemma bind {f : α → Gen σ β} {Q : β → Prop} (h : Ensures m P) (hf : ∀ a, P a → Ensures (f a) Q) :
    Ensures (m >>= f) Q := by
  intro s b s' hb
  rw [StateT.run_bind] at hb
  cases hm : m.run s with
  | error e =>
    rw [hm] at hb
    cases hb
  | ok r =>
    rw [hm] at hb
    exact hf r.1 (h s r.1 r.2 hm) r.2 b s' hb

/-- A program of which nothing but the type of its value is used. -/
lemma bind_any {f : α → Gen σ β} {Q : β → Prop} (hf : ∀ a, Ensures (f a) Q) : Ensures (m >>= f) Q :=
  bind (P := fun _ => True) (any fun _ => trivial) fun a _ => hf a

lemma ite {p : Prop} [Decidable p] {m' : Gen σ α} (h : p → Ensures m P)
    (h' : ¬p → Ensures m' P) : Ensures (if p then m else m') P := by
  split
  · exact h ‹_›
  · exact h' ‹_›

lemma lift {m : Gen Unit α} (h : Ensures m P) : Ensures (lift m : Gen σ α) P := by
  intro s a s' ha
  change (match m ⟨s.draws, ()⟩ with
    | .ok (a, s') => Except.ok (a, { s with draws := s'.draws })
    | .error e => .error e) = .ok (a, s') at ha
  split at ha
  · rename_i b r hb
    cases ha
    exact h _ _ _ hb
  · cases ha

end Ensures

lemma Always.ensures {m : Gen σ α} {P : α → Prop} (h : Always m P) : Ensures m P := by
  intro s a s' ha
  obtain ⟨b, s'', hb, hP⟩ := h s
  rw [ha] at hb
  cases hb
  exact hP

/-- The draws `l`, and then those of `d`. -/
def feed : List ℕ → (ℕ → ℕ) → ℕ → ℕ
  | [], d => d
  | n :: l, d => fun
    | 0 => n
    | i + 1 => feed l d i

lemma feed_append (l l' : List ℕ) (d : ℕ → ℕ) : feed (l ++ l') d = feed l (feed l' d) := by
  induction l with
  | nil => rfl
  | cons n l ih => simp only [List.cons_append, feed, ih]

/-- With the right draws first the program returns `a`, and it reads no further. -/
def May (m : Gen σ α) (a : α) : Prop :=
  ∃ l, ∀ d st, m.run ⟨feed l d, st⟩ = .ok (a, ⟨d, st⟩)

namespace May

variable {m : Gen σ α} {a : α}

lemma pure (a : α) : May (pure a : Gen σ α) a := ⟨[], fun _ _ => rfl⟩

lemma bind {f : α → Gen σ β} {b : β} (h : May m a) (hf : May (f a) b) : May (m >>= f) b := by
  obtain ⟨l, hl⟩ := h
  obtain ⟨l', hl'⟩ := hf
  refine ⟨l ++ l', fun d st => ?_⟩
  rw [feed_append, run_bind_of_ok (hl _ st)]
  exact hl' d st

lemma draw (n : ℕ) : May (draw : Gen σ ℕ) n := ⟨[n], fun _ _ => rfl⟩

lemma choice {l : List α} (h : a ∈ l) : May (choice l : Gen σ _) ⟨a, h⟩ := by
  obtain ⟨i, hi, rfl⟩ := List.getElem_of_mem h
  cases l with
  | nil => cases h
  | cons b l =>
    refine (draw i).bind ?_
    have hmod : i % (l.length + 1) = i := Nat.mod_eq_of_lt hi
    have hget : (b :: l).get ⟨i % (l.length + 1), Nat.mod_lt i (Nat.succ_pos _)⟩ = (b :: l)[i] := by
      simp only [hmod, List.get_eq_getElem]
    simp only [hget]
    exact pure _

lemma randint {lo hi n : ℕ} (h : lo ≤ n ∧ n ≤ hi) : May (randint lo hi : Gen σ _) ⟨n, h⟩ := by
  have hle : lo ≤ hi := Nat.le_trans h.1 h.2
  rw [Draw.randint, dif_pos hle]
  refine (draw (n - lo)).bind ?_
  have hn : lo + (n - lo) % (hi - lo + 1) = n := by
    rw [Nat.mod_eq_of_lt (by omega)]
    omega
  simp only [hn]
  exact pure _

lemma drawIf_pos {p : Prop} [Decidable p] (hp : p) (b : α) (h : May m a) :
    May (drawIf p m b) a := by
  rw [Draw.drawIf, if_pos hp]
  exact h

/-- What may be returned is among what always is. -/
lemma of_always [Inhabited σ] {P : α → Prop} (h : May m a) (hP : Always m P) : P a := by
  obtain ⟨l, hl⟩ := h
  obtain ⟨b, s', hb, hPb⟩ := hP ⟨feed l fun _ => 0, default⟩
  rw [hl] at hb
  obtain ⟨rfl, -⟩ : b = a ∧ _ := by simpa [eq_comm] using hb
  exact hPb

end May

/-- What is left of a long enough list is not empty. -/
lemma lt_length_erase [DecidableEq α] {l : List α} {n : ℕ} (h : n + 1 < l.length) (a : α) :
    n < (l.erase a).length := by
  rw [List.length_erase]
  split <;> omega

end Draw
