import Rit.Lib.Draw

/-!
# Programs that ask an oracle

A generator that draws, may raise, and asks an oracle: what the oracle answers to a question may
depend on how many questions came before.  The count of questions survives an exception, so that one
can say how often a program asks whether or not it ends with a value.

`Within good n m Q` is the judgement about such programs: as long as the answers are good, `m` asks
at most `n` times, and if it ends with a value the value satisfies `Q`.  `Yields good m Q` leaves
out how often it asks.  `Reaches f m a` goes the other way: if `f` answers every question, there are
draws with which `m` returns `a`.

`collect` is a loop that puts results together until enough have been counted.  A failed round is
counted too, once there have been too many in a row, which is why the loop ends for every oracle.
-/

namespace Query

open Draw (PyErr Gen Run)

/-- The draws still to come, the oracle, and the number of questions so far. -/
structure Tape (q r : Type) where
  draws : ℕ → ℕ
  oracle : ℕ → q → r
  asked : ℕ

/-- A program that asks. -/
abbrev Prog (q r : Type) := ExceptT PyErr (StateM (Tape q r))

variable {q r α β : Type}

/-! ## Operations -/

/-- Ask the oracle. -/
def ask (x : q) : Prog q r r := fun t => (.ok (t.oracle t.asked x), { t with asked := t.asked + 1 })

/-- A program that only draws. -/
def draws (m : Gen Unit α) : Prog q r α := fun t =>
  match m ⟨t.draws, ()⟩ with
  | .ok (a, s) => (.ok a, { t with draws := s.draws })
  | .error e => (.error e, t)

/-- The result and the tape of a run. -/
def runOn (m : Prog q r α) (t : Tape q r) : Except PyErr α × Tape q r := m t

lemma runOn_bind (m : Prog q r α) (f : α → Prog q r β) (t : Tape q r) :
    runOn (m >>= f) t = match runOn m t with
      | (.ok a, t') => runOn (f a) t'
      | (.error e, t') => (.error e, t') := by
  change ExceptT.bindCont f (runOn m t).1 (runOn m t).2 = _
  rcases runOn m t with ⟨_ | a, t'⟩ <;> rfl

/-! ## The judgement -/

/-- The oracle gives good answers only. -/
def Tape.Good (good : q → r → Prop) (t : Tape q r) : Prop := ∀ i x, good x (t.oracle i x)

/-- As long as the answers are good, `m` asks at most `n` times, and its value satisfies `post`. -/
def Within (good : q → r → Prop) (n : ℕ) (m : Prog q r α) (post : α → Prop) : Prop :=
  ∀ t : Tape q r, t.Good good → (runOn m t).2.oracle = t.oracle ∧
    (runOn m t).2.asked ≤ t.asked + n ∧ ∀ a, (runOn m t).1 = .ok a → post a

namespace Within

variable {good : q → r → Prop} {n k : ℕ} {m : Prog q r α} {post post' : α → Prop}

lemma mono (h : Within good n m post) (hn : n ≤ k) (hpost : ∀ a, post a → post' a) :
    Within good k m post' := by
  intro t ht
  obtain ⟨horacle, hasked, hval⟩ := h t ht
  refine ⟨horacle, ?_, fun a ha => hpost a (hval a ha)⟩
  exact Nat.le_trans hasked (Nat.add_le_add_left hn _)

lemma mono_left (h : Within good n m post) (hn : n ≤ k) : Within good k m post :=
  h.mono hn fun _ ha => ha

lemma pure {a : α} (h : post a) : Within good n (pure a : Prog q r α) post := by
  intro t _
  refine ⟨rfl, Nat.le_add_right _ _, ?_⟩
  intro b hb
  cases hb
  exact h

lemma throw (e : PyErr) : Within good n (throw e : Prog q r α) post := by
  intro t _
  refine ⟨rfl, Nat.le_add_right _ _, ?_⟩
  intro b hb
  cases hb

lemma draws (g : Gen Unit α) (h : ∀ a, post a) : Within good n (draws g : Prog q r α) post := by
  intro t _
  unfold runOn Query.draws
  split
  · exact ⟨rfl, Nat.le_add_right _ _, fun a _ => h a⟩
  · exact ⟨rfl, Nat.le_add_right _ _, fun a _ => h a⟩

lemma draws_of {g : Gen Unit α} (h : Draw.Ensures g post) :
    Within good n (Query.draws g : Prog q r α) post := by
  intro t _
  unfold runOn Query.draws
  split
  · rename_i a s hg
    refine ⟨rfl, Nat.le_add_right _ _, ?_⟩
    intro b hb
    cases hb
    exact h _ _ _ hg
  · refine ⟨rfl, Nat.le_add_right _ _, ?_⟩
    intro b hb
    cases hb

lemma ask {x : q} {post : r → Prop} (h : ∀ a, good x a → post a) :
    Within good (n + 1) (ask x : Prog q r r) post := by
  intro t ht
  refine ⟨rfl, Nat.add_le_add_left (Nat.le_add_left 1 n) t.asked, ?_⟩
  intro b hb
  cases hb
  exact h _ (ht _ x)

lemma bind {f : α → Prog q r β} {post' : β → Prop} (h : Within good n m post)
    (hf : ∀ a, post a → Within good k (f a) post') : Within good (n + k) (m >>= f) post' := by
  intro t ht
  obtain ⟨horacle, hasked, hval⟩ := h t ht
  rw [runOn_bind]
  rcases hm : runOn m t with ⟨_ | a, t'⟩ <;> rw [hm] at horacle hasked hval
  · refine ⟨horacle, by dsimp only at hasked ⊢; omega, ?_⟩
    intro b hb
    cases hb
  · have ht' : t'.Good good := by
      intro i x
      rw [horacle]
      exact ht i x
    obtain ⟨horacle', hasked', hval'⟩ := hf a (hval a rfl) t' ht'
    refine ⟨horacle'.trans horacle, ?_, hval'⟩
    dsimp only at hasked hasked' ⊢
    omega

/-- Behind a program that asks, one that does not. -/
lemma bind_free {f : α → Prog q r β} {post' : β → Prop} (h : Within good n m post)
    (hf : ∀ a, post a → Within good 0 (f a) post') : Within good n (m >>= f) post' := h.bind hf

/-- In front of a program that asks, one that does not. -/
lemma free_bind {f : α → Prog q r β} {post' : β → Prop} (h : Within good 0 m post)
    (hf : ∀ a, post a → Within good k (f a) post') : Within good k (m >>= f) post' := by
  have hbind := h.bind hf
  rwa [Nat.zero_add] at hbind

/-- A program that only draws, and then another one. -/
lemma draws_bind {g : Gen Unit α} {f : α → Prog q r β} {post' : β → Prop}
    (hf : ∀ a, Within good k (f a) post') : Within good k (Query.draws g >>= f) post' := by
  have hdraws : Within good 0 (Query.draws g) fun _ : α => True := Within.draws g fun _ => trivial
  exact hdraws.free_bind fun a _ => hf a

lemma ite {p : Prop} [Decidable p] {m' : Prog q r α} (h : p → Within good n m post)
    (h' : ¬p → Within good n m' post) : Within good n (if p then m else m') post := by
  split
  · exact h ‹_›
  · exact h' ‹_›

end Within

/-- As long as the answers are good, the value satisfies `post`. -/
def Yields (good : q → r → Prop) (m : Prog q r α) (post : α → Prop) : Prop :=
  ∀ t : Tape q r, t.Good good → (runOn m t).2.oracle = t.oracle ∧
    ∀ a, (runOn m t).1 = .ok a → post a

lemma Within.yields {good : q → r → Prop} {n : ℕ} {m : Prog q r α} {post : α → Prop}
    (h : Within good n m post) : Yields good m post := by
  intro t ht
  obtain ⟨horacle, -, hval⟩ := h t ht
  exact ⟨horacle, hval⟩

namespace Yields

variable {good : q → r → Prop} {m : Prog q r α} {post post' : α → Prop}

lemma mono (h : Yields good m post) (hpost : ∀ a, post a → post' a) : Yields good m post' := by
  intro t ht
  obtain ⟨horacle, hval⟩ := h t ht
  exact ⟨horacle, fun a ha => hpost a (hval a ha)⟩

/-- What holds for all answers holds for good ones. -/
lemma of_good {good' : q → r → Prop} (h : Yields good' m post)
    (hgood : ∀ x a, good x a → good' x a) : Yields good m post := by
  intro t ht
  exact h t fun i x => hgood x _ (ht i x)

lemma pure {a : α} (h : post a) : Yields good (pure a : Prog q r α) post :=
  (Within.pure (n := 0) h).yields

lemma draws_of {g : Gen Unit α} (h : Draw.Ensures g post) :
    Yields good (Query.draws g : Prog q r α) post :=
  (Within.draws_of (n := 0) h).yields

lemma bind {f : α → Prog q r β} {post' : β → Prop} (h : Yields good m post)
    (hf : ∀ a, post a → Yields good (f a) post') : Yields good (m >>= f) post' := by
  intro t ht
  obtain ⟨horacle, hval⟩ := h t ht
  rw [runOn_bind]
  rcases hm : runOn m t with ⟨_ | a, t'⟩ <;> rw [hm] at horacle hval
  · refine ⟨horacle, ?_⟩
    intro b hb
    cases hb
  · have ht' : t'.Good good := by
      intro i x
      rw [horacle]
      exact ht i x
    obtain ⟨horacle', hval'⟩ := hf a (hval a rfl) t' ht'
    exact ⟨horacle'.trans horacle, hval'⟩

/-- A program that only draws, and then another one. -/
lemma draws_bind {g : Gen Unit α} {f : α → Prog q r β} {post' : β → Prop}
    (hf : ∀ a, Yields good (f a) post') : Yields good (Query.draws g >>= f) post' := by
  have hdraws : Yields good (Query.draws g) fun _ : α => True := .draws_of (.any fun _ => trivial)
  exact hdraws.bind fun a _ => hf a

end Yields

/-! ## What a program may return -/

/-- If every question is answered by `f`, the program returns `a` with the right draws first, and it
reads no further. -/
def Reaches (f : q → r) (m : Prog q r α) (a : α) : Prop :=
  ∃ l, ∀ d asked, ∃ asked', runOn m ⟨Draw.feed l d, fun _ => f, asked⟩ =
    (.ok a, ⟨d, fun _ => f, asked'⟩)

namespace Reaches

variable {f : q → r} {m : Prog q r α} {a : α}

lemma pure (a : α) : Reaches f (pure a : Prog q r α) a := ⟨[], fun _ asked => ⟨asked, rfl⟩⟩

lemma bind {g : α → Prog q r β} {b : β} (h : Reaches f m a) (hg : Reaches f (g a) b) :
    Reaches f (m >>= g) b := by
  obtain ⟨l, hl⟩ := h
  obtain ⟨l', hl'⟩ := hg
  refine ⟨l ++ l', ?_⟩
  intro d asked
  obtain ⟨asked₁, hrun⟩ := hl (Draw.feed l' d) asked
  obtain ⟨asked₂, hrun'⟩ := hl' d asked₁
  refine ⟨asked₂, ?_⟩
  rw [runOn_bind, Draw.feed_append, hrun]
  exact hrun'

lemma draws {g : Gen Unit α} (h : Draw.May g a) : Reaches f (Query.draws g : Prog q r α) a := by
  obtain ⟨l, hl⟩ := h
  refine ⟨l, ?_⟩
  intro d asked
  have hrun : g ⟨Draw.feed l d, ()⟩ = .ok (a, ⟨d, ()⟩) := hl d ()
  refine ⟨asked, ?_⟩
  simp only [runOn, Query.draws, hrun]

lemma ask (x : q) : Reaches f (ask x : Prog q r r) (f x) :=
  ⟨[], fun _ asked => ⟨asked + 1, rfl⟩⟩

end Reaches

/-! ## Counting results -/

/-- What a round returns: its result, which is empty if it failed, what that counts, and what is
put behind it in any case. -/
structure Round (ι : Type) where
  ret : List ι
  credit : ℕ
  credit_pos : ret ≠ [] → 0 < credit
  extra : List ι

/-- A round that counts each element of its result. -/
def Round.ofList {ι : Type} (ret : List ι) : Round ι where
  ret := ret
  credit := ret.length
  credit_pos := List.length_pos_iff.2
  extra := []

/-- What has been counted, and the failed rounds since. -/
structure Counters where
  cnt : ℕ
  retry : ℕ

/-- Counting a round: after `patience` failed rounds, one is counted. -/
def Counters.next {ι : Type} (c : Counters) (patience : ℕ) (x : Round ι) : Counters :=
  let c := if x.ret.isEmpty then { c with retry := c.retry + 1 }
    else ⟨c.cnt + x.credit, 0⟩
  let c := if patience ≤ c.retry then ⟨c.cnt + 1, 0⟩ else c
  { c with cnt := c.cnt + x.extra.length }

/-- The rounds that can still follow. -/
def Counters.left (c : Counters) (limit patience : ℕ) : ℕ :=
  (limit - c.cnt) * max 1 patience - c.retry

section Counters

variable {ι : Type} (c : Counters) (patience : ℕ) (x : Round ι)

/-- A round counts something, or there is one failed round more. -/
lemma Counters.next_cases :
    c.cnt < (c.next patience x).cnt ∧ (c.next patience x).retry = 0 ∨
      c.cnt ≤ (c.next patience x).cnt ∧ (c.next patience x).retry = c.retry + 1 ∧
        c.retry + 1 < patience := by
  unfold next
  dsimp only
  by_cases hret : x.ret = []
  · rw [hret, List.isEmpty_nil, if_pos rfl]
    by_cases hp : patience ≤ c.retry + 1
    · left
      rw [if_pos hp]
      dsimp only
      omega
    · right
      rw [if_neg hp]
      dsimp only
      omega
  · have hpos := x.credit_pos hret
    have hne : x.ret.isEmpty = false := by simpa using hret
    left
    simp only [hne, Bool.false_eq_true, if_false]
    split <;> dsimp only <;> omega

/-- Each round uses up one. -/
lemma Counters.left_next {limit : ℕ} (hcnt : c.cnt < limit) (hretry : c.retry < max 1 patience) :
    (c.next patience x).left limit patience + 1 ≤ c.left limit patience ∧
      (c.next patience x).retry < max 1 patience := by
  unfold left
  rcases c.next_cases patience x with ⟨hlt, hzero⟩ | ⟨hle, hsucc, hp⟩
  · rw [hzero]
    have hmul : (limit - (c.next patience x).cnt + 1) * max 1 patience ≤
        (limit - c.cnt) * max 1 patience := Nat.mul_le_mul_right _ (by omega)
    rw [Nat.add_mul, Nat.one_mul] at hmul
    omega
  · rw [hsucc]
    have hmul : (limit - (c.next patience x).cnt) * max 1 patience ≤
        (limit - c.cnt) * max 1 patience := Nat.mul_le_mul_right _ (by omega)
    have hone : 1 * max 1 patience ≤ (limit - c.cnt) * max 1 patience :=
      Nat.mul_le_mul_right _ (by omega)
    omega

end Counters

/-- `while cnt < limit`: a round, its result, and what counts. -/
def collect {ι : Type} (limit patience : ℕ) (round : Prog q r (Round ι)) (c : Counters)
    (inst : List ι) : Prog q r (List ι) :=
  if c.cnt < limit then do
    let x ← round
    collect limit patience round (c.next patience x) (inst ++ x.ret ++ x.extra)
  else pure inst
termination_by (limit - c.cnt, patience - c.retry)
decreasing_by
  rcases c.next_cases patience x with ⟨hlt, -⟩ | ⟨hle, hsucc, hp⟩
  · exact Prod.Lex.left _ _ (by omega)
  · rcases Nat.eq_or_lt_of_le hle with heq | hlt
    · rw [← heq]
      exact Prod.Lex.right _ (by omega)
    · exact Prod.Lex.left _ _ (by omega)

/-- The questions of the loop, and an invariant of what it puts together. -/
lemma Within.collect {ι : Type} {good : q → r → Prop} {limit patience k : ℕ}
    {round : Prog q r (Round ι)} {okRound : Round ι → Prop} {inv : List ι → Prop}
    (hround : Within good k round okRound)
    (hinv : ∀ inst x, inv inst → okRound x → inv (inst ++ x.ret ++ x.extra)) (c : Counters)
    (hretry : c.retry < max 1 patience) {inst : List ι} (hinst : inv inst) :
    Within good (c.left limit patience * k) (collect limit patience round c inst) inv := by
  induction c, inst using Query.collect.induct limit patience with
  | case1 c inst hcnt ih =>
    rw [Query.collect, if_pos hcnt]
    have hrest : ∀ x, okRound x → Within good ((c.left limit patience - 1) * k)
        (Query.collect limit patience round (c.next patience x)
          (inst ++ x.ret ++ x.extra)) inv := by
      intro x hx
      obtain ⟨hleft, hretry'⟩ := c.left_next patience x hcnt hretry
      have h := ih x hretry' (hinv inst x hinst hx)
      exact h.mono_left (Nat.mul_le_mul_right k (by omega))
    have hpos : 0 < c.left limit patience := by
      unfold Counters.left
      have hone : 1 * max 1 patience ≤ (limit - c.cnt) * max 1 patience :=
        Nat.mul_le_mul_right _ (by omega)
      omega
    have hsum : k + (c.left limit patience - 1) * k = c.left limit patience * k := by
      calc k + (c.left limit patience - 1) * k = (c.left limit patience - 1 + 1) * k := by
            rw [Nat.add_mul, Nat.one_mul, Nat.add_comm]
        _ = c.left limit patience * k := by rw [Nat.sub_add_cancel hpos]
    have h := hround.bind hrest
    rwa [hsum] at h
  | case2 c inst hcnt =>
    rw [Query.collect, if_neg hcnt]
    exact .pure hinst

/-- A loop in which every round finds the same element. -/
lemma Reaches.collect {ι : Type} {f : q → r} {limit patience : ℕ} {round : Prog q r (Round ι)}
    {w : ι} (hround : Reaches f round (.ofList [w])) (hp : 0 < patience) {n cnt : ℕ}
    (hn : cnt + n = limit) (inst : List ι) :
    Reaches f (collect limit patience round ⟨cnt, 0⟩ inst) (inst ++ List.replicate n w) := by
  induction n generalizing cnt inst with
  | zero =>
    have hcnt : ¬cnt < limit := by omega
    rw [Query.collect, if_neg hcnt, List.replicate_zero, List.append_nil]
    exact .pure inst
  | succ n ih =>
    have hcnt : cnt < limit := by omega
    have hnext : Counters.next ⟨cnt, 0⟩ patience (.ofList [w]) = ⟨cnt + 1, 0⟩ := by
      simp [Counters.next, Round.ofList, Nat.not_le.2 hp]
    rw [Query.collect, if_pos hcnt]
    refine hround.bind ?_
    rw [hnext]
    have hrest := @ih (cnt + 1) (by omega) (inst ++ [w] ++ [])
    rw [List.append_nil, List.append_assoc, List.singleton_append, ← List.replicate_succ] at hrest
    rw [List.append_assoc]
    exact hrest

end Query
