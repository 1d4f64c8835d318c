import Mathlib.Algebra.Order.BigOperators.Group.List
import Mathlib.Data.Finset.Card
import Rit.Script.RitCov

/-!
# What the coverage counts mean

The counts are meant to say at how many addresses each item occurs, log by log.  The loop keeps one
set of addresses for all the items of a log, and it looks at that set only for items it has counted
before.  So the first occurrence of an item at an address is missed when the item is known and
another item has used the address.

* `Counts.Tracks` is the invariant of the scan: which items and addresses have been seen.  A count
  never gains more than its item gains addresses (`count_step_le`), so what was missed once stays
  missed.
* Without an item that meets another one at an address and is known from elsewhere, each step counts
  exactly (`count_step_eq`).
* Where there is such an item, some order of the lines misses it (`exists_missed`).
-/

namespace Rit.RitCov

open PyStr

/-! ## The occurrences in a log -/

/-- The item and the address of a line, if it is an `INST:` line that can be parsed. -/
def entry (l : Str) : Option (Key × ℤ) :=
  if isInst l then
    match parseLine l with
    | .ok item => item.addr.map fun a => (item.key, a)
    | .error _ => none
  else none

/-- An `INST:` line that can be parsed, or another line. -/
def WellFormed (l : Str) : Prop := isInst l = true → (entry l).isSome = true

/-- The occurrences in a log. -/
def entries (file : List Str) : List (Key × ℤ) := file.filterMap entry

/-- The addresses of an item. -/
def addrsOf (i : Key) (es : List (Key × ℤ)) : Finset ℤ :=
  ((es.filter fun e => e.1 = i).map Prod.snd).toFinset

section Occurrences

variable {i : Key} {a : ℤ} {es : List (Key × ℤ)}

lemma mem_addrsOf : a ∈ addrsOf i es ↔ (i, a) ∈ es := by
  simp [addrsOf]

lemma addrsOf_concat (i : Key) (es : List (Key × ℤ)) (e : Key × ℤ) :
    addrsOf i (es ++ [e]) = if e.1 = i then insert e.2 (addrsOf i es) else addrsOf i es := by
  ext a
  split <;> rename_i h
  · subst h
    simp only [mem_addrsOf, List.mem_append, List.mem_singleton, Finset.mem_insert]
    rw [or_comm, Prod.ext_iff]
    simp
  · simp only [mem_addrsOf, List.mem_append, List.mem_singleton]
    refine or_iff_left fun heq => h ?_
    rw [← heq]

lemma card_addrsOf_concat (i : Key) (es : List (Key × ℤ)) (e : Key × ℤ) :
    (addrsOf i (es ++ [e])).card = (addrsOf i es).card + if e.1 = i ∧ e ∉ es then 1 else 0 := by
  rw [addrsOf_concat]
  by_cases hi : e.1 = i
  · have hmem : e.2 ∈ addrsOf i es ↔ e ∈ es := by rw [mem_addrsOf, ← hi]
    rw [if_pos hi]
    by_cases he : e ∈ es
    · rw [Finset.insert_eq_of_mem (hmem.2 he), if_neg fun h => h.2 he, Nat.add_zero]
    · rw [Finset.card_insert_of_notMem (mt hmem.1 he), if_pos ⟨hi, he⟩]
  · rw [if_neg hi, if_neg fun h => hi h.1, Nat.add_zero]

lemma addrsOf_perm {es' : List (Key × ℤ)} (h : es.Perm es') : addrsOf i es = addrsOf i es' := by
  ext a
  rw [mem_addrsOf, mem_addrsOf]
  exact h.mem_iff

end Occurrences

/-! ## A step of the scan -/

/-- What the scan knows behind some occurrences of a log, with the items it knew before. -/
structure Counts.Tracks (c : Counts) (known : Key → Prop) (done : List (Key × ℤ)) : Prop where
  items : ∀ i, i ∈ c.items ↔ known i ∨ ∃ a, (i, a) ∈ done
  addrs : ∀ a, a ∈ c.addrs ↔ ∃ i, (i, a) ∈ done

section Step

variable {c : Counts} {known : Key → Prop} {done : List (Key × ℤ)}

/-- The three branches of the loop body. -/
lemma Counts.add_cases (c : Counts) (i : Key) (a : ℤ) :
    (i ∈ c.items ∧ a ∈ c.addrs ∧ c.add i a = c) ∨
      ((i ∉ c.items ∨ a ∉ c.addrs) ∧ c.add i a = ⟨Tally.bump c.items i 1, a :: c.addrs⟩) := by
  unfold Counts.add Tally.bump
  by_cases hi : i ∈ c.items
  · by_cases ha : a ∈ c.addrs
    · exact .inl ⟨hi, ha, by simp [hi, ha]⟩
    · exact .inr ⟨.inr ha, by simp [hi, ha]⟩
  · exact .inr ⟨.inl hi, by simp [hi]⟩

lemma Counts.Tracks.add (h : c.Tracks known done) (e : Key × ℤ) :
    (c.add e.1 e.2).Tracks known (done ++ [e]) := by
  obtain ⟨i, a⟩ := e
  have hitems : ∀ j, (j = i ∨ j ∈ c.items) ↔
      known j ∨ ∃ b, (j, b) ∈ done ++ [(i, a)] := by
    intro j
    rw [h.items]
    constructor
    · rintro (rfl | hk | ⟨b, hb⟩)
      · exact .inr ⟨a, by simp⟩
      · exact .inl hk
      · exact .inr ⟨b, by simp [hb]⟩
    · rintro (hk | ⟨b, hb⟩)
      · exact .inr (.inl hk)
      · rcases List.mem_append.1 hb with hb | hb
        · exact .inr (.inr ⟨b, hb⟩)
        · exact .inl (Prod.ext_iff.1 (List.mem_singleton.1 hb)).1
  have haddrs : ∀ b, (b = a ∨ b ∈ c.addrs) ↔ ∃ j, (j, b) ∈ done ++ [(i, a)] := by
    intro b
    rw [h.addrs]
    constructor
    · rintro (rfl | ⟨j, hj⟩)
      · exact ⟨i, by simp⟩
      · exact ⟨j, by simp [hj]⟩
    · rintro ⟨j, hj⟩
      rcases List.mem_append.1 hj with hj | hj
      · exact .inr ⟨j, hj⟩
      · exact .inl (Prod.ext_iff.1 (List.mem_singleton.1 hj)).2
  rcases c.add_cases i a with ⟨hi, ha, heq⟩ | ⟨-, heq⟩
  · change (c.add i a).Tracks known _
    rw [heq]
    refine ⟨fun j => ?_, fun b => ?_⟩
    · rw [← hitems]
      exact ⟨.inr, fun hj => hj.elim (fun hj => hj ▸ hi) id⟩
    · rw [← haddrs]
      exact ⟨.inr, fun hb => hb.elim (fun hb => hb ▸ ha) id⟩
  · change (c.add i a).Tracks known _
    rw [heq]
    exact ⟨fun j => Tally.mem_bump.trans (hitems j), fun b => List.mem_cons.trans (haddrs b)⟩

/-- A count gains at most what its item gains in addresses. -/
lemma count_step_le (h : c.Tracks known done) (e : Key × ℤ) (i : Key) :
    Tally.count (c.add e.1 e.2).items i + (addrsOf i done).card ≤
      Tally.count c.items i + (addrsOf i (done ++ [e])).card := by
  rw [card_addrsOf_concat]
  rcases c.add_cases e.1 e.2 with ⟨-, -, heq⟩ | ⟨hnew, heq⟩
  · rw [heq]
    omega
  · rw [heq, Tally.count_bump]
    by_cases hi : e.1 = i
    · -- an occurrence that was there before is known with its address
      have hfirst : e ∉ done := by
        intro he
        rcases hnew with hnew | hnew
        · exact hnew ((h.items e.1).2 (.inr ⟨e.2, he⟩))
        · exact hnew ((h.addrs e.2).2 ⟨e.1, he⟩)
      rw [if_pos hi, if_pos ⟨hi, hfirst⟩]
      omega
    · rw [if_neg hi]
      omega

/-- The occurrence is missed: its item is known, and its address belongs to others so far. -/
def Missed (known : Key → Prop) (done : List (Key × ℤ)) (e : Key × ℤ) : Prop :=
  e ∉ done ∧ (known e.1 ∨ ∃ a, (e.1, a) ∈ done) ∧ ∃ i, (i, e.2) ∈ done

/-- What is not missed is counted. -/
lemma count_step_eq (h : c.Tracks known done) {e : Key × ℤ} (he : ¬Missed known done e) (i : Key) :
    Tally.count (c.add e.1 e.2).items i + (addrsOf i done).card =
      Tally.count c.items i + (addrsOf i (done ++ [e])).card := by
  refine le_antisymm (count_step_le h e i) ?_
  rw [card_addrsOf_concat]
  rcases c.add_cases e.1 e.2 with ⟨hi, ha, heq⟩ | ⟨-, heq⟩
  · have hold : e ∈ done := by
      by_contra hnew
      exact he ⟨hnew, (h.items e.1).1 hi, (h.addrs e.2).1 ha⟩
    rw [heq, if_neg fun hc => hc.2 hold]
    omega
  · rw [heq, Tally.count_bump]
    by_cases hi : e.1 = i
    · rw [if_pos hi]
      split <;> omega
    · rw [if_neg hi, if_neg fun hc => hi hc.1]
      omega

/-- What is missed is not counted. -/
lemma count_step_missed (h : c.Tracks known done) {e : Key × ℤ} (he : Missed known done e) :
    Tally.count (c.add e.1 e.2).items e.1 + (addrsOf e.1 done).card + 1 =
      Tally.count c.items e.1 + (addrsOf e.1 (done ++ [e])).card := by
  obtain ⟨hnew, hitem, haddr⟩ := he
  rw [card_addrsOf_concat, if_pos ⟨rfl, hnew⟩]
  rcases c.add_cases e.1 e.2 with ⟨-, -, heq⟩ | ⟨hc, -⟩
  · rw [heq]
    omega
  · rcases hc with hc | hc
    · exact absurd ((h.items e.1).2 hitem) hc
    · exact absurd ((h.addrs e.2).2 haddr) hc

end Step

/-! ## Scanning a log -/

/-- The scan of some occurrences. -/
def Counts.scan (c : Counts) (es : List (Key × ℤ)) : Counts := es.foldl (fun c e => c.add e.1 e.2) c

section Scan

variable {known : Key → Prop}

lemma Counts.scan_append (c : Counts) (es fs : List (Key × ℤ)) :
    c.scan (es ++ fs) = (c.scan es).scan fs := List.foldl_append

lemma Counts.Tracks.scan (es : List (Key × ℤ)) : ∀ {c : Counts} {done : List (Key × ℤ)},
    c.Tracks known done → (c.scan es).Tracks known (done ++ es) := by
  induction es with
  | nil =>
    intro c done h
    rwa [List.append_nil]
  | cons e es ih =>
    intro c done h
    rw [List.append_cons]
    exact ih (h.add e)

/-- A scan counts at most the addresses. -/
lemma count_scan_le (i : Key) (es : List (Key × ℤ)) : ∀ {c : Counts} {done : List (Key × ℤ)},
    c.Tracks known done → Tally.count (c.scan es).items i + (addrsOf i done).card ≤
      Tally.count c.items i + (addrsOf i (done ++ es)).card := by
  induction es with
  | nil =>
    intro c done h
    rw [List.append_nil]
    rfl
  | cons e es ih =>
    intro c done h
    have hstep := count_step_le h e i
    have hrest := ih (h.add e)
    rw [List.append_cons]
    change Tally.count ((c.add e.1 e.2).scan es).items i + _ ≤ _
    omega

/-- A scan that misses nothing counts the addresses. -/
lemma count_scan_eq (i : Key) (es : List (Key × ℤ)) : ∀ {c : Counts} {done : List (Key × ℤ)},
    c.Tracks known done → (∀ p e q, es = p ++ e :: q → ¬Missed known (done ++ p) e) →
    Tally.count (c.scan es).items i + (addrsOf i done).card =
      Tally.count c.items i + (addrsOf i (done ++ es)).card := by
  induction es with
  | nil =>
    intro c done h _
    rw [List.append_nil]
    rfl
  | cons e es ih =>
    intro c done h hall
    have hfirst : ¬Missed known done e := by
      have := hall [] e es rfl
      rwa [List.append_nil] at this
    have hstep := count_step_eq h hfirst i
    have hrest := ih (h.add e) fun p e' q heq => by
      have := hall (e :: p) e' q (by rw [heq]; rfl)
      rwa [List.append_cons] at this
    rw [List.append_cons]
    change Tally.count ((c.add e.1 e.2).scan es).items i + _ = _
    omega

/-- A scan that misses an occurrence counts too little. -/
lemma count_scan_lt {c : Counts} {p q : List (Key × ℤ)} {e : Key × ℤ} (h : c.Tracks known [])
    (hmissed : Missed known p e) : Tally.count (c.scan (p ++ e :: q)).items e.1 <
      Tally.count c.items e.1 + (addrsOf e.1 (p ++ e :: q)).card := by
  have hp : (c.scan p).Tracks known p := h.scan p
  have hbefore := count_scan_le e.1 p h
  have hstep := count_step_missed hp hmissed
  have hafter := count_scan_le e.1 q (hp.add e)
  have hscan : c.scan (p ++ e :: q) = ((c.scan p).add e.1 e.2).scan q := c.scan_append p (e :: q)
  have hempty : (addrsOf e.1 []).card = 0 := rfl
  rw [hscan, List.append_cons]
  rw [List.nil_append] at hbefore
  omega

end Scan

/-! ## Orders of the lines -/

/-- Two items do not meet at an address, unless they occur nowhere else. -/
def Clear (known : Key → Prop) (es : List (Key × ℤ)) : Prop :=
  ∀ i j a, (i, a) ∈ es → (j, a) ∈ es → i ≠ j → ¬known i ∧ ∀ b, (i, b) ∈ es → b = a

section Orders

variable {known : Key → Prop} {es : List (Key × ℤ)}

lemma Clear.not_missed (h : Clear known es) {p q : List (Key × ℤ)} {e : Key × ℤ}
    (hes : es = p ++ e :: q) : ¬Missed known p e := by
  rintro ⟨hnew, hitem, j, hj⟩
  have hmem : ∀ x ∈ p, x ∈ es := fun x hx => hes ▸ List.mem_append_left _ hx
  have he : (e.1, e.2) ∈ es := hes ▸ List.mem_append_right _ List.mem_cons_self
  have hne : e.1 ≠ j := fun heq => hnew (by rw [← heq] at hj; exact hj)
  obtain ⟨hunknown, honly⟩ := h e.1 j e.2 he (hmem _ hj) hne
  rcases hitem with hk | ⟨b, hb⟩
  · exact hunknown hk
  · rw [honly b (hmem _ hb)] at hb
    exact hnew hb

/-- Otherwise some order misses an occurrence. -/
lemma exists_missed (h : ¬Clear known es) : ∃ p e q, es.Perm (p ++ e :: q) ∧ Missed known p e := by
  unfold Clear at h
  push Not at h
  obtain ⟨i, j, a, hi, hj, hij, hclear⟩ := h
  have hne : (i, a) ≠ (j, a) := fun heq => hij (Prod.ext_iff.1 heq).1
  have hi' : (i, a) ∈ es.erase (j, a) := (List.mem_erase_of_ne hne).2 hi
  by_cases hk : known i
  · -- the other item first
    obtain ⟨s, t, hst, hs⟩ := List.eq_append_cons_of_mem hi'
    refine ⟨(j, a) :: s, (i, a), t, ?_, ?_, .inl hk, j, List.mem_cons_self⟩
    · rw [List.cons_append, ← hst]
      exact List.perm_cons_erase hj
    · simp [hs, hij]
  · -- the item at another address, and then the other item
    obtain ⟨b, hb, hba⟩ := hclear hk
    have hb' : (i, b) ∈ es.erase (j, a) :=
      (List.mem_erase_of_ne fun heq => hij (Prod.ext_iff.1 heq).1).2 hb
    have hi'' : (i, a) ∈ (es.erase (j, a)).erase (i, b) :=
      (List.mem_erase_of_ne fun heq => hba (Prod.ext_iff.1 heq).2.symm).2 hi'
    obtain ⟨s, t, hst, hs⟩ := List.eq_append_cons_of_mem hi''
    refine ⟨(j, a) :: (i, b) :: s, (i, a), t, ?_, ?_, .inr ⟨b, by simp⟩, j, List.mem_cons_self⟩
    · rw [List.cons_append, List.cons_append, ← hst]
      exact (List.perm_cons_erase hj).trans ((List.perm_cons_erase hb').cons _)
    · simp [hs, hij, Ne.symm hba]

/-- A new order of what a list is mapped to comes from a new order of the list. -/
lemma exists_perm_filterMap {α β : Type*} (g : α → Option β) (m : List β) :
    ∀ {l : List α}, (l.filterMap g).Perm m → ∃ l', l.Perm l' ∧ l'.filterMap g = m := by
  classical
  induction m with
  | nil =>
    intro l h
    exact ⟨l, .refl l, h.eq_nil⟩
  | cons b m ih =>
    intro l h
    obtain ⟨x, hx, hgx⟩ := List.mem_filterMap.1 (h.mem_iff.2 List.mem_cons_self)
    have hl : l.Perm (x :: l.erase x) := List.perm_cons_erase hx
    have hrest : ((l.erase x).filterMap g).Perm m := by
      have := (hl.filterMap g).symm.trans h
      rw [List.filterMap_cons_some hgx] at this
      exact List.perm_cons _ |>.1 this
    obtain ⟨l', hperm, heq⟩ := ih hrest
    exact ⟨x :: l', hl.trans (hperm.cons x), by rw [List.filterMap_cons_some hgx, heq]⟩

end Orders

/-! ## All the logs -/

/-- The number the count is meant to be. -/
def expected (i : Key) (logs : List (List Str)) : ℕ :=
  (logs.map fun f => (addrsOf i (entries f)).card).sum

/-- The item occurs in one of the logs. -/
def Occurs (logs : List (List Str)) (i : Key) : Prop := ∃ f ∈ logs, ∃ a, (i, a) ∈ entries f

/-- The scan of the logs, one after the other. -/
def scanAll (items : Tally.Dict Key) (logs : List (List Str)) : Tally.Dict Key :=
  logs.foldl (fun items f => (Counts.scan ⟨items, []⟩ (entries f)).items) items

section Logs

variable {items : Tally.Dict Key} {before logs : List (List Str)}

/-- Behind some logs, the items of these are known. -/
def Knows (items : Tally.Dict Key) (before : List (List Str)) : Prop :=
  ∀ i, i ∈ items ↔ Occurs before i

lemma Knows.tracks (h : Knows items before) : Counts.Tracks ⟨items, []⟩ (Occurs before) [] where
  items i := by simp [h i]
  addrs a := by simp

lemma Knows.scan (h : Knows items before) (f : List Str) :
    Knows (Counts.scan ⟨items, []⟩ (entries f)).items (before ++ [f]) := by
  intro i
  rw [(h.tracks.scan (entries f)).items i]
  simp only [Occurs, List.nil_append, List.mem_append, List.mem_singleton]
  constructor
  · rintro (⟨g, hg, a, ha⟩ | ⟨a, ha⟩)
    · exact ⟨g, .inl hg, a, ha⟩
    · exact ⟨f, .inr rfl, a, ha⟩
  · rintro ⟨g, hg | rfl, a, ha⟩
    · exact .inl ⟨g, hg, a, ha⟩
    · exact .inr ⟨a, ha⟩

lemma knows_scanAll (logs : List (List Str)) : ∀ {items : Tally.Dict Key} {before},
    Knows items before → Knows (scanAll items logs) (before ++ logs) := by
  induction logs with
  | nil =>
    intro items before h
    rwa [List.append_nil]
  | cons f logs ih =>
    intro items before h
    rw [List.append_cons]
    exact ih (h.scan f)

lemma knows_empty : Knows ∅ [] := fun i => by simp [Occurs]

lemma expected_append (i : Key) (xs ys : List (List Str)) :
    expected i (xs ++ ys) = expected i xs + expected i ys := by
  simp [expected]

lemma expected_cons (i : Key) (f : List Str) (logs : List (List Str)) :
    expected i (f :: logs) = (addrsOf i (entries f)).card + expected i logs := List.sum_cons

lemma count_scanAll_le (i : Key) (logs : List (List Str)) : ∀ {items : Tally.Dict Key} {before},
    Knows items before →
      Tally.count (scanAll items logs) i ≤ Tally.count items i + expected i logs := by
  induction logs with
  | nil =>
    intro items before _
    rfl
  | cons f logs ih =>
    intro items before h
    have hfile := count_scan_le i (entries f) h.tracks
    have hrest := ih (h.scan f)
    have hempty : (addrsOf i []).card = 0 := rfl
    rw [expected_cons]
    rw [List.nil_append] at hfile
    change Tally.count (scanAll (Counts.scan ⟨items, []⟩ (entries f)).items logs) i ≤ _
    change _ ≤ Tally.count items i + _ at hfile
    omega

/-- In each log, two items that meet at an address occur nowhere else in it and in no log before. -/
def Unmixed (logs : List (List Str)) : Prop :=
  ∀ before f after, logs = before ++ f :: after → Clear (Occurs before) (entries f)

lemma count_scanAll_eq (i : Key) (logs : List (List Str)) : ∀ {items : Tally.Dict Key} {before},
    Knows items before → Unmixed (before ++ logs) →
      Tally.count (scanAll items logs) i = Tally.count items i + expected i logs := by
  induction logs with
  | nil =>
    intro items before _ _
    rfl
  | cons f logs ih =>
    intro items before h hun
    have hclear := hun before f logs rfl
    have hfile := count_scan_eq i (entries f) h.tracks fun p e q heq => hclear.not_missed heq
    have hrest := ih (h.scan f) (by rwa [List.append_cons] at hun)
    have hempty : (addrsOf i []).card = 0 := rfl
    rw [expected_cons]
    rw [List.nil_append] at hfile
    change Tally.count (scanAll (Counts.scan ⟨items, []⟩ (entries f)).items logs) i = _
    change _ = Tally.count items i + _ at hfile
    omega

end Logs

/-! ## The loop -/

/-- The logs hold `INST:` lines that can be parsed, and other lines. -/
def AllWellFormed (logs : List (List Str)) : Prop := ∀ f ∈ logs, ∀ l ∈ f, WellFormed l

section Loop

variable {logs logs' : List (List Str)}

/-- A line of the loop is a step of the scan, or none. -/
lemma logLine_eq (c : Counts) {l : Str} (h : WellFormed l) :
    logLine c l = .ok (c.scan (entry l).toList) := by
  unfold WellFormed at h
  unfold logLine
  unfold entry at h ⊢
  split
  · rename_i hinst
    have hsome := h hinst
    rw [if_pos hinst] at hsome
    cases hparse : parseLine l with
    | error e =>
      rw [hparse] at hsome
      cases hsome
    | ok item =>
      rw [hparse] at hsome
      obtain ⟨a, ha⟩ := Option.isSome_iff_exists.1 (Option.isSome_map.symm.trans hsome)
      simp [ha, Counts.scan, bind, Except.bind, pure, Except.pure]
  · rfl

lemma foldlM_logLine (f : List Str) : ∀ (c : Counts), (∀ l ∈ f, WellFormed l) →
    f.foldlM logLine c = .ok (c.scan (entries f)) := by
  induction f with
  | nil =>
    intro c _
    rfl
  | cons l f ih =>
    intro c h
    have hentries : entries (l :: f) = (entry l).toList ++ entries f := by
      cases hl : entry l <;> simp [entries, hl]
    rw [List.foldlM_cons, logLine_eq c (h l List.mem_cons_self), hentries, Counts.scan_append]
    exact ih _ fun l' hl' => h l' (List.mem_cons_of_mem l hl')

/-- The loop over well-formed logs is the scan. -/
lemma logItems_eq (h : AllWellFormed logs) : logItems logs = .ok (scanAll ∅ logs) := by
  have hfiles : ∀ (fs : List (List Str)) (items : Tally.Dict Key), (∀ f ∈ fs, f ∈ logs) →
      fs.foldlM logFile items = .ok (scanAll items fs) := by
    intro fs
    induction fs with
    | nil =>
      intro items _
      rfl
    | cons f fs ih =>
      intro items hmem
      have hfile : logFile items f = .ok (Counts.scan ⟨items, []⟩ (entries f)).items := by
        rw [logFile, foldlM_logLine f _ (h f (hmem f List.mem_cons_self))]
        rfl
      rw [List.foldlM_cons, hfile]
      exact ih _ fun g hg => hmem g (List.mem_cons_of_mem f hg)
  exact hfiles logs ∅ fun _ => id

/-! ## Exactness -/

/-- Whatever the order of the lines in each log, the counts are the numbers of addresses. -/
def Exact (logs : List (List Str)) : Prop :=
  ∀ logs', List.Forall₂ List.Perm logs logs' →
    ∃ items, logItems logs' = .ok items ∧ ∀ i, Tally.count items i = expected i logs

lemma entries_perm {f f' : List Str} (h : f.Perm f') : (entries f).Perm (entries f') :=
  h.filterMap entry

lemma AllWellFormed.perm (h : AllWellFormed logs) (hp : List.Forall₂ List.Perm logs logs') :
    AllWellFormed logs' := by
  induction hp with
  | nil => exact h
  | cons hf _ ih =>
    rw [AllWellFormed, List.forall_mem_cons] at h ⊢
    exact ⟨fun l hl => h.1 l (hf.mem_iff.2 hl), ih h.2⟩

lemma expected_perm (i : Key) (hp : List.Forall₂ List.Perm logs logs') :
    expected i logs = expected i logs' := by
  induction hp with
  | nil => rfl
  | cons hf _ ih => rw [expected_cons, expected_cons, addrsOf_perm (entries_perm hf), ih]

lemma Occurs.of_perm {i : Key} (hp : List.Forall₂ List.Perm logs logs') (h : Occurs logs' i) :
    Occurs logs i := by
  induction hp with
  | nil => exact h
  | cons hf _ ih =>
    obtain ⟨f, hf', a, ha⟩ := h
    rcases List.mem_cons.1 hf' with rfl | hf'
    · exact ⟨_, List.mem_cons_self, a, (entries_perm hf).mem_iff.2 ha⟩
    · obtain ⟨g, hg, b, hb⟩ := ih ⟨f, hf', a, ha⟩
      exact ⟨g, List.mem_cons_of_mem _ hg, b, hb⟩

lemma Unmixed.perm (h : Unmixed logs) (hp : List.Forall₂ List.Perm logs logs') : Unmixed logs' := by
  rintro before' f' after' rfl
  have hbefore := List.forall₂_take_append logs before' (f' :: after') hp
  have hdrop := List.forall₂_drop_append logs before' (f' :: after') hp
  obtain ⟨f, after, hf, -, heq⟩ := List.forall₂_cons_right_iff.1 hdrop
  have hlogs : logs = logs.take before'.length ++ f :: after := by
    rw [← heq, List.take_append_drop]
  have hclear := h _ f after hlogs
  intro i j a hi hj hij
  obtain ⟨hunknown, honly⟩ := hclear i j a ((entries_perm hf).mem_iff.2 hi)
    ((entries_perm hf).mem_iff.2 hj) hij
  exact ⟨fun hocc => hunknown (hocc.of_perm hbefore),
    fun b hb => honly b ((entries_perm hf).mem_iff.2 hb)⟩

/-- An order that misses an occurrence. -/
lemma not_exact_of_missed {before after : List (List Str)} {f : List Str}
    (hwf : AllWellFormed (before ++ f :: after)) (h : ¬Clear (Occurs before) (entries f)) :
    ¬Exact (before ++ f :: after) := by
  intro hexact
  obtain ⟨p, e, q, hperm, hmissed⟩ := exists_missed h
  obtain ⟨f', hf', hentries⟩ := exists_perm_filterMap entry _ hperm
  have hsame : ∀ logs : List (List Str), List.Forall₂ List.Perm logs logs := fun logs =>
    List.forall₂_same.2 fun g _ => .refl g
  have hp : List.Forall₂ List.Perm (before ++ f :: after) (before ++ f' :: after) :=
    List.rel_append (hsame before) (.cons hf' (hsame after))
  obtain ⟨items, hitems, hcount⟩ := hexact _ hp
  have heq := (logItems_eq (hwf.perm hp)).symm.trans hitems
  cases heq
  -- before the log, in it, and behind it
  have hknows : Knows (scanAll ∅ before) before := knows_scanAll before knows_empty
  have hbefore := count_scanAll_le e.1 before knows_empty
  have hfile := count_scan_lt (q := q) hknows.tracks hmissed
  have hafter := count_scanAll_le e.1 after (hknows.scan f')
  have hexp := hcount e.1
  have hsplit : scanAll ∅ (before ++ f' :: after) = scanAll
      (Counts.scan ⟨scanAll ∅ before, []⟩ (entries f')).items after := by
    rw [scanAll, List.foldl_append]
    rfl
  have hf'' : entries f' = p ++ e :: q := hentries
  rw [expected_perm e.1 hp, expected_append, expected_cons, hsplit] at hexp
  rw [hf''] at hexp hafter
  have hempty : Tally.count (∅ : Tally.Dict Key) e.1 = 0 := rfl
  change _ < Tally.count (scanAll ∅ before) e.1 + _ at hfile
  omega

/-- The counts are exact, whatever the order of the lines, if and only if items that meet at an
address of a log occur nowhere else in it and in no log before. -/
theorem logItems_exact_iff (hwf : AllWellFormed logs) : Exact logs ↔ Unmixed logs := by
  constructor
  · rintro h before f after rfl
    by_contra hclear
    exact not_exact_of_missed hwf hclear h
  · intro h logs' hp
    refine ⟨_, logItems_eq (hwf.perm hp), fun i => ?_⟩
    rw [count_scanAll_eq i logs' knows_empty (h.perm hp), expected_perm i hp]
    exact Nat.zero_add _

end Loop

/-! ## A shift whose register changes -/

/-- The line of a shift by a register, at an address and with the value of the register. -/
def shiftLine (addr val : String) : Str :=
  ("INST: isa=\"0\" opk=\"1\" c=\"0\" s=\"0\" shift=\"LSL,-," ++ val ++ "\" ### " ++ addr ++
    ": e1a00211 ### lsl r0, r1, r2\n").toList

/-- Its item: the value of the register is one of the columns. -/
def shiftItem (val : String) : Key :=
  (["A", "1", "lsl", "0", "AL"] ++ List.replicate 6 "NA" ++ ["LSL", "NA", val] ++
    List.replicate 12 "NA").map String.toList

lemma entry_shiftLine_other : entry (shiftLine "8004" "1") = some (shiftItem "1", 0x8004) := by
  decide +kernel

lemma entry_shiftLine_zero : entry (shiftLine "8000" "0") = some (shiftItem "0", 0x8000) := by
  decide +kernel

lemma entry_shiftLine_one : entry (shiftLine "8000" "1") = some (shiftItem "1", 0x8000) := by
  decide +kernel

/-- A log all of whose lines are occurrences. -/
lemma wellFormed_of_map (f : List Str) (es : List (Key × ℤ)) (h : f.map entry = es.map some) :
    AllWellFormed [f] ∧ entries f = es := by
  constructor
  · intro g hg l hl _
    rw [List.mem_singleton.1 hg] at hl
    obtain ⟨e, -, he⟩ := List.mem_map.1 (h ▸ List.mem_map_of_mem hl)
    rw [← he]
    rfl
  · have hjoin : entries f = (f.map entry).filterMap id := by
      rw [List.filterMap_map]
      rfl
    rw [hjoin, h, List.filterMap_map]
    exact List.filterMap_some

/-- Two items at two addresses are counted exactly. -/
theorem logItems_exact_apart : Exact [[shiftLine "8004" "1", shiftLine "8000" "0"]] := by
  obtain ⟨hwf, hentries⟩ := wellFormed_of_map
    [shiftLine "8004" "1", shiftLine "8000" "0"]
    [(shiftItem "1", 0x8004), (shiftItem "0", 0x8000)]
    (by rw [List.map_cons, List.map_cons, entry_shiftLine_other, entry_shiftLine_zero]; rfl)
  refine (logItems_exact_iff hwf).2 ?_
  rintro before f after hsplit
  obtain ⟨rfl, hf⟩ | ⟨-, hf⟩ := List.singleton_eq_append_iff.1 hsplit
  · cases hf
    rw [hentries]
    simp only [Clear, List.mem_cons, List.not_mem_nil, or_false, Prod.mk.injEq]
    rintro i j a (⟨rfl, rfl⟩ | ⟨rfl, rfl⟩) (⟨rfl, h⟩ | ⟨rfl, h⟩) hij
    · exact absurd rfl hij
    · cases h
    · cases h
    · exact absurd rfl hij
  · cases hf

/-- A shift at two addresses, at one of which its register has another value in between: one of the
two addresses is counted, and both of them if the lines stand in another order. -/
theorem logItems_misses_address :
    expected (shiftItem "1")
        [[shiftLine "8004" "1", shiftLine "8000" "0", shiftLine "8000" "1"]] = 2 ∧
      (∃ items, logItems [[shiftLine "8004" "1", shiftLine "8000" "0", shiftLine "8000" "1"]] =
        .ok items ∧ Tally.count items (shiftItem "1") = 1) ∧
      ∃ items, logItems [[shiftLine "8004" "1", shiftLine "8000" "1", shiftLine "8000" "0"]] =
        .ok items ∧ Tally.count items (shiftItem "1") = 2 := by
  obtain ⟨hwf, hentries⟩ := wellFormed_of_map
    [shiftLine "8004" "1", shiftLine "8000" "0", shiftLine "8000" "1"]
    [(shiftItem "1", 0x8004), (shiftItem "0", 0x8000), (shiftItem "1", 0x8000)]
    (by rw [List.map_cons, List.map_cons, List.map_cons, entry_shiftLine_other,
      entry_shiftLine_zero, entry_shiftLine_one]; rfl)
  obtain ⟨hwf', hentries'⟩ := wellFormed_of_map
    [shiftLine "8004" "1", shiftLine "8000" "1", shiftLine "8000" "0"]
    [(shiftItem "1", 0x8004), (shiftItem "1", 0x8000), (shiftItem "0", 0x8000)]
    (by rw [List.map_cons, List.map_cons, List.map_cons, entry_shiftLine_other,
      entry_shiftLine_zero, entry_shiftLine_one]; rfl)
  refine ⟨?_, ⟨_, logItems_eq hwf, ?_⟩, ⟨_, logItems_eq hwf', ?_⟩⟩
  · rw [expected_cons, hentries]
    decide +kernel
  · rw [scanAll, List.foldl_cons, hentries]
    decide +kernel
  · rw [scanAll, List.foldl_cons, hentries']
    decide +kernel

end Rit.RitCov
