import Mathlib.Algebra.BigOperators.Group.List.Lemmas
import Rit.Script.RitCov

/-!
# Merging logs of items

A log of items names a key as often as it was appended to it.  What the log says of a key is the sum
of these counts, its `balance`.  This is all that merging looks at: a merge adds to its destination,
for every key, the balances of its inputs (`mergeLogs_balance`), and the destination can be read
again.

So a merge is an addition, and the rest is arithmetic: the order of the inputs does not matter, and
logs that were merged in groups can be merged in turn.
-/

namespace Rit.RitCov

open PyStr PyInt PyLit
open Draw (PyErr)

/-! ## Reading a log -/

/-- A key without a colon. -/
def PlainKey (k : Key) : Prop := ∀ s ∈ k, IsBytes s ∧ ':' ∉ s

/-- The file is a log of items with plain keys. -/
def HasLog (fs : Files) (f : Str) : Prop :=
  ∃ es, (∀ e ∈ es, PlainKey e.1) ∧ fs f = some (itemText es)

/-- The file is such a log, or there is none of that name. -/
def LogAt (fs : Files) (f : Str) : Prop := fs f = none ∨ HasLog fs f

/-- The items of a text. -/
def readItems (content : Str) : Except PyErr (List (Key × ℕ)) :=
  (readlines content).mapM parseItem

/-- What a log says of a key. -/
def balance (fs : Files) (f : Str) (k : Key) : ℕ :=
  match readItems ((fs f).getD []) with
  | .ok es => Tally.total es k
  | .error _ => 0

section Reading

variable {fs fs' : Files} {f : Str} {es : List (Key × ℕ)} {k : Key} {n : ℕ}

/-- A printed line is read back. -/
lemma parseItem_itemLine (hk : PlainKey k) :
    parseItem (itemLine (k, n) ++ ['\n']) = .ok (k, n) := by
  have hcolon := colon_notMem_reprTuple (fun s hs => (hk s hs).1) fun s hs => (hk s hs).2
  have hcount : ':' ∉ ' ' :: (dec n ++ ['\n']) := by
    intro h
    simp only [List.mem_cons, List.mem_append, List.not_mem_nil, or_false] at h
    rcases h with h | h | h
    · cases h
    · have := isDigit_of_mem_dec _ h
      cases this
    · cases h
  have hsplit : (itemLine (k, n) ++ ['\n']).splitOn ':' =
      [PyLit.reprTuple k, ' ' :: (dec n ++ ['\n'])] := by
    rw [itemLine, List.append_assoc, List.cons_append,
      List.splitOn_append_cons_self_of_not_mem hcolon, List.cons_append,
      List.splitOn_eq_singleton hcount]
  have hkey : evalTuple (PyLit.reprTuple k) = some k := evalTuple_reprTuple fun s hs => (hk s hs).1
  have hnum : evalNum (' ' :: (dec n ++ ['\n'])) = some n :=
    evalNum_dec (List.forall_mem_singleton.2 rfl) (List.forall_mem_singleton.2 rfl) n
  simp [parseItem, hsplit, hkey, hnum, bind, Except.bind, pure, Except.pure]

lemma newline_notMem_itemLine (hk : PlainKey k) : '\n' ∉ itemLine (k, n) := by
  intro h
  rcases List.mem_append.1 h with h | h
  · exact newline_notMem_reprTuple (fun s hs => (hk s hs).1) h
  · simp only [List.mem_cons] at h
    rcases h with h | h | h
    · cases h
    · cases h
    · have := isDigit_of_mem_dec _ h
      cases this

lemma readlines_itemText (h : ∀ e ∈ es, PlainKey e.1) :
    readlines (itemText es) = es.map fun e => itemLine e ++ ['\n'] := by
  have hlines : ∀ l ∈ es.map itemLine, '\n' ∉ l := by
    intro l hl
    obtain ⟨e, he, rfl⟩ := List.mem_map.1 hl
    exact newline_notMem_itemLine (h e he)
  have htext : itemText es = (es.map itemLine).flatMap fun l => l ++ ['\n'] := by
    rw [List.flatMap_map]
    rfl
  rw [htext, readlines_flatMap hlines, List.map_map]
  rfl

/-- A log is read back. -/
lemma readItems_itemText (h : ∀ e ∈ es, PlainKey e.1) : readItems (itemText es) = .ok es := by
  rw [readItems, readlines_itemText h]
  induction es with
  | nil => rfl
  | cons e es ih =>
    rw [List.map_cons, List.mapM_cons, parseItem_itemLine (h e List.mem_cons_self),
      ih fun e' he' => h e' (List.mem_cons_of_mem e he')]
    rfl

lemma balance_of_items (h : ∀ e ∈ es, PlainKey e.1) (hf : fs f = some (itemText es)) (k : Key) :
    balance fs f k = Tally.total es k := by
  rw [balance, hf, Option.getD_some, readItems_itemText h]

lemma balance_of_none (hf : fs f = none) (k : Key) : balance fs f k = 0 := by
  rw [balance, hf]
  rfl

lemma balance_congr (h : fs f = fs' f) (k : Key) : balance fs f k = balance fs' f k := by
  rw [balance, h, balance]

lemma HasLog.congr (h : HasLog fs f) (heq : fs' f = fs f) : HasLog fs' f := by
  rwa [HasLog, heq]

lemma LogAt.congr (h : LogAt fs f) (heq : fs' f = fs f) : LogAt fs' f := by
  rwa [LogAt, HasLog, heq]

end Reading

/-! ## Saving -/

section Saving

variable {fs : Files} {f : Str} {d : Tally.Dict Key}

/-- Saving appends to a log, or makes one. -/
lemma saveItemsToFile_log (o : ItemOrder) (hd : ∀ k ∈ d, PlainKey k) (hf : LogAt fs f) :
    HasLog (saveItemsToFile o f d fs) f ∧
      ∀ k, balance (saveItemsToFile o f d fs) f k = balance fs f k + Tally.count d k := by
  have hnew : ∀ e ∈ o.items d, PlainKey e.1 := by
    intro e he
    obtain ⟨e', he', rfl⟩ := List.mem_map.1 ((o.perm d).mem_iff.1 he)
    exact hd e'.1 (AList.mem_keys.2 (List.mem_map_of_mem he'))
  have hcount : ∀ k, Tally.total (o.items d) k = Tally.count d k := by
    intro k
    rw [Tally.total_of_perm (o.perm d), Tally.total_items]
  -- the items of the file before
  obtain ⟨es, hes, hcontent, hbal⟩ : ∃ es, (∀ e ∈ es, PlainKey e.1) ∧
      (fs f).getD [] = itemText es ∧ ∀ k, balance fs f k = Tally.total es k := by
    rcases hf with hnone | ⟨es, hes, hcontent⟩
    · exact ⟨[], by simp, by rw [hnone]; rfl, balance_of_none hnone⟩
    · exact ⟨es, hes, by rw [hcontent]; rfl, balance_of_items hes hcontent⟩
  have hall : ∀ e ∈ es ++ o.items d, PlainKey e.1 := fun e he =>
    (List.mem_append.1 he).elim (hes e) (hnew e)
  have hfile : saveItemsToFile o f d fs f = some (itemText (es ++ o.items d)) := by
    rw [saveItemsToFile, Function.update_self, hcontent, itemText, itemText, itemText,
      List.flatMap_append]
  refine ⟨⟨_, hall, hfile⟩, fun k => ?_⟩
  rw [balance_of_items hall hfile, Tally.total_append, hbal, hcount]

lemma saveItemsToFile_of_ne (o : ItemOrder) {f' : Str} (h : f' ≠ f) :
    saveItemsToFile o f d fs f' = fs f' := Function.update_of_ne h _ _

end Saving

/-! ## Merging -/

/-- What several logs say of a key. -/
def balances (fs : Files) (files : List Str) (k : Key) : ℕ := (files.map (balance fs · k)).sum

section Merging

variable {fs : Files} {files : List Str}

/-- A file adds its items to the dictionary. -/
lemma mergeFile_eq (items : Tally.Dict Key) {f : Str} {es : List (Key × ℕ)}
    (hes : ∀ e ∈ es, PlainKey e.1) (hf : fs f = some (itemText es)) :
    mergeFile fs items f = .ok (es.foldl (fun d e => Tally.bump d e.1 e.2) items) := by
  have hread : readFile fs f = .ok (itemText es) := by rw [readFile, hf]; rfl
  rw [mergeFile, hread]
  change (readlines (itemText es)).foldlM mergeLine items = _
  rw [readlines_itemText hes]
  clear hf hread
  induction es generalizing items with
  | nil => rfl
  | cons e es ih =>
    have hline : mergeLine items (itemLine e ++ ['\n']) = .ok (Tally.bump items e.1 e.2) := by
      rw [mergeLine, parseItem_itemLine (hes e List.mem_cons_self)]
      rfl
    rw [List.map_cons, List.foldlM_cons, hline]
    exact ih _ fun e' he' => hes e' (List.mem_cons_of_mem e he')

lemma plainKey_foldl_bump {es : List (Key × ℕ)} (hes : ∀ e ∈ es, PlainKey e.1) :
    ∀ {d : Tally.Dict Key}, (∀ k ∈ d, PlainKey k) →
      ∀ k ∈ es.foldl (fun d e => Tally.bump d e.1 e.2) d, PlainKey k := by
  induction es with
  | nil => exact id
  | cons e es ih =>
    intro d hd
    refine ih (fun e' he' => hes e' (List.mem_cons_of_mem e he')) fun k hk => ?_
    rcases Tally.mem_bump.1 hk with rfl | hk
    · exact hes e List.mem_cons_self
    · exact hd k hk

/-- The dictionary of a merge has the sums of its inputs. -/
lemma foldlM_mergeFile (files : List Str) : ∀ (items : Tally.Dict Key),
    (∀ f ∈ files, HasLog fs f) → (∀ k ∈ items, PlainKey k) →
    ∃ d, files.foldlM (mergeFile fs) items = .ok d ∧ (∀ k ∈ d, PlainKey k) ∧
      ∀ k, Tally.count d k = Tally.count items k + balances fs files k := by
  induction files with
  | nil =>
    intro items _ hitems
    exact ⟨items, rfl, hitems, fun k => rfl⟩
  | cons f files ih =>
    intro items hfiles hitems
    obtain ⟨es, hes, hf⟩ := hfiles f List.mem_cons_self
    obtain ⟨d, hd, hplain, hcount⟩ := ih (es.foldl (fun d e => Tally.bump d e.1 e.2) items)
      (fun f' hf' => hfiles f' (List.mem_cons_of_mem f hf')) (plainKey_foldl_bump hes hitems)
    refine ⟨d, ?_, hplain, fun k => ?_⟩
    · rw [List.foldlM_cons, mergeFile_eq items hes hf]
      exact hd
    · rw [hcount, Tally.count_foldl_bump, ← balance_of_items hes hf, Nat.add_assoc]
      rfl

/-- A merge adds the balances of its inputs to that of its destination, and touches nothing else. -/
lemma mergeLogs_balance (o : ItemOrder) {dst : Str} (hfiles : ∀ f ∈ files, HasLog fs f)
    (hdst : LogAt fs (joinPath dst)) :
    ∃ fs', mergeLogs o dst files fs = .ok fs' ∧ HasLog fs' (joinPath dst) ∧
      (∀ f, f ≠ joinPath dst → fs' f = fs f) ∧
      ∀ k, balance fs' (joinPath dst) k = balance fs (joinPath dst) k + balances fs files k := by
  obtain ⟨d, hd, hplain, hcount⟩ := foldlM_mergeFile files ∅ hfiles fun k hk => by
    exact absurd hk (AList.notMem_empty k)
  obtain ⟨hlog, hbal⟩ := saveItemsToFile_log o hplain hdst
  refine ⟨_, ?_, hlog, fun f hf => saveItemsToFile_of_ne o hf, fun k => ?_⟩
  · rw [mergeLogs, hd]
    rfl
  · rw [hbal, hcount, Tally.count_empty, Nat.zero_add]

/-- `logInstInfo` appends the counts of its files' lines to its log, and touches nothing else. -/
lemma logInstInfo_balance (o : ItemOrder) {dst : Str} {logs : List Str} {d : Tally.Dict Key}
    (hread : files.mapM (readFile fs) = .ok logs) (hitems : logItems (logs.map readlines) = .ok d)
    (hd : ∀ k ∈ d, PlainKey k) (hdst : LogAt fs (joinPath dst)) :
    ∃ fs', logInstInfo o dst files fs = .ok fs' ∧ HasLog fs' (joinPath dst) ∧
      (∀ f, f ≠ joinPath dst → fs' f = fs f) ∧
      ∀ k, balance fs' (joinPath dst) k = balance fs (joinPath dst) k + Tally.count d k := by
  obtain ⟨hlog, hbal⟩ := saveItemsToFile_log o hd hdst
  refine ⟨_, ?_, hlog, fun f hf => saveItemsToFile_of_ne o hf, hbal⟩
  simp only [logInstInfo, hread, hitems, bind, Except.bind]
  rfl

lemma balances_perm {files' : List Str} (h : files.Perm files') (k : Key) :
    balances fs files k = balances fs files' k := (h.map _).sum_eq

lemma balances_congr {fs' : Files} (h : ∀ f ∈ files, fs f = fs' f) (k : Key) :
    balances fs files k = balances fs' files k := by
  rw [balances, List.map_congr_left fun f hf => balance_congr (h f hf) k, balances]

end Merging

/-! ## Saving several logs -/

/-- Dictionaries that are saved one after the other, each in its file. -/
def saveAll (o : ItemOrder) (logs : List (Str × Tally.Dict Key)) (fs : Files) : Files :=
  logs.foldl (fun fs l => saveItemsToFile o l.1 l.2 fs) fs

/-- What they say of a key, in one of the files. -/
def savedTo (logs : List (Str × Tally.Dict Key)) (f : Str) (k : Key) : ℕ :=
  (logs.map fun l => if l.1 = f then Tally.count l.2 k else 0).sum

section SavingAll

variable {fs : Files} {f : Str} {d : Tally.Dict Key}

/-- Saving to any file keeps this one, with what was appended to it. -/
lemma logAt_saveItemsToFile (o : ItemOrder) (hd : ∀ k ∈ d, PlainKey k) {f' : Str} (hf : LogAt fs f)
    (hf' : LogAt fs f') : LogAt (saveItemsToFile o f' d fs) f ∧
      (HasLog fs f → HasLog (saveItemsToFile o f' d fs) f) ∧
      ∀ k, balance (saveItemsToFile o f' d fs) f k =
        balance fs f k + if f' = f then Tally.count d k else 0 := by
  by_cases h : f' = f
  · subst h
    obtain ⟨hlog, hbal⟩ := saveItemsToFile_log o hd hf'
    exact ⟨.inr hlog, fun _ => hlog, fun k => by rw [hbal, if_pos rfl]⟩
  · have hsame : saveItemsToFile o f' d fs f = fs f := saveItemsToFile_of_ne o (Ne.symm h)
    refine ⟨hf.congr hsame, fun hlog => hlog.congr hsame, fun k => ?_⟩
    rw [balance_congr hsame, if_neg h, Nat.add_zero]

lemma saveAll_balance (o : ItemOrder) (logs : List (Str × Tally.Dict Key)) : ∀ {fs : Files},
    (∀ l ∈ logs, ∀ k ∈ l.2, PlainKey k) → (∀ l ∈ logs, LogAt fs l.1) → LogAt fs f →
      LogAt (saveAll o logs fs) f ∧
      (HasLog fs f ∨ f ∈ logs.map Prod.fst → HasLog (saveAll o logs fs) f) ∧
      ∀ k, balance (saveAll o logs fs) f k = balance fs f k + savedTo logs f k := by
  induction logs with
  | nil =>
    intro fs _ _ hf
    exact ⟨hf, fun h => h.elim id fun h => absurd h List.not_mem_nil, fun k => rfl⟩
  | cons l logs ih =>
    intro fs hkeys hlogs hf
    have hd := hkeys l List.mem_cons_self
    have hl := hlogs l List.mem_cons_self
    obtain ⟨hat, hkeep, hbal⟩ := logAt_saveItemsToFile o hd hf hl
    obtain ⟨hat', hkeep', hbal'⟩ := ih (fun l' hl' => hkeys l' (List.mem_cons_of_mem l hl'))
      (fun l' hl' => (logAt_saveItemsToFile o hd (hlogs l' (List.mem_cons_of_mem l hl')) hl).1) hat
    refine ⟨hat', fun h => hkeep' ?_, fun k => ?_⟩
    · rcases h with h | h
      · exact .inl (hkeep h)
      · rcases List.mem_cons.1 h with rfl | h
        · exact .inl (saveItemsToFile_log o hd hl).1
        · exact .inr h
    · rw [saveAll, List.foldl_cons]
      change balance (saveAll o logs (saveItemsToFile o l.1 l.2 fs)) f k = _
      rw [hbal', hbal, Nat.add_assoc]
      rfl

end SavingAll

/-! ## Merging in groups -/

/-- The merges of several groups, each into its own destination. -/
def mergeGroups (o : ItemOrder) (groups : List (Str × List Str)) (fs : Files) :
    Except PyErr Files := groups.foldlM (fun fs g => mergeLogs o g.1 g.2 fs) fs

/-- The logs that these merges write. -/
def groupLogs (groups : List (Str × List Str)) : List Str := groups.map fun g => joinPath g.1

/-- The logs of the groups have the balances of the groups, on top of what they had. -/
lemma mergeGroups_balance (o : ItemOrder) (groups : List (Str × List Str)) : ∀ {fs : Files},
    (∀ g ∈ groups, ∀ f ∈ g.2, HasLog fs f) → (∀ f ∈ groupLogs groups, LogAt fs f) →
    (groupLogs groups).Nodup → (∀ f ∈ groupLogs groups, ∀ g ∈ groups, f ∉ g.2) →
    ∃ fs', mergeGroups o groups fs = .ok fs' ∧ (∀ f ∉ groupLogs groups, fs' f = fs f) ∧
      ∀ g ∈ groups, HasLog fs' (joinPath g.1) ∧
        ∀ k, balance fs' (joinPath g.1) k = balance fs (joinPath g.1) k + balances fs g.2 k := by
  induction groups with
  | nil =>
    intro fs _ _ _ _
    exact ⟨fs, rfl, fun f _ => rfl, fun g hg => absurd hg List.not_mem_nil⟩
  | cons g groups ih =>
    intro fs hfiles hlogs hnodup hapart
    obtain ⟨hg, hnodup⟩ : joinPath g.1 ∉ groupLogs groups ∧ (groupLogs groups).Nodup :=
      List.nodup_cons.1 hnodup
    obtain ⟨fs₁, hmerge, hlog, hsame, hbal⟩ := mergeLogs_balance o
      (hfiles g List.mem_cons_self) (hlogs (joinPath g.1) List.mem_cons_self)
    -- the inputs and the logs of the other groups are not touched
    have hinput : ∀ g' ∈ groups, ∀ f ∈ g'.2, fs₁ f = fs f := by
      intro g' hg' f hf
      refine hsame f fun heq => ?_
      subst heq
      exact hapart _ List.mem_cons_self g' (List.mem_cons_of_mem g hg') hf
    have hother : ∀ f ∈ groupLogs groups, fs₁ f = fs f := fun f hf =>
      hsame f fun heq => hg (heq ▸ hf)
    obtain ⟨fs₂, hrest, hsame', hbal'⟩ := ih
      (fun g' hg' f hf => (hfiles g' (List.mem_cons_of_mem g hg') f hf).congr (hinput g' hg' f hf))
      (fun f hf => (hlogs f (List.mem_cons_of_mem _ hf)).congr (hother f hf)) hnodup
      fun f hf g' hg' => hapart f (List.mem_cons_of_mem _ hf) g' (List.mem_cons_of_mem g hg')
    refine ⟨fs₂, ?_, fun f hf => ?_, fun g' hg' => ?_⟩
    · rw [mergeGroups, List.foldlM_cons, hmerge]
      exact hrest
    · obtain ⟨hne, hf⟩ := not_or.1 (mt List.mem_cons.2 hf)
      rw [hsame' f hf, hsame f hne]
    · rcases List.mem_cons.1 hg' with rfl | hg'
      · have hkeep := hsame' _ hg
        exact ⟨hlog.congr hkeep, fun k => by rw [balance_congr hkeep, hbal]⟩
      · obtain ⟨hlog', hsum⟩ := hbal' g' hg'
        refine ⟨hlog', fun k => ?_⟩
        rw [hsum, balance_congr (hother _ (List.mem_map_of_mem hg')),
          balances_congr (hinput g' hg')]

/-- Some dictionaries to be saved, and merges of the saved logs in groups and then of the logs of
these.  The log of a group is neither an input nor the last destination. -/
structure Plan where
  logs : List (Str × Tally.Dict Key)
  groups : List (Str × List Str)
  dst : Str
  plain : ∀ l ∈ logs, ∀ k ∈ l.2, PlainKey k
  inputs : ∀ g ∈ groups, ∀ f ∈ g.2, f ∈ logs.map Prod.fst
  nodup : (groupLogs groups).Nodup
  apart : ∀ f ∈ groupLogs groups, f ≠ joinPath dst ∧ ∀ g ∈ groups, f ∉ g.2

namespace Plan

variable (P : Plan)

/-- The files that are written. -/
def names : List Str := P.logs.map Prod.fst ++ groupLogs P.groups ++ [joinPath P.dst]

/-- All that is merged: the inputs, and what the logs of the groups had before. -/
def inputLogs (fs : Files) : List Str :=
  (groupLogs P.groups).filter (fun f => (fs f).isSome) ++ P.groups.flatMap Prod.snd

variable {P} {fs : Files}

/-- A file that is not there says nothing. -/
lemma balances_filter_isSome (files : List Str) (k : Key) :
    balances fs (files.filter fun f => (fs f).isSome) k = balances fs files k := by
  induction files with
  | nil => rfl
  | cons f files ih =>
    have hcons : balances fs (f :: files) k = balance fs f k + balances fs files k := rfl
    rw [hcons, ← ih]
    cases hf : fs f with
    | none =>
      rw [List.filter_cons_of_neg (by simp [hf]), balance_of_none hf, Nat.zero_add]
    | some content =>
      rw [List.filter_cons_of_pos (by simp [hf])]
      rfl

lemma balances_inputLogs (k : Key) : balances fs (P.inputLogs fs) k =
    (P.groups.map fun g => balance fs (joinPath g.1) k + balances fs g.2 k).sum := by
  have happend : balances fs (P.inputLogs fs) k =
      balances fs ((groupLogs P.groups).filter fun f => (fs f).isSome) k +
        balances fs (P.groups.flatMap Prod.snd) k := by
    rw [balances, inputLogs, List.map_append, List.sum_append]
    rfl
  rw [happend, balances_filter_isSome, List.sum_map_add]
  congr 1
  · rw [balances, groupLogs, List.map_map]
    rfl
  · rw [balances, List.map_flatMap, List.flatMap_def, List.sum_flatten, List.map_map]
    rfl

/-- The logs when everything is saved. -/
lemma logAt_saveAll (o : ItemOrder) (hfs : ∀ f ∈ P.names, LogAt fs f) : ∀ f ∈ P.names,
    LogAt (saveAll o P.logs fs) f ∧
      (f ∈ P.logs.map Prod.fst → HasLog (saveAll o P.logs fs) f) ∧
      ∀ k, balance (saveAll o P.logs fs) f k = balance fs f k + savedTo P.logs f k := by
  intro f hf
  have hlogs : ∀ l ∈ P.logs, LogAt fs l.1 := by
    intro l hl
    have hmem : l.1 ∈ P.logs.map Prod.fst := List.mem_map_of_mem hl
    exact hfs l.1 (List.mem_append_left _ (List.mem_append_left _ hmem))
  obtain ⟨hat, hlog, hbal⟩ := saveAll_balance o P.logs P.plain hlogs (hfs f hf)
  exact ⟨hat, fun h => hlog (.inr h), hbal⟩

end Plan

/-- Saving and then merging gives the sums, in groups or all at once, whatever the order of the
files and whatever the logs had before. -/
theorem mergeLogs_additive (o o' : ItemOrder) (P : Plan) {fs fs₀ : Files}
    (hfs : ∀ f ∈ P.names, LogAt fs f) (hfs₀ : fs₀ = saveAll o P.logs fs) :
    (∀ f ∈ P.names, ∀ k, balance fs₀ f k = balance fs f k + savedTo P.logs f k) ∧
    (∃ fs₁ fs₂, mergeGroups o P.groups fs₀ = .ok fs₁ ∧
      mergeLogs o P.dst (groupLogs P.groups) fs₁ = .ok fs₂ ∧
      ∀ k, balance fs₂ (joinPath P.dst) k =
        balance fs₀ (joinPath P.dst) k + balances fs₀ (P.inputLogs fs₀) k) ∧
    ∀ files, files.Perm (P.inputLogs fs₀) → ∃ fs', mergeLogs o' P.dst files fs₀ = .ok fs' ∧
      ∀ k, balance fs' (joinPath P.dst) k =
        balance fs₀ (joinPath P.dst) k + balances fs₀ (P.inputLogs fs₀) k := by
  subst hfs₀
  have hsaved := Plan.logAt_saveAll o hfs
  have hdst : joinPath P.dst ∈ P.names := List.mem_append_right _ (List.mem_singleton.2 rfl)
  have hgroup : ∀ f ∈ groupLogs P.groups, f ∈ P.names := fun f hf =>
    List.mem_append_left _ (List.mem_append_right _ hf)
  have hinput : ∀ g ∈ P.groups, ∀ f ∈ g.2, HasLog (saveAll o P.logs fs) f := by
    intro g hg f hf
    have hmem := P.inputs g hg f hf
    exact (hsaved f (List.mem_append_left _ (List.mem_append_left _ hmem))).2.1 hmem
  refine ⟨fun f hf => (hsaved f hf).2.2, ?_, fun files hperm => ?_⟩
  · -- in groups
    obtain ⟨fs₁, hgroups, hsame, hbal⟩ := mergeGroups_balance o P.groups hinput
      (fun f hf => (hsaved f (hgroup f hf)).1) P.nodup fun f hf => (P.apart f hf).2
    have hkeep : fs₁ (joinPath P.dst) = saveAll o P.logs fs (joinPath P.dst) :=
      hsame _ fun hmem => (P.apart _ hmem).1 rfl
    have hlogs : ∀ f ∈ groupLogs P.groups, HasLog fs₁ f := by
      intro f hf
      obtain ⟨g, hg, rfl⟩ := List.mem_map.1 hf
      exact (hbal g hg).1
    obtain ⟨fs₂, hmerge, -, -, hsum⟩ := mergeLogs_balance o hlogs
      ((hsaved _ hdst).1.congr hkeep)
    refine ⟨fs₁, fs₂, hgroups, hmerge, fun k => ?_⟩
    rw [hsum, balance_congr hkeep, Plan.balances_inputLogs, balances, groupLogs, List.map_map]
    congr 2
    exact List.map_congr_left fun g hg => (hbal g hg).2 k
  · -- all at once
    have hfiles : ∀ f ∈ files, HasLog (saveAll o P.logs fs) f := by
      intro f hf
      rcases List.mem_append.1 (hperm.mem_iff.1 hf) with hf | hf
      · obtain ⟨hmem, hsome⟩ := List.mem_filter.1 hf
        rcases (hsaved f (hgroup f hmem)).1 with hnone | hlog
        · rw [hnone] at hsome
          cases hsome
        · exact hlog
      · obtain ⟨g, hg, hf⟩ := List.mem_flatMap.1 hf
        exact hinput g hg f hf
    obtain ⟨fs', hmerge, -, -, hsum⟩ := mergeLogs_balance o' hfiles (hsaved _ hdst).1
    exact ⟨fs', hmerge, fun k => by rw [hsum, balances_perm hperm]⟩

/-! ## A small plan -/

/-- The items in the order of the dictionary. -/
def entryOrder : ItemOrder := ⟨Tally.items, fun _ => .refl _⟩

/-- The key of the sample. -/
def sampleKey : Key := [['A'], ['b', ',']]

/-- Two logs with the same key, merged alone and then together. -/
def samplePlan : Plan where
  logs := [(['a'], Tally.bump ∅ sampleKey 1), (['b'], Tally.bump ∅ sampleKey 2)]
  groups := [(['x'], [['a']]), (['y'], [['b']])]
  dst := ['z']
  plain := by
    have hkey : PlainKey sampleKey := by
      refine List.forall_mem_cons.2 ⟨⟨?_, by decide⟩, List.forall_mem_singleton.2 ⟨?_, by decide⟩⟩
      · exact List.forall_mem_singleton.2 (by decide)
      · exact List.forall_mem_cons.2 ⟨by decide, List.forall_mem_singleton.2 (by decide)⟩
    intro l hl k hk
    simp only [List.mem_cons, List.not_mem_nil, or_false] at hl
    rcases hl with rfl | rfl
    all_goals
      rcases Tally.mem_bump.1 hk with rfl | hk
      · exact hkey
      · exact absurd hk (AList.notMem_empty k)
  inputs := by decide
  nodup := by decide
  apart := by decide

/-- Without any files before, both ways say the same of the key. -/
theorem mergeLogs_additive_sample :
    ∃ fs₀ fs₁ fs₂ fs', fs₀ = saveAll entryOrder samplePlan.logs (fun _ => none) ∧
      mergeGroups entryOrder samplePlan.groups fs₀ = .ok fs₁ ∧
      mergeLogs entryOrder samplePlan.dst (groupLogs samplePlan.groups) fs₁ = .ok fs₂ ∧
      mergeLogs entryOrder samplePlan.dst [['b'], ['a']] fs₀ = .ok fs' ∧
      balance fs₂ (joinPath samplePlan.dst) sampleKey =
        balance fs' (joinPath samplePlan.dst) sampleKey := by
  obtain ⟨-, ⟨fs₁, fs₂, hgroups, hmerge, hsum⟩, honce⟩ :=
    @mergeLogs_additive entryOrder entryOrder samplePlan (fun _ => none) _ (fun f _ => .inl rfl) rfl
  obtain ⟨fs', hmerge', hsum'⟩ := honce [['b'], ['a']] (by decide)
  exact ⟨_, fs₁, fs₂, fs', rfl, hgroups, hmerge, hmerge', by rw [hsum, hsum']⟩

end Rit.RitCov
