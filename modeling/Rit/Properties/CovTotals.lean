import Mathlib.Algebra.BigOperators.Group.List.Basic
import Mathlib.Algebra.Ring.Int.Defs
import Mathlib.Algebra.Ring.Nat
import Rit.Script.GenCovRpt

/-!
# The totals of the coverage report

`genCovReport` adds a covered item to three counts at once: the total, that of the current kind and
that of the current instruction.  The kind is found by a number that advances at the closing brace,
the instruction by one that advances at its header.  The definition counts of the instructions are
added to that of the kind only at the closing brace, from where the kind began.

A well-formed file is a list of `Kind`s here.  Behind any number of its kinds the tables of the scan
hold the counts of exactly these, in order (`Scan.of`); inside of a kind they hold in addition what
has been read of it (`Scan.inside`).  Each line takes one such state to the next.
-/

namespace Rit.GenCovRpt

open PyStr PyInt
open Draw (PyErr)

/-! ## Well-formed files -/

/-- The line of an item. -/
structure Item where
  line : Str
  count : ℤ
  isItem : (strip line).head?.map Char.isDigit = some true
  parsed : ((strip line).splitOn ':')[2]?.bind (int 10) = some count

/-- The header of an instruction, and its items. -/
structure Instr where
  header : Str
  defCnt : ℤ
  items : List Item
  isHeader : (strip header).head?.map Char.isDigit = some false
  noBrace : (strip header).getLast? ≠ some '\x7b' ∧ (strip header).getLast? ≠ some '\x7d'
  parsed : ((strip header).splitOn ':')[1]?.bind (int 10) = some defCnt

/-- A block in braces. -/
structure Kind where
  opening : Str
  instrs : List Instr
  closing : Str
  isOpening : (strip opening).head?.map Char.isDigit = some false ∧
    (strip opening).getLast? = some '\x7b'
  isClosing : (strip closing).head?.map Char.isDigit = some false ∧
    (strip closing).getLast? = some '\x7d'

/-- The names that the report has. -/
def Instr.name (i : Instr) : Str := ((strip i.header).splitOn '-').headD []

def Kind.name (k : Kind) : Str := ((strip k.opening).splitOn ' ').headD []

/-- The lines of an instruction, of a kind and of a file. -/
def Instr.lines (i : Instr) : List Str := i.header :: i.items.map Item.line

def Kind.lines (k : Kind) : List Str := k.opening :: (k.instrs.flatMap Instr.lines ++ [k.closing])

def linesOf (ks : List Kind) : List Str := ks.flatMap Kind.lines

/-- The covered items. -/
def covered (items : List Item) : ℕ := items.countP fun x => x.count ≠ 0

def uncovered (items : List Item) : ℕ := items.countP fun x => x.count = 0

def Instr.cov (i : Instr) : ℕ := covered i.items

def Kind.cov (k : Kind) : ℕ := (k.instrs.map Instr.cov).sum

def Kind.defCnt (k : Kind) : ℤ := (k.instrs.map Instr.defCnt).sum

/-- The instructions of a file. -/
def instrsOf (ks : List Kind) : List Instr := ks.flatMap Kind.instrs

/-- The items of a file. -/
def itemsOf (ks : List Kind) : List Item := (instrsOf ks).flatMap Instr.items

/-! ## Tables with the entries of a list -/

/-- The table whose keys are the places of a list. -/
def Table.of {α : Type} (l : List α) : Table α := fun i => l[i]?

section Tables

variable {α : Type} {l : List α} {v w : α} {n : ℕ}

lemma Table.of_set_length (hn : n = l.length) : (Table.of l).set n v = Table.of (l ++ [v]) := by
  subst hn
  funext i
  rw [Table.set, Function.update_apply, Table.of, Table.of, List.getElem?_append]
  split
  · rename_i h
    simp [h]
  · rename_i h
    split
    · rfl
    · rename_i hlt
      rw [List.getElem?_eq_none (by omega), List.getElem?_eq_none (by simp; omega)]

lemma Table.of_set_last (hn : n = l.length) :
    (Table.of (l ++ [v])).set n w = Table.of (l ++ [w]) := by
  subst hn
  funext i
  rw [Table.set, Function.update_apply, Table.of, Table.of, List.getElem?_append,
    List.getElem?_append]
  split
  · rename_i h
    simp [h]
  · rename_i h
    split
    · rfl
    · rename_i hlt
      rw [List.getElem?_eq_none (by simp; omega), List.getElem?_eq_none (by simp; omega)]

lemma Table.of_get (h : l[n]? = some v) : (Table.of l).get n = .ok v := by
  rw [Table.get, Table.of, h]
  rfl

lemma Table.of_get_last (hn : n = l.length) : (Table.of (l ++ [v])).get n = .ok v :=
  Table.of_get (by rw [hn]; simp)

end Tables

/-! ## The states of the scan -/

/-- The state behind some kinds. -/
def Scan.of (ks : List Kind) : Scan where
  opkindCnt := ks.length
  instrCnt := (instrsOf ks).length
  groupOpkind := .of (ks.map Kind.name)
  groupInstr := .of ((instrsOf ks).map Instr.name)
  covOpkind := .of (ks.map Kind.cov)
  covInstr := .of ((instrsOf ks).map Instr.cov)
  defInstr := .of ((instrsOf ks).map Instr.defCnt)
  defOpkind := .of (ks.map Kind.defCnt)

/-- The state inside of a kind, behind some of its instructions. -/
def Scan.inside (ks : List Kind) (k : Kind) (is : List Instr) : Scan where
  opkindCnt := ks.length
  instrCnt := (instrsOf ks ++ is).length
  groupOpkind := .of (ks.map Kind.name ++ [k.name])
  groupInstr := .of ((instrsOf ks ++ is).map Instr.name)
  covOpkind := .of (ks.map Kind.cov ++ [(is.map Instr.cov).sum])
  covInstr := .of ((instrsOf ks ++ is).map Instr.cov)
  defInstr := .of ((instrsOf ks ++ is).map Instr.defCnt)
  defOpkind := .of (ks.map Kind.defCnt ++ [0])

/-- The state inside of an instruction, behind some of its items. -/
def Scan.reading (ks : List Kind) (k : Kind) (is : List Instr) (i : Instr) (xs : List Item) :
    Scan where
  opkindCnt := ks.length
  instrCnt := (instrsOf ks ++ is).length + 1
  groupOpkind := .of (ks.map Kind.name ++ [k.name])
  groupInstr := .of ((instrsOf ks ++ is).map Instr.name ++ [i.name])
  covOpkind := .of (ks.map Kind.cov ++ [(is.map Instr.cov).sum + covered xs])
  covInstr := .of ((instrsOf ks ++ is).map Instr.cov ++ [covered xs])
  defInstr := .of ((instrsOf ks ++ is).map Instr.defCnt ++ [i.defCnt])
  defOpkind := .of (ks.map Kind.defCnt ++ [0])

/-- More items. -/
def Totals.plus (n : Totals) (items : List Item) : Totals :=
  { n with
    itemCovered := n.itemCovered + covered items
    itemUncovered := n.itemUncovered + uncovered items }

section Lines

variable {s : Scan} {n : Totals}

lemma Totals.plus_append (n : Totals) (xs ys : List Item) :
    n.plus (xs ++ ys) = (n.plus xs).plus ys := by
  simp [Totals.plus, covered, uncovered, List.countP_append, Nat.add_assoc]

/-- What the first character of a line decides. -/
lemma scanLine_of_digit {cd : Str} (h : (strip cd).head?.map Char.isDigit = some true) :
    scanLine (s, n) cd = scanItem s n (strip cd) := by
  obtain ⟨c, hc, hdigit⟩ := Option.map_eq_some_iff.1 h
  simp only [scanLine, hc, hdigit, if_true]

lemma scanLine_of_not_digit {cd : Str} (h : (strip cd).head?.map Char.isDigit = some false) :
    scanLine (s, n) cd =
      if (strip cd).getLast? = some '\x7b' then .ok (scanOpening s n (strip cd))
      else if (strip cd).getLast? = some '\x7d' then scanClosing s n
      else scanHeader s n (strip cd) := by
  obtain ⟨c, hc, hdigit⟩ := Option.map_eq_some_iff.1 h
  simp only [scanLine, hc, hdigit, Bool.false_eq_true, if_false]

lemma intOf_index {l : List Str} {i : ℕ} {v : ℤ} (h : l[i]?.bind (int 10) = some v) :
    ∃ t, index l i = .ok t ∧ intOf 10 t = .ok v := by
  obtain ⟨t, ht, hv⟩ := Option.bind_eq_some_iff.1 h
  refine ⟨t, ?_, ?_⟩
  · rw [index, ht]
    rfl
  · rw [intOf, hv]
    rfl

lemma scanItem_covered {str : Str} {count : ℤ} {a b i : ℕ}
    (hcount : (str.splitOn ':')[2]?.bind (int 10) = some count) (h0 : count ≠ 0)
    (hk : s.covOpkind.get s.opkindCnt = .ok a) (hi : s.instrCnt = i + 1)
    (hb : s.covInstr.get i = .ok b) :
    scanItem s n str = .ok ({ s with
      covOpkind := s.covOpkind.set s.opkindCnt (a + 1)
      covInstr := s.covInstr.set i (b + 1) }, { n with itemCovered := n.itemCovered + 1 }) := by
  obtain ⟨t, ht, hint⟩ := intOf_index hcount
  simp [scanItem, ht, hint, h0, hk, hi, hb, bind, Except.bind, pure, Except.pure]

lemma scanItem_uncovered {str : Str} (hcount : (str.splitOn ':')[2]?.bind (int 10) = some 0) :
    scanItem s n str = .ok (s, { n with itemUncovered := n.itemUncovered + 1 }) := by
  obtain ⟨t, ht, hint⟩ := intOf_index hcount
  simp [scanItem, ht, hint, bind, Except.bind, pure, Except.pure]

variable {ks : List Kind} {k : Kind} {is : List Instr} {i : Instr}

/-- An item raises the counts of its kind and of its instruction, or none. -/
lemma scanLine_item (x : Item) (xs : List Item) :
    scanLine (.reading ks k is i xs, n) x.line =
      .ok (.reading ks k is i (xs ++ [x]), n.plus [x]) := by
  have hcov : covered (xs ++ [x]) = covered xs + covered [x] := List.countP_append
  rw [scanLine_of_digit x.isItem]
  by_cases h0 : x.count = 0
  · have hx : covered [x] = 0 ∧ uncovered [x] = 1 := by simp [covered, uncovered, h0]
    rw [scanItem_uncovered (h0 ▸ x.parsed)]
    simp only [Scan.reading, Totals.plus, hcov, hx.1, hx.2, Nat.add_zero]
  · have hx : covered [x] = 1 ∧ uncovered [x] = 0 := by simp [covered, uncovered, h0]
    have hlen : (Scan.reading ks k is i xs).opkindCnt = (ks.map Kind.cov).length := by
      simp [Scan.reading]
    have hlen' : (instrsOf ks ++ is).length = ((instrsOf ks ++ is).map Instr.cov).length := by
      simp
    rw [scanItem_covered x.parsed h0 (Table.of_get_last hlen) rfl (Table.of_get_last hlen')]
    have hkinds := @Table.of_set_last _ (ks.map Kind.cov) ((is.map Instr.cov).sum + covered xs)
      ((is.map Instr.cov).sum + covered xs + 1) _ hlen
    have hinstrs := @Table.of_set_last _ ((instrsOf ks ++ is).map Instr.cov) (covered xs)
      (covered xs + 1) _ hlen'
    simp only [Totals.plus, hx.1, hx.2, Nat.add_zero]
    simp only [Scan.reading, hcov, hx.1, ← Nat.add_assoc] at hkinds hinstrs ⊢
    rw [hkinds, hinstrs]

lemma scan_items (ys : List Item) : ∀ (xs : List Item) (n : Totals),
    (ys.map Item.line).foldlM scanLine (.reading ks k is i xs, n) =
      .ok (.reading ks k is i (xs ++ ys), n.plus ys) := by
  induction ys with
  | nil =>
    intro xs n
    rw [List.append_nil]
    rfl
  | cons y ys ih =>
    intro xs n
    rw [List.map_cons, List.foldlM_cons, scanLine_item]
    change (ys.map Item.line).foldlM scanLine _ = _
    rw [ih, List.append_cons xs y ys, ← Totals.plus_append]
    rfl

lemma scanLine_header (i : Instr) : scanLine (.inside ks k is, n) i.header =
    .ok (.reading ks k is i [], n) := by
  obtain ⟨t, ht, hint⟩ := intOf_index i.parsed
  rw [scanLine_of_not_digit i.isHeader, if_neg i.noBrace.1, if_neg i.noBrace.2]
  have hname := @Table.of_set_length _ ((instrsOf ks ++ is).map Instr.name) i.name
    (instrsOf ks ++ is).length (by simp)
  have hdef := @Table.of_set_length _ ((instrsOf ks ++ is).map Instr.defCnt) i.defCnt
    (instrsOf ks ++ is).length (by simp)
  have hcov := @Table.of_set_length _ ((instrsOf ks ++ is).map Instr.cov) 0
    (instrsOf ks ++ is).length (by simp)
  simp only [scanHeader, ht, hint, bind, Except.bind, pure, Except.pure]
  rw [show ((strip i.header).splitOn '-').headD [] = i.name from rfl]
  simp only [Scan.inside, Scan.reading, hname, hdef, hcov]
  rfl

lemma reading_items (i : Instr) : Scan.reading ks k is i i.items = .inside ks k (is ++ [i]) := by
  simp only [Scan.reading, Scan.inside, List.map_append, List.map_cons, List.map_nil,
    List.append_assoc, List.sum_append, List.sum_cons, List.sum_nil, Nat.add_zero,
    List.length_append, List.length_cons, List.length_nil, Nat.zero_add, Nat.add_assoc, Instr.cov]

lemma scan_instr (i : Instr) : i.lines.foldlM scanLine (.inside ks k is, n) =
    .ok (.inside ks k (is ++ [i]), n.plus i.items) := by
  rw [Instr.lines, List.foldlM_cons, scanLine_header]
  change (i.items.map Item.line).foldlM scanLine _ = _
  rw [scan_items, List.nil_append, reading_items]

lemma scan_instrs (js : List Instr) : ∀ (is : List Instr) (n : Totals),
    (js.flatMap Instr.lines).foldlM scanLine (.inside ks k is, n) =
      .ok (.inside ks k (is ++ js), n.plus (js.flatMap Instr.items)) := by
  induction js with
  | nil =>
    intro is n
    rw [List.append_nil]
    rfl
  | cons j js ih =>
    intro is n
    rw [List.flatMap_cons, List.foldlM_append, scan_instr]
    change (js.flatMap Instr.lines).foldlM scanLine _ = _
    rw [ih, List.append_cons is j js, ← Totals.plus_append, List.flatMap_cons]

lemma scanLine_opening (k : Kind) : scanLine (.of ks, n) k.opening =
    .ok (.inside ks k [], { n with startCnt := some (instrsOf ks).length }) := by
  rw [scanLine_of_not_digit k.isOpening.1, if_pos k.isOpening.2]
  have hname := @Table.of_set_length _ (ks.map Kind.name) k.name ks.length (by simp)
  have hcov := @Table.of_set_length _ (ks.map Kind.cov) 0 ks.length (by simp)
  have hdef := @Table.of_set_length _ (ks.map Kind.defCnt) 0 ks.length (by simp)
  simp only [scanOpening, Scan.of, Scan.inside, List.append_nil, List.map_nil, List.sum_nil]
  rw [show ((strip k.opening).splitOn ' ').headD [] = k.name from rfl, hname, hcov, hdef]

/-- The definition counts of some instructions in a row. -/
lemma foldlM_addDef (s : Scan) (ds : List ℤ) (hs : s.opkindCnt = ds.length) (js : List ℤ) :
    ∀ (pre : List ℤ) (a : ℤ), s.defInstr = .of (pre ++ js) →
    (List.range' pre.length js.length).foldlM (addDef s) (.of (ds ++ [a])) =
      .ok (.of (ds ++ [a + js.sum])) := by
  induction js with
  | nil =>
    intro pre a _
    rw [List.sum_nil, Int.add_zero]
    rfl
  | cons j js ih =>
    intro pre a hdef
    have hj : s.defInstr.get pre.length = .ok j := by
      rw [hdef]
      exact Table.of_get (by simp)
    have hstep : addDef s (.of (ds ++ [a])) pre.length = .ok (.of (ds ++ [a + j])) := by
      simp only [addDef, Table.of_get_last hs, hj, bind, Except.bind, pure, Except.pure,
        Table.of_set_last hs]
    rw [List.length_cons, List.range'_succ, List.foldlM_cons, hstep]
    have hlen : pre.length + 1 = (pre ++ [j]).length := by simp
    rw [hlen]
    change (List.range' (pre ++ [j]).length js.length).foldlM (addDef s) _ = _
    rw [ih (pre ++ [j]) (a + j) (by rw [hdef, List.append_cons]), List.sum_cons, Int.add_assoc]

lemma scanClosing_of {start : ℕ} {ds : Table ℤ} (hn : n.startCnt = some start)
    (hsum : (List.range' start (s.instrCnt - start)).foldlM (addDef s) s.defOpkind = .ok ds) :
    scanClosing s n = .ok ({ s with defOpkind := ds, opkindCnt := s.opkindCnt + 1 }, n) := by
  simp [scanClosing, hn, hsum, bind, Except.bind, pure, Except.pure]

lemma scanLine_closing (k : Kind) (hn : n.startCnt = some (instrsOf ks).length) :
    scanLine (.inside ks k k.instrs, n) k.closing = .ok (.of (ks ++ [k]), n) := by
  rw [scanLine_of_not_digit k.isClosing.1, if_neg (by rw [k.isClosing.2]; decide),
    if_pos k.isClosing.2]
  have hsum := foldlM_addDef (.inside ks k k.instrs) (ks.map Kind.defCnt) (by simp [Scan.inside])
    (k.instrs.map Instr.defCnt) ((instrsOf ks).map Instr.defCnt) 0 (by simp [Scan.inside])
  rw [List.length_map, List.length_map, Int.zero_add] at hsum
  have hlen : (Scan.inside ks k k.instrs).instrCnt - (instrsOf ks).length = k.instrs.length := by
    simp [Scan.inside]
  rw [scanClosing_of hn (by rw [hlen]; exact hsum)]
  simp [Scan.inside, Scan.of, instrsOf, Kind.cov, Kind.defCnt]

/-- A kind takes the state behind the kinds before it to the state behind it. -/
lemma scan_kind (k : Kind) : ∃ start, k.lines.foldlM scanLine (.of ks, n) =
    .ok (.of (ks ++ [k]), { n.plus (k.instrs.flatMap Instr.items) with startCnt := start }) := by
  refine ⟨some (instrsOf ks).length, ?_⟩
  rw [Kind.lines, List.foldlM_cons, scanLine_opening]
  change (k.instrs.flatMap Instr.lines ++ [k.closing]).foldlM scanLine _ = _
  rw [List.foldlM_append, scan_instrs, List.nil_append]
  change [k.closing].foldlM scanLine _ = _
  rw [List.foldlM_cons, scanLine_closing k rfl]
  rfl

lemma scan_kinds (js : List Kind) : ∀ (ks : List Kind) (n : Totals), ∃ start,
    (linesOf js).foldlM scanLine (.of ks, n) =
      .ok (.of (ks ++ js), { n.plus (itemsOf js) with startCnt := start }) := by
  induction js with
  | nil =>
    intro ks n
    refine ⟨n.startCnt, ?_⟩
    rw [List.append_nil]
    rfl
  | cons j js ih =>
    intro ks n
    obtain ⟨start, hkind⟩ := @scan_kind n ks j
    obtain ⟨start', hrest⟩ := ih (ks ++ [j])
      { n.plus (j.instrs.flatMap Instr.items) with startCnt := start }
    refine ⟨start', ?_⟩
    rw [linesOf, List.flatMap_cons, List.foldlM_append, hkind]
    change (linesOf js).foldlM scanLine _ = _
    have hitems : itemsOf (j :: js) = j.instrs.flatMap Instr.items ++ itemsOf js := by
      simp [itemsOf, instrsOf]
    rw [hrest, List.append_cons ks j js, hitems, Totals.plus_append]
    rfl

/-- The scan of a well-formed file. -/
lemma scanFile_linesOf (ks : List Kind) (n : Totals) : ∃ start,
    scanFile n (linesOf ks) = .ok (.of ks, { n.plus (itemsOf ks) with startCnt := start }) :=
  scan_kinds ks [] n

end Lines

/-! ## The report -/

section Report

variable {row : Str → ℕ → ℤ → ReportLine}

/-- The rows of a table can all be written, unless one of them ends the process. -/
lemma writeRows_of (names : List Str) (covs : List ℕ) (defs : List ℤ) (is : List ℕ)
    (h : ∀ i ∈ is, i < names.length ∧ i < covs.length ∧ i < defs.length) :
    ∃ w, writeRows row (.of names) (.of covs) (.of defs) is = .ok w ∧
      (w.exited = true ↔ ∃ i ∈ is, ∃ c ∈ covs[i]?, ∃ d ∈ defs[i]?, d < (c : ℤ)) := by
  induction is with
  | nil => exact ⟨⟨[], false⟩, rfl, by simp⟩
  | cons i is ih =>
    obtain ⟨w, hw, hexit⟩ := ih fun j hj => h j (List.mem_cons_of_mem i hj)
    obtain ⟨hn, hc, hd⟩ := h i List.mem_cons_self
    have hname := Table.of_get (List.getElem?_eq_getElem hn)
    have hcov := Table.of_get (List.getElem?_eq_getElem hc)
    have hdef := Table.of_get (List.getElem?_eq_getElem hd)
    by_cases hlt : defs[i] < (covs[i] : ℤ)
    · refine ⟨⟨[row names[i] covs[i] defs[i]], true⟩, ?_, ?_⟩
      · simp only [writeRows, hname, hcov, hdef, bind, Except.bind, pure, Except.pure, if_pos hlt]
      · simp [List.getElem?_eq_getElem hc, List.getElem?_eq_getElem hd, hlt]
    · refine ⟨⟨row names[i] covs[i] defs[i] :: w.lines, w.exited⟩, ?_, ?_⟩
      · simp only [writeRows, hname, hcov, hdef, bind, Except.bind, pure, Except.pure, if_neg hlt,
          hw]
      · rw [hexit]
        simp [List.getElem?_eq_getElem hc, List.getElem?_eq_getElem hd, hlt]

/-- A kind or an instruction has more covered items than its headers say. -/
def Excess (ks : List Kind) : Prop :=
  (∃ k ∈ ks, k.defCnt < k.cov) ∨ ∃ i ∈ instrsOf ks, i.defCnt < i.cov

/-- A test of two entries at every place of a list. -/
lemma exists_range_iff {α : Type} (l : List α) (f : α → ℕ) (g : α → ℤ) :
    (∃ i ∈ List.range l.length, ∃ c ∈ (l.map f)[i]?, ∃ d ∈ (l.map g)[i]?, d < (c : ℤ)) ↔
      ∃ x ∈ l, g x < f x := by
  constructor
  · rintro ⟨i, hi, c, hc, d, hd, hlt⟩
    have hi := List.mem_range.1 hi
    rw [List.getElem?_map, List.getElem?_eq_getElem hi] at hc hd
    cases hc
    cases hd
    exact ⟨l[i], List.getElem_mem hi, hlt⟩
  · rintro ⟨x, hx, hlt⟩
    obtain ⟨i, hi, rfl⟩ := List.getElem_of_mem hx
    refine ⟨i, List.mem_range.2 hi, f l[i], ?_, g l[i], ?_, hlt⟩ <;>
      simp [List.getElem?_eq_getElem hi]

/-- What is written for a well-formed file. -/
lemma writeFile_of (arch : Arch) (ks : List Kind) :
    ∃ w, writeFile arch (.of ks) = .ok w ∧ (w.exited = true ↔ Excess ks) := by
  obtain ⟨wk, hwk, hkinds⟩ := @writeRows_of .opkind (ks.map Kind.name) (ks.map Kind.cov)
    (ks.map Kind.defCnt) (List.range ks.length) (by simp)
  obtain ⟨wi, hwi, hinstrs⟩ := @writeRows_of .instr ((instrsOf ks).map Instr.name)
    ((instrsOf ks).map Instr.cov) ((instrsOf ks).map Instr.defCnt)
    (List.range (instrsOf ks).length) (by simp)
  rw [exists_range_iff] at hkinds hinstrs
  have hfile : writeFile arch (.of ks) = .ok (if wk.exited then
      ⟨.group arch ks.length (instrsOf ks).length :: wk.lines, true⟩ else
      ⟨.group arch ks.length (instrsOf ks).length :: wk.lines ++ wi.lines, wi.exited⟩) := by
    simp only [writeFile, Scan.of, hwk, hwi, bind, Except.bind, pure, Except.pure]
    split <;> rfl
  refine ⟨_, hfile, ?_⟩
  rw [Excess, ← hkinds, ← hinstrs]
  cases wk.exited <;> simp

/-- The report of two files that can be scanned and written. -/
lemma genCovReport_of {arm thumb : List Str} {sArm sThumb : Scan} {nArm n : Totals}
    {wArm wThumb : Written} (harm : scanFile {} arm = .ok (sArm, nArm))
    (hthumb : scanFile nArm thumb = .ok (sThumb, n)) (hwArm : writeFile .arm sArm = .ok wArm)
    (hwThumb : writeFile .thumb sThumb = .ok wThumb) :
    genCovReport arm thumb = .ok (if wArm.exited then wArm
      else if wThumb.exited then ⟨wArm.lines ++ wThumb.lines, true⟩
      else ⟨wArm.lines ++ wThumb.lines ++ [.total (n.itemUncovered + n.itemCovered)
        n.itemUncovered n.itemCovered], false⟩) := by
  simp only [genCovReport, harm, hwArm, hthumb, hwThumb, bind, Except.bind, pure, Except.pure]
  split
  · rfl
  · split <;> rfl

end Report

/-! ## The totals -/

/-- The sum of the kind coverage counts. -/
def Scan.sumOpkinds (s : Scan) : ℕ :=
  ((List.range s.opkindCnt).map fun i => (s.covOpkind i).getD 0).sum

/-- The sum of the instruction coverage counts. -/
def Scan.sumInstrs (s : Scan) : ℕ :=
  ((List.range s.instrCnt).map fun i => (s.covInstr i).getD 0).sum

/-- The numbers of the instructions of a kind. -/
def instrRange (ks : List Kind) (j : ℕ) : List ℕ :=
  List.range' (instrsOf (ks.take j)).length ((ks[j]?.map fun k => k.instrs.length).getD 0)

/-- Each kind has the sums over its instructions. -/
structure Consistent (ks : List Kind) (s : Scan) : Prop where
  opkindCnt : s.opkindCnt = ks.length
  instrCnt : s.instrCnt = (instrsOf ks).length
  cov : ∀ j < ks.length,
    s.covOpkind j = some ((instrRange ks j).map fun i => (s.covInstr i).getD 0).sum
  defCnt : ∀ j < ks.length,
    s.defOpkind j = some ((instrRange ks j).map fun i => (s.defInstr i).getD 0).sum

section Totals

variable {ks : List Kind}

/-- The entries of a part of a list, by their places. -/
lemma map_range_of {α : Type} (d : α) (pre mid post : List α) :
    ((List.range' pre.length mid.length).map fun i => (Table.of (pre ++ mid ++ post) i).getD d) =
      mid := by
  refine List.ext_getElem (by simp) fun i h _ => ?_
  have hi : i < mid.length := by simpa using h
  have hget : (pre ++ mid ++ post)[pre.length + i]? = some mid[i] := by
    rw [List.append_assoc, List.getElem?_append_right (by omega), Nat.add_sub_cancel_left,
      List.getElem?_append_left hi, List.getElem?_eq_getElem hi]
  rw [List.getElem_map, List.getElem_range', Nat.one_mul, Table.of, hget, Option.getD_some]

lemma sumOpkinds_of (ks : List Kind) : (Scan.of ks).sumOpkinds = (ks.map Kind.cov).sum := by
  have h := map_range_of 0 [] (ks.map Kind.cov) []
  rw [List.length_map, List.append_nil, List.nil_append] at h
  rw [Scan.sumOpkinds, List.range_eq_range']
  exact congrArg List.sum h

lemma sumInstrs_of (ks : List Kind) :
    (Scan.of ks).sumInstrs = ((instrsOf ks).map Instr.cov).sum := by
  have h := map_range_of 0 [] ((instrsOf ks).map Instr.cov) []
  rw [List.length_map, List.append_nil, List.nil_append] at h
  rw [Scan.sumInstrs, List.range_eq_range']
  exact congrArg List.sum h

/-- Summing over the kinds is summing over the instructions. -/
lemma sum_cov_eq (ks : List Kind) : (ks.map Kind.cov).sum = ((instrsOf ks).map Instr.cov).sum := by
  rw [instrsOf, List.map_flatMap, List.flatMap_def, List.sum_flatten, List.map_map]
  rfl

lemma covered_itemsOf (ks : List Kind) :
    covered (itemsOf ks) = ((instrsOf ks).map Instr.cov).sum := by
  rw [covered, itemsOf, List.countP_flatMap]
  rfl

/-- The entries of a kind, in a table of all the instructions. -/
lemma map_instrRange {α : Type} (d : α) (f : Instr → α) {j : ℕ} (hj : j < ks.length) :
    ((instrRange ks j).map fun i => (Table.of ((instrsOf ks).map f) i).getD d) =
      ks[j].instrs.map f := by
  have hsplit : instrsOf ks = instrsOf (ks.take j ++ ks[j] :: ks.drop (j + 1)) := by
    rw [List.cons_getElem_drop_succ, List.take_append_drop]
  have hall : (instrsOf ks).map f = (instrsOf (ks.take j)).map f ++ ks[j].instrs.map f ++
      (instrsOf (ks.drop (j + 1))).map f := by
    rw [hsplit]
    simp only [instrsOf, List.flatMap_append, List.flatMap_cons, List.map_append,
      List.append_assoc]
  have h := map_range_of d ((instrsOf (ks.take j)).map f) (ks[j].instrs.map f)
    ((instrsOf (ks.drop (j + 1))).map f)
  rw [← hall, List.length_map, List.length_map] at h
  rw [instrRange, List.getElem?_eq_getElem hj]
  exact h

lemma consistent_of (ks : List Kind) : Consistent ks (.of ks) where
  opkindCnt := rfl
  instrCnt := rfl
  cov := by
    intro j hj
    rw [Scan.of, map_instrRange 0 Instr.cov hj]
    simp [Table.of, List.getElem?_eq_getElem hj, Kind.cov]
  defCnt := by
    intro j hj
    rw [Scan.of, map_instrRange 0 Instr.defCnt hj]
    simp [Table.of, List.getElem?_eq_getElem hj, Kind.defCnt]

lemma covered_add_uncovered (xs : List Item) : covered xs + uncovered xs = xs.length := by
  have h := List.length_eq_countP_add_countP (fun x : Item => decide (x.count ≠ 0)) (l := xs)
  rw [h, covered, uncovered]
  simp

end Totals

/-- The totals of a report agree: the covered items are those of all the kinds and those of all the
instructions, each kind has the sums over its instructions, and each item is covered or not.  The
report ends with these totals, unless a kind or an instruction has more covered items than its
headers say. -/
theorem genCovReport_totals (arm thumb : List Kind) : ∃ sArm nArm sThumb n,
    scanFile {} (linesOf arm) = .ok (sArm, nArm) ∧
    scanFile nArm (linesOf thumb) = .ok (sThumb, n) ∧
    n.itemCovered = sArm.sumOpkinds + sThumb.sumOpkinds ∧
    n.itemCovered = sArm.sumInstrs + sThumb.sumInstrs ∧
    Consistent arm sArm ∧ Consistent thumb sThumb ∧
    n.itemCovered + n.itemUncovered = (itemsOf arm).length + (itemsOf thumb).length ∧
    ∃ w, genCovReport (linesOf arm) (linesOf thumb) = .ok w ∧
      (w.exited = true ↔ Excess arm ∨ Excess thumb) ∧
      (w.exited = false → w.lines.getLast? = some (.total (n.itemUncovered + n.itemCovered)
        n.itemUncovered n.itemCovered)) := by
  obtain ⟨start, harm⟩ := scanFile_linesOf arm {}
  obtain ⟨start', hthumb⟩ := scanFile_linesOf thumb
    { Totals.plus {} (itemsOf arm) with startCnt := start }
  have hcov : covered (itemsOf arm) + covered (itemsOf thumb) =
      (Scan.of arm).sumInstrs + (Scan.of thumb).sumInstrs := by
    rw [covered_itemsOf, covered_itemsOf, sumInstrs_of, sumInstrs_of]
  refine ⟨_, _, _, _, harm, hthumb, ?_, ?_, consistent_of arm, consistent_of thumb, ?_, ?_⟩
  · rw [sumOpkinds_of, sumOpkinds_of, sum_cov_eq, sum_cov_eq, ← sumInstrs_of, ← sumInstrs_of,
      ← hcov]
    simp [Totals.plus]
  · rw [← hcov]
    simp [Totals.plus]
  · rw [← covered_add_uncovered, ← covered_add_uncovered]
    simp only [Totals.plus]
    omega
  · obtain ⟨wArm, hwArm, hexit⟩ := writeFile_of .arm arm
    obtain ⟨wThumb, hwThumb, hexit'⟩ := writeFile_of .thumb thumb
    refine ⟨_, genCovReport_of harm hthumb hwArm hwThumb, ?_, ?_⟩
    · rw [← hexit, ← hexit']
      cases h : wArm.exited
      · cases wThumb.exited <;> simp
      · simp [h]
    · cases h : wArm.exited
      · cases wThumb.exited <;> simp
      · simp [h]

/-- A kind with one instruction and two items, of which one is covered. -/
def aluKind : Kind where
  opening := "ALU \x7b\n".toList
  instrs := [⟨"  ADD-reg:2\n".toList, 2, [⟨"  1:a:0\n".toList, 0, by decide, by decide⟩,
    ⟨"  2:b:3 \n".toList, 3, by decide, by decide⟩], by decide, by decide, by decide⟩]
  closing := "\x7d\n".toList
  isOpening := by decide
  isClosing := by decide

theorem genCovReport_totals_ALU :
    (genCovReport (linesOf [aluKind]) []).toOption = some ⟨[.group .arm 1 1,
      .opkind "ALU".toList 1 2, .instr "ADD".toList 1 2, .group .thumb 0 0, .total 2 1 1], false⟩ ∧
    ∃ sArm nArm sThumb n, scanFile {} (linesOf [aluKind]) = .ok (sArm, nArm) ∧
      scanFile nArm [] = .ok (sThumb, n) ∧ n.itemCovered = sArm.sumOpkinds + sThumb.sumOpkinds ∧
      n.itemCovered + n.itemUncovered = 2 := by
  obtain ⟨sArm, nArm, sThumb, n, harm, hthumb, hkinds, -, -, -, hitems, -⟩ :=
    genCovReport_totals [aluKind] []
  exact ⟨by decide +kernel, sArm, nArm, sThumb, n, harm, hthumb, hkinds, hitems⟩

end Rit.GenCovRpt
