import Rit.Lib.InPlace

/-!
# `gen_cov_rpt.py`: the coverage report

A definition file lists the cross items that are to be covered: blocks in braces, one for each kind
of instruction, in which the header of an instruction is followed by its items.  There is one such
file for ARM and one for Thumb.  An item is a line `number:variant:count`.

`parseCovLog` raises the counts of the items by those of a log.  The files are mapped into memory,
so that a line is overwritten in place and their sizes stay what they are.

`genCovReport` goes over both files once and writes for every kind and every instruction how many of
its items are covered.  It stops the process if these are more than the header says.

The logs of what was matched, and what was not, are left out.
-/

namespace Rit.GenCovRpt

open PyStr PyInt
open Draw (PyErr)

/-! ## Dictionaries -/

/-- A dictionary with numbers as its keys. -/
abbrev Table (α : Type) := ℕ → Option α

/-- `d[i]`. -/
def Table.get {α : Type} (d : Table α) (i : ℕ) : Except PyErr α := (d i).elim (.error .keyError) .ok

/-- `d[i] = v`. -/
def Table.set {α : Type} (d : Table α) (i : ℕ) (v : α) : Table α := Function.update d i (some v)

/-- `l[i]`. -/
def index (l : List Str) (i : ℕ) : Except PyErr Str := l[i]?.elim (.error .indexError) .ok

/-! ## One pass over a file -/

/-- The variables that are reset for each file. -/
structure Scan where
  opkindCnt : ℕ := 0
  instrCnt : ℕ := 0
  groupOpkind : Table Str := fun _ => none
  groupInstr : Table Str := fun _ => none
  covOpkind : Table ℕ := fun _ => none
  covInstr : Table ℕ := fun _ => none
  defInstr : Table ℤ := fun _ => none
  defOpkind : Table ℤ := fun _ => none

/-- The variables that are not: `start_cnt` has no value at first. -/
structure Totals where
  itemCovered : ℕ := 0
  itemUncovered : ℕ := 0
  startCnt : Option ℕ := none

/-- The line of an item. -/
def scanItem (s : Scan) (n : Totals) (str : Str) : Except PyErr (Scan × Totals) := do
  let count ← intOf 10 (← index (str.splitOn ':') 2)
  if count = 0 then
    return (s, { n with itemUncovered := n.itemUncovered + 1 })
  else do
    let covOpkind := s.covOpkind.set s.opkindCnt ((← s.covOpkind.get s.opkindCnt) + 1)
    -- the key is `instr_cnt - 1`, which no instruction has before the first one
    let i ← if s.instrCnt = 0 then .error .keyError else .ok (s.instrCnt - 1)
    let covInstr := s.covInstr.set i ((← s.covInstr.get i) + 1)
    return ({ s with covOpkind, covInstr }, { n with itemCovered := n.itemCovered + 1 })

/-- The line that opens a kind. -/
def scanOpening (s : Scan) (n : Totals) (str : Str) : Scan × Totals :=
  ({ s with
      groupOpkind := s.groupOpkind.set s.opkindCnt ((str.splitOn ' ').headD [])
      covOpkind := s.covOpkind.set s.opkindCnt 0
      defOpkind := s.defOpkind.set s.opkindCnt 0 },
    { n with startCnt := some s.instrCnt })

/-- `def_opkind[opkind_cnt] += def_instr[i]`. -/
def addDef (s : Scan) (defOpkind : Table ℤ) (i : ℕ) : Except PyErr (Table ℤ) :=
  return defOpkind.set s.opkindCnt ((← defOpkind.get s.opkindCnt) + (← s.defInstr.get i))

/-- The line that closes a kind. -/
def scanClosing (s : Scan) (n : Totals) : Except PyErr (Scan × Totals) := do
  let startCnt ← n.startCnt.elim (.error .nameError) .ok
  let defOpkind ← (List.range' startCnt (s.instrCnt - startCnt)).foldlM (addDef s) s.defOpkind
  return ({ s with defOpkind, opkindCnt := s.opkindCnt + 1 }, n)

/-- The header of an instruction. -/
def scanHeader (s : Scan) (n : Totals) (str : Str) : Except PyErr (Scan × Totals) := do
  let defCnt ← intOf 10 (← index (str.splitOn ':') 1)
  return ({ s with
      groupInstr := s.groupInstr.set s.instrCnt ((str.splitOn '-').headD [])
      defInstr := s.defInstr.set s.instrCnt defCnt
      covInstr := s.covInstr.set s.instrCnt 0
      instrCnt := s.instrCnt + 1 }, n)

/-- A line of the file. -/
def scanLine (x : Scan × Totals) (cd : Str) : Except PyErr (Scan × Totals) :=
  let str := strip cd
  match str.head? with
  | none => .error .indexError
  | some c =>
    if c.isDigit then scanItem x.1 x.2 str
    else if str.getLast? = some '\x7b' then .ok (scanOpening x.1 x.2 str)
    else if str.getLast? = some '\x7d' then scanClosing x.1 x.2
    else scanHeader x.1 x.2 str

/-- The lines of a file. -/
def scanFile (n : Totals) (cdLines : List Str) : Except PyErr (Scan × Totals) :=
  cdLines.foldlM scanLine ({}, n)

/-! ## The report -/

/-- The two architectures. -/
inductive Arch
  | arm | thumb
  deriving DecidableEq, Repr

/-- The lines of the report.  The percentage of a row is computed from its two counts. -/
inductive ReportLine
  | group (arch : Arch) (opkindCnt instrCnt : ℕ)
  | opkind (name : Str) (cov : ℕ) (defCnt : ℤ)
  | instr (name : Str) (cov : ℕ) (defCnt : ℤ)
  | total (items uncovered covered : ℕ)
  deriving DecidableEq, Repr

/-- The lines that were written, and whether `exit(-1)` ended the process. -/
structure Written where
  lines : List ReportLine
  exited : Bool
  deriving DecidableEq, Repr

/-- The rows of some keys, up to one with more covered items than there should be. -/
def writeRows (row : Str → ℕ → ℤ → ReportLine) (name : Table Str) (cov : Table ℕ)
    (defCnt : Table ℤ) : List ℕ → Except PyErr Written
  | [] => .ok ⟨[], false⟩
  | i :: is => do
    let d ← defCnt.get i
    let c ← cov.get i
    let line := row (← name.get i) c d
    if d < c then return ⟨[line], true⟩
    else do
      let w ← writeRows row name cov defCnt is
      return ⟨line :: w.lines, w.exited⟩

/-- What is written for a file. -/
def writeFile (arch : Arch) (s : Scan) : Except PyErr Written := do
  let kinds ← writeRows .opkind s.groupOpkind s.covOpkind s.defOpkind (List.range s.opkindCnt)
  let head := .group arch s.opkindCnt s.instrCnt :: kinds.lines
  if kinds.exited then return ⟨head, true⟩
  else do
    let instrs ← writeRows .instr s.groupInstr s.covInstr s.defInstr (List.range s.instrCnt)
    return ⟨head ++ instrs.lines, instrs.exited⟩

/-- `genCovReport`, from the lines of the two files. -/
def genCovReport (arm thumb : List Str) : Except PyErr Written := do
  let (sArm, n) ← scanFile {} arm
  let wArm ← writeFile .arm sArm
  if wArm.exited then return wArm
  else do
    let (sThumb, n) ← scanFile n thumb
    let wThumb ← writeFile .thumb sThumb
    if wThumb.exited then return ⟨wArm.lines ++ wThumb.lines, true⟩
    else
      return ⟨wArm.lines ++ wThumb.lines ++ [.total (n.itemUncovered + n.itemCovered)
        n.itemUncovered n.itemCovered], false⟩

/-! ## Updating the definition files -/

/-- A line that was found: where it starts, and the text that is written there. -/
structure Found where
  lastPos : ℕ
  newstr : Str
  deriving DecidableEq, Repr

/-- The search for a variant in the lines of a file, from a position on. -/
def search (clVariant clCount : Str) : ℕ → List Str → Except PyErr (Option Found)
  | _, [] => .ok none
  | lastPos, cd :: cds =>
    match (strip cd).head? with
    | none => .error .indexError
    | some c =>
      if c.isDigit then
        match cd.splitOn ':' with
        | sn :: variant :: count :: more =>
          if startsWith variant clVariant then do
            let updatedCount := (← intOf 10 count) + (← intOf 10 clCount)
            return some ⟨lastPos, [':'].intercalate (sn :: variant :: decInt updatedCount :: more)⟩
          else search clVariant clCount (lastPos + cd.length) cds
        | _ => .error .indexError
      else search clVariant clCount (lastPos + cd.length) cds

/-- The search in a mapped file, and the update.  Writing behind the end raises. -/
def updateMap (clVariant clCount fcd : Str) : Except PyErr (Option Str) := do
  match ← search clVariant clCount 0 (readlines fcd) with
  | none => return none
  | some f =>
    if f.lastPos + f.newstr.length ≤ fcd.length then
      return some (InPlace.overwrite fcd f.lastPos f.newstr)
    else throw .valueError

/-- A line of the log, with the two mapped files. -/
def logLine (maps : Str × Str) (cl : Str) : Except PyErr (Str × Str) := do
  let clVariant := (cl.splitOn ':').headD []
  let clCount ← index (cl.splitOn ':') 1
  match ← updateMap clVariant clCount maps.1 with
  | some mapArm => return (mapArm, maps.2)
  | none =>
    match ← updateMap clVariant clCount maps.2 with
    | some mapThumb => return (maps.1, mapThumb)
    | none => return maps

/-- `parseCovLog`, from the two files and the lines of the log.  An empty file cannot be mapped. -/
def parseCovLog (arm thumb : Str) (clLines : List Str) : Except PyErr (Str × Str) :=
  if arm = [] ∨ thumb = [] then .error .valueError else clLines.foldlM logLine (arm, thumb)

end Rit.GenCovRpt
