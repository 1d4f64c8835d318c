import Rit.Lib.PyStr

/-!
# `rit`: reading what the library printed

`parseRIT` is the other end of the text protocol with the library.  It looks at the tag of each line
and takes the line apart at its blanks.
-/

namespace Rit.Art

open PyStr

/-- An instruction as the Python half keeps it: the opcode and the rest. -/
abbrev ParsedInst := Str × Str

/-- The variables of the loop of `parseRIT`. -/
structure Parsed where
  status : Bool
  inst : List ParsedInst
  deriving DecidableEq, Repr

/-- `inst.append((tmps[1], ' '.join(tmps[2:])))`; `none` is the `IndexError`. -/
def Parsed.append (p : Parsed) (s : Str) : Option Parsed :=
  let tmps := (strip s).splitOn ' '
  tmps[1]?.map fun opcode =>
    { p with inst := p.inst ++ [(opcode, [' '].intercalate (tmps.drop 2))] }

/-- The body of the loop of `parseRIT`. -/
def parseLine (allowFix isARM invalid : Bool) (p : Parsed) (s : Str) : Option Parsed :=
  if startsWith s "[INFO]".toList then
    let tmps := (strip s).splitOn ' '
    tmps[1]?.map fun word =>
      if word = "VALID".toList then { p with status := true }
      else if word = "UNSUPPORTED".toList ∧ invalid ∧ isARM then
        { status := true, inst := p.inst ++ [([], [' '].intercalate (tmps.drop 3))] }
      else p
  else if startsWith s "[CODE]".toList then
    if allowFix then p.append s else some p
  else if startsWith s "[INST]".toList then p.append s
  else some p

/-- `parseRIT`: the status, and the instructions if it is true. -/
def parseRIT (output : Str) (allowFix isARM invalid : Bool) :
    Option (Bool × Option (List ParsedInst)) :=
  ((splitlines output).foldlM (parseLine allowFix isARM invalid) ⟨false, []⟩).map fun p =>
    (p.status, if p.status then some p.inst else none)

end Rit.Art
