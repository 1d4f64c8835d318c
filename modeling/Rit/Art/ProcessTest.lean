import Rit.Art.Exclusive

/-!
# `processtest`: the self-check

After a first run of the test under an emulator, `addChkCode` puts a check behind the label `exit`.
The check compares the flags and the registers with what the emulator has logged there and branches
to `failexit` if one of them differs.

The flags are tested first, by branches on the inverted conditions, because the comparisons of the
registers overwrite them.  Each of these loads the recorded value to `r4`, which is itself not
checked.
-/

namespace Rit.Art

open Arm (Reg)

/-- The labels that the check needs, and those of the test. -/
inductive ExitLabel (L : Type)
  | exit
  | failexit
  | other (l : L)
  deriving DecidableEq, Repr

/-- `cpustate`: the entries `PSR` and `R00` to `R14` of the log. -/
structure CpuState where
  psr : Arm.Word
  r : Reg → Arm.Word

def apsrMask : Arm.Word × Arm.Word × Arm.Word × Arm.Word :=
  (0x80000000, 0x40000000, 0x20000000, 0x10000000)

/-- `cc`: for each flag the condition that holds if it is not as recorded. -/
def chkConds (psr : Arm.Word) : List Arm.Cond :=
  [if psr &&& apsrMask.1 ≠ 0 then .pl else .mi,
    if psr &&& apsrMask.2.1 ≠ 0 then .ne else .eq,
    if psr &&& apsrMask.2.2.1 ≠ 0 then .cc else .cs,
    if psr &&& apsrMask.2.2.2 ≠ 0 then .vc else .vs]

/-- `tmp_reg`. -/
def chkTmp : Reg := 4

/-- `reg_list`. -/
def chkRegs : List Reg := (regRange 15).erase chkTmp

section

variable {L : Type}

/-- The check of one register. -/
def chkReg (v : Arm.Word) (i : Reg) : List (Arm.Line (ExitLabel L)) :=
  [.op none (.ldrConst chkTmp v),
    .op none (.cmp i (.reg chkTmp)),
    .b (some .ne) .failexit]

def genChkCode (state : CpuState) : List (Arm.Line (ExitLabel L)) :=
  (chkConds state.psr).map (fun cond => .b (some cond) .failexit) ++
    chkRegs.flatMap fun i => chkReg (state.r i) i

/-- `addChkCode`, on the lines of the source file.  If no line is `exit:`, the loop variable is left
at the last line. -/
def addChkCode [DecidableEq L] (content chkInstrs : List (Arm.Line (ExitLabel L))) :
    List (Arm.Line (ExitLabel L)) :=
  let idx := content.idxOf (.label .exit)
  content.take (idx + 1) ++ chkInstrs ++ content.drop (idx + 1)

/-- A source file that ends with the code of `genExitBlock`: the test, `exit` with the code for a
test that has passed, and `failexit`. -/
structure ExitText (L : Type) where
  test : List (Arm.Line (ExitLabel L))
  pass : List (Arm.Line (ExitLabel L))
  fail : List (Arm.Line (ExitLabel L))
  exit_notMem : .label .exit ∉ test
  failexit_notMem : .label .failexit ∉ test ++ pass
  pass_ne_nil : pass ≠ []

/-- The lines of the file. -/
def ExitText.content (E : ExitText L) : List (Arm.Line (ExitLabel L)) :=
  E.test ++ .label .exit :: E.pass ++ .label .failexit :: E.fail

end

end Rit.Art
