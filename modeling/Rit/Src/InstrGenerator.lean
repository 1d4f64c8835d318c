import Rit.Src.RandomInstrGen

/-!
# The first library: the entry points

`py_gen_instr` draws an opcode of the given kinds and `py_gen_instr_with_op` takes the opcode by
its name; both copy `print_buff` to the caller.  The globals live as long as the process does, so
a call starts from what the calls before it left (`State`).  A process that fails an `assert` is
gone: an entry point then has no result.

`seeded` is what `rand()` returns after `srand`.
-/

namespace Rit.Src

/-- The globals of the process. -/
structure State where
  /-- `init_option` -/
  initOption : Bool
  opkindList : ℕ → Bool
  work : Work
  /-- The lines of `print_buff`. -/
  printBuff : List String

/-- The globals when the process starts: zero.  `behind` is the memory behind `opkind_list`, which
a row of a kind without a name makes `get_random_op` read. -/
def State.fresh (rand : ℕ → BitVec 31) (behind : ℕ → Bool) : State where
  initOption := false
  opkindList := fun i => if i < opkindNames.length then false else behind i
  work :=
    { rawInstr := 0
      randStream := rand
      options :=
        { allowUnalignMem := false, fixMem := false, memBaseVal := 0, memBaseMask := 0,
          memOffsetVal := 0, condVal := 0, srcRegs := .default, dstRegs := .default,
          isSbitInit := false, sbitVal := 0, isShiftImmInit := false, shiftImmVal := 0,
          archVersion := 0, isa := .armv5 }
      instrBuf := [] }
  printBuff := []

/-- `update_opkind_str(str, true)`. -/
def updateOpkindStr (str : String) (opkindList : ℕ → Bool) : ℕ → Bool :=
  let tokens := opkindTokens str.toList
  fun i =>
    if i < opkindNames.length then
      tokens.any fun t => t.isPrefixOf (opkindNames.getD i "").toList
    else opkindList i

/-- What `set_default_option` assigns to the options.  It leaves those values alone that are read
only under a flag it clears. -/
def defaultOption (o : GenOption) : GenOption :=
  { o with
    fixMem := true
    memBaseVal := 0x03fc0000
    memBaseMask := 0xfffc0000
    memOffsetVal := 0x00000fff
    allowUnalignMem := false
    archVersion := 7
    isa := .armv5
    isSbitInit := false
    isShiftImmInit := false
    srcRegs := .default
    dstRegs := .default }

/-- `if (!init_option) set_default_option()`. -/
def State.initialise (s : State) : State :=
  if s.initOption then s
  else
    { s with
      initOption := true
      opkindList := updateOpkindStr defaultOpkinds s.opkindList
      work := { s.work with options := defaultOption s.work.options } }

def getRegType (reg : Int) : ArmRegs :=
  if 0 ≤ reg ∧ reg ≤ 3 then .r0to3
  else if 4 ≤ reg ∧ reg ≤ 7 then .r4to7
  else if 8 ≤ reg ∧ reg ≤ 12 then .r8to12
  else if reg = 13 then .sp
  else if reg = 14 then .lr
  else if reg = 15 then .pc
  else .default

/-- The arguments the two entry points share. -/
structure Args where
  hexcode : Word
  cond : Int
  sbit : Int
  srcReg : Int
  dstReg : Int
  seed : Int
  deriving DecidableEq, Repr

/-- What both entry points assign before they generate. -/
def Args.assign (seeded : Int → ℕ → BitVec 31) (a : Args) (w : Work) : Work :=
  { w with
    rawInstr := a.hexcode
    randStream := seeded a.seed
    options := { w.options with
      condVal := wordOfLong a.cond
      sbitVal := a.sbit
      isSbitInit := true
      srcRegs := getRegType a.srcReg
      dstRegs := getRegType a.dstReg } }

/-- The index range `get_random_op` scans. -/
def opRange : InstrSet → ℕ × ℕ
  | .armv5 | .armv7 => (SISA_OP_NA, SISA_OP_ARM_MAX)
  | .thumb => (SISA_OP_ARM_MAX, SISA_OP_MAX)

def getRandomOp (opkindList : ℕ → Bool) (w : Work) : Opcode × Work :=
  let tmpOp := (List.range' (opRange w.options.isa).1
    ((opRange w.options.isa).2 - (opRange w.options.isa).1)).filter fun idx =>
      opkindList (glbInstrTlb idx).opKind.ctorIdx
  if tmpOp.length = 0 then (SISA_OP_NA, w)
  else (tmpOp.getD (w.nextRand.toNat % tmpOp.length) SISA_OP_NA,
    { w with toDraft := w.toDraft.afterRand })

/-- Store what `gen_instr_with_op` leaves. -/
def State.generate (s : State) (op : Opcode) (w : Work) : Option State :=
  (genInstrWithOp op w).map fun r => { s with work := r.2, printBuff := r.1 }

section EntryPoints

variable (seeded : Int → ℕ → BitVec 31)

/-- `py_gen_instr`; the text is `printBuff`. -/
def pyGenInstr (isa : Int) (opkind : String) (a : Args) (s : State) : Option State :=
  let s := s.initialise
  let s := { s with opkindList := updateOpkindStr opkind s.opkindList }
  let w := a.assign seeded
    { s.work with options := { s.work.options with isa := if isa ≠ 0 then .thumb else .armv7 } }
  -- `gen_random_instr_without_op`
  let (op, w) := getRandomOp s.opkindList w
  s.generate op w

/-- `py_gen_instr_with_op`.  A name that is not in the table leaves `print_buff` as it is. -/
def pyGenInstrWithOp (op : String) (a : Args) (s : State) : Option State :=
  let s := s.initialise
  let w := a.assign seeded s.work
  -- `gen_random_instr`
  match findOpcode op with
  | none => some { s with work := w }
  | some idx =>
    let w := if idx > SISA_OP_ARM_MAX then { w with options := { w.options with isa := .thumb } }
      else w
    s.generate idx w

/-- A call of the library. -/
inductive Call
  | genInstr (isa : Int) (opkind : String) (a : Args)
  | genInstrWithOp (op : String) (a : Args)
  deriving DecidableEq, Repr

/-- One call. -/
def Call.run : Call → State → Option State
  | .genInstr isa opkind a => pyGenInstr seeded isa opkind a
  | .genInstrWithOp op a => pyGenInstrWithOp seeded op a

/-- The calls of a process, one after the other. -/
def runCalls : List Call → State → Option State
  | [], s => some s
  | c :: cs, s => (c.run seeded s).bind (runCalls cs)

end EntryPoints

end Rit.Src
