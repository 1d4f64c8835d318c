import Rit.Art.Vfp
import Rit.Src.InstrGenerator

/-!
# `rit`: asking for one instruction

The generators of `Generate` ask for instructions through `gen_single_inst_with_opkind` and
`gen_single_inst_with_opcode`.  What is left open in a request is drawn; then the library is called
until it says that its instruction is valid, or the patience is exhausted.  Floating-point
instructions do not come from the library.

The library keeps its globals from call to call; they are the state here.  A call that fails an
`assert` ends the process.
-/

namespace Rit.Art

open Draw PyStr
open Generate (Opkind Request Answer allOp)

/-- The name of a kind. -/
def Generate.Opkind.str : Opkind → String
  | .pushOp => "PUSH_OP"
  | .popOp => "POP_OP"
  | .ldOp => "LD_OP"
  | .mulOp => "MUL_OP"
  | .mul32Op => "MUL32_OP"
  | .umulOp => "UMUL_OP"
  | .smulOp => "SMUL_OP"
  | .smuldOp => "SMULD_OP"
  | .aluOp => "ALU_OP"
  | .logOp => "LOG_OP"
  | .movOp => "MOV_OP"
  | .byteAluOp => "BYTE_ALU_OP"
  | .sByteAluOp => "S_BYTE_ALU_OP"
  | .cmpOp => "CMP_OP"
  | .testOp => "TEST_OP"
  | .extOp => "EXT_OP"
  | .bfOp => "BF_OP"
  | .reverseOp => "REVERSE_OP"
  | .srOp => "SR_OP"
  | .miscOp => "MISC_OP"
  | .vfpOp => "VFP_OP"

/-- `output.value`. -/
def libOutput (s : Src.State) : Str := s.printBuff.flatMap fun l => l.toList ++ ['\n']

/-- A call of the library, and what it prints. -/
def callLib (f : Src.State → Option Src.State) : Gen Src.State Str := fun s =>
  match f s.st with
  | some st => .ok (libOutput st, { s with st })
  | none => .error .aborted

/-- What a call is given besides the instruction's kind or opcode. -/
structure CallArgs where
  cond : ℕ
  sbit : ℕ
  srcReg : ℕ
  dstReg : ℕ

/-- The arguments with the two that are drawn for the call. -/
def CallArgs.args (a : CallArgs) (hexcode seed : ℕ) : Src.Args :=
  ⟨.ofNat 32 hexcode, a.cond, a.sbit, a.srcReg, a.dstReg, seed⟩

/-- `if cond is None`. -/
def drawArgCond : Option ℕ → Gen Src.State ℕ
  | some cond => pure cond
  | none => do
    let cond ← randint 0 32
    pure (if cond.1 > 14 then 14 else cond.1)

/-- `if sbit is None`. -/
def drawArgSbit : Option ℕ → Gen Src.State ℕ
  | some sbit => pure sbit
  | none => do
    let sbit ← Draw.choice [0, 1]
    pure sbit.1

/-- `if opkind is None`. -/
def drawArgOpkind : Option Opkind → Gen Src.State Opkind
  | some opkind => pure opkind
  | none => do
    let opkind ← Draw.choice allOp
    pure opkind.1

/-- The arguments that a request leaves open. -/
def drawArgs (cond sbit srcReg dstReg : Option ℕ) : Gen Src.State CallArgs := do
  let cond ← drawArgCond cond
  let sbit ← drawArgSbit sbit
  pure ⟨cond, sbit, srcReg.getD 16, dstReg.getD 16⟩

/-- A number that is drawn unless it is given. -/
def drawWord : Option ℕ → Gen Src.State ℕ
  | some n => pure n
  | none => do
    let n ← randint 0 (2 ^ 32 - 1)
    pure n.1

/-- `while retry > 0`: calls until one prints a valid instruction. -/
def tryCalls (call : Gen Src.State Str) (allowFix isARM invalid : Bool) :
    ℕ → Gen Src.State (Option (List ParsedInst))
  | 0 => pure none
  | retry + 1 => do
    let output ← call
    match parseRIT output allowFix isARM invalid with
    | none => throw .indexError
    | some (true, inst) => pure inst
    | some (false, _) => tryCalls call allowFix isARM invalid retry

section

variable (seeded : Int → ℕ → BitVec 31) (maxretry : ℕ)

def genSingleInstWithOpkind (isARM : Bool) (opkind : Option Opkind)
    (cond sbit srcReg dstReg : Option ℕ) (allowFix : Bool) :
    Gen Src.State (Option (List ParsedInst)) := do
  let opkind ← drawArgOpkind opkind
  let a ← drawArgs cond sbit srcReg dstReg
  if opkind = .vfpOp then do
    let inst ← lift (Vfp.genInstr isARM a.cond a.srcReg a.dstReg allowFix)
    pure (inst.map fun l => l.map Vfp.Inst.text)
  else
    tryCalls (do
      let hexcode ← drawWord none
      let seed ← drawWord none
      callLib (Src.pyGenInstr seeded (if isARM then 0 else 1) opkind.str (a.args hexcode seed)))
      allowFix true false maxretry

/-- `gen_single_inst_with_opcode`.  The word and the seed are drawn once, before the first call. -/
def genSingleInstWithOpcode (isARM : Bool) (opcode : String) (cond sbit srcReg dstReg : Option ℕ)
    (allowFix : Bool) (seed hexcode : Option ℕ) (invalid : Bool) :
    Gen Src.State (Option (List ParsedInst)) := do
  let a ← drawArgs cond sbit srcReg dstReg
  if maxretry = 0 then pure none
  else do
    let hexcode ← drawWord hexcode
    let seed ← drawWord seed
    tryCalls (callLib (Src.pyGenInstrWithOp seeded opcode (a.args hexcode seed)))
      allowFix isARM invalid maxretry

/-- What a request runs. -/
def Generate.Request.run : Request → Gen Src.State (Option (List ParsedInst))
  | .opkind isARM kind cond sbit srcReg dstReg allowFix =>
    genSingleInstWithOpkind seeded maxretry isARM kind cond sbit srcReg dstReg allowFix
  | .opcode isARM name cond sbit srcReg dstReg =>
    genSingleInstWithOpcode seeded maxretry isARM name cond sbit srcReg dstReg true none none false

/-- An answer that a request can get: from some state of the library and for some draws. -/
def Generate.Answered (x : Request) (a : Answer) : Prop :=
  ∃ s : Run Src.State, a = ((x.run seeded maxretry).run s).map Prod.fst

end

end Rit.Art
