import Rit.Art.Build
import Rit.Lib.PyInt
import Rit.Lib.Query

/-!
# `instrgen`: filling a basic block

`genBlockInstrs` fills a basic block with instructions.  It asks for them one by one
(`gen_single_inst_with_opkind`, `gen_single_inst_with_opcode`), and what is asked for may not be
found; then it asks again, and after too many failures it goes without.  In Thumb code
`genInstrs` sometimes asks `genThumbIT` for a whole IT block, which in turn asks `genInstrs` for the
instructions in it, one at a time.

A request is a question to an oracle, which answers with the instructions, with none, or with an
exception.  Instructions are texts, as in the source: an opcode and the rest of the line.
-/

namespace Rit.Art.Generate

open Draw PyStr Query

/-! ## Tables of `arminfo` -/

/-- The names of kinds of instructions. -/
inductive Opkind
  | pushOp | popOp | ldOp | mulOp | mul32Op | umulOp | smulOp | smuldOp | aluOp | logOp | movOp
  | byteAluOp | sByteAluOp | cmpOp | testOp | extOp | bfOp | reverseOp | srOp | miscOp | vfpOp
  deriving DecidableEq, Repr

def stackOp : List Opkind := [.pushOp, .popOp]

def memOp : List Opkind := [.ldOp]

def mulOp : List Opkind := [.mul32Op, .umulOp, .smulOp, .smuldOp]

def dataOp : List Opkind := [.aluOp, .logOp, .movOp, .byteAluOp, .sByteAluOp]

def miscOp : List Opkind := [.cmpOp, .testOp, .extOp, .bfOp, .reverseOp, .srOp, .miscOp]

def vfpOp : List Opkind := [.vfpOp]

def allOp : List Opkind := stackOp ++ memOp ++ mulOp ++ dataOp ++ miscOp ++ vfpOp

def mulOpkind : List Opkind := [.mulOp, .smulOp, .smuldOp]

def armShiftOp : List String :=
  ["AND_rsh", "EOR_rsh", "SUB_rsh", "RSB_rsh", "ADD_rsh", "ADC_rsh", "SBC_rsh", "RSC_rsh",
    "TST_rsh", "TEQ_rsh", "CMP_rsh", "CMN_rsh", "ORR_rsh", "BIC_rsh", "MVN_rsh", "LSL_reg",
    "LSR_reg", "ASR_reg", "ROR_reg"]

def thumbShiftOp : List String := ["LSL_reg_T2", "LSR_reg_T2", "ASR_reg_T2", "ROR_reg_T2"]

def itMask : List Str :=
  ["", "t", "e", "tt", "et", "te", "ee", "ttt", "ett", "tet", "eet", "tte", "ete", "tee",
    "eee"].map String.toList

def condCode : List Str :=
  ["eq", "ne", "cs", "cc", "mi", "pl", "vs", "vc", "hi", "ls", "ge", "lt", "gt", "le",
    "al"].map String.toList

/-- `arminfo.REGType`. -/
abbrev R_0_3 : ℕ := 0
abbrev R_4_7 : ℕ := 4
abbrev R_8_12 : ℕ := 8
abbrev R_SP : ℕ := 13
abbrev R_LR : ℕ := 14
abbrev R_PC : ℕ := 15

def candidateRegs : List ℕ := [R_0_3, R_4_7, R_8_12, R_SP, R_LR, R_PC]

/-! ## Requests -/

/-- The calls of `gen_single_inst_with_opkind` and `gen_single_inst_with_opcode`; `none` is
Python's `None`. -/
inductive Request
  | opkind (isARM : Bool) (opkind : Option Opkind) (cond sbit srcReg dstReg : Option ℕ)
    (allowFix : Bool)
  | opcode (isARM : Bool) (opcode : String) (cond sbit srcReg dstReg : Option ℕ)
  deriving DecidableEq, Repr

/-- What a request returns or raises. -/
abbrev Answer := Except PyErr (Option (List ParsedInst))

/-- The generators of this module. -/
abbrev Fill := Prog Request Answer

/-- A request, as `if ret:` looks at it: `None` is no better than the empty list. -/
def request (x : Request) : Fill (List ParsedInst) := do
  match ← ask x with
  | .ok ret => pure (ret.getD [])
  | .error e => throw e

/-- The options that the generators read. -/
structure Options where
  maxretry : ℕ
  perIt : ℕ

/-- `ropts`. -/
structure Ropts where
  cond : Option (List ℕ) := none
  sbit : Option (List ℕ) := none
  srcReg : Option (List ℕ) := none
  dstReg : Option (List ℕ) := none

/-- `random.choice(l)` if there is a list. -/
def choiceOf (l : Option (List ℕ)) : Gen Unit (Option ℕ) :=
  match l with
  | none => pure none
  | some l => do
    let a ← Draw.choice l
    pure (some a.1)

/-- What `extOptions` returns. -/
structure ExtOptions where
  cond : Option ℕ
  sbit : Option ℕ
  srcReg : Option ℕ
  dstReg : Option ℕ

def extOptions (ropts : Ropts) : Gen Unit ExtOptions := do
  let cond ← choiceOf ropts.cond
  let sbit ← choiceOf ropts.sbit
  let srcReg ← choiceOf ropts.srcReg
  let dstReg ← choiceOf ropts.dstReg
  pure ⟨cond, sbit, srcReg, dstReg⟩

/-! ## Texts -/

/-- `%d`. -/
def dec (n : ℕ) : Str := Nat.toDigits 10 n

/-- `%x`. -/
def hex (n : ℕ) : Str := Nat.toDigits 16 n

/-- The two opcodes of a raw Thumb instruction. -/
def instN : Str := ".inst.n".toList
def instW : Str := ".inst.w".toList

/-- The opcode of an instruction in an IT block, with its condition. -/
def withCond (op cond : Str) : Str :=
  if op = instN ∨ op = instW then op
  else if '.' ∈ op then op.takeWhile (· ≠ '.') ++ cond ++ op.dropWhile (· ≠ '.')
  else op ++ cond

/-! ## IT blocks -/

/-- The test of `genITInstr`: one instruction, which is not `MOV_reg_T2`. -/
def validInIT (rinstr : List ParsedInst) : Except PyErr Bool :=
  match rinstr with
  | [(op, rest)] =>
    if op = instN then
      match PyInt.int 16 rest with
      | none => .error .valueError
      | some hexcode => .ok (!decide (hexcode < 64))
    else .ok true
  | _ => .ok false

/-- The masks for `n` instructions. -/
def masksFor (n : ℕ) : List Str :=
  if n = 1 then itMask.take 1
  else if n = 2 then (itMask.take 3).drop 1
  else if n = 3 then (itMask.take 7).drop 3
  else if n = 4 then itMask.drop 7
  else itMask

/-- `it_cond`: the condition of each instruction of the block. -/
def itCond (firstcond : ℕ) (mask : Str) : List Str :=
  condCode.getD firstcond [] ::
    mask.map fun c => condCode.getD (if c = 'e' then firstcond ^^^ 1 else firstcond) []

/-- The entries of the block, without the `it`. -/
def itEntries (instr : List ParsedInst) (conds : List Str) (n : ℕ) :
    Except PyErr (List ParsedInst) :=
  (List.range n).mapM fun i =>
    match instr[i]?, conds[i]? with
    | some (op, rest), some cond => .ok (withCond op cond, rest)
    | _, _ => .error .indexError

/-- An exception of a part that neither draws nor asks. -/
def orRaise {α : Type} : Except PyErr α → Fill α
  | .ok a => pure a
  | .error e => throw e

/-- The number of instructions of the block. -/
def itNum (n : Option ℕ) : Gen Unit ℕ :=
  match n with
  | some n => if n > 4 ∨ n < 1 then do let k ← randint 1 4; pure k.1 else pure n
  | none => do let k ← randint 1 4; pure k.1

/-- The second half of `genThumbIT`: the block of the instructions that were found. -/
def itBlock (instr : List ParsedInst) (n : ℕ) : Fill (Option (List ParsedInst)) :=
  if instr = [] then pure none
  else do
    let n := if instr.length < n then instr.length else n
    let firstcond ← draws (randint 0 13)
    let mask ← draws (Draw.choice (masksFor n))
    let mask := if firstcond.1 = 14 then mask.1.map fun c => if c = 'e' then 't' else c else mask.1
    let entries ← orRaise (itEntries instr (itCond firstcond.1 mask) n)
    pure (some (("it".toList ++ mask, condCode.getD firstcond.1 []) :: entries))

/-- Whether `genInstrs` asks for an IT block: in Thumb code, and never for a few instructions. -/
def drawIt (perIt : ℕ) (isa : Bool) (limit : ℕ) :
    Gen Unit { b : Bool // b = true → isa = false ∧ 5 < limit } :=
  if h : isa = false ∧ 5 < limit then do
    let b ← Build.percent perIt
    pure ⟨b, fun _ => h⟩
  else pure ⟨false, fun hfalse => absurd hfalse (by decide)⟩

/-- `random.choice(opkind)`, or `None` for the empty list. -/
def choiceOpkind (opkind : List Opkind) : Gen Unit (Option Opkind) :=
  if opkind = [] then pure none
  else do
    let k ← Draw.choice opkind
    pure (some k.1)

mutual

def genInstrs (o : Options) (isa : Bool) (opkind : List Opkind) (ropts : Ropts) (limit : ℕ) :
    Fill (List ParsedInst) :=
  collect limit o.maxretry (do
    let genIt ← draws (drawIt o.perIt isa limit)
    if _h : genIt.1 = true then do
      let n ← draws (randint 1 4)
      let ret ← genThumbIT o isa opkind ropts (some n.1)
      pure (.ofList (ret.getD []))
    else do
      let ropkind ← draws (choiceOpkind opkind)
      let x ← draws (extOptions ropts)
      let ret ← request (.opkind isa ropkind x.cond x.sbit x.srcReg x.dstReg true)
      pure (.ofList ret)) ⟨0, 0⟩ []
termination_by (if 5 < limit then 1 else 0, 0, 0)
decreasing_by
  rw [if_pos (genIt.2 ‹_›).2]
  exact Prod.Lex.left _ _ (by omega)

/-- `genITInstr`, after `retry` of its rounds. -/
def genITInstr (o : Options) (isa : Bool) (opkind : List Opkind) (ropts : Ropts) (retry : ℕ) :
    Fill (List ParsedInst) :=
  if retry < 8 then do
    let rinstr ← genInstrs o isa opkind ropts 1
    if rinstr = [] then genITInstr o isa opkind ropts (retry + 1)
    else do
      let valid ← orRaise (validInIT rinstr)
      if valid then pure rinstr else genITInstr o isa opkind ropts (retry + 2)
  else pure []
termination_by (0, 1, 8 - retry)
decreasing_by
  · exact Prod.Lex.right _ (Prod.Lex.left _ _ (by omega))
  · exact Prod.Lex.right _ (Prod.Lex.right _ (by omega))
  · exact Prod.Lex.right _ (Prod.Lex.right _ (by omega))

/-- The loop of `genThumbIT`, with `n` rounds left. -/
def genITInstrs (o : Options) (isa : Bool) (opkind : List Opkind) (ropts : Ropts) (n : ℕ)
    (instr : List ParsedInst) : Fill (List ParsedInst) :=
  match n with
  | 0 => pure instr
  | n + 1 => do
    let rinstr ← genITInstr o isa opkind ropts 0
    genITInstrs o isa opkind ropts n (instr ++ rinstr)
termination_by (0, 2, n)
decreasing_by
  · exact Prod.Lex.right _ (Prod.Lex.left _ _ (by omega))
  · exact Prod.Lex.right _ (Prod.Lex.right _ (by omega))

def genThumbIT (o : Options) (isa : Bool) (opkind : List Opkind) (ropts : Ropts) (n : Option ℕ) :
    Fill (Option (List ParsedInst)) := do
  let n ← draws (itNum n)
  let instr ← genITInstrs o isa opkind ropts n []
  itBlock instr n
termination_by (0, 3, 0)
decreasing_by
  exact Prod.Lex.right _ (Prod.Lex.left _ _ (by omega))

end

/-! ## Memory, multiplications and shifts -/

/-- `', '.join`. -/
def joinComma (l : List Str) : Str := ", ".toList.intercalate l

/-- `setReg` of an aligned value. -/
def setReg (reg lo hi : ℕ) (isARM : Bool) : Gen Unit (List ParsedInst) := do
  let rval ← randint lo hi
  let rval := rval.1 / 4 * 4
  pure [(if isARM then "ldr".toList else "ldr.w".toList,
    "r".toList ++ dec reg ++ ", =0x".toList ++ hex rval)]

/-- `setReg` of one register after the other. -/
def setRegs (isARM : Bool) : List ℕ → Gen Unit (List ParsedInst)
  | [] => pure []
  | reg :: regs => do
    let inst ← setReg reg getMemLimit.1 getMemLimit.2 isARM
    let insts ← setRegs isARM regs
    pure (inst ++ insts)

/-- The registers that `genMemInstrs` sets for a class of base registers. -/
def basesOf (reg : Option ℕ) : List ℕ :=
  if reg = some R_SP then [R_SP]
  else if reg = some R_0_3 then [0, 1, 2, 3, R_SP]
  else if reg = some R_4_7 then [4, 5, 6, 7, R_SP]
  else []

/-- `allow_fix`: the bases have not been set. -/
def allowFix (reg : Option ℕ) : Bool :=
  !decide (reg = some R_SP ∨ reg = some R_0_3 ∨ reg = some R_4_7)

/-- `dst_regs`. -/
def memDstRegs (isa : Bool) (reg : Option ℕ) : List ℕ :=
  let dstRegs := if allowFix reg ∨ isa then candidateRegs.erase R_PC else [R_0_3, R_4_7]
  reg.elim dstRegs dstRegs.erase

def genMemInstrs (o : Options) (isa : Bool) (reg : Option ℕ) (ropts : Ropts) (limit : ℕ) :
    Fill (List ParsedInst) := do
  let inst ← draws (setRegs isa (basesOf reg))
  let memOps := if reg = some R_SP then stackOp else memOp
  collect limit (o.maxretry + 1) (do
    let x ← draws (extOptions ropts)
    let opkind ← draws (Draw.choice memOps)
    let dstReg ← draws (Draw.choice (memDstRegs isa reg))
    let ret ← request (.opkind isa (some opkind.1) x.cond x.sbit reg (some dstReg.1) (allowFix reg))
    pure (.ofList ret)) ⟨0, 0⟩ inst

def reinitGeneralRegs (isARM : Bool) (label : Str) (limit : ℕ) : Gen Unit (List ParsedInst) := do
  let baseReg ← randint 0 12
  let offset ← Draw.drawIf (16 ≤ limit) (do let k ← randint 0 (limit - 16); pure (k.1 * 4)) 0
  let regs := if isARM then List.range 15 else (List.range 15).erase 13
  let n ← randint (regs.length / 2) regs.length
  let rlist ← sample n.1 regs
  let rlist := rlist.mergeSort
  let base := "r".toList ++ dec baseReg.1
  pure [("ldr".toList, base ++ ", =".toList ++ label ++ "+".toList ++ dec offset),
    (if isARM then "ldm".toList else "ldm.w".toList,
      base ++ ", \x7b".toList ++ joinComma (rlist.map fun i => "r".toList ++ dec i) ++
        "\x7d".toList)]

/-- What a round of `genMulShiftInstrs` counts: one for an instruction, and the instructions that
give the registers new values. -/
def mulShiftRound (ret extra : List ParsedInst) : Round ParsedInst where
  ret := ret
  credit := 1
  credit_pos := fun _ => Nat.one_pos
  extra := extra

def genMulShiftInstrs (o : Options) (isa : Bool) (ropts : Ropts) (limit : ℕ) :
    Fill (List ParsedInst) :=
  collect limit (o.maxretry + 1) (do
    let genMul ← draws Build.coin
    let x ← draws (extOptions ropts)
    let ret ← if genMul then do
        let ropkind ← draws (Draw.choice mulOpkind)
        request (.opkind isa (some ropkind.1) x.cond x.sbit x.srcReg x.dstReg true)
      else do
        let ropcode ← draws (Draw.choice (if isa then armShiftOp else thumbShiftOp))
        request (.opcode isa ropcode.1 x.cond x.sbit x.srcReg x.dstReg)
    let rval ← draws (randint 0 100)
    let fixinst ← draws
      (Draw.drawIf (80 < rval.1) (reinitGeneralRegs isa "bv_general".toList 512) [])
    pure (mulShiftRound ret fixinst)) ⟨0, 0⟩ []

end Rit.Art.Generate
