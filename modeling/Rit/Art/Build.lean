import Mathlib.Data.List.AList
import Mathlib.Data.List.DropRight
import Rit.Art.Exclusive
import Rit.Art.ParseRIT
import Rit.Art.RandomBlock
import Rit.Lib.Draw

/-!
# `makeRandomBlock` as a run

`Shape` stands for the tree that a run of `makeRandomBlock` draws.  Here is the run: `getRBlock`
draws the class of a block, `makeRandomBlock` draws its children and everything the emitters need,
moves the nesting level and the instruction set back and forth, and registers the basic blocks in
`ctx[CTX.BB]`.  Each step that can raise in Python can raise here: a choice from an empty list, the
removal of a register that a list does not have, the lookup of a block that was not registered, and
the reading of a text of the library.

The result of a run is the `Shape` it drew.  What the blocks append to their code and return is
`make` of that shape.  A call that needs more depth than it is given raises `recursionError`.
-/

namespace Rit.Art

open Draw PyStr
open Arm (Reg)

/-! ## The context -/

/-- `ctx[CTX.BB]`: the label of a basic block and what is stored under `CTX.INSTLIMIT`. -/
abbrev BlockDict := AList fun _ : Label => Option ℕ

/-- The context dictionary.  `rit` holds the texts that the calls of the library still to come will
return. -/
structure BuildCtx extends Ctx where
  bb : BlockDict
  rit : ℕ → Str

/-- The generators of this module. -/
abbrev Build := Gen BuildCtx

namespace Build

/-- `ctx['nest'] = nest`. -/
def setNest (nest : ℤ) : Build Unit := modifySt fun c => { c with nest }

/-- `ctx[CTX.ISA] = not ctx[CTX.ISA]`. -/
def flipIsa : Build Unit := modifySt fun c => { c with isa := !c.isa }

/-- `ctx[CTX.BB][label] = {}`. -/
def register (label : Label) : Build Unit :=
  modifySt fun c => { c with bb := c.bb.insert label none }

/-- `ctx[CTX.BB][label][CTX.INSTLIMIT] = n`. -/
def setInstLimit (label : Label) (n : ℕ) : Build Unit := do
  let ctx ← getSt
  if label ∈ ctx.bb then modifySt fun c => { c with bb := c.bb.insert label (some n) }
  else throw .keyError

/-- `if off_block: ctx[CTX.BB][off_block.label][CTX.INSTLIMIT] = 32`. -/
def limitBlock : Option Label → Build Unit
  | some label => setInstLimit label 32
  | none => pure ()

/-- What `output` holds after a call of the library. -/
def callRit : Build Str := do
  let ctx ← getSt
  modifySt fun c => { c with rit := fun i => c.rit (i + 1) }
  pure (ctx.rit 0)

/-! ## The draws of the control transfers -/

/-- `arminfo.CONDCODE`. -/
def condcode : List Cond :=
  [.eq, .ne, .cs, .cc, .mi, .pl, .vs, .vc, .hi, .ls, .ge, .lt, .gt, .le]

/-- `random.choice([True, False])`. -/
def coin {σ : Type} : Gen σ Bool := do
  let b ← Draw.choice [true, false]
  pure b.1

/-- `random.randint(0, n)`. -/
def randFin {σ : Type} (n : ℕ) : Gen σ (Fin (n + 1)) := do
  let r ← randint 0 n
  pure ⟨r.1, Nat.lt_succ_of_le r.2.2⟩

/-- The condition, if one is drawn. -/
def drawCond {σ : Type} (isconditional : Bool) : Gen σ Cond := do
  let c ← Draw.drawIf isconditional (Draw.choice condcode) ⟨.eq, by decide⟩
  pure c.1

/-- `random.randint(0, 100) < per`. -/
def percent {σ : Type} (per : ℕ) : Gen σ Bool := do
  let r ← randFin 100
  pure (decide (r.1 < per))

/-- The mnemonic (`cbz` or `cbnz`) and the register of a `cbz`, if there is to be one. -/
def drawCbz {σ : Type} : Gen σ (Option (Bool × Fin 8)) := do
  let use ← percent 20
  Draw.drawIf use (do
    let nonzero ← Draw.choice [false, true]
    let reg ← randFin 7
    pure (some (nonzero.1, reg))) none

/-- `genBranch`, with its effect on the block that a `cbz` would have to reach over. -/
def genBranch (isARM isconditional forward : Bool) (offBlock : Option Label) :
    Build BranchChoice := do
  let ctx ← getSt
  let cond ← drawCond isconditional
  let allowCbz := isconditional && !(isARM || decide (ctx.nest > 0)) && forward
  let allowAdr := isARM && decide (ctx.nest < 2)
  let cbz ← Draw.drawIf allowCbz drawCbz none
  onlyIf allowCbz (limitBlock offBlock)
  let adr ← Draw.drawIf allowAdr (percent 20) false
  pure ⟨cond, cbz, adr⟩

def genLoop : Build LoopChoice := do
  let inc ← randint 1 10
  let limit ← randint 0 256
  let r1 ← randint 0 7
  remove r1.1 (List.range 8)
  let r2 ← Draw.choice ((List.range 8).erase r1.1)
  pure
    { inc := inc.1, limit := limit.1, r1 := r1.1, r2 := r2.1
      one_le_inc := inc.2.1, inc_le := inc.2.2, limit_le := limit.2.2
      r1_lt := Nat.lt_succ_of_le r1.2.2
      r2_lt := List.mem_range.1 (List.mem_of_mem_erase r2.2)
      r2_ne_r1 := (List.nodup_range.mem_erase_iff.1 r2.2).1 }

def genBX (isARM isconditional : Bool) : Build BxChoice := do
  let useBx ← coin
  let cond ← drawCond isconditional
  if useBx then
    if !isARM && isconditional then do
      let tmpLow ← randFin 14
      pure { useBx, cond, tmpReg := 0, tmpLow, pcCond := 0 }
    else do
      let tmpReg ← randFin 15
      let pcCond ← Draw.drawIf (isARM = true ∧ tmpReg = 15) (randFin 14) 0
      pure { useBx, cond, tmpReg, tmpLow := 0, pcCond }
  else pure { useBx, cond, tmpReg := 0, tmpLow := 0, pcCond := 0 }

/-- `random.choice([random.choice(arminfo.CONDCODE), ''])`. -/
def drawCallCond : Build (Option Cond) := do
  let c ← Draw.choice condcode
  let cond ← Draw.choice [some c.1, none]
  pure cond.1

def genCall (isCallerARM isCalleeARM : Bool) : Build CallChoice := do
  let useBlxReg ← coin
  if useBlxReg then do
    let tmpReg ← randFin 14
    let cond ← Draw.drawIf isCallerARM drawCallCond none
    pure { useBlxReg, tmpReg, cond }
  else do
    let cond ← Draw.drawIf (isCallerARM && isCalleeARM) drawCallCond none
    pure { useBlxReg, tmpReg := 0, cond }

/-! ## The draws of the exclusive sequence -/

/-- `arminfo.CONDCODE`, for the sequence. -/
def armCondcode : List Arm.Cond :=
  [.eq, .ne, .cs, .cc, .mi, .pl, .vs, .vc, .hi, .ls, .ge, .lt, .gt, .le]

/-- The condition of the sequence, if one is drawn. -/
def drawArmCond {σ : Type} (isconditional : Bool) : Gen σ Arm.Cond := do
  let c ← Draw.drawIf isconditional (Draw.choice armCondcode) ⟨.eq, by decide⟩
  pure c.1

/-- `code.getRandRegVal(min)`. -/
def getRandRegVal {σ : Type} (min : Reg) : Gen σ Arm.Word := do
  let v ← randint min.val (2 ^ 32 - 1)
  pure (.ofNat 32 v.1)

/-- The second register of a Thumb pair. -/
def drawLdrexPair (isARM : Bool) (size : OpSize) (l : List Reg) :
    Build { r : Reg // isARM = false → size = .d → r ∈ l } :=
  if h : isARM = false ∧ size = .d then do
    let rt2 ← Draw.choice l
    pure ⟨rt2.1, fun _ _ => rt2.2⟩
  else pure ⟨0, fun hARM hd => absurd ⟨hARM, hd⟩ h⟩

/-- `genLDREX`: the size and the rest. -/
def genLDREX (isARM isconditional : Bool) : Build ((size : OpSize) × LdrexChoice isARM size) := do
  let cond ← drawArmCond isconditional
  let rval ← randint getMemLimit.1 getMemLimit.2
  let size ← Draw.choice [.b, .h, .w, .d]
  let rn ← Draw.choice (regRange 15)
  onlyIf (isARM = true ∧ size.1 = .d) (remove 14 (regRange 15))
  onlyIf (isARM = false) (remove 13 (regRange 15))
  let reglist := ldrexRegs isARM size.1
  let rt ← Draw.choice reglist
  let rp ← Draw.choice (reglist.erase 13)
  remove rp.1 (reglist.erase 13)
  let rq ← Draw.choice ((reglist.erase 13).erase rp.1)
  let immOffset ← Draw.drawIf (isARM = false) coin false
  let imm ← Draw.drawIf (size.1 = .w ∧ immOffset = true) (randFin 255) 0
  let rt2 ← drawLdrexPair isARM size.1 (((reglist.erase 13).erase rp.1).erase rt.1)
  let rx ← Draw.choice (regRange 13)
  remove rx.1 (regRange 13)
  let ry ← Draw.choice ((regRange 13).erase rx.1)
  let rtVal ← getRandRegVal rt.1
  let rt2Val ← Draw.drawIf (size.1 = .d) (getRandRegVal (if isARM then rt.1 + 1 else rt2.1)) 0
  pure ⟨size.1,
    { cond, rval := rval.1, le_rval := rval.2.1, rval_le := rval.2.2, rn := rn.1, rn_mem := rn.2
      rt := rt.1, rt_mem := rt.2, rp := rp.1, rp_mem := rp.2, rq := rq.1, rq_mem := rq.2
      immOffset, imm, rt2 := rt2.1, rt2_mem := rt2.2
      rx := rx.1, rx_mem := rx.2, ry := ry.1, ry_mem := ry.2, rtVal, rt2Val }⟩

/-- The second register of a Thumb pair. -/
def drawStrexPair (isARM : Bool) (l : List Reg) : Build { r : Reg // isARM = false → r ∈ l } :=
  if h : isARM = true then pure ⟨0, fun hfalse => absurd (h.symm.trans hfalse) (by decide)⟩
  else do
    let rt2 ← Draw.choice l
    pure ⟨rt2.1, fun _ => rt2.2⟩

/-- The register that holds the address when the lock is overwritten. -/
def drawLockReg (reglm : List Reg) (rn : Reg) : Build { r // r ∈ reglm } :=
  if h : rn ∈ reglm then pure ⟨rn, h⟩ else Draw.choice reglm

/-- A draw whose value is not used. -/
def discardDraw {σ α : Type} (m : Gen σ α) : Gen σ Unit := do
  let _ ← m
  pure ()

/-- `genSTREX` with the size of the load. -/
def genSTREX (isARM isconditional : Bool) (size : OpSize) : Build (StrexChoice isARM size) := do
  let cond ← drawArmCond isconditional
  onlyIf (isARM = false) (remove 13 (regRange 15))
  let reglist := strexRegs isARM
  let rs ← Draw.choice reglist
  remove rs.1 reglist
  let rw ← Draw.choice (reglist.erase rs.1)
  remove rw.1 (reglist.erase rs.1)
  let rn ← Draw.choice ((reglist.erase rs.1).erase rw.1)
  remove rn.1 ((reglist.erase rs.1).erase rw.1)
  let rv ← Draw.choice (((reglist.erase rs.1).erase rw.1).erase rn.1)
  let immOffset ← coin
  let imm ← Draw.drawIf (isARM = false ∧ immOffset = true ∧ size = .w) (randFin 255) 0
  -- for an ARM access that is not a pair this is `rt` already; else it is drawn again
  onlyIf (isARM = false ∨ size = .d) (discardDraw (Draw.choice (regRange 15)))
  onlyIf (isARM = true ∧ size = .d) (remove 14 (regRange 15))
  onlyIf (isARM = false) (remove 13 (regRange 15))
  let reglist := strexTransferRegs isARM size
  let rt ← Draw.choice (strexRtRegs isARM size)
  remove rt.1 reglist
  let rt2 ← drawStrexPair isARM (reglist.erase rt.1)
  let pair := strexPair isARM rt.1 rt2.1
  let rd ← Draw.choice (((reglist.erase rt.1).erase pair).erase rn.1)
  let rz1 ← Draw.choice ((regRange 15).erase rn.1)
  remove rz1.1 ((regRange 15).erase rn.1)
  let rz2 ← Draw.choice (((regRange 15).erase rn.1).erase rz1.1)
  remove rz2.1 (((regRange 15).erase rn.1).erase rz1.1)
  let rm ← drawLockReg (regLm size rt.1 pair) rn.1
  let rtVal ← getRandRegVal rt.1
  let rt2Val ← Draw.drawIf (size = .d) (getRandRegVal pair) 0
  let rsVal ← getRandRegVal rs.1
  let rnVal ← getRandRegVal rm.1
  pure
    { cond, rs := rs.1, rs_mem := rs.2, rw := rw.1, rw_mem := rw.2, rn := rn.1, rn_mem := rn.2
      rv := rv.1, rv_mem := rv.2, immOffset, imm, rt := rt.1, rt_mem := rt.2
      rt2 := rt2.1, rt2_mem := rt2.2, rd := rd.1, rd_mem := rd.2
      rz1 := rz1.1, rz1_mem := rz1.2, rz2 := rz2.1, rz2_mem := rz2.2
      rm := rm.1, rm_mem := rm.2, rtVal, rt2Val, rsVal, rnVal }

/-! ## The ALU sequence -/

/-- The `while` loop of `gen_single_inst_with_opcode`, with `retry` rounds left. -/
def genSingleInstWithOpcode (isARM allowFix invalid : Bool) :
    (retry : ℕ) → Build (Option (List ParsedInst))
  | 0 => pure none
  | retry + 1 => do
    let output ← callRit
    match parseRIT output allowFix isARM invalid with
    | none => throw .indexError
    | some (true, inst) => pure inst
    | some (false, _) => genSingleInstWithOpcode isARM allowFix invalid retry

def sbitVal : List Char := "0123456789abcdefABCDEF".toList

def sbitMsk : List Char := "0022446688aacceeAACCEE".toList

/-- `inst_hex[:-6] + Sbit_Msk[Sbit_Val.index(inst_hex[-6])] + inst_hex[-5:]`. -/
def maskSbit (instHex : Str) : Build Str :=
  match instHex.reverse[5]? with
  | none => throw .indexError
  | some c =>
    if c ∈ sbitVal then
      pure (instHex.rdrop 6 ++ sbitMsk.getD (sbitVal.idxOf c) c :: instHex.rtake 5)
    else throw .valueError

/-- `if ret:` with the word of the last instruction, its S bit cleared. -/
def wordOfRet (ret : Option (List ParsedInst)) : Build (Option Str) :=
  match ret.bind List.getLast? with
  | none => pure none
  | some inst => do
    let instHex ← maskSbit inst.2
    pure (some instHex)

def armAluWPcAll : List String :=
  ["ADC_reg", "AND_reg", "BIC_reg", "EOR_reg", "ORR_reg", "RSB_reg", "RSC_reg", "SBC_reg",
    "ADD_reg", "SUB_reg", "ADC_imm", "AND_imm", "ADD_imm", "RSC_imm", "SBC_imm", "BIC_imm",
    "EOR_imm", "ORR_imm", "RSB_imm", "SUB_imm", "MOV_reg", "MVN_reg", "LSL_imm", "LSR_imm",
    "ASR_imm", "ROR_imm", "RRX_imm", "ADR_a1", "ADR_a2", "MOV_imm_a1", "MVN_imm"]

def thumbAluWPc : List String := ["ADD_reg_T2", "MOV_reg_T1"]

/-- `genALUwritePC`: the words of the trial and of the real instruction. -/
def genALUwritePC (maxretry : ℕ) : Build (Option Str × Option Str) := do
  let ctx ← getSt
  let _ ← randint 0 (2 ^ 32 - 1)
  let _ ← randint 0 (2 ^ 32 - 1)
  remove 15 (List.range 16)
  remove 14 ((List.range 16).erase 15)
  remove 13 (((List.range 16).erase 15).erase 14)
  let regList := (((List.range 16).erase 15).erase 14).erase 13
  let rn ← Draw.choice regList
  let rm ← Draw.choice regList
  let regList := ((regList.erase rn.1).erase rm.1).erase 13
  let ri ← Draw.choice regList
  remove ri.1 regList
  let _ ← Draw.choice (regList.erase ri.1)
  let isconditional ← coin
  let _ ← drawCond isconditional
  if ctx.isa then do
    let _ ← Draw.choice armAluWPcAll
    let ret ← genSingleInstWithOpcode true true true maxretry
    let trial ← wordOfRet ret
    let ret ← genSingleInstWithOpcode true true true maxretry
    let real ← wordOfRet ret
    pure (trial, real)
  else do
    let _ ← Draw.choice thumbAluWPc
    pure (none, none)

/-! ## `getRBlock` and `makeRandomBlock` -/

inductive RBType
  | basic | byPass | hammock | loop | irLoop | interwork | callRet | exclusive | aluWritePC
  deriving DecidableEq, Repr

/-- The list that `getRBlock` chooses from at a level above 0. -/
def classes (o : Shape.Options) : List RBType :=
  [.basic, .byPass, .hammock, .loop, .irLoop, .interwork, .callRet] ++
    (if o.exclBlock then [.exclusive] else []) ++ if o.aluwpcBlock then [.aluWritePC] else []

def getRBlock (o : Shape.Options) (nest : ℤ) : Build RBType :=
  if 0 < nest then do
    onlyIf (3 < nest) (remove .basic (classes o))
    let rb := if 3 < nest then ((classes o).erase .basic).erase .exclusive else classes o
    let rval ← Draw.choice rb
    let keep ← Draw.drawIf (rval.1 = .exclusive ∨ rval.1 = .aluWritePC) (percent 30) true
    pure (if keep then rval.1 else .basic)
  else pure .basic

/-- `makeRandomBlock` on a block of the given class and label. -/
def makeRandomBlock (o : Shape.Options) (maxretry : ℕ) : ℕ → RBType → Label → Build Shape
  | 0, _, _ => throw .recursionError
  | _ + 1, .basic, l => do
    register l
    pure .basic
  | depth + 1, .byPass, l => do
    let ctx ← getSt
    let nest := ctx.nest - 1
    let b1 ← getRBlock o nest
    let b2 ← getRBlock o nest
    let b3 ← getRBlock o nest
    setNest nest
    let b1 ← makeRandomBlock o maxretry depth b1 (.b1 :: l)
    let b2 ← makeRandomBlock o maxretry depth b2 (.b2 :: l)
    let b3 ← makeRandomBlock o maxretry depth b3 (.b3 :: l)
    let ctx ← getSt
    let br ← genBranch ctx.isa true true (some (.b2 :: l))
    setNest (nest + 1)
    pure (.byPass br b1 b2 b3)
  | depth + 1, .hammock, l => do
    let ctx ← getSt
    let nest := ctx.nest - 1
    let h1 ← getRBlock o nest
    let h2 ← getRBlock o nest
    let h3 ← getRBlock o nest
    let h4 ← getRBlock o nest
    setNest nest
    let h1 ← makeRandomBlock o maxretry depth h1 (.h1 :: l)
    let h2 ← makeRandomBlock o maxretry depth h2 (.h2 :: l)
    let h3 ← makeRandomBlock o maxretry depth h3 (.h3 :: l)
    let h4 ← makeRandomBlock o maxretry depth h4 (.h4 :: l)
    let ctx ← getSt
    let br3 ← genBranch ctx.isa true true (some (.h2 :: l))
    let br4 ← genBranch ctx.isa false true (some (.h3 :: l))
    setNest (nest + 1)
    pure (.hammock br3 br4 h1 h2 h3 h4)
  | depth + 1, .loop, l => do
    let ctx ← getSt
    let nest := ctx.nest - 1
    let l1 ← getRBlock o nest
    setNest nest
    let l1 ← makeRandomBlock o maxretry depth l1 (.l1 :: l)
    let lp ← genLoop
    setNest (nest + 1)
    pure (.loop lp l1)
  | depth + 1, .irLoop, l => do
    let ctx ← getSt
    let nest := ctx.nest - 1
    let ir1 ← getRBlock o nest
    let ir2 ← getRBlock o nest
    let ir3 ← getRBlock o nest
    setNest nest
    let ir1 ← makeRandomBlock o maxretry depth ir1 (.ir1 :: l)
    let ir2 ← makeRandomBlock o maxretry depth ir2 (.ir2 :: l)
    let ir3 ← makeRandomBlock o maxretry depth ir3 (.ir3 :: l)
    let lp ← genLoop
    let ctx ← getSt
    let br ← genBranch ctx.isa true false (some (.ir2 :: l))
    setNest (nest + 1)
    pure (.irLoop lp br ir1 ir2 ir3)
  | depth + 1, .interwork, l => do
    let ctx ← getSt
    let nest := ctx.nest - 1
    let iw1 ← getRBlock o nest
    let iw2 ← getRBlock o nest
    let iw3 ← getRBlock o nest
    setNest nest
    let iw1 ← makeRandomBlock o maxretry depth iw1 (.iw1 :: l)
    flipIsa
    let iw2 ← makeRandomBlock o maxretry depth iw2 (.iw2 :: l)
    flipIsa
    let iw3 ← makeRandomBlock o maxretry depth iw3 (.iw3 :: l)
    let condBx ← coin
    let iwFollowed ← coin
    let ctx ← getSt
    let inIsa := ctx.isa
    let bx1 ← genBX inIsa condBx
    let bx2 ← genBX (!inIsa) condBx
    let bx3 ← genBX (!inIsa) false
    let br ← genBranch inIsa false false none
    setNest (nest + 1)
    pure (.interwork condBx iwFollowed bx1 bx2 bx3 br iw1 iw2 iw3)
  | depth + 1, .callRet, l => do
    let ctx ← getSt
    let nest := ctx.nest - 1
    let c1 ← getRBlock o nest
    let c2 ← getRBlock o nest
    let c3 ← getRBlock o nest
    setNest nest
    let iwcall ← coin
    let calleeFollowed ← coin
    let beginWithCall ← coin
    let callerIsa := ctx.isa
    let calleeIsa := if iwcall then !callerIsa else callerIsa
    let call ← genCall callerIsa calleeIsa
    let c1 ← makeRandomBlock o maxretry depth c1 (.c1 :: l)
    onlyIf iwcall flipIsa
    let pre ← randFin 7
    let post ← randFin 7
    let c2 ← makeRandomBlock o maxretry depth c2 (.c2 :: l)
    onlyIf iwcall flipIsa
    let c3 ← makeRandomBlock o maxretry depth c3 (.c3 :: l)
    setNest (nest + 1)
    let br ← genBranch callerIsa false false none
    pure (.callRet iwcall calleeFollowed beginWithCall call pre post br c1 c2 c3)
  | depth + 1, .exclusive, l => do
    let condcode ← coin
    let ctx ← getSt
    let nest := ctx.nest - 1
    let e1 ← getRBlock o nest
    let e2 ← getRBlock o nest
    setNest nest
    let e1 ← makeRandomBlock o maxretry depth e1 (.e1 :: l)
    let ctx ← getSt
    let ldrex ← genLDREX ctx.isa condcode
    let _ ← genSTREX ctx.isa condcode ldrex.1
    let e2 ← makeRandomBlock o maxretry depth e2 (.e2 :: l)
    setNest (nest + 1)
    pure (.exclusive e1 e2)
  | depth + 1, .aluWritePC, l => do
    let ctx ← getSt
    let nest := ctx.nest - 1
    let preB ← getRBlock o nest
    let postB ← getRBlock o nest
    setNest nest
    let preB ← makeRandomBlock o maxretry depth preB (.aluwpc1 :: l)
    let _ ← genALUwritePC maxretry
    let postB ← makeRandomBlock o maxretry depth postB (.aluwpc2 :: l)
    setNest (nest + 1)
    pure (.aluWritePC preB postB)

/-- A basic block is only registered. -/
lemma makeRandomBlock_basic (o : Shape.Options) (maxretry depth : ℕ) (l : Label) :
    makeRandomBlock o maxretry (depth + 1) .basic l = (do register l; pure .basic) := by
  rw [makeRandomBlock]

/-- The block that `genTest` builds: `getInitContext`, `getRBlock` and `makeRandomBlock`. -/
def genTest (o : Shape.Options) (maxretry : ℕ) (depth : ℕ) : Build Shape := do
  let ctx ← getSt
  let cls ← getRBlock o ctx.nest
  makeRandomBlock o maxretry depth cls []

/-- `getInitContext`, and the texts that the library will return. -/
def initContext (nest : ℤ) (rit : ℕ → Str) : BuildCtx := { nest, isa := true, bb := ∅, rit }

/-- The range that `getBlockLimit` passes to `random.randint`. -/
def blockLimitRange (num instrLimit : ℕ) (bb : BlockDict) (label : Label) : ℕ × ℕ :=
  let bbNum := bb.keys.length
  let minVal := if bbNum < 10 then num / bbNum else 10
  let maxVal := if bbNum < 10 then instrLimit + minVal else instrLimit / 2 + minVal
  (minVal, ((bb.lookup label).bind id).getD maxVal)

end Build

end Rit.Art
