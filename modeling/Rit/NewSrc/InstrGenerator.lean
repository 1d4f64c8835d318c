import Rit.NewSrc.RandomInstrGen

/-!
# `InstrGenerator`: parameters and the entry point

`single_instr_gen` resets the globals, parses a list of parameters and generates one
instruction.  A parameter is an option together with a C `long` or a string.
-/

namespace Rit

open GenState

/-! ## Initialisation -/

/-- `opkind_names`, in the order of the kinds. -/
def opkindNames : List String :=
  ["NO_OP", "EMPTY_OP", "ALU_OP", "LOG_OP", "MOV_OP", "CMP_OP", "TEST_OP", "EXT_OP", "LD_OP",
    "ST_OP", "LDM_OP", "STM_OP", "PUSH_OP", "POP_OP", "JMP_OP", "UMUL_OP", "MUL32_OP", "SMUL_OP",
    "SMULD_OP", "BYTE_ALU_OP", "S_BYTE_ALU_OP", "BF_OP", "REVERSE_OP", "SSAT_OP", "SR_OP",
    "LDREX_OP", "STREX_OP", "MISC_OP", "COPR_OP", "VFP_OP", "SYS_OP", "SIMD_OP", "LAST_OP",
    "PSEUDO_OP"]

/-- The comma-separated pieces of a string, as the scan of `update_opkind_str` visits them: a
trailing empty piece is not visited. -/
def opkindTokens : List Char → List (List Char)
  | [] => []
  | c :: cs =>
    let rest := cs.dropWhile (· ≠ ',')
    if c = ',' then [] :: opkindTokens cs
    else (c :: cs.takeWhile (· ≠ ',')) :: opkindTokens rest.tail
  termination_by l => l.length
  decreasing_by
    · simp
    · have := (List.dropWhile_suffix (l := cs) (· ≠ ',')).length_le
      simp only [List.length_tail, List.length_cons]
      omega

/-- `update_opkind_str`.  The comparison is `strncmp` over the length of the piece, so a piece
enables every kind whose name it begins. -/
def updateOpkindStr (str : String) (s : GenState) : GenState :=
  let tokens := opkindTokens str.toList
  { s with opkindList := fun i =>
      if i < opkindNames.length then
        tokens.any fun t => t.isPrefixOf (opkindNames.getD i "").toList
      else s.opkindList i }

/-- The kinds `init_env_val` enables. -/
def defaultOpkinds : String :=
  "EMPTY_OP,ALU_OP,LOG_OP,MOV_OP,CMP_OP,TEST_OP,EXT_OP,LD_OP,ST_OP,LDM_OP,STM_OP,PUSH_OP,POP_OP," ++
  "UMUL_OP,MUL32_OP,SMUL_OP,SMULD_OP,BYTE_ALU_OP,S_BYTE_ALU_OP,BF_OP,REVERSE_OP,SSAT_OP,SR_OP," ++
  "MISC_OP"

/-- The options `init_env_val` sets. -/
def initOptions : GenOption where
  isa := .rand
  archVersion := 7
  opcode := none
  sbitVal := .rand
  condVal := COND_RAND
  srcRegs := fun _ => R_RAND
  dstRegs := fun _ => R_RAND
  srcFpRegsExt := fun _ => FP_REG_RAND
  dstFpRegsExt := fun _ => FP_REG_RAND
  fpSzQBit := FP_REG_RAND
  regsList := 0
  immVal := 0
  shiftRotateReg := R_RAND
  shiftImmVal := 0
  shiftRotateType := SH_TYPE_RAND
  memBaseVal := 0x03fc0000
  memBaseMask := 0xfffc0000
  memOffsetVal := 0x00000fff
  optStatus := 0

/-- All-zero options, what `memset` leaves in `shadow_options`. -/
def zeroOptions : GenOption where
  isa := .armv5
  archVersion := 0
  opcode := none
  sbitVal := .unset
  condVal := 0
  srcRegs := fun _ => 0
  dstRegs := fun _ => 0
  srcFpRegsExt := fun _ => 0
  dstFpRegsExt := fun _ => 0
  fpSzQBit := 0
  regsList := 0
  immVal := 0
  shiftRotateReg := 0
  shiftImmVal := 0
  shiftRotateType := 0
  memBaseVal := 0
  memBaseMask := 0
  memOffsetVal := 0
  optStatus := 0

/-- The globals as the program starts with them: zero.  `rand` is what `rand()` will return and
`junk` what unassigned locals will hold. -/
def staticState (rand : ℕ → BitVec 31) (junk : ℕ → Word) : GenState where
  options := zeroOptions
  shadowOptions := zeroOptions
  isRegInit := fun _ => false
  regInitVals := fun _ => 0
  instrBuf := []
  initInstrBuf := []
  instrFixedBit := 0
  curFixedBit := 0
  isSetFixedBit := false
  isOprandInit := false
  isRegBitCut := false
  rawInstr := 0
  printBuf := []
  sregIdx := 0
  dregIdx := 0
  fpSregExtIdx := 0
  fpDregExtIdx := 0
  opkindList := fun _ => false
  randStream := rand
  uninit := junk

def initEnvVal (s : GenState) : GenState :=
  updateOpkindStr defaultOpkinds
    { s with
      rawInstr := 0, instrFixedBit := 0, curFixedBit := 0, isSetFixedBit := false
      isRegBitCut := false, sregIdx := 0, dregIdx := 0, fpSregExtIdx := 0, fpDregExtIdx := 0
      isOprandInit := false, instrBuf := [], initInstrBuf := [], isRegInit := fun _ => false
      regInitVals := fun _ => 0, printBuf := [], options := initOptions
      shadowOptions := zeroOptions }

/-! ## Parameters -/

/-- `(uint32_t)v`. -/
def wordOfLong (v : Int) : Word := BitVec.ofInt 32 v

/-- A value outside `0 .. rand` becomes the sentinel `rand`. -/
def clampLong (rand : ℕ) (v : Int) : Word :=
  if v < 0 ∨ v > rand then .ofNat 32 rand else wordOfLong v

/-- `options = upd(options)` and `SET_OPT_STAT(k)`. -/
def setOption (k : OptionKind) (upd : GenOption → GenOption) (s : GenState) : GenState :=
  { s with options := (upd s.options).setOptStat k }

/-- `parse_long_para`; `none` is the failure return.  `seeded` is the stream that `srand` of a
seed gives. -/
def parseLongPara (seeded : Int → ℕ → BitVec 31) (k : OptionKind) (v : Int) (s : GenState) :
    Option GenState :=
  match k with
  | .isa => some (setOption k (fun o => { o with isa := isaOfIdx (clampLong 4 v) }) s)
  | .archVersion =>
    some (setOption k (fun o => { o with archVersion := if v ≤ 0 then 5 else wordOfLong v }) s)
  | .sbit => some (setOption k (fun o => { o with sbitVal := sbitOfIdx (clampLong 2 v) }) s)
  | .cond => some (setOption k (fun o => { o with condVal := clampLong 15 v }) s)
  | .sreg =>
    if s.sregIdx ≥ MAX_REG_NUM then some s
    else some (setOption k (fun o =>
        { o with srcRegs := setEntry o.srcRegs s.sregIdx (clampLong 16 v) })
      { s with sregIdx := s.sregIdx + 1 })
  | .dreg =>
    if s.dregIdx ≥ MAX_REG_NUM then some s
    else some (setOption k (fun o =>
        { o with dstRegs := setEntry o.dstRegs s.dregIdx (clampLong 16 v) })
      { s with dregIdx := s.dregIdx + 1 })
  | .fpSzQExt => some (setOption k (fun o => { o with fpSzQBit := clampLong 2 v }) s)
  | .regsList => some (setOption k (fun o => { o with regsList := wordOfLong v &&& 0xffff }) s)
  | .fpSregExt =>
    if s.fpSregExtIdx ≥ MAX_REG_NUM then some s
    else some (setOption k (fun o =>
        { o with srcFpRegsExt := setEntry o.srcFpRegsExt s.fpSregExtIdx (clampLong 2 v) })
      { s with fpSregExtIdx := s.fpSregExtIdx + 1 })
  | .fpDregExt =>
    if s.fpDregExtIdx ≥ MAX_REG_NUM then some s
    else some (setOption k (fun o =>
        { o with dstFpRegsExt := setEntry o.dstFpRegsExt s.fpDregExtIdx (clampLong 2 v) })
      { s with fpDregExtIdx := s.fpDregExtIdx + 1 })
  | .imm => some (setOption k (fun o => { o with immVal := wordOfLong v }) s)
  | .shrtReg => some (setOption k (fun o => { o with shiftRotateReg := clampLong 16 v }) s)
  | .shImm => some (setOption k (fun o => { o with shiftImmVal := wordOfLong v }) s)
  | .shrtType => some (setOption k (fun o => { o with shiftRotateType := clampLong 4 v }) s)
  | .memBaseVal => some (setOption k (fun o => { o with memBaseVal := wordOfLong v }) s)
  | .memBaseMsk => some (setOption k (fun o => { o with memBaseMask := wordOfLong v }) s)
  | .memOffsetVal => some (setOption k (fun o => { o with memOffsetVal := wordOfLong v }) s)
  | .allowUnalignMem | .allowAllInstr | .allowBiasOpnd | .allowBiasReg | .notAllowFixMem
  | .notAllowRelax | .verbose => if v = 0 then some s else some (setOption k id s)
  | .instrBinInit => some (setOption k id (s.setRawInstr (wordOfLong v)))
  | .randSeed => some (setOption k id { s with randStream := seeded v })
  | .opKind | .opcode => none

def parseStringPara (k : OptionKind) (str : String) (s : GenState) : Option GenState :=
  match k with
  | .opKind => some (setOption k id (updateOpkindStr str s))
  | .opcode => some (setOption k (fun o => { o with opcode := some str }) s)
  | _ => none

/-- A parameter value as the Python caller passes it. -/
inductive ParaVal
  | long (v : Int)
  | str (v : String)
  deriving DecidableEq, Repr

/-- The loop over the parameter list; `none` when a parameter is refused. -/
def parseParas (seeded : Int → ℕ → BitVec 31) : List (OptionKind × ParaVal) → GenState →
    Option GenState
  | [], s => some s
  | (k, .long v) :: ps, s => (parseLongPara seeded k v s).bind (parseParas seeded ps)
  | (k, .str v) :: ps, s => (parseStringPara k v s).bind (parseParas seeded ps)

/-- `single_instr_gen_py`: the status and the state whose `curFixedBit`, `rawInstr` and
`printBuf` are returned. -/
def singleInstrGen (seeded : Int → ℕ → BitVec 31) (timeStream : ℕ → BitVec 31)
    (ps : List (OptionKind × ParaVal)) (s : GenState) : Option (InstrStatus × GenState) :=
  (parseParas seeded ps (initEnvVal s)).map (genRandomInstr timeStream)

end Rit
