import Rit.NewSrc.GenHelper

/-!
# `GenThumb32Instr`: the 32-bit Thumb generators

These generators read their registers at fixed bit positions instead of through the operand
slots of the row.  The `case` lists of the source's `switch` statements are named lists; every
label that goes straight to `UNSUPPORTED` falls through to the last branch.
-/

namespace Rit

open GenState

def badReg (n : Word) : Prop := n = R_SP ∨ n = R_PC

instance (n : Word) : Decidable (badReg n) := inferInstanceAs (Decidable (_ ∨ _))

/-! ## Data processing (shifted register) -/

def genThumb32DataShiftedReg (op : Opcode) (instr : Word) : InstrStatus :=
  let S := getBitValue instr 20
  let T := getBitValue instr 4
  let n := getBitsValue instr 16 19
  let d := getBitsValue instr 8 11
  let m := getBitsValue instr 0 3
  let status := .valid
  if op ∈ [Op.AND_reg_T2, Op.EOR_reg_T2] then
    let status := if S ≠ 0 ∧ d = R_PC then .alias else status
    if d = R_SP ∨ (d = R_PC ∧ S = 0) ∨ badReg n ∨ badReg m then .unpredictable else status
  else if op ∈ [Op.TST_reg_T2, Op.TEQ_reg_T1] then
    if badReg n ∨ badReg m then .unpredictable else status
  else if op = Op.MVN_reg_T2 then
    if badReg d ∨ badReg m then .unpredictable else status
  else if op ∈ [Op.BIC_reg_T2, Op.ADC_reg_T2, Op.SBC_reg_T2, Op.RSB_reg_T1] then
    if badReg d ∨ badReg n ∨ badReg m then .unpredictable else status
  else if op ∈ [Op.ORR_reg_T2, Op.ORN_reg_T1] then
    let status := if n = R_PC then .alias else status
    if badReg d ∨ n = R_SP ∨ badReg m then .unpredictable else status
  else if op = Op.PKH_reg_T1 then
    let status := if S = 1 ∨ T = 1 then .undefined else status
    if badReg d ∨ badReg n ∨ badReg m then .unpredictable else status
  else if op ∈ [Op.ADD_reg_T3, Op.SUB_reg_T2] then
    let status := if (S ≠ 0 ∧ d = R_PC) ∨ n = R_SP then .alias else status
    if d = R_SP ∨ (d = R_PC ∧ S = 0) ∨ n = R_PC ∨ badReg m then .unpredictable else status
  else if op ∈ [Op.CMN_reg_T2, Op.CMP_reg_T3] then
    if n = R_PC ∨ badReg m then .unpredictable else status
  else if op = Op.MOV_reg_T3 then
    let status := if S ≠ 0 ∧ (badReg d ∨ badReg m) then .unpredictable else status
    if S = 0 ∧ (d = R_PC ∨ m = R_PC ∨ (d = R_SP ∧ m = R_SP)) then .unpredictable else status
  else if op ∈ [Op.LSL_imm_T2, Op.LSR_imm_T2, Op.ASR_imm_T2, Op.ROR_imm_T2, Op.RRX_T1] then
    if badReg d ∨ badReg m then .unpredictable else status
  else .unsupported

/-! ## Data processing (modified immediate) -/

def genThumb32DataMimm (op : Opcode) (instr : Word) : InstrStatus :=
  let S := getBitValue instr 20
  let n := getBitsValue instr 16 19
  let d := getBitsValue instr 8 11
  let i := getBitValue instr 26
  let imm3 := getBitsValue instr 12 14
  let imm8 := getBitsValue instr 0 7
  let status := .valid
  let status := if i = 0 ∧ imm8 = 0 ∧ imm3 > 0 ∧ imm3 < 4 then .unpredictable else status
  if op ∈ [Op.AND_imm_T1, Op.EOR_imm_T1] then
    let status := if S ≠ 0 ∧ d = R_PC then .alias else status
    if d = R_SP ∨ (d = R_PC ∧ S = 0) ∨ badReg n then .unpredictable else status
  else if op ∈ [Op.ADD_imm_T3, Op.SUB_imm_T3] then
    let status := if n = R_SP ∨ (S ≠ 0 ∧ d = R_PC) then .alias else status
    if d = R_SP ∨ (d = R_PC ∧ S = 0) ∨ n = R_PC then .unpredictable else status
  else if op ∈ [Op.ADD_sp_imm_T3, Op.SUB_sp_imm_T2] then
    let status := if S ≠ 0 ∧ d = R_PC then .alias else status
    if d = R_PC ∧ S = 0 then .unpredictable else status
  else if op ∈ [Op.TST_imm_T1, Op.TEQ_imm_T1] then
    if badReg n then .unpredictable else status
  else if op ∈ [Op.BIC_imm_T1, Op.ADC_imm_T1, Op.SBC_imm_T1, Op.RSB_imm_T2] then
    if badReg d ∨ badReg n then .unpredictable else status
  else if op ∈ [Op.ORR_imm_T1, Op.ORN_imm_T1] then
    if badReg d ∨ n = R_SP then .unpredictable else status
  else if op ∈ [Op.MOV_imm_T2, Op.MVN_imm_T1] then
    if badReg d then .unpredictable else status
  else if op ∈ [Op.CMN_imm_T1, Op.CMP_imm_T2] then
    if n = R_PC then .unpredictable else status
  else .unsupported

/-! ## Data processing (plain immediate) -/

def genThumb32DataPimm (op : Opcode) (instr : Word) : InstrStatus :=
  let n := getBitsValue instr 16 19
  let d := getBitsValue instr 8 11
  let imm1 := getBitsValue instr 0 4
  let imm2 := getBitsValue instr 6 7 + shl (getBitsValue instr 12 14) 2
  let status := .valid
  if op ∈ [Op.ADR_T3, Op.ADR_T2, Op.MOV_imm_T3, Op.MOVT_T1] then
    if badReg d then .unpredictable else status
  else if op ∈ [Op.ADD_imm_T4, Op.SUB_imm_T4] then
    let status := if n = R_SP ∨ n = R_PC then .alias else status
    if badReg d then .unpredictable else status
  else if op ∈ [Op.ADD_sp_imm_T4, Op.SUB_sp_imm_T3] then
    if d = R_PC then .unpredictable else status
  else if op ∈ [Op.SSAT_T1, Op.USAT_T1] then
    let imm1 := getBitsValue instr 6 7
    let imm2 := getBitsValue instr 12 14
    let status := if getBitValue instr 21 ≠ 0 ∧ imm1 = 0 ∧ imm2 = 0 then .alias else status
    if badReg d ∨ badReg n then .unpredictable else status
  else if op ∈ [Op.SSAT16_T1, Op.USAT16_T1] then
    if badReg d ∨ badReg n then .unpredictable else status
  else if op ∈ [Op.BFI_T1, Op.BFC_T1] then
    let status := if badReg d ∨ n = R_SP then .unpredictable else status
    if imm1 < imm2 then .unpredictable else status
  else if op ∈ [Op.SBFX_T1, Op.UBFX_T1] then
    let status := if badReg d ∨ badReg n then .unpredictable else status
    if imm1 + imm2 > 31 then .unpredictable else status
  else .unsupported

/-! ## Data processing (register), parallel, miscellaneous -/

def genThumb32DataReg (op : Opcode) (instr : Word) : InstrStatus :=
  let d := getBitsValue instr 8 11
  let m := getBitsValue instr 0 3
  let n := getBitsValue instr 16 19
  let status := .valid
  if op ∈ [Op.LSL_reg_T2, Op.LSR_reg_T2, Op.ASR_reg_T2, Op.ROR_reg_T2] then
    if badReg d ∨ badReg n ∨ badReg m then .unpredictable else status
  else if op ∈ [Op.SXTAH_T1, Op.UXTAH_T1, Op.SXTAB16_T1, Op.UXTAB16_T1, Op.SXTAB_T1,
      Op.UXTAB_T1] then
    let status := if n = R_PC then .alias else status
    if badReg d ∨ n = R_SP ∨ badReg m then .unpredictable else status
  else if badReg d ∨ badReg m then .unpredictable else status

def genThumb32DataParallel (instr : Word) : InstrStatus :=
  let n := getBitsValue instr 16 19
  let d := getBitsValue instr 8 11
  let m := getBitsValue instr 0 3
  if badReg d ∨ badReg n ∨ badReg m then .unpredictable else .valid

/-- `gen_thumb32_data_misc`.  The operand is encoded twice; the second copy is made equal to
the first. -/
def genThumb32DataMisc (s : GenState) : InstrStatus × GenState :=
  let d := getBitsValue s.rawInstr 8 11
  let m := getBitsValue s.rawInstr 0 3
  (if badReg d ∨ badReg m then .unpredictable else .valid,
    s.setRawInstr (setInstr s.rawInstr 16 19 m))

/-! ## Multiplication -/

def genThumb32DataMul (op : Opcode) (instr : Word) : InstrStatus :=
  let m := getBitsValue instr 0 3
  let d := getBitsValue instr 8 11
  let a := getBitsValue instr 12 15
  let n := getBitsValue instr 16 19
  let status := .valid
  if op ∈ [Op.MLA_T1, Op.SMLABB_T1, Op.SMLAD_T1, Op.SMLAWB_T1, Op.SMLSD_T1, Op.SMMLA_T1,
      Op.USADA8_T1] then
    let status := if a = R_PC then .alias else status
    if badReg d ∨ badReg n ∨ badReg m ∨ a = R_SP then .unpredictable else status
  else if op ∈ [Op.MUL_T2, Op.SMULBB_T1, Op.SMUAD_T1, Op.SMULWB_T1, Op.SMUSD_T1, Op.SMMUL_T1,
      Op.USAD8_T1] then
    if badReg d ∨ badReg n ∨ badReg m then .unpredictable else status
  else if op ∈ [Op.MLS_T1, Op.SMMLS_T1] then
    if badReg d ∨ badReg n ∨ badReg m ∨ badReg a then .unpredictable else status
  else if op ∈ [Op.SMULL_T1, Op.UMULL_T1, Op.SMLAL_T1, Op.SMLALBB_T1, Op.SMLALD_T1,
      Op.SMLSLD_T1, Op.UMLAL_T1, Op.UMAAL_T1] then
    let status := if badReg d ∨ badReg n ∨ badReg m ∨ badReg a then .unpredictable else status
    if d = a then .unpredictable else status
  else .unsupported

/-! ## Memory -/

/-- The prelude the memory generators end with: `fix_mem_base` in memory-fix mode, otherwise
`gen_pre_instr_for_mem_base`. -/
def thumb32Base (n : Word) (forceAlign : Bool) (s : GenState) : GenState :=
  if ¬ s.optStat .notAllowFixMem then fixMemBase n forceAlign s
  else (genPreInstrForMemBase n s).2

/-- The status of a multiple access. -/
def thumb32MultiMemStatus (op : Opcode) (instr : Word) : InstrStatus :=
  let n := getBitsValue instr 16 19
  let status := .valid
  let status := if n = R_PC ∨ bitCount (instr &&& 0xffff) < 2 then .unpredictable else status
  let status := if getBitValue instr 21 ≠ 0 ∧ getBitValue instr n.toNat ≠ 0 then .unpredictable
    else status
  if op ∈ [Op.LDM_T2, Op.LDMDB_T1, Op.POP_T2] then
    let P := getBitValue instr 15
    let M := getBitValue instr 14
    let status := if P ≠ 0 ∧ M ≠ 0 then .unpredictable else status
    -- LoadWritePC
    if P ≠ 0 then .unsupported else status
  else status

def genThumb32MultiMem (op : Opcode) (s : GenState) : InstrStatus × GenState :=
  (thumb32MultiMemStatus op s.rawInstr, thumb32Base (getBitsValue s.rawInstr 16 19) true s)

/-- The checks on the `P`, `U`, `W` bits (10, 9, 8) shared by the encodings that have them. -/
def puwStatus (instr : Word) (status : InstrStatus) : InstrStatus :=
  let P := getBitValue instr 10
  let U := getBitValue instr 9
  let W := getBitValue instr 8
  let status := if P ≠ 0 ∧ U ≠ 0 ∧ W = 0 then .alias else status
  if P = 0 ∧ W = 0 then .undefined else status

/-- The status of an immediate-offset load. -/
def thumb32LdImmStatus (op : Opcode) (instr : Word) : InstrStatus :=
  let n := getBitsValue instr 16 19
  let t := getBitsValue instr 12 15
  let status := .valid
  -- literal or LoadWritePC
  let status := if n = R_PC ∨ t = R_PC then .unsupported else status
  if op = Op.LDR_imm_T3 then status
  else if op = Op.LDR_imm_T4 then
    let status := puwStatus instr status
    if getBitValue instr 8 ≠ 0 ∧ n = t then .unpredictable else status
  else if op ∈ [Op.LDRB_imm_T2, Op.LDRH_imm_T2, Op.LDRSB_imm_T1, Op.LDRSH_imm_T1] then
    let status := if t = R_PC then .alias else status
    if t = R_SP then .unpredictable else status
  else if op ∈ [Op.LDRB_imm_T3, Op.LDRH_imm_T3, Op.LDRSB_imm_T2, Op.LDRSH_imm_T2] then
    let status := puwStatus instr status
    let status := if getBitValue instr 8 ≠ 0 ∧ n = t then .unpredictable else status
    if t = R_SP then .unpredictable else status
  else if op = Op.POP_T3 then if t = R_SP then .unpredictable else status
  else if op ∈ [Op.LDRT_T1, Op.LDRBT_T1, Op.LDRHT_T1, Op.LDRSBT_T1, Op.LDRSHT_T1] then
    if badReg t then .unpredictable else status
  else if op = Op.LDRD_imm_T1 then
    let P := getBitValue instr 24
    let W := getBitValue instr 21
    let t2 := getBitsValue instr 8 11
    let status := if P = 0 ∧ W = 0 then .alias else status
    let status := if W ≠ 0 ∧ (n = t ∨ n = t2) then .unpredictable else status
    if badReg t ∨ badReg t2 ∨ t = t2 then .unpredictable else status
  else status

def genThumb32LdImm (op : Opcode) (s : GenState) : InstrStatus × GenState :=
  (thumb32LdImmStatus op s.rawInstr,
    thumb32Base (getBitsValue s.rawInstr 16 19) (op = Op.LDRD_imm_T1) s)

/-- The status of a register-offset access. -/
def thumb32MemRegStatus (op : Opcode) (instr : Word) : InstrStatus :=
  let n := getBitsValue instr 16 19
  let t := getBitsValue instr 12 15
  let m := getBitsValue instr 0 3
  let status := .valid
  let status := if n = R_PC then .alias else status
  -- pc as dst or base == offset
  let status := if t = R_PC ∨ n = m then .unsupported else status
  let status := if badReg m then .unpredictable else status
  if op ≠ Op.LDR_reg_T2 ∧ op ≠ Op.STR_reg_T2 ∧ t = R_SP then .unpredictable else status

def genThumb32MemReg (op : Opcode) (s : GenState) : InstrStatus × GenState :=
  let instr := s.rawInstr
  let m := getBitsValue instr 0 3
  let s := thumb32Base (getBitsValue instr 16 19) false s
  let (res, s) := getRandMemOffset 0 (getBitsValue instr 4 5) s
  (thumb32MemRegStatus op instr, s.insertInstrs [.inst (.ldrW m res.1)])

def genThumb32MemLit (op : Opcode) (instr : Word) : InstrStatus :=
  let t := getBitsValue instr 12 15
  let t2 := getBitsValue instr 8 11
  if op = Op.LDR_lit_T2 then if t = R_PC then .unsupported else .valid
  else if op = Op.LDRD_lit_T1 then
    let status := if instr &&& 0x01200000 = 0 then .alias else .valid
    if badReg t ∨ badReg t2 ∨ t = t2 then .unpredictable else status
  else if badReg t then .unpredictable else .valid

/-- The status of an immediate-offset store. -/
def thumb32StImmStatus (op : Opcode) (instr : Word) : InstrStatus :=
  let n := getBitsValue instr 16 19
  let t := getBitsValue instr 12 15
  let status := .valid
  let status := if n = R_PC then .undefined else status
  let status := if t = R_PC then .unpredictable else status
  if op = Op.STR_imm_T3 then status
  else if op = Op.STR_imm_T4 then
    let status := puwStatus instr status
    if getBitValue instr 8 ≠ 0 ∧ n = t then .unpredictable else status
  else if op ∈ [Op.STRB_imm_T3, Op.STRH_imm_T3] then
    let status := puwStatus instr status
    if badReg t ∨ (getBitValue instr 8 ≠ 0 ∧ n = t) then .unpredictable else status
  else if op ∈ [Op.STRB_imm_T2, Op.STRH_imm_T2, Op.STRT_T1, Op.STRBT_T1, Op.STRHT_T1,
      Op.PUSH_T3] then
    if badReg t then .unpredictable else status
  else if op = Op.STRD_imm_T1 then
    let P := getBitValue instr 24
    let W := getBitValue instr 21
    let t2 := getBitsValue instr 8 11
    let status := if P = 0 ∧ W = 0 then .alias else status
    let status := if W ≠ 0 ∧ (n = t ∨ n = t2) then .unpredictable else status
    if n = R_PC ∨ badReg t ∨ badReg t2 then .unpredictable else status
  else status

def genThumb32StImm (op : Opcode) (s : GenState) : InstrStatus × GenState :=
  (thumb32StImmStatus op s.rawInstr,
    thumb32Base (getBitsValue s.rawInstr 16 19) (op = Op.STRD_imm_T1) s)

/-- The status of an exclusive access.  `STREX` has its status register at bits 8 to 11, the
other exclusive stores at bits 0 to 3. -/
def thumb32MemExStatus (op : Opcode) (instr : Word) : InstrStatus :=
  let t := getBitsValue instr 12 15
  let n := getBitsValue instr 16 19
  let t2 := getBitsValue instr 8 11
  let d := getBitsValue instr 0 3
  let status := .valid
  if op = Op.LDREXD_T1 then
    if badReg t ∨ badReg t2 ∨ t = t2 ∨ n = R_PC then .unpredictable else status
  else if op ∈ [Op.LDREX_T1, Op.LDREXB_T1, Op.LDREXH_T1] then
    if badReg t ∨ n = R_PC then .unpredictable else status
  else if op = Op.STREX_T1 then
    let d := getBitsValue instr 8 11
    let status := if badReg d ∨ badReg t ∨ n = R_PC then .unpredictable else status
    if d = n ∨ d = t then .unpredictable else status
  else if op ∈ [Op.STREXB_T1, Op.STREXH_T1] then
    let status := if badReg d ∨ badReg t ∨ n = R_PC then .unpredictable else status
    if d = n ∨ d = t then .unpredictable else status
  else if op = Op.STREXD_T1 then
    let status := if badReg d ∨ badReg t ∨ badReg t2 ∨ n = R_PC then .unpredictable else status
    if d = n ∨ d = t ∨ d = t2 then .unpredictable else status
  else .unsupported

def genThumb32MemEx (op : Opcode) (s : GenState) : InstrStatus × GenState :=
  (thumb32MemExStatus op s.rawInstr, thumb32Base (getBitsValue s.rawInstr 16 19) true s)

def genThumb32MemPreload (op : Opcode) (instr : Word) : InstrStatus :=
  let n := getBitsValue instr 16 19
  let m := getBitsValue instr 0 3
  if op ∈ [Op.PLD_imm_T1, Op.PLD_imm_T2, Op.PLI_imm_T1, Op.PLI_imm_T2, Op.PLDW_imm_T1,
      Op.PLDW_imm_T2] then
    if n = R_PC then .alias else .valid
  else if op ∈ [Op.PLD_reg_T1, Op.PLDW_reg_T1, Op.PLI_reg_T1] then
    let status := if n = R_PC then .alias else .valid
    if badReg m then .unpredictable else status
  else .valid

/-! ## Status register and hints -/

def genThumb32Sr (op : Opcode) (instr : Word) : InstrStatus :=
  if op = Op.MSR_a_T1 then
    if getBitsValue instr 10 11 = 0 ∨ badReg (getBitsValue instr 16 19) then .unpredictable
    else .valid
  else if op = Op.MRS_a_T1 then
    if badReg (getBitsValue instr 8 11) then .unpredictable else .valid
  else .unsupported

def genThumb32Hint (op : Opcode) : InstrStatus :=
  if op = Op.WFI_T2 then .unsupported
  else if op = Op.CLREX_T1 then .unsupported
  else .valid

/-! ## The dispatch -/

def thumb32MultiMemOps : List Opcode :=
  [Op.LDM_T2, Op.LDMDB_T1, Op.POP_T2, Op.STM_T2, Op.STMDB_T1, Op.PUSH_T2]

def thumb32LdImmOps : List Opcode :=
  [Op.LDR_imm_T3, Op.LDR_imm_T4, Op.LDRD_imm_T1, Op.LDRB_imm_T2, Op.LDRB_imm_T3, Op.LDRH_imm_T2,
    Op.LDRH_imm_T3, Op.LDRSB_imm_T1, Op.LDRSB_imm_T2, Op.LDRSH_imm_T1, Op.LDRSH_imm_T2,
    Op.POP_T3, Op.LDRT_T1, Op.LDRBT_T1, Op.LDRHT_T1, Op.LDRSBT_T1, Op.LDRSHT_T1]

/-- The register-offset loads and stores, two `case` groups of the source. -/
def thumb32MemRegOps : List Opcode :=
  [Op.LDR_reg_T2, Op.LDRB_reg_T2, Op.LDRH_reg_T2, Op.LDRSB_reg_T2, Op.LDRSH_reg_T2,
    Op.STR_reg_T2, Op.STRB_reg_T2, Op.STRH_reg_T2]

def thumb32StImmOps : List Opcode :=
  [Op.STR_imm_T3, Op.STR_imm_T4, Op.STRD_imm_T1, Op.STRB_imm_T2, Op.STRB_imm_T3, Op.STRH_imm_T2,
    Op.STRH_imm_T3, Op.STRT_T1, Op.STRBT_T1, Op.STRHT_T1, Op.PUSH_T3]

def thumb32MemLitOps : List Opcode :=
  [Op.LDR_lit_T2, Op.LDRD_lit_T1, Op.LDRB_lit_T1, Op.LDRH_lit_T1, Op.LDRSB_lit_T1,
    Op.LDRSH_lit_T1]

def thumb32MemExOps : List Opcode :=
  [Op.STREX_T1, Op.STREXB_T1, Op.STREXH_T1, Op.STREXD_T1, Op.LDREX_T1, Op.LDREXB_T1,
    Op.LDREXH_T1, Op.LDREXD_T1]

def thumb32PreloadOps : List Opcode :=
  [Op.PLD_lit_T1, Op.PLD_imm_T1, Op.PLD_imm_T2, Op.PLD_reg_T1, Op.PLI_lit_T3, Op.PLI_imm_T1,
    Op.PLI_imm_T2, Op.PLI_reg_T1, Op.PLDW_imm_T1, Op.PLDW_imm_T2, Op.PLDW_reg_T1]

def thumb32ShiftedRegOps : List Opcode :=
  [Op.AND_reg_T2, Op.TST_reg_T2, Op.BIC_reg_T2, Op.ORR_reg_T2, Op.MOV_reg_T3, Op.ORN_reg_T1,
    Op.MVN_reg_T2, Op.EOR_reg_T2, Op.TEQ_reg_T1, Op.PKH_reg_T1, Op.ADD_reg_T3, Op.CMN_reg_T2,
    Op.ADC_reg_T2, Op.SBC_reg_T2, Op.SUB_reg_T2, Op.CMP_reg_T3, Op.RSB_reg_T1, Op.LSL_imm_T2,
    Op.LSR_imm_T2, Op.ASR_imm_T2, Op.ROR_imm_T2, Op.RRX_T1]

def thumb32MimmOps : List Opcode :=
  [Op.AND_imm_T1, Op.TST_imm_T1, Op.BIC_imm_T1, Op.ORR_imm_T1, Op.MOV_imm_T2, Op.ORN_imm_T1,
    Op.MVN_imm_T1, Op.EOR_imm_T1, Op.TEQ_imm_T1, Op.ADD_imm_T3, Op.ADD_sp_imm_T3,
    Op.CMN_imm_T1, Op.ADC_imm_T1, Op.SBC_imm_T1, Op.SUB_imm_T3, Op.SUB_sp_imm_T2,
    Op.CMP_imm_T2, Op.RSB_imm_T2]

def thumb32PimmOps : List Opcode :=
  [Op.ADD_imm_T4, Op.ADD_sp_imm_T4, Op.ADR_T3, Op.MOV_imm_T3, Op.SUB_imm_T4, Op.SUB_sp_imm_T3,
    Op.ADR_T2, Op.MOVT_T1, Op.SSAT_T1, Op.SSAT16_T1, Op.SBFX_T1, Op.BFI_T1, Op.BFC_T1,
    Op.USAT_T1, Op.USAT16_T1, Op.UBFX_T1]

def thumb32DataRegOps : List Opcode :=
  [Op.LSL_reg_T2, Op.LSR_reg_T2, Op.ASR_reg_T2, Op.ROR_reg_T2, Op.SXTAH_T1, Op.SXTH_T2,
    Op.UXTAH_T1, Op.UXTH_T2, Op.SXTAB16_T1, Op.SXTB16_T1, Op.UXTAB16_T1, Op.UXTB16_T1,
    Op.SXTAB_T1, Op.SXTB_T2, Op.UXTAB_T1, Op.UXTB_T2]

def thumb32ParallelOps : List Opcode :=
  [Op.SADD16_T1, Op.SASX_T1, Op.SSAX_T1, Op.SSUB16_T1, Op.SADD8_T1, Op.SSUB8_T1,
    Op.QADD16_T1, Op.QASX_T1, Op.QSAX_T1, Op.QSUB16_T1, Op.QADD8_T1, Op.QSUB8_T1,
    Op.SHADD16_T1, Op.SHASX_T1, Op.SHSAX_T1, Op.SHSUB16_T1, Op.SHADD8_T1, Op.SHSUB8_T1,
    Op.UADD16_T1, Op.UASX_T1, Op.USAX_T1, Op.USUB16_T1, Op.UADD8_T1, Op.USUB8_T1,
    Op.UQADD16_T1, Op.UQASX_T1, Op.UQSAX_T1, Op.UQSUB16_T1, Op.UQADD8_T1, Op.UQSUB8_T1,
    Op.UHADD16_T1, Op.UHASX_T1, Op.UHSAX_T1, Op.UHSUB16_T1, Op.UHADD8_T1, Op.UHSUB8_T1,
    Op.QADD_T1, Op.QDADD_T1, Op.QSUB_T1, Op.QDSUB_T1, Op.SEL_T1]

def thumb32MiscOps : List Opcode :=
  [Op.REV_T2, Op.REV16_T2, Op.RBIT_T1, Op.REVSH_T2, Op.CLZ_T1]

def thumb32MulOps : List Opcode :=
  [Op.MLA_T1, Op.MUL_T2, Op.MLS_T1, Op.SMLABB_T1, Op.SMULBB_T1, Op.SMLAD_T1, Op.SMUAD_T1,
    Op.SMLAWB_T1, Op.SMULWB_T1, Op.SMLSD_T1, Op.SMUSD_T1, Op.SMMLA_T1, Op.SMMUL_T1,
    Op.SMMLS_T1, Op.USAD8_T1, Op.USADA8_T1, Op.SMULL_T1, Op.SDIV_T1, Op.UMULL_T1, Op.UDIV_T1,
    Op.SMLAL_T1, Op.SMLALBB_T1, Op.SMLALD_T1, Op.SMLSLD_T1, Op.UMLAL_T1, Op.UMAAL_T1]

def thumb32HintOps : List Opcode :=
  [Op.NOP_T2, Op.YIELD_T2, Op.WFE_T2, Op.WFI_T2, Op.SEV_T2, Op.DBG_T1, Op.CLREX_T1, Op.DSB_T1,
    Op.DMB_T1, Op.ISB_T1]

def genThumb32Instr (op : Opcode) (s : GenState) : InstrStatus × GenState :=
  let instr := s.rawInstr
  if op ∈ thumb32MultiMemOps then genThumb32MultiMem op s
  else if op ∈ thumb32LdImmOps then genThumb32LdImm op s
  else if op ∈ thumb32MemRegOps then genThumb32MemReg op s
  else if op ∈ thumb32StImmOps then genThumb32StImm op s
  else if op ∈ thumb32MemLitOps then (genThumb32MemLit op instr, s)
  else if op ∈ thumb32MemExOps then genThumb32MemEx op s
  else if op ∈ thumb32PreloadOps then (genThumb32MemPreload op instr, s)
  else if op ∈ thumb32ShiftedRegOps then (genThumb32DataShiftedReg op instr, s)
  else if op ∈ thumb32MimmOps then (genThumb32DataMimm op instr, s)
  else if op ∈ thumb32PimmOps then (genThumb32DataPimm op instr, s)
  else if op ∈ thumb32DataRegOps then (genThumb32DataReg op instr, s)
  else if op ∈ thumb32ParallelOps then (genThumb32DataParallel instr, s)
  else if op ∈ thumb32MiscOps then genThumb32DataMisc s
  else if op ∈ thumb32MulOps then (genThumb32DataMul op instr, s)
  else if op ∈ [Op.MSR_a_T1, Op.MRS_a_T1] then (genThumb32Sr op instr, s)
  else if op ∈ thumb32HintOps then (genThumb32Hint op, s)
  else (.unsupported, s)

end Rit
