import Rit.Properties.Registers

/-!
# What `VALID` says about the word

A validator runs a chain of assignments to `status`; the result is `VALID` only if none of them
fires.  For each chain this file states what then holds of the fields of the word: which
register fields are not `r15`, and what is excluded when the base is written back.

The memory generators go on to print a prelude and may still reject the address, so `VALID` at
the end implies `VALID` of the chain (`immTail_valid` and the like).
-/

namespace Rit

open BitField GenState

/-! ## Fields of a word -/

/-- Bits 16 to 19, most often the base or the first source. -/
def rn (w : Word) : Word := getBitsValue w 16 19

/-- Bits 12 to 15, most often the transferred register. -/
def rt (w : Word) : Word := getBitsValue w 12 15

/-- Bits 8 to 11. -/
def rd (w : Word) : Word := getBitsValue w 8 11

/-- Bits 0 to 3, most often the offset register. -/
def rm (w : Word) : Word := getBitsValue w 0 3

/-- A register operand of four bits from bit `lo` on. -/
def gprAt (lo : ℕ) : Opnd := ⟨lo, lo + 3, 0, 0, .gpr⟩

lemma memSlots :
    (∀ op ∈ ldImmOps ++ ldtA1Ops ++ ldRegOps ++ ldtA2Ops ++ ldLitOps ++ ldexOps,
      (glbInstrTlb op).output0 = gprAt 12 ∧ (glbInstrTlb op).input0 = gprAt 16) ∧
    (∀ op ∈ stImmOps ++ sttA1Ops ++ stRegOps ++ sttA2Ops,
      (glbInstrTlb op).input0 = gprAt 12 ∧ (glbInstrTlb op).input1 = gprAt 16) ∧
    (∀ op ∈ ldRegOps ++ ldtA2Ops, (glbInstrTlb op).input1 = gprAt 0) ∧
    (∀ op ∈ stRegOps ++ sttA2Ops, (glbInstrTlb op).input2 = gprAt 0) ∧
    (∀ op ∈ ldmOps ++ stmOps, (glbInstrTlb op).input0 = gprAt 16) ∧
    ∀ op ∈ stexOps, (glbInstrTlb op).output0 = gprAt 12 ∧ (glbInstrTlb op).input0 = gprAt 0 ∧
      (glbInstrTlb op).input1 = gprAt 16 := by
  decide +kernel

lemma getRegnum_gprAt_12 {w : Word} {o : Opnd} (h : o = gprAt 12) : getRegnum w o = rt w := by
  rw [h]
  rfl

lemma getRegnum_gprAt_16 {w : Word} {o : Opnd} (h : o = gprAt 16) : getRegnum w o = rn w := by
  rw [h]
  rfl

lemma getRegnum_gprAt_0 {w : Word} {o : Opnd} (h : o = gprAt 0) : getRegnum w o = rm w := by
  rw [h]
  rfl

/-! ## ARM loads and stores -/

section

variable {op : Opcode} {w : Word}

lemma ldImmStatus_valid (hop : op ∈ ldImmOps) (h : ldImmStatus op w = .valid) :
    rn w ≠ R_PC ∧ rt w ≠ R_PC ∧ ¬ unpriv w ∧ (wback w → rn w ≠ rt w) ∧
      (op = Op.LDRD_imm → rt w ≠ 14 ∧ (wback w → rn w ≠ rt w + 1)) := by
  obtain ⟨ht, hn⟩ := memSlots.1 op (by simp [hop])
  simp only [ldImmStatus, getRegnum_gprAt_12 ht, getRegnum_gprAt_16 hn,
    InstrStatus.ite_eq_valid, ne_eq, reduceCtorEq, not_false_eq_true, and_false] at h
  simp_all

lemma ldtA1Status_valid (hop : op ∈ ldtA1Ops) (h : ldtA1Status op w = .valid) :
    rn w ≠ R_PC ∧ rt w ≠ R_PC ∧ rn w ≠ rt w := by
  obtain ⟨ht, hn⟩ := memSlots.1 op (by simp [hop])
  simp only [ldtA1Status, getRegnum_gprAt_12 ht, getRegnum_gprAt_16 hn] at h
  simp_all

lemma ldRegStatus_valid {o : GenOption} (hop : op ∈ ldRegOps) (h : ldRegStatus op o w = .valid) :
    rn w ≠ R_PC ∧ rt w ≠ R_PC ∧ rm w ≠ R_PC ∧ ¬ unpriv w ∧ (wback w → rn w ≠ rt w) ∧
      (op = Op.LDRD_reg → rt w + 1 ≠ R_PC ∧ (wback w → rn w ≠ rt w + 1)) := by
  obtain ⟨ht, hn⟩ := memSlots.1 op (by simp [hop])
  have hm := memSlots.2.2.1 op (by simp [hop])
  simp only [ldRegStatus, getRegnum_gprAt_12 ht, getRegnum_gprAt_16 hn, getRegnum_gprAt_0 hm,
    InstrStatus.ite_eq_valid, ne_eq, reduceCtorEq, not_false_eq_true, and_false] at h
  simp_all

lemma ldtA2Status_valid (hop : op ∈ ldtA2Ops) (h : ldtA2Status op w = .valid) :
    rn w ≠ R_PC ∧ rt w ≠ R_PC ∧ rm w ≠ R_PC ∧ rn w ≠ rt w := by
  obtain ⟨ht, hn⟩ := memSlots.1 op (by simp [hop])
  have hm := memSlots.2.2.1 op (by simp [hop])
  simp only [ldtA2Status, getRegnum_gprAt_12 ht, getRegnum_gprAt_16 hn, getRegnum_gprAt_0 hm] at h
  simp_all

/-- A dual literal load has an even register, so it cannot be `r15` either. -/
lemma ldLitStatus_valid (hop : op ∈ ldLitOps) (h : ldLitStatus op w = .valid) :
    rt w ≠ R_PC ∧ (op = Op.LDRD_lit → rt w ≠ 14) := by
  obtain ⟨ht, -⟩ := memSlots.1 op (by simp [hop])
  simp only [ldLitStatus, getRegnum_gprAt_12 ht] at h
  split_ifs at h with h1 h2 h3 h4 h5
  · exact ⟨h2, fun h' => absurd (h1.symm.trans h') (by decide)⟩
  · rw [not_or] at h4
    refine ⟨fun hpc => h4.1 ?_, fun _ => h4.2⟩
    rw [hpc]
    rfl
  · exact ⟨h5, fun h' => absurd h' h3⟩

lemma stImmStatus_valid (hop : op ∈ stImmOps) (h : stImmStatus op w = .valid) :
    rn w ≠ R_PC ∧ ¬ unpriv w ∧ (wback w → rn w ≠ rt w) ∧
      (op = Op.STRD_imm → wback w → rn w ≠ rt w + 1) := by
  obtain ⟨ht, hn⟩ := memSlots.2.1 op (by simp [hop])
  simp only [stImmStatus, getRegnum_gprAt_12 ht, getRegnum_gprAt_16 hn,
    InstrStatus.ite_eq_valid, ne_eq, reduceCtorEq, not_false_eq_true] at h
  simp_all

lemma sttA1Status_valid (hop : op ∈ sttA1Ops) (h : sttA1Status op w = .valid) :
    rn w ≠ R_PC ∧ rn w ≠ rt w := by
  obtain ⟨ht, hn⟩ := memSlots.2.1 op (by simp [hop])
  simp only [sttA1Status, getRegnum_gprAt_12 ht, getRegnum_gprAt_16 hn] at h
  simp_all

lemma stRegStatus_valid {o : GenOption} (hop : op ∈ stRegOps) (h : stRegStatus op o w = .valid) :
    rn w ≠ R_PC ∧ rm w ≠ R_PC ∧ ¬ unpriv w ∧ (wback w → rn w ≠ rt w) ∧
      (op = Op.STRD_reg → wback w → rn w ≠ rt w + 1) := by
  obtain ⟨ht, hn⟩ := memSlots.2.1 op (by simp [hop])
  have hm := memSlots.2.2.2.1 op (by simp [hop])
  simp only [stRegStatus, getRegnum_gprAt_12 ht, getRegnum_gprAt_16 hn, getRegnum_gprAt_0 hm,
    InstrStatus.ite_eq_valid, ne_eq, reduceCtorEq, not_false_eq_true] at h
  simp_all

lemma sttA2Status_valid (hop : op ∈ sttA2Ops) (h : sttA2Status op w = .valid) :
    rn w ≠ R_PC ∧ rm w ≠ R_PC ∧ rn w ≠ rt w := by
  obtain ⟨ht, hn⟩ := memSlots.2.1 op (by simp [hop])
  have hm := memSlots.2.2.2.1 op (by simp [hop])
  simp only [sttA2Status, getRegnum_gprAt_12 ht, getRegnum_gprAt_16 hn, getRegnum_gprAt_0 hm] at h
  simp_all

lemma ldmStatus_valid {o : GenOption} (hop : op ∈ ldmOps) (h : ldmStatus op o w = .valid) :
    rn w ≠ R_PC ∧ getBitValue (w &&& 0xffff) 15 ≠ 1 ∧
      (getBitValue w 21 ≠ 0 → getBitValue (w &&& 0xffff) (rn w).toNat = 0) := by
  have hn := memSlots.2.2.2.2.1 op (by simp [hop])
  have hpc : R_PC.toNat = 15 := rfl
  simp only [ldmStatus, getRegnum_gprAt_16 hn] at h
  simp_all

lemma stmStatus_valid (hop : op ∈ stmOps) (h : stmStatus op w = .valid) : rn w ≠ R_PC := by
  have hn := memSlots.2.2.2.2.1 op (by simp [hop])
  simp only [stmStatus, getRegnum_gprAt_16 hn] at h
  simp_all

lemma popStatus_valid {o : GenOption} (h : popStatus op o w = .valid) :
    (op = Op.POP_a1 → getBitValue (w &&& 0xffff) 13 = 0 ∧ getBitValue (w &&& 0xffff) 15 = 0) ∧
      (op = Op.POP_a2 → w &&& 0xf000 ≠ 0xd000 ∧ w &&& 0xf000 ≠ 0xf000) := by
  have hpc : R_PC.toNat = 15 := rfl
  have hsp : R_SP.toNat = 13 := rfl
  simp only [popStatus] at h
  simp_all

lemma ldexStatus_valid (hop : op ∈ ldexOps) (h : ldexStatus op w = .valid) :
    rn w ≠ R_PC ∧ rt w ≠ R_PC ∧ (op = Op.LDREXD → rt w ≠ 14) := by
  obtain ⟨ht, hn⟩ := memSlots.1 op (by simp [hop])
  simp only [ldexStatus, getRegnum_gprAt_12 ht, getRegnum_gprAt_16 hn] at h
  simp_all

lemma stexStatus_valid (hop : op ∈ stexOps) (h : stexStatus op w = .valid) :
    rn w ≠ R_PC ∧ rt w ≠ R_PC := by
  obtain ⟨hd, -, hn⟩ := memSlots.2.2.2.2.2 op hop
  simp only [stexStatus, getRegnum_gprAt_12 hd, getRegnum_gprAt_16 hn] at h
  simp_all

end

/-! ## The preludes -/

section

variable {n m shiftT shiftN : Word} {dual half word shifted : Bool} {status : InstrStatus}
  {s : GenState}

lemma memStatus_valid {o : GenOption} {memAddr : Word}
    (h : memStatus o half word memAddr status = .valid) : status = .valid := by
  simp only [memStatus] at h
  simp_all

lemma immTail_valid (h : (immTail n dual half word status s).1 = .valid) : status = .valid := by
  unfold immTail at h
  dsimp only at h
  split at h
  · exact h
  split at h
  · exact h
  · exact memStatus_valid h

lemma regTail_valid (h : (regTail n m shiftT shiftN shifted dual half word status s).1 = .valid) :
    status = .valid := by
  unfold regTail at h
  dsimp only at h
  split at h
  · exact h
  split at h
  · exact h
  · exact memStatus_valid h

lemma multiTail_valid (h : (multiTail n status s).1 = .valid) : status = .valid := by
  unfold multiTail at h
  dsimp only at h
  split at h
  · exact h
  split at h
  · exact h
  · rw [InstrStatus.ite_eq_valid (by decide)] at h
    exact h.2

end

/-! ## 32-bit Thumb memory accesses -/

/-- The loads among the multiple accesses. -/
def thumb32LdmOps : List Opcode := [Op.LDM_T2, Op.LDMDB_T1, Op.POP_T2]

section

variable {op : Opcode} {w : Word}

lemma thumb32MultiMemStatus_valid (h : thumb32MultiMemStatus op w = .valid) :
    rn w ≠ R_PC ∧ (getBitValue w 21 ≠ 0 → getBitValue w (rn w).toNat = 0) ∧
      (op ∈ thumb32LdmOps → getBitValue w 15 = 0) := by
  simp only [thumb32MultiMemStatus] at h
  by_cases hop : op ∈ [Op.LDM_T2, Op.LDMDB_T1, Op.POP_T2]
  · rw [if_pos hop] at h
    simp_all [rn]
  · rw [if_neg hop] at h
    simp_all [rn, thumb32LdmOps]

lemma thumb32LdImmStatus_valid (h : thumb32LdImmStatus op w = .valid) :
    rn w ≠ R_PC ∧ rt w ≠ R_PC := by
  rw [← not_or]
  intro hpc
  have hpc' : getBitsValue w 16 19 = R_PC ∨ getBitsValue w 12 15 = R_PC := hpc
  revert h
  -- the first test has set the status, and no branch sets it back
  simp only [thumb32LdImmStatus, puwStatus, if_pos hpc']
  repeat' apply InstrStatus.ite_ne_valid
  all_goals decide

lemma thumb32LdImmStatus_dual (h : thumb32LdImmStatus Op.LDRD_imm_T1 w = .valid) :
    rd w ≠ R_PC ∧ (getBitValue w 21 ≠ 0 → rn w ≠ rt w ∧ rn w ≠ rd w) := by
  simp only [thumb32LdImmStatus, badReg] at h
  simp_all [rn, rt, rd]

lemma thumb32MemRegStatus_valid (h : thumb32MemRegStatus op w = .valid) :
    rn w ≠ R_PC ∧ rt w ≠ R_PC ∧ rm w ≠ R_PC := by
  have hbad : badReg R_PC := .inr rfl
  simp only [thumb32MemRegStatus] at h
  refine ⟨?_, ?_, fun hm => ?_⟩ <;> simp_all [rn, rt, rm]

lemma genThumb32MemLit_valid (h : genThumb32MemLit op w = .valid) :
    rt w ≠ R_PC ∧ (op = Op.LDRD_lit_T1 → rd w ≠ R_PC) := by
  simp only [genThumb32MemLit] at h
  split_ifs at h with h1 h2 h3 h4 h5 h6
  · exact ⟨h2, fun h' => absurd (h1.symm.trans h') (by decide)⟩
  · simp only [badReg, not_or] at h4
    exact ⟨h4.1.2, fun _ => h4.2.1.2⟩
  · simp only [badReg, not_or] at h6
    exact ⟨h6.2, fun h' => absurd h' h3⟩

lemma thumb32StImmStatus_valid (h : thumb32StImmStatus op w = .valid) : rn w ≠ R_PC := by
  intro hpc
  have hpc' : getBitsValue w 16 19 = R_PC := hpc
  revert h
  simp only [thumb32StImmStatus, puwStatus, if_pos hpc']
  repeat' apply InstrStatus.ite_ne_valid
  all_goals decide

/-- The registers an exclusive access writes. -/
lemma thumb32MemExStatus_valid (hop : op ∈ thumb32MemExOps) (h : thumb32MemExStatus op w = .valid) :
    rn w ≠ R_PC ∧ rt w ≠ R_PC ∧ (op = Op.LDREXD_T1 ∨ op = Op.STREX_T1 → rd w ≠ R_PC) ∧
      (op ∈ [Op.STREXB_T1, Op.STREXH_T1, Op.STREXD_T1] → rm w ≠ R_PC) := by
  simp only [thumb32MemExOps, List.mem_cons, List.not_mem_nil, or_false] at hop
  rcases hop with rfl | rfl | rfl | rfl | rfl | rfl | rfl | rfl <;>
    simp [thumb32MemExStatus] at h <;> simp only [badReg, not_or] at h
  all_goals simp [rn, rt, rd, rm, h]

end

/-! ## 32-bit Thumb data processing -/

/-- The comparisons, which write no register. -/
def thumb32CmpOps : List Opcode :=
  [Op.TST_reg_T2, Op.TEQ_reg_T1, Op.CMN_reg_T2, Op.CMP_reg_T3, Op.TST_imm_T1, Op.TEQ_imm_T1,
    Op.CMN_imm_T1, Op.CMP_imm_T2]

section

variable {op : Opcode} {w : Word}

lemma genThumb32MemPreload_valid
    (hop : op ∈ thumb32PreloadOps) (hlit : op ∉ [Op.PLD_lit_T1, Op.PLI_lit_T3])
    (h : genThumb32MemPreload op w = .valid) : rn w ≠ R_PC := by
  simp only [thumb32PreloadOps, List.mem_cons, List.not_mem_nil, or_false] at hop
  rcases hop with rfl | rfl | rfl | rfl | rfl | rfl | rfl | rfl | rfl | rfl | rfl <;>
    simp [genThumb32MemPreload] at h hlit
  all_goals simp [rn, h]

lemma badReg_R_PC : badReg R_PC := .inr rfl

lemma R_PC_ne_R_SP : R_PC ≠ R_SP := by decide

/-- A shifted-register operation that writes a register does not write `r15`: the tests differ
with the S bit, but one of them fires. -/
lemma genThumb32DataShiftedReg_rd (hd : rd w = R_PC) : ∀ op ∈ thumb32ShiftedRegOps,
    op ∉ thumb32CmpOps → genThumb32DataShiftedReg op w ≠ .valid := by
  have hd' : getBitsValue w 8 11 = R_PC := hd
  simp only [thumb32ShiftedRegOps, List.forall_mem_cons, List.not_mem_nil, false_implies,
    implies_true, and_true]
  and_intros <;> by_cases hS : getBitValue w 20 = 0#32 <;>
    simp [thumb32CmpOps, genThumb32DataShiftedReg, hd', hS, badReg_R_PC, R_PC_ne_R_SP]

lemma genThumb32DataMimm_rd (hd : rd w = R_PC) : ∀ op ∈ thumb32MimmOps,
    op ∉ thumb32CmpOps → genThumb32DataMimm op w ≠ .valid := by
  have hd' : getBitsValue w 8 11 = R_PC := hd
  simp only [thumb32MimmOps, List.forall_mem_cons, List.not_mem_nil, false_implies,
    implies_true, and_true]
  and_intros <;> by_cases hS : getBitValue w 20 = 0#32 <;>
    simp [thumb32CmpOps, genThumb32DataMimm, hd', hS, badReg_R_PC, R_PC_ne_R_SP]

lemma genThumb32DataPimm_rd (hd : rd w = R_PC) :
    ∀ op ∈ thumb32PimmOps, genThumb32DataPimm op w ≠ .valid := by
  have hd' : getBitsValue w 8 11 = R_PC := hd
  simp only [thumb32PimmOps, List.forall_mem_cons, List.not_mem_nil, false_implies,
    implies_true, and_true]
  and_intros <;> simp [genThumb32DataPimm, hd', badReg_R_PC]

lemma genThumb32DataReg_rd (hd : rd w = R_PC) (op : Opcode) : genThumb32DataReg op w ≠ .valid := by
  have hd' : getBitsValue w 8 11 = R_PC := hd
  simp only [genThumb32DataReg, hd', badReg_R_PC, true_or, if_true]
  repeat' apply InstrStatus.ite_ne_valid
  all_goals decide

lemma genThumb32DataMul_rd (hd : rd w = R_PC) (op : Opcode) : genThumb32DataMul op w ≠ .valid := by
  have hd' : getBitsValue w 8 11 = R_PC := hd
  simp only [genThumb32DataMul, hd', badReg_R_PC, true_or, if_true]
  repeat' apply InstrStatus.ite_ne_valid
  all_goals decide

/-- The parallel and miscellaneous operations and the move from the status register. -/
lemma genThumb32Data_rd (hd : rd w = R_PC) :
    genThumb32DataParallel w ≠ .valid ∧
      (∀ s : GenState, s.rawInstr = w → (genThumb32DataMisc s).1 ≠ .valid) ∧
      genThumb32Sr Op.MRS_a_T1 w ≠ .valid := by
  have hd' : getBitsValue w 8 11 = R_PC := hd
  refine ⟨?_, fun s hs => ?_, ?_⟩
  · simp [genThumb32DataParallel, hd', badReg_R_PC]
  · simp [genThumb32DataMisc, hs, hd', badReg_R_PC]
  · simp [genThumb32Sr, hd', badReg_R_PC]

/-- The multiplications that add to, or write, the register at bits 12 to 15. -/
def thumb32AccOps : List Opcode :=
  [Op.MLA_T1, Op.SMLABB_T1, Op.SMLAD_T1, Op.SMLAWB_T1, Op.SMLSD_T1, Op.SMMLA_T1, Op.USADA8_T1,
    Op.MLS_T1, Op.SMMLS_T1, Op.SMULL_T1, Op.UMULL_T1, Op.SMLAL_T1, Op.SMLALBB_T1, Op.SMLALD_T1,
    Op.SMLSLD_T1, Op.UMLAL_T1, Op.UMAAL_T1]

lemma genThumb32DataMul_rt (ht : rt w = R_PC) :
    ∀ op ∈ thumb32AccOps, genThumb32DataMul op w ≠ .valid := by
  have ht' : getBitsValue w 12 15 = R_PC := ht
  simp only [thumb32AccOps, List.forall_mem_cons, List.not_mem_nil, false_implies,
    implies_true, and_true]
  and_intros <;> simp [genThumb32DataMul, ht', badReg_R_PC]

/-- The operations that reject `r15` as their first source as the alias it encodes. -/
lemma genThumb32Data_rn (hn : rn w = R_PC) :
    (∀ op ∈ [Op.ORR_reg_T2, Op.ORN_reg_T1], genThumb32DataShiftedReg op w ≠ .valid) ∧
      ∀ op ∈ [Op.SXTAH_T1, Op.UXTAH_T1, Op.SXTAB16_T1, Op.UXTAB16_T1, Op.SXTAB_T1, Op.UXTAB_T1],
        genThumb32DataReg op w ≠ .valid := by
  have hn' : getBitsValue w 16 19 = R_PC := hn
  simp only [List.forall_mem_cons, List.not_mem_nil, false_implies, implies_true, and_true]
  and_intros <;> simp [genThumb32DataShiftedReg, genThumb32DataReg, hn']

lemma genThumb32DataPimm_rn (hop : op ∈ [Op.ADD_imm_T4, Op.SUB_imm_T4])
    (h : genThumb32DataPimm op w = .valid) : rn w ≠ R_SP ∧ rn w ≠ R_PC := by
  simp only [List.mem_cons, List.not_mem_nil, or_false] at hop
  rcases hop with rfl | rfl <;> simp [genThumb32DataPimm] at h
  all_goals exact h.2

lemma genThumb32DataPimm_sat (hop : op ∈ [Op.SSAT_T1, Op.USAT_T1])
    (h : genThumb32DataPimm op w = .valid) :
    ¬ (getBitValue w 21 ≠ 0 ∧ getBitsValue w 6 7 = 0 ∧ getBitsValue w 12 14 = 0) := by
  simp only [List.mem_cons, List.not_mem_nil, or_false] at hop
  rcases hop with rfl | rfl <;> simp [genThumb32DataPimm] at h
  all_goals exact fun h' => h.2 h'.1 h'.2.1 h'.2.2

end

end Rit
