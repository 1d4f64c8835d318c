import Rit.Properties.Registers

/-!
# The condition field

In the ARM instruction sets `set_arm_cond_bits` never leaves the condition `1111`; in the others
it does nothing.  No later stage writes the condition field of an ARM row, so the field of the
result is the one this stage leaves.

For the rows that need the condition `1111` (preloads, barriers and the like) this means that the
word keeps matching its row only when the instruction set is not an ARM one.
-/

namespace Rit

open BitField GenState

/-! ## After the condition stage -/

/-- In the ARM instruction sets the condition is not `1111`. -/
lemma setArmCondBits_ne_condMask {op : Opcode} {s : GenState} (hop : op < SISA_OP_ARM_MAX)
    (hisa : s.options.isa.isArm = true) :
    (setArmCondBits op s).rawInstr &&& condMask ≠ condMask := by
  rw [setArmCondBits, if_pos ⟨hisa, hop⟩, clearNeverCond]
  split
  · intro h
    have hbit := congrArg (fun v => v.getLsbD 28) h
    have hclear : (~~~shl 1 condMaskBit).getLsbD 28 = false := by decide
    have hmask : condMask.getLsbD 28 = true := by decide
    simp only [setRawInstr, BitVec.getLsbD_and, hclear, hmask, Bool.and_false,
      Bool.false_and] at hbit
    exact absurd hbit (by decide)
  · assumption

/-! ## Later stages leave it alone -/

/-- A field that ends below bit 28 does not meet the condition field. -/
lemma span_and_condMask {lo hi : ℕ} (h : hi < 28) : span 32 lo hi &&& condMask = 0#32 := by
  have hcond : condMask = span 32 28 31 := by decide
  apply BitVec.eq_of_getLsbD_eq
  intro i _
  rw [hcond, BitVec.getLsbD_and, getLsbD_span, getLsbD_span, BitVec.getLsbD_zero,
    Bool.and_eq_false_iff]
  simp only [decide_eq_false_iff_not]
  omega

section

variable {op : Opcode}

lemma fields_lt_cond (hop : op < SISA_OP_ARM_MAX) :
    ∀ o ∈ (glbInstrTlb op).outputs ++ (glbInstrTlb op).inputs,
      o.endBit < 28 ∧ ∀ p ∈ opndFields op o, p.2 < 28 := by
  have h := (rowFacts (Nat.lt_trans hop (by decide))).fields
  have hlt : op.blt SISA_OP_ARM_MAX = true := (Nat.blt_eq).mpr hop
  simp only [fieldsOk, hlt, if_true, List.all_eq_true, Bool.and_eq_true, Nat.ble_eq,
    Nat.blt_eq] at h
  exact fun o ho => ⟨(h o ho).1, fun p hp => ((h o ho).2 p hp).2⟩

lemma opndsMask_and_condMask (hop : op < SISA_OP_ARM_MAX) {opnds : List Opnd}
    (ho : ∀ o ∈ opnds, o ∈ (glbInstrTlb op).outputs ++ (glbInstrTlb op).inputs) :
    opndsMask op opnds &&& condMask = 0#32 := by
  refine union_and_eq_zero fun m hm => ?_
  obtain ⟨o, hmem, rfl⟩ := List.mem_map.mp hm
  refine union_and_eq_zero fun m hm => ?_
  obtain ⟨p, hp, rfl⟩ := List.mem_map.mp hm
  exact span_and_condMask ((fields_lt_cond hop o (ho o hmem)).2 p (List.mem_filter.mp hp).1)

lemma fixMask_and_condMask (hop : op < SISA_OP_ARM_MAX) : fixMask op &&& condMask = 0#32 := by
  refine union_and_eq_zero fun m hm => ?_
  obtain ⟨a, ha, rfl⟩ := List.mem_map.mp hm
  have h := fixCheck_fixActions op
  simp only [fixCheck, not_armMax_ble hop, Bool.false_or, Bool.and_eq_true, List.all_eq_true,
    beq_iff_eq] at h
  exact (h.2 a ha).1.2

lemma validatorMask_and_condMask (hop : op < SISA_OP_ARM_MAX) (s : GenState) :
    validatorMask op s &&& condMask = 0#32 := by
  refine or_and_eq_zero ?_ ?_
  · unfold rewriteMask
    split
    · decide
    split
    · decide
    · exact BitVec.zero_and
  · split
    · refine union_and_eq_zero fun m hm => ?_
      obtain ⟨o, ho, rfl⟩ := List.mem_map.mp hm
      exact span_and_condMask (fields_lt_cond hop o (List.mem_filter.mp ho).1).1
    · exact BitVec.zero_and

/-- The condition field of the result is the one the condition stage leaves. -/
theorem genInstr_cond {s : GenState} (hop : op < SISA_OP_ARM_MAX)
    (hvalid : (genInstr op s).1 = .valid) :
    AgreeOn condMask (genInstr op s).2.rawInstr
      (setArmCondBits op (setSbit op (beginInstr s))).rawInstr := by
  have hmax : op < SISA_OP_MAX := Nat.lt_trans hop (by decide)
  rw [(genInstr_valid hvalid).2.1]
  have hval := (validate_writes op (preValidate op s)).raw.agreeOn
    (validatorMask_and_condMask hop _)
  have hdst : opndsMask op (glbInstrTlb op).outputs &&& condMask = 0#32 :=
    opndsMask_and_condMask hop fun o ho => List.mem_append_left _ ho
  have hsrc : opndsMask op (glbInstrTlb op).inputs &&& condMask = 0#32 :=
    opndsMask_and_condMask hop fun o ho => List.mem_append_right _ ho
  exact hval.trans (preValidate_agreeOn_cond hmax hsrc hdst (fixMask_and_condMask hop) s)

end

/-! ## Unconditional rows -/

section

variable {op : Opcode}

/-- A row whose mask fixes a bit of the condition fixes the condition `1111`. -/
lemma cond_of_not_condFree (hop : op < SISA_OP_ARM_MAX) (h : ¬ condFree op) :
    (glbInstrTlb op).matchMsk &&& condMask = condMask ∧
      (glbInstrTlb op).matchVal &&& condMask = condMask ∧
      (glbInstrTlb op).opKind ∈ uncondKinds := by
  have hrow := (rowFacts (Nat.lt_trans hop (by decide))).cond
  simp only [condCheck, not_armMax_ble hop, Bool.false_or, Bool.or_eq_true, Bool.and_eq_true,
    beq_iff_eq, List.elem_iff,
    and_assoc] at hrow
  rcases hrow with hfree | hfixed
  · exact absurd (.inr hfree) h
  · exact hfixed

lemma genArmInstr_of_mem_barrierOps (h : op ∈ barrierOps) (s : GenState) :
    genArmInstr op s = (.valid, s) := by
  have hu : op ∉ armUncategoriedOp :=
    (by decide : ∀ op ∈ barrierOps, op ∉ armUncategoriedOp) op h
  have hk : (glbInstrTlb op).opKind = .emptyOp := condFree_or.2.2 op h
  have hst : genEmptyInstr op = .valid :=
    (by decide : ∀ op ∈ barrierOps, genEmptyInstr op = .valid) op h
  rw [genArmInstr, if_neg hu, hk, ← hst]

lemma genArmInstr_of_mem_preloadOps (h : op ∈ preloadOps) (s : GenState) :
    genArmInstr op s = (preloadStatus op s.rawInstr, s) := by
  simp only [preloadOps, List.mem_cons, List.not_mem_nil, or_false] at h
  rcases h with rfl | rfl | rfl | rfl | rfl <;> rfl

lemma genJmpInstr_ne_valid (op : Opcode) (s : GenState) : (genJmpInstr op s).1 ≠ .valid := by
  unfold genJmpInstr
  split_ifs <;> simp

/-- An unconditional row is accepted only as a barrier or as a preload. -/
lemma genArmInstr_uncond_valid_iff (hop : op < SISA_OP_ARM_MAX) (hcond : ¬ condFree op)
    (s : GenState) : (genArmInstr op s).1 = .valid ↔
      op ∈ barrierOps ∨ (op ∈ preloadOps ∧ preloadStatus op s.rawInstr = .valid) := by
  constructor
  · intro hvalid
    by_cases hu : op ∈ armUncategoriedOp
    · rcases condFree_or.1 op hu with hfree | hmem
      · exact absurd hfree hcond
      · rw [genArmInstr_of_mem_preloadOps hmem] at hvalid
        exact .inr ⟨hmem, hvalid⟩
    · have hkind := (cond_of_not_condFree hop hcond).2.2
      rw [genArmInstr, if_neg hu] at hvalid
      simp only [uncondKinds, List.mem_cons, List.not_mem_nil, or_false] at hkind
      rcases hkind with hk | hk | hk | hk | hk <;> rw [hk] at hvalid
      · have hmem : op ∈ armEmptyOps := mem_armKindOps hop hu (by rw [hk]; rfl)
        rcases condFree_or.2.1 op hmem with hfree | hbar | hne
        · exact absurd hfree hcond
        · exact .inl hbar
        · exact absurd hvalid hne
      · exact absurd hvalid (by simp)
      · exact absurd hvalid (genJmpInstr_ne_valid op s)
      · exact absurd hvalid (by simp)
      · exact absurd hvalid (by simp)
  · rintro (hbar | ⟨hmem, hvalid⟩)
    · rw [genArmInstr_of_mem_barrierOps hbar]
    · rw [genArmInstr_of_mem_preloadOps hmem]
      exact hvalid

/-- The inputs on which an unconditional row is accepted, in terms of the registers asked for
and the word `init_raw_instr_bin` leaves.  `PLI` has no operand for its offset register, so that
register comes from the word. -/
def uncondAccepts (op : Opcode) (s : GenState) : Prop :=
  op ∈ barrierOps ∨ op = Op.PLI_imm ∨ op = Op.PLD_lit ∨
    (op = Op.PLD_imm ∧ (s.options.srcRegs 0).toNat % 16 ≠ 15) ∨
    (op = Op.PLI ∧ getBitsValue s.rawInstr 0 3 ≠ R_PC) ∨
    (op = Op.PLD ∧ (s.options.srcRegs 1).toNat % 16 ≠ 15 ∧
      (getBitValue s.rawInstr 22 ≠ 0 ∨ (s.options.srcRegs 0).toNat % 16 ≠ 15))

/-- Where the fields the preloads test come from. -/
lemma preload_checks :
    inputCheck Op.PLD_imm rnOpnd 0 0 = true ∧ inputCheck Op.PLD rnOpnd 0 0 = true ∧
      inputCheck Op.PLD rmOpnd 1 1 = true ∧
      (fixMask Op.PLI ||| operandMask Op.PLI) &&& span 32 0 3 = 0#32 ∧
      (fixMask Op.PLD ||| operandMask Op.PLD).getLsbD 22 = false := by
  decide +kernel

lemma PLI_offset (s : GenState) :
    getBitsValue (preValidate Op.PLI s).rawInstr 0 3 = getBitsValue s.rawInstr 0 3 := by
  have hoff := preValidate_agreeOff (show Op.PLI < SISA_OP_MAX by decide) s
  rw [getBitsValue_eq_get _ (by decide) (by decide), getBitsValue_eq_get _ (by decide) (by decide)]
  exact get_congr (hoff.agreeOn preload_checks.2.2.2.1)

lemma PLD_bit22 (s : GenState) :
    getBitValue (preValidate Op.PLD s).rawInstr 22 = getBitValue s.rawInstr 22 := by
  have hoff := preValidate_agreeOff (show Op.PLD < SISA_OP_MAX by decide) s
  rw [getBitValue_eq _ (by decide), getBitValue_eq _ (by decide),
    hoff 22 preload_checks.2.2.2.2]

lemma eq_R_PC_iff (x : Word) : x = R_PC ↔ x.toNat = 15 := by
  rw [← BitVec.toNat_inj]
  rfl

lemma preloadStatus_PLD_imm (w : Word) :
    preloadStatus Op.PLD_imm w = .valid ↔ getBitsValue w 16 19 ≠ R_PC := by
  unfold preloadStatus
  rw [if_pos rfl]
  simp

lemma preloadStatus_PLI (w : Word) :
    preloadStatus Op.PLI w = .valid ↔ getBitsValue w 0 3 ≠ R_PC := by
  unfold preloadStatus
  rw [if_neg (by decide), if_pos rfl]
  simp

lemma preloadStatus_PLD (w : Word) : preloadStatus Op.PLD w = .valid ↔
    getBitsValue w 0 3 ≠ R_PC ∧ (getBitValue w 22 ≠ 0 ∨ getBitsValue w 16 19 ≠ R_PC) := by
  unfold preloadStatus
  rw [if_neg (by decide), if_neg (by decide), if_pos rfl, InstrStatus.ite_eq_valid (by decide),
    not_or, not_and_or]
  simp

/-- When the validator of an unconditional row accepts, read off the inputs of `gen_instr`. -/
lemma genInstr_valid_iff_uncondAccepts (hop : op < SISA_OP_ARM_MAX) (hcond : ¬ condFree op)
    (s : GenState) : (genInstr op s).1 = .valid ↔ uncondAccepts op s := by
  have hgen : (genInstr op s).1 = .valid ↔ (genArmInstr op (preValidate op s)).1 = .valid := by
    have hkind : (glbInstrTlb op).opKind ≠ .pseudoOp := by
      intro hk
      have hmem := (cond_of_not_condFree hop hcond).2.2
      rw [hk] at hmem
      exact absurd hmem (by decide)
    simp only [genInstr, if_neg hkind, validate, if_pos hop, preValidate]
  have hPLD_imm : preloadStatus Op.PLD_imm (preValidate Op.PLD_imm s).rawInstr = .valid ↔
      (s.options.srcRegs 0).toNat % 16 ≠ 15 := by
    have hn := preValidate_input_of_check (by decide) preload_checks.1 s
    rw [preloadStatus_PLD_imm, ne_eq, eq_R_PC_iff]
    exact not_congr (hn ▸ Iff.rfl)
  have hPLI : preloadStatus Op.PLI (preValidate Op.PLI s).rawInstr = .valid ↔
      getBitsValue s.rawInstr 0 3 ≠ R_PC := by
    rw [preloadStatus_PLI, PLI_offset]
  have hPLD : preloadStatus Op.PLD (preValidate Op.PLD s).rawInstr = .valid ↔
      (s.options.srcRegs 1).toNat % 16 ≠ 15 ∧
        (getBitValue s.rawInstr 22 ≠ 0 ∨ (s.options.srcRegs 0).toNat % 16 ≠ 15) := by
    have hn := preValidate_input_of_check (by decide) preload_checks.2.1 s
    have hm := preValidate_input_of_check (by decide) preload_checks.2.2.1 s
    rw [preloadStatus_PLD, ne_eq, ne_eq, ne_eq, eq_R_PC_iff, eq_R_PC_iff, PLD_bit22]
    exact and_congr (not_congr (hm ▸ Iff.rfl)) (or_congr Iff.rfl (not_congr (hn ▸ Iff.rfl)))
  rw [hgen, genArmInstr_uncond_valid_iff hop hcond]
  refine or_congr Iff.rfl ?_
  constructor
  · rintro ⟨hmem, hvalid⟩
    simp only [preloadOps, List.mem_cons, List.not_mem_nil, or_false] at hmem
    rcases hmem with rfl | rfl | rfl | rfl | rfl
    · exact .inr (.inr (.inr (.inl ⟨rfl, hPLI.mp hvalid⟩)))
    · exact .inr (.inr (.inr (.inr ⟨rfl, hPLD.mp hvalid⟩)))
    · exact .inl rfl
    · exact .inr (.inr (.inl ⟨rfl, hPLD_imm.mp hvalid⟩))
    · exact .inr (.inl rfl)
  · rintro (rfl | rfl | ⟨rfl, h⟩ | ⟨rfl, h⟩ | ⟨rfl, h⟩)
    · exact ⟨by decide, rfl⟩
    · exact ⟨by decide, rfl⟩
    · exact ⟨by decide, hPLD_imm.mpr h⟩
    · exact ⟨by decide, hPLI.mpr h⟩
    · exact ⟨by decide, hPLD.mpr h⟩

/-- Unconditional ARM rows: whatever the options and the random numbers, an accepted word still
matches its row exactly when the instruction set is not an ARM one.  In an ARM instruction set
every accepted word has lost its condition `1111`. -/
theorem genInstr_uncond_match_iff {op : Opcode} (hop : op < SISA_OP_ARM_MAX)
    (hcond : ¬ condFree op) (s : GenState) :
    ((genInstr op (initRawInstrBin op s)).1 = .valid →
      (genInstr op (initRawInstrBin op s)).2.rawInstr &&& (glbInstrTlb op).matchMsk =
        (glbInstrTlb op).matchVal) ↔
      ¬ (s.options.isa.isArm = true ∧ uncondAccepts op (initRawInstrBin op s)) := by
  have hmax : op < SISA_OP_MAX := Nat.lt_trans hop (by decide)
  have hopts : (initRawInstrBin op s).options = s.options := by
    unfold initRawInstrBin
    dsimp only
    split <;> rfl
  rw [genInstr_valid_iff_uncondAccepts hop hcond]
  constructor
  · rintro hmatch ⟨hisa, hacc⟩
    -- the condition stage has removed the condition the row needs
    have hcondNe := setArmCondBits_ne_condMask (s := setSbit op (beginInstr (initRawInstrBin op s)))
      hop (by rw [(setSbit_sets op _).options]; exact hopts ▸ hisa)
    have hvalid := (genInstr_valid_iff_uncondAccepts hop hcond _).mpr hacc
    apply hcondNe
    rw [← (genInstr_cond hop hvalid).and_eq]
    obtain ⟨hmsk, hval, -⟩ := cond_of_not_condFree hop hcond
    rw [← hmsk, ← BitVec.and_assoc, hmatch hacc, hmsk, hval]
  · intro hnot hacc
    have hisa : (initRawInstrBin op s).options.isa.isArm = false := by
      rw [hopts, ← Bool.not_eq_true]
      exact fun h => hnot ⟨h, hacc⟩
    have hagree := stageWords_agreeOn hmax (.inr hisa) (initRawInstrBin_agreeOn op s) _
      (List.mem_of_getLast? (getLast?_stageWords op _))
    have hstray : op ∉ strayBitRows := fun hmem =>
      absurd ((by decide : ∀ op ∈ strayBitRows, ¬ op < SISA_OP_ARM_MAX) op hmem) (not_not.mpr hop)
    rw [hagree.and_eq]
    exact (matchVal_and_matchMsk_iff hmax).mpr hstray

/-- `DMB` asked for in a Thumb instruction set keeps its condition. -/
theorem genInstr_DMB_thumb_match :
    Op.DMB < SISA_OP_ARM_MAX ∧ ¬ condFree Op.DMB ∧
      ((genInstr Op.DMB (initRawInstrBin Op.DMB { sampleState with
        options := { sampleState.options with isa := .thumb } })).1 = .valid →
      (genInstr Op.DMB (initRawInstrBin Op.DMB { sampleState with
        options := { sampleState.options with isa := .thumb } })).2.rawInstr &&&
          (glbInstrTlb Op.DMB).matchMsk = (glbInstrTlb Op.DMB).matchVal) :=
  ⟨by decide, by decide +kernel,
    (genInstr_uncond_match_iff (by decide) (by decide +kernel) _).mpr
      fun h => absurd h.1 (by decide)⟩

/-- `DMB` asked for in ARMv7 comes out as a conditional word. -/
theorem genInstr_DMB_arm_mismatch :
    ¬ condFree Op.DMB ∧ sampleState.options.isa = .armv7 ∧
      (genInstr Op.DMB (initRawInstrBin Op.DMB sampleState)).1 = .valid ∧
      (genInstr Op.DMB (initRawInstrBin Op.DMB sampleState)).2.rawInstr = 0xe57ff050 ∧
      (genInstr Op.DMB (initRawInstrBin Op.DMB sampleState)).2.rawInstr &&&
          (glbInstrTlb Op.DMB).matchMsk ≠ (glbInstrTlb Op.DMB).matchVal := by
  decide +kernel

end

end Rit
