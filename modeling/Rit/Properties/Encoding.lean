import Rit.NewSrc.InstrGenerator
import Rit.Properties.Route
import Rit.Properties.Stages

/-!
# The match pattern of a row survives generation

`init_raw_instr_bin` gives the word the fixed bits of its row.  Every later stage writes either
bits the match mask leaves free (the S bit, the operands, the validator's bias and alignment
rewrites), or the condition field, or the bits of the fix-up, which agree with the match value
where they meet the mask.

The validators are reached through the routes of `Route`: each writes at most `validatorMask`,
which without a bias option is only `rewriteMask`.
-/

namespace Rit

open BitField GenState

/-! ## What the validators write -/

/-- One of the two bias options is on. -/
def GenState.biased (s : GenState) : Bool := s.optStat .allowBiasOpnd || s.optStat .allowBiasReg

/-- The bits of the word the validator of an opcode may write in state `s`: the rewrites, and
under a bias option the operands of an ARM row. -/
def validatorMask (op : Opcode) (s : GenState) : Word :=
  rewriteMask op ||| if s.biased ∧ op < SISA_OP_ARM_MAX then freeOpndMask (glbInstrTlb op) else 0

lemma dataBias_writes {op : Opcode} {m : Word} (s : GenState)
    (h : s.optStat .allowBiasOpnd = true → ∀ o ∈ dataBiasOpnds (glbInstrTlb op), o.Under m) :
    Writes m s (dataBias op s).2 := by
  unfold dataBiasOpnds at h
  unfold dataBias
  dsimp only
  split
  · rename_i h2
    rw [if_pos h2] at h
    split
    · rename_i hout
      rw [if_pos hout] at h
      split
      · exact .refl m s
      · exact bias4_writes fun hk => by simpa using h hk
    · rename_i hout
      rw [if_neg hout] at h
      split
      · exact .refl m s
      · exact bias3_writes fun hk => by simpa using h hk
  rename_i h2
  rw [if_neg h2] at h
  split
  · rename_i h3
    rw [if_pos h3] at h
    split
    · rename_i hout
      rw [if_pos hout] at h
      exact bias3_writes fun hk => by simpa using h hk
    · rename_i hout
      rw [if_neg hout] at h
      exact bias2_writes fun hk => by simpa using h hk
  rename_i h3
  rw [if_neg h3] at h
  split
  · rename_i h4
    rw [if_pos h4] at h
    split
    · rename_i h5
      rw [if_pos h5] at h
      split
      · exact .refl m s
      · exact bias3_writes fun hk => by simpa using h hk
    rename_i h5
    rw [if_neg h5] at h
    split
    · rename_i h6
      rw [if_pos h6] at h
      exact bias2_writes fun hk => by simpa using h hk
    rename_i h6
    rw [if_neg h6] at h
    split
    · rename_i h7
      rw [if_pos h7] at h
      exact bias2_writes fun hk => by simpa using h hk
    · exact .refl m s
  · exact .refl m s

section Routes

variable {op : Opcode} {s : GenState} {r : InstrStatus × GenState}

lemma alignMask_and_validatorMask (h : op ∈ alignOps) (s : GenState) :
    alignMask &&& validatorMask op s = alignMask := by
  rw [validatorMask, rewriteMask, if_pos h, mask_and_or_left]

lemma freeOpndMask_and_validatorMask (hop : op < SISA_OP_ARM_MAX) (hs : s.biased = true) :
    freeOpndMask (glbInstrTlb op) &&& validatorMask op s = freeOpndMask (glbInstrTlb op) := by
  rw [validatorMask, if_pos ⟨hs, hop⟩, mask_and_or_right]

lemma immTail_writes_validatorMask (n : Word) {dual : Bool} (half word : Bool)
    (status : InstrStatus) (h : dual = true → op ∈ alignOps) :
    Writes (validatorMask op s) s (immTail n dual half word status s).2 :=
  immTail_writes n half word status s fun hd => alignMask_and_validatorMask (h hd) s

/-- The frame of an ARM validator. -/
lemma ArmRoute.writes (hop : op < SISA_OP_ARM_MAX) (h : ArmRoute op s r) :
    Writes (validatorMask op s) s r.2 := by
  -- under either option the biased slots lie in the mask
  have hopnd : s.optStat .allowBiasOpnd = true → freeOpndMask (glbInstrTlb op) &&&
      validatorMask op s = freeOpndMask (glbInstrTlb op) :=
    fun hk => freeOpndMask_and_validatorMask hop (by simp [biased, hk])
  have hreg : s.optStat .allowBiasReg = true → freeOpndMask (glbInstrTlb op) &&&
      validatorMask op s = freeOpndMask (glbInstrTlb op) :=
    fun hk => freeOpndMask_and_validatorMask hop (by simp [biased, hk])
  have hslots : ∀ c ∈ biasSlots, op ∈ c.1 → freeOpndMask (glbInstrTlb op) &&&
      validatorMask op s = freeOpndMask (glbInstrTlb op) → ∀ o ∈ c.2 (glbInstrTlb op),
      o.Under (validatorMask op s) :=
    fun c hc hmem hm o ho => (biasSlots_free.1 c hc op hmem o ho).mono hm
  simp only [biasSlots, List.forall_mem_cons, List.not_mem_nil, false_implies,
    implies_true, and_true] at hslots
  obtain ⟨h2, hsat, hext, hbfi, h3, h4, hlong⟩ := hslots
  cases h with
  | ldImm h =>
    refine writes_setOprandInit (immTail_writes_validatorMask _ _ _ _ fun hd => ?_)
    simp only [decide_eq_true_eq] at hd
    simp [alignOps, hd]
  | stImm h =>
    refine writes_setOprandInit (immTail_writes_validatorMask _ _ _ _ fun hd => ?_)
    simp only [decide_eq_true_eq] at hd
    simp [alignOps, hd]
  | ldtA1 h | sttA1 h =>
    exact writes_setOprandInit (immTail_writes_validatorMask _ _ _ _ (by simp))
  | ldReg h | ldtA2 h | stReg h | sttA2 h =>
    exact writes_setOprandInit (regTail_writes _ _ _ _ _ _ _ _ _ s).of_zero
  | ldLit h =>
    refine writes_setOprandInit ?_
    unfold genLdLit
    dsimp only
    split
    · rename_i hd
      have hal : op ∈ alignOps := by simp [alignOps, hd]
      have hclear : AgreeOff alignMask (clearBits s.rawInstr 0 1) s.rawInstr := by
        rw [clearBits_eq _ (by decide) (by decide)]
        exact agreeOff_and _ (by decide)
      exact writes_setRawInstr (hclear.mono (alignMask_and_validatorMask hal s))
    · exact .refl _ s
  | ldm h | stm h | push h | pop h =>
    exact writes_setOprandInit (multiTail_writes _ _ s).of_zero
  | ldex h | stex h => exact (fixMemBase_writes _ true s).of_zero
  | swp h =>
    have hmem : op ∈ pairOps := by
      simp only [List.mem_cons, List.not_mem_nil, or_false] at h
      rcases h with rfl | rfl <;> simp [pairOps]
    have hbias := bias2_writes (s := s) (k := .allowBiasOpnd) (r := (getRegnum s.rawInstr
      (glbInstrTlb op).output0, getRegnum s.rawInstr (glbInstrTlb op).input0))
      fun hk => by simpa using h2 hmem (hopnd hk)
    refine hbias.trans ?_
    exact iteInduction (fun _ => (fixMemBase_writes _ true _).of_zero) fun _ => .refl _ _
  | clz h => exact bias2_writes fun hk => by simpa using h2 (by simp [pairOps, h]) (hopnd hk)
  | adr h | empty h | reverse h | bfc h | sel h | sr h | preload h => exact .refl _ s
  | mul h => exact biasMul_writes fun hk => by simpa using h3 (by simp [tripleOps, h]) (hopnd hk)
  | mla h => exact bias4_writes fun hk => by simpa using h4 (by simp [quadOps, h]) (hopnd hk)
  | mulLong h => exact bias4_writes fun hk => by simpa using hlong h (hopnd hk)
  | data h hu =>
    have hcheck := (rowFacts (Nat.lt_trans hop (by decide))).dataBias
    simp only [dataBiasCheck, h, not_armMax_ble hop, Bool.not_true, Bool.false_or,
      List.all_eq_true,
      decide_eq_true_eq] at hcheck
    exact dataBias_writes s fun hk o ho => (hcheck o ho).mono (hopnd hk)
  | parallel h | extAdd h =>
    exact bias3_writes fun hk => by simpa using h3 (by simp [tripleOps, h]) (hopnd hk)
  | usad8 h => exact bias3_writes fun hk => by simpa using h3 (by simp [tripleOps, h]) (hreg hk)
  | ext h => exact bias2_writes fun hk => by simpa using hext h (hopnd hk)
  | sat h =>
    have hbias := bias2_writes (s := s) (k := .allowBiasReg) (r := (getRegnum s.rawInstr
      (glbInstrTlb op).output0, getRegnum s.rawInstr (glbInstrTlb op).input1))
      fun hk => by simpa using hsat h (hreg hk)
    refine hbias.trans ?_
    dsimp only [genSat]
    split
    · rename_i hs
      have hmem : op ∈ [Op.SSAT, Op.USAT, Op.PKH] := by rcases hs with rfl | rfl <;> simp
      refine biasShiftImm_writes fun hk => ?_
      rw [← biasSlots_free.2 op hmem, BitVec.and_assoc,
        hopnd (by rwa [hbias.optStat] at hk)]
    · exact .refl _ _
  | pkh h =>
    have hbias := bias3_writes (s := s) (k := .allowBiasReg) (r := (getRegnum s.rawInstr
      (glbInstrTlb op).output0, getRegnum s.rawInstr (glbInstrTlb op).input0,
      getRegnum s.rawInstr (glbInstrTlb op).input1))
      fun hk => by simpa using h3 (by simp [tripleOps, h]) (hreg hk)
    refine hbias.trans (biasShiftImm_writes fun hk => ?_)
    rw [← biasSlots_free.2 op (by simp [h]), BitVec.and_assoc,
      hopnd (by rwa [hbias.optStat] at hk)]
  | bfx h =>
    have hmem : op ∈ pairOps := by
      simp only [List.mem_cons, List.not_mem_nil, or_false] at h
      rcases h with rfl | rfl <;> simp [pairOps]
    exact bias2_writes fun hk => by simpa using h2 hmem (hreg hk)
  | bfi h => exact bias2_writes fun hk => by simpa using hbfi (by simp [h]) (hreg hk)
  | usada8 h => exact bias4_writes fun hk => by simpa using h4 (by simp [quadOps, h]) (hreg hk)
  | reject hr hw => exact hw.of_zero

lemma thumbMemImm_writes (n : Word) (word half : Bool) (s : GenState) :
    Writes 0 s (thumbMemImm n word half s).2 := by
  unfold thumbMemImm
  split
  · exact fixMemBase_writes n false s
  · exact genPreInstrForMemBase_writes n s

lemma thumbMemReg_writes (n m : Word) (word half : Bool) (s : GenState) :
    Writes 0 s (thumbMemReg n m word half s).2 := by
  unfold thumbMemReg
  split
  · exact .refl 0 s
  split
  · exact ((fixMemBase_writes n false s).trans (writes_afterRand 0 _)).trans
      (writes_insertInstrs 0 _ _)
  · exact ((genPreInstrForMemBase_writes n s).trans (getRandMemOffset_writes 0 0 _)).trans
      (writes_insertInstrs 0 _ _)

/-- A 16-bit Thumb validator does not write the word. -/
lemma ThumbRoute.writes (h : ThumbRoute op s r) : Writes 0 s r.2 := by
  cases h with
  | ldImm h word half | stImm h word half =>
    exact writes_setOprandInit (thumbMemImm_writes _ word half s)
  | ldReg h word half | stReg h word half =>
    exact writes_setOprandInit (thumbMemReg_writes _ _ word half s)
  | ldLit h => exact writes_setOprandInit (.refl 0 s)
  | multi h => exact genThumbMultiMemInstr_writes op s
  | adr h | mul h | empty h | data h | ext h => exact .refl 0 s
  | reject hr hw => exact hw

lemma thumb32Base_writes (n : Word) (forceAlign : Bool) (s : GenState) :
    Writes 0 s (thumb32Base n forceAlign s) := by
  unfold thumb32Base
  split
  · exact fixMemBase_writes n forceAlign s
  · exact genPreInstrForMemBase_writes n s

/-- The frame of a 32-bit Thumb validator. -/
lemma Thumb32Route.writes (hop : SISA_OP_ARM_MAX ≤ op) (h : Thumb32Route op s r) :
    Writes (validatorMask op s) s r.2 := by
  cases h with
  | multi h | ldImm h | stImm h | memEx h => exact (thumb32Base_writes _ _ s).of_zero
  | memReg h =>
    exact (((thumb32Base_writes _ false s).trans (getRandMemOffset_writes _ _ _)).trans
      (writes_insertInstrs 0 _ _)).of_zero
  | misc h =>
    have hmask : validatorMask op s = span 32 16 19 ||| 0#32 := by
      have hal : op ∉ alignOps := fun hmem =>
        absurd ((by decide : ∀ op ∈ alignOps, op < SISA_OP_ARM_MAX) op hmem) (Nat.not_lt.mpr hop)
      rw [validatorMask, rewriteMask, if_neg hal, if_pos h,
        if_neg fun hb => absurd hb.2 (Nat.not_lt.mpr hop)]
      rfl
    rw [hmask, BitVec.or_zero]
    exact writes_setRawInstr (setInstr_agreeOff _ _ (by decide) (by decide))
  | _ => exact .refl _ s

end Routes

/-- Setting the instruction set on entry to a Thumb validator. -/
lemma writes_setIsa (m : Word) (isa : InstrSet) (s : GenState) :
    Writes m s { s with options := { s.options with isa := isa } } :=
  ⟨.refl m _, List.prefix_rfl, rfl, rfl, rfl, rfl, rfl, rfl⟩

/-- The frame of the validator of any opcode. -/
theorem validate_writes (op : Opcode) (s : GenState) :
    Writes (validatorMask op s) s (validate op s).2 := by
  unfold validate
  split
  · rename_i harm
    exact ((genArmInstr_route harm s).writes harm).trans (writes_insertInstrs _ _ _)
  rename_i harm
  split
  · exact ((writes_setIsa _ .thumb s).trans (genThumbInstr_route op _).writes.of_zero).trans
      (writes_insertInstrs _ _ _)
  split
  · exact ((writes_setIsa _ .thumb s).trans
      ((genThumb32Instr_route op _).writes (Nat.not_lt.mp harm))).trans (writes_insertInstrs _ _ _)
  · exact .refl _ s

lemma rewriteMask_of_not_mem {op : Opcode} (h : op ∉ alignOps ++ thumb32MiscOps) :
    rewriteMask op = 0 := by
  rw [List.mem_append, not_or] at h
  rw [rewriteMask, if_neg h.1, if_neg h.2]

lemma rewriteMask_and_matchMsk (op : Opcode) :
    rewriteMask op &&& (glbInstrTlb op).matchMsk = 0#32 := by
  by_cases h : op ∈ alignOps ++ thumb32MiscOps
  · exact (rewriteMask_free op h).1
  · rw [rewriteMask_of_not_mem h]
    exact BitVec.zero_and

lemma freeOpndMask_and_matchMsk (row : InstrDesc) : freeOpndMask row &&& row.matchMsk = 0#32 := by
  refine union_and_eq_zero fun m hm => ?_
  obtain ⟨o, ho, rfl⟩ := List.mem_map.mp hm
  simpa using (List.mem_filter.mp ho).2

lemma validatorMask_and_matchMsk (op : Opcode) (s : GenState) :
    validatorMask op s &&& (glbInstrTlb op).matchMsk = 0#32 := by
  refine or_and_eq_zero (rewriteMask_and_matchMsk op) ?_
  split
  · exact freeOpndMask_and_matchMsk _
  · exact BitVec.zero_and

/-! ## The words of a run -/

/-- The states `gen_instr` passes through: on entry and after each stage. -/
def stageStates (op : Opcode) (s : GenState) : List GenState :=
  let begun := beginInstr s
  if (glbInstrTlb op).opKind = .pseudoOp then [begun]
  else
    let sbit := setSbit op begun
    let cond := setArmCondBits op sbit
    let src := setSrcOpndBits op cond
    let dst := setDstOpndBits op src
    let fixed := fixUnpredictableBit op (takeOrig dst).2
    [begun, sbit, cond, src, dst, fixed, (validate op fixed).2]

/-- The values of `raw_instr` in these states. -/
def stageWords (op : Opcode) (s : GenState) : List Word := (stageStates op s).map rawInstr

/-- The word `gen_instr` leaves is the last of them. -/
lemma getLast?_stageWords (op : Opcode) (s : GenState) :
    (stageWords op s).getLast? = some (genInstr op s).2.rawInstr := by
  unfold stageWords stageStates genInstr
  dsimp only
  split
  · rfl
  · rfl

lemma armCondMask_and_matchMsk {op : Opcode} (h : condFree op) :
    armCondMask op &&& (glbInstrTlb op).matchMsk = 0#32 := by
  unfold armCondMask
  split
  · rename_i harm
    rcases h with hge | hfree
    · exact absurd harm (Nat.not_lt.mpr hge)
    · rw [BitVec.and_comm, hfree]
  · exact BitVec.zero_and

/-- Outside the ARM instruction sets the condition stage does nothing. -/
lemma setArmCondBits_of_not_isArm {op : Opcode} {s : GenState}
    (h : s.options.isa.isArm = false) : setArmCondBits op s = s := by
  rw [setArmCondBits, if_neg]
  rintro ⟨harm, -⟩
  rw [h] at harm
  exact absurd harm (by decide)

/-- Stage by stage, a word that matches its row on the match mask still does. -/
theorem stageWords_agreeOn {op : Opcode} (hop : op < SISA_OP_MAX) {s : GenState}
    (hcond : condFree op ∨ s.options.isa.isArm = false)
    (h : AgreeOn (glbInstrTlb op).matchMsk s.rawInstr (glbInstrTlb op).matchVal) :
    ∀ w ∈ stageWords op s, AgreeOn (glbInstrTlb op).matchMsk w (glbInstrTlb op).matchVal := by
  -- a stage that writes no bit of the mask preserves the pattern
  have hstep : ∀ {m : Word} {s s' : GenState}, m &&& (glbInstrTlb op).matchMsk = 0#32 →
      AgreeOff m s'.rawInstr s.rawInstr →
      AgreeOn (glbInstrTlb op).matchMsk s.rawInstr (glbInstrTlb op).matchVal →
      AgreeOn (glbInstrTlb op).matchMsk s'.rawInstr (glbInstrTlb op).matchVal :=
    fun hm hoff hon => (hoff.agreeOn hm).trans hon
  have hbegun : AgreeOn (glbInstrTlb op).matchMsk (beginInstr s).rawInstr
      (glbInstrTlb op).matchVal := h
  have hsbit := hstep (sbitMask_and_matchMsk op) (setSbit_sets op _).raw hbegun
  have hc : AgreeOn (glbInstrTlb op).matchMsk (setArmCondBits op (setSbit op
      (beginInstr s))).rawInstr (glbInstrTlb op).matchVal := by
    rcases hcond with hfree | hisa
    · exact hstep (armCondMask_and_matchMsk hfree) (setArmCondBits_sets op _).raw hsbit
    · have hopts : (setSbit op (beginInstr s)).options = s.options := (setSbit_sets op _).options
      rw [setArmCondBits_of_not_isArm (by rw [hopts, hisa])]
      exact hsbit
  have hsrc := hstep (opndsMask_and_matchMsk op _) (setOpndBits_sets hop .src _).raw hc
  have hdst := hstep (opndsMask_and_matchMsk op _) (setOpndBits_sets hop .dst _).raw hsrc
  have hfix : AgreeOn (glbInstrTlb op).matchMsk (fixUnpredictableBit op (takeOrig
      (setDstOpndBits op (setSrcOpndBits op (setArmCondBits op
        (setSbit op (beginInstr s)))))).2).rawInstr (glbInstrTlb op).matchVal := by
    apply fixUnpredictableBit_agreeOn
    rw [takeOrig_rawInstr]
    exact hdst
  have hval := hstep (validatorMask_and_matchMsk op _) (validate_writes op _).raw hfix
  intro w hw
  unfold stageWords stageStates at hw
  split at hw
  · simp only [List.map_cons, List.map_nil, List.mem_singleton] at hw
    exact hw ▸ hbegun
  · simp only [List.map_cons, List.map_nil, List.mem_cons, List.not_mem_nil, or_false] at hw
    rcases hw with rfl | rfl | rfl | rfl | rfl | rfl | rfl
    · exact hbegun
    · exact hsbit
    · exact hc
    · exact hsrc
    · exact hdst
    · exact hfix
    · exact hval

/-- `init_raw_instr_bin` establishes the pattern. -/
lemma initRawInstrBin_agreeOn (op : Opcode) (s : GenState) :
    AgreeOn (glbInstrTlb op).matchMsk (initRawInstrBin op s).rawInstr
      (glbInstrTlb op).matchVal := by
  intro i hi
  simp only [initRawInstrBin, setRawInstr, initWord, BitVec.getLsbD_or, BitVec.getLsbD_and,
    BitVec.getLsbD_not, hi, Bool.not_true, Bool.and_false, Bool.false_or]

/-! ## Encoding soundness

No word matches a row with a bit in its match value that its match mask does not cover; every
other row is matched throughout. -/

lemma matchVal_and_matchMsk_iff {op : Opcode} (hop : op < SISA_OP_MAX) :
    (glbInstrTlb op).matchVal &&& (glbInstrTlb op).matchMsk = (glbInstrTlb op).matchVal ↔
      op ∉ strayBitRows := by
  have h := (rowFacts hop).strayBit
  rw [strayBitCheck, beq_iff_eq] at h
  have hdec : (glbInstrTlb op).matchVal &&& (glbInstrTlb op).matchMsk = (glbInstrTlb op).matchVal ↔
      (!strayBitRows.elem op) = true := by
    rw [← h]
    exact decide_eq_true_iff.symm
  rw [hdec, Bool.not_eq_true', ← Bool.not_eq_true, List.elem_iff]

/-- Encoding soundness, for every row without a fixed condition: after `init_raw_instr_bin`
the word matches its row on entry and after every stage, whatever the options, the random
numbers and the status, exactly when the row is not one of the five. -/
theorem stageWords_match_iff {op : Opcode} (hop : op < SISA_OP_MAX) (hcond : condFree op)
    (s : GenState) :
    (∀ w ∈ stageWords op (initRawInstrBin op s),
      w &&& (glbInstrTlb op).matchMsk = (glbInstrTlb op).matchVal) ↔ op ∉ strayBitRows := by
  have hagree := stageWords_agreeOn hop (.inl hcond) (initRawInstrBin_agreeOn op s)
  rw [← matchVal_and_matchMsk_iff hop]
  constructor
  · intro h
    have hmem : (genInstr op (initRawInstrBin op s)).2.rawInstr ∈
        stageWords op (initRawInstrBin op s) :=
      List.mem_of_getLast? (getLast?_stageWords op _)
    rw [← (hagree _ hmem).and_eq]
    exact h _ hmem
  · intro hval w hw
    rw [(hagree w hw).and_eq, hval]

/-- `ADD_imm_T3` is a row whose words match throughout. -/
theorem stageWords_match_ADD_imm_T3 :
    Op.ADD_imm_T3 < SISA_OP_MAX ∧ condFree Op.ADD_imm_T3 ∧ Op.ADD_imm_T3 ∉ strayBitRows ∧
      ∀ w ∈ stageWords Op.ADD_imm_T3 (initRawInstrBin Op.ADD_imm_T3
        (staticState (fun _ => 0) fun _ => 0)),
        w &&& (glbInstrTlb Op.ADD_imm_T3).matchMsk = (glbInstrTlb Op.ADD_imm_T3).matchVal :=
  ⟨by decide, by decide +kernel, by decide,
    (stageWords_match_iff (by decide) (by decide +kernel) _).mpr (by decide)⟩

/-- `VMLAL_int_T2` already fails to match on entry. -/
theorem stageWords_VMLAL_int_T2_mismatch :
    Op.VMLAL_int_T2 < SISA_OP_MAX ∧ condFree Op.VMLAL_int_T2 ∧
      ∃ w ∈ stageWords Op.VMLAL_int_T2 (initRawInstrBin Op.VMLAL_int_T2
        (staticState (fun _ => 0) fun _ => 0)),
        w &&& (glbInstrTlb Op.VMLAL_int_T2).matchMsk ≠ (glbInstrTlb Op.VMLAL_int_T2).matchVal := by
  refine ⟨by decide, by decide +kernel, 0xef800800, ?_, by decide +kernel⟩
  decide +kernel

end Rit
