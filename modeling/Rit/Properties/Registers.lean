import Rit.Properties.Encoding

/-!
# Requested registers are honoured

`set_opnd_bits` hands the entries of `src_regs` or `dst_regs` to the register operands of a row
in order; an operand whose field is fixed takes none.  `consumes` says which operands take one,
so the entry an operand gets is the number of consuming operands before it.

The read-back is proved once for either side: the operand's own write puts the register there,
later operands of the same row write elsewhere.  For outputs the fix-up and the validator, when
no bias option is on, write elsewhere too.
-/

namespace Rit

open BitField GenState

/-! ## Register operands -/

lemma opndTypeOf_of_isGpr {o : Opnd} (h : o.type.isGpr = true) : opndTypeOf o = o.type := by
  unfold opndTypeOf
  rw [if_neg]
  intro ht
  rw [ht] at h
  exact absurd h (by decide)

lemma opndActions_snd (op : Opcode) (side : OpndSide) (o shadow : GenOption) {regIdx : ℕ}
    (hidx : regIdx < MAX_REG_NUM) (opnd : Opnd) :
    (opndActions op side o shadow regIdx opnd).2 = consumes op opnd := by
  unfold opndActions consumes
  cases ht : opndTypeOf opnd
  case gpr | gprSet | gprRw | fpsr | fpdr | fpqr | fpdsr | fpqdr =>
    dsimp only
    split
    · rename_i h
      simpa using h.2
    · rename_i h
      simpa [hidx] using h
  case gprMerge =>
    dsimp only
    split
    · rename_i h
      simpa using h.2
    · rename_i h
      simp only [hidx, true_and, not_and, Bool.not_eq_true, Bool.not_eq_false] at h
      cases h1 : isFixedOprand op opnd.bit1 opnd.bit1
      · simp [h h1]
      · rfl
  all_goals rfl

/-! ## The word under a run of operand actions -/

/-- The effect of an action on the word alone. -/
def OpndAction.runWord (w : Word) : OpndAction → Word
  | .write lowBit highBit newVal => setInstr w lowBit highBit newVal
  | _ => w

lemma OpndAction.run_rawInstr (s : GenState) (a : OpndAction) :
    (a.run s).rawInstr = a.runWord s.rawInstr := by
  cases a with
  | fixedBit startBit endBit =>
    simp only [OpndAction.run, OpndAction.runWord, setInstrFixedBit]
    split <;> rfl
  | chk3bit regBits regVal =>
    simp only [OpndAction.run, OpndAction.runWord, chk3bitReg]
    split
    · rfl
    · split <;> rfl
  | write lowBit highBit newVal => rfl

lemma foldl_run_rawInstr (acts : List OpndAction) (s : GenState) :
    (acts.foldl OpndAction.run s).rawInstr = acts.foldl OpndAction.runWord s.rawInstr := by
  induction acts generalizing s with
  | nil => rfl
  | cons a acts ih =>
    rw [List.foldl_cons, List.foldl_cons, ih, OpndAction.run_rawInstr]

section

variable {op : Opcode} {side : OpndSide} {o shadow : GenOption} {regIdx : ℕ} {opnd : Opnd}

/-- A plain register operand gets its entry written to its field. -/
lemma runWord_regActions (hfp : (opndTypeOf opnd).isFp = false)
    (hszq : ¬ (opndTypeOf opnd = .fpdsr ∨ opndTypeOf opnd = .fpqdr)) (w : Word) :
    (regActions op side o shadow regIdx opnd).foldl OpndAction.runWord w =
      setInstr w opnd.startBit opnd.endBit (side.regs o regIdx) := by
  unfold regActions
  simp only [hfp, hszq, Bool.false_eq_true, false_and, if_false]
  split <;> try split
  all_goals rfl

/-- A merged register operand gets its entry in two pieces. -/
lemma runWord_mergeActions (w : Word) :
    (mergeActions side o shadow regIdx opnd).foldl OpndAction.runWord w =
      setInstr (setInstr w opnd.startBit opnd.endBit (side.regs o regIdx)) opnd.bit1 opnd.bit1
        (shr (side.regs o regIdx) (opnd.endBit - opnd.startBit + 1)) := by
  unfold mergeActions
  split <;> try split
  all_goals rfl

end

/-! ## Reading a register back -/

/-- `get_regnum` reads only the bits of `regMask`. -/
lemma getRegnum_congr {o : Opnd} (ho : o.Ok) (hm : o.mergeOk = true) {w w' : Word}
    (h : AgreeOn o.regMask w w') : getRegnum w o = getRegnum w' o := by
  have hmain : o.mask &&& o.regMask = o.mask := by
    unfold Opnd.regMask
    split
    · exact mask_and_or_left _ _
    · exact BitVec.and_self
  have hfield : getBitsValue w o.startBit o.endBit = getBitsValue w' o.startBit o.endBit := by
    rw [getBitsValue_eq_get _ ho.1 ho.2, getBitsValue_eq_get _ ho.1 ho.2]
    exact get_congr (h.mono hmain)
  unfold getRegnum
  cases ht : o.type
  case gprMerge =>
    have htop : getBitValue w o.bit1 = getBitValue w' o.bit1 := by
      simp only [Opnd.mergeOk, ht, bne_self_eq_false, Bool.false_or, Bool.and_eq_true,
        Nat.blt_eq] at hm
      have hlt : o.bit1 < 32 := by omega
      have hbit : w.getLsbD o.bit1 = w'.getLsbD o.bit1 := by
        apply h
        rw [Opnd.regMask, if_pos ht, BitVec.getLsbD_or, getLsbD_span (w := 32) o.bit1 o.bit1]
        simp [hlt]
      rw [getBitValue_eq _ hlt, getBitValue_eq _ hlt, hbit]
    simp only [hfield, htop]
  all_goals simp only [hfield]

/-- A written field reads back as the value modulo its width. -/
lemma toNat_getBitsValue_setInstr (w v : Word) {lo hi : ℕ} (hlo : lo ≤ hi) (hhi : hi < 31) :
    (getBitsValue (setInstr w lo hi v) lo hi).toNat = v.toNat % 2 ^ (hi - lo + 1) := by
  rw [getBitsValue_eq_get _ hlo hhi, setInstr_eq_set _ _ hlo hhi, get_set_same _ _ hlo (by omega),
    toNat_and_span_zero _ (by omega)]

/-- A merged register number written in two pieces reads back whole. -/
lemma toNat_getRegnum_merge {o : Opnd} (ht : o.type = .gprMerge) (ho : o.Ok)
    (hm : o.mergeOk = true) (w v : Word) :
    (getRegnum (setInstr (setInstr w o.startBit o.endBit v) o.bit1 o.bit1
      (shr v (o.endBit - o.startBit + 1))) o).toNat = v.toNat % 2 ^ o.regWidth := by
  simp only [Opnd.mergeOk, ht, bne_self_eq_false, Bool.false_or, Bool.and_eq_true,
    Bool.or_eq_true, beq_iff_eq, Nat.blt_eq] at hm
  obtain ⟨⟨hwidth, hbit⟩, hdisj⟩ := hm
  have h3 : o.endBit - o.startBit = 2 := by omega
  have hend := ho.2
  -- the low three bits survive the write of the top bit
  have hlow : (getBitsValue (setInstr (setInstr w o.startBit o.endBit v) o.bit1 o.bit1
      (shr v (o.endBit - o.startBit + 1))) o.startBit o.endBit).toNat = v.toNat % 8 := by
    rw [getBitsValue_eq_get _ ho.1 ho.2, setInstr_eq_set _ _ (Nat.le_refl _) hbit,
      get_set_of_disjoint _ _ (by omega), ← getBitsValue_eq_get _ ho.1 ho.2,
      toNat_getBitsValue_setInstr _ _ ho.1 ho.2, h3]
    rfl
  have htop : (setInstr (setInstr w o.startBit o.endBit v) o.bit1 o.bit1
      (shr v (o.endBit - o.startBit + 1))).getLsbD o.bit1 = v.getLsbD 3 := by
    rw [setInstr_eq_set _ _ (Nat.le_refl _) hbit, getLsbD_set, if_pos (by omega), Nat.sub_self, h3,
      shr_of_lt (by decide), BitVec.getLsbD_ushiftRight]
  have hmod : v.toNat % 16 = v.toNat % 8 + if v.getLsbD 3 then 8 else 0 := by
    rw [← BitVec.testBit_toNat, Nat.testBit_eq_decide_div_mod_eq]
    by_cases h : v.toNat / 2 ^ 3 % 2 = 1
    · simp only [h, decide_true, if_true]
      omega
    · simp only [h, decide_false, Bool.false_eq_true, if_false]
      omega
  have hpow : 2 ^ o.regWidth = 16 := by simp [Opnd.regWidth, ht, h3]
  rw [hpow, hmod]
  simp only [getRegnum, ht]
  rw [getBitValue_eq _ (by omega), htop]
  cases v.getLsbD 3 with
  | false => simp [hlow]
  | true =>
    have h8 : (8 : Word).toNat = 8 := rfl
    rw [if_pos (by decide), BitVec.toNat_add, hlow, h8, if_pos rfl]
    omega

/-- What the loop body of `set_opnd_bits` leaves in the field of a register operand. -/
lemma setOpnd_readback {op : Opcode} (side : OpndSide) {acc : ℕ × GenState} {o : Opnd}
    (hidx : acc.1 < MAX_REG_NUM) (hgpr : o.type.isGpr = true) (hc : consumes op o = true)
    (ho : o.Ok) (hm : o.mergeOk = true) :
    (getRegnum (setOpnd op side acc o).2.rawInstr o).toNat =
      (side.regs acc.2.options acc.1).toNat % 2 ^ o.regWidth := by
  have htype := opndTypeOf_of_isGpr hgpr
  unfold consumes at hc
  simp only [setOpnd, foldl_run_rawInstr]
  unfold opndActions
  rw [htype] at hc ⊢
  -- the three plain types write one field, the merged type two
  cases ht : o.type <;> rw [ht] at hgpr hc
  case gpr | gprSet | gprRw =>
    have hfree : ¬ isFixedOprand op o.startBit o.endBit = true := by simpa using hc
    have hfp : (opndTypeOf o).isFp = false := by rw [htype, ht]; rfl
    have hszq : ¬ (opndTypeOf o = .fpdsr ∨ opndTypeOf o = .fpqdr) := by rw [htype, ht]; simp
    dsimp only
    rw [if_pos ⟨hidx, hfree⟩, runWord_regActions hfp hszq]
    simp only [getRegnum, ht]
    rw [toNat_getBitsValue_setInstr _ _ ho.1 ho.2, Opnd.regWidth, if_neg (by rw [ht]; simp)]
  case gprMerge =>
    have hfree : ¬ isFixedOprand op o.bit1 o.bit1 = true ∧
        ¬ isFixedOprand op o.startBit o.endBit = true := by simpa using hc
    dsimp only
    rw [if_pos ⟨hidx, hfree⟩, runWord_mergeActions]
    exact toNat_getRegnum_merge ht ho hm _ _
  all_goals exact absurd hgpr (by decide)

lemma setOpnd_fst {op : Opcode} {side : OpndSide} {acc : ℕ × GenState}
    (hidx : acc.1 < MAX_REG_NUM) (o : Opnd) :
    (setOpnd op side acc o).1 = acc.1 + if consumes op o then 1 else 0 := by
  simp only [setOpnd, opndActions_snd op side _ _ hidx]
  cases consumes op o <;> rfl

lemma foldl_setOpnd_fst {op : Opcode} {side : OpndSide} (opnds : List Opnd) (acc : ℕ × GenState)
    (hlen : acc.1 + opnds.length ≤ MAX_REG_NUM) :
    (opnds.foldl (setOpnd op side) acc).1 = acc.1 + opnds.countP (consumes op) := by
  induction opnds generalizing acc with
  | nil => rfl
  | cons o opnds ih =>
    simp only [List.length_cons] at hlen
    have hhead : (setOpnd op side acc o).1 = _ :=
      setOpnd_fst (show acc.1 < MAX_REG_NUM by omega) o
    have hle : (setOpnd op side acc o).1 + opnds.length ≤ MAX_REG_NUM := by
      rw [hhead]
      split <;> omega
    rw [List.foldl_cons, ih _ hle, hhead, List.countP_cons]
    omega

/-- Bits that no later operand writes are those the operand left, in the state and with the
register index its predecessors lead to. -/
lemma setOpndBits_agreeOn {op : Opcode} (hop : op < SISA_OP_MAX) (side : OpndSide)
    {pre post : List Opnd} {o : Opnd} (hsplit : side.opnds (glbInstrTlb op) = pre ++ o :: post)
    {m : Word} (hpost : ∀ o' ∈ post, opndMask op o' &&& m = 0#32) (s : GenState) :
    ∃ acc : ℕ × GenState, acc.1 = pre.countP (consumes op) ∧ acc.1 < MAX_REG_NUM ∧
      acc.2.options = s.options ∧
      AgreeOn m (setOpndBits op side s).rawInstr (setOpnd op side acc o).2.rawInstr := by
  have hmem : ∀ o' ∈ pre ++ o :: post, o' ∈ side.opnds (glbInstrTlb op) :=
    fun o' h => hsplit ▸ h
  have hlen : pre.length < MAX_REG_NUM := by
    have htotal : (side.opnds (glbInstrTlb op)).length ≤ MAX_REG_NUM := by
      cases side <;> simp [OpndSide.opnds, InstrDesc.inputs, InstrDesc.outputs, MAX_REG_NUM]
    rw [hsplit, List.length_append, List.length_cons] at htotal
    omega
  have hidx : (pre.foldl (setOpnd op side) (0, s)).1 = pre.countP (consumes op) := by
    rw [foldl_setOpnd_fst pre (0, s) (by simpa using Nat.le_of_lt hlen), Nat.zero_add]
  refine ⟨pre.foldl (setOpnd op side) (0, s), hidx, ?_, ?_, ?_⟩
  · rw [hidx]
    exact Nat.lt_of_le_of_lt List.countP_le_length hlen
  · refine (foldl_setOpnd_sets hop (m := opndsMask op pre) (fun o' h => hmem o' ?_)
      (fun _ h => and_union_of_mem (List.mem_map_of_mem h)) (0, s)).options
    exact List.mem_append_left _ h
  · have hlater := (foldl_setOpnd_sets hop (m := opndsMask op post)
      (fun o' h => hmem o' (List.mem_append_right _ (List.mem_cons_of_mem o h)))
      (fun _ h => and_union_of_mem (List.mem_map_of_mem h))
      (setOpnd op side (pre.foldl (setOpnd op side) (0, s)) o)).raw
    have hdisj : opndsMask op post &&& m = 0#32 := by
      refine union_and_eq_zero fun m' hm' => ?_
      obtain ⟨o', ho', rfl⟩ := List.mem_map.mp hm'
      exact hpost o' ho'
    rw [setOpndBits, hsplit, List.foldl_append, List.foldl_cons]
    exact hlater.agreeOn hdisj

/-- The read-back on either side: a register operand holds its entry of the register array,
provided the operands after it write elsewhere. -/
theorem setOpndBits_readback {op : Opcode} (hop : op < SISA_OP_MAX) (side : OpndSide)
    {pre post : List Opnd} {o : Opnd} (hsplit : side.opnds (glbInstrTlb op) = pre ++ o :: post)
    (hgpr : o.type.isGpr = true) (hc : consumes op o = true) (ho : o.Ok) (hm : o.mergeOk = true)
    (hpost : ∀ o' ∈ post, opndMask op o' &&& o.regMask = 0#32) (s : GenState) :
    (getRegnum (setOpndBits op side s).rawInstr o).toNat =
      (side.regs s.options (pre.countP (consumes op))).toNat % 2 ^ o.regWidth := by
  obtain ⟨acc, hidx, hlt, hopts, hagree⟩ := setOpndBits_agreeOn hop side hsplit hpost s
  have hown := setOpnd_readback side hlt hgpr hc ho hm
  rw [hidx, hopts] at hown
  rw [← hown, getRegnum_congr ho hm hagree]

/-! ## Inputs -/

/-- The word entering the validator differs from the initial one only on the bits of the
operand stages and the fix-up. -/
lemma preValidate_agreeOff {op : Opcode} (hop : op < SISA_OP_MAX) (s : GenState) :
    AgreeOff (fixMask op ||| operandMask op) (preValidate op s).rawInstr s.rawInstr := by
  have hfix := (fixUnpredictableBit_sets op (takeOrig (operandStages op (beginInstr s))).2).raw
  rw [takeOrig_rawInstr] at hfix
  exact hfix.comp (operandStages_sets hop (beginInstr s)).raw

/-- A register input that nothing after it overwrites holds its entry of `src_regs` when the
validator starts. -/
lemma preValidate_input {op : Opcode} (hop : op < SISA_OP_MAX) {pre post : List Opnd} {o : Opnd}
    (hsplit : (glbInstrTlb op).inputs = pre ++ o :: post) (hgpr : o.type.isGpr = true)
    (hc : consumes op o = true) (ho : o.Ok) (hm : o.mergeOk = true)
    (hpost : ∀ o' ∈ post, opndMask op o' &&& o.regMask = 0#32)
    (hdst : opndsMask op (glbInstrTlb op).outputs &&& o.regMask = 0#32)
    (hfix : fixMask op &&& o.regMask = 0#32) (s : GenState) :
    (getRegnum (preValidate op s).rawInstr o).toNat =
      (s.options.srcRegs (pre.countP (consumes op))).toNat % 2 ^ o.regWidth := by
  have hback := setOpndBits_readback hop .src hsplit hgpr hc ho hm hpost
    (setArmCondBits op (setSbit op (beginInstr s)))
  have hopts : (setArmCondBits op (setSbit op (beginInstr s))).options = s.options := by
    rw [(setArmCondBits_sets op _).options, (setSbit_sets op _).options]
    rfl
  rw [hopts] at hback
  rw [getRegnum_congr ho hm (preValidate_agreeOn_src hop hdst hfix s)]
  exact hback

/-- The field `Rn` of most encodings. -/
def rnOpnd : Opnd := ⟨16, 19, 0, 0, .gpr⟩

/-- The field `Rm` of most encodings. -/
def rmOpnd : Opnd := ⟨0, 3, 0, 0, .gpr⟩

/-- Input `k` of the row is `o`, takes entry `idx` of `src_regs`, and no later write meets it. -/
def inputCheck (op : Opcode) (o : Opnd) (k idx : ℕ) : Bool :=
  let inputs := (glbInstrTlb op).inputs
  inputs == inputs.take k ++ o :: inputs.drop (k + 1) && o.type.isGpr && consumes op o &&
    o.Ok && o.mergeOk &&
    (inputs.drop (k + 1)).all (fun o' => opndMask op o' &&& o.regMask == 0#32) &&
    opndsMask op (glbInstrTlb op).outputs &&& o.regMask == 0#32 &&
    fixMask op &&& o.regMask == 0#32 && (inputs.take k).countP (consumes op) == idx

lemma preValidate_input_of_check {op : Opcode} (hop : op < SISA_OP_MAX) {o : Opnd} {k idx : ℕ}
    (h : inputCheck op o k idx = true) (s : GenState) :
    (getRegnum (preValidate op s).rawInstr o).toNat =
      (s.options.srcRegs idx).toNat % 2 ^ o.regWidth := by
  simp only [inputCheck, Bool.and_eq_true, beq_iff_eq, decide_eq_true_eq, List.all_eq_true] at h
  obtain ⟨⟨⟨⟨⟨⟨⟨⟨hsplit, hgpr⟩, hc⟩, ho⟩, hm⟩, hpost⟩, hdst⟩, hfix⟩, hidx⟩ := h
  rw [← hidx]
  exact preValidate_input hop hsplit hgpr hc ho hm hpost hdst hfix s

/-! ## Outputs -/

section Outputs

variable {op : Opcode} {o : Opnd}

lemma fixMask_and_regMask (ho : o ∈ (glbInstrTlb op).outputs) (hgpr : o.type.isGpr = true)
    (hc : consumes op o = true) : fixMask op &&& o.regMask = 0#32 := by
  refine union_and_eq_zero fun m hm => ?_
  obtain ⟨a, ha, rfl⟩ := List.mem_map.mp hm
  have h := fixCheck_fixActions op
  simp only [fixCheck, Bool.and_eq_true, List.all_eq_true, Bool.or_eq_true, Bool.not_eq_true',
    beq_iff_eq] at h
  have hout := (h.2 a ha).2 o ho
  simpa [hgpr, hc] using hout

lemma rewriteMask_and_regMask (ho : o ∈ (glbInstrTlb op).outputs) (hgpr : o.type.isGpr = true) :
    rewriteMask op &&& o.regMask = 0#32 := by
  by_cases h : op ∈ alignOps ++ thumb32MiscOps
  · exact (rewriteMask_free op h).2 o ho hgpr
  · rw [rewriteMask_of_not_mem h]
    exact BitVec.zero_and

lemma output_ok (hop : op < SISA_OP_MAX) (ho : o ∈ (glbInstrTlb op).outputs)
    (hgpr : o.type.isGpr = true) : o.Ok ∧ o.mergeOk = true := by
  constructor
  · have hmain : (o.startBit, o.endBit) ∈ opndFields op o := by
      unfold opndFields
      rw [opndTypeOf_of_isGpr hgpr]
      cases ht : o.type <;> rw [ht] at hgpr
      case gpr | gprRw | gprSet | gprMerge => exact List.mem_cons_self
      all_goals exact absurd hgpr (by decide)
    exact opndFields_ok hop .dst ho hmain
  · have h := (rowFacts hop).output
    rw [outputCheck, Bool.and_eq_true, List.all_eq_true] at h
    exact h.1 o ho

/-- The operands after an output do not write to its register number. -/
lemma output_post (hop : op < SISA_OP_MAX) {pre post : List Opnd}
    (hsplit : (glbInstrTlb op).outputs = pre ++ o :: post) (hgpr : o.type.isGpr = true) :
    ∀ o' ∈ post, opndMask op o' &&& o.regMask = 0#32 := by
  intro o' ho'
  have h := (rowFacts hop).output
  simp only [outputCheck, Bool.and_eq_true, Bool.or_eq_true, Bool.not_eq_true', List.all_eq_true,
    beq_iff_eq] at h
  -- with two outputs, something follows only the first
  obtain ⟨rfl, rfl⟩ : o = (glbInstrTlb op).output0 ∧ o' = (glbInstrTlb op).output1 := by
    rcases pre with _ | ⟨p, pre⟩
    · rw [InstrDesc.outputs, List.nil_append, List.cons.injEq] at hsplit
      rw [← hsplit.2, List.mem_singleton] at ho'
      exact ⟨hsplit.1.symm, ho'⟩
    · have hlen := congrArg List.length hsplit
      have hpos := List.length_pos_of_mem ho'
      simp only [InstrDesc.outputs, List.length_cons, List.length_append, List.length_nil] at hlen
      omega
  refine union_and_eq_zero fun m hm => ?_
  obtain ⟨p, hp, rfl⟩ := List.mem_map.mp hm
  rcases h.2 with hno | hall
  · rw [hgpr] at hno
    exact absurd hno (by decide)
  · exact hall p (List.mem_filter.mp hp).1

/-- A register output holds its entry of `dst_regs` when the validator starts. -/
lemma preValidate_output (hop : op < SISA_OP_MAX) {pre post : List Opnd}
    (hsplit : (glbInstrTlb op).outputs = pre ++ o :: post) (hgpr : o.type.isGpr = true)
    (hfree : consumes op o = true) (s : GenState) :
    (getRegnum (preValidate op s).rawInstr o).toNat =
      (s.options.dstRegs (pre.countP (consumes op))).toNat % 2 ^ o.regWidth := by
  have ho : o ∈ (glbInstrTlb op).outputs := by simp [hsplit]
  obtain ⟨hok, hmerge⟩ := output_ok hop ho hgpr
  -- the operand stage puts the entry there
  have hback := setOpndBits_readback hop .dst hsplit hgpr hfree hok hmerge
    (output_post hop hsplit hgpr)
    (setSrcOpndBits op (setArmCondBits op (setSbit op (beginInstr s))))
  have hopts : (setSrcOpndBits op (setArmCondBits op (setSbit op (beginInstr s)))).options =
      s.options := by
    rw [setSrcOpndBits, (setOpndBits_sets hop .src _).options, (setArmCondBits_sets op _).options,
      (setSbit_sets op _).options]
    rfl
  rw [hopts] at hback
  -- the fix-up leaves it
  have hfix := (fixUnpredictableBit_sets op (takeOrig (operandStages op (beginInstr s))).2).raw
  rw [takeOrig_rawInstr] at hfix
  rw [preValidate, getRegnum_congr hok hmerge
    (hfix.agreeOn (fixMask_and_regMask ho hgpr hfree))]
  exact hback

end Outputs

/-- Without a bias option, every general-purpose output register whose field the row leaves
free reads back as its entry of `dst_regs`: outputs take the entries in order, skipping fixed
fields, and a field keeps the entry modulo its width. -/
theorem genInstr_output_eq_dstRegs {op : Opcode} (hop : op < SISA_OP_MAX) {s : GenState}
    (hopnd : s.optStat .allowBiasOpnd = false) (hreg : s.optStat .allowBiasReg = false)
    (hvalid : (genInstr op s).1 = .valid) {pre post : List Opnd} {o : Opnd}
    (hsplit : (glbInstrTlb op).outputs = pre ++ o :: post) (hgpr : o.type.isGpr = true)
    (hfree : consumes op o = true) :
    (getRegnum (genInstr op s).2.rawInstr o).toNat =
      (s.options.dstRegs (pre.countP (consumes op))).toNat % 2 ^ o.regWidth := by
  have ho : o ∈ (glbInstrTlb op).outputs := by simp [hsplit]
  obtain ⟨hok, hmerge⟩ := output_ok hop ho hgpr
  -- the validator leaves what it finds
  have hmask : validatorMask op (preValidate op s) &&& o.regMask = 0#32 := by
    have hbiased : (preValidate op s).biased = false := by
      simp only [biased, optStat, preValidate_options hop] at hopnd hreg ⊢
      rw [hopnd, hreg, Bool.or_false]
    rw [validatorMask, hbiased, if_neg (by simp)]
    exact or_and_eq_zero (rewriteMask_and_regMask ho hgpr) BitVec.zero_and
  have hval := (validate_writes op (preValidate op s)).raw.agreeOn hmask
  rw [(genInstr_valid hvalid).2.1, getRegnum_congr hok hmerge hval]
  exact preValidate_output hop hsplit hgpr hfree s

/-- A state with sources `r1`, `r2`, … and destinations `r5`, `r6`, …. -/
def sampleState : GenState :=
  { staticState (fun _ => 0) fun _ => 0 with
    options := { initOptions with
      isa := .armv7, srcRegs := fun i => .ofNat 32 (i + 1)
      dstRegs := fun i => .ofNat 32 (i + 5) } }

/-- The low result register of `SMULL` is its second output and takes the second entry. -/
theorem genInstr_SMULL_output1 :
    (genInstr Op.SMULL sampleState).1 = .valid ∧
      (getRegnum (genInstr Op.SMULL sampleState).2.rawInstr
        (glbInstrTlb Op.SMULL).output1).toNat = (6 : Word).toNat % 2 ^ 4 := by
  refine ⟨by decide +kernel, ?_⟩
  have hsplit : (glbInstrTlb Op.SMULL).outputs =
      [(glbInstrTlb Op.SMULL).output0] ++ (glbInstrTlb Op.SMULL).output1 :: [] := rfl
  exact genInstr_output_eq_dstRegs (s := sampleState) (by decide) (by decide +kernel)
    (by decide +kernel) (by decide +kernel) hsplit (by decide +kernel) (by decide +kernel)

end Rit
