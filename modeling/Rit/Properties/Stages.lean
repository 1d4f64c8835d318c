import Rit.Properties.Frame

/-!
# The stages before the validator

The S bit, the condition, the operands and the fix-up rewrite the instruction word under masks
that depend on the row only.  `Sets m s s'` is the frame of these stages: it differs from
`Writes` in that they also record requested bits.

`opndFields` lists the fields an operand can be written to; `set_opnd_bits` writes those the
match mask of the row leaves free, and `opndMask` is their union.  The fix-up is the one stage
whose writes may meet the match mask, so for it the file also has the exact bitwise effect.
-/

namespace Rit

open BitField GenState

/-! ## The frame -/

/-- A stage that writes at most the bits `m` of the word and records requested bits. -/
structure Sets (m : Word) (s s' : GenState) : Prop where
  raw : AgreeOff m s'.rawInstr s.rawInstr
  rest : s' = { s with
    rawInstr := s'.rawInstr, instrFixedBit := s'.instrFixedBit, isRegBitCut := s'.isRegBitCut }

namespace Sets

variable {m m' : Word} {s s' s'' : GenState}

lemma refl (m : Word) (s : GenState) : Sets m s s := ⟨.refl m _, rfl⟩

lemma trans (h : Sets m s s') (h' : Sets m s' s'') : Sets m s s'' where
  raw := h'.raw.trans h.raw
  rest := by rw [h'.rest, h.rest]

lemma mono (h : Sets m s s') (hm : m &&& m' = m) : Sets m' s s' := ⟨h.raw.mono hm, h.rest⟩

lemma comp (h : Sets m s s') (h' : Sets m' s' s'') : Sets (m ||| m') s s'' where
  raw := by
    have := h'.raw.comp h.raw
    rwa [BitVec.or_comm] at this
  rest := by rw [h'.rest, h.rest]

lemma options (h : Sets m s s') : s'.options = s.options := by rw [h.rest]

lemma shadowOptions (h : Sets m s s') : s'.shadowOptions = s.shadowOptions := by rw [h.rest]

lemma instrBuf (h : Sets m s s') : s'.instrBuf = s.instrBuf := by rw [h.rest]

end Sets

lemma sets_setRawInstr {m w : Word} {s : GenState} (h : AgreeOff m w s.rawInstr) :
    Sets m s (s.setRawInstr w) := ⟨h, rfl⟩

lemma sets_setInstrFixedBit (m : Word) (startBit endBit : ℕ) (s : GenState) :
    Sets m s (setInstrFixedBit startBit endBit s) := by
  unfold setInstrFixedBit
  split
  · exact .refl m s
  · exact ⟨.refl m _, rfl⟩

lemma sets_chk3bitReg (m : Word) (regBits : ℕ) (regVal : Word) (s : GenState) :
    Sets m s (chk3bitReg regBits regVal s) := by
  unfold chk3bitReg
  split
  · exact .refl m s
  split
  · exact ⟨.refl m _, rfl⟩
  · exact .refl m s

/-! ## The S bit and the condition -/

/-- The bits `set_sbit` may write. -/
def sbitMask (op : Opcode) : Word := if isFixedOprand op 20 20 then 0 else span 32 20 20

/-- The bits `set_arm_cond_bits` may write. -/
def armCondMask (op : Opcode) : Word := if op < SISA_OP_ARM_MAX then condMask else 0

lemma setSbit_sets (op : Opcode) (s : GenState) : Sets (sbitMask op) s (setSbit op s) := by
  unfold setSbit
  split
  · rename_i h
    rw [sbitMask, if_neg h.2]
    have hrec : Sets (span 32 20 20) s
        (if s.shadowOptions.sbitVal ≠ .rand then setInstrFixedBit 20 20 s else s) := by
      split
      · exact sets_setInstrFixedBit _ 20 20 s
      · exact .refl _ s
    refine hrec.trans ?_
    generalize (if s.shadowOptions.sbitVal ≠ .rand then setInstrFixedBit 20 20 s else s) = s₁
    dsimp only
    split
    · exact sets_setRawInstr (agreeOff_or _ (by decide))
    · exact sets_setRawInstr (agreeOff_and _ (by decide))
  · exact .refl _ s

lemma encodeCond_sets (s : GenState) : Sets condMask s (encodeCond s) := by
  unfold encodeCond
  split
  · have hrec : Sets condMask s
        (if s.shadowOptions.condVal ≠ COND_RAND then setInstrFixedBit condMaskBit 31 s else s) := by
      split
      · exact sets_setInstrFixedBit _ _ _ s
      · exact .refl _ s
    refine hrec.trans (sets_setRawInstr (AgreeOff.trans (agreeOff_and _ ?_)
      (agreeOff_or _ BitVec.and_self)))
    rw [BitVec.not_or, BitVec.not_not, BitVec.and_comm condMask, BitVec.and_assoc,
      BitVec.and_self]
  · exact .refl _ s

lemma clearNeverCond_sets (s : GenState) : Sets condMask s (clearNeverCond s) := by
  unfold clearNeverCond
  split
  · exact sets_setRawInstr (agreeOff_and _ (by decide))
  · exact .refl _ s

lemma setArmCondBits_sets (op : Opcode) (s : GenState) :
    Sets (armCondMask op) s (setArmCondBits op s) := by
  unfold setArmCondBits
  split
  · rename_i h
    rw [armCondMask, if_pos h.2]
    exact (encodeCond_sets s).trans (clearNeverCond_sets _)
  · exact .refl _ s

/-! ## Operands -/

/-- A write of the action lands in one of the fields, and the row leaves that field free. -/
def OpndAction.Free (op : Opcode) (fields : List (ℕ × ℕ)) : OpndAction → Prop
  | .write lowBit highBit _ =>
    (lowBit, highBit) ∈ fields ∧ isFixedOprand op lowBit highBit = false
  | _ => True

section OpndActions

variable (op : Opcode) (side : OpndSide) (o shadow : GenOption) (regIdx : ℕ) (opnd : Opnd)

lemma shiftTypeActions_free {fields : List (ℕ × ℕ)} {lo hi : ℕ} (hmem : (lo, hi) ∈ fields)
    (val : Word) : ∀ a ∈ shiftTypeActions op o shadow lo hi val, a.Free op fields := by
  unfold shiftTypeActions
  split
  · simp
  · rename_i h
    simp only [List.mem_append, List.mem_ite_nil_right, List.mem_singleton]
    rintro a (⟨-, rfl⟩ | rfl)
    · trivial
    · exact ⟨hmem, by simpa using h⟩

lemma plainActions_free {fields : List (ℕ × ℕ)} (hmem : (opnd.startBit, opnd.endBit) ∈ fields)
    (k : OptionKind) (val : Word) : ∀ a ∈ plainActions op o opnd k val, a.Free op fields := by
  unfold plainActions
  split
  · simp
  · rename_i h
    simp only [List.mem_append, List.mem_ite_nil_right, List.mem_singleton]
    rintro a (⟨-, rfl⟩ | rfl)
    · trivial
    · exact ⟨hmem, by simpa using h⟩

lemma expActions_free {fields : List (ℕ × ℕ)} {iBitPos immStart immEnd : ℕ}
    (hmain : (opnd.startBit, opnd.endBit) ∈ fields) (himm : (immStart, immEnd) ∈ fields)
    (hi : (iBitPos, iBitPos) ∈ fields) :
    ∀ a ∈ expActions op o opnd iBitPos immStart immEnd, a.Free op fields := by
  unfold expActions
  split
  · rename_i h
    obtain ⟨h1, h2, h3⟩ := h
    simp only [List.mem_append, List.mem_ite_nil_right, List.mem_cons, List.not_mem_nil, or_false]
    rintro a (⟨-, rfl | rfl | rfl⟩ | rfl | rfl | rfl)
    · trivial
    · trivial
    · trivial
    · exact ⟨hmain, by simpa using h3⟩
    · exact ⟨himm, by simpa using h2⟩
    · exact ⟨hi, by simpa using h1⟩
  · simp

lemma regActions_free {fields : List (ℕ × ℕ)} (hmain : (opnd.startBit, opnd.endBit) ∈ fields)
    (hfree : isFixedOprand op opnd.startBit opnd.endBit = false)
    (hext : (opndTypeOf opnd).isFp = true → (opnd.bit1, opnd.bit1) ∈ fields)
    (hszq : opndTypeOf opnd = .fpdsr ∨ opndTypeOf opnd = .fpqdr →
      (opnd.bit2, opnd.bit2) ∈ fields) :
    ∀ a ∈ regActions op side o shadow regIdx opnd, a.Free op fields := by
  unfold regActions
  simp only [List.mem_append, List.mem_ite_nil_right, List.mem_singleton]
  rintro a (((⟨-, ⟨-, rfl⟩ | rfl⟩ | rfl) | ⟨h, ⟨-, rfl⟩ | rfl⟩) | ⟨h, ⟨-, rfl⟩ | rfl⟩)
  · trivial
  · trivial
  · exact ⟨hmain, hfree⟩
  · trivial
  · exact ⟨hext h.1, by simpa using h.2⟩
  · trivial
  · exact ⟨hszq h.1, by simpa using h.2⟩

lemma mergeActions_free {fields : List (ℕ × ℕ)} (hmain : (opnd.startBit, opnd.endBit) ∈ fields ∧
      isFixedOprand op opnd.startBit opnd.endBit = false)
    (htop : (opnd.bit1, opnd.bit1) ∈ fields ∧ isFixedOprand op opnd.bit1 opnd.bit1 = false) :
    ∀ a ∈ mergeActions side o shadow regIdx opnd, a.Free op fields := by
  unfold mergeActions
  simp only [List.mem_append, List.mem_ite_nil_right, List.mem_cons, List.not_mem_nil, or_false]
  rintro a (⟨-, ⟨-, rfl | rfl⟩ | rfl⟩ | rfl | rfl)
  · trivial
  · trivial
  · trivial
  · exact hmain
  · exact htop

/-- `set_opnd_bits` writes only to fields of the operand that the row leaves free. -/
lemma opndActions_free :
    ∀ a ∈ (opndActions op side o shadow regIdx opnd).1, a.Free op (opndFields op opnd) := by
  have hreg : ∀ {fields : List (ℕ × ℕ)}, (opnd.startBit, opnd.endBit) ∈ fields →
      ((opndTypeOf opnd).isFp = true → (opnd.bit1, opnd.bit1) ∈ fields) →
      (opndTypeOf opnd = .fpdsr ∨ opndTypeOf opnd = .fpqdr → (opnd.bit2, opnd.bit2) ∈ fields) →
      ∀ a ∈ (if regIdx < MAX_REG_NUM ∧ ¬ isFixedOprand op opnd.startBit opnd.endBit then
        (regActions op side o shadow regIdx opnd, true) else ([], false)).1, a.Free op fields := by
    intro fields hmain hext hszq
    split
    · rename_i h
      exact regActions_free op side o shadow regIdx opnd hmain (by simpa using h.2) hext hszq
    · simp
  unfold opndActions opndFields
  cases ht : opndTypeOf opnd <;> rw [ht] at hreg
  case gpr | gprSet | gprRw => exact hreg (by simp) (by simp [OpndType.isFp]) (by simp)
  case fpsr | fpdr | fpqr => exact hreg (by simp) (by simp) (by simp)
  case fpdsr | fpqdr => exact hreg (by simp) (by simp) (by simp)
  case gprList | gprListT | imm | immArmExp | immSignExtend | cond =>
    exact plainActions_free op o opnd (by simp) _ _
  case shiftReg | rotateReg =>
    simp only [List.forall_mem_append]
    refine ⟨?_, shiftTypeActions_free op o shadow (by simp) _⟩
    split
    · simp
    · rename_i h
      simp only [List.mem_append, List.mem_ite_nil_right, List.mem_singleton]
      rintro a (⟨-, ⟨-, rfl⟩ | rfl⟩ | rfl)
      · trivial
      · trivial
      · exact ⟨by simp, by simpa using h⟩
  case gprMerge =>
    dsimp only
    split
    · rename_i h
      exact mergeActions_free op side o shadow regIdx opnd ⟨by simp, by simpa using h.2.2⟩
        ⟨by simp, by simpa using h.2.1⟩
    · simp
  case immMerge | immVfpExpand =>
    dsimp only
    split
    · rename_i h
      simp only [List.mem_append, List.mem_ite_nil_right, List.mem_cons, List.not_mem_nil,
        or_false]
      rintro a (⟨-, rfl | rfl⟩ | rfl | rfl)
      · trivial
      · trivial
      · exact ⟨by simp, by simpa using h.2⟩
      · exact ⟨by simp, by simpa using h.1⟩
    · simp
  case shiftImm =>
    simp only [List.forall_mem_append]
    exact ⟨plainActions_free op o opnd (by simp) _ _,
      shiftTypeActions_free op o shadow (by simp) _⟩
  case shiftImmT =>
    simp only [List.forall_mem_append]
    refine ⟨⟨?_, shiftTypeActions_free op o shadow (by simp) _⟩,
      shiftTypeActions_free op o shadow (by simp) _⟩
    split
    · rename_i h
      simp only [List.mem_append, List.mem_ite_nil_right, List.mem_cons, List.not_mem_nil,
        or_false]
      rintro a (⟨-, rfl | rfl⟩ | rfl | rfl)
      · trivial
      · trivial
      · exact ⟨by simp, by simpa using h.1⟩
      · exact ⟨by simp, by simpa using h.2⟩
    · simp
  case immThumbExp | immSimdExp =>
    exact expActions_free op o opnd (by simp) (by simp) (by simp)
  all_goals simp

end OpndActions

lemma opndFields_ok {op : Opcode} (hop : op < SISA_OP_MAX) (side : OpndSide) {opnd : Opnd}
    (ho : opnd ∈ side.opnds (glbInstrTlb op)) {p : ℕ × ℕ} (hp : p ∈ opndFields op opnd) :
    p.1 ≤ p.2 ∧ p.2 < 31 := by
  have h := (rowFacts hop).fields
  have hmem : opnd ∈ (glbInstrTlb op).outputs ++ (glbInstrTlb op).inputs := by
    cases side with
    | src => exact List.mem_append_right _ ho
    | dst => exact List.mem_append_left _ ho
  simp only [fieldsOk, List.all_eq_true, Bool.and_eq_true, Nat.ble_eq, Nat.blt_eq] at h
  obtain ⟨hle, hlt⟩ := (h opnd hmem).2 p hp
  split_ifs at hlt <;> omega

lemma OpndAction.run_sets {op : Opcode} {fields : List (ℕ × ℕ)} {a : OpndAction}
    (hok : ∀ p ∈ fields, p.1 ≤ p.2 ∧ p.2 < 31) (ha : a.Free op fields) (s : GenState) :
    Sets (freeFieldsMask op fields) s (a.run s) := by
  cases a with
  | fixedBit startBit endBit => exact sets_setInstrFixedBit _ startBit endBit s
  | chk3bit regBits regVal => exact sets_chk3bitReg _ regBits regVal s
  | write lowBit highBit newVal =>
    obtain ⟨hmem, hfree⟩ := ha
    obtain ⟨hlo, hhi⟩ := hok _ hmem
    have hsub : span 32 lowBit highBit ∈
        (fields.filter fun p => !isFixedOprand op p.1 p.2).map fun p => span 32 p.1 p.2 :=
      List.mem_map.mpr ⟨(lowBit, highBit), List.mem_filter.mpr ⟨hmem, by simp [hfree]⟩, rfl⟩
    exact sets_setRawInstr ((setInstr_agreeOff _ newVal hlo hhi).mono (and_union_of_mem hsub))

/-- A run of actions under a mask stays under it. -/
lemma sets_foldl {α : Type} {m : Word} {f : GenState → α → GenState} {l : List α}
    (h : ∀ a ∈ l, ∀ s, Sets m s (f s a)) (s : GenState) : Sets m s (l.foldl f s) := by
  induction l generalizing s with
  | nil => exact .refl m s
  | cons a l ih =>
    have htail := ih (fun b hb => h b (List.mem_cons_of_mem a hb)) (f s a)
    exact (h a List.mem_cons_self s).trans htail

lemma setOpnd_sets {op : Opcode} (hop : op < SISA_OP_MAX) {side : OpndSide} {opnd : Opnd}
    (ho : opnd ∈ side.opnds (glbInstrTlb op)) (acc : ℕ × GenState) :
    Sets (opndMask op opnd) acc.2 (setOpnd op side acc opnd).2 := by
  refine sets_foldl (fun a ha s => ?_) acc.2
  exact OpndAction.run_sets (fun p hp => opndFields_ok hop side ho hp)
    (opndActions_free _ _ _ _ _ _ a ha) s

lemma foldl_setOpnd_sets {op : Opcode} (hop : op < SISA_OP_MAX) {side : OpndSide}
    {opnds : List Opnd} (ho : ∀ o ∈ opnds, o ∈ side.opnds (glbInstrTlb op)) {m : Word}
    (hm : ∀ o ∈ opnds, opndMask op o &&& m = opndMask op o) (acc : ℕ × GenState) :
    Sets m acc.2 (opnds.foldl (setOpnd op side) acc).2 := by
  induction opnds generalizing acc with
  | nil => exact .refl m acc.2
  | cons o opnds ih =>
    have hhead := (setOpnd_sets hop (ho o List.mem_cons_self) acc).mono (hm o List.mem_cons_self)
    exact hhead.trans (ih (fun o' ho' => ho o' (List.mem_cons_of_mem o ho'))
      (fun o' ho' => hm o' (List.mem_cons_of_mem o ho')) _)

lemma setOpndBits_sets {op : Opcode} (hop : op < SISA_OP_MAX) (side : OpndSide) (s : GenState) :
    Sets (opndsMask op (side.opnds (glbInstrTlb op))) s (setOpndBits op side s) :=
  foldl_setOpnd_sets hop (fun _ h => h)
    (fun _ h => and_union_of_mem (List.mem_map_of_mem h)) (0, s)

/-! ## The match mask -/

/-- A free field has no bit in common with the match mask. -/
lemma span_and_matchMsk {op : Opcode} {lo hi : ℕ} (h : isFixedOprand op lo hi = false) :
    span 32 lo hi &&& (glbInstrTlb op).matchMsk = 0#32 := by
  apply BitVec.eq_of_getLsbD_eq
  intro i _
  rw [BitVec.getLsbD_and, getLsbD_span, BitVec.getLsbD_zero]
  by_cases hi' : lo ≤ i ∧ i ≤ hi ∧ i < 32
  · have hmem : i ∈ List.range' lo (hi + 1 - lo) := by
      rw [List.mem_range'_1]
      omega
    have hbit := List.any_eq_false.mp h i hmem
    rw [decide_eq_true_eq, getBitValue_eq_one_iff _ hi'.2.2, Bool.not_eq_true] at hbit
    rw [hbit, Bool.and_false]
  · rw [decide_eq_false hi', Bool.false_and]

lemma opndsMask_and_matchMsk (op : Opcode) (opnds : List Opnd) :
    opndsMask op opnds &&& (glbInstrTlb op).matchMsk = 0#32 := by
  refine union_and_eq_zero fun m hm => ?_
  obtain ⟨o, -, rfl⟩ := List.mem_map.mp hm
  refine union_and_eq_zero fun m hm => ?_
  obtain ⟨p, hp, rfl⟩ := List.mem_map.mp hm
  have hfree := (List.mem_filter.mp hp).2
  exact span_and_matchMsk (by simpa using hfree)

lemma sbitMask_and_matchMsk (op : Opcode) : sbitMask op &&& (glbInstrTlb op).matchMsk = 0#32 := by
  unfold sbitMask
  split
  · exact BitVec.zero_and
  · rename_i h
    exact span_and_matchMsk (by simpa using h)

/-! ## The fix-up -/

lemma shl_one_eq_span {i : ℕ} (hi : i < 32) : shl 1 i = span 32 i i := by
  apply BitVec.eq_of_getLsbD_eq
  intro j _
  rw [getLsbD_shl_one hi, getLsbD_span, decide_eq_decide]
  omega

/-- `clear_bits` keeps exactly the bits outside the field. -/
lemma clearBits_eq (w : Word) {lo hi : ℕ} (hlo : lo ≤ hi) (hhi : hi < 31) :
    clearBits w lo hi = w &&& ~~~span 32 lo hi := by
  apply BitVec.eq_of_getLsbD_eq
  intro i hi'
  have hones : ∀ j, (0xffffffff : Word).getLsbD j = decide (j < 32) := fun j => by
    rw [show (0xffffffff : Word) = BitVec.allOnes 32 by decide, BitVec.getLsbD_allOnes]
  rw [clearBits, shl_of_lt (by omega), shr_of_lt (by omega), BitVec.getLsbD_and,
    BitVec.getLsbD_and, BitVec.getLsbD_or, BitVec.getLsbD_shiftLeft, BitVec.getLsbD_ushiftRight,
    hones, getLsbD_shl_one_sub_one (by omega), BitVec.getLsbD_not, getLsbD_span]
  congr 1
  by_cases h1 : i < lo
  · have h2 : ¬ lo ≤ i := by omega
    simp [h1, hi']
  · by_cases h2 : i ≤ hi
    · have h3 : i < hi + 1 := by omega
      have h4 : lo ≤ i := by omega
      simp [h1, h2, h3, h4, hi']
    · have h3 : ¬ i < hi + 1 := by omega
      have h4 : hi + 1 + (i - (hi + 1)) < 32 := by omega
      simp [h2, h3, h4, hi']

/-- The effect of one fix-up action on one bit. -/
lemma FixAction.getLsbD_run {a : FixAction} (ha : a.Ok = true) (w : Word) (i : ℕ) :
    (a.run w).getLsbD i = if a.mask.getLsbD i then a.bitVal else w.getLsbD i := by
  have hset : ∀ m : Word,
      (w ||| m).getLsbD i = if m.getLsbD i = true then true else w.getLsbD i := by
    intro m
    rw [BitVec.getLsbD_or]
    cases m.getLsbD i <;> simp
  have hclear : ∀ m : Word,
      (w &&& ~~~m).getLsbD i = if m.getLsbD i = true then false else w.getLsbD i := by
    intro m
    by_cases hi : i < 32
    · rw [BitVec.getLsbD_and, BitVec.getLsbD_not]
      cases m.getLsbD i <;> simp [hi]
    · rw [BitVec.getLsbD_of_ge m i (by omega), BitVec.getLsbD_of_ge w i (by omega),
        BitVec.getLsbD_of_ge _ i (by omega)]
      rfl
  cases a with
  | setBits lo hi =>
    simp only [FixAction.Ok, Bool.and_eq_true, decide_eq_true_eq] at ha
    rw [FixAction.run, Rit.setBits, bitsMask_eq_span ha.1 ha.2]
    exact hset _
  | clearBits lo hi =>
    simp only [FixAction.Ok, Bool.and_eq_true, decide_eq_true_eq] at ha
    rw [FixAction.run, clearBits_eq w ha.1 ha.2]
    exact hclear _
  | setBit bit =>
    simp only [FixAction.Ok, decide_eq_true_eq] at ha
    rw [FixAction.run, shl_one_eq_span (show bit < 32 by omega)]
    exact hset _
  | clearBit bit =>
    simp only [FixAction.Ok, decide_eq_true_eq] at ha
    rw [FixAction.run, shl_one_eq_span (show bit < 32 by omega)]
    exact hclear _

lemma fixActions_ok (op : Opcode) : ∀ a ∈ fixActions op, a.Ok = true := by
  have h := fixCheck_fixActions op
  simp only [fixCheck, Bool.and_eq_true, List.all_eq_true] at h
  exact fun a ha => (h.2 a ha).1.1

/-- A run of fix-up actions on one bit: what it ends up as does not depend on other bits. -/
lemma foldl_run_congr {acts : List FixAction} (hok : ∀ a ∈ acts, a.Ok = true) {w w' : Word}
    {i : ℕ} (h : w.getLsbD i = w'.getLsbD i) :
    (acts.foldl FixAction.run w).getLsbD i = (acts.foldl FixAction.run w').getLsbD i := by
  induction acts generalizing w w' with
  | nil => exact h
  | cons a acts ih =>
    have ha := hok a List.mem_cons_self
    refine ih (fun b hb => hok b (List.mem_cons_of_mem a hb)) ?_
    rw [FixAction.getLsbD_run ha, FixAction.getLsbD_run ha, h]

lemma foldl_run_agreeOff {acts : List FixAction} (hok : ∀ a ∈ acts, a.Ok = true) {m : Word}
    (hm : ∀ a ∈ acts, a.mask &&& m = a.mask) (w : Word) :
    AgreeOff m (acts.foldl FixAction.run w) w := by
  induction acts generalizing w with
  | nil => exact .refl m w
  | cons a acts ih =>
    have hhead : AgreeOff a.mask (a.run w) w := by
      intro i hi
      rw [FixAction.getLsbD_run (hok a List.mem_cons_self), hi]
      rfl
    have htail := ih (fun b hb => hok b (List.mem_cons_of_mem a hb))
      (fun b hb => hm b (List.mem_cons_of_mem a hb)) (a.run w)
    exact htail.trans (hhead.mono (hm a List.mem_cons_self))

lemma fixUnpredictableBit_sets (op : Opcode) (s : GenState) :
    Sets (fixMask op) s (fixUnpredictableBit op s) :=
  sets_setRawInstr (foldl_run_agreeOff (fixActions_ok op)
    (fun _ ha => and_union_of_mem (List.mem_map_of_mem ha)) s.rawInstr)

/-- The fix-up preserves the match pattern. -/
lemma fixUnpredictableBit_agreeOn (op : Opcode) {s : GenState}
    (h : AgreeOn (glbInstrTlb op).matchMsk s.rawInstr (glbInstrTlb op).matchVal) :
    AgreeOn (glbInstrTlb op).matchMsk (fixUnpredictableBit op s).rawInstr
      (glbInstrTlb op).matchVal := by
  intro i hi
  have hcongr := foldl_run_congr (fixActions_ok op) (h i hi)
  have hcheck := fixCheck_fixActions op
  simp only [fixCheck, Bool.and_eq_true, beq_iff_eq] at hcheck
  exact hcongr.trans (AgreeOn.of_and_eq hcheck.1 i hi)

/-! ## The state the validator starts from -/

/-- The state after the stages, in which `gen_instr` calls the validator. -/
def preValidate (op : Opcode) (s : GenState) : GenState :=
  fixUnpredictableBit op (takeOrig (operandStages op (beginInstr s))).2

lemma takeOrig_rawInstr (s : GenState) : (takeOrig s).2.rawInstr = s.rawInstr := by
  unfold takeOrig
  split <;> rfl

lemma takeOrig_options (s : GenState) : (takeOrig s).2.options = s.options := by
  unfold takeOrig
  split <;> rfl

/-- The bits the operand stages may write. -/
def operandMask (op : Opcode) : Word :=
  sbitMask op ||| armCondMask op ||| opndsMask op (glbInstrTlb op).inputs |||
    opndsMask op (glbInstrTlb op).outputs

lemma operandStages_sets {op : Opcode} (hop : op < SISA_OP_MAX) (s : GenState) :
    Sets (operandMask op) s (operandStages op s) :=
  (((setSbit_sets op s).comp (setArmCondBits_sets op _)).comp
    (setOpndBits_sets hop .src _)).comp (setOpndBits_sets hop .dst _)

lemma preValidate_options {op : Opcode} (hop : op < SISA_OP_MAX) (s : GenState) :
    (preValidate op s).options = s.options := by
  have h1 := (operandStages_sets hop (beginInstr s)).options
  have h2 := (fixUnpredictableBit_sets op (takeOrig (operandStages op (beginInstr s))).2).options
  rw [preValidate, h2, takeOrig_options, h1]
  rfl

lemma preValidate_instrBuf {op : Opcode} (hop : op < SISA_OP_MAX) (s : GenState) :
    (preValidate op s).instrBuf = [] := by
  have h1 := (operandStages_sets hop (beginInstr s)).instrBuf
  have h2 := (fixUnpredictableBit_sets op (takeOrig (operandStages op (beginInstr s))).2).instrBuf
  have h3 : (takeOrig (operandStages op (beginInstr s))).2.instrBuf =
      (operandStages op (beginInstr s)).instrBuf := by
    unfold takeOrig
    split <;> rfl
  rw [preValidate, h2, h3, h1]
  rfl

lemma preValidate_rawInstr (op : Opcode) (s : GenState) :
    (preValidate op s).rawInstr =
      (fixActions op).foldl FixAction.run (operandStages op (beginInstr s)).rawInstr := by
  rw [preValidate, fixUnpredictableBit, setRawInstr, takeOrig_rawInstr]

section

variable {op : Opcode} {m : Word}

/-- Bits that the destinations and the fix-up leave alone are those the source operands left. -/
lemma preValidate_agreeOn_src (hop : op < SISA_OP_MAX)
    (hdst : opndsMask op (glbInstrTlb op).outputs &&& m = 0#32) (hfix : fixMask op &&& m = 0#32)
    (s : GenState) :
    AgreeOn m (preValidate op s).rawInstr
      (setSrcOpndBits op (setArmCondBits op (setSbit op (beginInstr s)))).rawInstr := by
  have h1 := (fixUnpredictableBit_sets op (takeOrig (operandStages op (beginInstr s))).2).raw
  rw [takeOrig_rawInstr] at h1
  have h2 := (setOpndBits_sets hop .dst (setSrcOpndBits op (setArmCondBits op (setSbit op
    (beginInstr s))))).raw
  exact (h1.agreeOn hfix).trans (h2.agreeOn hdst)

/-- Bits that no operand and no fix-up writes are those `set_arm_cond_bits` left. -/
lemma preValidate_agreeOn_cond (hop : op < SISA_OP_MAX)
    (hsrc : opndsMask op (glbInstrTlb op).inputs &&& m = 0#32)
    (hdst : opndsMask op (glbInstrTlb op).outputs &&& m = 0#32) (hfix : fixMask op &&& m = 0#32)
    (s : GenState) :
    AgreeOn m (preValidate op s).rawInstr
      (setArmCondBits op (setSbit op (beginInstr s))).rawInstr := by
  have h := (setOpndBits_sets hop .src (setArmCondBits op (setSbit op (beginInstr s)))).raw
  exact (preValidate_agreeOn_src hop hdst hfix s).trans (h.agreeOn hsrc)

end

/-- `gen_instr` on a row that is no pseudo instruction. -/
lemma genInstr_eq {op : Opcode} (h : (glbInstrTlb op).opKind ≠ .pseudoOp) (s : GenState) :
    genInstr op s = ((validate op (preValidate op s)).1,
      reportFixedBit (takeOrig (operandStages op (beginInstr s))).1
        (validate op (preValidate op s)).2) := by
  rw [genInstr, if_neg h]
  rfl

/-- What `VALID` means: the validator accepted the word, and its word and lines are the
result. -/
lemma genInstr_valid {op : Opcode} {s : GenState} (h : (genInstr op s).1 = .valid) :
    (validate op (preValidate op s)).1 = .valid ∧
      (genInstr op s).2.rawInstr = (validate op (preValidate op s)).2.rawInstr ∧
      (genInstr op s).2.instrBuf = (validate op (preValidate op s)).2.instrBuf := by
  unfold genInstr at h ⊢
  dsimp only at h ⊢
  split at h
  · exact absurd h (by simp)
  · rename_i hk
    rw [if_neg hk]
    exact ⟨h, rfl, rfl⟩

end Rit
