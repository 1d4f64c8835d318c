import Rit.Properties.Alias
import Rit.Properties.Retry

/-!
# Words of 16-bit Thumb

A 16-bit Thumb instruction lives in the low half of `raw_instr`, and `init_raw_instr_bin` clears
the high half.  The stages after it work on 32 bits.  No operand field, fix-up or validator of a
16-bit row reaches above bit 15, but `set_sbit` does: it takes bit 20 for an S bit whenever the
match mask leaves it free, and the mask of a 16-bit row always does.

So the high half stays clear exactly when `set_sbit` does not set the bit.  For a run of
`gen_random_instr` this is about the round that ends it, and depends on the user's options and,
where the value is drawn, on what `rand()` returns for it.
-/

namespace Rit

open BitField GenState

/-! ## The high half -/

/-- The opcodes of 16-bit Thumb. -/
def isThumb16 (op : Opcode) : Prop := SISA_OP_ARM_MAX < op ∧ op < SISA_OP_THUMB_MAX

instance (op : Opcode) : Decidable (isThumb16 op) := inferInstanceAs (Decidable (_ ∧ _))

/-- Bits 16 to 31. -/
def highHalf : Word := span 32 16 31

/-- A word below `0x10000` has no bit in the high half. -/
lemma toNat_lt_iff_highHalf (w : Word) : w.toNat < 0x10000 ↔ AgreeOn highHalf w 0 := by
  constructor
  · intro h i hi
    rw [highHalf, getLsbD_span, decide_eq_true_eq] at hi
    have hpow : w.toNat < 2 ^ i :=
      Nat.lt_of_lt_of_le h (Nat.pow_le_pow_right (n := 2) (by decide) hi.1)
    rw [← BitVec.testBit_toNat, Nat.testBit_lt_two_pow hpow]
    exact BitVec.getLsbD_zero.symm
  · intro h
    refine Nat.lt_pow_two_of_testBit (n := 16) _ fun i hi => ?_
    rw [BitVec.testBit_toNat]
    by_cases hlt : i < 32
    · have hbit := h i (by rw [highHalf, getLsbD_span, decide_eq_true_eq]; omega)
      rw [hbit]
      exact BitVec.getLsbD_zero
    · exact BitVec.getLsbD_of_ge w i (by omega)

/-- The low half of such a word is the word. -/
lemma and_lowHalf {w : Word} (h : w.toNat < 0x10000) : w &&& 0xffff = w := by
  have hones : (0xffff : Word) = span 32 0 15 := by decide
  rw [hones]
  exact and_span_of_lt (by decide) h

/-! ## Rows of 16-bit Thumb -/

/-- A 16-bit row has its pattern and its operand fields in the low half, and is no pseudo
instruction. -/
def highHalfCheck (op : Opcode) (row : InstrDesc) : Bool :=
  !decide (isThumb16 op) || (row.matchMsk &&& highHalf == 0#32 &&
    row.matchVal &&& highHalf == 0#32 && row.opKind != .pseudoOp &&
    (row.outputs ++ row.inputs).all fun o => (opndFields op o).all fun p => p.2.blt 16)

lemma highHalfCheck_rows : (glbInstrTlbRows.zipIdx.all fun p => highHalfCheck p.2 p.1) = true := by
  decide +kernel

lemma fixTable_highHalf : (fixTable.all fun c => c.1.all fun op =>
    !decide (isThumb16 op) || c.2.all fun a => a.mask &&& highHalf == 0#32) = true := by
  decide +kernel

section Row

variable {op : Opcode} (h16 : isThumb16 op)

include h16

lemma isThumb16.lt_max : op < SISA_OP_MAX := Nat.lt_trans h16.2 (by decide)

lemma isThumb16.row : (glbInstrTlb op).matchMsk &&& highHalf = 0#32 ∧
    (glbInstrTlb op).matchVal &&& highHalf = 0#32 ∧ (glbInstrTlb op).opKind ≠ .pseudoOp ∧
    ∀ o ∈ (glbInstrTlb op).outputs ++ (glbInstrTlb op).inputs, ∀ p ∈ opndFields op o, p.2 < 16 := by
  have h := forall_op highHalfCheck_rows h16.lt_max
  simp only [highHalfCheck, h16, decide_true, Bool.not_true, Bool.false_or, Bool.and_eq_true,
    beq_iff_eq, bne_iff_ne, List.all_eq_true, Nat.blt_eq] at h
  obtain ⟨⟨⟨hmsk, hval⟩, hkind⟩, hfields⟩ := h
  exact ⟨hmsk, hval, hkind, hfields⟩

lemma isThumb16.opndsMask (opnds : List Opnd)
    (hsub : ∀ o ∈ opnds, o ∈ (glbInstrTlb op).outputs ++ (glbInstrTlb op).inputs) :
    Rit.opndsMask op opnds &&& highHalf = 0#32 := by
  refine union_and_eq_zero fun m hm => ?_
  obtain ⟨o, ho, rfl⟩ := List.mem_map.mp hm
  refine union_and_eq_zero fun m hm => ?_
  obtain ⟨p, hp, rfl⟩ := List.mem_map.mp hm
  have hlt := h16.row.2.2.2 o (hsub o ho) p (List.mem_filter.mp hp).1
  apply BitVec.eq_of_getLsbD_eq
  intro i _
  rw [BitVec.getLsbD_and, highHalf, getLsbD_span, getLsbD_span, BitVec.getLsbD_zero,
    ← Bool.decide_and, decide_eq_false_iff_not]
  omega

lemma isThumb16.fixMask : Rit.fixMask op &&& highHalf = 0#32 := by
  refine union_and_eq_zero fun m hm => ?_
  obtain ⟨a, ha, rfl⟩ := List.mem_map.mp hm
  unfold fixActions at ha
  cases hc : fixTable.find? fun c => op ∈ c.1 with
  | none => simp [hc] at ha
  | some c =>
    rw [hc] at ha
    have hmem : op ∈ c.1 := by simpa using List.find?_some hc
    have hrow := List.all_eq_true.mp fixTable_highHalf c (List.mem_of_find?_eq_some hc)
    have hop := List.all_eq_true.mp hrow op hmem
    simp only [h16, decide_true, Bool.not_true, Bool.false_or, List.all_eq_true, beq_iff_eq] at hop
    exact hop a ha

lemma isThumb16.validatorMask (s : GenState) : Rit.validatorMask op s = 0#32 := by
  have hrw : op ∉ alignOps ++ thumb32MiscOps := by
    intro hmem
    have hout : ∀ op ∈ alignOps ++ thumb32MiscOps, ¬ isThumb16 op := by decide
    exact hout op hmem h16
  rw [Rit.validatorMask, rewriteMask_of_not_mem hrw,
    if_neg fun h => absurd h.2 (Nat.not_lt.mpr (Nat.le_of_lt h16.1))]
  rfl

lemma isThumb16.isFixedOprand : Rit.isFixedOprand op 20 20 = false := by
  rw [← Bool.not_eq_true]
  intro hfixed
  obtain ⟨i, hi, hbit⟩ := List.any_eq_true.mp hfixed
  rw [List.mem_range'_1] at hi
  obtain rfl : i = 20 := by omega
  rw [decide_eq_true_eq, getBitValue_eq_one_iff _ (by decide)] at hbit
  have hzero := congrArg (fun w => w.getLsbD 20) h16.row.1
  rw [BitVec.getLsbD_and, hbit, Bool.true_and] at hzero
  exact absurd hzero (by decide)

/-- Behind `set_sbit` no stage writes the high half. -/
lemma isThumb16.genInstr_agreeOn (s : GenState) :
    AgreeOn highHalf (genInstr op s).2.rawInstr (setSbit op (beginInstr s)).rawInstr := by
  have hcond : setArmCondBits op (setSbit op (beginInstr s)) = setSbit op (beginInstr s) := by
    rw [setArmCondBits, if_neg fun h => absurd h.2 (Nat.not_lt.mpr (Nat.le_of_lt h16.1))]
  have hsrc := h16.opndsMask (glbInstrTlb op).inputs fun o ho => List.mem_append_right _ ho
  have hdst := h16.opndsMask (glbInstrTlb op).outputs fun o ho => List.mem_append_left _ ho
  have hpre := preValidate_agreeOn_cond h16.lt_max hsrc hdst h16.fixMask s
  rw [hcond] at hpre
  have hval := (validate_writes op (preValidate op s)).raw
  rw [h16.validatorMask] at hval
  rw [genInstr_eq h16.row.2.2.1]
  exact (hval.agreeOn BitVec.zero_and).trans hpre

/-- From a clear high half, `gen_instr` keeps it clear unless it sets the S bit. -/
lemma isThumb16.genInstr_lt_iff {s : GenState} (hs : AgreeOn highHalf s.rawInstr 0) :
    (genInstr op s).2.rawInstr.toNat < 0x10000 ↔
      ¬ (s.optStat .sbit = true ∧ s.options.sbitVal = .set) := by
  have hbit := setSbit_getLsbD h16.isFixedOprand (beginInstr s)
  have hrest := (setSbit_sets op (beginInstr s)).raw
  have hs20 : s.rawInstr.getLsbD 20 = false := (hs 20 (by decide)).trans BitVec.getLsbD_zero
  change _ = (if s.optStat .sbit = true then decide (s.options.sbitVal = .set)
    else s.rawInstr.getLsbD 20) at hbit
  rw [toNat_lt_iff_highHalf]
  constructor
  · rintro h ⟨hon, hset⟩
    rw [if_pos hon, decide_eq_true hset, ← h16.genInstr_agreeOn s 20 (by decide),
      h 20 (by decide)] at hbit
    exact absurd hbit (by decide)
  · intro h i hi
    rw [h16.genInstr_agreeOn s i hi, ← hs i hi]
    -- only bit 20 can differ from the word before, and it is clear in both
    by_cases h20 : i = 20
    · subst h20
      rw [hbit, hs20]
      split
      · rename_i hon
        exact decide_eq_false fun hset => h ⟨hon, hset⟩
      · rfl
    · refine hrest i ?_
      rw [sbitMask, if_neg (by simp [h16.isFixedOprand]), getLsbD_span, decide_eq_false_iff_not]
      omega

/-- `init_raw_instr_bin` leaves the high half clear. -/
lemma isThumb16.initRawInstrBin_agreeOn (s : GenState) :
    AgreeOn highHalf (initRawInstrBin op s).rawInstr 0 := by
  obtain ⟨-, hval, -, -⟩ := h16.row
  intro i hi
  have hv : (glbInstrTlb op).matchVal.getLsbD i = false := by
    have hzero := congrArg (fun w => w.getLsbD i) hval
    rw [BitVec.getLsbD_and, hi, Bool.and_true] at hzero
    exact hzero.trans BitVec.getLsbD_zero
  have hlow : (0xffff : Word).getLsbD i = false := by
    rw [highHalf, getLsbD_span, decide_eq_true_eq] at hi
    have hones : (0xffff : Word) = span 32 0 15 := by decide
    rw [hones, getLsbD_span, decide_eq_false_iff_not]
    omega
  have hin : op > SISA_OP_ARM_MAX ∧ op < SISA_OP_THUMB_MAX := h16
  simp only [initRawInstrBin, setRawInstr, initWord, if_pos hin, BitVec.getLsbD_or,
    BitVec.getLsbD_and, hlow, hv, Bool.and_false, Bool.false_and, Bool.or_false]
  exact BitVec.getLsbD_zero.symm

/-- The `.inst.n` line is the last one and has the low half of the word. -/
lemma isThumb16.getLast?_instrBuf (s : GenState) :
    (genInstr op s).2.instrBuf.getLast? =
      some (.inst (.instN ((genInstr op s).2.rawInstr &&& 0xffff))) := by
  rw [genInstr_eq h16.row.2.2.1, reportFixedBit, validate,
    if_neg (Nat.not_lt.mpr (Nat.le_of_lt h16.1)), if_pos h16.2]
  exact List.getLast?_concat

end Row

/-! ## The S bit of a round -/

/-- Two states with the same S bit value and the same options on. -/
def SameSbit (s s' : GenState) : Prop :=
  s'.options.sbitVal = s.options.sbitVal ∧ s'.options.optStatus = s.options.optStatus

lemma SameSbit.trans {s s' s'' : GenState} (h : SameSbit s s') (h' : SameSbit s' s'') :
    SameSbit s s'' := ⟨h'.1.trans h.1, h'.2.trans h.2⟩

lemma drawIf_sameSbit {α : Type} {c : Prop} [Decidable c] {draw : GenState → α × GenState}
    (hdraw : DrawsOnly draw) {upd : GenOption → α → GenOption}
    (hupd : ∀ o v, (upd o v).sbitVal = o.sbitVal ∧ (upd o v).optStatus = o.optStatus)
    (s : GenState) : SameSbit s (drawIf c draw upd s) := by
  unfold drawIf
  split
  · have hopts : (draw s).2.options = s.options := by rw [hdraw s]
    have h := hupd (draw s).2.options (draw s).1
    rw [hopts] at h
    change (upd (draw s).2.options (draw s).1).sbitVal = _ ∧
      (upd (draw s).2.options (draw s).1).optStatus = _
    rw [hopts]
    exact h
  · exact ⟨rfl, rfl⟩

lemma genRandRegs_sameSbit (s : GenState) (idx : ℕ) : SameSbit s (genRandRegs s idx) := by
  unfold genRandRegs
  refine .trans ?_ (drawIf_sameSbit (randMod_drawsOnly 2) (fun _ _ => by exact ⟨rfl, rfl⟩) _)
  refine .trans ?_ (drawIf_sameSbit (randMod_drawsOnly 2) (fun _ _ => by exact ⟨rfl, rfl⟩) _)
  refine .trans ?_ (drawIf_sameSbit genRandReg_drawsOnly (fun _ _ => by exact ⟨rfl, rfl⟩) _)
  exact drawIf_sameSbit genRandReg_drawsOnly (fun _ _ => by exact ⟨rfl, rfl⟩) _

lemma foldl_genRandRegs_sameSbit (l : List ℕ) (s : GenState) :
    SameSbit s (l.foldl genRandRegs s) := by
  induction l generalizing s with
  | nil => exact ⟨rfl, rfl⟩
  | cons idx l ih => exact (genRandRegs_sameSbit s idx).trans (ih _)

/-- The draw of the instruction set, which comes before the one of the S bit. -/
def drawIsa (s : GenState) : GenState :=
  drawIf (¬ s.optStat .isa ∨ s.options.isa = .rand) (randMod 4)
    (fun o v => { o with isa := isaOfIdx v }) s

/-- The draw of the S bit. -/
def drawSbit (s : GenState) : GenState :=
  drawIf (¬ s.optStat .sbit ∨ s.options.sbitVal = .rand) (randMod 2)
    (fun o v => { o with sbitVal := sbitOfIdx v }) s

/-- After its own draw the S bit stays. -/
lemma genRandOptVal_sameSbit (s : GenState) :
    SameSbit (drawSbit (drawIsa s)) (genRandOptVal s) := by
  unfold genRandOptVal
  refine .trans ?_ (drawIf_sameSbit genRandImm_drawsOnly (fun _ _ => by exact ⟨rfl, rfl⟩) _)
  refine .trans ?_ (drawIf_sameSbit genRandImm_drawsOnly (fun _ _ => by exact ⟨rfl, rfl⟩) _)
  refine .trans ?_ (drawIf_sameSbit (fun _ => rfl) (fun _ _ => by exact ⟨rfl, rfl⟩) _)
  refine .trans ?_ (drawIf_sameSbit (randMod_drawsOnly 4) (fun _ _ => by exact ⟨rfl, rfl⟩) _)
  refine .trans ?_ (drawIf_sameSbit genRandReg_drawsOnly (fun _ _ => by exact ⟨rfl, rfl⟩) _)
  refine .trans ?_ (drawIf_sameSbit (randMod_drawsOnly 2) (fun _ _ => by exact ⟨rfl, rfl⟩) _)
  refine .trans ?_ (foldl_genRandRegs_sameSbit _ _)
  exact drawIf_sameSbit genRandCond_drawsOnly (fun _ _ => by exact ⟨rfl, rfl⟩) _

/-! ## Where the S bit comes from -/

lemma OptionKind.bit_lt (k : OptionKind) : k.bit < 32 := by
  cases k <;> decide

lemma OptionKind.bit_eq_ctorIdx (k : OptionKind) : k.bit = k.ctorIdx := by
  cases k <;> rfl

lemma OptionKind.bit_injective : Function.Injective OptionKind.bit := by
  intro j k h
  rw [bit_eq_ctorIdx, bit_eq_ctorIdx] at h
  rw [← OptionKind.ofNat_ctorIdx j, h, OptionKind.ofNat_ctorIdx]

@[simp] lemma getOptStat_setOptStat (o : GenOption) (j k : OptionKind) :
    (o.setOptStat j).getOptStat k = (decide (k = j) || o.getOptStat k) := by
  rw [GenOption.getOptStat, GenOption.setOptStat, BitVec.getLsbD_or, Bool.or_comm]
  congr 1
  rw [BitVec.getLsbD_shiftLeft, BitVec.getLsbD_one, decide_eq_true k.bit_lt]
  have hinj : k.bit = j.bit ↔ k = j := OptionKind.bit_injective.eq_iff
  by_cases h : k = j
  · subst h
    simp
  · have hne : k.bit ≠ j.bit := fun hbit => h (hinj.1 hbit)
    simp only [h, decide_false, Bool.true_and, Bool.and_eq_false_iff, Bool.not_eq_false',
      decide_eq_true_eq, decide_eq_false_iff_not, Nat.zero_lt_succ]
    omega

/-- The relaxation of round `n` reaches the S bit. -/
def sbitRelaxed (o : GenOption) (n : ℕ) : Bool :=
  !o.getOptStat .notAllowRelax && decide (RETRY_RELAX_GEAR_2 < n)

/-- The draws of `relax_restrict` in round `n`. -/
def relaxDraws (o : GenOption) (n : ℕ) : ℕ :=
  if o.getOptStat .notAllowRelax then 0
  else [RETRY_RELAX_GEAR_2, RETRY_RELAX_GEAR_3, RETRY_RELAX_GEAR_4].countP (· < n)

/-- The draws of round `n` before the one of the S bit. -/
def drawsBeforeSbit (o : GenOption) (n : ℕ) : ℕ :=
  relaxDraws o n + if ¬ o.getOptStat .isa ∨ o.isa = .rand then 1 else 0

/-- Round `n` sets the S bit: the user asked for it, or left it to `rand()`, or the round is so
late that it is left to `rand()` anyway; `draw` is what `rand()` returns for it. -/
def SbitSet (o : GenOption) (n : ℕ) (draw : BitVec 31) : Prop :=
  if sbitRelaxed o n then draw.toNat % 2 = 1
  else o.getOptStat .sbit = true ∧ (o.sbitVal = .set ∨ o.sbitVal = .rand ∧ draw.toNat % 2 = 1)

/-- What the S bit of a round depends on. -/
structure SbitView where
  on : Bool
  val : SbitVal
  isaOn : Bool
  isa : InstrSet
  stream : ℕ → BitVec 31

/-- The part of a state that the S bit of a round depends on. -/
def sbitView (s : GenState) : SbitView :=
  ⟨s.optStat .sbit, s.options.sbitVal, s.optStat .isa, s.options.isa, s.randStream⟩

/-- The view after `k` more draws. -/
def SbitView.skip (v : SbitView) (k : ℕ) : SbitView :=
  { v with stream := fun i => v.stream (k + i) }

/-- The view of a step from what it does to the options and the stream. -/
lemma sbitView_eq {s : GenState} {o : GenOption} {stream : ℕ → BitVec 31}
    (hstat : s.options.optStatus = o.optStatus) (hval : s.options.sbitVal = o.sbitVal)
    (hisa : s.options.isa = o.isa) (hstream : s.randStream = stream) :
    sbitView s = ⟨o.getOptStat .sbit, o.sbitVal, o.getOptStat .isa, o.isa, stream⟩ := by
  unfold sbitView optStat GenOption.getOptStat
  rw [hstat, hval, hisa, hstream]

lemma afterRand_randStream (s : GenState) :
    s.afterRand.randStream = fun i => s.randStream (1 + i) := by
  funext i
  rw [Nat.add_comm 1 i]
  rfl

lemma relaxGear1_view (s : GenState) : sbitView (relaxGear1 s) = sbitView s := by
  have h := sbitView_eq (s := relaxGear1 s) (o := (s.options.setOptStat .cond).setOptStat .shrtReg)
    rfl rfl rfl rfl
  simp only [getOptStat_setOptStat, reduceCtorEq, decide_false, Bool.false_or] at h
  exact h

lemma relaxGear2_view (s : GenState) :
    sbitView (relaxGear2 s) = { (sbitView s).skip 1 with on := true, val := .rand } := by
  have h := sbitView_eq (s := relaxGear2 s)
    (o := { (((s.options.setOptStat .sbit).setOptStat .shrtType).setOptStat .fpSregExt).setOptStat
      .shImm with sbitVal := .rand }) rfl rfl rfl (afterRand_randStream s)
  have hstat : ∀ (o : GenOption) (v : SbitVal) (k : OptionKind),
      { o with sbitVal := v }.getOptStat k = o.getOptStat k := fun _ _ _ => rfl
  simp only [hstat, getOptStat_setOptStat, reduceCtorEq, decide_false, decide_true, Bool.false_or,
    Bool.true_or] at h
  exact h

lemma relaxGear3_view (s : GenState) : sbitView (relaxGear3 s) = (sbitView s).skip 1 := by
  have h := sbitView_eq (s := relaxGear3 s)
    (o := ((s.options.setOptStat .sreg).setOptStat .fpDregExt).setOptStat .imm)
    rfl rfl rfl (afterRand_randStream s)
  simp only [getOptStat_setOptStat, reduceCtorEq, decide_false, Bool.false_or] at h
  exact h

lemma relaxGear4_view (s : GenState) : sbitView (relaxGear4 s) = (sbitView s).skip 1 := by
  have h := sbitView_eq (s := relaxGear4 s)
    (o := ((s.options.setOptStat .dreg).setOptStat .fpSzQExt).setOptStat .regsList)
    rfl rfl rfl (afterRand_randStream s)
  simp only [getOptStat_setOptStat, reduceCtorEq, decide_false, Bool.false_or] at h
  exact h

/-- What `relax_restrict` does to the view. -/
lemma relaxRestrict_view (n : ℕ) (s : GenState) :
    sbitView (relaxRestrict n s) =
      { (sbitView s).skip (relaxDraws s.options n) with
        on := sbitRelaxed s.options n || s.optStat .sbit
        val := if sbitRelaxed s.options n then .rand else s.options.sbitVal } := by
  have hstat : s.optStat .notAllowRelax = s.options.getOptStat .notAllowRelax := rfl
  unfold relaxRestrict relaxDraws sbitRelaxed
  rw [hstat]
  by_cases hno : s.options.getOptStat .notAllowRelax = true
  · rw [if_pos hno, if_pos hno, hno]
    simp [sbitView, SbitView.skip]
  · have hno' : s.options.getOptStat .notAllowRelax = false := by simpa using hno
    rw [if_neg hno, if_neg hno, hno']
    by_cases h1 : RETRY_RELAX_GEAR_1 < n <;> by_cases h2 : RETRY_RELAX_GEAR_2 < n <;>
      by_cases h3 : RETRY_RELAX_GEAR_3 < n <;> by_cases h4 : RETRY_RELAX_GEAR_4 < n <;>
      simp only [gt_iff_lt, h1, h2, h3, h4, ↓reduceIte, relaxGear1_view, relaxGear2_view,
        relaxGear3_view, relaxGear4_view] <;>
      simp [h2, h3, h4, SbitView.skip, sbitView, ← Nat.add_assoc]

/-- The state in which the S bit is drawn. -/
lemma drawIsa_sbit (s : GenState) :
    (drawIsa s).optStat .sbit = s.optStat .sbit ∧ (drawIsa s).options.sbitVal = s.options.sbitVal ∧
      (drawIsa s).nextRand = (s.randStream
        (if ¬ s.optStat .isa ∨ s.options.isa = .rand then 1 else 0)).setWidth 32 := by
  unfold drawIsa drawIf
  split
  · exact ⟨rfl, rfl, rfl⟩
  · exact ⟨rfl, rfl, rfl⟩

lemma sbitOfIdx_eq_set_iff (draw : BitVec 31) :
    sbitOfIdx (draw.setWidth 32 % 2) = .set ↔ draw.toNat % 2 = 1 := by
  have hval : (draw.setWidth 32 % 2 : Word).toNat = draw.toNat % 2 := by
    rw [BitVec.toNat_umod, BitVec.toNat_setWidth_of_le (by decide)]
    rfl
  rw [sbitOfIdx, hval]
  rcases Nat.mod_two_eq_zero_or_one draw.toNat with h | h
  · simp [h]
  · simp [h]

lemma drawSbit_sbit (s : GenState) {draw : BitVec 31} (hdraw : s.nextRand = draw.setWidth 32) :
    (drawSbit s).optStat .sbit = true ∧ (drawSbit s).options.sbitVal = .set ↔
      s.optStat .sbit = true ∧ (s.options.sbitVal = .set ∨
        s.options.sbitVal = .rand ∧ draw.toNat % 2 = 1) := by
  unfold drawSbit drawIf
  split
  · rename_i hc
    change s.optStat .sbit = true ∧ sbitOfIdx (s.nextRand % 2) = .set ↔ _
    rw [hdraw, sbitOfIdx_eq_set_iff]
    refine and_congr_right fun hon => ?_
    have hrand : s.options.sbitVal = .rand := hc.resolve_left (not_not_intro hon)
    simp [hrand]
  · rename_i hc
    have hne := (not_or.mp hc).2
    simp [hne]

/-- The S bit of round `n`, from the options it starts with and its draws. -/
lemma prepare_sbit_iff (fixedOp : Option Opcode) (n : ℕ) (s : GenState) :
    (prepare fixedOp n s).2.optStat .sbit = true ∧
        (prepare fixedOp n s).2.options.sbitVal = .set ↔
      SbitSet s.shadowOptions n (s.randStream (drawsBeforeSbit s.shadowOptions n)) := by
  have hopts : (prepare fixedOp n s).2.options =
      (genRandOptVal (relaxRestrict n { s with options := s.shadowOptions })).options := by
    cases fixedOp with
    | some op => rfl
    | none =>
      change (genRandomOp _).2.options = _
      unfold genRandomOp
      dsimp only
      split <;> rfl
  obtain ⟨t, ht, hshadow, hstream⟩ : ∃ t : GenState,
      { s with options := s.shadowOptions } = t ∧ t.options = s.shadowOptions ∧
        t.randStream = s.randStream := ⟨_, rfl, rfl, rfl⟩
  rw [ht] at hopts
  have hview := relaxRestrict_view n t
  rw [sbitView, SbitView.mk.injEq] at hview
  obtain ⟨hon, hval, hisaOn, hisa, hdraws⟩ := hview
  have hkeep := genRandOptVal_sameSbit (relaxRestrict n t)
  obtain ⟨hon', hval', hnext⟩ := drawIsa_sbit (relaxRestrict n t)
  rw [hdraws, hisaOn, hisa] at hnext
  rw [optStat, hopts, GenOption.getOptStat, hkeep.2, hkeep.1]
  refine (drawSbit_sbit _ hnext).trans ?_
  rw [hon', hval', hon, hval, ← hshadow, ← hstream, SbitSet]
  cases hrel : sbitRelaxed t.options n with
  | true => simp [drawsBeforeSbit, SbitView.skip, sbitView, optStat]
  | false => simp [drawsBeforeSbit, SbitView.skip, sbitView, optStat]

/-! ## The run -/

/-- The round of `gen_random_instr` that the result comes from. -/
def lastRound (timeStream : ℕ → BitVec 31) (s : GenState) : ℕ :=
  Retry.last (attempt (requestedOp s)) (fun r => r.2.2) (fun r => r.2.1 = .valid) (retryMax s) 0
    (enterLoop timeStream s)

/-- The state before that round. -/
def lastRoundState (timeStream : ℕ → BitVec 31) (s : GenState) : GenState :=
  roundState (requestedOp s) (enterLoop timeStream s) (lastRound timeStream s)

/-- The opcode of that round, which is the one reported. -/
def reportedOp (timeStream : ℕ → BitVec 31) (s : GenState) : Opcode :=
  (prepare (requestedOp s) (lastRound timeStream s) (lastRoundState timeStream s)).1

/-- The word is below `0x10000` and is the halfword of the `.inst.n` line. -/
def ReportsHalfword (s : GenState) : Prop :=
  s.rawInstr.toNat < 0x10000 ∧ s.instrBuf.getLast? = some (.inst (.instN s.rawInstr))

lemma setBiasOprandValue_keeps (op : Opcode) (s : GenState) :
    (setBiasOprandValue op s).rawInstr = s.rawInstr ∧
      (setBiasOprandValue op s).instrBuf = s.instrBuf := by
  have hreg : ∀ (opnd : Opnd) (vals : List Word) (s : GenState),
      (initReg opnd vals s).rawInstr = s.rawInstr ∧
        (initReg opnd vals s).instrBuf = s.instrBuf := by
    intro opnd vals s
    unfold initReg
    dsimp only
    split <;> exact ⟨rfl, rfl⟩
  refine List.foldlRecOn (motive := fun t : GenState =>
    t.rawInstr = s.rawInstr ∧ t.instrBuf = s.instrBuf) _ _ ⟨rfl, rfl⟩ fun t ht opnd _ => ?_
  split
  · obtain ⟨hraw, hbuf⟩ := hreg opnd regVals t
    exact ⟨hraw.trans ht.1, hbuf.trans ht.2⟩
  · obtain ⟨hraw, hbuf⟩ := hreg opnd shiftRegVals t
    exact ⟨hraw.trans ht.1, hbuf.trans ht.2⟩
  · exact ht

/-- Printing keeps the word and its lines. -/
lemma outputInstr_keeps (op : Opcode) (instr : Word) (status : InstrStatus) (s : GenState) :
    (outputInstr op instr status s).rawInstr = s.rawInstr ∧
      (outputInstr op instr status s).instrBuf = s.instrBuf := by
  unfold outputInstr
  dsimp only
  split
  · exact setBiasOprandValue_keeps op s
  · exact ⟨rfl, rfl⟩

lemma genRandomInstr_eq_lastRound (timeStream : ℕ → BitVec 31) {s : GenState}
    (h : ¬ UnknownOp s) :
    genRandomInstr timeStream s =
      (let r := attempt (requestedOp s) (lastRound timeStream s) (lastRoundState timeStream s)
      (r.2.1, outputInstr r.1 r.2.2.rawInstr r.2.1 r.2.2)) := by
  rw [genRandomInstr_of_known timeStream h, Retry.run_eq_last, Nat.zero_add]
  rfl

lemma lastRoundState_shadowOptions (timeStream : ℕ → BitVec 31) (s : GenState) :
    (lastRoundState timeStream s).shadowOptions = s.options := by
  have hfixed : ∀ op ∈ requestedOp s, op < SISA_OP_MAX := fun op h => requestedOp_lt h
  exact (roundState_carries hfixed _ _).shadowOptions.trans (enterLoop_shadowOptions timeStream s)

/-- With a 16-bit Thumb opcode the word that `gen_random_instr` reports is the halfword it prints
exactly when the round that ends the run does not set the S bit. -/
theorem genRandomInstr_reportsHalfword_iff (timeStream : ℕ → BitVec 31) {s : GenState}
    (hknown : ¬ UnknownOp s) (hop : isThumb16 (reportedOp timeStream s)) :
    ReportsHalfword (genRandomInstr timeStream s).2 ↔
      ¬ SbitSet s.options (lastRound timeStream s)
        ((lastRoundState timeStream s).randStream
          (drawsBeforeSbit s.options (lastRound timeStream s))) := by
  have hshadow := lastRoundState_shadowOptions timeStream s
  have hsbit := prepare_sbit_iff (requestedOp s) (lastRound timeStream s)
    (lastRoundState timeStream s)
  rw [hshadow] at hsbit
  rw [genRandomInstr_eq_lastRound timeStream hknown]
  dsimp only
  rw [ReportsHalfword, (outputInstr_keeps _ _ _ _).1, (outputInstr_keeps _ _ _ _).2]
  -- the round is `gen_instr` after `init_raw_instr_bin`, which keeps the options
  obtain ⟨t, ht⟩ : ∃ t, initRawInstrBin (reportedOp timeStream s) (prepare (requestedOp s)
    (lastRound timeStream s) (lastRoundState timeStream s)).2 = t := ⟨_, rfl⟩
  have hround : (attempt (requestedOp s) (lastRound timeStream s)
      (lastRoundState timeStream s)).2 = genInstr (reportedOp timeStream s) t := by
    rw [← ht]
    rfl
  have hopts : t.options = (prepare (requestedOp s) (lastRound timeStream s)
      (lastRoundState timeStream s)).2.options := by
    rw [← ht]
    unfold initRawInstrBin
    dsimp only
    split <;> rfl
  have hclear : AgreeOn highHalf t.rawInstr 0 := by
    rw [← ht]
    exact hop.initRawInstrBin_agreeOn _
  have hlt := hop.genInstr_lt_iff hclear
  rw [optStat, hopts, ← optStat, hsbit] at hlt
  rw [hround, hop.getLast?_instrBuf t, ← hlt]
  constructor
  · intro h
    exact h.1
  · intro h
    refine ⟨h, ?_⟩
    rw [and_lowHalf h]

lemma reportedOp_of_requestedOp {timeStream : ℕ → BitVec 31} {s : GenState} {op : Opcode}
    (h : requestedOp s = some op) : reportedOp timeStream s = op := by
  rw [reportedOp, h]
  rfl

/-- The user asks for `LDR_lit_T1` with the S bit as given and without relaxation. -/
def literalState (sbitVal : SbitVal) : GenState :=
  { staticState (fun _ => 0) (fun _ => 0) with
    options := { (((zeroOptions.setOptStat .opcode).setOptStat .sbit).setOptStat
        .randSeed).setOptStat .notAllowRelax with
      opcode := some "LDR_lit_T1", sbitVal := sbitVal } }

/-- With the S bit clear the halfword is reported. -/
theorem genRandomInstr_reportsHalfword_LDR :
    ¬ UnknownOp (literalState .unset) ∧
      isThumb16 (reportedOp (fun _ => 0) (literalState .unset)) ∧
      ReportsHalfword (genRandomInstr (fun _ => 0) (literalState .unset)).2 := by
  have hreq : requestedOp (literalState .unset) = some Op.LDR_lit_T1 := by decide +kernel
  have hknown : ¬ UnknownOp (literalState .unset) := by
    intro h
    rw [UnknownOp, hreq] at h
    exact absurd h.2 (by decide)
  have hop : isThumb16 (reportedOp (fun _ => 0) (literalState .unset)) := by
    rw [reportedOp_of_requestedOp hreq]
    decide
  refine ⟨hknown, hop, (genRandomInstr_reportsHalfword_iff _ hknown hop).mpr ?_⟩
  have hrelax : (literalState .unset).options.getOptStat .notAllowRelax = true := by decide
  have hval : (literalState .unset).options.sbitVal = .unset := rfl
  simp [SbitSet, sbitRelaxed, hrelax, hval]

/-- With the S bit set, `raw_instr` is `0x104800` and the line is `.inst.n 0x4800`. -/
theorem genRandomInstr_LDR_not_halfword :
    (genRandomInstr (fun _ => 0) (literalState .set)).1 = .valid ∧
      (genRandomInstr (fun _ => 0) (literalState .set)).2.rawInstr = 0x104800 ∧
      (genRandomInstr (fun _ => 0) (literalState .set)).2.instrBuf = [.inst (.instN 0x4800)] := by
  decide +kernel

end Rit
