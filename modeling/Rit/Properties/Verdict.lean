import Rit.Properties.Status

/-!
# Verdicts and the architecture

Two places where the verdict of an ARM validator is compared with what the architecture says about
the word.

The extend-and-add instructions read their registers through the operand slots of the row, and the
rows list the rotated register `Rm` before `Rn`.  The validator takes the first slot for `Rn`, so
it exchanges the two checks: the word is called an alias when `Rm` is the program counter and
unpredictable when `Rn` is.

A store multiple with writeback stores a known value for its base only if the base is the lowest
register of the list.  The validator tests that with a mask shifted by the number of the base, and
for `PUSH` with a constant.
-/

namespace Rit

open BitField GenState

/-! ## Extend and add -/

/-- The architecture's verdict on an extend-and-add word: `Rd` must not be the program counter,
nor must `Rm`, and with `Rn` the program counter the word is the plain extend. -/
def extAddClass (w : Word) : InstrStatus :=
  if rt w = R_PC then .unsupported
  else if rm w = R_PC then .unpredictable
  else if rn w = R_PC then .alias
  else .valid

/-- The slots of extend and add: the rotated register comes first. -/
lemma extAddSlots : ∀ op ∈ extAddOps, (glbInstrTlb op).output0 = gprAt 12 ∧
    (glbInstrTlb op).input0 = ⟨0, 3, 10, 11, .rotateReg⟩ ∧ (glbInstrTlb op).input1 = gprAt 16 := by
  decide +kernel

lemma genArmInstr_extAdd {op : Opcode} (hop : op ∈ extAddOps) (s : GenState) :
    genArmInstr op s = genExtAdd op s := by
  have hlists : ∀ op ∈ extAddOps, op ∈ armUncategoriedOp ∧ op ∉ parallelOps := by decide
  obtain ⟨huncat, hpar⟩ := hlists op hop
  rw [genArmInstr, if_pos huncat, genUncategorizedInstr, if_neg hpar, if_pos hop]

/-- Without bias the verdict is a function of the word. -/
lemma genExtAdd_fst {op : Opcode} (hop : op ∈ extAddOps) {s : GenState}
    (hbias : s.optStat .allowBiasOpnd = false) :
    (genExtAdd op s).1 =
      if rt s.rawInstr = R_PC then .unsupported
      else if rn s.rawInstr = R_PC then .unpredictable
      else if rm s.rawInstr = R_PC then .alias
      else .valid := by
  obtain ⟨hd, hn, hm⟩ := extAddSlots op hop
  have hrm : getRegnum s.rawInstr (glbInstrTlb op).input0 = rm s.rawInstr := by
    rw [hn]
    rfl
  rw [genExtAdd, bias3, if_neg (by simp [hbias]), getRegnum_gprAt_12 hd, getRegnum_gprAt_16 hm, hrm]
  by_cases h1 : rt s.rawInstr = R_PC
  · simp [h1]
  · by_cases h2 : rn s.rawInstr = R_PC
    · simp [h1, h2]
    · simp [h1, h2]

/-- The validator agrees with the architecture on an extend-and-add word exactly when `Rd` is the
program counter, or both or neither of `Rm` and `Rn` are. -/
theorem genArmInstr_extAdd_eq_class_iff {op : Opcode} (hop : op ∈ extAddOps) {s : GenState}
    (hbias : s.optStat .allowBiasOpnd = false) :
    (genArmInstr op s).1 = extAddClass s.rawInstr ↔
      rt s.rawInstr = R_PC ∨ (rm s.rawInstr = R_PC ↔ rn s.rawInstr = R_PC) := by
  rw [genArmInstr_extAdd hop, genExtAdd_fst hop hbias, extAddClass]
  by_cases h1 : rt s.rawInstr = R_PC
  · simp [h1]
  · by_cases h2 : rm s.rawInstr = R_PC <;> by_cases h3 : rn s.rawInstr = R_PC <;>
      simp [h1, h2, h3]

/-- `sxtab r2, r1, r3` is accepted. -/
theorem genArmInstr_SXTAB_eq_class :
    Op.SXTAB ∈ extAddOps ∧ (sampleState.setRawInstr 0xe6a12073).optStat .allowBiasOpnd = false ∧
      (genArmInstr Op.SXTAB (sampleState.setRawInstr 0xe6a12073)).1 = extAddClass 0xe6a12073 :=
  ⟨by decide, by decide, (genArmInstr_extAdd_eq_class_iff (s := sampleState.setRawInstr 0xe6a12073)
    (by decide) (by decide)).2 (.inr (by decide))⟩

/-- `sxtab r2, r1, pc` is unpredictable, and is reported as an alias. -/
theorem genArmInstr_SXTAB_alias :
    (sampleState.setRawInstr 0xe6a1207f).optStat .allowBiasOpnd = false ∧
      (genArmInstr Op.SXTAB (sampleState.setRawInstr 0xe6a1207f)).1 = .alias ∧
      extAddClass 0xe6a1207f = .unpredictable := by
  decide +kernel

/-! ## Store multiple -/

/-- The base register is one of the registers of the list. -/
def baseInList (w : Word) : Prop := w.getLsbD (rn w).toNat = true

/-- No register below the base is in the list. -/
def baseLowest (w : Word) : Prop := ∀ i < (rn w).toNat, w.getLsbD i = false

lemma toNat_rn_lt (w : Word) : (rn w).toNat < 16 := by
  rw [rn, getBitsValue_eq_get w (by decide) (by decide)]
  exact toNat_get_lt w (by decide)

lemma getLsbD_registerList (w : Word) {i : ℕ} (hi : i < 16) :
    (w &&& 0xffff).getLsbD i = w.getLsbD i := by
  have hmask : ∀ i < 16, (0xffff : Word).getLsbD i = true := by decide
  rw [BitVec.getLsbD_and, hmask i hi, Bool.and_true]

/-- `0xffff >> (16 - n)` selects the registers below `n`. -/
lemma getLsbD_lowerMask {n : Word} (hn : n.toNat < 16) (i : ℕ) :
    (shr 0xffff (16 - n).toNat).getLsbD i = decide (i < n.toNat) := by
  have hall : ∀ n < 16, shr 0xffff (16 - BitVec.ofNat 32 n).toNat =
      BitVec.ofNat 32 (2 ^ n - 1) := by
    decide
  have hmask := hall n.toNat hn
  rw [BitVec.ofNat_toNat, BitVec.setWidth_eq] at hmask
  have hlt : 2 ^ n.toNat < 2 ^ 32 := Nat.pow_lt_pow_right (by decide) (by omega)
  rw [hmask, ← BitVec.testBit_toNat, BitVec.toNat_ofNat, Nat.mod_eq_of_lt (by omega),
    Nat.testBit_two_pow_sub_one]

/-- The test of the store multiples. -/
lemma lowerRegisters_iff (w : Word) :
    w &&& 0xffff &&& shr 0xffff (16 - rn w).toNat = 0 ↔ baseLowest w := by
  have hn := toNat_rn_lt w
  have hbit : ∀ i, (w &&& 0xffff &&& shr 0xffff (16 - rn w).toNat).getLsbD i =
      (w.getLsbD i && decide (i < (rn w).toNat)) := by
    intro i
    rw [BitVec.getLsbD_and, getLsbD_lowerMask hn]
    by_cases hi : i < (rn w).toNat
    · rw [getLsbD_registerList w (Nat.lt_trans hi hn)]
    · simp [hi]
  constructor
  · intro h i hi
    have hi' := hbit i
    rw [h] at hi'
    simpa [hi] using hi'.symm
  · intro h
    apply BitVec.eq_of_getLsbD_eq
    intro i _
    rw [hbit]
    by_cases hi : i < (rn w).toNat
    · simp [h i hi]
    · simp [hi]

/-- What is claimed of a verdict: only a lowest base is accepted, and a lowest base is not called
unknown. -/
structure KnownBase (w : Word) (status : InstrStatus) : Prop where
  lowest : status = .valid → baseLowest w
  known : baseLowest w → status ≠ .instUnknown

section

variable {op : Opcode} {w : Word}

lemma stmStatus_knownBase (hop : op ∈ stmOps) (hwb : getBitValue w 21 = 1) (hbase : baseInList w) :
    KnownBase w (stmStatus op w) := by
  have hn : getRegnum w (glbInstrTlb op).input0 = rn w :=
    getRegnum_gprAt_16 (memSlots.2.2.2.2.1 op (by simp [hop]))
  have hlisted : getBitValue (w &&& 0xffff) (rn w).toNat = 1 := by
    have hlt := toNat_rn_lt w
    rw [getBitValue_eq_one_iff _ (by omega), getLsbD_registerList w hlt]
    exact hbase
  constructor
  · intro h
    simp only [stmStatus, hn, InstrStatus.ite_eq_valid, ne_eq, reduceCtorEq, not_false_eq_true]
      at h
    by_contra hlow
    exact h.2.1 ⟨hlisted, by rw [hwb]; decide, fun h => hlow ((lowerRegisters_iff w).1 h)⟩
  · intro hlow h
    simp only [stmStatus, hn, (lowerRegisters_iff w).2 hlow, ne_eq, not_true_eq_false, and_false,
      if_false] at h
    split_ifs at h

lemma lowRegisters_iff (hsp : rn w = R_SP) : w &&& 0xffff &&& 0x1fff = 0 ↔ baseLowest w := by
  have h := lowerRegisters_iff w
  rw [hsp] at h
  exact h

lemma pushStatus_knownBase (hsp : rn w = R_SP) (hbase : baseInList w) :
    KnownBase w (pushStatus Op.PUSH_a1 w) := by
  have hlisted : getBitValue (w &&& 0xffff) R_SP.toNat ≠ 0 := by
    rw [Ne, getBitValue_eq_zero_iff _ (by decide), getLsbD_registerList w (by decide)]
    rw [baseInList, hsp] at hbase
    simp [hbase]
  have hone : Op.PUSH_a1 ≠ Op.PUSH_a2 := by decide
  constructor
  · intro h
    simp only [pushStatus, hone, false_and, if_false, InstrStatus.ite_eq_valid, ne_eq,
      reduceCtorEq, not_false_eq_true] at h
    by_contra hlow
    exact h.1 ⟨trivial, hlisted, fun h => hlow ((lowRegisters_iff hsp).1 h)⟩
  · intro hlow h
    simp only [pushStatus, hone, false_and, if_false, (lowRegisters_iff hsp).2 hlow, ne_eq,
      not_true_eq_false, and_false] at h
    split_ifs at h

end

/-- The prelude may withdraw acceptance and changes no other verdict. -/
lemma multiTail_fst (n : Word) (status : InstrStatus) (s : GenState) :
    (multiTail n status s).1 = status ∨ (multiTail n status s).1 = .unsupported := by
  unfold multiTail
  split
  · exact .inl rfl
  split
  · exact .inl rfl
  · dsimp only
    split
    · exact .inr rfl
    · exact .inl rfl

lemma KnownBase.multiTail {n w : Word} {status : InstrStatus} (h : KnownBase w status)
    (s : GenState) : KnownBase w (multiTail n status s).1 := by
  rcases multiTail_fst n status s with heq | heq
  · rwa [heq]
  · rw [heq]
    exact ⟨nofun, fun _ => nofun⟩

/-- The store multiples, `PUSH` of several registers among them. -/
def storeMultipleOps : List Opcode := stmOps ++ [Op.PUSH_a1]

/-- The generator of the store multiples: the verdict on the word as it stands, and the word
untouched. -/
lemma validate_storeMultiple {op : Opcode} (hop : op ∈ storeMultipleOps) (s : GenState) :
    (validate op s).2.rawInstr = s.rawInstr ∧ (validate op s).1 =
      if op = Op.PUSH_a1 then (multiTail R_SP (pushStatus op s.rawInstr) s).1
      else (multiTail (getRegnum s.rawInstr (glbInstrTlb op).input0)
        (stmStatus op s.rawInstr) s).1 := by
  have hrows : ∀ op ∈ storeMultipleOps, op < SISA_OP_ARM_MAX ∧ op ∉ armUncategoriedOp ∧
      (glbInstrTlb op).opKind = if op = Op.PUSH_a1 then .pushOp else .stmOp := by
    decide +kernel
  obtain ⟨harm, huncat, hkind⟩ := hrows op hop
  have hraw := fun n status => (multiTail_writes n status s).rawInstr_eq
  rw [validate, if_pos harm, genArmInstr, if_neg huncat, genMultiMemInstr, hkind]
  by_cases hpush : op = Op.PUSH_a1
  · rw [if_pos hpush, if_pos hpush]
    exact ⟨hraw _ _, rfl⟩
  · rw [if_neg hpush, if_neg hpush]
    exact ⟨hraw _ _, rfl⟩

/-- The base of every `PUSH` is `sp`. -/
lemma rn_genInstr_PUSH (s : GenState) :
    rn (genInstr Op.PUSH_a1 (initRawInstrBin Op.PUSH_a1 s)).2.rawInstr = R_SP := by
  have hmatch := stageWords_agreeOn (by decide) (.inl (by decide +kernel))
    (initRawInstrBin_agreeOn Op.PUSH_a1 s) _ (List.mem_of_getLast? (getLast?_stageWords _ _))
  have hfield : AgreeOn (span 32 16 19) _ (glbInstrTlb Op.PUSH_a1).matchVal :=
    hmatch.mono (by decide +kernel)
  rw [rn, getBitsValue_eq_get _ (by decide) (by decide), get_congr hfield]
  decide +kernel

/-- For every store multiple that `gen_instr` makes with writeback and with its base in the list:
if the word is `VALID`, the base is the lowest register of the list, and if the base is the lowest
register, the word is not rejected as `INST_UNKNOWN`. -/
theorem genInstr_storeMultiple_knownBase {op : Opcode} (hop : op ∈ storeMultipleOps) (s : GenState)
    {status : InstrStatus} {s' : GenState}
    (hgen : genInstr op (initRawInstrBin op s) = (status, s'))
    (hwb : getBitValue s'.rawInstr 21 = 1) (hbase : baseInList s'.rawInstr) :
    (status = .valid → baseLowest s'.rawInstr) ∧
      (baseLowest s'.rawInstr → status ≠ .instUnknown) := by
  have hsp : op = Op.PUSH_a1 → rn s'.rawInstr = R_SP := by
    rintro rfl
    have h := rn_genInstr_PUSH s
    rwa [hgen] at h
  have hpseudo : ∀ op ∈ storeMultipleOps, (glbInstrTlb op).opKind ≠ .pseudoOp := by decide +kernel
  rw [genInstr_eq (hpseudo op hop)] at hgen
  obtain ⟨hraw, hstatus⟩ := validate_storeMultiple hop (preValidate op (initRawInstrBin op s))
  obtain ⟨rfl, rfl⟩ := Prod.mk.inj hgen
  have hword : (reportFixedBit (takeOrig (operandStages op (beginInstr (initRawInstrBin op s)))).1
    (validate op (preValidate op (initRawInstrBin op s))).2).rawInstr =
      (preValidate op (initRawInstrBin op s)).rawInstr := hraw
  rw [hword] at hwb hbase hsp ⊢
  have hknown : KnownBase (preValidate op (initRawInstrBin op s)).rawInstr
      (validate op (preValidate op (initRawInstrBin op s))).1 := by
    rw [hstatus]
    split
    · rename_i hpush
      subst hpush
      exact (pushStatus_knownBase (hsp rfl) hbase).multiTail _
    · rename_i hpush
      have hstm : op ∈ stmOps := by simpa [storeMultipleOps, hpush] using hop
      exact (stmStatus_knownBase hstm hwb hbase).multiTail _
  exact ⟨hknown.lowest, hknown.known⟩

/-- A state that asks for the word `stm r1!, {r1, r2}`. -/
def stmState : GenState :=
  { sampleState with
    options := { sampleState.options.setOptStat .instrBinInit with regsList := 6 }
    rawInstr := 0xe8a10006 }

/-- `stm r1!, {r1, r2}` is accepted, and its base is the lowest of the two registers. -/
theorem genInstr_STM_knownBase :
    (genInstr Op.STM (initRawInstrBin Op.STM stmState)).1 = .valid ∧
      (genInstr Op.STM (initRawInstrBin Op.STM stmState)).2.rawInstr = 0xe8a10006 ∧
      baseInList 0xe8a10006 ∧ baseLowest 0xe8a10006 := by
  have hvalid : (genInstr Op.STM (initRawInstrBin Op.STM stmState)).1 = .valid := by decide +kernel
  have hraw : (genInstr Op.STM (initRawInstrBin Op.STM stmState)).2.rawInstr = 0xe8a10006 := by
    decide +kernel
  have hwb : getBitValue (genInstr Op.STM (initRawInstrBin Op.STM stmState)).2.rawInstr 21 = 1 := by
    rw [hraw]
    decide
  have hbase : baseInList (genInstr Op.STM (initRawInstrBin Op.STM stmState)).2.rawInstr := by
    rw [hraw, baseInList]
    decide
  have hgen : genInstr Op.STM (initRawInstrBin Op.STM stmState) =
      ((genInstr Op.STM (initRawInstrBin Op.STM stmState)).1,
        (genInstr Op.STM (initRawInstrBin Op.STM stmState)).2) := Prod.ext rfl rfl
  have hknown := genInstr_storeMultiple_knownBase (by decide) stmState hgen hwb hbase
  rw [hraw] at hbase hknown
  exact ⟨hvalid, hraw, hbase, hknown.1 hvalid⟩

end Rit
