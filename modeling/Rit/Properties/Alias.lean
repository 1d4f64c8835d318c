import Rit.Properties.Accept
import Rit.Properties.Condition

/-!
# Words in the excluded space of their own row

A row of the table has a second mask and value, `neg_msk` and `neg_val`: a word that matches them
is another instruction, an alias or an unconditional encoding, even though it matches the row.
`gen_instr` never tests this pattern.  For most rows a validator check implies it cannot match;
`Aliases` lists the ways in which it does match for the others, in terms of the options and the
initial word, and there is no other way.
-/

namespace Rit

open BitField GenState

/-! ## Exclusion patterns -/

section

variable {row : InstrDesc} {pat : List Field} {w : Word}

/-- The pattern is part of what the row excludes. -/
def InstrDesc.Forces (row : InstrDesc) (pat : List Field) : Prop :=
  ∀ f ∈ pat, f.lo ≤ f.hi ∧ f.hi < 31 ∧ span 32 f.lo f.hi &&& row.negMsk = span 32 f.lo f.hi ∧
    getBitsValue row.negVal f.lo f.hi = f.val

instance (row : InstrDesc) (pat : List Field) : Decidable (row.Forces pat) :=
  inferInstanceAs (Decidable (∀ f ∈ pat, _))

/-- A word in the excluded space has every pattern the row forces. -/
lemma hits_of_excluded (h : row.Forces pat) (hw : w &&& row.negMsk = row.negVal) : Hits w pat := by
  intro f hf
  obtain ⟨hlo, hhi, hmask, hval⟩ := h f hf
  have hagree : AgreeOn (span 32 f.lo f.hi) w row.negVal := by
    intro i hi
    have hmsk : row.negMsk.getLsbD i = true := by
      have hbit := congrArg (fun v => v.getLsbD i) hmask
      simpa [hi] using hbit
    rw [← hw, BitVec.getLsbD_and, hmsk, Bool.and_true]
  rw [Field.In, ← hval, getBitsValue_eq_get _ hlo hhi, getBitsValue_eq_get _ hlo hhi]
  exact get_congr hagree

/-- The pattern is all that the row excludes. -/
def InstrDesc.Excludes (row : InstrDesc) (pat : List Field) : Prop :=
  row.Forces pat ∧ union (pat.map fun f => span 32 f.lo f.hi) = row.negMsk ∧
    row.negVal &&& row.negMsk = row.negVal

instance (row : InstrDesc) (pat : List Field) : Decidable (row.Excludes pat) :=
  inferInstanceAs (Decidable (_ ∧ _ ∧ _))

lemma excluded_iff_hits (h : row.Excludes pat) : w &&& row.negMsk = row.negVal ↔ Hits w pat := by
  obtain ⟨hforce, hmask, hval⟩ := h
  refine ⟨hits_of_excluded hforce, fun hits => ?_⟩
  have hagree : AgreeOn row.negMsk w row.negVal := by
    rw [← hmask]
    refine agreeOn_union fun m hm => ?_
    obtain ⟨f, hf, rfl⟩ := List.mem_map.mp hm
    obtain ⟨hlo, hhi, -, hv⟩ := hforce f hf
    have hin := hits f hf
    rw [Field.In, ← hv, getBitsValue_eq_get _ hlo hhi, getBitsValue_eq_get _ hlo hhi] at hin
    exact agreeOn_of_get_eq hin
  rw [hagree.and_eq, hval]

end

/-! ## Rows that leak -/

/-- The ARM additions that are `ADR` with base `r15` and a clear S bit. -/
def sbitLeakOps : List Opcode := [Op.SUB_imm, Op.ADD_imm]

/-- The 32-bit Thumb rows that are another instruction with base `r15`. -/
def baseLeakOps : List Opcode := [Op.ORR_imm_T1, Op.ORN_imm_T1, Op.BFI_T1]

/-- The multiple accesses that are `POP` or `PUSH` with base `r13` and writeback. -/
def stackLeakOps : List Opcode := [Op.LDM_T2, Op.STMDB_T1]

def leakOps : List Opcode := Op.ROR_imm_T2 :: sbitLeakOps ++ baseLeakOps ++ stackLeakOps

def sbitLeak : List Field := [⟨20, 20, 0⟩, ⟨16, 19, R_PC⟩]
def baseLeak : List Field := [⟨16, 19, R_PC⟩]
def stackLeak : List Field := [⟨21, 21, 1⟩, ⟨16, 19, R_SP⟩]
def amountLeak : List Field := [⟨6, 7, 0⟩, ⟨12, 14, 0⟩]

/-- The row excludes the condition `1111`. -/
def condRow (op : Opcode) : Prop :=
  op < SISA_OP_ARM_MAX ∧ (glbInstrTlb op).negMsk = condMask ∧ (glbInstrTlb op).negVal = condMask

instance (op : Opcode) : Decidable (condRow op) := inferInstanceAs (Decidable (_ ∧ _ ∧ _))

/-- The S bit the word gets: the requested one, or the one it starts with. -/
def sbitClear (s : GenState) : Prop :=
  if s.optStat .sbit then s.options.sbitVal ≠ .set else s.rawInstr.getLsbD 20 = false

instance (s : GenState) : Decidable (sbitClear s) := by
  unfold sbitClear
  infer_instance

/-- How a word that starts in state `s` ends up in the excluded space of its own row. -/
inductive Aliases (op : Opcode) (s : GenState) : Prop
  | sbit (hop : op ∈ sbitLeakOps) (hS : sbitClear s)
      (hn : (s.options.srcRegs 0).toNat % 16 = 15)
  | base (hop : op ∈ baseLeakOps) (hn : (s.options.srcRegs 0).toNat % 16 = 15)
  | stack (hop : op ∈ stackLeakOps) (hW : s.rawInstr.getLsbD 21 = true)
      (hn : (s.options.srcRegs 0).toNat % 16 = 13)
  | amount (hop : op = Op.ROR_imm_T2) (h : s.options.shiftImmVal.toNat % 32 = 0)
  | cond (hop : condRow op) (hisa : s.options.isa.isArm = false)
      (h : s.rawInstr &&& condMask = condMask)

/-! ## Rows that do not leak -/

/-- No word at all is in the excluded space, or the exclusion is one of those treated below. -/
def aliasSafe (op : Opcode) (row : InstrDesc) : Bool :=
  row.negVal &&& row.negMsk != row.negVal || leakOps.elem op ||
    (op.blt SISA_OP_ARM_MAX && row.negMsk == condMask && row.negVal == condMask)

/-- A pattern the group rejects is part of what each of its rows excludes. -/
def groupAliasCheck (g : Group) : Bool :=
  g.ops.all fun op => aliasSafe op (glbInstrTlb op) ||
    g.rejects.any fun pat => (glbInstrTlb op).Forces pat

/-- The rows that are accepted by their kind. -/
def rowAliasCheck (op : Opcode) (row : InstrDesc) : Bool :=
  !(if op.blt SISA_OP_ARM_MAX then row.opKind.isData
    else op.blt SISA_OP_THUMB_MAX && (thumbKinds.elem row.opKind || op == Op.ADR_T1)) ||
    aliasSafe op row

lemma groupAliasCheck_all : (Group.all.all groupAliasCheck) = true := by
  decide +kernel

lemma rowAliasCheck_rows : (glbInstrTlbRows.zipIdx.all fun p => rowAliasCheck p.2 p.1) = true := by
  decide +kernel

lemma not_excluded_of_aliasSafe {op : Opcode} {w : Word} (hleak : op ∉ leakOps)
    (hcond : ¬ condRow op) (h : aliasSafe op (glbInstrTlb op) = true) :
    w &&& (glbInstrTlb op).negMsk ≠ (glbInstrTlb op).negVal := by
  simp only [aliasSafe, Bool.or_eq_true, Bool.and_eq_true, bne_iff_ne, List.elem_eq_mem,
    decide_eq_true_eq, beq_iff_eq, Nat.blt_eq] at h
  rcases h with (hvoid | hmem) | hrow
  · -- the value has a bit outside the mask
    intro hw
    apply hvoid
    rw [← hw, BitVec.and_assoc, BitVec.and_self]
  · exact absurd hmem hleak
  · exact absurd ⟨hrow.1.1, hrow.1.2, hrow.2⟩ hcond

/-- An accepted word is outside the excluded space of every row that does not leak. -/
lemma Accepted.not_excluded {op : Opcode} {w : Word} (h : Accepted op w) (hop : op < SISA_OP_MAX)
    (hleak : op ∉ leakOps) (hcond : ¬ condRow op) :
    w &&& (glbInstrTlb op).negMsk ≠ (glbInstrTlb op).negVal := by
  have hrow := forall_op rowAliasCheck_rows hop
  simp only [rowAliasCheck, Bool.or_eq_true, Bool.not_eq_true'] at hrow
  cases h with
  | listed g hmem hrej =>
    have hg := List.all_eq_true.mp groupAliasCheck_all g (Group.mem_all g)
    have h := List.all_eq_true.mp hg op hmem
    rw [Bool.or_eq_true, List.any_eq_true] at h
    rcases h with hsafe | ⟨pat, hpat, hforce⟩
    · exact not_excluded_of_aliasSafe hleak hcond hsafe
    · exact fun hw => hrej pat hpat (hits_of_excluded (by simpa using hforce) hw)
  | data harm hk _ _ =>
    refine not_excluded_of_aliasSafe hleak hcond (hrow.resolve_left ?_)
    rw [if_pos (by simpa using harm), hk]
    decide
  | thumb hlo hhi hk _ =>
    refine not_excluded_of_aliasSafe hleak hcond (hrow.resolve_left ?_)
    rw [if_neg (by simpa using hlo)]
    rcases hk with hk | rfl
    · simp [hk, hhi]
    · simp [hhi]

/-! ## The condition -/

/-- A word of an ARM row ends with the condition `1111` only if the options name another
instruction set and the word starts with it. -/
lemma genInstr_cond_iff {op : Opcode} {s : GenState} (hop : op < SISA_OP_ARM_MAX)
    (hvalid : (genInstr op s).1 = .valid) :
    (genInstr op s).2.rawInstr &&& condMask = condMask ↔
      s.options.isa.isArm = false ∧ s.rawInstr &&& condMask = condMask := by
  have hfinal := (genInstr_cond hop hvalid).and_eq
  have hopts : (setSbit op (beginInstr s)).options = s.options := (setSbit_sets op _).options
  rw [hfinal]
  cases hisa : s.options.isa.isArm with
  | true =>
    have hne := setArmCondBits_ne_condMask (s := setSbit op (beginInstr s)) hop
        (by rw [hopts, hisa])
    simp [hne]
  | false =>
    rw [setArmCondBits_of_not_isArm (by rw [hopts, hisa])]
    have hsbit : AgreeOn condMask (setSbit op (beginInstr s)).rawInstr s.rawInstr := by
      refine (setSbit_sets op (beginInstr s)).raw.agreeOn ?_
      unfold sbitMask
      split
      · exact BitVec.zero_and
      · exact span_and_condMask (by decide)
    rw [hsbit.and_eq]
    simp

/-! ## The fields of the rows that leak -/

/-- `r15` and `r13` at bits 16 to 19, by number. -/
lemma rn_eq_iff {w : Word} {n : ℕ} (hn : n < 16) : rn w = .ofNat 32 n ↔ (rn w).toNat = n := by
  rw [← BitVec.toNat_inj, BitVec.toNat_ofNat, Nat.mod_eq_of_lt (by omega)]

/-- Where the validator writes nothing, the final word is the one it was given. -/
lemma genInstr_rawInstr_of_thumb {op : Opcode} {s : GenState} (hop : SISA_OP_ARM_MAX ≤ op)
    (hw : rewriteMask op = 0) (hvalid : (genInstr op s).1 = .valid) :
    (genInstr op s).2.rawInstr = (preValidate op s).rawInstr := by
  have hwrites := validate_writes op (preValidate op s)
  have hmask : validatorMask op (preValidate op s) = 0 := by
    rw [validatorMask, hw, if_neg (fun h => Nat.not_lt.mpr hop h.2)]
    rfl
  rw [hmask] at hwrites
  rw [(genInstr_valid hvalid).2.1, hwrites.rawInstr_eq]

lemma leakOps_range : (∀ op ∈ sbitLeakOps, op < SISA_OP_ARM_MAX) ∧
    ∀ op ∈ Op.ROR_imm_T2 :: baseLeakOps ++ stackLeakOps,
      SISA_OP_ARM_MAX ≤ op ∧ op < SISA_OP_MAX := by
  decide

/-- What the rows have in common with which the final word is read off the options. -/
lemma leakRows :
    (∀ op ∈ sbitLeakOps, (glbInstrTlb op).Excludes sbitLeak ∧ inputCheck op rnOpnd 0 0 = true ∧
      isFixedOprand op 20 20 = false ∧
      (opndsMask op (glbInstrTlb op).inputs ||| opndsMask op (glbInstrTlb op).outputs |||
        fixMask op ||| armCondMask op ||| freeOpndMask (glbInstrTlb op) ||| rewriteMask op) &&&
          span 32 20 20 = 0#32) ∧
    (∀ op ∈ baseLeakOps, (glbInstrTlb op).Excludes baseLeak ∧ rewriteMask op = 0 ∧
      ∃ k < 4, inputCheck op rnOpnd k 0 = true) ∧
    (∀ op ∈ stackLeakOps, (glbInstrTlb op).Excludes stackLeak ∧ rewriteMask op = 0 ∧
      inputCheck op rnOpnd 0 0 = true ∧
      (fixMask op ||| operandMask op) &&& span 32 21 21 = 0#32) ∧
    (glbInstrTlb Op.ROR_imm_T2).Excludes amountLeak ∧ rewriteMask Op.ROR_imm_T2 = 0 ∧
    ∀ op ∈ sbitLeakOps, op ∉ armUncategoriedOp ∧ (glbInstrTlb op).opKind = .aluOp ∧
      (glbInstrTlb op).input2.type = .none ∧ (glbInstrTlb op).input1.type = .immArmExp ∧
      (glbInstrTlb op).output0.type ≠ .none ∧ (glbInstrTlb op).output0.reg4 = true ∧
      (glbInstrTlb op).output0.Apart rnOpnd ∧ (glbInstrTlb op).input0 = rnOpnd := by
  decide +kernel

section

variable {op : Opcode} {s : GenState}

lemma preValidate_rn (hop : op < SISA_OP_MAX) {k : ℕ} (h : inputCheck op rnOpnd k 0 = true)
    (s : GenState) : (rn (preValidate op s).rawInstr).toNat = (s.options.srcRegs 0).toNat % 16 :=
  preValidate_input_of_check hop h s

lemma base_excluded_iff (hop : op ∈ baseLeakOps) (hvalid : (genInstr op s).1 = .valid) :
    (genInstr op s).2.rawInstr &&& (glbInstrTlb op).negMsk = (glbInstrTlb op).negVal ↔
      (s.options.srcRegs 0).toNat % 16 = 15 := by
  obtain ⟨hrow, hw, k, -, hin⟩ := leakRows.2.1 op hop
  have hlo := leakOps_range.2 op (by simp [hop])
  rw [genInstr_rawInstr_of_thumb hlo.1 hw hvalid, excluded_iff_hits hrow]
  change Hits _ (pcAt 16) ↔ _
  rw [hits_pcAt_16, R_PC, ← preValidate_rn hlo.2 hin s]
  exact rn_eq_iff (by decide)

lemma stack_excluded_iff (hop : op ∈ stackLeakOps) (hvalid : (genInstr op s).1 = .valid) :
    (genInstr op s).2.rawInstr &&& (glbInstrTlb op).negMsk = (glbInstrTlb op).negVal ↔
      s.rawInstr.getLsbD 21 = true ∧ (s.options.srcRegs 0).toNat % 16 = 13 := by
  obtain ⟨hrow, hw, hin, hbit⟩ := leakRows.2.2.1 op hop
  have hlo := leakOps_range.2 op (by simp [hop])
  have hW : (preValidate op s).rawInstr.getLsbD 21 = s.rawInstr.getLsbD 21 :=
    (preValidate_agreeOff hlo.2 s).agreeOn hbit 21 (by decide)
  rw [genInstr_rawInstr_of_thumb hlo.1 hw hvalid, excluded_iff_hits hrow,
    ← preValidate_rn hlo.2 hin s, ← hW, ← getBitValue_eq_one_iff _ (by decide)]
  simp only [stackLeak, Hits, Field.In, List.forall_mem_cons, List.not_mem_nil, false_implies,
    implies_true, and_true, getBitsValue_self _ (show 21 < 31 by decide)]
  exact and_congr_right fun _ => rn_eq_iff (by decide)

lemma setSbit_getLsbD (hfree : isFixedOprand op 20 20 = false) (s : GenState) :
    (setSbit op s).rawInstr.getLsbD 20 =
      if s.optStat .sbit then decide (s.options.sbitVal = .set) else s.rawInstr.getLsbD 20 := by
  have hrec : ∀ s', s' = (if s.shadowOptions.sbitVal ≠ .rand then setInstrFixedBit 20 20 s
      else s) → s'.options = s.options ∧ s'.rawInstr = s.rawInstr := by
    rintro s' rfl
    unfold setInstrFixedBit
    split_ifs <;> exact ⟨rfl, rfl⟩
  by_cases hs : s.optStat .sbit
  · rw [setSbit, if_pos ⟨hs, by simp [hfree]⟩, if_pos hs]
    obtain ⟨hopts, hraw⟩ := hrec _ rfl
    dsimp only
    rw [hopts, hraw]
    have hone : (shl 1 20).getLsbD 20 = true := by decide
    split
    · rename_i hset
      rw [setRawInstr, BitVec.getLsbD_or, hone, Bool.or_true, hset]
      rfl
    · rename_i hset
      rw [setRawInstr, BitVec.getLsbD_and, BitVec.getLsbD_not, hone, decide_eq_false hset]
      simp
  · rw [setSbit, if_neg (fun h => hs h.1), if_neg hs]

/-- The additions go through `gen_data_instr`, and biasing leaves their source alone. -/
lemma sbit_final (hop : op ∈ sbitLeakOps) (hvalid : (genInstr op s).1 = .valid) :
    rn (genInstr op s).2.rawInstr = rn (preValidate op s).rawInstr := by
  obtain ⟨hu, hk, h2, h1, h0, hout, hap, hin⟩ := leakRows.2.2.2.2.2 op hop
  rw [(genInstr_valid hvalid).2.1, validate, if_pos (leakOps_range.1 op hop)]
  generalize preValidate op s = p
  have harm : genArmInstr op p = genDataInstr op p := by
    rw [genArmInstr, if_neg hu, hk]
  have hbias : dataBias op p = (.valid, (bias2 .allowBiasOpnd (glbInstrTlb op).output0 rnOpnd
      (getRegnum p.rawInstr (glbInstrTlb op).output0, getRegnum p.rawInstr rnOpnd) p).2) := by
    simp [dataBias, h2, h1, h0, hin]
  have hsrc := (bias2_holds (k := .allowBiasOpnd) (s := p) hap hout (by decide)).2
  rw [harm, genDataInstr, hbias]
  have hkept : (bias2 .allowBiasOpnd (glbInstrTlb op).output0 rnOpnd (getRegnum p.rawInstr
      (glbInstrTlb op).output0, getRegnum p.rawInstr rnOpnd) p).1.2 =
        getRegnum p.rawInstr rnOpnd := by
    unfold bias2
    split
    · exact randomBiasReg2_snd _ _ _
    · rfl
  exact hsrc.trans hkept

lemma sbit_final_S (hop : op ∈ sbitLeakOps) (hvalid : (genInstr op s).1 = .valid) :
    (genInstr op s).2.rawInstr.getLsbD 20 = false ↔ sbitClear s := by
  obtain ⟨-, -, hfree, hmask⟩ := leakRows.1 op hop
  simp only [or_and_eq_zero_iff] at hmask
  obtain ⟨⟨⟨⟨⟨hsrc, hdst⟩, hfix⟩, hcond⟩, hopnd⟩, hrew⟩ := hmask
  have hmax : op < SISA_OP_MAX := Nat.lt_trans (leakOps_range.1 op hop) (by decide)
  have hval : validatorMask op (preValidate op s) &&& span 32 20 20 = 0#32 := by
    refine or_and_eq_zero hrew ?_
    split
    · exact hopnd
    · exact BitVec.zero_and
  -- no stage after `set_sbit` writes bit 20
  have hbit : AgreeOn (span 32 20 20) (genInstr op s).2.rawInstr
      (setSbit op (beginInstr s)).rawInstr := by
    rw [(genInstr_valid hvalid).2.1]
    exact (((validate_writes op (preValidate op s)).raw.agreeOn hval).trans
      (preValidate_agreeOn_cond hmax hsrc hdst hfix s)).trans
      ((setArmCondBits_sets op _).raw.agreeOn hcond)
  rw [hbit 20 (by decide), setSbit_getLsbD hfree]
  change (if s.optStat .sbit = true then _ else s.rawInstr.getLsbD 20) = false ↔ _
  unfold sbitClear
  split
  · exact decide_eq_false_iff_not
  · rfl

lemma sbit_excluded_iff (hop : op ∈ sbitLeakOps) (hvalid : (genInstr op s).1 = .valid) :
    (genInstr op s).2.rawInstr &&& (glbInstrTlb op).negMsk = (glbInstrTlb op).negVal ↔
      sbitClear s ∧ (s.options.srcRegs 0).toNat % 16 = 15 := by
  obtain ⟨hrow, hin, -⟩ := leakRows.1 op hop
  have hmax : op < SISA_OP_MAX := Nat.lt_trans (leakOps_range.1 op hop) (by decide)
  rw [excluded_iff_hits hrow, ← preValidate_rn hmax hin s, ← sbit_final hop hvalid,
    ← sbit_final_S hop hvalid, ← getBitValue_eq_zero_iff _ (by decide)]
  simp only [sbitLeak, Hits, Field.In, List.forall_mem_cons, List.not_mem_nil, false_implies,
    implies_true, and_true, getBitsValue_self _ (show 20 < 31 by decide)]
  exact and_congr_right fun _ => rn_eq_iff (by decide)

/-! ## The shift amount of `ROR` -/

/-- The two pieces of a shift amount in a 32-bit Thumb word. -/
lemma setOpnd_shiftImmT (side : OpndSide) {opnd : Opnd} (ht : opndTypeOf opnd = .shiftImmT)
    (hlo : isFixedOprand op opnd.startBit opnd.endBit = false)
    (hhi : isFixedOprand op (2 * opnd.startBit) (2 * opnd.endBit) = false)
    (h1 : isFixedOprand op opnd.bit1 opnd.bit1 = true)
    (h2 : isFixedOprand op opnd.bit2 opnd.bit2 = true) (acc : ℕ × GenState) :
    (setOpnd op side acc opnd).2.rawInstr =
      setInstr (setInstr acc.2.rawInstr opnd.startBit opnd.endBit acc.2.options.shiftImmVal)
        (2 * opnd.startBit) (2 * opnd.endBit)
        (shr acc.2.options.shiftImmVal (opnd.endBit - opnd.startBit + 1)) := by
  rw [setOpnd]
  dsimp only
  rw [foldl_run_rawInstr]
  simp only [opndActions, ht, hlo, hhi, shiftTypeActions, h1, h2, Bool.false_eq_true,
    not_false_eq_true, and_self, if_true, List.append_nil]
  split <;> rfl

/-- What the row of `ROR` has that the read-back of its shift amount needs. -/
lemma amountRow :
    let row := glbInstrTlb Op.ROR_imm_T2
    (row.input1.startBit, row.input1.endBit) = (6, 7) ∧ opndTypeOf row.input1 = .shiftImmT ∧
      isFixedOprand Op.ROR_imm_T2 6 7 = false ∧ isFixedOprand Op.ROR_imm_T2 12 14 = false ∧
      isFixedOprand Op.ROR_imm_T2 row.input1.bit1 row.input1.bit1 = true ∧
      isFixedOprand Op.ROR_imm_T2 row.input1.bit2 row.input1.bit2 = true ∧
      opndsMask Op.ROR_imm_T2 row.outputs &&& row.negMsk = 0#32 ∧
      fixMask Op.ROR_imm_T2 &&& row.negMsk = 0#32 ∧
      ∀ o ∈ [row.input2, row.input3], opndMask Op.ROR_imm_T2 o &&& row.negMsk = 0#32 := by
  decide +kernel

lemma amount_excluded_iff (hvalid : (genInstr Op.ROR_imm_T2 s).1 = .valid) :
    (genInstr Op.ROR_imm_T2 s).2.rawInstr &&& (glbInstrTlb Op.ROR_imm_T2).negMsk =
      (glbInstrTlb Op.ROR_imm_T2).negVal ↔ s.options.shiftImmVal.toNat % 32 = 0 := by
  obtain ⟨hrow, hw, -⟩ := leakRows.2.2.2
  obtain ⟨hfield, ht, hlo, hhi, h1, h2, hdst, hfix, hpost⟩ := amountRow
  obtain ⟨hlo6, hhi7⟩ := Prod.mk.inj hfield
  have hrange := leakOps_range.2 Op.ROR_imm_T2 (by simp)
  have hsrc := preValidate_agreeOn_src hrange.2 hdst hfix s
  have hsplit : OpndSide.src.opnds (glbInstrTlb Op.ROR_imm_T2) =
      [(glbInstrTlb Op.ROR_imm_T2).input0] ++ (glbInstrTlb Op.ROR_imm_T2).input1 ::
        [(glbInstrTlb Op.ROR_imm_T2).input2, (glbInstrTlb Op.ROR_imm_T2).input3] := rfl
  obtain ⟨acc, -, -, hopts, hagree⟩ := setOpndBits_agreeOn hrange.2 .src hsplit hpost
    (setArmCondBits Op.ROR_imm_T2 (setSbit Op.ROR_imm_T2 (beginInstr s)))
  have hval : acc.2.options.shiftImmVal = s.options.shiftImmVal := by
    rw [hopts, (setArmCondBits_sets _ _).options, (setSbit_sets _ _).options]
    rfl
  have hset := setOpnd_shiftImmT .src ht (by rw [hlo6, hhi7]; exact hlo)
    (by rw [hlo6, hhi7]; exact hhi) h1 h2 acc
  rw [hlo6, hhi7, hval] at hset
  -- the excluded bits are the two pieces of the amount
  have hfinal := (hsrc.trans hagree).and_eq
  rw [hset] at hfinal
  rw [genInstr_rawInstr_of_thumb hrange.1 hw hvalid, hfinal, excluded_iff_hits hrow]
  set v := s.options.shiftImmVal
  have hhigh := toNat_getBitsValue_setInstr (setInstr acc.2.rawInstr 6 7 v) (shr v 2)
    (show 12 ≤ 14 by decide) (show 14 < 31 by decide)
  have hlow : (getBitsValue (setInstr (setInstr acc.2.rawInstr 6 7 v) 12 14 (shr v 2)) 6 7).toNat =
      v.toNat % 4 := by
    have hsame : getBitsValue (setInstr (setInstr acc.2.rawInstr 6 7 v) 12 14 (shr v 2)) 6 7 =
        getBitsValue (setInstr acc.2.rawInstr 6 7 v) 6 7 := by
      rw [getBitsValue_eq_get _ (by decide) (by decide),
        getBitsValue_eq_get _ (by decide) (by decide),
        setInstr_eq_set (setInstr acc.2.rawInstr 6 7 v) _ (by decide) (by decide)]
      exact get_set_of_disjoint _ _ (.inl (by decide))
    rw [hsame]
    exact toNat_getBitsValue_setInstr _ _ (by decide) (by decide)
  have hshift : (shr v 2).toNat = v.toNat / 4 := by
    rw [shr_of_lt (by decide), BitVec.toNat_ushiftRight, Nat.shiftRight_eq_div_pow]
  have hzero : ∀ x : Word, x = 0 ↔ x.toNat = 0 := fun x => by
    rw [← BitVec.toNat_inj]
    rfl
  have hwidth : 2 ^ (14 - 12 + 1) = 8 := rfl
  simp only [amountLeak, Hits, Field.In, List.forall_mem_cons, List.not_mem_nil, false_implies,
    implies_true, and_true, hzero]
  rw [hlow, hhigh, hshift, hwidth]
  omega

end

/-! ## The theorem -/

/-- A word handed out as `VALID` is outside the excluded space of its row exactly when none of the
listed situations applies. -/
theorem genInstr_not_excluded_iff {op : Opcode} (hop : op < SISA_OP_MAX) {s : GenState}
    (hvalid : (genInstr op s).1 = .valid) :
    (genInstr op s).2.rawInstr &&& (glbInstrTlb op).negMsk ≠ (glbInstrTlb op).negVal ↔
      ¬ Aliases op s := by
  rw [ne_eq, not_iff_not]
  constructor
  · intro hex
    by_cases hcond : condRow op
    · rw [hcond.2.1, hcond.2.2, genInstr_cond_iff hcond.1 hvalid] at hex
      exact .cond hcond hex.1 hex.2
    by_cases hleak : op ∈ leakOps
    · simp only [leakOps, List.cons_append, List.mem_cons, List.mem_append] at hleak
      rcases hleak with rfl | (hsbit | hbase) | hstack
      · exact .amount rfl ((amount_excluded_iff hvalid).mp hex)
      · obtain ⟨hS, hn⟩ := (sbit_excluded_iff hsbit hvalid).mp hex
        exact .sbit hsbit hS hn
      · exact .base hbase ((base_excluded_iff hbase hvalid).mp hex)
      · obtain ⟨hW, hn⟩ := (stack_excluded_iff hstack hvalid).mp hex
        exact .stack hstack hW hn
    · exact absurd hex ((genInstr_accepted hvalid).not_excluded hop hleak hcond)
  · intro h
    cases h with
    | sbit hsbit hS hn => exact (sbit_excluded_iff hsbit hvalid).mpr ⟨hS, hn⟩
    | base hbase hn => exact (base_excluded_iff hbase hvalid).mpr hn
    | stack hstack hW hn => exact (stack_excluded_iff hstack hvalid).mpr ⟨hW, hn⟩
    | amount hror h =>
      subst hror
      exact (amount_excluded_iff hvalid).mpr h
    | cond hcond hisa h =>
      rw [hcond.2.1, hcond.2.2]
      exact (genInstr_cond_iff hcond.1 hvalid).mpr ⟨hisa, h⟩

/-- `ORR` with an ordinary source register is no alias. -/
theorem genInstr_ORR_imm_T1_not_excluded :
    (genInstr Op.ORR_imm_T1 (initRawInstrBin Op.ORR_imm_T1 sampleState)).1 = .valid ∧
      ((genInstr Op.ORR_imm_T1 (initRawInstrBin Op.ORR_imm_T1 sampleState)).2.rawInstr &&&
          (glbInstrTlb Op.ORR_imm_T1).negMsk ≠ (glbInstrTlb Op.ORR_imm_T1).negVal ↔
        ¬ Aliases Op.ORR_imm_T1 (initRawInstrBin Op.ORR_imm_T1 sampleState)) := by
  have hvalid : (genInstr Op.ORR_imm_T1 (initRawInstrBin Op.ORR_imm_T1 sampleState)).1 =
      .valid := by
    decide +kernel
  exact ⟨hvalid, genInstr_not_excluded_iff (by decide) hvalid⟩

/-- With source `r15` the word handed out as `ORR` is a `MOV`. -/
theorem genInstr_ORR_imm_T1_is_MOV :
    let s := initRawInstrBin Op.ORR_imm_T1 { sampleState with
      options := { sampleState.options with isa := .thumb32, srcRegs := fun _ => R_PC } }
    (genInstr Op.ORR_imm_T1 s).1 = .valid ∧ (genInstr Op.ORR_imm_T1 s).2.rawInstr = 0xf04f0500 ∧
      (genInstr Op.ORR_imm_T1 s).2.rawInstr &&& (glbInstrTlb Op.ORR_imm_T1).negMsk =
        (glbInstrTlb Op.ORR_imm_T1).negVal ∧
      (genInstr Op.ORR_imm_T1 s).2.rawInstr &&& (glbInstrTlb Op.MOV_imm_T2).matchMsk =
        (glbInstrTlb Op.MOV_imm_T2).matchVal := by
  decide +kernel

end Rit
