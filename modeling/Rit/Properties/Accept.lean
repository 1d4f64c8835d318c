import Rit.Properties.Bias

/-!
# What accepted words avoid

Every validator rejects some bit patterns: `r15` in a register field, the `P` and `W` bits of an
unprivileged access, the fields that make an encoding an alias of another one.  `Group` sorts the
opcodes by the patterns their validators reject.  `genInstr_accepted` says that a word handed out
as `VALID` avoids the patterns of its group; the data-processing rows of ARM and 16-bit Thumb,
whose validators go by the kind of the row, are stated in terms of the row's output slots.
-/

namespace Rit

open BitField GenState

/-! ## Bit patterns -/

/-- A value of a field of the word. -/
structure Field where
  lo : ℕ
  hi : ℕ
  val : Word
  deriving DecidableEq, Repr

/-- The word has the value in the field. -/
def Field.In (f : Field) (w : Word) : Prop := getBitsValue w f.lo f.hi = f.val

/-- The word has all the values of the pattern. -/
def Hits (w : Word) (pat : List Field) : Prop := ∀ f ∈ pat, f.In w

/-- `r15` in the four bits from `lo` on. -/
def pcAt (lo : ℕ) : List Field := [⟨lo, lo + 3, R_PC⟩]

/-- `P == 0 && W == 1`. -/
def unprivPat : List Field := [⟨24, 24, 0⟩, ⟨21, 21, 1⟩]

section

variable {w : Word}

lemma hits_pcAt {lo : ℕ} : Hits w (pcAt lo) ↔ getBitsValue w lo (lo + 3) = R_PC := by
  simp [Hits, pcAt, Field.In]

@[simp] lemma hits_pcAt_16 : Hits w (pcAt 16) ↔ rn w = R_PC := hits_pcAt

@[simp] lemma hits_pcAt_12 : Hits w (pcAt 12) ↔ rt w = R_PC := hits_pcAt

@[simp] lemma hits_pcAt_8 : Hits w (pcAt 8) ↔ rd w = R_PC := hits_pcAt

@[simp] lemma hits_pcAt_0 : Hits w (pcAt 0) ↔ rm w = R_PC := hits_pcAt

/-- A field of one bit is the bit. -/
lemma getBitsValue_self (w : Word) {i : ℕ} (hi : i < 31) :
    getBitsValue w i i = getBitValue w i := by
  rw [getBitsValue_eq_get _ (Nat.le_refl i) hi, getBitValue_eq _ (by omega)]
  apply BitVec.eq_of_getLsbD_eq
  intro j hj
  rw [getLsbD_get _ (Nat.le_refl i)]
  rcases Nat.eq_zero_or_pos j with rfl | hpos
  · cases w.getLsbD i <;> simp
  · have hne : j ≠ 0 := by omega
    cases hw : w.getLsbD i <;> simp [hne, BitVec.getLsbD_one]

lemma hits_bit {i : ℕ} {v : Word} (hi : i < 31) : Hits w [⟨i, i, v⟩] ↔ getBitValue w i = v := by
  simp [Hits, Field.In, getBitsValue_self w hi]

@[simp] lemma hits_unprivPat : Hits w unprivPat ↔ unpriv w := by
  simp [Hits, unprivPat, Field.In, unpriv, getBitsValue_self]

lemma rt_eq_R_PC_iff : rt w = R_PC ↔ w &&& 0xf000 = 0xf000 := by
  have hspan : (0xf000 : Word) = span 32 12 15 := by decide
  rw [hspan, and_span_eq_span_iff _ (by decide) (by decide), rt,
    getBitsValue_eq_get _ (by decide) (by decide)]
  rfl

/-- Bits 16, 18 and 19 are set in `r13` and `r15` only. -/
lemma not_hits_plain (h : rn w ≠ R_SP ∧ rn w ≠ R_PC) : ¬ Hits w [⟨16, 16, 1⟩, ⟨18, 19, 3⟩] := by
  intro hits
  simp [Hits, Field.In, getBitsValue_self] at hits
  obtain ⟨h16, h18⟩ := hits
  have hbit : ∀ i, (rn w).toNat.testBit i = (decide (i ≤ 3) && w.getLsbD (16 + i)) := by
    intro i
    rw [rn, getBitsValue_eq_get _ (by decide) (by decide), BitVec.testBit_toNat,
      getLsbD_get _ (by decide)]
  have hpair : ∀ i, i ≤ 1 → w.getLsbD (18 + i) = true := by
    intro i hi
    have h := congrArg (fun v => v.getLsbD i) h18
    rw [getBitsValue_eq_get _ (by decide) (by decide)] at h
    simp only [getLsbD_get w (show 18 ≤ 19 by decide)] at h
    rcases Nat.le_one_iff_eq_zero_or_eq_one.mp hi with rfl | rfl <;> simpa using h
  have hlt : (rn w).toNat < 16 := by
    rw [rn, getBitsValue_eq_get _ (by decide) (by decide)]
    exact toNat_get_lt w (by decide)
  have hsmall : ∀ n < 16, n.testBit 0 = true → n.testBit 2 = true → n.testBit 3 = true →
      n = 13 ∨ n = 15 := by decide
  rcases hsmall _ hlt (by simpa [hbit] using (getBitValue_eq_one_iff w (by decide)).mp h16)
    (by simpa [hbit] using hpair 0 (by decide)) (by simpa [hbit] using hpair 1 (by decide))
    with hsp | hpc
  · exact h.1 (BitVec.eq_of_toNat_eq hsp)
  · exact h.2 (BitVec.eq_of_toNat_eq hpc)

lemma not_hits_of_reg4 {o : Opnd} {lo : ℕ} (hlo : o.startBit = lo) (ho : o.reg4 = true)
    (h : getRegnum w o ≠ R_PC) : ¬ Hits w (pcAt lo) := by
  rw [hits_pcAt]
  rw [getRegnum_of_reg4 ho, (Opnd.ok_of_reg4 ho).1, hlo] at h
  exact h

end

/-! ## Groups of opcodes -/

/-- The 32-bit Thumb operations that are another one when the first source is `r15`. -/
def thumb32OrrOps : List Opcode := [Op.ORR_reg_T2, Op.ORN_reg_T1]

/-- The extensions that add a register, and do not when it is `r15`. -/
def thumb32ExtAddOps : List Opcode :=
  [Op.SXTAH_T1, Op.UXTAH_T1, Op.SXTAB16_T1, Op.UXTAB16_T1, Op.SXTAB_T1, Op.UXTAB_T1]

/-- The additions that are another instruction when the first source is `r13` or `r15`. -/
def thumb32PlainOps : List Opcode := [Op.ADD_imm_T4, Op.SUB_imm_T4]

/-- The saturations that are another one when they shift right by zero. -/
def thumb32SatOps : List Opcode := [Op.SSAT_T1, Op.USAT_T1]

/-- The opcodes whose validators reject the same patterns. -/
inductive Group
  -- ARM memory accesses
  | load
  | loadUnpriv
  | loadLit
  | store
  | storeUnpriv
  | multiple
  | stack
  | popOne
  | exclusive
  -- ARM data processing
  | dest
  | mul
  | mulAcc
  | extAdd
  | bfi
  | msrImm
  | pldImm
  | noDest
  -- 32-bit Thumb memory accesses
  | multiple32
  | load32
  | loadDual32
  | store32
  | literal32
  | exclusive32
  | exclusiveDual32
  | storeExclusive32
  | preload32
  -- 32-bit Thumb data processing
  | dest32
  | destAlias32
  | plain32
  | sat32
  | acc32
  | noDest32
  deriving DecidableEq, Repr

namespace Group

def all : List Group :=
  [load, loadUnpriv, loadLit, store, storeUnpriv, multiple, stack, popOne, exclusive, dest, mul,
    mulAcc, extAdd, bfi, msrImm, pldImm, noDest, multiple32, load32, loadDual32, store32,
    literal32, exclusive32, exclusiveDual32, storeExclusive32, preload32, dest32, destAlias32,
    plain32, sat32, acc32, noDest32]

lemma mem_all (g : Group) : g ∈ all := by
  cases g <;> decide

def ops : Group → List Opcode
  | load => ldImmOps ++ ldRegOps
  | loadUnpriv => ldtA1Ops ++ ldtA2Ops
  | loadLit => ldLitOps
  | store => stImmOps ++ stRegOps
  | storeUnpriv => sttA1Ops ++ sttA2Ops
  | multiple => ldmOps ++ stmOps
  | stack => Op.POP_a1 :: pushOps
  | popOne => [Op.POP_a2]
  | exclusive => ldexOps ++ stexOps
  | dest => [Op.SWP, Op.SWPB, Op.CLZ, Op.ADR_a1, Op.ADR_a2, Op.MOVT, Op.PKH, Op.SBFX, Op.UBFX,
      Op.BFC, Op.SEL, Op.MRS_a] ++ parallelOps ++ extOps ++ reverseOps ++ satOps
  | mul => Op.USAD8 :: mulOps
  | mulAcc => Op.USADA8 :: mlaOps ++ mulLongOps
  | extAdd => extAddOps
  | bfi => [Op.BFI]
  | msrImm => [Op.MSR_imm_a]
  | pldImm => [Op.PLD_imm]
  | noDest => armEmptyOps ++ [Op.MSR_reg_a, Op.PLI, Op.PLD, Op.PLI_imm, Op.PLD_lit]
  | multiple32 => thumb32MultiMemOps
  | load32 => thumb32LdImmOps.filter (· ≠ Op.LDRD_imm_T1) ++ thumb32MemRegOps
  | loadDual32 => [Op.LDRD_imm_T1]
  | store32 => thumb32StImmOps
  | literal32 => thumb32MemLitOps.filter (· ≠ Op.LDRD_lit_T1)
  | exclusive32 => [Op.LDREX_T1, Op.LDREXB_T1, Op.LDREXH_T1]
  | exclusiveDual32 => [Op.LDRD_lit_T1, Op.LDREXD_T1, Op.STREX_T1]
  | storeExclusive32 => [Op.STREXB_T1, Op.STREXH_T1, Op.STREXD_T1]
  | preload32 => thumb32PreloadOps.filter (· ∉ [Op.PLD_lit_T1, Op.PLI_lit_T3])
  | dest32 => Op.MRS_a_T1 :: thumb32ShiftedRegOps.filter (· ∉ thumb32CmpOps ++ thumb32OrrOps) ++
      thumb32MimmOps.filter (· ∉ thumb32CmpOps) ++
      thumb32PimmOps.filter (· ∉ thumb32PlainOps ++ thumb32SatOps) ++
      thumb32DataRegOps.filter (· ∉ thumb32ExtAddOps) ++ thumb32ParallelOps ++ thumb32MiscOps ++
      thumb32MulOps.filter (· ∉ thumb32AccOps)
  | destAlias32 => thumb32OrrOps ++ thumb32ExtAddOps
  | plain32 => thumb32PlainOps
  | sat32 => thumb32SatOps
  | acc32 => thumb32AccOps
  | noDest32 => Op.PLD_lit_T1 :: Op.PLI_lit_T3 :: Op.MSR_a_T1 :: thumb32CmpOps ++ thumb32HintOps

def rejects : Group → List (List Field)
  | load => [pcAt 12, pcAt 16, unprivPat]
  | loadUnpriv => [pcAt 12, pcAt 16]
  | loadLit => [pcAt 12, [⟨24, 24, 0⟩]]
  | store => [pcAt 16, unprivPat]
  | storeUnpriv => [pcAt 16]
  | multiple => [pcAt 16]
  | stack => []
  | popOne => [pcAt 12]
  | exclusive => [pcAt 12, pcAt 16]
  | dest => [pcAt 12]
  | mul => [pcAt 16]
  | mulAcc => [pcAt 16, pcAt 12]
  | extAdd => [pcAt 12, pcAt 16]
  | bfi => [pcAt 12, pcAt 0]
  | msrImm => [[⟨18, 19, 0⟩]]
  | pldImm => [pcAt 16]
  | noDest => []
  | multiple32 => [pcAt 16]
  | load32 => [pcAt 12, pcAt 16]
  | loadDual32 => [pcAt 12, pcAt 16, pcAt 8]
  | store32 => [pcAt 16]
  | literal32 => [pcAt 12]
  | exclusive32 => [pcAt 12]
  | exclusiveDual32 => [pcAt 12, pcAt 8]
  | storeExclusive32 => [pcAt 0]
  | preload32 => [pcAt 16]
  | dest32 => [pcAt 8]
  | destAlias32 => [pcAt 8, pcAt 16]
  | plain32 => [pcAt 8, [⟨16, 16, 1⟩, ⟨18, 19, 3⟩]]
  | sat32 => [pcAt 8, [⟨21, 21, 1⟩, ⟨6, 7, 0⟩, ⟨12, 14, 0⟩]]
  | acc32 => [pcAt 8, pcAt 12]
  | noDest32 => []

end Group

/-- The kinds 16-bit Thumb accepts. -/
def thumbKinds : List OpKind :=
  [.stOp, .ldOp, .stmOp, .ldmOp, .pushOp, .popOp, .mul32Op, .emptyOp, .aluOp, .logOp, .movOp,
    .cmpOp, .testOp, .extOp, .reverseOp]

/-- What is known of a word handed out as `VALID`. -/
inductive Accepted (op : Opcode) (w : Word) : Prop
  | listed (g : Group) (hop : op ∈ g.ops) (h : ∀ pat ∈ g.rejects, ¬ Hits w pat)
  | data (hop : op < SISA_OP_ARM_MAX) (hk : (glbInstrTlb op).opKind.isData = true)
      (hu : op ∉ armUncategoriedOp) (h : ∀ o ∈ (glbInstrTlb op).outputs, getRegnum w o ≠ R_PC)
  | thumb (hlo : SISA_OP_ARM_MAX ≤ op) (hhi : op < SISA_OP_THUMB_MAX)
      (hk : (glbInstrTlb op).opKind ∈ thumbKinds ∨ op = Op.ADR_T1)
      (h : (glbInstrTlb op).opKind.isData = true →
        ∀ o ∈ (glbInstrTlb op).outputs, getRegnum w o ≠ R_PC)

namespace Accepted

variable {op : Opcode} {s s' : GenState}

/-- A step that at most clears the alignment bits does not bring back a pattern above them. -/
lemma of_align (g : Group) (hop : op ∈ g.ops)
    (hpats : ∀ pat ∈ g.rejects, ∀ f ∈ pat, 2 ≤ f.lo ∧ f.lo ≤ f.hi ∧ f.hi < 31)
    (hw : Writes alignMask s s') (h : ∀ pat ∈ g.rejects, ¬ Hits s.rawInstr pat) :
    Accepted op s'.rawInstr := by
  refine .listed g hop fun pat hpat hits => h pat hpat fun f hf => ?_
  obtain ⟨hlo, hle, hhi⟩ := hpats pat hpat f hf
  have hdisj : alignMask &&& span 32 f.lo f.hi = 0#32 := by
    apply BitVec.eq_of_getLsbD_eq
    intro i _
    rw [alignMask, BitVec.getLsbD_and, getLsbD_span, getLsbD_span, BitVec.getLsbD_zero,
      Bool.and_eq_false_iff]
    simp only [decide_eq_false_iff_not]
    omega
  have hget := get_congr (hw.raw.agreeOn hdisj)
  have hin := hits f hf
  rw [Field.In, getBitsValue_eq_get _ hle hhi] at hin ⊢
  rwa [← hget]

section Tails

variable (g : Group) (hop : op ∈ g.ops)
  (hpats : ∀ pat ∈ g.rejects, ∀ f ∈ pat, 2 ≤ f.lo ∧ f.lo ≤ f.hi ∧ f.hi < 31)
include hop hpats

/-- An access with an immediate offset whose checks rule out the patterns. -/
lemma of_immTail {n : Word} {dual half word : Bool} {status : InstrStatus}
    (hvalid : (setOprandInit (immTail n dual half word status s)).1 = .valid)
    (h : status = .valid → ∀ pat ∈ g.rejects, ¬ Hits s.rawInstr pat) :
    Accepted op (setOprandInit (immTail n dual half word status s)).2.rawInstr :=
  of_align g hop hpats
    (writes_setOprandInit (immTail_writes n half word status s fun _ => BitVec.and_self))
    (h (immTail_valid hvalid))

lemma of_regTail {n m shiftT shiftN : Word} {shifted dual half word : Bool} {status : InstrStatus}
    (hvalid : (setOprandInit
      (regTail n m shiftT shiftN shifted dual half word status s)).1 = .valid)
    (h : status = .valid → ∀ pat ∈ g.rejects, ¬ Hits s.rawInstr pat) :
    Accepted op (setOprandInit
      (regTail n m shiftT shiftN shifted dual half word status s)).2.rawInstr :=
  of_align g hop hpats
    (writes_setOprandInit
      (regTail_writes n m shiftT shiftN shifted dual half word status s).of_zero)
    (h (regTail_valid hvalid))

lemma of_multiTail {n : Word} {status : InstrStatus}
    (hvalid : (setOprandInit (multiTail n status s)).1 = .valid)
    (h : status = .valid → ∀ pat ∈ g.rejects, ¬ Hits s.rawInstr pat) :
    Accepted op (setOprandInit (multiTail n status s)).2.rawInstr :=
  of_align g hop hpats (writes_setOprandInit (multiTail_writes n status s).of_zero)
    (h (multiTail_valid hvalid))

end Tails

/-- The destination of an opcode that has it at bits 12 to 15. -/
lemma of_dest {w : Word} (hop : op ∈ destOps) (hg : op ∈ Group.dest.ops)
    (h : getRegnum w (glbInstrTlb op).output0 ≠ R_PC) : Accepted op w := by
  obtain ⟨hreg, hplace⟩ := regPlaces.1 op hop
  refine .listed .dest hg fun pat hpat => ?_
  rw [Group.rejects, List.mem_singleton] at hpat
  rw [hpat]
  exact not_hits_of_reg4 hplace hreg h

/-- The destination and the accumulator of a multiply-accumulate. -/
lemma of_acc {w : Word} (hop : op ∈ quadOps) (hg : op ∈ Group.mulAcc.ops)
    (hd : getRegnum w (glbInstrTlb op).output0 ≠ R_PC)
    (ha : getRegnum w (glbInstrTlb op).input2 ≠ R_PC) : Accepted op w := by
  obtain ⟨-, hout, -, -, hin⟩ := quadSlots hop
  refine .listed .mulAcc hg (List.forall_mem_cons.mpr ⟨?_, List.forall_mem_singleton.mpr ?_⟩)
  · exact not_hits_of_reg4 (regPlaces.2.1 op (by simp [hop])) hout hd
  · exact not_hits_of_reg4 (regPlaces.2.2.1 op hop) hin ha

end Accepted

/-! ## ARM -/

/-- An unused slot reads as no register at all. -/
lemma getRegnum_of_none {o : Opnd} {w : Word} (h : o.type = .none) : getRegnum w o ≠ R_PC := by
  simp [getRegnum, h, INVALID_GPR, R_PC]

lemma outputPcStatus_valid {op : Opcode} {w : Word} {status : InstrStatus}
    (h : outputPcStatus op w status = .valid) :
    ∀ o ∈ (glbInstrTlb op).outputs, getRegnum w o ≠ R_PC := by
  intro o ho hpc
  have ht : o.type ≠ .none := fun ht => getRegnum_of_none ht hpc
  simp only [InstrDesc.outputs, List.mem_cons, List.not_mem_nil, or_false] at ho
  rcases ho with rfl | rfl <;> simp [outputPcStatus, ht, hpc] at h

section

variable {op : Opcode} {s : GenState} {r : InstrStatus × GenState}

/-- What every route through `gen_arm_instr` rules out. -/
lemma ArmRoute.accepted (h : ArmRoute op s r) (hop : op < SISA_OP_ARM_MAX)
    (hlit : op ∈ ldLitOps → getBitValue s.rawInstr 24 = 1) (hvalid : r.1 = .valid) :
    Accepted op r.2.rawInstr := by
  cases h with
  | ldImm h =>
    refine .of_immTail .load (by simp [Group.ops, h]) (by decide) hvalid fun hst => ?_
    obtain ⟨hn, ht, hp, -⟩ := ldImmStatus_valid h hst
    simp [Group.rejects, hn, ht, hp]
  | ldtA1 h =>
    refine .of_immTail .loadUnpriv (by simp [Group.ops, h]) (by decide) hvalid fun hst => ?_
    obtain ⟨hn, ht, -⟩ := ldtA1Status_valid h hst
    simp [Group.rejects, hn, ht]
  | ldReg h =>
    refine .of_regTail .load (by simp [Group.ops, h]) (by decide) hvalid fun hst => ?_
    obtain ⟨hn, ht, -, hp, -⟩ := ldRegStatus_valid h hst
    simp [Group.rejects, hn, ht, hp]
  | ldtA2 h =>
    refine .of_regTail .loadUnpriv (by simp [Group.ops, h]) (by decide) hvalid fun hst => ?_
    obtain ⟨hn, ht, -⟩ := ldtA2Status_valid h hst
    simp [Group.rejects, hn, ht]
  | ldLit h =>
    obtain ⟨ht, -⟩ := ldLitStatus_valid h hvalid
    have hw : Writes alignMask s (genLdLit op s).2 := by
      unfold genLdLit
      dsimp only
      split
      · refine writes_setRawInstr ?_
        rw [clearBits_eq _ (by decide) (by decide)]
        exact agreeOff_and _ (by decide)
      · exact .refl _ s
    refine Accepted.of_align (s := s) .loadLit (by simp [Group.ops, h]) (by decide)
      (writes_setOprandInit hw) ?_
    simp [Group.rejects, ht, hits_bit, hlit h]
  | stImm h =>
    refine .of_immTail .store (by simp [Group.ops, h]) (by decide) hvalid fun hst => ?_
    obtain ⟨hn, hp, -⟩ := stImmStatus_valid h hst
    simp [Group.rejects, hn, hp]
  | sttA1 h =>
    refine .of_immTail .storeUnpriv (by simp [Group.ops, h]) (by decide) hvalid fun hst => ?_
    obtain ⟨hn, -⟩ := sttA1Status_valid h hst
    simp [Group.rejects, hn]
  | stReg h =>
    refine .of_regTail .store (by simp [Group.ops, h]) (by decide) hvalid fun hst => ?_
    obtain ⟨hn, -, hp, -⟩ := stRegStatus_valid h hst
    simp [Group.rejects, hn, hp]
  | sttA2 h =>
    refine .of_regTail .storeUnpriv (by simp [Group.ops, h]) (by decide) hvalid fun hst => ?_
    obtain ⟨hn, -⟩ := sttA2Status_valid h hst
    simp [Group.rejects, hn]
  | ldm h =>
    refine .of_multiTail .multiple (by simp [Group.ops, h]) (by decide) hvalid fun hst => ?_
    obtain ⟨hn, -⟩ := ldmStatus_valid h hst
    simp [Group.rejects, hn]
  | stm h =>
    refine .of_multiTail .multiple (by simp [Group.ops, h]) (by decide) hvalid fun hst => ?_
    have hn := stmStatus_valid h hst
    simp [Group.rejects, hn]
  | push h => exact .listed .stack (by simp [Group.ops, h]) (by simp [Group.rejects])
  | pop h =>
    simp only [popOps, List.mem_cons, List.not_mem_nil, or_false] at h
    rcases h with rfl | rfl
    · exact .listed .stack (by simp [Group.ops]) (by simp [Group.rejects])
    · refine .of_multiTail .popOne (by simp [Group.ops]) (by decide) hvalid fun hst => ?_
      simpa [Group.rejects, rt_eq_R_PC_iff] using ((popStatus_valid hst).2 rfl).2
  | ldex h =>
    obtain ⟨hn, ht, -⟩ := ldexStatus_valid h hvalid
    refine Accepted.of_align (s := s) .exclusive (by simp [Group.ops, h]) (by decide)
      (fixMemBase_writes _ true s).of_zero ?_
    simp [Group.rejects, hn, ht]
  | stex h =>
    obtain ⟨hn, ht⟩ := stexStatus_valid h hvalid
    refine Accepted.of_align (s := s) .exclusive (by simp [Group.ops, h]) (by decide)
      (fixMemBase_writes _ true s).of_zero ?_
    simp [Group.rejects, hn, ht]
  | swp h =>
    have h' := genSwp_output h hvalid
    simp only [List.mem_cons, List.not_mem_nil, or_false] at h
    rcases h with rfl | rfl
    all_goals exact .of_dest (by simp [destOps, pairOps]) (by simp [Group.ops]) h'
  | clz h =>
    subst h
    exact .of_dest (by simp [destOps, pairOps]) (by simp [Group.ops]) (genClz_output hvalid)
  | adr h =>
    have hd : getRegnum s.rawInstr (glbInstrTlb op).output0 ≠ R_PC := by simpa using hvalid
    simp only [List.mem_cons, List.not_mem_nil, or_false] at h
    rcases h with rfl | rfl | rfl
    all_goals exact .of_dest (by simp [destOps]) (by simp [Group.ops]) hd
  | mul h =>
    have hmem : op ∈ tripleOps := by simp [tripleOps, h]
    exact .listed .mul (by simp [Group.ops, h]) (List.forall_mem_singleton.mpr
      (not_hits_of_reg4 (regPlaces.2.1 op (by simp [h])) (tripleSlots hmem).2.1
        (genMul_output h hvalid)))
  | mla h =>
    obtain ⟨hd, ha⟩ := genMla_output h hvalid
    exact .of_acc (by simp [quadOps, h]) (by simp [Group.ops, h]) hd ha
  | mulLong h =>
    obtain ⟨hhi, hlo⟩ := genMulLong_output h hvalid
    obtain ⟨-, hout0, hout1, -⟩ := mulLongSlots h
    exact .listed .mulAcc (by simp [Group.ops, h]) (List.forall_mem_cons.mpr
      ⟨not_hits_of_reg4 (regPlaces.2.1 op (by simp [h])) hout0 hhi, List.forall_mem_singleton.mpr
        (not_hits_of_reg4 (regPlaces.2.2.2.1 op h) hout1 hlo)⟩)
  | data h hu => exact .data hop h hu (outputPcStatus_valid hvalid)
  | empty h => exact .listed .noDest (by simp [Group.ops, h]) (by simp [Group.rejects])
  | parallel h =>
    exact .of_dest (by simp [destOps, h]) (by simp [Group.ops, h])
      (genThreeReg_output (by simp [tripleOps, h]) hvalid)
  | extAdd h =>
    obtain ⟨hd, hm⟩ := genExtAdd_output h hvalid
    have hmem : op ∈ tripleOps := by simp [tripleOps, h]
    obtain ⟨-, hout, -, hin⟩ := tripleSlots hmem
    exact .listed .extAdd h (List.forall_mem_cons.mpr
      ⟨not_hits_of_reg4 (regPlaces.1 op (by simp [destOps, h])).2 hout hd,
        List.forall_mem_singleton.mpr (not_hits_of_reg4 (regPlaces.2.2.2.2.1 op h) hin hm)⟩)
  | ext h =>
    exact .of_dest (by simp [destOps, h]) (by simp [Group.ops, h]) (genExt_output h hvalid)
  | reverse h =>
    simp [reverseStatus] at hvalid
    exact .of_dest (by simp [destOps, h]) (by simp [Group.ops, h]) hvalid.1
  | sat h =>
    exact .of_dest (by simp [destOps, h]) (by simp [Group.ops, h]) (genSat_output h hvalid)
  | pkh h =>
    subst h
    exact .of_dest (by simp [destOps]) (by simp [Group.ops]) (genPkh_output hvalid)
  | bfx h =>
    have hd := genBfx_output h hvalid
    simp only [List.mem_cons, List.not_mem_nil, or_false] at h
    rcases h with rfl | rfl
    all_goals exact .of_dest (by simp [destOps, pairOps]) (by simp [Group.ops]) hd
  | bfc h =>
    subst h
    simp [bfcStatus] at hvalid
    exact .of_dest (by simp [destOps]) (by simp [Group.ops]) hvalid.2
  | bfi h =>
    subst h
    obtain ⟨hd, hn⟩ := genBfi_output hvalid
    obtain ⟨hreg4, hplace⟩ := regPlaces.1 Op.BFI (by simp [destOps])
    exact .listed .bfi (by simp [Group.ops]) (List.forall_mem_cons.mpr
      ⟨not_hits_of_reg4 hplace hreg4 hd, List.forall_mem_singleton.mpr
        (not_hits_of_reg4 regPlaces.2.2.2.2.2.2.2 (by decide) hn)⟩)
  | usad8 h =>
    subst h
    have hmem : Op.USAD8 ∈ tripleOps := by simp [tripleOps]
    exact .listed .mul (by simp [Group.ops]) (List.forall_mem_singleton.mpr
      (not_hits_of_reg4 (regPlaces.2.1 _ (by simp)) (tripleSlots hmem).2.1
        (genThreeReg_output hmem hvalid)))
  | usada8 h =>
    subst h
    obtain ⟨hd, ha⟩ := genUsada8_output hvalid
    exact .of_acc (by simp [quadOps]) (by simp [Group.ops]) hd ha
  | sel h =>
    subst h
    simp [selStatus] at hvalid
    exact .of_dest (by simp [destOps]) (by simp [Group.ops]) hvalid.1
  | sr h =>
    simp only [List.mem_cons, List.not_mem_nil, or_false] at h
    rcases h with rfl | rfl | rfl
    · simp [srStatus] at hvalid
      exact .of_dest (by simp [destOps]) (by simp [Group.ops]) hvalid
    · simp [srStatus] at hvalid
      exact .listed .msrImm (by simp [Group.ops])
        (by simpa [Group.rejects, Hits, Field.In] using hvalid)
    · exact .listed .noDest (by simp [Group.ops]) (by simp [Group.rejects])
  | preload h =>
    simp only [preloadOps, List.mem_cons, List.not_mem_nil, or_false] at h
    rcases h with rfl | rfl | rfl | rfl | rfl
    case inr.inr.inr.inl =>
      simp [preloadStatus] at hvalid
      exact .listed .pldImm (by simp [Group.ops]) (by simpa [Group.rejects, rn] using hvalid)
    all_goals exact .listed .noDest (by simp [Group.ops]) (by simp [Group.rejects])
  | reject hr hw => exact absurd hvalid hr

/-! ## 16-bit Thumb -/

/-- The kinds of the rows the generators of 16-bit Thumb name, and the one data row that is
checked in its own way: a comparison, which writes no register. -/
lemma thumbKinds_named :
    (∀ op ∈ thumbLdImmOps ++ thumbStImmOps ++ thumbLdRegOps ++ thumbStRegOps ++ thumbMultiOps ++
      [Op.LDR_lit_T1, Op.MUL_reg_T1], (glbInstrTlb op).opKind ∈ thumbKinds ∧
        (glbInstrTlb op).opKind.isData = false) ∧
    (glbInstrTlb Op.ADR_T1).opKind.isData = false ∧
    ∀ o ∈ (glbInstrTlb Op.CMP_reg_T2).outputs, o.type = .none := by
  decide +kernel

lemma ThumbRoute.accepted (h : ThumbRoute op s r) (hlo : SISA_OP_ARM_MAX ≤ op)
    (hhi : op < SISA_OP_THUMB_MAX) (hvalid : r.1 = .valid) : Accepted op r.2.rawInstr := by
  have hnamed : op ∈ thumbLdImmOps ++ thumbStImmOps ++ thumbLdRegOps ++ thumbStRegOps ++
      thumbMultiOps ++ [Op.LDR_lit_T1, Op.MUL_reg_T1] → Accepted op r.2.rawInstr := by
    intro hmem
    obtain ⟨hk, hd⟩ := thumbKinds_named.1 op hmem
    exact .thumb hlo hhi (.inl hk) fun hd' => absurd (hd.symm.trans hd') (by decide)
  cases h with
  | ldImm h | stImm h | ldReg h | stReg h | multi h => exact hnamed (by simp [h])
  | ldLit h | mul h => exact hnamed (by simp [h])
  | adr h =>
    subst h
    exact .thumb hlo hhi (.inr rfl) fun hd =>
      absurd (thumbKinds_named.2.1.symm.trans hd) (by decide)
  | empty h =>
    refine .thumb hlo hhi (.inl (by simp [thumbKinds, h])) fun hd => ?_
    rw [h] at hd
    exact absurd hd (by decide)
  | ext h =>
    refine .thumb hlo hhi (.inl ?_) fun hd => ?_
    · rcases h with h | h <;> simp [thumbKinds, h]
    · rcases h with h | h <;> rw [h] at hd <;> exact absurd hd (by decide)
  | data h =>
    refine .thumb hlo hhi (.inl ?_) fun _ => ?_
    · revert h
      cases (glbInstrTlb op).opKind <;> decide
    by_cases hcmp : op = Op.CMP_reg_T2
    · subst hcmp
      exact fun o ho => getRegnum_of_none (thumbKinds_named.2.2 o ho)
    · rw [genThumbDataInstr, if_neg hcmp] at hvalid
      exact outputPcStatus_valid hvalid
  | reject hr hw => exact absurd hvalid hr

/-! ## 32-bit Thumb -/

lemma Thumb32Route.accepted (h : Thumb32Route op s r) (hvalid : r.1 = .valid) :
    Accepted op r.2.rawInstr := by
  have hbase : ∀ n forceAlign, (thumb32Base n forceAlign s).rawInstr = s.rawInstr :=
    fun n forceAlign => (thumb32Base_writes n forceAlign s).rawInstr_eq
  cases h with
  | multi h =>
    obtain ⟨hn, -⟩ := thumb32MultiMemStatus_valid hvalid
    refine .listed .multiple32 h ?_
    simp [Group.rejects, genThumb32MultiMem, hbase, hn]
  | ldImm h =>
    obtain ⟨hn, ht⟩ := thumb32LdImmStatus_valid hvalid
    by_cases hdual : op = Op.LDRD_imm_T1
    · subst hdual
      have hd := (thumb32LdImmStatus_dual hvalid).1
      refine .listed .loadDual32 (by simp [Group.ops]) ?_
      simp [Group.rejects, genThumb32LdImm, hbase, hn, ht, hd]
    · refine .listed .load32 (by simp [Group.ops, h, hdual]) ?_
      simp [Group.rejects, genThumb32LdImm, hbase, hn, ht]
  | memReg h =>
    obtain ⟨hn, ht, -⟩ := thumb32MemRegStatus_valid hvalid
    have hraw : (genThumb32MemReg op s).2.rawInstr = s.rawInstr :=
      ((thumb32Base_writes _ false s).trans (getRandMemOffset_writes _ _ _)).rawInstr_eq
    refine .listed .load32 (by simp [Group.ops, h]) ?_
    simp [Group.rejects, hraw, hn, ht]
  | stImm h =>
    have hn := thumb32StImmStatus_valid hvalid
    refine .listed .store32 h ?_
    simp [Group.rejects, genThumb32StImm, hbase, hn]
  | memLit h =>
    obtain ⟨ht, hd⟩ := genThumb32MemLit_valid hvalid
    by_cases hdual : op = Op.LDRD_lit_T1
    · exact .listed .exclusiveDual32 (by simp [Group.ops, hdual])
        (by simp [Group.rejects, ht, hd hdual])
    · exact .listed .literal32 (by simp [Group.ops, h, hdual]) (by simp [Group.rejects, ht])
  | memEx h =>
    obtain ⟨-, ht, hd, hm⟩ := thumb32MemExStatus_valid h hvalid
    simp only [thumb32MemExOps, List.mem_cons, List.not_mem_nil, or_false] at h
    rcases h with rfl | rfl | rfl | rfl | rfl | rfl | rfl | rfl
    case inr.inl | inr.inr.inl | inr.inr.inr.inl =>
      refine .listed .storeExclusive32 (by simp [Group.ops]) ?_
      simpa [Group.rejects, genThumb32MemEx, hbase] using hm
    case inl | inr.inr.inr.inr.inr.inr.inr =>
      refine .listed .exclusiveDual32 (by simp [Group.ops]) ?_
      simpa [Group.rejects, genThumb32MemEx, hbase, ht] using hd
    all_goals
      refine .listed .exclusive32 (by simp [Group.ops]) ?_
      simp [Group.rejects, genThumb32MemEx, hbase, ht]
  | preload h =>
    by_cases hlit : op ∈ [Op.PLD_lit_T1, Op.PLI_lit_T3]
    · refine .listed .noDest32 ?_ (by simp [Group.rejects])
      simp only [List.mem_cons, List.not_mem_nil, or_false] at hlit
      rcases hlit with rfl | rfl <;> simp [Group.ops]
    · have hn := genThumb32MemPreload_valid h hlit hvalid
      exact .listed .preload32 (by simpa [Group.ops, h] using hlit) (by simp [Group.rejects, hn])
  | shiftedReg h =>
    by_cases hcmp : op ∈ thumb32CmpOps
    · exact .listed .noDest32 (by simp [Group.ops, hcmp]) (by simp [Group.rejects])
    have hd : rd s.rawInstr ≠ R_PC :=
      fun hpc => genThumb32DataShiftedReg_rd hpc op h hcmp hvalid
    by_cases horr : op ∈ thumb32OrrOps
    · have hn : rn s.rawInstr ≠ R_PC := fun hpc => (genThumb32Data_rn hpc).1 op horr hvalid
      exact .listed .destAlias32 (by simp [Group.ops, horr]) (by simp [Group.rejects, hd, hn])
    · exact .listed .dest32 (by simp [Group.ops, h, hcmp, horr]) (by simp [Group.rejects, hd])
  | mimm h =>
    by_cases hcmp : op ∈ thumb32CmpOps
    · exact .listed .noDest32 (by simp [Group.ops, hcmp]) (by simp [Group.rejects])
    have hd : rd s.rawInstr ≠ R_PC := fun hpc => genThumb32DataMimm_rd hpc op h hcmp hvalid
    exact .listed .dest32 (by simp [Group.ops, h, hcmp]) (by simp [Group.rejects, hd])
  | pimm h =>
    have hd : rd s.rawInstr ≠ R_PC := fun hpc => genThumb32DataPimm_rd hpc op h hvalid
    by_cases hplain : op ∈ thumb32PlainOps
    · exact .listed .plain32 hplain (List.forall_mem_cons.mpr
        ⟨by simp [hd], List.forall_mem_singleton.mpr
          (not_hits_plain (genThumb32DataPimm_rn hplain hvalid))⟩)
    by_cases hsat : op ∈ thumb32SatOps
    · have hshift := genThumb32DataPimm_sat hsat hvalid
      refine .listed .sat32 hsat (List.forall_mem_cons.mpr ⟨by simp [hd], ?_⟩)
      rw [List.forall_mem_singleton]
      intro hits
      simp [Hits, Field.In, getBitsValue_self] at hits
      exact hshift ⟨by simp [hits.1], hits.2.1, hits.2.2⟩
    · exact .listed .dest32 (by simp [Group.ops, h, hplain, hsat]) (by simp [Group.rejects, hd])
  | dataReg h =>
    have hd : rd s.rawInstr ≠ R_PC := fun hpc => genThumb32DataReg_rd hpc op hvalid
    by_cases hext : op ∈ thumb32ExtAddOps
    · have hn : rn s.rawInstr ≠ R_PC := fun hpc => (genThumb32Data_rn hpc).2 op hext hvalid
      exact .listed .destAlias32 (by simp [Group.ops, hext]) (by simp [Group.rejects, hd, hn])
    · exact .listed .dest32 (by simp [Group.ops, h, hext]) (by simp [Group.rejects, hd])
  | parallel h =>
    have hd : rd s.rawInstr ≠ R_PC := fun hpc => (genThumb32Data_rd hpc).1 hvalid
    exact .listed .dest32 (by simp [Group.ops, h]) (by simp [Group.rejects, hd])
  | misc h =>
    have hd : rd s.rawInstr ≠ R_PC := fun hpc => (genThumb32Data_rd hpc).2.1 s rfl hvalid
    have hkeep : rd (genThumb32DataMisc s).2.rawInstr = rd s.rawInstr := by
      show getBitsValue (setInstr s.rawInstr 16 19 _) 8 11 = getBitsValue s.rawInstr 8 11
      rw [setInstr_eq_set _ _ (by decide) (by decide),
        getBitsValue_eq_get _ (by decide) (by decide),
        getBitsValue_eq_get _ (by decide) (by decide)]
      exact get_set_of_disjoint _ _ (.inl (by decide))
    exact .listed .dest32 (by simp [Group.ops, h]) (by simp [Group.rejects, hkeep, hd])
  | mul h =>
    have hd : rd s.rawInstr ≠ R_PC := fun hpc => genThumb32DataMul_rd hpc op hvalid
    by_cases hacc : op ∈ thumb32AccOps
    · have ht : rt s.rawInstr ≠ R_PC := fun hpc => genThumb32DataMul_rt hpc op hacc hvalid
      exact .listed .acc32 hacc (by simp [Group.rejects, hd, ht])
    · exact .listed .dest32 (by simp [Group.ops, h, hacc]) (by simp [Group.rejects, hd])
  | sr h =>
    simp only [List.mem_cons, List.not_mem_nil, or_false] at h
    rcases h with rfl | rfl
    · exact .listed .noDest32 (by simp [Group.ops]) (by simp [Group.rejects])
    · have hd : rd s.rawInstr ≠ R_PC := fun hpc => (genThumb32Data_rd hpc).2.2 hvalid
      exact .listed .dest32 (by simp [Group.ops]) (by simp [Group.rejects, hd])
  | hint h => exact .listed .noDest32 (by simp [Group.ops, h]) (by simp [Group.rejects])
  | unsupported => exact absurd hvalid (by simp)

end

/-! ## `gen_instr` -/

/-- The fix-up of a literal load sets `P` and clears `W`. -/
lemma fixActions_lit : ∀ op ∈ ldLitOps, fixActions op = [.clearBit 21, .setBit 24] := by
  decide +kernel

lemma preValidate_lit {op : Opcode} (hop : op ∈ ldLitOps) (s : GenState) :
    getBitValue (preValidate op s).rawInstr 24 = 1 ∧
      getBitValue (preValidate op s).rawInstr 21 = 0 := by
  rw [preValidate_rawInstr, fixActions_lit op hop]
  simp only [List.foldl_cons, List.foldl_nil]
  constructor
  · rw [getBitValue_eq _ (by decide), FixAction.getLsbD_run (by decide)]
    simp [FixAction.mask, FixAction.bitVal]
  · rw [getBitValue_eq _ (by decide), FixAction.getLsbD_run (by decide),
      FixAction.getLsbD_run (by decide)]
    simp only [FixAction.mask, FixAction.bitVal, getLsbD_span]
    simp

/-- A word handed out as `VALID` is one its validator accepts. -/
theorem genInstr_accepted {op : Opcode} {s : GenState} (hvalid : (genInstr op s).1 = .valid) :
    Accepted op (genInstr op s).2.rawInstr := by
  obtain ⟨hv, hraw, -⟩ := genInstr_valid hvalid
  rw [hraw]
  unfold validate at hv ⊢
  by_cases harm : op < SISA_OP_ARM_MAX
  · rw [if_pos harm] at hv ⊢
    exact (genArmInstr_route harm _).accepted harm (fun h => (preValidate_lit h s).1) hv
  rw [if_neg harm] at hv ⊢
  by_cases hthumb : op < SISA_OP_THUMB_MAX
  · rw [if_pos hthumb] at hv ⊢
    exact (genThumbInstr_route op _).accepted (Nat.not_lt.mp harm) hthumb hv
  rw [if_neg hthumb] at hv ⊢
  by_cases hthumb32 : op < SISA_OP_THUMB_32_MAX
  · rw [if_pos hthumb32] at hv ⊢
    exact (genThumb32Instr_route op _).accepted hv
  · rw [if_neg hthumb32] at hv
    exact absurd hv (by simp)

end Rit
