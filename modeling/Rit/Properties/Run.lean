import Rit.Properties.Halfword

/-!
# Runs of `gen_random_instr`

The result of a run is that of its first `VALID` round, or of the last round that it is allowed.
Whatever the user asked for, an output operand of a `VALID` result is not `r15`: the validators
reject it opcode by opcode, or the field has fewer than four bits.
-/

namespace Rit

open BitField

variable (timeStream : ℕ → BitVec 31) {s : GenState}

/-- An unknown opcode is refused.  Otherwise the rounds before the one that is reported fail, that
one is `VALID` or the last, and all start from the options of the user. -/
theorem genRandomInstr_first_valid (s : GenState) :
    let before := roundState (requestedOp s) (enterLoop timeStream s)
    let round := fun k => (attempt (requestedOp s) k (before k)).2
    (UnknownOp s → (genRandomInstr timeStream s).1 = .unsupported) ∧
      (¬UnknownOp s → ∃ k ≤ retryMax s, (genRandomInstr timeStream s).1 = (round k).1 ∧
        (genRandomInstr timeStream s).2.rawInstr = (round k).2.rawInstr ∧
        (∀ j < k, (round j).1 ≠ .valid) ∧ ((round k).1 = .valid ∨ k = retryMax s) ∧
        ∀ j, (before j).shadowOptions = s.options) := by
  intro before round
  constructor
  · intro hop
    rw [genRandomInstr_of_unknown timeStream hop]
  · intro hop
    obtain ⟨hle, hfail, hend⟩ := Retry.last_spec (attempt (requestedOp s)) (fun r => r.2.2)
      (fun r => r.2.1 = .valid) (retryMax s) 0 (enterLoop timeStream s)
    simp only [Nat.zero_add] at hfail hend
    rw [genRandomInstr_eq_lastRound timeStream hop]
    refine ⟨lastRound timeStream s, hle, rfl, (outputInstr_keeps _ _ _ _).1, hfail, hend, ?_⟩
    intro j
    exact (roundState_carries (fun op => requestedOp_lt) _ j).shadowOptions.trans
      (enterLoop_shadowOptions timeStream s)

/-- A name that no row has, and a run for `ADD_imm`. -/
theorem genRandomInstr_first_valid_ADD :
    let asked (name : String) : GenState := { staticState (fun _ => 0) fun _ => 0 with
      options := { zeroOptions.setOptStat .opcode with opcode := some name } }
    let s := asked "ADD_imm"
    let before := roundState (requestedOp s) (enterLoop (fun _ => 0) s)
    (genRandomInstr (fun _ => 0) (asked "NOSUCH")).1 = .unsupported ∧
      ∃ k ≤ retryMax s, (genRandomInstr (fun _ => 0) s).1 =
        (attempt (requestedOp s) k (before k)).2.1 := by
  intro asked s before
  obtain ⟨k, hk, hst, -⟩ := (genRandomInstr_first_valid _ s).2 (by decide +kernel)
  exact ⟨(genRandomInstr_first_valid _ _).1 (by decide +kernel), k, hk, hst⟩

/-- The operand is no register field, or too narrow for `r15`, or one of the patterns is `r15`. -/
def Opnd.avoidsPC (pats : List (List Field)) (o : Opnd) : Bool :=
  o.type ∈ [.none, .gprList, .gprListT] ||
    o.type.isRegField && o.endBit == o.startBit + 2 && o.endBit.blt 31 ||
    o.reg4 && pcAt o.startBit ∈ pats

lemma getRegnum_ne_pc {pats : List (List Field)} {o : Opnd} (ho : o.avoidsPC pats = true)
    {w : Word} (h : ∀ pat ∈ pats, ¬ Hits w pat) : getRegnum w o ≠ R_PC := by
  simp only [Opnd.avoidsPC, Bool.or_eq_true, Bool.and_eq_true, decide_eq_true_eq, beq_iff_eq,
    Nat.blt_eq] at ho
  rcases ho with (hnone | ⟨⟨hfield, hend⟩, hlt⟩) | ⟨hreg, hpat⟩
  · simp only [List.mem_cons, List.not_mem_nil, or_false] at hnone
    rcases hnone with ht | ht | ht <;> simp [getRegnum, ht, INVALID_GPR, R_PC]
  · have hle : o.startBit ≤ o.endBit := by omega
    have hval := toNat_get_lt w hle
    rw [getRegnum_of_isRegField hfield, getBitsValue_eq_get _ hle hlt]
    intro heq
    rw [heq, hend, Nat.add_sub_cancel_left] at hval
    exact absurd hval (by decide)
  · rw [getRegnum_of_reg4 hreg, (Opnd.ok_of_reg4 hreg).1]
    exact fun hpc => h _ hpat (hits_pcAt.2 hpc)

/-- Every group rejects `r15` in the output operands of its opcodes. -/
lemma outputs_avoidPC : (∀ g ∈ Group.all, ∀ op ∈ g.ops, ∀ o ∈ (glbInstrTlb op).outputs,
      o.avoidsPC g.rejects = true) ∧
    ∀ op ∈ List.range' SISA_OP_ARM_MAX (SISA_OP_THUMB_MAX - SISA_OP_ARM_MAX),
      (glbInstrTlb op).opKind.isData = false → ∀ o ∈ (glbInstrTlb op).outputs,
        o.avoidsPC [] = true := by
  decide +kernel

lemma Accepted.output_ne_pc {op : Opcode} {w : Word} (h : Accepted op w) :
    ∀ o ∈ (glbInstrTlb op).outputs, getRegnum w o ≠ R_PC := by
  intro o ho
  cases h with
  | listed g hop h => exact getRegnum_ne_pc (outputs_avoidPC.1 g g.mem_all op hop o ho) h
  | data _ _ _ h => exact h o ho
  | thumb hlo hhi _ h =>
    cases hdata : (glbInstrTlb op).opKind.isData with
    | true => exact h hdata o ho
    | false =>
      have hmem : op ∈ List.range' SISA_OP_ARM_MAX (SISA_OP_THUMB_MAX - SISA_OP_ARM_MAX) :=
        List.mem_range'_1.2 ⟨hlo, hhi⟩
      exact getRegnum_ne_pc (outputs_avoidPC.2 op hmem hdata o ho) (by simp)

/-- No output operand of a `VALID` result is `r15`. -/
theorem genRandomInstr_output_ne_pc (h : (genRandomInstr timeStream s).1 = .valid) :
    ∀ o ∈ (glbInstrTlb (reportedOp timeStream s)).outputs,
      getRegnum (genRandomInstr timeStream s).2.rawInstr o ≠ R_PC := by
  have hknown : ¬ UnknownOp s := by
    intro hunknown
    rw [genRandomInstr_of_unknown timeStream hunknown] at h
    cases h
  rw [genRandomInstr_eq_lastRound timeStream hknown] at h ⊢
  rw [(outputInstr_keeps _ _ _ _).1]
  exact (genInstr_accepted h).output_ne_pc

/-- A run for `ADD_imm`, with zero for every draw. -/
theorem genRandomInstr_output_ADD :
    let s : GenState := { staticState (fun _ => 0) fun _ => 0 with
      options := { zeroOptions.setOptStat .opcode with opcode := some "ADD_imm" } }
    (genRandomInstr (fun _ => 0) s).1 = .valid ∧
      getRegnum (genRandomInstr (fun _ => 0) s).2.rawInstr (glbInstrTlb Op.ADD_imm).output0 ≠
        R_PC := by
  intro s
  have hvalid : (genRandomInstr (fun _ => 0) s).1 = .valid := by decide +kernel
  have hop : reportedOp (fun _ => 0) s = Op.ADD_imm := reportedOp_of_requestedOp (by decide +kernel)
  exact ⟨hvalid, genRandomInstr_output_ne_pc _ hvalid _ (by rw [hop]; exact List.mem_cons_self)⟩

end Rit
