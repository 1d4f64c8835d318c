import Rit.Properties.Encoding

/-!
# Words of stores are no words of loads

`get_instr_op` reads a word back: it looks for the first row whose match pattern the word has and
whose negative pattern it has not.  A word that `gen_instr` accepts has the match pattern of its
own row, so it can have that of another row only if the two patterns agree where both are fixed.
For a store and a load of one instruction set they do not, with one exception: the row of
`PUSH_T3` has the pattern of `POP_T3`.
-/

namespace Rit

open BitField GenState

/-! ## Stores, loads and instruction sets -/

/-- The kinds of stores. -/
def OpKind.isStore : OpKind → Bool
  | .stOp | .stmOp | .pushOp => true
  | _ => false

/-- The kinds of loads. -/
def OpKind.isLoad : OpKind → Bool
  | .ldOp | .ldmOp | .popOp => true
  | _ => false

/-- The table an opcode is in: ARM, 16-bit or 32-bit Thumb. -/
def tableOf (op : Opcode) : Fin 3 :=
  if op < SISA_OP_ARM_MAX then 0 else if op < SISA_OP_THUMB_MAX then 1 else 2

/-! ## Disjoint patterns -/

/-- The patterns of two rows differ in a bit that both fix. -/
def InstrDesc.Clashes (row row' : InstrDesc) : Prop :=
  (row.matchVal ^^^ row'.matchVal) &&& row.matchMsk &&& row'.matchMsk ≠ 0#32

instance (row row' : InstrDesc) : Decidable (row.Clashes row') :=
  inferInstanceAs (Decidable (_ ≠ _))

/-- A word with the pattern of one row has not that of a row that clashes with it. -/
lemma InstrDesc.Clashes.not_isMatch {row row' : InstrDesc} (h : row.Clashes row') {w : Word}
    (hw : AgreeOn row.matchMsk w row.matchVal) : row'.isMatch w = false := by
  rw [← Bool.not_eq_true]
  intro hmatch
  rw [isMatch, Bool.and_eq_true, decide_eq_true_eq] at hmatch
  apply h
  apply BitVec.eq_of_getLsbD_eq
  intro i _
  rw [BitVec.getLsbD_and, BitVec.getLsbD_and, BitVec.getLsbD_xor, BitVec.getLsbD_zero]
  -- a bit that both masks fix has the same value in the word and in both patterns
  cases hm : row.matchMsk.getLsbD i with
  | false => simp
  | true =>
    cases hm' : row'.matchMsk.getLsbD i with
    | false => simp
    | true =>
      have hbit := congrArg (fun v => v.getLsbD i) hmatch.1
      rw [BitVec.getLsbD_and, hm', Bool.and_true, hw i hm] at hbit
      simp [hbit]

/-- Every word with the pattern of one row matches the other. -/
structure InstrDesc.Covers (row row' : InstrDesc) : Prop where
  matchMsk : row'.matchMsk = row.matchMsk
  matchVal : row'.matchVal = row.matchVal
  neg : row'.negMsk = 0 ∧ row'.negVal ≠ 0

lemma InstrDesc.Covers.isMatch_of_agreeOn {row row' : InstrDesc} (h : row.Covers row') {w : Word}
    (hval : row.matchVal &&& row.matchMsk = row.matchVal)
    (hw : AgreeOn row.matchMsk w row.matchVal) : row'.isMatch w = true := by
  have hmatch : w &&& row.matchMsk = row.matchVal := hw.and_eq.trans hval
  have hneg : w &&& row'.negMsk ≠ row'.negVal := by
    rw [h.neg.1]
    simpa using h.neg.2.symm
  rw [isMatch, h.matchMsk, h.matchVal, hmatch]
  simpa using hneg

/-- The row of a store clashes with that of a load of its instruction set, unless it is
`PUSH_T3`. -/
def storeLoadCheck (op : Opcode) (row : InstrDesc) : Bool :=
  !row.opKind.isStore || op == Op.PUSH_T3 ||
    (glbInstrTlbRows.zipIdx.filter fun p => p.1.opKind.isLoad).all fun p =>
      tableOf p.2 != tableOf op || decide (row.Clashes p.1)

lemma storeLoadCheck_rows :
    (glbInstrTlbRows.zipIdx.all fun p => storeLoadCheck p.2 p.1) = true := by
  decide +kernel

lemma store_clashes_load {op idx : Opcode} (hop : op < SISA_OP_MAX)
    (hst : (glbInstrTlb op).opKind.isStore = true) (hpush : op ≠ Op.PUSH_T3)
    (hidx : idx < SISA_OP_MAX) (hset : tableOf idx = tableOf op)
    (hld : (glbInstrTlb idx).opKind.isLoad = true) :
    (glbInstrTlb op).Clashes (glbInstrTlb idx) := by
  have h := forall_op storeLoadCheck_rows hop
  rw [storeLoadCheck, hst, beq_false_of_ne hpush, List.all_filter] at h
  have hrow := forall_op (P := fun idx row => !row.opKind.isLoad || (tableOf idx != tableOf op ||
    decide ((glbInstrTlb op).Clashes row))) (by simpa using h) hidx
  simpa [hld, hset] using hrow

/-- `POP_T3` is a load, and has the pattern of `PUSH_T3`. -/
lemma pushPop : (glbInstrTlb Op.POP_T3).opKind.isLoad = true ∧
    (glbInstrTlb Op.PUSH_T3).matchVal &&& (glbInstrTlb Op.PUSH_T3).matchMsk =
      (glbInstrTlb Op.PUSH_T3).matchVal ∧
    (glbInstrTlb Op.PUSH_T3).Covers (glbInstrTlb Op.POP_T3) :=
  ⟨by decide +kernel, by decide +kernel, by decide +kernel, by decide +kernel, by decide +kernel⟩

/-- The condition of a store is free. -/
lemma condFree_of_isStore {op : Opcode} (hop : op < SISA_OP_MAX)
    (hst : (glbInstrTlb op).opKind.isStore = true) : condFree op := by
  have h := (rowFacts hop).cond
  rcases Nat.lt_or_ge op SISA_OP_ARM_MAX with harm | hge
  · rw [condCheck, not_armMax_ble harm] at h
    have hkind : uncondKinds.elem (glbInstrTlb op).opKind = false := by
      revert hst
      generalize (glbInstrTlb op).opKind = k
      cases k <;> decide
    rw [hkind] at h
    right
    simpa using h
  · exact .inl hge

/-- The word of `gen_instr` has the pattern of its row. -/
lemma genInstr_agreeOn_matchVal {op : Opcode} (hop : op < SISA_OP_MAX) (hcond : condFree op)
    (s : GenState) :
    AgreeOn (glbInstrTlb op).matchMsk (genInstr op (initRawInstrBin op s)).2.rawInstr
      (glbInstrTlb op).matchVal :=
  stageWords_agreeOn hop (.inl hcond) (initRawInstrBin_agreeOn op s) _
    (List.mem_of_getLast? (getLast?_stageWords op _))

/-- The word of a store matches no row of a load in its instruction set, exactly when the store is
not `PUSH_T3`. -/
theorem genInstr_store_no_load_iff {op : Opcode} (hop : op < SISA_OP_MAX)
    (hst : (glbInstrTlb op).opKind.isStore = true) (s : GenState) :
    (∀ idx < SISA_OP_MAX, tableOf idx = tableOf op → (glbInstrTlb idx).opKind.isLoad = true →
      (glbInstrTlb idx).isMatch (genInstr op (initRawInstrBin op s)).2.rawInstr = false) ↔
      op ≠ Op.PUSH_T3 := by
  have hagree := genInstr_agreeOn_matchVal hop (condFree_of_isStore hop hst) s
  constructor
  · rintro h rfl
    have hpop := h Op.POP_T3 (by decide) (by decide) pushPop.1
    rw [pushPop.2.2.isMatch_of_agreeOn pushPop.2.1 hagree] at hpop
    exact absurd hpop (by decide)
  · intro hpush idx hidx hset hld
    exact (store_clashes_load hop hst hpush hidx hset hld).not_isMatch hagree

/-- The words of `STR_imm_T3` match no row of a load. -/
theorem genInstr_STR_imm_T3_no_load :
    Op.STR_imm_T3 < SISA_OP_MAX ∧ (glbInstrTlb Op.STR_imm_T3).opKind.isStore = true ∧
      (genInstr Op.STR_imm_T3 (initRawInstrBin Op.STR_imm_T3
        (staticState (fun _ => 0) fun _ => 0))).1 = .valid ∧
      ∀ idx < SISA_OP_MAX, tableOf idx = tableOf Op.STR_imm_T3 →
        (glbInstrTlb idx).opKind.isLoad = true →
        (glbInstrTlb idx).isMatch (genInstr Op.STR_imm_T3 (initRawInstrBin Op.STR_imm_T3
          (staticState (fun _ => 0) fun _ => 0))).2.rawInstr = false := by
  have hst : (glbInstrTlb Op.STR_imm_T3).opKind.isStore = true := by decide +kernel
  exact ⟨by decide, hst, by decide +kernel,
    (genInstr_store_no_load_iff (by decide) hst _).mpr (by decide)⟩

/-- `PUSH_T3` produces `0xf85d0b04`, which is `POP_T3` of `r0`. -/
theorem genInstr_PUSH_T3_is_load :
    let r := genInstr Op.PUSH_T3 (initRawInstrBin Op.PUSH_T3 (staticState (fun _ => 0) fun _ => 0))
    (glbInstrTlb Op.PUSH_T3).opKind = .pushOp ∧ r.1 = .valid ∧ r.2.rawInstr = 0xf85d0b04 ∧
      tableOf Op.POP_T3 = tableOf Op.PUSH_T3 ∧ (glbInstrTlb Op.POP_T3).opKind = .popOp ∧
      (glbInstrTlb Op.POP_T3).isMatch r.2.rawInstr = true := by
  decide +kernel

end Rit
