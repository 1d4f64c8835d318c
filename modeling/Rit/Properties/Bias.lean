import Rit.Properties.Status

/-!
# Biased registers end up in the word

A biasing step redraws the operand registers, writes them back and returns them; the validator
then tests the returned numbers.  The tests say something about the word because the slots of
one instruction do not overlap and a four-bit slot holds a register number whole.  This file
proves that each slot of the word reads back as the number that was tested.
-/

namespace Rit

open BitField GenState

/-! ## Slots -/

/-- The types whose register number `get_regnum` reads off one field. -/
def OpndType.isRegField : OpndType → Bool
  | .gpr | .gprRw | .gprSet | .shiftReg | .rotateReg => true
  | _ => false

/-- A register slot of four bits. -/
def Opnd.reg4 (o : Opnd) : Bool :=
  o.type.isRegField && o.endBit == o.startBit + 3 && o.endBit.blt 31

/-- Two well-formed fields without a common bit. -/
structure Opnd.Apart (o o' : Opnd) : Prop where
  left : o.Ok
  right : o'.Ok
  disjoint : o.endBit < o'.startBit ∨ o'.endBit < o.startBit

instance (o o' : Opnd) : Decidable (o.Apart o') :=
  decidable_of_iff (o.Ok ∧ o'.Ok ∧ (o.endBit < o'.startBit ∨ o'.endBit < o.startBit))
    ⟨fun h => ⟨h.1, h.2.1, h.2.2⟩, fun h => ⟨h.left, h.right, h.disjoint⟩⟩

/-- The slots of the biased registers of one opcode do not overlap. -/
lemma biasSlots_apart : ∀ c ∈ biasSlots, ∀ op ∈ c.1,
    (c.2 (glbInstrTlb op)).Pairwise Opnd.Apart ∧ (glbInstrTlb op).output0.reg4 = true ∧
      (c.1 = satOps ∨ ∀ o ∈ c.2 (glbInstrTlb op), o.reg4 = true) := by
  decide +kernel

section

variable {o : Opnd} {w : Word}

lemma getRegnum_of_isRegField (ho : o.type.isRegField = true) (w : Word) :
    getRegnum w o = getBitsValue w o.startBit o.endBit := by
  unfold getRegnum
  cases ht : o.type <;> rw [ht] at ho
  all_goals exact absurd ho (by decide)

lemma getRegnum_of_reg4 (ho : o.reg4 = true) (w : Word) :
    getRegnum w o = getBitsValue w o.startBit o.endBit := by
  simp only [Opnd.reg4, Bool.and_eq_true] at ho
  exact getRegnum_of_isRegField ho.1.1 w

lemma Opnd.ok_of_reg4 (ho : o.reg4 = true) : o.endBit = o.startBit + 3 ∧ o.Ok := by
  simp only [Opnd.reg4, Bool.and_eq_true, beq_iff_eq, Nat.blt_eq] at ho
  obtain ⟨⟨-, hend⟩, hlt⟩ := ho
  exact ⟨hend, by omega, hlt⟩

lemma getRegnum_lt (ho : o.reg4 = true) (w : Word) : (getRegnum w o).toNat < 16 := by
  obtain ⟨hend, hok⟩ := Opnd.ok_of_reg4 ho
  have h := toNat_get_lt w hok.1
  rw [getRegnum_of_reg4 ho, getBitsValue_eq_get _ hok.1 hok.2]
  have hwidth : o.endBit - o.startBit + 1 = 4 := by omega
  rw [hwidth] at h
  exact h

end

/-- Slots that are written one after the other each read back as the value written. -/
lemma getRegnum_setInstrRegs {l : List (Opnd × Word)}
    (hl : (l.map Prod.fst).Pairwise Opnd.Apart) {o : Opnd} {v : Word} (hmem : (o, v) ∈ l)
    (ho : o.reg4 = true) (hv : v.toNat < 16) (w : Word) : getRegnum (setInstrRegs w l) o = v := by
  induction l generalizing w with
  | nil => exact absurd hmem (List.not_mem_nil)
  | cons p l ih =>
    rw [List.map_cons, List.pairwise_cons] at hl
    rcases List.mem_cons.mp hmem with rfl | htail
    · -- the remaining writes stay away from this slot
      obtain ⟨hend, hok⟩ := Opnd.ok_of_reg4 ho
      have hlater : AgreeOff (union (l.map fun q => q.1.mask))
          (setInstrRegs (setInstrReg w o v) l) (setInstrReg w o v) :=
        setInstrRegs_agreeOff l _ fun q hq =>
          ⟨(hl.1 q.1 (List.mem_map_of_mem hq)).right,
            and_union_of_mem (List.mem_map.mpr ⟨q, hq, rfl⟩)⟩
      have hdisj : union (l.map fun q => q.1.mask) &&& span 32 o.startBit o.endBit = 0#32 := by
        refine union_and_eq_zero fun m hm => ?_
        obtain ⟨q, hq, rfl⟩ := List.mem_map.mp hm
        have hap : o.endBit < q.1.startBit ∨ q.1.endBit < o.startBit :=
          (hl.1 q.1 (List.mem_map_of_mem hq)).disjoint
        apply BitVec.eq_of_getLsbD_eq
        intro i _
        rw [Opnd.mask, BitVec.getLsbD_and, getLsbD_span, getLsbD_span, BitVec.getLsbD_zero,
          Bool.and_eq_false_iff]
        simp only [decide_eq_false_iff_not]
        omega
      have hfield := get_congr (hlater.agreeOn hdisj)
      have hset : (getBitsValue (setInstrReg w o v) o.startBit o.endBit).toNat =
          v.toNat % 16 := by
        have h := toNat_getBitsValue_setInstr w v hok.1 hok.2
        have hwidth : o.endBit - o.startBit + 1 = 4 := by omega
        rw [hwidth] at h
        exact h
      have hrun : setInstrRegs w ((o, v) :: l) = setInstrRegs (setInstrReg w o v) l := rfl
      rw [hrun, getRegnum_of_reg4 ho, getBitsValue_eq_get _ hok.1 hok.2, hfield,
        ← getBitsValue_eq_get _ hok.1 hok.2, ← BitVec.toNat_inj, hset, Nat.mod_eq_of_lt hv]
    · exact ih hl.2 htail _

/-! ## The drawn registers -/

section

variable {P : Word → Prop} {x a b c d : Word}

lemma randomBiasReg2_snd (x a b : Word) : (randomBiasReg2 x a b).2 = b := by
  unfold randomBiasReg2
  split <;> rfl

lemma randomBiasReg2_forall (ha : P a) (hb : P b) :
    P (randomBiasReg2 x a b).1 ∧ P (randomBiasReg2 x a b).2 := by
  unfold randomBiasReg2
  split <;> exact ⟨by assumption, by assumption⟩

lemma randomBiasReg3_forall (ha : P a) (hb : P b) (hc : P c) :
    P (randomBiasReg3 x a b c).1 ∧ P (randomBiasReg3 x a b c).2.1 ∧
      P (randomBiasReg3 x a b c).2.2 := by
  unfold randomBiasReg3
  split <;> exact ⟨by assumption, by assumption, by assumption⟩

lemma randomBiasReg4_forall (ha : P a) (hb : P b) (hc : P c) (hd : P d) :
    P (randomBiasReg4 x a b c d).1 ∧ P (randomBiasReg4 x a b c d).2.1 ∧
      P (randomBiasReg4 x a b c d).2.2.1 ∧ P (randomBiasReg4 x a b c d).2.2.2 := by
  unfold randomBiasReg4
  split <;> exact ⟨by assumption, by assumption, by assumption, by assumption⟩

/-- The last of four registers stays or becomes equal to the first. -/
lemma randomBiasReg4_last (x a b c d : Word) :
    (randomBiasReg4 x a b c d).2.2.2 = d ∨
      (randomBiasReg4 x a b c d).2.2.2 = (randomBiasReg4 x a b c d).1 := by
  unfold randomBiasReg4
  split
  all_goals first
    | exact .inl rfl
    | exact .inr rfl

end

/-! ## The word after a biasing step -/

section

variable {k : OptionKind} {o1 o2 o3 o4 : Opnd} {s : GenState}

/-- The first register of a pair; the second need not come from the second slot. -/
lemma bias2_fst {r2 : Word} (hap : o1.Apart o2) (h1 : o1.reg4 = true) (h2 : r2.toNat < 16) :
    getRegnum (bias2 k o1 o2 (getRegnum s.rawInstr o1, r2) s).2.rawInstr o1 =
      (bias2 k o1 o2 (getRegnum s.rawInstr o1, r2) s).1.1 := by
  unfold bias2
  split
  · have hlt := randomBiasReg2_forall (P := fun v => v.toNat < 16) (x := s.nextRand)
      (getRegnum_lt h1 s.rawInstr) h2
    exact getRegnum_setInstrRegs (by simpa using hap) List.mem_cons_self h1 hlt.1 s.rawInstr
  · rfl

lemma bias2_holds (hap : o1.Apart o2) (h1 : o1.reg4 = true) (h2 : o2.reg4 = true) :
    let b := bias2 k o1 o2 (getRegnum s.rawInstr o1, getRegnum s.rawInstr o2) s
    getRegnum b.2.rawInstr o1 = b.1.1 ∧ getRegnum b.2.rawInstr o2 = b.1.2 := by
  refine ⟨bias2_fst hap h1 (getRegnum_lt h2 _), ?_⟩
  unfold bias2
  split
  · have hlt := randomBiasReg2_forall (P := fun v => v.toNat < 16) (x := s.nextRand)
      (getRegnum_lt h1 s.rawInstr) (getRegnum_lt h2 s.rawInstr)
    exact getRegnum_setInstrRegs (by simpa using hap) (by simp) h2 hlt.2 s.rawInstr
  · rfl

lemma bias3_holds (hap : [o1, o2, o3].Pairwise Opnd.Apart) (h1 : o1.reg4 = true)
    (h2 : o2.reg4 = true) (h3 : o3.reg4 = true) :
    let b := bias3 k o1 o2 o3
      (getRegnum s.rawInstr o1, getRegnum s.rawInstr o2, getRegnum s.rawInstr o3) s
    getRegnum b.2.rawInstr o1 = b.1.1 ∧ getRegnum b.2.rawInstr o2 = b.1.2.1 ∧
      getRegnum b.2.rawInstr o3 = b.1.2.2 := by
  unfold bias3
  split
  · obtain ⟨hlt1, hlt2, hlt3⟩ := randomBiasReg3_forall (P := fun v => v.toNat < 16)
      (x := s.nextRand) (getRegnum_lt h1 s.rawInstr) (getRegnum_lt h2 s.rawInstr)
      (getRegnum_lt h3 s.rawInstr)
    exact ⟨getRegnum_setInstrRegs (by simpa using hap) (by simp) h1 hlt1 s.rawInstr,
      getRegnum_setInstrRegs (by simpa using hap) (by simp) h2 hlt2 s.rawInstr,
      getRegnum_setInstrRegs (by simpa using hap) (by simp) h3 hlt3 s.rawInstr⟩
  · exact ⟨rfl, rfl, rfl⟩

lemma bias4_holds (hap : [o1, o2, o3, o4].Pairwise Opnd.Apart) (h1 : o1.reg4 = true)
    (h2 : o2.reg4 = true) (h3 : o3.reg4 = true) (h4 : o4.reg4 = true) :
    let b := bias4 k o1 o2 o3 o4 (getRegnum s.rawInstr o1, getRegnum s.rawInstr o2,
      getRegnum s.rawInstr o3, getRegnum s.rawInstr o4) s
    getRegnum b.2.rawInstr o1 = b.1.1 ∧ getRegnum b.2.rawInstr o2 = b.1.2.1 ∧
      getRegnum b.2.rawInstr o3 = b.1.2.2.1 ∧ getRegnum b.2.rawInstr o4 = b.1.2.2.2 := by
  unfold bias4
  split
  · obtain ⟨hlt1, hlt2, hlt3, hlt4⟩ := randomBiasReg4_forall (P := fun v => v.toNat < 16)
      (x := s.nextRand) (getRegnum_lt h1 s.rawInstr) (getRegnum_lt h2 s.rawInstr)
      (getRegnum_lt h3 s.rawInstr) (getRegnum_lt h4 s.rawInstr)
    exact ⟨getRegnum_setInstrRegs (by simpa using hap) (by simp) h1 hlt1 s.rawInstr,
      getRegnum_setInstrRegs (by simpa using hap) (by simp) h2 hlt2 s.rawInstr,
      getRegnum_setInstrRegs (by simpa using hap) (by simp) h3 hlt3 s.rawInstr,
      getRegnum_setInstrRegs (by simpa using hap) (by simp) h4 hlt4 s.rawInstr⟩
  · exact ⟨rfl, rfl, rfl, rfl⟩

/-- The last of four registers stays or becomes equal to the first. -/
lemma bias4_last (k : OptionKind) (o1 o2 o3 o4 : Opnd) (r : Word × Word × Word × Word)
    (s : GenState) :
    (bias4 k o1 o2 o3 o4 r s).1.2.2.2 = r.2.2.2 ∨
      (bias4 k o1 o2 o3 o4 r s).1.2.2.2 = (bias4 k o1 o2 o3 o4 r s).1.1 := by
  unfold bias4
  split
  · exact randomBiasReg4_last _ _ _ _ _
  · exact .inl rfl

end

/-! ## The biased generators

What `VALID` says about the slots of the word a biased generator leaves. -/

section

variable {op : Opcode} {s : GenState}

lemma pairSlots (h : op ∈ pairOps) :
    (glbInstrTlb op).output0.Apart (glbInstrTlb op).input0 ∧
      (glbInstrTlb op).output0.reg4 = true ∧ (glbInstrTlb op).input0.reg4 = true := by
  obtain ⟨hap, hout, hin⟩ := biasSlots_apart
    (pairOps, fun row => [row.output0, row.input0]) (by simp [biasSlots]) op h
  have hall := hin.resolve_left (by decide)
  exact ⟨by simpa using hap, hout, hall _ (by simp)⟩

lemma tripleSlots (h : op ∈ tripleOps) :
    [(glbInstrTlb op).output0, (glbInstrTlb op).input0, (glbInstrTlb op).input1].Pairwise
        Opnd.Apart ∧
      (glbInstrTlb op).output0.reg4 = true ∧ (glbInstrTlb op).input0.reg4 = true ∧
      (glbInstrTlb op).input1.reg4 = true := by
  obtain ⟨hap, hout, hin⟩ := biasSlots_apart
    (tripleOps, fun row => [row.output0, row.input0, row.input1]) (by simp [biasSlots]) op h
  have hall := hin.resolve_left (by decide)
  exact ⟨hap, hout, hall _ (by simp), hall _ (by simp)⟩

/-- The slots of the opcodes that bias three sources with the destination. -/
lemma quadSlots (h : op ∈ quadOps) :
    [(glbInstrTlb op).output0, (glbInstrTlb op).input0, (glbInstrTlb op).input1,
        (glbInstrTlb op).input2].Pairwise Opnd.Apart ∧
      (glbInstrTlb op).output0.reg4 = true ∧ (glbInstrTlb op).input0.reg4 = true ∧
      (glbInstrTlb op).input1.reg4 = true ∧ (glbInstrTlb op).input2.reg4 = true := by
  obtain ⟨hap, hout, hin⟩ := biasSlots_apart
    (quadOps, fun row => [row.output0, row.input0, row.input1, row.input2])
    (by simp [biasSlots]) op h
  have hall := hin.resolve_left (by decide)
  exact ⟨hap, hout, hall _ (by simp), hall _ (by simp), hall _ (by simp)⟩

lemma mulLongSlots (h : op ∈ mulLongOps) :
    [(glbInstrTlb op).output0, (glbInstrTlb op).output1, (glbInstrTlb op).input0,
        (glbInstrTlb op).input1].Pairwise Opnd.Apart ∧
      (glbInstrTlb op).output0.reg4 = true ∧ (glbInstrTlb op).output1.reg4 = true ∧
      (glbInstrTlb op).input0.reg4 = true ∧ (glbInstrTlb op).input1.reg4 = true := by
  obtain ⟨hap, hout, hin⟩ := biasSlots_apart
    (mulLongOps, fun row => [row.output0, row.output1, row.input0, row.input1])
    (by simp [biasSlots]) op h
  have hall := hin.resolve_left (by decide)
  exact ⟨hap, hout, hall _ (by simp), hall _ (by simp), hall _ (by simp)⟩

/-- The opcodes with a destination at bits 12 to 15. -/
def destOps : List Opcode :=
  [Op.ADR_a1, Op.ADR_a2, Op.MOVT, Op.BFC, Op.BFI, Op.SEL, Op.MRS_a, Op.PKH] ++ pairOps ++
    parallelOps ++ extOps ++ extAddOps ++ reverseOps ++ satOps

/-- Where the registers sit that the validators of these opcodes test. -/
lemma regPlaces :
    (∀ op ∈ destOps, (glbInstrTlb op).output0.reg4 = true ∧
      (glbInstrTlb op).output0.startBit = 12) ∧
    (∀ op ∈ Op.USAD8 :: mulOps ++ quadOps ++ mulLongOps,
      (glbInstrTlb op).output0.startBit = 16) ∧
    (∀ op ∈ quadOps, (glbInstrTlb op).input2.startBit = 12) ∧
    (∀ op ∈ mulLongOps, (glbInstrTlb op).output1.startBit = 12) ∧
    (∀ op ∈ extAddOps, (glbInstrTlb op).input1.startBit = 16) ∧
    (∀ op ∈ extOps, (glbInstrTlb op).input0.reg4 = true) ∧
    (∀ op ∈ satOps, (glbInstrTlb op).input1.reg4 = true) ∧
    (glbInstrTlb Op.BFI).input2.startBit = 0 := by
  decide +kernel

/-- A write to the shift amount leaves the other register slots alone. -/
lemma getRegnum_biasShiftImm {o : Opnd} (ho : o.reg4 = true) (hlo : o.endBit < 7 ∨ 11 < o.startBit)
    (s : GenState) : getRegnum (biasShiftImm s).rawInstr o = getRegnum s.rawInstr o := by
  obtain ⟨hend, hok⟩ := Opnd.ok_of_reg4 ho
  unfold biasShiftImm
  split
  · rw [getRegnum_of_reg4 ho, getRegnum_of_reg4 ho, getBitsValue_eq_get _ hok.1 hok.2,
      getBitsValue_eq_get _ hok.1 hok.2]
    show get (setInstr s.rawInstr 7 11 (shiftImm s.nextRand)) _ _ = _
    rw [setInstr_eq_set _ _ (by decide) (by decide)]
    exact get_set_of_disjoint _ _ hlo
  · rfl

lemma genSwp_output (hop : op ∈ [Op.SWP, Op.SWPB]) (h : (genSwp op s).1 = .valid) :
    getRegnum (genSwp op s).2.rawInstr (glbInstrTlb op).output0 ≠ R_PC := by
  have hmem : op ∈ pairOps := by
    simp only [List.mem_cons, List.not_mem_nil, or_false] at hop
    rcases hop with rfl | rfl <;> simp [pairOps]
  obtain ⟨hap, hout, hin⟩ := pairSlots hmem
  have hread := bias2_fst (k := .allowBiasOpnd) (s := s) hap hout (getRegnum_lt hin s.rawInstr)
  have hraw : (genSwp op s).2.rawInstr = (bias2 .allowBiasOpnd (glbInstrTlb op).output0
      (glbInstrTlb op).input0 (getRegnum s.rawInstr (glbInstrTlb op).output0,
        getRegnum s.rawInstr (glbInstrTlb op).input0) s).2.rawInstr := by
    exact (apply_ite GenState.rawInstr _ _ _).trans (ite_self _)
  rw [hraw, hread]
  intro hpc
  simp [genSwp, hpc] at h

lemma genClz_output (h : (genClz Op.CLZ s).1 = .valid) :
    getRegnum (genClz Op.CLZ s).2.rawInstr (glbInstrTlb Op.CLZ).output0 ≠ R_PC := by
  have hmem : Op.CLZ ∈ pairOps := by simp [pairOps]
  obtain ⟨hap, hout, hin⟩ := pairSlots hmem
  have hread := bias2_fst (k := .allowBiasOpnd) (s := s) hap hout (getRegnum_lt hin s.rawInstr)
  refine hread.trans_ne fun hpc => ?_
  simp [genClz, hpc] at h

lemma genMul_output (hop : op ∈ mulOps) (h : (genMul op s).1 = .valid) :
    getRegnum (genMul op s).2.rawInstr (glbInstrTlb op).output0 ≠ R_PC := by
  have hmem : op ∈ tripleOps := by simp [tripleOps, hop]
  obtain ⟨hap, hout, h0, h1⟩ := tripleSlots hmem
  have hread : getRegnum (biasMul op s).2.rawInstr (glbInstrTlb op).output0 =
      (biasMul op s).1.1 := by
    unfold biasMul
    dsimp only
    split
    · have hlt := randomBiasReg3_forall (P := fun v => v.toNat < 16) (x := s.nextRand)
        (getRegnum_lt hout s.rawInstr) (getRegnum_lt h1 s.rawInstr) (getRegnum_lt h0 s.rawInstr)
      exact getRegnum_setInstrRegs (by simpa using hap) List.mem_cons_self hout hlt.1 s.rawInstr
    · rfl
  refine hread.trans_ne fun hpc => ?_
  simp [genMul, hpc] at h

/-- Whatever test the accumulator takes, it is not `r15` afterwards: it kept its value, or became
equal to the destination. -/
lemma genMla_output (hop : op ∈ mlaOps) (h : (genMla op s).1 = .valid) :
    getRegnum (genMla op s).2.rawInstr (glbInstrTlb op).output0 ≠ R_PC ∧
      getRegnum (genMla op s).2.rawInstr (glbInstrTlb op).input2 ≠ R_PC := by
  have hmem : op ∈ quadOps := by simp [quadOps, hop]
  obtain ⟨hap, hout, h0, h1, h2⟩ := quadSlots hmem
  obtain ⟨hd, -, -, ha⟩ := bias4_holds (k := .allowBiasOpnd) (s := s) hap hout h0 h1 h2
  refine ⟨hd.trans_ne fun hpc => ?_, ha.trans_ne fun hpc => ?_⟩
  · simp [genMla, hpc] at h
  · by_cases hdual : op = Op.SMLAD ∨ op = Op.SMLSD ∨ op = Op.SMMLA
    · have hlast := bias4_last .allowBiasOpnd (glbInstrTlb op).output0 (glbInstrTlb op).input0
        (glbInstrTlb op).input1 (glbInstrTlb op).input2 (getRegnum s.rawInstr
          (glbInstrTlb op).output0, getRegnum s.rawInstr (glbInstrTlb op).input0,
          getRegnum s.rawInstr (glbInstrTlb op).input1,
          getRegnum s.rawInstr (glbInstrTlb op).input2) s
      rcases hlast with hkept | hdest
      · have hin : getRegnum s.rawInstr (glbInstrTlb op).input2 = R_PC := hkept.symm.trans hpc
        simp [genMla, hdual, hin] at h
      · simp [genMla, hdest.symm.trans hpc] at h
    · simp [genMla, hdual, hpc] at h

lemma genMulLong_output (hop : op ∈ mulLongOps) (h : (genMulLong op s).1 = .valid) :
    getRegnum (genMulLong op s).2.rawInstr (glbInstrTlb op).output0 ≠ R_PC ∧
      getRegnum (genMulLong op s).2.rawInstr (glbInstrTlb op).output1 ≠ R_PC := by
  obtain ⟨hap, hout, h0, h1, h2⟩ := mulLongSlots hop
  obtain ⟨hhi, hlo, -⟩ := bias4_holds (k := .allowBiasOpnd) (s := s) hap hout h0 h1 h2
  refine ⟨hhi.trans_ne fun hpc => ?_, hlo.trans_ne fun hpc => ?_⟩ <;>
    simp [genMulLong, hpc] at h

lemma genThreeReg_output {k : OptionKind} (hop : op ∈ tripleOps)
    (h : (genThreeReg k op s).1 = .valid) :
    getRegnum (genThreeReg k op s).2.rawInstr (glbInstrTlb op).output0 ≠ R_PC := by
  obtain ⟨hap, hout, h0, h1⟩ := tripleSlots hop
  obtain ⟨hd, -⟩ := bias3_holds (k := k) (s := s) hap hout h0 h1
  refine hd.trans_ne fun hpc => ?_
  simp [genThreeReg, hpc] at h

lemma genExtAdd_output (hop : op ∈ extAddOps) (h : (genExtAdd op s).1 = .valid) :
    getRegnum (genExtAdd op s).2.rawInstr (glbInstrTlb op).output0 ≠ R_PC ∧
      getRegnum (genExtAdd op s).2.rawInstr (glbInstrTlb op).input1 ≠ R_PC := by
  have hmem : op ∈ tripleOps := by simp [tripleOps, hop]
  obtain ⟨hap, hout, h0, h1⟩ := tripleSlots hmem
  obtain ⟨hd, -, hm⟩ := bias3_holds (k := .allowBiasOpnd) (s := s) hap hout h0 h1
  refine ⟨hd.trans_ne fun hpc => ?_, hm.trans_ne fun hpc => ?_⟩ <;> simp [genExtAdd, hpc] at h

/-- The last of the two writes to the output slot counts; both values were tested. -/
lemma genExt_output (hop : op ∈ extOps) (h : (genExt op s).1 = .valid) :
    getRegnum (genExt op s).2.rawInstr (glbInstrTlb op).output0 ≠ R_PC := by
  obtain ⟨-, hout, -⟩ := biasSlots_apart (extOps, fun row => [row.output0])
    (by simp [biasSlots]) op hop
  have hin := regPlaces.2.2.2.2.2.1 op hop
  unfold genExt bias2 at h ⊢
  split
  · rename_i hk
    have hlt := randomBiasReg2_forall (P := fun v => v.toNat < 16) (x := s.nextRand)
      (getRegnum_lt hout s.rawInstr) (getRegnum_lt hin s.rawInstr)
    have hread : ∀ w, getRegnum (setInstrRegs w [((glbInstrTlb op).output0, _)])
        (glbInstrTlb op).output0 = _ :=
      getRegnum_setInstrRegs (List.pairwise_singleton _ _) List.mem_cons_self hout hlt.2
    refine (hread _).trans_ne fun hpc => ?_
    simp [hk, hpc] at h
  · intro hpc
    simp_all

lemma genSat_output (hop : op ∈ satOps) (h : (genSat op s).1 = .valid) :
    getRegnum (genSat op s).2.rawInstr (glbInstrTlb op).output0 ≠ R_PC := by
  obtain ⟨hap, hout, -⟩ := biasSlots_apart (satOps, fun row => [row.output0, row.input0])
    (by simp [biasSlots]) op hop
  have hin := regPlaces.2.2.2.2.2.2.1 op hop
  have hplace := (regPlaces.1 op (by simp [destOps, hop])).2
  have hread := bias2_fst (k := .allowBiasReg) (s := s) (by simpa using hap) hout
    (getRegnum_lt hin s.rawInstr)
  have hkeep := getRegnum_biasShiftImm hout (by omega) (bias2 .allowBiasReg
    (glbInstrTlb op).output0 (glbInstrTlb op).input0 (getRegnum s.rawInstr
      (glbInstrTlb op).output0, getRegnum s.rawInstr (glbInstrTlb op).input1) s).2
  unfold genSat
  dsimp only
  split
  · refine (hkeep.trans hread).trans_ne fun hpc => ?_
    simp [genSat, hpc] at h
  · refine hread.trans_ne fun hpc => ?_
    simp [genSat, hpc] at h

lemma genPkh_output (h : (genPkh Op.PKH s).1 = .valid) :
    getRegnum (genPkh Op.PKH s).2.rawInstr (glbInstrTlb Op.PKH).output0 ≠ R_PC := by
  have hmem : Op.PKH ∈ tripleOps := by simp [tripleOps]
  have hthree := genThreeReg_output (k := .allowBiasReg) (s := s) hmem h
  have hkeep := getRegnum_biasShiftImm (tripleSlots hmem).2.1 (by decide)
    (genThreeReg .allowBiasReg Op.PKH s).2
  exact hkeep ▸ hthree

lemma genBfx_output (hop : op ∈ [Op.SBFX, Op.UBFX]) (h : (genBfx op s).1 = .valid) :
    getRegnum (genBfx op s).2.rawInstr (glbInstrTlb op).output0 ≠ R_PC := by
  have hmem : op ∈ pairOps := by
    simp only [List.mem_cons, List.not_mem_nil, or_false] at hop
    rcases hop with rfl | rfl <;> simp [pairOps]
  obtain ⟨hap, hout, hin⟩ := pairSlots hmem
  have hread := bias2_fst (k := .allowBiasReg) (s := s) hap hout (getRegnum_lt hin s.rawInstr)
  refine hread.trans_ne fun hpc => ?_
  simp [genBfx, hpc] at h

lemma genBfi_output (h : (genBfi Op.BFI s).1 = .valid) :
    getRegnum (genBfi Op.BFI s).2.rawInstr (glbInstrTlb Op.BFI).output0 ≠ R_PC ∧
      getRegnum (genBfi Op.BFI s).2.rawInstr (glbInstrTlb Op.BFI).input2 ≠ R_PC := by
  obtain ⟨hap, hout, hin⟩ := biasSlots_apart ([Op.BFI], fun row => [row.output0, row.input2])
    (by simp [biasSlots]) Op.BFI (by simp)
  have hall := hin.resolve_left (by decide)
  obtain ⟨hd, hn⟩ := bias2_holds (k := .allowBiasReg) (s := s) (by simpa using hap) hout
    (hall (glbInstrTlb Op.BFI).input2 (by simp))
  refine ⟨hd.trans_ne fun hpc => ?_, hn.trans_ne fun hpc => ?_⟩ <;> simp [genBfi, hpc] at h

lemma genUsada8_output (h : (genUsada8 Op.USADA8 s).1 = .valid) :
    getRegnum (genUsada8 Op.USADA8 s).2.rawInstr (glbInstrTlb Op.USADA8).output0 ≠ R_PC ∧
      getRegnum (genUsada8 Op.USADA8 s).2.rawInstr (glbInstrTlb Op.USADA8).input2 ≠ R_PC := by
  have hmem : Op.USADA8 ∈ quadOps := by simp [quadOps]
  obtain ⟨hap, hout, h0, h1, h2⟩ := quadSlots hmem
  obtain ⟨hd, -, -, ha⟩ := bias4_holds (k := .allowBiasReg) (s := s) hap hout h0 h1 h2
  refine ⟨hd.trans_ne fun hpc => ?_, ha.trans_ne fun hpc => ?_⟩ <;> simp [genUsada8, hpc] at h

end

end Rit
