import Rit.Properties.Stages

/-!
# What the generators do not look at

`gen_instr` neither reads nor writes the four index counters of the parameter parser, and what
unassigned locals hold reaches only `cur_fixed_bit`.  `Foreign` collects these values.  A
function is `Blind` if replacing them before or after it makes no difference, which gives the frame
of a single run and the comparison of two.

The one reader in the validators is `get_rand_mem_offset` with an unknown shift type, and a
shift type is a field of two bits.
-/

namespace Rit

open BitField GenState

/-! ## Foreign values -/

/-- The part of the state that generating one instruction is independent of. -/
structure Foreign where
  uninit : ℕ → Word
  curFixedBit : Word
  sregIdx : ℕ
  dregIdx : ℕ
  fpSregExtIdx : ℕ
  fpDregExtIdx : ℕ

namespace GenState

/-- The foreign values of a state. -/
def foreign (s : GenState) : Foreign :=
  ⟨s.uninit, s.curFixedBit, s.sregIdx, s.dregIdx, s.fpSregExtIdx, s.fpDregExtIdx⟩

/-- The state with its foreign values replaced. -/
def withForeign (x : Foreign) (s : GenState) : GenState :=
  { s with
    uninit := x.uninit, curFixedBit := x.curFixedBit, sregIdx := x.sregIdx, dregIdx := x.dregIdx
    fpSregExtIdx := x.fpSregExtIdx, fpDregExtIdx := x.fpDregExtIdx }

variable (x : Foreign) (s : GenState)

@[simp] lemma withForeign_foreign : s.withForeign s.foreign = s := rfl

@[simp] lemma foreign_withForeign : (s.withForeign x).foreign = x := rfl

@[simp] lemma withForeign_rawInstr : (s.withForeign x).rawInstr = s.rawInstr := (rfl)

@[simp] lemma withForeign_options : (s.withForeign x).options = s.options := (rfl)

@[simp] lemma withForeign_shadowOptions : (s.withForeign x).shadowOptions = s.shadowOptions := (rfl)

@[simp] lemma withForeign_isSetFixedBit : (s.withForeign x).isSetFixedBit = s.isSetFixedBit :=
  (rfl)

@[simp] lemma withForeign_isRegBitCut : (s.withForeign x).isRegBitCut = s.isRegBitCut := (rfl)

@[simp] lemma withForeign_optStat (k : OptionKind) :
    (s.withForeign x).optStat k = s.optStat k := (rfl)

@[simp] lemma withForeign_nextRand : (s.withForeign x).nextRand = s.nextRand := (rfl)

@[simp] lemma withForeign_afterRand : (s.withForeign x).afterRand = s.afterRand.withForeign x := rfl

@[simp] lemma withForeign_setRawInstr (w : Word) :
    (s.withForeign x).setRawInstr w = (s.setRawInstr w).withForeign x := rfl

@[simp] lemma withForeign_insertInstrs (ls : List Line) :
    (s.withForeign x).insertInstrs ls = (s.insertInstrs ls).withForeign x := rfl

end GenState

/-- A computation that is independent of the foreign values and keeps them. -/
abbrev Blind {α : Type} (f : GenState → α × GenState) : Prop :=
  ∀ (x : Foreign) (s : GenState), f (s.withForeign x) = ((f s).1, (f s).2.withForeign x)

/-- A state change that is independent of the foreign values and keeps them. -/
abbrev BlindStep (f : GenState → GenState) : Prop :=
  ∀ (x : Foreign) (s : GenState), f (s.withForeign x) = (f s).withForeign x

namespace Blind

variable {α : Type} {f g : GenState → α × GenState}

lemma ite {p : Prop} [Decidable p] (hf : Blind f) (hg : Blind g) :
    Blind fun s => if p then f s else g s := by
  intro x s
  split
  · exact hf x s
  · exact hg x s

lemma setOprandInit {f : GenState → InstrStatus × GenState} (h : Blind f) :
    Blind fun s => Rit.setOprandInit (f s) := by
  intro x s
  simp only [h x s]
  rfl

end Blind

/-- A branch taken in both runs. -/
lemma ite_withForeign {c c' : Prop} [Decidable c] [Decidable c'] {x : Foreign}
    {a b a' b' : GenState} (hc : c' ↔ c) (ha : a' = a.withForeign x) (hb : b' = b.withForeign x) :
    (if c' then a' else b') = (if c then a else b).withForeign x := by
  rw [ha, hb, if_congr hc rfl rfl, apply_ite (withForeign x)]

lemma BlindStep.foldl {α : Type} {f : GenState → α → GenState}
    (h : ∀ a, BlindStep fun s => f s a) (l : List α) : BlindStep fun s => l.foldl f s := by
  induction l with
  | nil => exact fun _ _ => rfl
  | cons a l ih =>
    intro x s
    exact (congrArg (l.foldl f) (h a x s)).trans (ih x (f s a))

/-! ## Memory preludes -/

lemma fixMemBase_blind (n : Word) (forceAlign : Bool) : BlindStep (fixMemBase n forceAlign) :=
  fun _ _ => rfl

lemma genPreInstrForMemBase_blind (n : Word) : Blind (genPreInstrForMemBase n) := by
  intro x s
  unfold genPreInstrForMemBase
  simp only [withForeign_optStat, withForeign_nextRand, withForeign_afterRand,
    withForeign_options]
  by_cases hn : n = R_PC
  · rw [if_pos hn, if_pos hn]
  · rw [if_neg hn, if_neg hn, ← apply_ite (withForeign x)]
    rfl

/-- Only an unknown shift type lets the unassigned result through. -/
lemma randMemOffset_junk {shiftT : Word} (h : shiftT.toNat < 4) (junk junk' shiftN regVal : Word) :
    randMemOffset junk shiftT shiftN regVal = randMemOffset junk' shiftT shiftN regVal := by
  have hcases : shiftT = 0 ∨ shiftT = 1 ∨ shiftT = 2 ∨ shiftT = 3 := by bv_omega
  rcases hcases with rfl | rfl | rfl | rfl <;> rfl

lemma getRandMemOffset_blind {shiftT : Word} (h : shiftT.toNat < 4) (shiftN : Word) :
    Blind (getRandMemOffset shiftT shiftN) := by
  intro x s
  unfold getRandMemOffset
  rw [randMemOffset_junk h _ (s.uninit 0)]
  split_ifs <;> rfl

lemma fixOffset_blind (shifted dual : Bool) {shiftT : Word} (h : shiftT.toNat < 4) (shiftN : Word) :
    Blind (fixOffset shifted dual shiftT shiftN) := by
  intro x s
  unfold fixOffset
  rw [getRandMemOffset_blind h]
  split_ifs <;> rfl

lemma immTail_blind (n : Word) (dual half word : Bool) (status : InstrStatus) :
    Blind (immTail n dual half word status) := by
  intro x s
  unfold immTail
  simp only [withForeign_optStat, withForeign_rawInstr, fixMemBase_blind n dual x s,
    genPreInstrForMemBase_blind n x s]
  split_ifs <;> rfl

lemma regTail_blind (n m : Word) {shiftT : Word} (h : shiftT.toNat < 4) (shiftN : Word)
    (shifted dual half word : Bool) (status : InstrStatus) :
    Blind (regTail n m shiftT shiftN shifted dual half word status) := by
  intro x s
  unfold regTail
  simp only [withForeign_optStat, withForeign_rawInstr, fixMemBase_blind n dual x s,
    genPreInstrForMemBase_blind n x s, fixOffset_blind shifted dual h shiftN x,
    getRandMemOffset_blind h shiftN x]
  split_ifs <;> rfl

lemma multiTail_blind (n : Word) (status : InstrStatus) : Blind (multiTail n status) := by
  intro x s
  unfold multiTail
  simp only [withForeign_optStat, fixMemBase_blind n true x s, genPreInstrForMemBase_blind n x s,
    withForeign_options]
  split_ifs <;> rfl

/-! ## Loads and stores -/

/-- A shift type read from a field of two bits. -/
lemma decodeShift_snd_lt {shifted : Bool} {opnd : Opnd}
    (h : shifted = true → opnd.bit1 = 5 ∧ opnd.bit2 = 6) (instr : Word) :
    (decodeShift shifted instr opnd).2.toNat < 4 := by
  cases shifted with
  | false => exact (by decide : (0 : Word).toNat < 4)
  | true =>
    obtain ⟨h1, h2⟩ := h rfl
    change (getBitsValue instr opnd.bit1 opnd.bit2).toNat < 4
    rw [h1, h2, getBitsValue_eq_get instr (by decide) (by decide)]
    exact toNat_get_lt instr (by decide)

/-- The register-offset accesses with a shift have its type at bits 5 and 6. -/
lemma shiftType_slots :
    (∀ op ∈ [Op.LDR_reg, Op.LDRB_reg, Op.LDRT_a2, Op.LDRBT_a2],
      (glbInstrTlb op).input2.bit1 = 5 ∧ (glbInstrTlb op).input2.bit2 = 6) ∧
    ∀ op ∈ [Op.STR_reg, Op.STRB_reg, Op.STRT_a2, Op.STRBT_a2],
      (glbInstrTlb op).input3.bit1 = 5 ∧ (glbInstrTlb op).input3.bit2 = 6 := by
  decide +kernel

lemma genLdReg_blind (op : Opcode) : Blind (genLdReg op) := by
  intro x s
  refine regTail_blind _ _ (decodeShift_snd_lt (fun h => ?_) _) _ _ _ _ _ _ x s
  have hop : op ∈ [Op.LDR_reg, Op.LDRB_reg] := by simpa using h
  refine shiftType_slots.1 op ?_
  simp only [List.mem_cons, List.not_mem_nil, or_false] at hop ⊢
  tauto

lemma genLdtA2_blind (op : Opcode) : Blind (genLdtA2 op) := by
  intro x s
  refine regTail_blind _ _ (decodeShift_snd_lt (fun h => ?_) _) _ _ _ _ _ _ x s
  have hop : op ∈ [Op.LDRT_a2, Op.LDRBT_a2] := by simpa using h
  refine shiftType_slots.1 op ?_
  simp only [List.mem_cons, List.not_mem_nil, or_false] at hop ⊢
  tauto

lemma genStReg_blind (op : Opcode) : Blind (genStReg op) := by
  intro x s
  refine regTail_blind _ _ (decodeShift_snd_lt (fun h => ?_) _) _ _ _ _ _ _ x s
  have hop : op ∈ [Op.STR_reg, Op.STRB_reg] := by simpa using h
  refine shiftType_slots.2 op ?_
  simp only [List.mem_cons, List.not_mem_nil, or_false] at hop ⊢
  tauto

lemma genSttA2_blind (op : Opcode) : Blind (genSttA2 op) := by
  intro x s
  refine regTail_blind _ _ (decodeShift_snd_lt (fun h => ?_) _) _ _ _ _ _ _ x s
  have hop : op ∈ [Op.STRT_a2, Op.STRBT_a2] := by simpa using h
  refine shiftType_slots.2 op ?_
  simp only [List.mem_cons, List.not_mem_nil, or_false] at hop ⊢
  tauto

lemma genLdLit_blind (op : Opcode) : Blind (genLdLit op) := by
  intro x s
  unfold genLdLit
  split_ifs <;> rfl

lemma genLdInstr_blind (op : Opcode) : Blind (genLdInstr op) :=
  .setOprandInit <| .ite (fun x s => immTail_blind _ _ _ _ _ x s) <|
    .ite (fun x s => immTail_blind _ _ _ _ _ x s) <| .ite (genLdReg_blind op) <|
    .ite (genLdtA2_blind op) <| .ite (genLdLit_blind op) fun _ _ => rfl

lemma genStInstr_blind (op : Opcode) : Blind (genStInstr op) :=
  .setOprandInit <| .ite (fun x s => immTail_blind _ _ _ _ _ x s) <|
    .ite (fun x s => immTail_blind _ _ _ _ _ x s) <| .ite (genStReg_blind op) <|
    .ite (genSttA2_blind op) fun _ _ => rfl

lemma genMultiMemInstr_blind (op : Opcode) : Blind (genMultiMemInstr op) := by
  refine .setOprandInit ?_
  cases (glbInstrTlb op).opKind
  case ldmOp | stmOp | pushOp | popOp => exact fun x s => multiTail_blind _ _ x s
  all_goals exact fun _ _ => rfl

/-! ## ARM data processing -/

section Bias

variable (k : OptionKind) (o1 o2 o3 o4 : Opnd)

lemma bias2_blind (r : Word × Word) : Blind (bias2 k o1 o2 r) := by
  intro x s
  unfold bias2
  simp only [withForeign_optStat]
  split_ifs <;> rfl

lemma bias3_blind (r : Word × Word × Word) : Blind (bias3 k o1 o2 o3 r) := by
  intro x s
  unfold bias3
  simp only [withForeign_optStat]
  split_ifs <;> rfl

lemma bias4_blind (r : Word × Word × Word × Word) : Blind (bias4 k o1 o2 o3 o4 r) := by
  intro x s
  unfold bias4
  simp only [withForeign_optStat]
  split_ifs <;> rfl

end Bias

lemma biasMul_blind (op : Opcode) : Blind (biasMul op) := by
  intro x s
  unfold biasMul
  simp only [withForeign_optStat]
  split_ifs <;> rfl

lemma biasShiftImm_blind : BlindStep biasShiftImm := by
  intro x s
  unfold biasShiftImm
  simp only [withForeign_optStat]
  split_ifs <;> rfl

lemma genSwp_blind (op : Opcode) : Blind (genSwp op) := by
  intro x s
  simp only [genSwp, withForeign_rawInstr, bias2_blind]
  split_ifs <;> rfl

lemma genClz_blind (op : Opcode) : Blind (genClz op) := by
  intro x s
  simp only [genClz, withForeign_rawInstr, bias2_blind]

lemma genMiscInstr_blind (op : Opcode) : Blind (genMiscInstr op) :=
  .ite (fun _ _ => rfl) <| .ite (genSwp_blind op) <| .ite (genClz_blind op) <|
    .ite (fun _ _ => rfl) fun _ _ => rfl

lemma dataBias_blind (op : Opcode) : Blind (dataBias op) := by
  intro x s
  simp only [dataBias, withForeign_rawInstr, bias2_blind, bias3_blind, bias4_blind]
  split_ifs <;> rfl

lemma genDataInstr_blind (op : Opcode) : Blind (genDataInstr op) := by
  intro x s
  simp only [genDataInstr, dataBias_blind op x s]
  rfl

lemma genMul_blind (op : Opcode) : Blind (genMul op) := by
  intro x s
  simp only [genMul, biasMul_blind op x s]
  rfl

lemma genMla_blind (op : Opcode) : Blind (genMla op) := by
  intro x s
  simp only [genMla, withForeign_rawInstr, bias4_blind]
  rfl

lemma genMulLong_blind (op : Opcode) : Blind (genMulLong op) := by
  intro x s
  simp only [genMulLong, withForeign_rawInstr, bias4_blind]
  rfl

lemma genMulInstr_blind (op : Opcode) : Blind (genMulInstr op) :=
  .ite (genMul_blind op) <| .ite (genMla_blind op) <| .ite (genMulLong_blind op) fun _ _ => rfl

lemma genJmpInstr_blind (op : Opcode) : Blind (genJmpInstr op) :=
  .ite (fun _ _ => rfl) <| .ite (fun _ _ => rfl) <| .ite (fun _ _ => rfl) <|
    .ite (fun _ _ => rfl) fun _ _ => rfl

lemma genThreeReg_blind (k : OptionKind) (op : Opcode) : Blind (genThreeReg k op) := by
  intro x s
  simp only [genThreeReg, withForeign_rawInstr, bias3_blind]

lemma genExtAdd_blind (op : Opcode) : Blind (genExtAdd op) := by
  intro x s
  simp only [genExtAdd, withForeign_rawInstr, bias3_blind]

lemma genExt_blind (op : Opcode) : Blind (genExt op) := by
  intro x s
  simp only [genExt, withForeign_rawInstr, bias2_blind]

lemma genSat_blind (op : Opcode) : Blind (genSat op) := by
  intro x s
  simp only [genSat, withForeign_rawInstr, bias2_blind, biasShiftImm_blind x]
  rw [← apply_ite (withForeign x)]

lemma genPkh_blind (op : Opcode) : Blind (genPkh op) := by
  intro x s
  simp only [genPkh, genThreeReg_blind _ op x s, biasShiftImm_blind x]

lemma genBfx_blind (op : Opcode) : Blind (genBfx op) := by
  intro x s
  simp only [genBfx, withForeign_rawInstr, bias2_blind]

lemma genBfi_blind (op : Opcode) : Blind (genBfi op) := by
  intro x s
  simp only [genBfi, withForeign_rawInstr, bias2_blind]

lemma genUsada8_blind (op : Opcode) : Blind (genUsada8 op) := by
  intro x s
  simp only [genUsada8, withForeign_rawInstr, bias4_blind]

lemma genUncategorizedInstr_blind (op : Opcode) : Blind (genUncategorizedInstr op) :=
  .ite (genThreeReg_blind _ op) <| .ite (genExtAdd_blind op) <| .ite (genExt_blind op) <|
    .ite (fun _ _ => rfl) <| .ite (genSat_blind op) <| .ite (genPkh_blind op) <|
    .ite (genBfx_blind op) <| .ite (fun _ _ => rfl) <| .ite (genBfi_blind op) <|
    .ite (genThreeReg_blind _ op) <| .ite (genUsada8_blind op) <| .ite (fun _ _ => rfl) <|
    .ite (fun _ _ => rfl) <| .ite (fun _ _ => rfl) fun _ _ => rfl

lemma genArmInstr_blind (op : Opcode) : Blind (genArmInstr op) := by
  refine .ite (genUncategorizedInstr_blind op) ?_
  cases (glbInstrTlb op).opKind
  case stOp => exact genStInstr_blind op
  case ldOp => exact genLdInstr_blind op
  case stmOp | ldmOp | pushOp | popOp => exact genMultiMemInstr_blind op
  case miscOp => exact genMiscInstr_blind op
  case umulOp | mul32Op | smulOp | smuldOp => exact genMulInstr_blind op
  case jmpOp => exact genJmpInstr_blind op
  case aluOp | logOp | movOp | cmpOp | testOp => exact genDataInstr_blind op
  all_goals exact fun _ _ => rfl

/-! ## Thumb -/

lemma thumbMemImm_blind (n : Word) (word half : Bool) : Blind (thumbMemImm n word half) := by
  intro x s
  simp only [thumbMemImm, withForeign_optStat, genPreInstrForMemBase_blind n x s]
  split_ifs <;> rfl

lemma thumbMemReg_blind (n m : Word) (word half : Bool) : Blind (thumbMemReg n m word half) := by
  have hzero : (0 : Word).toNat < 4 := by decide
  intro x s
  simp only [thumbMemReg, withForeign_optStat, genPreInstrForMemBase_blind n x s,
    getRandMemOffset_blind hzero 0 x]
  split_ifs <;> rfl

lemma genThumbMemInstr_blind (op : Opcode) : Blind (genThumbMemInstr op) :=
  .setOprandInit <| .ite (fun x s => thumbMemImm_blind _ _ _ x s) <|
    .ite (fun x s => thumbMemImm_blind _ _ _ x s) <|
    .ite (fun x s => thumbMemReg_blind _ _ _ _ x s) <|
    .ite (fun x s => thumbMemReg_blind _ _ _ _ x s) <| .ite (fun _ _ => rfl) fun _ _ => rfl

lemma genThumbMultiMemInstr_blind (op : Opcode) : Blind (genThumbMultiMemInstr op) := by
  intro x s
  by_cases hop : op ∈ [Op.LDM_T1, Op.STM_T1, Op.POP_T, Op.PUSH_T]
  · cases hfix : s.optStat .notAllowFixMem <;>
      simp only [genThumbMultiMemInstr, withForeign_optStat, withForeign_rawInstr, if_pos hop,
        hfix, not_true_eq_false, Bool.false_eq_true, not_false_eq_true, if_true, if_false,
        genPreInstrForMemBase_blind _ x s, withForeign_options] <;> rfl
  · simp only [genThumbMultiMemInstr, withForeign_optStat, withForeign_rawInstr, if_neg hop,
      withForeign_options]
    rfl

lemma genThumbJmpInstr_blind (op : Opcode) : Blind (genThumbJmpInstr op) :=
  .ite (fun _ _ => rfl) <| .ite (fun _ _ => rfl) <| .ite (fun _ _ => rfl) <|
    .ite (fun _ _ => rfl) <| .ite (fun _ _ => rfl) fun _ _ => rfl

lemma genThumbInstr_blind (op : Opcode) : Blind (genThumbInstr op) := by
  unfold genThumbInstr
  cases (glbInstrTlb op).opKind
  case stOp | ldOp => exact genThumbMemInstr_blind op
  case stmOp | ldmOp | pushOp | popOp => exact genThumbMultiMemInstr_blind op
  case jmpOp => exact genThumbJmpInstr_blind op
  all_goals exact fun _ _ => rfl

lemma thumb32Base_blind (n : Word) (forceAlign : Bool) : BlindStep (thumb32Base n forceAlign) := by
  intro x s
  simp only [thumb32Base, withForeign_optStat, genPreInstrForMemBase_blind n x s]
  split_ifs <;> rfl

lemma genThumb32MemReg_blind (op : Opcode) : Blind (genThumb32MemReg op) := by
  have hzero : (0 : Word).toNat < 4 := by decide
  intro x s
  simp only [genThumb32MemReg, withForeign_rawInstr, thumb32Base_blind _ _ x s,
    getRandMemOffset_blind hzero _ x, withForeign_insertInstrs]

lemma genThumb32Instr_blind (op : Opcode) : Blind (genThumb32Instr op) := by
  have hbase {n : Word} {a : Bool} {st : InstrStatus} (x : Foreign) (s : GenState) :
      (st, thumb32Base n a (s.withForeign x)) = (st, (thumb32Base n a s).withForeign x) := by
    rw [thumb32Base_blind]
  exact .ite (fun x s => hbase x s) <| .ite (fun x s => hbase x s) <|
    .ite (genThumb32MemReg_blind op) <| .ite (fun x s => hbase x s) <| .ite (fun _ _ => rfl) <|
    .ite (fun x s => hbase x s) <| .ite (fun _ _ => rfl) <| .ite (fun _ _ => rfl) <|
    .ite (fun _ _ => rfl) <| .ite (fun _ _ => rfl) <| .ite (fun _ _ => rfl) <|
    .ite (fun _ _ => rfl) <| .ite (fun _ _ => rfl) <| .ite (fun _ _ => rfl) <|
    .ite (fun _ _ => rfl) <| .ite (fun _ _ => rfl) fun _ _ => rfl

lemma validate_blind (op : Opcode) : Blind (validate op) := by
  intro x s
  have hthumb : { s.withForeign x with options := { s.options with isa := .thumb } } =
    withForeign x { s with options := { s.options with isa := .thumb } } := rfl
  simp only [validate, genArmInstr_blind op x s, withForeign_options, hthumb,
    genThumbInstr_blind op x, genThumb32Instr_blind op x]
  split_ifs <;> rfl

/-! ## The stages before the validator -/

lemma setInstrFixedBit_blind (startBit endBit : ℕ) :
    BlindStep (setInstrFixedBit startBit endBit) := by
  intro x s
  rw [setInstrFixedBit, setInstrFixedBit, withForeign_isSetFixedBit]
  split_ifs <;> rfl

lemma chk3bitReg_blind (regBits : ℕ) (regVal : Word) : BlindStep (chk3bitReg regBits regVal) := by
  intro x s
  rw [chk3bitReg, chk3bitReg, withForeign_isRegBitCut]
  split_ifs <;> rfl

lemma setSbit_blind (op : Opcode) : BlindStep (setSbit op) := by
  intro x s
  have hrec : (if s.shadowOptions.sbitVal ≠ .rand then setInstrFixedBit 20 20 (s.withForeign x)
      else s.withForeign x) =
      (if s.shadowOptions.sbitVal ≠ .rand then setInstrFixedBit 20 20 s else s).withForeign x := by
    rw [setInstrFixedBit_blind, apply_ite (withForeign x)]
  simp only [setSbit, withForeign_optStat, withForeign_shadowOptions, hrec, withForeign_options]
  generalize (if s.shadowOptions.sbitVal ≠ .rand then setInstrFixedBit 20 20 s else s) = t
  split_ifs <;> rfl

lemma encodeCond_blind : BlindStep encodeCond := by
  intro x s
  simp only [encodeCond, withForeign_optStat, withForeign_shadowOptions, setInstrFixedBit_blind]
  split_ifs <;> rfl

lemma clearNeverCond_blind : BlindStep clearNeverCond := by
  intro x s
  simp only [clearNeverCond, withForeign_rawInstr]
  split_ifs <;> rfl

lemma setArmCondBits_blind (op : Opcode) : BlindStep (setArmCondBits op) := by
  intro x s
  simp only [setArmCondBits, withForeign_options, encodeCond_blind x, clearNeverCond_blind x]
  split_ifs <;> rfl

lemma OpndAction.run_blind (a : OpndAction) : BlindStep fun s => a.run s := by
  cases a with
  | fixedBit lo hi => exact setInstrFixedBit_blind lo hi
  | chk3bit bits val => exact chk3bitReg_blind bits val
  | write lo hi val => exact fun _ _ => rfl

lemma foldl_setOpnd_blind (op : Opcode) (side : OpndSide) (opnds : List Opnd) (idx : ℕ)
    (x : Foreign) (s : GenState) :
    (opnds.foldl (setOpnd op side) (idx, s.withForeign x)).2 =
      (opnds.foldl (setOpnd op side) (idx, s)).2.withForeign x := by
  induction opnds generalizing idx s with
  | nil => rfl
  | cons opnd opnds ih =>
    simp only [List.foldl_cons, setOpnd, withForeign_options, withForeign_shadowOptions]
    have hrun := BlindStep.foldl OpndAction.run_blind
      (opndActions op side s.options s.shadowOptions idx opnd).1 x s
    dsimp only at hrun
    rw [hrun]
    exact ih _ _

lemma setOpndBits_blind (op : Opcode) (side : OpndSide) : BlindStep (setOpndBits op side) :=
  fun x s => foldl_setOpnd_blind op side _ 0 x s

lemma operandStages_blind (op : Opcode) : BlindStep (operandStages op) := by
  intro x s
  simp only [operandStages, setDstOpndBits, setSrcOpndBits, setSbit_blind op x,
    setArmCondBits_blind op x, setOpndBits_blind op _ x]

/-! ## `gen_instr` -/

/-- The reference word and what is left of the unassigned locals are all that `orig_instr`
takes from the foreign values. -/
lemma takeOrig_withForeign (x : Foreign) (s : GenState) :
    ∃ orig u, takeOrig (s.withForeign x) =
      (orig, (takeOrig s).2.withForeign { x with uninit := u }) := by
  cases h : s.isSetFixedBit with
  | false =>
    refine ⟨s.rawInstr, x.uninit, ?_⟩
    rw [takeOrig, takeOrig, withForeign_isSetFixedBit, h]
    rfl
  | true =>
    refine ⟨x.uninit 0, fun i => x.uninit (i + 1), ?_⟩
    rw [takeOrig, takeOrig, withForeign_isSetFixedBit, h]
    rfl

/-- Generating an instruction depends on the foreign values only in the bits it reports, and it
keeps the counters. -/
theorem genInstr_withForeign (op : Opcode) (x : Foreign) (s : GenState) :
    ∃ u c, genInstr op (s.withForeign x) = ((genInstr op s).1,
      (genInstr op s).2.withForeign { x with uninit := u, curFixedBit := c }) := by
  have hbegin : beginInstr (s.withForeign x) = (beginInstr s).withForeign x := rfl
  unfold genInstr
  rw [hbegin]
  split
  · exact ⟨x.uninit, x.curFixedBit, rfl⟩
  · dsimp only
    rw [operandStages_blind]
    obtain ⟨orig, u, horig⟩ := takeOrig_withForeign x (operandStages op (beginInstr s))
    rw [horig]
    -- the two runs now differ in the reference word and the foreign values
    have hfix (y : Foreign) (t : GenState) :
        fixUnpredictableBit op (t.withForeign y) = (fixUnpredictableBit op t).withForeign y := rfl
    rw [hfix, validate_blind]
    exact ⟨u, _, rfl⟩

end Rit
