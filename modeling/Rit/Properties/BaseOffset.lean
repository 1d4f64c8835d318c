import Rit.Properties.WriteBack
import Rit.Src.InstrGenerator

/-!
# Base and offset of the first library

With a class of source registers requested, `preprocess_instr` leaves the loads and stores with an
offset register to `set_mem_src_reg`, which draws the base from the requested class and the offset
from another one.  What comes after it, the destinations and the shift amount, stays away from both
fields, so the two registers of the finished word still differ.

`accessCheck` is what this needs from a row: where the two fields lie, and that no other field the
stages write meets them.
-/

namespace Rit.Src

open BitField

/-! ## Classes of registers -/

/-- The class a register belongs to, as `get_reg_type` sorts the arguments. -/
def regClass (r : Word) : ArmRegs := getRegType r.toNat

/-- The highest register of a class. -/
def ArmRegs.top : ArmRegs → ℕ
  | .r0to3 => 3
  | .r4to7 => 7
  | .r8to12 => 12
  | .sp => 13
  | .lr => 14
  | .pc | .default => 15

/-- `x % n + k`, without overflow. -/
lemma toNat_mod_add (x n k : Word) (hn : 0 < n.toNat) (h : n.toNat + k.toNat < 2 ^ 32) :
    k.toNat ≤ (x % n + k).toNat ∧ (x % n + k).toNat < n.toNat + k.toNat := by
  have hlt := Nat.mod_lt x.toNat hn
  rw [BitVec.toNat_add, BitVec.toNat_umod, Nat.mod_eq_of_lt (by omega)]
  omega

/-- A register is drawn from the requested class. -/
lemma drawReg_fst {reg : ArmRegs} (hreg : reg ≠ .default) (d : Draft) :
    regClass (drawReg reg d).1 = reg ∧ (drawReg reg d).1.toNat ≤ reg.top := by
  cases reg with
  | default => exact absurd rfl hreg
  | r0to3 =>
    have hlt : (drawReg .r0to3 d).1.toNat < 4 := by
      show (d.nextRand % 16 % 4).toNat < 4
      rw [BitVec.toNat_umod]
      exact Nat.mod_lt _ (by decide)
    exact ⟨if_pos (by omega), Nat.le_of_lt_succ hlt⟩
  | r4to7 =>
    have h : 4 ≤ (drawReg .r4to7 d).1.toNat ∧ (drawReg .r4to7 d).1.toNat < 8 :=
      toNat_mod_add (d.nextRand % 16) 4 4 (by decide) (by decide)
    refine ⟨?_, Nat.le_of_lt_succ h.2⟩
    exact (if_neg (by omega)).trans (if_pos (by omega))
  | r8to12 =>
    have h : 8 ≤ (drawReg .r8to12 d).1.toNat ∧ (drawReg .r8to12 d).1.toNat < 13 :=
      toNat_mod_add d.afterRand.nextRand 5 8 (by decide) (by decide)
    refine ⟨?_, Nat.le_of_lt_succ h.2⟩
    exact (if_neg (by omega)).trans ((if_neg (by omega)).trans (if_pos (by omega)))
  | sp => exact ⟨rfl, Nat.le_refl 13⟩
  | lr => exact ⟨rfl, Nat.le_refl 14⟩
  | pc => exact ⟨rfl, Nat.le_refl 15⟩

/-- The offset has another class than the base, and one that fits in three bits. -/
lemma offsetRegs_ne (reg : ArmRegs) : offsetRegs reg ≠ reg ∧ offsetRegs reg ≠ .default ∧
    (offsetRegs reg).top ≤ 7 := by
  cases reg <;> decide

/-! ## The rows -/

/-- The opcodes with an offset register. -/
def offsetOps : List Opcode := ldOffsetOps ++ stOffsetOps

/-- The slot of the base register. -/
def baseOpnd (op : Opcode) : Opnd :=
  if op ∈ ldOffsetOps then (glbInstrTlb op).input0 else (glbInstrTlb op).input1

/-- The slot of the offset register. -/
def offsetOpnd (op : Opcode) : Opnd :=
  if op ∈ ldOffsetOps then (glbInstrTlb op).input1 else (glbInstrTlb op).input2

/-- The bits of the two. -/
def accessMask (op : Opcode) : Word := (baseOpnd op).mask ||| (offsetOpnd op).mask

/-- The two fields are apart, at least three bits wide, and the base may be written. -/
structure Access (op : Opcode) : Prop where
  base : (baseOpnd op).type = .gpr
  offset : (offsetOpnd op).type = .gpr
  apart : (baseOpnd op).Apart (offsetOpnd op)
  baseWidth : 2 ≤ (baseOpnd op).endBit - (baseOpnd op).startBit
  offsetWidth : 2 ≤ (offsetOpnd op).endBit - (offsetOpnd op).startBit
  revisable : isOpndRevisableReg op (baseOpnd op) = true
  kind : (glbInstrTlb op).opKind = if op ∈ ldOffsetOps then .ldOp else .stOp
  outputs : ∀ o ∈ (glbInstrTlb op).outputs, o.type = .none ∨
    (o.type = .gpr ∧ o.Ok ∧ o.mask &&& accessMask op = 0#32)
  amounts : ∀ o ∈ (glbInstrTlb op).inputs, o.type = .shiftImm →
    o.Ok ∧ o.mask &&& accessMask op = 0#32
  dual : op ∈ [Op.LDRD_reg, Op.LDRD_imm, Op.LDRD_lit, Op.LDREXD] →
    span 32 14 14 &&& accessMask op = 0#32

lemma access {op : Opcode} (hop : op ∈ offsetOps) : Access op := by
  have hall : ∀ op ∈ offsetOps, (baseOpnd op).type = .gpr ∧ (offsetOpnd op).type = .gpr ∧
      (baseOpnd op).Apart (offsetOpnd op) ∧
      2 ≤ (baseOpnd op).endBit - (baseOpnd op).startBit ∧
      2 ≤ (offsetOpnd op).endBit - (offsetOpnd op).startBit ∧
      isOpndRevisableReg op (baseOpnd op) = true ∧
      ((glbInstrTlb op).opKind = if op ∈ ldOffsetOps then .ldOp else .stOp) ∧
      (∀ o ∈ (glbInstrTlb op).outputs, o.type = .none ∨
        (o.type = .gpr ∧ o.Ok ∧ o.mask &&& accessMask op = 0#32)) ∧
      (∀ o ∈ (glbInstrTlb op).inputs, o.type = .shiftImm →
        o.Ok ∧ o.mask &&& accessMask op = 0#32) ∧
      (op ∈ [Op.LDRD_reg, Op.LDRD_imm, Op.LDRD_lit, Op.LDREXD] →
        span 32 14 14 &&& accessMask op = 0#32) := by
    decide +kernel
  obtain ⟨h1, h2, h3, h4, h5, h6, h7, h8, h9, h10⟩ := hall op hop
  exact ⟨h1, h2, h3, h4, h5, h6, h7, h8, h9, h10⟩

/-! ## The stages -/

section

variable {op : Opcode} {o : Opnd}

lemma drawReg_rawInstr (reg : ArmRegs) (d : Draft) : (drawReg reg d).2.rawInstr = d.rawInstr := by
  cases reg <;> rfl

lemma updateInstrRegOpnd_rawInstr (ho : o.type = .gpr) (reg : ArmRegs) (d : Draft) :
    (updateInstrRegOpnd op o reg d).rawInstr =
      setInstr d.rawInstr o.startBit o.endBit (drawReg reg d).1 := by
  simp only [updateInstrRegOpnd, writeReg, ho, drawReg_rawInstr]

/-- A register written to a slot reads back, if the slot is wide enough for it. -/
lemma getRegnum_updateInstrRegOpnd (ho : o.type = .gpr) (hok : o.Ok) (reg : ArmRegs) (d : Draft)
    (hfit : (drawReg reg d).1.toNat < 2 ^ (o.endBit - o.startBit + 1)) :
    getRegnum (updateInstrRegOpnd op o reg d).rawInstr o = (drawReg reg d).1 := by
  have hset := toNat_getBitsValue_setInstr d.rawInstr (drawReg reg d).1 hok.1 hok.2
  rw [updateInstrRegOpnd_rawInstr ho, getRegnum_of_isRegField (by rw [ho]; rfl)]
  exact BitVec.eq_of_toNat_eq (hset.trans (Nat.mod_eq_of_lt hfit))

/-- A write to a register slot changes nothing outside it. -/
lemma updateInstrRegOpnd_agreeOff (ho : o.type = .gpr) (hok : o.Ok) (reg : ArmRegs) (d : Draft) :
    AgreeOff o.mask (updateInstrRegOpnd op o reg d).rawInstr d.rawInstr := by
  rw [updateInstrRegOpnd_rawInstr ho]
  exact setInstr_agreeOff d.rawInstr (drawReg reg d).1 hok.1 hok.2

lemma getRegnum_congr_gpr (ho : o.type = .gpr) (hok : o.Ok) {w w' : Word}
    (h : AgreeOn o.mask w w') : getRegnum w o = getRegnum w' o := by
  rw [getRegnum_of_isRegField (by rw [ho]; rfl), getRegnum_of_isRegField (by rw [ho]; rfl),
    getBitsValue_eq_get _ hok.1 hok.2, getBitsValue_eq_get _ hok.1 hok.2]
  exact get_congr h

/-- `set_mem_src_reg` on a register-offset access. -/
lemma setSrcRegs_offset (hop : op ∈ offsetOps) {srcRegs : ArmRegs} (hsrc : srcRegs ≠ .default)
    (d : Draft) : setSrcRegs op srcRegs d =
      updateInstrRegOpnd op (offsetOpnd op) (offsetRegs srcRegs)
        (updateInstrRegOpnd op (baseOpnd op) srcRegs d) := by
  have hrow := access hop
  have hkind := hrow.kind
  have hrev := hrow.revisable
  rw [setSrcRegs, if_neg hsrc]
  by_cases hld : op ∈ ldOffsetOps
  · rw [if_pos hld] at hkind
    rw [baseOpnd, if_pos hld] at hrev
    have hmem : isMemKind op = true := by
      rw [isMemKind, hkind]
      decide
    rw [if_pos hmem, setMemSrcReg, hkind, baseOpnd, offsetOpnd, if_pos hld, if_pos hld]
    simp only [reviseReg, hrev, hld, if_true]
  · have hst : op ∈ stOffsetOps := (List.mem_append.1 hop).resolve_left hld
    have hplain : ∀ op ∈ stOffsetOps, op ∉ [Op.STREXD_T1, Op.STRD_imm_T1] := by decide
    rw [if_neg hld] at hkind
    rw [baseOpnd, if_neg hld] at hrev
    have hmem : isMemKind op = true := by
      rw [isMemKind, hkind]
      decide
    rw [if_pos hmem, setMemSrcReg, hkind, baseOpnd, offsetOpnd, if_neg hld, if_neg hld]
    simp only [reviseReg, hrev, hst, hld, if_true, if_false, if_neg (hplain op hst)]

lemma foldl_agreeOn {α : Type} {m : Word} {f : Draft → α → Draft} {l : List α}
    (h : ∀ d, ∀ a ∈ l, AgreeOn m (f d a).rawInstr d.rawInstr) (d : Draft) :
    AgreeOn m (l.foldl f d).rawInstr d.rawInstr := by
  induction l generalizing d with
  | nil => exact .refl m _
  | cons a l ih =>
    have hhead := h d a List.mem_cons_self
    exact (ih (fun d a ha => h d a (List.mem_cons_of_mem _ ha)) _).trans hhead

/-- The destinations stay away from base and offset. -/
lemma setDstRegs_agreeOn (hop : op ∈ offsetOps) (dstRegs : ArmRegs) (d : Draft) :
    AgreeOn (accessMask op) (setDstRegs op dstRegs d).rawInstr d.rawInstr := by
  have hrow := access hop
  have hone : ∀ d, ∀ o ∈ (glbInstrTlb op).outputs,
      AgreeOn (accessMask op) (reviseReg op dstRegs d o).rawInstr d.rawInstr := by
    intro d o ho
    unfold reviseReg
    split
    · rename_i hrev
      rcases hrow.outputs o ho with hnone | ⟨hgpr, hok, hdisj⟩
      · rw [isOpndRevisableReg, hnone] at hrev
        cases hrev
      · exact (updateInstrRegOpnd_agreeOff hgpr hok dstRegs d).agreeOn hdisj
    · exact .refl _ _
  unfold setDstRegs
  split
  · exact .refl _ _
  · have hfold := foldl_agreeOn hone d
    dsimp only
    split
    · rename_i hdual
      have hbit := setInstr_agreeOff
        ((glbInstrTlb op).outputs.foldl (reviseReg op dstRegs) d).rawInstr 0 (Nat.le_refl 14)
        (by decide)
      exact (hbit.agreeOn (hrow.dual hdual.2)).trans hfold
    · exact hfold

/-- So does the shift amount. -/
lemma setShiftImms_agreeOn (hop : op ∈ offsetOps) (val w : Word) :
    AgreeOn (accessMask op) ((glbInstrTlb op).inputs.foldl (setShiftImm op val) w) w := by
  have hrow := access hop
  have hone : ∀ w, ∀ o ∈ (glbInstrTlb op).inputs,
      AgreeOn (accessMask op) (setShiftImm op val w o) w := by
    intro w o ho
    unfold setShiftImm
    split
    · rename_i hshift
      obtain ⟨hok, hdisj⟩ := hrow.amounts o ho hshift.1
      exact (setInstr_agreeOff w val hok.1 hok.2).agreeOn hdisj
    · exact .refl _ _
  generalize (glbInstrTlb op).inputs = l at hone
  induction l generalizing w with
  | nil => exact .refl _ _
  | cons o l ih =>
    exact (ih _ fun w o ho => hone w o (List.mem_cons_of_mem _ ho)).trans
      (hone w o List.mem_cons_self)

/-- From the choice of the source registers on, base and offset stay as they are. -/
lemma preprocessInstr_agreeOn (hop : op ∈ offsetOps) (o : GenOption) (d : Draft) :
    AgreeOn (accessMask op) (preprocessInstr op o d).rawInstr (setSrcRegs op o.srcRegs
      { d with rawInstr := (fixActions op).foldl FixAction.run d.rawInstr }).rawInstr := by
  unfold preprocessInstr
  dsimp only
  split
  · exact (setShiftImms_agreeOn hop o.shiftImmVal _).trans (setDstRegs_agreeOn hop o.dstRegs _)
  · exact setDstRegs_agreeOn hop o.dstRegs _

end

/-- For every call with a class of source registers, and every load or store with an offset
register whose fields can hold the class: the finished word has its base in the requested class and
its offset in another one. -/
theorem preprocessInstr_base_offset {op : Opcode} (hop : op ∈ offsetOps) {o : GenOption}
    (hsrc : o.srcRegs ≠ .default)
    (hfit : ((baseOpnd op).endBit = (baseOpnd op).startBit + 3 ∧
        (offsetOpnd op).endBit = (offsetOpnd op).startBit + 3) ∨
      o.srcRegs = .r0to3 ∨ o.srcRegs = .r4to7) (d : Draft) :
    let w := (preprocessInstr op o d).rawInstr
    regClass (getRegnum w (baseOpnd op)) = o.srcRegs ∧
      regClass (getRegnum w (offsetOpnd op)) ≠ o.srcRegs ∧
      getRegnum w (baseOpnd op) ≠ getRegnum w (offsetOpnd op) := by
  intro w
  have hrow := access hop
  have hokBase := hrow.apart.left
  have hokOffset := hrow.apart.right
  let d₀ : Draft := { d with rawInstr := (fixActions op).foldl FixAction.run d.rawInstr }
  let d₁ := updateInstrRegOpnd op (baseOpnd op) o.srcRegs d₀
  let d₂ := updateInstrRegOpnd op (offsetOpnd op) (offsetRegs o.srcRegs) d₁
  obtain ⟨hne, hdef, htop⟩ := offsetRegs_ne o.srcRegs
  obtain ⟨hclass, hle⟩ := drawReg_fst hsrc d₀
  obtain ⟨hclass', hle'⟩ := drawReg_fst hdef d₁
  -- both draws fit their fields
  have hfits : o.srcRegs.top < 2 ^ ((baseOpnd op).endBit - (baseOpnd op).startBit + 1) := by
    rcases hfit with hwide | hlow
    · have hwidth : (baseOpnd op).endBit - (baseOpnd op).startBit + 1 = 4 := by omega
      rw [hwidth]
      cases o.srcRegs <;> decide
    · have hpow := Nat.pow_le_pow_right (show 0 < 2 by decide)
        (Nat.add_le_add_right hrow.baseWidth 1)
      have hseven : o.srcRegs.top ≤ 7 := by
        rcases hlow with h | h <;> rw [h] <;> decide
      omega
  have hfits' : 7 < 2 ^ ((offsetOpnd op).endBit - (offsetOpnd op).startBit + 1) :=
    Nat.lt_of_lt_of_le (by decide)
      (Nat.pow_le_pow_right (show 0 < 2 by decide) (Nat.add_le_add_right hrow.offsetWidth 1))
  -- the later stages keep both fields
  have hkeep : AgreeOn (accessMask op) w d₂.rawInstr := by
    have hsrcRegs : setSrcRegs op o.srcRegs d₀ = d₂ := setSrcRegs_offset hop hsrc d₀
    rw [← hsrcRegs]
    exact preprocessInstr_agreeOn hop o d
  have hbase : getRegnum w (baseOpnd op) = (drawReg o.srcRegs d₀).1 := by
    have hoff : AgreeOn (baseOpnd op).mask d₂.rawInstr d₁.rawInstr :=
      (updateInstrRegOpnd_agreeOff hrow.offset hokOffset _ d₁).agreeOn
        hrow.apart.symm.mask_and_mask
    rw [getRegnum_congr_gpr hrow.base hokBase
      ((hkeep.mono (mask_and_or_left _ _)).trans hoff)]
    exact getRegnum_updateInstrRegOpnd hrow.base hokBase o.srcRegs d₀ (Nat.lt_of_le_of_lt hle hfits)
  have hoffset : getRegnum w (offsetOpnd op) = (drawReg (offsetRegs o.srcRegs) d₁).1 := by
    rw [getRegnum_congr_gpr hrow.offset hokOffset (hkeep.mono (mask_and_or_right _ _))]
    exact getRegnum_updateInstrRegOpnd hrow.offset hokOffset _ d₁
      (Nat.lt_of_le_of_lt (Nat.le_trans hle' htop) hfits')
  rw [hbase, hoffset]
  refine ⟨hclass, fun h => hne (hclass'.symm.trans h), fun h => hne ?_⟩
  rw [← hclass', ← h, hclass]

/-- The options of a call that asks for `r8` to `r12`. -/
def highSourceOptions : GenOption :=
  { (State.fresh (fun _ => 0) fun _ => false).work.options with srcRegs := .r8to12 }

/-- `ldr` with a base of `r8` to `r12`. -/
theorem preprocessInstr_base_offset_LDR :
    let w := (preprocessInstr Op.LDR_reg highSourceOptions ⟨0xe7900000, fun _ => 0⟩).rawInstr
    highSourceOptions.srcRegs ≠ .default ∧ getRegnum w (baseOpnd Op.LDR_reg) = 8 ∧
      regClass (getRegnum w (offsetOpnd Op.LDR_reg)) ≠ .r8to12 := by
  have h := @preprocessInstr_base_offset Op.LDR_reg (by decide) highSourceOptions (by decide)
    (.inl (by decide +kernel)) ⟨0xe7900000, fun _ => 0⟩
  exact ⟨by decide, by decide +kernel, h.2.1⟩

end Rit.Src
