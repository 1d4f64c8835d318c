import Rit.NewSrc.InstrUtil

/-!
# The laws of the bit-field helpers

Every encoder writes its operands through `set_instr`, `set_bits` and `clear_bits` and reads them
through `get_bits_value`.  The masks of all four contain a shift by one more than the upper end of
the field.  A machine takes the shift count modulo 32, so for a field that ends at bit 31 the shift
is by nothing, and the mask selects the bits below the field instead of those in it.

`FieldLaws` collects what an encoder relies on.  `fieldLaws_iff` says that the helpers keep these
laws for the fields that end below bit 31 and for no others: at bit 31 `set_bits` and `clear_bits`
both leave the bit as it was, so they cannot both be right.
-/

namespace Rit

/-- The laws of the helpers for the word `w`, the value `v` and the field `lo .. hi`. -/
structure FieldLaws (w v : Word) (lo hi : ℕ) : Prop where
  /-- What is written is read back, as far as the field holds it. -/
  get_set : (getBitsValue (setInstr w lo hi v) lo hi).toNat = v.toNat % 2 ^ (hi - lo + 1)
  /-- Nothing else is written. -/
  set_off : ∀ i < 32, ¬(lo ≤ i ∧ i ≤ hi) → (setInstr w lo hi v).getLsbD i = w.getLsbD i
  set_bits : ∀ i < 32, (setBits w lo hi).getLsbD i = (decide (lo ≤ i ∧ i ≤ hi) || w.getLsbD i)
  clear_bits : ∀ i < 32,
    (clearBits w lo hi).getLsbD i = (!decide (lo ≤ i ∧ i ≤ hi) && w.getLsbD i)

section Below

variable {lo hi : ℕ}

/-- The mask of `clear_bits` for a field that ends below bit 31. -/
lemma getLsbD_clearMask (hlo : lo ≤ hi) (hhi : hi < 31) {i : ℕ} (hi' : i < 32) :
    (shl (shr 0xffffffff (hi + 1)) (hi + 1) ||| (shl 1 lo - 1)).getLsbD i =
      !decide (lo ≤ i ∧ i ≤ hi) := by
  have hones : (0xffffffff : Word) = BitVec.allOnes 32 := by decide
  rw [BitVec.getLsbD_or, getLsbD_shl_one_sub_one (by omega), shl_of_lt (by omega),
    shr_of_lt (by omega), hones, BitVec.getLsbD_shiftLeft, BitVec.getLsbD_ushiftRight,
    BitVec.getLsbD_allOnes]
  by_cases hbelow : i < lo
  · have hnot : ¬ lo ≤ i := by omega
    simp [hbelow, hnot]
  · by_cases habove : hi < i
    · have hpos : ¬ i < hi + 1 := by omega
      have hadd : hi + 1 + (i - (hi + 1)) = i := by omega
      simp [hbelow, hi', hpos, hadd, Nat.not_le.2 habove]
    · have hin : lo ≤ i ∧ i ≤ hi := by omega
      have hpos : i < hi + 1 := by omega
      simp [hbelow, hin, hpos]

/-- Below bit 31 the helpers are the operations of the field. -/
lemma fieldLaws_of_lt (w v : Word) (hlo : lo ≤ hi) (hhi : hi < 31) : FieldLaws w v lo hi where
  get_set := by
    rw [setInstr_eq_set w v hlo hhi, getBitsValue_eq_get _ hlo hhi,
      BitField.get_set_same w v hlo (by omega), BitField.toNat_and_span_zero v (by omega)]
  set_off := by
    intro i _ hout
    rw [setInstr_eq_set w v hlo hhi, BitField.getLsbD_set, if_neg]
    rintro ⟨hlo', hhi', -⟩
    exact hout ⟨hlo', hhi'⟩
  set_bits := by
    intro i hi'
    rw [setBits, BitVec.getLsbD_or, bitsMask_eq_span hlo hhi, BitField.getLsbD_span, Bool.or_comm]
    simp [hi']
  clear_bits := by
    intro i hi'
    rw [clearBits, BitVec.getLsbD_and, getLsbD_clearMask hlo hhi hi', Bool.and_comm]

/-- At bit 31 the mask of `set_bits` is empty. -/
lemma getLsbD_setBits_top (w : Word) (hlo : lo ≤ 31) :
    (setBits w lo 31).getLsbD 31 = w.getLsbD 31 := by
  have hfull : shl (1 : Word) (31 + 1) - 1 = 0 := by decide
  have hbelow : (shl 1 lo - 1).getLsbD 31 = false := by
    rw [getLsbD_shl_one_sub_one (by omega), decide_eq_false (by omega)]
  rw [setBits, BitVec.getLsbD_or, bitsMask, hfull, BitVec.getLsbD_xor, hbelow]
  simp

/-- At bit 31 the mask of `clear_bits` is full. -/
lemma getLsbD_clearBits_top (w : Word) (lo : ℕ) :
    (clearBits w lo 31).getLsbD 31 = w.getLsbD 31 := by
  have hfull : (shl (shr 0xffffffff (31 + 1)) (31 + 1) : Word).getLsbD 31 = true := by decide
  rw [clearBits, BitVec.getLsbD_and, BitVec.getLsbD_or, hfull, Bool.true_or, Bool.and_true]

end Below

/-- The helpers obey the laws of a field if and only if the field ends below bit 31. -/
theorem fieldLaws_iff (w v : Word) {lo hi : ℕ} (hlo : lo ≤ hi) (hhi : hi ≤ 31) :
    FieldLaws w v lo hi ↔ hi ≤ 30 := by
  constructor
  · intro h
    by_contra hlt
    obtain rfl : hi = 31 := by omega
    have hset := h.set_bits 31 (by decide)
    have hclear := h.clear_bits 31 (by decide)
    rw [getLsbD_setBits_top w hlo, decide_eq_true ⟨hlo, Nat.le_refl 31⟩, Bool.true_or] at hset
    rw [getLsbD_clearBits_top, decide_eq_true ⟨hlo, Nat.le_refl 31⟩, Bool.not_true,
      Bool.false_and, hset] at hclear
    cases hclear
  · intro hle
    exact fieldLaws_of_lt w v hlo (by omega)

/-- The field of the condition, one bit short. -/
theorem fieldLaws_upto_30 : 28 ≤ 30 ∧ 30 ≤ 31 ∧ FieldLaws 0xe0000000 0x5 28 30 :=
  ⟨by decide, by decide, (fieldLaws_iff 0xe0000000 0x5 (by decide) (by decide)).2 (by decide)⟩

/-- Writing the condition `al` to the upper four bits of zero and reading it back gives zero. -/
theorem getBitsValue_setInstr_upto_31 :
    getBitsValue (setInstr 0 28 31 0xe) 28 31 = 0 ∧ ¬FieldLaws 0 0xe 28 31 := by
  have hread : getBitsValue (setInstr 0 28 31 0xe) 28 31 = 0 := by decide
  refine ⟨hread, ?_⟩
  intro h
  have hget := h.get_set
  rw [hread] at hget
  revert hget
  decide

end Rit
