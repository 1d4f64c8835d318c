import Rit.Lib.Arm.Machine

/-!
# Modified immediate constants

A data-processing instruction of ARM holds a byte and a rotation by an even amount.  The words that
are a byte rotated by *some* amount (`ByteRotated`) fall into two classes: those that an instruction
can hold (`Encodable`), and those in which the byte has both its outer bits set and the amount is
odd (`OddByte`), since a byte with a clear outer bit can be moved by one position.
-/

namespace Arm

/-- `x` is a byte rotated right by `k`. -/
def ByteRotated (x : Word) (k : ℕ) : Prop := ∃ b : BitVec 8, x = (b.setWidth 32).rotateRight k

/-- `x` is a modified immediate constant. -/
def Encodable (x : Word) : Prop := ∃ imm12 : BitVec 12, armExpandImm imm12 = x

/-- `x` is a byte with both outer bits set, rotated right by an odd amount. -/
def OddByte (x : Word) : Prop :=
  ∃ b : BitVec 8, b.getLsbD 0 = true ∧ b.getLsbD 7 = true ∧
    ∃ k < 16, x = (b.setWidth 32).rotateRight (2 * k + 1)

variable {x : Word} {k : ℕ}

lemma getLsbD_rotateRight (x : Word) (k : ℕ) {i : ℕ} (hi : i < 32) :
    (x.rotateRight k).getLsbD i = x.getLsbD ((i + k) % 32) := by
  have hmod : k % 32 < 32 := Nat.mod_lt _ (by omega)
  rw [BitVec.getLsbD_rotateRight]
  by_cases h : i < 32 - k % 32
  · have hidx : (i + k) % 32 = k % 32 + i := by omega
    rw [hidx]
    simp [h]
  · have hidx : (i + k) % 32 = i - (32 - k % 32) := by omega
    rw [hidx]
    simp [h, hi]

lemma getLsbD_byte (b : BitVec 8) (k : ℕ) {i : ℕ} (hi : i < 32) :
    ((b.setWidth 32).rotateRight k).getLsbD i = b.getLsbD ((i + k) % 32) := by
  have hlt : (i + k) % 32 < 32 := Nat.mod_lt _ (by omega)
  rw [getLsbD_rotateRight _ _ hi, BitVec.getLsbD_setWidth, decide_eq_true hlt, Bool.true_and]

/-- The set bits of a rotated byte lie in a window of eight positions around the word. -/
lemma byteRotated_iff : ByteRotated x k ↔ ∀ i < 32, x.getLsbD i = true → (i + k) % 32 < 8 := by
  constructor
  · rintro ⟨b, rfl⟩ i hi hbit
    rw [getLsbD_byte b k hi] at hbit
    exact BitVec.lt_of_getLsbD hbit
  · intro h
    refine ⟨(x.rotateRight (32 - k % 32)).setWidth 8, ?_⟩
    apply BitVec.eq_of_getLsbD_eq
    intro i hi
    have hmod : k % 32 < 32 := Nat.mod_lt _ (by omega)
    have hback : ((i + k) % 32 + (32 - k % 32)) % 32 = i := by omega
    rw [getLsbD_byte _ k hi, BitVec.getLsbD_setWidth,
      getLsbD_rotateRight x _ (Nat.mod_lt _ (by omega)), hback]
    cases hbit : x.getLsbD i with
    | false => rw [Bool.and_false]
    | true => rw [decide_eq_true (h i hi hbit), Bool.and_true]

lemma encodable_iff : Encodable x ↔ ∃ k < 16, ByteRotated x (2 * k) := by
  constructor
  · rintro ⟨imm12, rfl⟩
    exact ⟨(imm12.extractLsb' 8 4).toNat, (imm12.extractLsb' 8 4).isLt, imm12.extractLsb' 0 8, rfl⟩
  · rintro ⟨k, hk, b, rfl⟩
    refine ⟨BitVec.ofNat 4 k ++ b, ?_⟩
    have hamount : ((BitVec.ofNat 4 k ++ b : BitVec 12).extractLsb' 8 4).toNat = k := by
      rw [BitVec.extractLsb'_append_eq_of_le (by omega)]
      simp only [BitVec.extractLsb'_toNat, BitVec.toNat_ofNat]
      omega
    have hbyte : (BitVec.ofNat 4 k ++ b : BitVec 12).extractLsb' 0 8 = b := by
      rw [BitVec.extractLsb'_append_eq_of_add_le (by omega)]
      simp
    rw [armExpandImm, hamount, hbyte]

lemma Encodable.byteRotated (h : Encodable x) : ∃ k < 32, ByteRotated x k := by
  obtain ⟨k, hk, hb⟩ := encodable_iff.1 h
  exact ⟨2 * k, by omega, hb⟩

lemma OddByte.byteRotated (h : OddByte x) : ∃ k < 32, ByteRotated x k := by
  obtain ⟨b, -, -, k, hk, rfl⟩ := h
  exact ⟨2 * k + 1, by omega, b, rfl⟩

/-- The outer bits fix the rotation. -/
lemma OddByte.not_encodable (h : OddByte x) : ¬Encodable x := by
  obtain ⟨b, hlow, hhigh, k, hk, rfl⟩ := h
  intro henc
  obtain ⟨k', hk', hb⟩ := encodable_iff.1 henc
  rw [byteRotated_iff] at hb
  -- where the outer bits of the byte stand
  have hbit (j : ℕ) (hj : j < 8) (hset : b.getLsbD j = true) :
      ((j + (31 - 2 * k)) % 32 + 2 * k') % 32 < 8 := by
    refine hb _ (Nat.mod_lt _ (by omega)) ?_
    rw [getLsbD_byte b _ (Nat.mod_lt _ (by omega))]
    have hpos : ((j + (31 - 2 * k)) % 32 + (2 * k + 1)) % 32 = j := by omega
    rwa [hpos]
  have h0 := hbit 0 (by omega) hlow
  have h7 := hbit 7 (by omega) hhigh
  omega

/-- A byte rotated by some amount, if it cannot be held, is the exception. -/
lemma ByteRotated.encodable_or (h : ByteRotated x k) (hk : k < 32) : Encodable x ∨ OddByte x := by
  have hwin := byteRotated_iff.1 h
  obtain ⟨b, rfl⟩ := h
  obtain ⟨m, rfl | rfl⟩ : ∃ m, k = 2 * m ∨ k = 2 * m + 1 := ⟨k / 2, by omega⟩
  · exact .inl (encodable_iff.2 ⟨m, by omega, b, rfl⟩)
  by_cases hlow : b.getLsbD 0 = true
  · by_cases hhigh : b.getLsbD 7 = true
    · exact .inr ⟨b, hlow, hhigh, m, by omega, rfl⟩
    · -- the byte has room at the top
      refine .inl (encodable_iff.2 ⟨(m + 1) % 16, Nat.mod_lt _ (by omega), ?_⟩)
      refine byteRotated_iff.2 fun i hi hbit => ?_
      have hlt := hwin i hi hbit
      rw [getLsbD_byte b _ hi] at hbit
      have hne : (i + (2 * m + 1)) % 32 ≠ 7 := fun h7 => hhigh (h7 ▸ hbit)
      omega
  · -- the byte has room at the bottom
    refine .inl (encodable_iff.2 ⟨m, by omega, byteRotated_iff.2 fun i hi hbit => ?_⟩)
    have hlt := hwin i hi hbit
    rw [getLsbD_byte b _ hi] at hbit
    have hne : (i + (2 * m + 1)) % 32 ≠ 0 := fun h0 => hlow (h0 ▸ hbit)
    omega

end Arm
