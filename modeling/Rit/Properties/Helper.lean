import Rit.Lib.Arm.Immediate
import Rit.NewSrc.InstrGenerator

/-!
# Immediates and offsets

`GenHelper` computes with two notions of the architecture: the constants that a data-processing
instruction can hold, which `fix_mem_base` uses to force the bits of a base register, and the
shifts of an offset register, which `get_rand_mem_offset` inverts.

`is_imm_encodable` looks for a byte in two windows, the word itself and the word rotated by half,
and does not ask where the byte starts.  It accepts the bytes rotated by an odd amount too
(`isImmEncodable_iff_byteRotated`).  The offsets are right for every amount
(`getRandMemOffset_shift`).
-/

namespace Rit

/-! ## `is_imm_encodable` -/

section Immediate

variable {imm : Word}

/-- One test of the counting loops. -/
lemma and_shl_one_eq_zero {idx : ℕ} (h : idx < 32) :
    imm &&& shl 1 idx = 0 ↔ imm.getLsbD idx = false := by
  have hshl : shl 1 idx = BitVec.twoPow 32 idx := by rw [shl, Nat.mod_eq_of_lt h]; rfl
  rw [hshl, BitVec.and_twoPow]
  cases hbit : imm.getLsbD idx with
  | false => simp
  | true =>
    refine iff_of_false (fun h0 => ?_) (by simp)
    have h1 := congrArg (·.getLsbD idx) h0
    simp [h] at h1

lemma le_length_takeWhile {α : Type} {p : α → Bool} {n : ℕ} {l : List α} :
    n ≤ (l.takeWhile p).length ↔ n ≤ l.length ∧ ∀ x ∈ l.take n, p x = true := by
  induction l generalizing n with
  | nil => simp
  | cons y l ih =>
    cases n with
    | zero => simp
    | succ n => cases hy : p y <;> simp [hy, ih]

/-- A loop makes `n` steps if it meets no set bit in them. -/
lemma le_zeroRun {n len : ℕ} {f : ℕ → ℕ} (hf : ∀ j < len, f j < 32) :
    n ≤ zeroRun imm ((List.range len).map f) ↔
      n ≤ len ∧ ∀ j < n, imm.getLsbD (f j) = false := by
  rw [zeroRun, le_length_takeWhile, List.length_map, List.length_range]
  refine and_congr_right fun hn => ?_
  rw [← List.map_take, List.take_range, Nat.min_eq_left hn]
  simp only [List.forall_mem_map, List.mem_range, decide_eq_true_eq]
  refine forall_congr' fun j => imp_congr_right fun hj => ?_
  exact and_shl_one_eq_zero (hf j (by omega))

/-- The loops from both ends leave a window of eight bits. -/
lemma outerRuns_iff :
    24 ≤ zeroRun imm (List.range 32) + zeroRun imm ((List.range 32).map (31 - ·)) ↔
      ∃ p ≤ 24, ∀ i < 32, imm.getLsbD i = true → p ≤ i ∧ i ≤ p + 7 := by
  have hup {n : ℕ} : n ≤ zeroRun imm (List.range 32) ↔
      n ≤ 32 ∧ ∀ j < n, imm.getLsbD j = false := by
    simpa using @le_zeroRun imm n 32 id fun j hj => hj
  have hdown {n : ℕ} : n ≤ zeroRun imm ((List.range 32).map (31 - ·)) ↔
      n ≤ 32 ∧ ∀ j < n, imm.getLsbD (31 - j) = false := le_zeroRun fun j _ => by omega
  constructor
  · intro h
    let p := min (zeroRun imm (List.range 32)) 24
    have hp : p ≤ zeroRun imm (List.range 32) := Nat.min_le_left _ _
    have hq : 24 - p ≤ zeroRun imm ((List.range 32).map (31 - ·)) := by omega
    refine ⟨p, Nat.min_le_right _ _, fun i hi hbit => ⟨?_, ?_⟩⟩
    · by_contra hlt
      have hzero := (hup.1 hp).2 i (by omega)
      rw [hbit] at hzero
      cases hzero
    · by_contra hlt
      have hzero := (hdown.1 hq).2 (31 - i) (by omega)
      rw [Nat.sub_sub_self (by omega), hbit] at hzero
      cases hzero
  · rintro ⟨p, hp, h⟩
    have hlow : p ≤ zeroRun imm (List.range 32) := by
      refine hup.2 ⟨by omega, fun j hj => ?_⟩
      by_contra hbit
      have := h j (by omega) (by simpa using hbit)
      omega
    have hhigh : 24 - p ≤ zeroRun imm ((List.range 32).map (31 - ·)) := by
      refine hdown.2 ⟨by omega, fun j hj => ?_⟩
      by_contra hbit
      have := h (31 - j) (by omega) (by simpa using hbit)
      omega
    omega

/-- The loops from the middle leave a window of eight bits around the ends. -/
lemma innerRuns_iff :
    24 ≤ zeroRun imm ((List.range 16).map (15 - ·)) + zeroRun imm ((List.range 16).map (16 + ·)) ↔
      ∃ q, 8 ≤ q ∧ q ≤ 16 ∧ ∀ i < 32, imm.getLsbD i = true → i < 16 - q ∨ 40 - q ≤ i := by
  have hdown {n : ℕ} : n ≤ zeroRun imm ((List.range 16).map (15 - ·)) ↔
      n ≤ 16 ∧ ∀ j < n, imm.getLsbD (15 - j) = false := le_zeroRun fun j _ => by omega
  have hup {n : ℕ} : n ≤ zeroRun imm ((List.range 16).map (16 + ·)) ↔
      n ≤ 16 ∧ ∀ j < n, imm.getLsbD (16 + j) = false := le_zeroRun fun j _ => by omega
  constructor
  · intro h
    let q := zeroRun imm ((List.range 16).map (15 - ·))
    have hq := hdown.1 (le_refl q)
    have hr : 24 - q ≤ zeroRun imm ((List.range 16).map (16 + ·)) := by omega
    have hr' := hup.1 hr
    refine ⟨q, by omega, hq.1, fun i hi hbit => ?_⟩
    by_contra hmid
    rcases Nat.lt_or_ge i 16 with hlt | hge
    · have hzero := hq.2 (15 - i) (by omega)
      rw [Nat.sub_sub_self (by omega), hbit] at hzero
      cases hzero
    · have hzero := hr'.2 (i - 16) (by omega)
      rw [Nat.add_sub_cancel' hge, hbit] at hzero
      cases hzero
  · rintro ⟨q, hq, hq', h⟩
    have hlow : q ≤ zeroRun imm ((List.range 16).map (15 - ·)) := by
      refine hdown.2 ⟨hq', fun j hj => ?_⟩
      by_contra hbit
      have := h (15 - j) (by omega) (by simpa using hbit)
      omega
    have hhigh : 24 - q ≤ zeroRun imm ((List.range 16).map (16 + ·)) := by
      refine hup.2 ⟨by omega, fun j hj => ?_⟩
      by_contra hbit
      have := h (16 + j) (by omega) (by simpa using hbit)
      omega
    omega

/-- What `is_imm_encodable` accepts. -/
lemma isImmEncodable_iff_byteRotated {o : GenOption} (ho : o.isa.isArm = true) :
    isImmEncodable o imm = true ↔ ∃ k < 32, Arm.ByteRotated imm k := by
  have hcode : isImmEncodable o imm = true ↔
      24 ≤ zeroRun imm (List.range 32) + zeroRun imm ((List.range 32).map (31 - ·)) ∨
      24 ≤ zeroRun imm ((List.range 16).map (15 - ·)) +
        zeroRun imm ((List.range 16).map (16 + ·)) := by
    rw [isImmEncodable, if_pos ho]
    dsimp only
    split_ifs with h
    · simp only [h, true_or]
    · simp only [h, false_or, decide_eq_true_eq]
  rw [hcode, outerRuns_iff, innerRuns_iff]
  simp only [Arm.byteRotated_iff]
  constructor
  · rintro (⟨p, hp, h⟩ | ⟨q, hq, hq', h⟩)
    · refine ⟨(32 - p) % 32, Nat.mod_lt _ (by omega), fun i hi hbit => ?_⟩
      have := h i hi hbit
      omega
    · refine ⟨q - 8, by omega, fun i hi hbit => ?_⟩
      have := h i hi hbit
      omega
  · rintro ⟨k, hk, h⟩
    -- a window that does not reach around the ends, or one that does
    rcases Nat.lt_or_ge k 8 with hlt | hge
    · refine .inr ⟨k + 8, by omega, by omega, fun i hi hbit => ?_⟩
      have := h i hi hbit
      omega
    · refine .inl ⟨32 - k, by omega, fun i hi hbit => ?_⟩
      have := h i hi hbit
      omega

end Immediate

/-! ## The constants of `fix_mem_base` -/

/-- The constant of an instruction of the form `rd, rn, #imm`. -/
def Asm.imm? : Asm → Option Word
  | .bicImm _ _ imm => some imm
  | .bicThree _ _ => some 3
  | .orrImm _ _ imm => some imm
  | _ => none

/-- The instruction of a line. -/
def Line.asm? : Line → Option Asm
  | .code asm => some asm
  | .inst asm => some asm
  | .instInfo _ => none

/-- `unset_mask` of `fix_mem_base`. -/
def unsetMask (o : GenOption) (forceAlign : Bool) : Word :=
  if forceAlign then (~~~o.memBaseVal &&& o.memBaseMask) ||| 3
  else ~~~o.memBaseVal &&& o.memBaseMask

/-- `set_mask` of `fix_mem_base`. -/
def setMask (o : GenOption) : Word := o.memBaseVal &&& o.memBaseMask

/-- The constants of `fix_mem_base` are encodable where they stand in an instruction, and loaded
from memory only where they are not. -/
structure FixMemBaseExact (o : GenOption) (regBase : Word) (forceAlign : Bool) : Prop where
  held : ∀ l ∈ fixMemBaseLines o regBase forceAlign, ∀ asm, l.asm? = some asm →
    ∀ imm, asm.imm? = some imm → Arm.Encodable imm
  needed : ∀ rd val, .code (.ldr rd val) ∈ fixMemBaseLines o regBase forceAlign →
    ¬Arm.Encodable val

section FixMemBase

variable {o : GenOption}

/-- An encodable constant is accepted; a constant that is accepted and not encodable is the byte at
an odd position. -/
lemma isImmEncodable_iff_or (ho : o.isa.isArm = true) {imm : Word} :
    isImmEncodable o imm = true ↔ Arm.Encodable imm ∨ Arm.OddByte imm := by
  rw [isImmEncodable_iff_byteRotated ho]
  constructor
  · rintro ⟨k, hk, h⟩
    exact h.encodable_or hk
  · rintro (h | h)
    · exact h.byteRotated
    · exact h.byteRotated

lemma encodable_of_isImmEncodable_iff (ho : o.isa.isArm = true) {imm : Word} :
    (isImmEncodable o imm = true → Arm.Encodable imm) ↔ ¬Arm.OddByte imm := by
  rw [isImmEncodable_iff_or ho]
  constructor
  · intro h hodd
    exact hodd.not_encodable (h (.inr hodd))
  · rintro hodd (h | h)
    · exact h
    · exact absurd h hodd

/-- The lines of `fix_mem_base` in ARM state. -/
lemma fixMemBaseLines_arm (ho : o.isa.isArm = true) {regBase : Word} (hpc : regBase ≠ R_PC)
    (forceAlign : Bool) : ∃ tmpReg, fixMemBaseLines o regBase forceAlign =
      (if isImmEncodable o (unsetMask o forceAlign) then
          [.code (.bicImm regBase regBase (unsetMask o forceAlign))]
        else [.code (.ldr tmpReg (unsetMask o forceAlign)), .code (.bic regBase tmpReg)]) ++
      (if isImmEncodable o (setMask o) then [.code (.orrImm regBase regBase (setMask o))]
        else [.code (.ldr tmpReg (setMask o)), .code (.orr regBase tmpReg)]) ++
      if forceAlign then [.inst (.bicThree regBase regBase)] else [] := by
  have hisa : o.isa ≠ .thumb := by
    intro h
    rw [h] at ho
    cases ho
  refine ⟨if regBase ≠ 0 then 0 else 1, ?_⟩
  simp only [fixMemBaseLines, hisa, hpc, false_and, decide_false, Bool.false_eq_true, if_false,
    List.nil_append, List.append_nil, unsetMask, setMask]
  rfl

lemma fixMemBaseLines_pc (ho : o.isa.isArm = true) (forceAlign : Bool) :
    fixMemBaseLines o R_PC forceAlign = [] := by
  have hisa : o.isa ≠ .thumb := by
    intro h
    rw [h] at ho
    cases ho
  simp [fixMemBaseLines, hisa]

lemma fixMemBaseExact_iff (ho : o.isa.isArm = true) (regBase : Word) (forceAlign : Bool) :
    FixMemBaseExact o regBase forceAlign ↔
      regBase = R_PC ∨ (¬Arm.OddByte (unsetMask o forceAlign) ∧ ¬Arm.OddByte (setMask o)) := by
  by_cases hpc : regBase = R_PC
  · refine iff_of_true ⟨?_, ?_⟩ (.inl hpc)
    all_goals simp [hpc, fixMemBaseLines_pc ho]
  obtain ⟨tmpReg, hlines⟩ := fixMemBaseLines_arm ho hpc forceAlign
  have hthree : Arm.Encodable 3 := ⟨3, by decide⟩
  simp only [hpc, false_or, ← encodable_of_isImmEncodable_iff ho]
  constructor
  · rintro ⟨hheld, -⟩
    constructor
    · intro hacc
      refine hheld (.code (.bicImm regBase regBase _)) ?_ _ rfl _ rfl
      simp [hlines, hacc]
    · intro hacc
      refine hheld (.code (.orrImm regBase regBase _)) ?_ _ rfl _ rfl
      simp [hlines, hacc]
  · rintro ⟨hunset, hset⟩
    have hload {mask : Word} (h : isImmEncodable o mask = false) : ¬Arm.Encodable mask := by
      intro henc
      rw [(isImmEncodable_iff_or ho).2 (.inl henc)] at h
      cases h
    constructor
    · intro l hl asm hasm imm himm
      rw [hlines, List.mem_append, List.mem_append] at hl
      rcases hl with (hl | hl) | hl
      · split_ifs at hl with hacc
        · obtain rfl := List.mem_singleton.1 hl
          cases hasm
          cases himm
          exact hunset hacc
        · rcases List.mem_pair.1 hl with rfl | rfl <;> cases hasm <;> cases himm
      · split_ifs at hl with hacc
        · obtain rfl := List.mem_singleton.1 hl
          cases hasm
          cases himm
          exact hset hacc
        · rcases List.mem_pair.1 hl with rfl | rfl <;> cases hasm <;> cases himm
      · split_ifs at hl with halign
        · obtain rfl := List.mem_singleton.1 hl
          cases hasm
          cases himm
          exact hthree
        · cases hl
    · intro rd val hl
      rw [hlines, List.mem_append, List.mem_append] at hl
      rcases hl with (hl | hl) | hl
      all_goals
        split_ifs at hl with hacc
        all_goals simp at hl
        all_goals
          rw [hl.2]
          exact hload (by simpa using hacc)

end FixMemBase

/-- With an ARM instruction set, `is_imm_encodable` is right for the constants that are not a byte
at an odd position, and so is what `fix_mem_base` does with its masks. -/
theorem isImmEncodable_exact_iff (o : GenOption) (ho : o.isa.isArm = true) :
    (∀ imm, (isImmEncodable o imm = true ↔ Arm.Encodable imm) ↔ ¬Arm.OddByte imm) ∧
      ∀ regBase forceAlign, FixMemBaseExact o regBase forceAlign ↔
        regBase = R_PC ∨ (¬Arm.OddByte (unsetMask o forceAlign) ∧ ¬Arm.OddByte (setMask o)) := by
  refine ⟨fun imm => ?_, fixMemBaseExact_iff ho⟩
  rw [← encodable_of_isImmEncodable_iff ho]
  refine ⟨Iff.mp, fun h => ⟨h, fun henc => ?_⟩⟩
  exact (isImmEncodable_iff_or ho).2 (.inl henc)

theorem isImmEncodable_exact_init :
    (isImmEncodable { initOptions with isa := .armv7 } 0x03fc0000 = true ↔
      Arm.Encodable 0x03fc0000) ↔ ¬Arm.OddByte 0x03fc0000 :=
  (isImmEncodable_exact_iff { initOptions with isa := .armv7 } rfl).1 0x03fc0000

/-- The byte `0xff` at bit 19 is accepted as the set mask of a base at `0x07f80000`. -/
theorem isImmEncodable_odd :
    isImmEncodable { initOptions with isa := .armv7 } 0x07f80000 = true ∧
      ¬Arm.Encodable 0x07f80000 ∧
      .code (.orrImm 1 1 0x07f80000) ∈
        fixMemBaseLines { initOptions with isa := .armv7, memBaseVal := 0x07f80000 } 1 false := by
  refine ⟨by decide, ?_, by decide⟩
  have hodd : Arm.OddByte 0x07f80000 := ⟨0xff, rfl, rfl, 6, by decide, by decide⟩
  exact hodd.not_encodable

/-! ## `get_rand_mem_offset` -/

/-- The shift types and amounts the callers of `get_rand_mem_offset` pass. -/
def PassedShift (shiftT shiftN : Word) : Prop :=
  (shiftT = 0 ∨ shiftT = 3) ∧ shiftN.toNat ≤ 31 ∨
    (shiftT = 1 ∨ shiftT = 2) ∧ 1 ≤ shiftN.toNat ∧ shiftN.toNat ≤ 32

section Offset

variable {v : Word} {n : ℕ}

/-- A value with no bit from position 12 on. -/
lemma le_fff_of_getLsbD (h : ∀ i < 32, 12 ≤ i → v.getLsbD i = false) : v.toNat ≤ 0xfff := by
  have hlt : v.toNat < 2 ^ 12 := by
    refine Nat.lt_pow_two_of_testBit _ fun i hi => ?_
    rw [BitVec.testBit_toNat]
    by_cases hi' : i < 32
    · exact h i hi' hi
    · exact BitVec.getLsbD_of_ge _ _ (by omega)
  omega

lemma getLsbD_fff (i : ℕ) : (0xfff : Word).getLsbD i = decide (i < 12) := by
  have hfff : (0xfff : Word) = BitVec.setWidth 32 (BitVec.allOnes 12) := by decide
  rw [hfff, BitVec.getLsbD_setWidth, BitVec.getLsbD_allOnes]
  by_cases h : i < 12
  · simp only [h, decide_true, Bool.and_true, decide_eq_true_eq]
    omega
  · simp only [h, decide_false, Bool.and_false]

lemma getLsbD_ffffffff (i : ℕ) : (0xffffffff : Word).getLsbD i = decide (i < 32) :=
  BitVec.getLsbD_allOnes

lemma getLsbD_shl (x : Word) (n i : ℕ) :
    (shl x n).getLsbD i = (decide (i < 32) && !decide (i < n % 32) && x.getLsbD (i - n % 32)) := by
  rw [shl, BitVec.getLsbD_shiftLeft]

lemma getLsbD_shr (x : Word) (n i : ℕ) : (shr x n).getLsbD i = x.getLsbD (n % 32 + i) := by
  rw [shr, BitVec.getLsbD_ushiftRight]

/-- LSL: the mask keeps the bits that stay below position 12 and those that are shifted out. -/
lemma lslOffset_le (v : Word) (hn : n ≤ 31) :
    (shl (v &&& if n < 12 then shr 0xfff n ||| shl 0xfff (32 - n) else shl 0xffffffff (32 - n))
      n).toNat ≤ 0xfff := by
  refine le_fff_of_getLsbD fun i hi hi' => ?_
  rw [getLsbD_shl, BitVec.getLsbD_and]
  have hzero (hge : n ≤ i) : (if n < 12 then shr 0xfff n ||| shl 0xfff (32 - n)
      else shl 0xffffffff (32 - n) : Word).getLsbD (i - n) = false := by
    split_ifs with h
    · simp only [BitVec.getLsbD_or, getLsbD_shl, getLsbD_shr, getLsbD_fff]
      simp
      omega
    · simp only [getLsbD_shl, getLsbD_ffffffff]
      simp
      omega
  rw [Nat.mod_eq_of_lt (by omega)]
  by_cases hge : n ≤ i
  · rw [hzero hge, Bool.and_false, Bool.and_false]
  · simp [Nat.lt_of_not_le hge]

/-- A right shift by `n` of a value with no bit from position `n + 12` on. -/
lemma ushiftRight_le {m : Word} (h : ∀ j, n + 12 ≤ j → m.getLsbD j = false) (v : Word) :
    ((v &&& m) >>> n).toNat ≤ 0xfff := by
  refine le_fff_of_getLsbD fun i _ hi' => ?_
  rw [BitVec.getLsbD_ushiftRight, BitVec.getLsbD_and, h _ (by omega), Bool.and_false]

/-- The mask of LSR and of ASR. -/
lemma getLsbD_rightMask (hn : 1 ≤ n) {rest : Word} {j : ℕ} (hj : n + 12 ≤ j) :
    (if n < 20 then shr 0xffffffff (20 - n) else rest).getLsbD j = false := by
  split_ifs with h
  · rw [getLsbD_shr, getLsbD_ffffffff, decide_eq_false (by omega)]
  · exact BitVec.getLsbD_of_ge _ _ (by omega)

/-- ASR sees a value that is not negative. -/
lemma msb_asrMask (hn : 1 ≤ n) (v : Word) :
    (v &&& if n < 20 then shr 0xffffffff (20 - n) else 0x7fffffff).msb = false := by
  have hmask : (if n < 20 then shr 0xffffffff (20 - n) else 0x7fffffff : Word).getLsbD 31 =
      false := by
    split_ifs with h
    · rw [getLsbD_shr, getLsbD_ffffffff, decide_eq_false (by omega)]
    · rfl
  rw [BitVec.msb_eq_getLsbD_last, BitVec.getLsbD_and, hmask, Bool.and_false]

/-- ROR: the mask keeps the bits that are rotated below position 12. -/
lemma rorOffset_le (v : Word) (hn : 1 ≤ n) (hn' : n ≤ 31) :
    ((v &&& (shl 0xfff n ||| shr 0xfff (32 - n))).rotateRight n).toNat ≤ 0xfff := by
  refine le_fff_of_getLsbD fun i hi hi' => ?_
  have hzero : (shl 0xfff n ||| shr 0xfff (32 - n)).getLsbD ((i + n) % 32) = false := by
    simp only [BitVec.getLsbD_or, getLsbD_shl, getLsbD_shr, getLsbD_fff]
    simp
    omega
  rw [Arm.getLsbD_rotateRight _ _ hi, BitVec.getLsbD_and, hzero, Bool.and_false]

/-- The shift of the architecture, with the fields of type and amount as an instruction holds them
and a clear carry, takes the stored value to the returned one, which fits twelve bits. -/
def Inverts (shiftT shiftN : Word) (res : Word × Word) : Prop :=
  Arm.shiftImm (shiftT.setWidth 2) (shiftN.setWidth 5) res.1 false = res.2 ∧ res.2.toNat ≤ 0xfff

variable {shiftN : Word} (junk regVal : Word)

lemma inverts_lsl (hn : shiftN.toNat ≤ 31) :
    Inverts 0 shiftN (randMemOffset junk 0 shiftN regVal) := by
  have hsub : (32 - shiftN).toNat = 32 - shiftN.toNat := by bv_omega
  have hfield : (shiftN.setWidth 5).toNat = shiftN.toNat % 32 := BitVec.toNat_setWidth _ _
  have hle := lslOffset_le regVal hn
  rw [← hsub] at hle
  refine ⟨?_, hle⟩
  change _ <<< (shiftN.setWidth 5).toNat = shl _ shiftN.toNat
  rw [hfield, shl]
  rfl

/-- The field of a right shift holds 0 for the amount 32. -/
lemma rightAmount (hpos : 1 ≤ shiftN.toNat) (hn : shiftN.toNat ≤ 32) :
    (if shiftN.setWidth 5 = 0 then 32 else (shiftN.setWidth 5).toNat) = shiftN.toNat := by
  have hfield : (shiftN.setWidth 5).toNat = shiftN.toNat % 32 := BitVec.toNat_setWidth _ _
  have hzero : shiftN.setWidth 5 = 0 ↔ shiftN.toNat % 32 = 0 := by
    rw [← hfield, ← BitVec.toNat_inj]
    rfl
  simp only [hzero, hfield]
  split_ifs <;> omega

lemma ushiftRight_eq_ite (hn : n ≤ 32) : (if n < 32 then shr v n else 0) = v >>> n := by
  split_ifs with h
  · rw [shr, Nat.mod_eq_of_lt h]
  · have h32 : n = 32 := by omega
    rw [h32, BitVec.ushiftRight_eq_zero le_rfl]
    rfl

lemma inverts_lsr (hpos : 1 ≤ shiftN.toNat) (hn : shiftN.toNat ≤ 32) :
    Inverts 1 shiftN (randMemOffset junk 1 shiftN regVal) := by
  let r := regVal &&& if shiftN.toNat < 20 then shr 0xffffffff (20 - shiftN.toNat) else 0xffffffff
  have hres : randMemOffset junk 1 shiftN regVal = (r, r >>> shiftN.toNat) :=
    Prod.ext rfl (ushiftRight_eq_ite hn)
  rw [hres]
  refine ⟨?_, ushiftRight_le (fun j hj => getLsbD_rightMask hpos hj) regVal⟩
  change r >>> (if shiftN.setWidth 5 = 0 then 32 else (shiftN.setWidth 5).toNat) = _
  rw [rightAmount hpos hn]

lemma inverts_asr (hpos : 1 ≤ shiftN.toNat) (hn : shiftN.toNat ≤ 32) :
    Inverts 2 shiftN (randMemOffset junk 2 shiftN regVal) := by
  let r := regVal &&& if shiftN.toNat < 20 then shr 0xffffffff (20 - shiftN.toNat) else 0x7fffffff
  have hshift (k : ℕ) : r.sshiftRight k = r >>> k :=
    BitVec.sshiftRight_eq_of_msb_false (msb_asrMask hpos regVal)
  have hres : randMemOffset junk 2 shiftN regVal = (r, r >>> shiftN.toNat) := by
    refine Prod.ext rfl ?_
    change (if shiftN.toNat < 32 then r.sshiftRight shiftN.toNat else 0) = _
    rw [← ushiftRight_eq_ite hn]
    split_ifs with h
    · rw [hshift, shr, Nat.mod_eq_of_lt h]
    · rfl
  rw [hres]
  refine ⟨?_, ushiftRight_le (fun j hj => getLsbD_rightMask hpos hj) regVal⟩
  change r.sshiftRight (if shiftN.setWidth 5 = 0 then 32 else (shiftN.setWidth 5).toNat) = _
  rw [rightAmount hpos hn, hshift]

lemma inverts_ror (hn : shiftN.toNat ≤ 31) :
    Inverts 3 shiftN (randMemOffset junk 3 shiftN regVal) := by
  have hfield : (shiftN.setWidth 5).toNat = shiftN.toNat := by
    rw [BitVec.toNat_setWidth]
    omega
  by_cases h0 : shiftN.toNat = 0
  · -- RRX
    obtain rfl : shiftN = 0 := BitVec.eq_of_toNat_eq h0
    let r := regVal &&& shr 0xffffffff 19
    refine ⟨?_, ?_⟩
    · change r >>> 1 ||| (BitVec.ofBool false).setWidth 32 <<< 31 = r >>> 1
      simp
    · refine ushiftRight_le (n := 1) (fun j hj => ?_) regVal
      rw [getLsbD_shr, getLsbD_ffffffff, decide_eq_false (by omega)]
  · let r := regVal &&& (shl 0xfff shiftN.toNat ||| shr 0xfff (32 - shiftN).toNat)
    have hsub : (32 - shiftN).toNat = 32 - shiftN.toNat := by bv_omega
    have hres : randMemOffset junk 3 shiftN regVal = (r, r.rotateRight shiftN.toNat) := by
      have hcode : randMemOffset junk 3 shiftN regVal =
          (r, shr r shiftN.toNat ||| shl r (32 - shiftN).toNat) := by
        unfold randMemOffset
        simp [h0, r]
      rw [hcode, hsub, BitVec.rotateRight_def, shr, shl, Nat.mod_eq_of_lt (by omega),
        Nat.mod_eq_of_lt (by omega)]
    rw [hres]
    refine ⟨?_, ?_⟩
    · have hne : shiftN.setWidth 5 ≠ 0 := by
        intro hz
        rw [hz] at hfield
        exact h0 hfield.symm
      change (if shiftN.setWidth 5 = 0 then _ else r.rotateRight (shiftN.setWidth 5).toNat) = _
      rw [if_neg hne, hfield]
    · have hle := rorOffset_le regVal (by omega) hn
      rw [← hsub] at hle
      exact hle

end Offset

/-- Applying the shift to the stored value gives the returned offset, which fits twelve bits. -/
theorem getRandMemOffset_shift (shiftT shiftN : Word) (h : PassedShift shiftT shiftN)
    (s : GenState) : Inverts shiftT shiftN (getRandMemOffset shiftT shiftN s).1 := by
  rcases h with ⟨rfl | rfl, hn⟩ | ⟨rfl | rfl, hpos, hn⟩
  · exact inverts_lsl (s.uninit 0) s.nextRand hn
  · exact inverts_ror (s.uninit 0) s.nextRand hn
  · exact inverts_lsr (s.uninit 0) s.nextRand hpos hn
  · exact inverts_asr (s.uninit 0) s.nextRand hpos hn

theorem getRandMemOffset_shift_lsr32 : PassedShift 1 32 ∧
    Inverts 1 32 (getRandMemOffset 1 32 (staticState (fun _ => 0x7fffffff) fun _ => 0)).1 := by
  have hpassed : PassedShift 1 32 := .inr ⟨.inl rfl, by decide, by decide⟩
  exact ⟨hpassed, getRandMemOffset_shift 1 32 hpassed _⟩

end Rit
