import Rit.NewSrc.Opcode
import Rit.Lib.BitField

/-!
# `InstrUtil`: bit fields of an instruction word

The bit helpers of `InstrUtil.c` and the macros of `InstrUtil.h`, written with the machine
shifts of `Types`.  For fields that end below bit 31 each helper is the corresponding
operation of `BitField`; the last part of the file proves that, and everything else in the
development uses the `BitField` lemmas.
-/

namespace Rit

/-! ## The helpers -/

def bitCount (value : Word) : ℕ := ((List.range 32).filter value.getLsbD).length

/-- `get_bit_value`: `data[bit]`. -/
def getBitValue (data : Word) (bit : ℕ) : Word :=
  let mask := shl 1 bit
  if data &&& mask = mask then 1 else 0

/-- The mask expression `((1 << (end + 1)) - 1) ^ ((1 << start) - 1)` that `get_bits_value`,
`set_instr` and `set_bits` share. -/
def bitsMask (startBit endBit : ℕ) : Word := (shl 1 (endBit + 1) - 1) ^^^ (shl 1 startBit - 1)

/-- `get_bits_value`: `data[endBit:startBit]`. -/
def getBitsValue (data : Word) (startBit endBit : ℕ) : Word :=
  shr (data &&& bitsMask startBit endBit) startBit

def getRegnum (instr : Word) (opnd : Opnd) : Word :=
  match opnd.type with
  | .gpr | .gprRw | .gprSet | .shiftReg | .rotateReg =>
    getBitsValue instr opnd.startBit opnd.endBit
  | .gprConst => .ofNat 32 opnd.bit1
  | .gprMerge =>
    let regnum := getBitsValue instr opnd.startBit opnd.endBit
    if getBitValue instr opnd.bit1 ≠ 0 then regnum + 8 else regnum
  | _ => INVALID_GPR

/-- The test of `get_instr_op`: the word has the match pattern of the row and not its negative
pattern. -/
def InstrDesc.isMatch (row : InstrDesc) (instr : Word) : Bool :=
  instr &&& row.matchMsk = row.matchVal && instr &&& row.negMsk ≠ row.negVal

def getMemAddr (base offset : Word) (flagAdd flagIndex : Bool) : Word :=
  let offsetAddr := if flagAdd then base + offset else base - offset
  if flagIndex then offsetAddr else base

/-- `set_instr`: `inputInstr[highBit:lowBit] = newVal`. -/
def setInstr (inputInstr : Word) (lowBit highBit : ℕ) (newVal : Word) : Word :=
  let mask := bitsMask lowBit highBit ^^^ 0xffffffff
  let val := shl (newVal &&& (shl 1 (highBit - lowBit + 1) - 1)) lowBit
  (inputInstr &&& mask) ||| val

def setInstrReg (inputInstr : Word) (regOpnd : Opnd) (newVal : Word) : Word :=
  setInstr inputInstr regOpnd.startBit regOpnd.endBit newVal

/-- `is_fixed_oprand`: some bit of the field is fixed by the row's match mask. -/
def isFixedOprand (op : Opcode) (startBit endBit : ℕ) : Bool :=
  (List.range' startBit (endBit + 1 - startBit)).any fun idx =>
    getBitValue (glbInstrTlb op).matchMsk idx = 1

def setBits (data : Word) (startBit endBit : ℕ) : Word := data ||| bitsMask startBit endBit

def clearBits (data : Word) (startBit endBit : ℕ) : Word :=
  data &&& (shl (shr 0xffffffff (endBit + 1)) (endBit + 1) ||| (shl 1 startBit - 1))

/-! ## The helpers as bit-field operations -/

lemma shl_of_lt {x : Word} {n : ℕ} (hn : n < 32) : shl x n = x <<< n := by
  rw [shl, Nat.mod_eq_of_lt hn]

lemma shr_of_lt {x : Word} {n : ℕ} (hn : n < 32) : shr x n = x >>> n := by
  rw [shr, Nat.mod_eq_of_lt hn]

/-- `(1 << n) - 1` has exactly the bits below `n`. -/
lemma getLsbD_shl_one_sub_one {n : ℕ} (hn : n < 32) (i : ℕ) :
    (shl 1 n - 1).getLsbD i = decide (i < n) := by
  have hpow : (2 : ℕ) ^ n < 2 ^ 32 := Nat.pow_lt_pow_right (by decide) hn
  have hpos : 0 < (2 : ℕ) ^ n := Nat.two_pow_pos n
  have hval : (shl 1 n - 1).toNat = 2 ^ n - 1 := by
    have hone : (1 : Word).toNat = 1 := by decide
    rw [shl_of_lt hn, BitVec.toNat_sub, BitVec.toNat_shiftLeft, hone, Nat.shiftLeft_eq,
      Nat.one_mul, Nat.mod_eq_of_lt hpow]
    omega
  rw [← BitVec.testBit_toNat, hval, Nat.testBit_two_pow_sub_one]

lemma bitsMask_eq_span {lo hi : ℕ} (hlo : lo ≤ hi) (hhi : hi < 31) :
    bitsMask lo hi = BitField.span 32 lo hi := by
  apply BitVec.eq_of_getLsbD_eq
  intro i hi'
  rw [bitsMask, BitVec.getLsbD_xor, getLsbD_shl_one_sub_one (by omega),
    getLsbD_shl_one_sub_one (by omega), BitField.getLsbD_span]
  by_cases h1 : i < lo
  · have h2 : i < hi + 1 := by omega
    have h3 : ¬ lo ≤ i := by omega
    simp [h1, h2, h3]
  · by_cases h2 : i < hi + 1
    · have h3 : lo ≤ i ∧ i ≤ hi := by omega
      simp [h1, h2, h3, hi']
    · have h3 : ¬ i ≤ hi := by omega
      simp [h1, h2, h3]

lemma getBitsValue_eq_get (x : Word) {lo hi : ℕ} (hlo : lo ≤ hi) (hhi : hi < 31) :
    getBitsValue x lo hi = BitField.get x lo hi := by
  rw [getBitsValue, bitsMask_eq_span hlo hhi, shr_of_lt (by omega), BitField.get]

lemma setInstr_eq_set (x v : Word) {lo hi : ℕ} (hlo : lo ≤ hi) (hhi : hi < 31) :
    setInstr x lo hi v = BitField.set x lo hi v := by
  apply BitVec.eq_of_getLsbD_eq
  intro i hi'
  rw [BitField.getLsbD_set, setInstr]
  simp only [bitsMask_eq_span hlo hhi, shl_of_lt (show lo < 32 by omega)]
  rw [BitVec.getLsbD_or, BitVec.getLsbD_and, BitVec.getLsbD_xor, BitField.getLsbD_span,
    BitVec.getLsbD_shiftLeft, BitVec.getLsbD_and, getLsbD_shl_one_sub_one (by omega)]
  have hones : (0xffffffff : Word).getLsbD i = true := by
    rw [show (0xffffffff : Word) = BitVec.allOnes 32 by decide, BitVec.getLsbD_allOnes]
    simp [hi']
  rw [hones]
  by_cases h : lo ≤ i ∧ i ≤ hi ∧ i < 32
  · have h1 : ¬ i < lo := by omega
    have h2 : i - lo < hi - lo + 1 := by omega
    simp [h, h1, h2]
  · rw [if_neg h, decide_eq_false h]
    by_cases h1 : i < lo
    · simp [h1]
    · have h2 : ¬ i - lo < hi - lo + 1 := by omega
      simp [h2]

lemma getLsbD_shl_one {n : ℕ} (hn : n < 32) (i : ℕ) : (shl 1 n).getLsbD i = decide (i = n) := by
  rw [shl_of_lt hn, BitVec.getLsbD_shiftLeft]
  by_cases h : i = n
  · subst h
    simp [hn]
  · rw [decide_eq_false h]
    by_cases hlt : i < n
    · simp [hlt]
    · have : i - n ≠ 0 := by omega
      simp [BitVec.getLsbD_one, this]

/-- A single bit read with `get_bit_value` is the bit. -/
lemma getBitValue_eq (x : Word) {i : ℕ} (hi : i < 32) :
    getBitValue x i = if x.getLsbD i then 1 else 0 := by
  have hiff : x &&& shl 1 i = shl 1 i ↔ x.getLsbD i = true := by
    constructor
    · intro h
      have := congrArg (fun v => v.getLsbD i) h
      have hbit : (shl 1 i).getLsbD i = true := by simp only [getLsbD_shl_one hi, decide_true]
      simpa only [BitVec.getLsbD_and, hbit, Bool.and_true] using this
    · intro h
      apply BitVec.eq_of_getLsbD_eq
      intro j _
      rw [BitVec.getLsbD_and, getLsbD_shl_one hi]
      by_cases hj : j = i
      · subst hj
        simp [h]
      · simp [hj]
  simp only [getBitValue, hiff]

lemma getBitValue_eq_one_iff (x : Word) {i : ℕ} (hi : i < 32) :
    getBitValue x i = 1 ↔ x.getLsbD i = true := by
  rw [getBitValue_eq x hi]
  cases x.getLsbD i <;> simp

lemma getBitValue_eq_zero_iff (x : Word) {i : ℕ} (hi : i < 32) :
    getBitValue x i = 0 ↔ x.getLsbD i = false := by
  rw [getBitValue_eq x hi]
  cases x.getLsbD i <;> simp

end Rit
