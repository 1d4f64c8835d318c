import Mathlib.Algebra.Ring.Nat
import Mathlib.Data.Nat.Bits
import Mathlib.Tactic.Common

/-!
# Bit fields of a machine word

Contiguous fields of a `BitVec w`: the word `span w lo hi` with exactly the bits `lo .. hi`
set, reading a field (`get`), writing one (`set`), and the two agreement relations the
frame arguments are phrased in.  `AgreeOff m x y` says that a computation from `y` to `x`
wrote at most the bits of `m`; `AgreeOn m x y` says that the bits of `m` survived.

Everything is stated through `BitVec.getLsbD`, so a proof about a composition of writes is a
case split on one bit position.
-/

namespace BitField

variable {w : ℕ}

/-! ## Spans -/

/-- The word whose bits `lo .. hi` are one and whose other bits are zero. -/
def span (w lo hi : ℕ) : BitVec w :=
  (BitVec.allOnes w <<< lo) &&& (BitVec.allOnes w >>> (w - 1 - hi))

@[simp] lemma getLsbD_span (lo hi i : ℕ) :
    (span w lo hi).getLsbD i = decide (lo ≤ i ∧ i ≤ hi ∧ i < w) := by
  simp only [span, BitVec.getLsbD_and, BitVec.getLsbD_shiftLeft, BitVec.getLsbD_ushiftRight,
    BitVec.getLsbD_allOnes]
  by_cases hi' : i < w
  · by_cases hlo : lo ≤ i
    · by_cases hhi : i ≤ hi
      · simp [hi', hlo, hhi]
        omega
      · simp [hi', hlo, hhi]
        omega
    · simp [hlo]
  · simp [hi']

/-- The low `n + 1` bits of a word, as a span. -/
lemma toNat_and_span_zero (x : BitVec w) {n : ℕ} (hn : n < w) :
    (x &&& span w 0 n).toNat = x.toNat % 2 ^ (n + 1) := by
  apply Nat.eq_of_testBit_eq
  intro i
  rw [BitVec.testBit_toNat, BitVec.getLsbD_and, getLsbD_span, Nat.testBit_mod_two_pow,
    BitVec.testBit_toNat]
  by_cases h : i < n + 1
  · have : i < w := by omega
    simp [h, this]
    omega
  · simp [h]
    omega

/-! ## Agreement -/

/-- `x` and `y` differ at most on the bits of `m`. -/
def AgreeOff (m x y : BitVec w) : Prop :=
  ∀ i, m.getLsbD i = false → x.getLsbD i = y.getLsbD i

/-- `x` and `y` agree on the bits of `m`. -/
def AgreeOn (m x y : BitVec w) : Prop :=
  ∀ i, m.getLsbD i = true → x.getLsbD i = y.getLsbD i

namespace AgreeOff

variable {m m' x y z : BitVec w}

lemma refl (m x : BitVec w) : AgreeOff m x x := fun _ _ => rfl

lemma trans (h : AgreeOff m x y) (h' : AgreeOff m y z) : AgreeOff m x z :=
  fun i hi => (h i hi).trans (h' i hi)

/-- A larger set of written bits is a weaker statement. -/
lemma mono (h : AgreeOff m x y) (hm : m &&& m' = m) : AgreeOff m' x y := by
  intro i hi
  apply h i
  have := congrArg (fun v => v.getLsbD i) hm
  simpa [BitVec.getLsbD_and, hi] using this.symm

/-- Two successive writes write the union of their bits. -/
lemma comp (h : AgreeOff m x y) (h' : AgreeOff m' y z) : AgreeOff (m ||| m') x z := by
  intro i hi
  rw [BitVec.getLsbD_or, Bool.or_eq_false_iff] at hi
  exact (h i hi.1).trans (h' i hi.2)

lemma agreeOn (h : AgreeOff m x y) (hm : m &&& m' = 0#w) : AgreeOn m' x y := by
  intro i hi
  apply h i
  have := congrArg (fun v => v.getLsbD i) hm
  simpa [BitVec.getLsbD_and, hi] using this

end AgreeOff

namespace AgreeOn

variable {m m' x y z : BitVec w}

lemma refl (m x : BitVec w) : AgreeOn m x x := fun _ _ => rfl

lemma trans (h : AgreeOn m x y) (h' : AgreeOn m y z) : AgreeOn m x z :=
  fun i hi => (h i hi).trans (h' i hi)

lemma mono (h : AgreeOn m x y) (hm : m' &&& m = m') : AgreeOn m' x y := by
  intro i hi
  apply h i
  have := congrArg (fun v => v.getLsbD i) hm
  simpa [BitVec.getLsbD_and, hi] using this

lemma and_eq (h : AgreeOn m x y) : x &&& m = y &&& m := by
  apply BitVec.eq_of_getLsbD_eq
  intro i _
  rw [BitVec.getLsbD_and, BitVec.getLsbD_and]
  cases hm : m.getLsbD i with
  | false => simp
  | true => simp [h i hm]

lemma of_and_eq (h : x &&& m = y &&& m) : AgreeOn m x y := by
  intro i hi
  have := congrArg (fun v => v.getLsbD i) h
  simpa [BitVec.getLsbD_and, hi] using this

end AgreeOn

lemma agreeOff_or (x : BitVec w) {a m : BitVec w} (h : a &&& m = a) : AgreeOff m (x ||| a) x := by
  intro i hi
  have hbit := congrArg (fun v => v.getLsbD i) h
  simp only [BitVec.getLsbD_and, hi, Bool.and_false] at hbit
  rw [BitVec.getLsbD_or, ← hbit, Bool.or_false]

lemma agreeOff_and (x : BitVec w) {b m : BitVec w} (h : ~~~b &&& m = ~~~b) :
    AgreeOff m (x &&& b) x := by
  intro i hi
  have hbit := congrArg (fun v => v.getLsbD i) h
  simp only [BitVec.getLsbD_and, BitVec.getLsbD_not, hi, Bool.and_false] at hbit
  by_cases hlt : i < w
  · simp only [hlt, decide_true, Bool.true_and, Bool.false_eq, Bool.not_eq_false'] at hbit
    rw [BitVec.getLsbD_and, hbit, Bool.and_true]
  · rw [BitVec.getLsbD_of_ge _ i (by omega), BitVec.getLsbD_of_ge _ i (by omega)]

/-! ## Unions of masks -/

/-- The union of a list of masks. -/
def union (ms : List (BitVec w)) : BitVec w := ms.foldr (· ||| ·) 0

lemma getLsbD_union (ms : List (BitVec w)) (i : ℕ) :
    (union ms).getLsbD i = ms.any fun m => m.getLsbD i := by
  induction ms with
  | nil => simp [union]
  | cons m ms ih =>
    rw [List.any_cons, ← ih]
    exact BitVec.getLsbD_or

lemma and_union_of_mem {m : BitVec w} {ms : List (BitVec w)} (h : m ∈ ms) : m &&& union ms = m := by
  apply BitVec.eq_of_getLsbD_eq
  intro i _
  rw [BitVec.getLsbD_and, getLsbD_union]
  cases hm : m.getLsbD i with
  | false => rfl
  | true =>
    have : (ms.any fun m => m.getLsbD i) = true := List.any_eq_true.mpr ⟨m, h, hm⟩
    rw [this, Bool.and_true]

lemma mask_and_or_left (m x : BitVec w) : m &&& (m ||| x) = m := by
  apply BitVec.eq_of_getLsbD_eq
  intro i _
  rw [BitVec.getLsbD_and, BitVec.getLsbD_or]
  cases m.getLsbD i <;> simp

lemma mask_and_or_right (m x : BitVec w) : m &&& (x ||| m) = m := by
  rw [BitVec.or_comm, mask_and_or_left]

lemma or_and_eq_zero {a b x : BitVec w} (ha : a &&& x = 0#w) (hb : b &&& x = 0#w) :
    (a ||| b) &&& x = 0#w := by
  apply BitVec.eq_of_getLsbD_eq
  intro i _
  have h1 := congrArg (fun v => v.getLsbD i) ha
  have h2 := congrArg (fun v => v.getLsbD i) hb
  simp only [BitVec.getLsbD_and, BitVec.getLsbD_zero] at h1 h2
  rw [BitVec.getLsbD_and, BitVec.getLsbD_or, Bool.and_or_distrib_right, h1, h2]
  simp

lemma or_and_eq_zero_iff {a b x : BitVec w} :
    (a ||| b) &&& x = 0#w ↔ a &&& x = 0#w ∧ b &&& x = 0#w := by
  refine ⟨fun h => ⟨?_, ?_⟩, fun h => or_and_eq_zero h.1 h.2⟩
  · rw [← mask_and_or_left a b, BitVec.and_assoc, h, BitVec.and_zero]
  · rw [← mask_and_or_right b a, BitVec.and_assoc, h, BitVec.and_zero]

/-- Words that agree on each of some masks agree on their union. -/
lemma agreeOn_union {x y : BitVec w} {ms : List (BitVec w)} (h : ∀ m ∈ ms, AgreeOn m x y) :
    AgreeOn (union ms) x y := by
  intro i hi
  rw [getLsbD_union, List.any_eq_true] at hi
  obtain ⟨m, hm, hbit⟩ := hi
  exact h m hm i hbit

lemma union_and_eq_zero {x : BitVec w} {ms : List (BitVec w)} (h : ∀ m ∈ ms, m &&& x = 0#w) :
    union ms &&& x = 0#w := by
  induction ms with
  | nil => exact BitVec.zero_and
  | cons m ms ih =>
    exact or_and_eq_zero (h m List.mem_cons_self)
      (ih fun m' hm' => h m' (List.mem_cons_of_mem m hm'))

/-! ## Reading and writing a field -/

/-- The field `lo .. hi` of `x`, moved down to bit zero. -/
def get (x : BitVec w) (lo hi : ℕ) : BitVec w := (x &&& span w lo hi) >>> lo

/-- `x` with the field `lo .. hi` replaced by the low bits of `v`. -/
def set (x : BitVec w) (lo hi : ℕ) (v : BitVec w) : BitVec w :=
  (x &&& ~~~span w lo hi) ||| ((v <<< lo) &&& span w lo hi)

lemma getLsbD_get (x : BitVec w) {lo hi : ℕ} (hlo : lo ≤ hi) (i : ℕ) :
    (get x lo hi).getLsbD i = (decide (i ≤ hi - lo) && x.getLsbD (lo + i)) := by
  rw [get, BitVec.getLsbD_ushiftRight, BitVec.getLsbD_and, getLsbD_span]
  by_cases h : lo + i < w
  · by_cases hi' : i ≤ hi - lo
    · have : lo + i ≤ hi := by omega
      simp [h, hi', this]
    · have : ¬ lo + i ≤ hi := by omega
      simp [hi', this]
  · rw [BitVec.getLsbD_of_ge x _ (by omega)]
    simp

lemma getLsbD_set (x v : BitVec w) (lo hi i : ℕ) :
    (set x lo hi v).getLsbD i =
      if lo ≤ i ∧ i ≤ hi ∧ i < w then v.getLsbD (i - lo) else x.getLsbD i := by
  rw [set, BitVec.getLsbD_or, BitVec.getLsbD_and, BitVec.getLsbD_and, BitVec.getLsbD_not,
    getLsbD_span, BitVec.getLsbD_shiftLeft]
  by_cases h : lo ≤ i ∧ i ≤ hi ∧ i < w
  · rw [if_pos h, decide_eq_true h]
    simp [h]
  · rw [if_neg h, decide_eq_false h]
    by_cases hw : i < w
    · simp [hw]
    · rw [BitVec.getLsbD_of_ge x i (by omega)]
      simp

/-- A write changes nothing outside its field. -/
lemma agreeOff_set (x v : BitVec w) (lo hi : ℕ) : AgreeOff (span w lo hi) (set x lo hi v) x := by
  intro i hi'
  rw [getLsbD_span, decide_eq_false_iff_not] at hi'
  rw [getLsbD_set, if_neg hi']

/-- Reading a field depends only on its bits. -/
lemma get_congr {x y : BitVec w} {lo hi : ℕ} (h : AgreeOn (span w lo hi) x y) :
    get x lo hi = get y lo hi := by
  rw [get, get, h.and_eq]

/-- Words that read the same in a field agree on its bits. -/
lemma agreeOn_of_get_eq {x y : BitVec w} {lo hi : ℕ} (h : get x lo hi = get y lo hi) :
    AgreeOn (span w lo hi) x y := by
  intro i hi'
  rw [getLsbD_span, decide_eq_true_eq] at hi'
  obtain ⟨hlo, hhi, hw⟩ := hi'
  have hbit := congrArg (fun v => v.getLsbD (i - lo)) h
  simp only [getLsbD_get _ (Nat.le_trans hlo hhi)] at hbit
  have hle : i - lo ≤ hi - lo := by omega
  have hpos : lo + (i - lo) = i := by omega
  simpa [hle, hpos] using hbit

/-- Reading back a written field gives the value modulo the field's width. -/
lemma get_set_same (x v : BitVec w) {lo hi : ℕ} (hlo : lo ≤ hi) (hhi : hi < w) :
    get (set x lo hi v) lo hi = v &&& span w 0 (hi - lo) := by
  apply BitVec.eq_of_getLsbD_eq
  intro i hi'
  rw [getLsbD_get _ hlo, getLsbD_set, BitVec.getLsbD_and, getLsbD_span]
  by_cases h : i ≤ hi - lo
  · have : lo ≤ lo + i ∧ lo + i ≤ hi ∧ lo + i < w := by omega
    simp [h, this, hi']
  · simp [h]

/-- A write to a disjoint field does not disturb a read. -/
lemma get_set_of_disjoint (x v : BitVec w) {lo hi lo' hi' : ℕ} (h : hi < lo' ∨ hi' < lo) :
    get (set x lo' hi' v) lo hi = get x lo hi := by
  apply get_congr
  intro i hi
  rw [getLsbD_span, decide_eq_true_eq] at hi
  rw [getLsbD_set, if_neg (by omega)]

lemma toNat_get_lt (x : BitVec w) {lo hi : ℕ} (hlo : lo ≤ hi) :
    (get x lo hi).toNat < 2 ^ (hi - lo + 1) := by
  apply Nat.lt_pow_two_of_testBit
  intro i hi'
  rw [BitVec.testBit_toNat, getLsbD_get _ hlo]
  have : ¬ i ≤ hi - lo := by omega
  simp [this]

/-- A value that fits in a field is its own truncation. -/
lemma and_span_of_lt {v : BitVec w} {n : ℕ} (hn : n < w) (h : v.toNat < 2 ^ (n + 1)) :
    v &&& span w 0 n = v := by
  apply BitVec.eq_of_toNat_eq
  rw [toNat_and_span_zero _ hn, Nat.mod_eq_of_lt h]

/-- A field is all ones exactly when the masked word is the mask. -/
lemma and_span_eq_span_iff (x : BitVec w) {lo hi : ℕ} (hlo : lo ≤ hi) (hhi : hi < w) :
    x &&& span w lo hi = span w lo hi ↔ get x lo hi = span w 0 (hi - lo) := by
  constructor
  · intro h
    apply BitVec.eq_of_getLsbD_eq
    intro i hi'
    have hb := congrArg (fun v => v.getLsbD (lo + i)) h
    rw [getLsbD_get _ hlo, getLsbD_span]
    simp only [BitVec.getLsbD_and, getLsbD_span] at hb
    by_cases hle : i ≤ hi - lo
    · have : lo ≤ lo + i ∧ lo + i ≤ hi ∧ lo + i < w := by omega
      simpa [this, hle, hi'] using hb
    · simp [hle]
  · intro h
    apply BitVec.eq_of_getLsbD_eq
    intro i hi'
    have hb := congrArg (fun v => v.getLsbD (i - lo)) h
    simp only [getLsbD_get _ hlo, getLsbD_span] at hb
    rw [BitVec.getLsbD_and, getLsbD_span]
    by_cases hin : lo ≤ i ∧ i ≤ hi ∧ i < w
    · have h1 : i - lo ≤ hi - lo ∧ i - lo < w := by omega
      have h2 : lo + (i - lo) = i := by omega
      rw [h2] at hb
      simpa [hin, h1] using hb
    · simp [hin]

end BitField
