import Rit.Properties.Helper
import Rit.Properties.Route

/-!
# The limit on memory offsets

In memory-fix mode a register-offset access is preceded by a load of its offset register.  The
accesses that take no shift load `rand() & mem_offset_val`, which respects the user's limit.  Those
that shift the offset (the word and byte accesses of ARM, and all of 32-bit Thumb) take what
`get_rand_mem_offset` returns, and that function knows only its own bound of twelve bits.

The value it stores is the draw under a mask, and shifting keeps the order of sets of bits, so the
largest effective offset comes from the largest draw, `0x7fffffff`.  The limit is respected for all
draws iff it is for this one.
-/

namespace Rit

open BitField GenState

/-! ## Sets of bits -/

/-- Every bit of `x` is one of `y`. -/
def BitsIn (x y : Word) : Prop := ∀ i < 32, x.getLsbD i = true → y.getLsbD i = true

lemma BitsIn.and_eq {x y : Word} (h : BitsIn x y) : x &&& y = x := by
  apply BitVec.eq_of_getLsbD_eq
  intro i hi
  rw [BitVec.getLsbD_and]
  cases hx : x.getLsbD i with
  | false => rfl
  | true => rw [h i hi hx]; rfl

lemma BitsIn.le {x y : Word} (h : BitsIn x y) : x ≤ y := by
  rw [BitVec.le_def, ← h.and_eq, BitVec.toNat_and]
  exact Nat.and_le_right

lemma bitsIn_and_right (x m : Word) : BitsIn (x &&& m) m := by
  intro i _ h
  rw [BitVec.getLsbD_and, Bool.and_eq_true] at h
  exact h.2

/-- A draw has no bit that the largest draw has not. -/
lemma bitsIn_maxDraw (r : BitVec 31) : BitsIn (r.setWidth 32) 0x7fffffff := by
  intro i hi h
  have hmax : (0x7fffffff : Word) = (BitVec.allOnes 31).setWidth 32 := by decide
  rw [BitVec.getLsbD_setWidth, Bool.and_eq_true] at h
  rw [hmax, BitVec.getLsbD_setWidth, BitVec.getLsbD_allOnes]
  simp [hi, BitVec.lt_of_getLsbD h.2]

lemma BitsIn.and {x y : Word} (h : BitsIn x y) (m : Word) : BitsIn (x &&& m) (y &&& m) := by
  intro i hi hx
  rw [BitVec.getLsbD_and, Bool.and_eq_true] at hx ⊢
  exact ⟨h i hi hx.1, hx.2⟩

/-- Shifting keeps inclusion; an arithmetic shift does so for numbers that are not negative. -/
lemma BitsIn.shiftImm {x y : Word} (h : BitsIn x y) (hy : y.msb = false) (type : BitVec 2)
    (amount : BitVec 5) (carry : Bool) :
    BitsIn (Arm.shiftImm type amount x carry) (Arm.shiftImm type amount y carry) := by
  have hx : x.msb = false := by
    rw [BitVec.msb_eq_getLsbD_last] at hy ⊢
    by_contra hne
    exact absurd (h 31 (by decide) (by simpa using hne)) (by simpa using hy)
  have hright (k : ℕ) : BitsIn (x >>> k) (y >>> k) := by
    intro i hi hbit
    rw [BitVec.getLsbD_ushiftRight] at hbit ⊢
    exact h _ (BitVec.lt_of_getLsbD hbit) hbit
  unfold Arm.shiftImm
  split
  · intro i hi hbit
    rw [BitVec.getLsbD_shiftLeft, Bool.and_eq_true] at hbit ⊢
    exact ⟨hbit.1, h _ (BitVec.lt_of_getLsbD hbit.2) hbit.2⟩
  · exact hright _
  · rw [BitVec.sshiftRight_eq_of_msb_false hx, BitVec.sshiftRight_eq_of_msb_false hy]
    exact hright _
  · split
    · intro i hi hbit
      rw [BitVec.getLsbD_or, Bool.or_eq_true] at hbit ⊢
      exact hbit.imp_left (hright 1 i hi)
    · intro i hi hbit
      rw [Arm.getLsbD_rotateRight _ _ hi] at hbit ⊢
      exact h _ (Nat.mod_lt _ (by decide)) hbit

/-! ## The largest offset -/

/-- The amount the callers pass to `get_rand_mem_offset` for an encoded shift: the field 0 of a
right shift means 32. -/
def passedAmount (type : BitVec 2) (amount : BitVec 5) : Word :=
  if (type = 1 ∨ type = 2) ∧ amount = 0 then 32 else amount.setWidth 32

/-- The largest offset after an encoded shift: the bits below position 12 of the shifted largest
draw.  RRX puts the carry on top. -/
def largestOffset (type : BitVec 2) (amount : BitVec 5) (carry : Bool) : Word :=
  (Arm.shiftImm type amount 0x7fffffff false &&& 0xfff) |||
    if type = 3 ∧ amount = 0 ∧ carry then 0x80000000 else 0

section

variable (type : BitVec 2) (amount : BitVec 5)

/-- The value stored by `get_rand_mem_offset` is the draw under a mask. -/
lemma exists_mask_randMemOffset : ∃ m : Word, ∀ junk r : Word,
    (randMemOffset junk (type.setWidth 32) (passedAmount type amount) r).1 = r &&& m := by
  have htype : type.setWidth 32 = 0 ∨ type.setWidth 32 = 1 ∨ type.setWidth 32 = 2 ∨
      type.setWidth 32 = (3 : Word) := by
    revert type
    decide
  generalize passedAmount type amount = n
  rcases htype with h | h | h | h <;> rw [h]
  · exact ⟨_, fun junk r => rfl⟩
  · exact ⟨_, fun junk r => rfl⟩
  · exact ⟨_, fun junk r => rfl⟩
  · by_cases hn : n.toNat = 0
    · refine ⟨shr 0xffffffff 19, fun junk r => ?_⟩
      simp [randMemOffset, hn]
    · refine ⟨shl 0xfff n.toNat ||| shr 0xfff (32 - n).toNat, fun junk r => ?_⟩
      simp [randMemOffset, hn]

lemma shiftImm_maxDraw (carry : Bool) :
    Arm.shiftImm type amount
        (randMemOffset 0 (type.setWidth 32) (passedAmount type amount) 0x7fffffff).1 carry =
      largestOffset type amount carry := by
  revert type amount carry
  decide +kernel

variable {type amount}

/-- No draw leads to a larger offset than the largest draw, which leads to `largestOffset`. -/
lemma shiftImm_randMemOffset_le (junk : Word) (r : BitVec 31) (carry : Bool) :
    Arm.shiftImm type amount
        (randMemOffset junk (type.setWidth 32) (passedAmount type amount) (r.setWidth 32)).1
        carry ≤ largestOffset type amount carry := by
  obtain ⟨m, hm⟩ := exists_mask_randMemOffset type amount
  rw [← shiftImm_maxDraw, hm, hm]
  refine (((bitsIn_maxDraw r).and m).shiftImm ?_ _ _ _).le
  rw [BitVec.msb_and]
  rfl

lemma shiftImm_randMemOffset_maxDraw (junk : Word) (carry : Bool) :
    Arm.shiftImm type amount
        (randMemOffset junk (type.setWidth 32) (passedAmount type amount) 0x7fffffff).1 carry =
      largestOffset type amount carry := by
  obtain ⟨m, hm⟩ := exists_mask_randMemOffset type amount
  rw [← shiftImm_maxDraw, hm, hm]

end

/-! ## The load of the offset register -/

/-- The constant a line loads into the offset register. -/
def Line.loads? : Line → Option Word
  | .inst (.ldr _ val) => some val
  | .inst (.ldrW _ val) => some val
  | _ => none

/-- The offset the emitted lines load: they end with this load and the word itself. -/
def offsetLoad (ls : List Line) : Option Word := ls.dropLast.getLast?.bind Line.loads?

/-- What a generator emits for its offset register: if `emit` holds, lines that end with a load of
`val`, otherwise nothing.  The word stays as it is. -/
structure Emission (emit : Prop) (val : Word) (s s' : GenState) : Prop where
  raw : s'.rawInstr = s.rawInstr
  load : emit → ∃ pre l, s'.instrBuf = s.instrBuf ++ pre ++ [l] ∧ l.loads? = some val
  silent : ¬emit → s'.instrBuf = s.instrBuf

lemma Emission.offsetLoad_iff {emit : Prop} {val : Word} {s s' : GenState}
    (h : Emission emit val s s') (hbuf : s.instrBuf = []) (l : Line) (v : Word) :
    offsetLoad (s'.insertInstrs [l]).instrBuf = some v ↔ emit ∧ v = val := by
  rw [insertInstrs, offsetLoad, List.dropLast_concat]
  by_cases hemit : emit
  · obtain ⟨pre, l', hlines, hl'⟩ := h.load hemit
    rw [hlines, List.getLast?_concat, Option.bind_some, hl', Option.some_inj]
    exact ⟨fun hv => ⟨hemit, hv.symm⟩, fun hv => hv.2.symm⟩
  · rw [h.silent hemit, hbuf]
    exact ⟨fun hv => absurd hv (by simp), fun hv => absurd hv.1 hemit⟩

/-- The flag of the load and store generators plays no part. -/
lemma Emission.setOprandInit {emit : Prop} {val : Word} {s : GenState}
    {r : InstrStatus × GenState} (h : Emission emit val s r.2) :
    Emission emit val s (Rit.setOprandInit r).2 := ⟨h.raw, h.load, h.silent⟩

/-- The state with another stream of draws. -/
def GenState.withDraws (s : GenState) (draws : ℕ → BitVec 31) : GenState :=
  { s with randStream := draws }

/-- For every stream of draws, the generator emits the load of `val` at the first draw. -/
def Loads (s : GenState) (emit : Prop) (val : Word → Word) (gen : GenState → GenState) : Prop :=
  ∀ draws, Emission emit (val ((draws 0).setWidth 32)) (s.withDraws draws) (gen (s.withDraws draws))

/-- `get_rand_mem_offset` draws once and leaves the word and the lines alone. -/
lemma getRandMemOffset_frame (shiftT shiftN : Word) (s : GenState) :
    (getRandMemOffset shiftT shiftN s).1 = randMemOffset (s.uninit 0) shiftT shiftN s.nextRand ∧
      (getRandMemOffset shiftT shiftN s).2.rawInstr = s.rawInstr ∧
      (getRandMemOffset shiftT shiftN s).2.instrBuf = s.instrBuf := by
  unfold getRandMemOffset
  dsimp only
  split <;> exact ⟨rfl, rfl, rfl⟩

/-- The constant of a register-offset access of ARM in memory-fix mode, from the draw. -/
def fixOffsetVal (shifted dual : Bool) (shiftT shiftN junk limit draw : Word) : Word :=
  if shifted then (randMemOffset junk shiftT shiftN draw).1
  else if dual then draw &&& (limit &&& ~~~3)
  else draw &&& limit

lemma fixOffset_frame (shifted dual : Bool) (shiftT shiftN : Word) (s : GenState) :
    (fixOffset shifted dual shiftT shiftN s).1 =
        fixOffsetVal shifted dual shiftT shiftN (s.uninit 0) s.options.memOffsetVal s.nextRand ∧
      (fixOffset shifted dual shiftT shiftN s).2.rawInstr = s.rawInstr ∧
      (fixOffset shifted dual shiftT shiftN s).2.instrBuf = s.instrBuf := by
  obtain ⟨hval, hraw, hbuf⟩ := getRandMemOffset_frame shiftT shiftN s
  unfold fixOffset fixOffsetVal
  split
  · exact ⟨congrArg Prod.fst hval, hraw, hbuf⟩
  · split <;> exact ⟨rfl, rfl, rfl⟩

section Loads

variable {s : GenState} (hfix : s.optStat .notAllowFixMem = false)

include hfix

lemma regTail_loads (n m shiftT shiftN : Word) (shifted dual half word : Bool)
    (status : InstrStatus) :
    Loads s (status ≠ .unsupported)
      (fixOffsetVal shifted dual shiftT shiftN (s.uninit 0) s.options.memOffsetVal)
      (fun s => (regTail n m shiftT shiftN shifted dual half word status s).2) := by
  intro draws
  have hfix' : (s.withDraws draws).optStat .notAllowFixMem = false := hfix
  dsimp only
  unfold regTail
  by_cases hst : status = .unsupported
  · rw [if_pos hst]
    exact ⟨rfl, fun h => absurd hst h, fun _ => rfl⟩
  · obtain ⟨hval, hraw, hbuf⟩ :=
      fixOffset_frame shifted dual shiftT shiftN (fixMemBase n dual (s.withDraws draws))
    simp only [if_neg hst, hfix', Bool.false_eq_true, not_false_eq_true, if_true]
    generalize fixOffset shifted dual shiftT shiftN (fixMemBase n dual (s.withDraws draws)) = res
      at hval hraw hbuf ⊢
    refine ⟨hraw, fun _ => ⟨fixMemBaseLines s.options n dual, .inst (.ldr m res.1), ?_, ?_⟩,
      fun h => absurd hst h⟩
    · rw [insertInstrs, hbuf]
      rfl
    · exact congrArg some hval

lemma thumbMemReg_loads (n m : Word) (word half : Bool) :
    Loads s (m ≠ n) (· &&& s.options.memOffsetVal) (fun s => (thumbMemReg n m word half s).2) := by
  intro draws
  have hfix' : (s.withDraws draws).optStat .notAllowFixMem = false := hfix
  dsimp only
  unfold thumbMemReg
  by_cases hmn : m = n
  · rw [if_pos hmn]
    exact ⟨rfl, fun h => absurd hmn h, fun _ => rfl⟩
  · simp only [if_neg hmn, hfix', Bool.false_eq_true, not_false_eq_true, if_true]
    exact ⟨rfl, fun _ => ⟨fixMemBaseLines s.options n false, _, rfl, rfl⟩, fun h => absurd hmn h⟩

/-- The register-offset accesses of 32-bit Thumb, which emit their lines in any case. -/
lemma genThumb32MemReg_loads (op : Opcode) :
    Loads s True (fun r => (randMemOffset (s.uninit 0) 0 (getBitsValue s.rawInstr 4 5) r).1)
      (fun s => (genThumb32MemReg op s).2) := by
  intro draws
  have hfix' : (s.withDraws draws).optStat .notAllowFixMem = false := hfix
  let base := fixMemBase (getBitsValue s.rawInstr 16 19) false (s.withDraws draws)
  obtain ⟨hval, hraw, hbuf⟩ := getRandMemOffset_frame 0 (getBitsValue s.rawInstr 4 5) base
  have hgen : (genThumb32MemReg op (s.withDraws draws)).2 =
      (getRandMemOffset 0 (getBitsValue s.rawInstr 4 5) base).2.insertInstrs
        [.inst (.ldrW (getBitsValue s.rawInstr 0 3)
          (getRandMemOffset 0 (getBitsValue s.rawInstr 4 5) base).1.1)] := by
    unfold genThumb32MemReg thumb32Base
    simp only [hfix', Bool.false_eq_true, not_false_eq_true, if_true]
    rfl
  dsimp only
  rw [hgen]
  generalize getRandMemOffset 0 (getBitsValue s.rawInstr 4 5) base = res at hval hraw hbuf ⊢
  refine ⟨hraw, fun _ => ⟨fixMemBaseLines s.options (getBitsValue s.rawInstr 16 19) false,
    .inst (.ldrW (getBitsValue s.rawInstr 0 3) res.1.1), ?_, ?_⟩, fun h => absurd trivial h⟩
  · rw [insertInstrs, hbuf]
    rfl
  · exact congrArg (fun res : Word × Word => some res.1) hval

end Loads

/-! ## The generators -/

/-- The accesses whose offset register is shifted, in ARM. -/
def armShiftedOps : List Opcode :=
  [Op.LDR_reg, Op.LDRB_reg, Op.LDRT_a2, Op.LDRBT_a2, Op.STR_reg, Op.STRB_reg, Op.STRT_a2,
    Op.STRBT_a2]

/-- The accesses whose offset register is shifted. -/
def shiftedOffsetOps : List Opcode := armShiftedOps ++ thumb32MemRegOps

/-- The register-offset loads and stores of the three instruction sets. -/
def regOffsetOps : List Opcode :=
  ldRegOps ++ ldtA2Ops ++ stRegOps ++ sttA2Ops ++ thumbLdRegOps ++ thumbStRegOps ++
    thumb32MemRegOps

/-- The type and amount of the shift as the architecture reads them from the word. -/
def offsetShift (op : Opcode) (w : Word) : BitVec 2 × BitVec 5 :=
  if op ∈ armShiftedOps then (w.extractLsb' 5 2, w.extractLsb' 7 5)
  else if op ∈ thumb32MemRegOps then (0, (w.extractLsb' 4 2).setWidth 5)
  else (0, 0)

/-- The offset an access applies when its offset register holds `v`. -/
def effectiveOffset (op : Opcode) (w : Word) (carry : Bool) (v : Word) : Word :=
  Arm.shiftImm (offsetShift op w).1 (offsetShift op w).2 v carry

/-- A field of the word, as a number and as the architecture's bit string. -/
lemma getBitsValue_eq_extractLsb (w : Word) {lo hi : ℕ} (hlo : lo ≤ hi) (hhi : hi < 31) :
    getBitsValue w lo hi = (w.extractLsb' lo (hi - lo + 1)).setWidth 32 := by
  rw [getBitsValue_eq_get _ hlo hhi]
  apply BitVec.eq_of_getLsbD_eq
  intro i hi'
  have hle : i ≤ hi - lo ↔ i < hi - lo + 1 := by omega
  rw [getLsbD_get _ hlo, BitVec.getLsbD_setWidth, BitVec.getLsbD_extractLsb']
  simp only [hle, hi', decide_true, Bool.true_and]

/-- The shift operand of the ARM accesses, decoded. -/
lemma decodeShift_eq (w : Word) :
    decodeShift true w ⟨7, 11, 5, 6, .shiftImm⟩ =
      (passedAmount (w.extractLsb' 5 2) (w.extractLsb' 7 5), (w.extractLsb' 5 2).setWidth 32) := by
  have hone (t : BitVec 2) : t.setWidth 32 = (1 : Word) ↔ t = 1 := by revert t; decide
  have htwo (t : BitVec 2) : t.setWidth 32 = (2 : Word) ↔ t = 2 := by revert t; decide
  have hzero (n : BitVec 5) : n.setWidth 32 = (0 : Word) ↔ n = 0 := by revert n; decide
  have htype := getBitsValue_eq_extractLsb w (show 5 ≤ 6 by decide) (by decide)
  have hamount := getBitsValue_eq_extractLsb w (show 7 ≤ 11 by decide) (by decide)
  simp only [decodeShift, if_true, htype, hamount]
  simp only [Nat.reduceSub, Nat.reduceAdd, hone, htwo, hzero, passedAmount]

/-- The amount of the shifts to the left of 32-bit Thumb. -/
lemma leftAmount_eq (w : Word) :
    getBitsValue w 4 5 = passedAmount 0 ((w.extractLsb' 4 2).setWidth 5) := by
  rw [getBitsValue_eq_extractLsb _ (by decide) (by decide)]
  generalize w.extractLsb' 4 (5 - 4 + 1) = amount
  revert amount
  decide

section Generators

variable {op : Opcode} {s : GenState}

/-- What is known of the offset a generator loads, for every stream of draws. -/
structure OffsetSource (op : Opcode) (s : GenState) (emit : Prop) (val : Word → Word) : Prop where
  loads : ∀ draws, ∃ s' l, (validate op (s.withDraws draws)).2 = s'.insertInstrs [l] ∧
    Emission emit (val ((draws 0).setWidth 32)) s s'
  shifted : op ∈ shiftedOffsetOps → val = fun r =>
    (randMemOffset (s.uninit 0) ((offsetShift op s.rawInstr).1.setWidth 32)
      (passedAmount (offsetShift op s.rawInstr).1 (offsetShift op s.rawInstr).2) r).1
  plain : op ∉ shiftedOffsetOps → ∀ r, BitsIn (val r) s.options.memOffsetVal

lemma bitsIn_and_left (x m : Word) : BitsIn (x &&& m) x := by
  rw [BitVec.and_comm]
  exact bitsIn_and_right m x

lemma BitsIn.trans {x y z : Word} (h : BitsIn x y) (h' : BitsIn y z) : BitsIn x z :=
  fun i hi hx => h' i hi (h i hi hx)

/-- A register-offset access of ARM, from what its generator emits. -/
lemma offsetSource_arm (harm : op < SISA_OP_ARM_MAX) (emit : Prop) (shifted dual : Bool) (o : Opnd)
    (hsh : shifted = decide (op ∈ armShiftedOps))
    (ho : shifted = true → o = ⟨7, 11, 5, 6, .shiftImm⟩)
    (hloads : Loads s emit (fixOffsetVal shifted dual (decodeShift shifted s.rawInstr o).2
      (decodeShift shifted s.rawInstr o).1 (s.uninit 0) s.options.memOffsetVal)
      fun s => (genArmInstr op s).2) : ∃ emit val, OffsetSource op s emit val := by
  have hthumb : op ∉ thumb32MemRegOps := by
    intro h
    have hge : ∀ op ∈ thumb32MemRegOps, ¬ op < SISA_OP_ARM_MAX := by decide
    exact hge op h harm
  have hiff : op ∈ shiftedOffsetOps ↔ shifted = true := by
    rw [hsh, decide_eq_true_iff, shiftedOffsetOps, List.mem_append]
    exact ⟨fun h => h.resolve_right hthumb, .inl⟩
  refine ⟨emit, fixOffsetVal shifted dual (decodeShift shifted s.rawInstr o).2
    (decodeShift shifted s.rawInstr o).1 (s.uninit 0) s.options.memOffsetVal,
    ⟨fun draws => ?_, fun hshift => ?_, fun hplain r => ?_⟩⟩
  · refine ⟨(genArmInstr op (s.withDraws draws)).2,
      .inst (.inst (genArmInstr op (s.withDraws draws)).2.rawInstr), ?_,
      ⟨(hloads draws).raw, (hloads draws).load, (hloads draws).silent⟩⟩
    rw [validate, if_pos harm]
  · have htrue := hiff.mp hshift
    have hmem : op ∈ armShiftedOps := by
      rw [htrue] at hsh
      exact of_decide_eq_true hsh.symm
    funext r
    rw [fixOffsetVal, if_pos htrue, ho htrue, htrue, decodeShift_eq, offsetShift, if_pos hmem]
  · rw [fixOffsetVal, if_neg fun h => hplain (hiff.mpr h)]
    split
    · exact (bitsIn_and_right _ _).trans (bitsIn_and_left _ _)
    · exact bitsIn_and_right _ _

/-- Where the shift of an offset stands. -/
lemma shiftSlots :
    (∀ op ∈ ldRegOps ++ ldtA2Ops, op ∈ armShiftedOps →
      (glbInstrTlb op).input2 = ⟨7, 11, 5, 6, .shiftImm⟩) ∧
    ∀ op ∈ stRegOps ++ sttA2Ops, op ∈ armShiftedOps →
      (glbInstrTlb op).input3 = ⟨7, 11, 5, 6, .shiftImm⟩ := by
  decide +kernel

variable (hfix : s.optStat .notAllowFixMem = false)

include hfix

lemma offsetSource_ldReg (hop : op ∈ ldRegOps) : ∃ emit val, OffsetSource op s emit val := by
  have hrow : ∀ op ∈ ldRegOps, op < SISA_OP_ARM_MAX ∧
      decide (op ∈ [Op.LDR_reg, Op.LDRB_reg]) = decide (op ∈ armShiftedOps) := by decide
  obtain ⟨harm, hsh⟩ := hrow op hop
  refine offsetSource_arm harm (ldRegStatus op s.options s.rawInstr ≠ .unsupported) _
    (decide (op = Op.LDRD_reg)) _ hsh (fun h => shiftSlots.1 op (by simp [hop])
      (of_decide_eq_true (hsh ▸ h))) fun draws => ?_
  dsimp only
  rw [genArmInstr_ldReg _ hop]
  exact (regTail_loads hfix _ _ _ _ _ _ _ _ _ draws).setOprandInit

lemma offsetSource_ldtA2 (hop : op ∈ ldtA2Ops) : ∃ emit val, OffsetSource op s emit val := by
  have hrow : ∀ op ∈ ldtA2Ops, op < SISA_OP_ARM_MAX ∧
      decide (op ∈ [Op.LDRT_a2, Op.LDRBT_a2]) = decide (op ∈ armShiftedOps) := by decide
  obtain ⟨harm, hsh⟩ := hrow op hop
  refine offsetSource_arm harm (ldtA2Status op s.rawInstr ≠ .unsupported) _
    false _ hsh (fun h => shiftSlots.1 op (by simp [hop])
      (of_decide_eq_true (hsh ▸ h))) fun draws => ?_
  dsimp only
  rw [genArmInstr_ldtA2 _ hop]
  exact (regTail_loads hfix _ _ _ _ _ _ _ _ _ draws).setOprandInit

lemma offsetSource_stReg (hop : op ∈ stRegOps) : ∃ emit val, OffsetSource op s emit val := by
  have hrow : ∀ op ∈ stRegOps, op < SISA_OP_ARM_MAX ∧
      decide (op ∈ [Op.STR_reg, Op.STRB_reg]) = decide (op ∈ armShiftedOps) := by decide
  obtain ⟨harm, hsh⟩ := hrow op hop
  refine offsetSource_arm harm (stRegStatus op s.options s.rawInstr ≠ .unsupported) _
    (decide (op = Op.STRD_reg)) _ hsh (fun h => shiftSlots.2 op (by simp [hop])
      (of_decide_eq_true (hsh ▸ h))) fun draws => ?_
  dsimp only
  rw [genArmInstr_stReg _ hop]
  exact (regTail_loads hfix _ _ _ _ _ _ _ _ _ draws).setOprandInit

lemma offsetSource_sttA2 (hop : op ∈ sttA2Ops) : ∃ emit val, OffsetSource op s emit val := by
  have hrow : ∀ op ∈ sttA2Ops, op < SISA_OP_ARM_MAX ∧
      decide (op ∈ [Op.STRT_a2, Op.STRBT_a2]) = decide (op ∈ armShiftedOps) := by decide
  obtain ⟨harm, hsh⟩ := hrow op hop
  refine offsetSource_arm harm (sttA2Status op s.rawInstr ≠ .unsupported) _
    false _ hsh (fun h => shiftSlots.2 op (by simp [hop])
      (of_decide_eq_true (hsh ▸ h))) fun draws => ?_
  dsimp only
  rw [genArmInstr_sttA2 _ hop]
  exact (regTail_loads hfix _ _ _ _ _ _ _ _ _ draws).setOprandInit

lemma offsetSource_thumb (hop : op ∈ thumbLdRegOps ++ thumbStRegOps) :
    ∃ emit val, OffsetSource op s emit val := by
  have hrow : ∀ op ∈ thumbLdRegOps ++ thumbStRegOps, ¬ op < SISA_OP_ARM_MAX ∧
      op < SISA_OP_THUMB_MAX ∧ op ∉ shiftedOffsetOps ∧ op ∉ thumbLdImmOps ∧ op ∉ thumbStImmOps := by
    decide
  obtain ⟨harm, hthumb, hplain, hldImm, hstImm⟩ := hrow op hop
  let s₁ : GenState := { s with options := { s.options with isa := .thumb } }
  have hfix₁ : s₁.optStat .notAllowFixMem = false := hfix
  have hgen (t : GenState) : genThumbInstr op t = genThumbMemInstr op t := by
    refine genThumbInstr_mem t ?_
    rcases List.mem_append.mp hop with h | h <;> simp [h]
  -- loads and stores differ in the operands that name the two registers
  obtain ⟨emit, hloads⟩ : ∃ emit, Loads s₁ emit (· &&& s.options.memOffsetVal)
      fun s => (genThumbInstr op s).2 := by
    by_cases hld : op ∈ thumbLdRegOps
    · refine ⟨getRegnum s.rawInstr (glbInstrTlb op).input1 ≠
        getRegnum s.rawInstr (glbInstrTlb op).input0, fun draws => ?_⟩
      dsimp only
      rw [hgen, genThumbMemInstr, if_neg hldImm, if_neg hstImm, if_pos hld]
      exact (thumbMemReg_loads hfix₁ _ _ _ _ draws).setOprandInit
    · have hst : op ∈ thumbStRegOps := (List.mem_append.mp hop).resolve_left hld
      refine ⟨getRegnum s.rawInstr (glbInstrTlb op).input2 ≠
        getRegnum s.rawInstr (glbInstrTlb op).input1, fun draws => ?_⟩
      dsimp only
      rw [hgen, genThumbMemInstr, if_neg hldImm, if_neg hstImm, if_neg hld, if_pos hst]
      exact (thumbMemReg_loads hfix₁ _ _ _ _ draws).setOprandInit
  refine ⟨emit, (· &&& s.options.memOffsetVal), ⟨fun draws => ?_,
    fun hshift => absurd hshift hplain,
    fun _ r => bitsIn_and_right _ _⟩⟩
  refine ⟨(genThumbInstr op (s₁.withDraws draws)).2,
    .inst (.instN ((genThumbInstr op (s₁.withDraws draws)).2.rawInstr &&& 0xffff)), ?_,
    ⟨(hloads draws).raw, (hloads draws).load, (hloads draws).silent⟩⟩
  rw [validate, if_neg harm, if_pos hthumb]
  rfl

lemma offsetSource_thumb32 (hop : op ∈ thumb32MemRegOps) :
    ∃ emit val, OffsetSource op s emit val := by
  have hrow : ∀ op ∈ thumb32MemRegOps, ¬ op < SISA_OP_ARM_MAX ∧ ¬ op < SISA_OP_THUMB_MAX ∧
      op < SISA_OP_THUMB_32_MAX ∧ op ∉ thumb32MultiMemOps ∧ op ∉ thumb32LdImmOps ∧
      op ∉ armShiftedOps := by decide
  obtain ⟨harm, hthumb, hthumb32, hmulti, himm, hshift⟩ := hrow op hop
  let s₁ : GenState := { s with options := { s.options with isa := .thumb } }
  have hfix₁ : s₁.optStat .notAllowFixMem = false := hfix
  refine ⟨True, fun r => (randMemOffset (s.uninit 0) 0 (getBitsValue s.rawInstr 4 5) r).1,
    ⟨fun draws => ?_, fun _ => ?_, fun hplain => ?_⟩⟩
  · have hload := genThumb32MemReg_loads hfix₁ op draws
    refine ⟨(genThumb32MemReg op (s₁.withDraws draws)).2,
      .inst (.instW (genThumb32MemReg op (s₁.withDraws draws)).2.rawInstr), ?_,
      ⟨hload.raw, hload.load, hload.silent⟩⟩
    rw [validate, if_neg harm, if_neg hthumb, if_pos hthumb32, genThumb32Instr, if_neg hmulti,
      if_neg himm, if_pos hop]
    rfl
  · rw [offsetShift, if_neg hshift, if_pos hop, leftAmount_eq]
    rfl
  · exact absurd (List.mem_append_right _ hop) hplain

lemma exists_offsetSource (hop : op ∈ regOffsetOps) : ∃ emit val, OffsetSource op s emit val := by
  simp only [regOffsetOps, List.mem_append] at hop
  rcases hop with (((((h | h) | h) | h) | h) | h) | h
  · exact offsetSource_ldReg hfix h
  · exact offsetSource_ldtA2 hfix h
  · exact offsetSource_stReg hfix h
  · exact offsetSource_sttA2 hfix h
  · exact offsetSource_thumb hfix (List.mem_append_left _ h)
  · exact offsetSource_thumb hfix (List.mem_append_right _ h)
  · exact offsetSource_thumb32 hfix h

end Generators

/-- The user's limit on offsets in memory-fix mode.  Where a generator emits the load of an offset
register, the effective offset is at most `mem_offset_val` for every stream of draws iff the access
takes no shift or the limit is not below the largest offset its shift can give. -/
theorem effectiveOffset_le_limit_iff {op : Opcode} (hop : op ∈ regOffsetOps) {s : GenState}
    (hbuf : s.instrBuf = []) (hfix : s.optStat .notAllowFixMem = false)
    (hload : (offsetLoad (validate op s).2.instrBuf).isSome = true) (carry : Bool) :
    (∀ draws v, offsetLoad (validate op (s.withDraws draws)).2.instrBuf = some v →
        effectiveOffset op (validate op (s.withDraws draws)).2.rawInstr carry v ≤
          s.options.memOffsetVal) ↔
      op ∉ shiftedOffsetOps ∨
        largestOffset (offsetShift op s.rawInstr).1 (offsetShift op s.rawInstr).2 carry ≤
          s.options.memOffsetVal := by
  obtain ⟨emit, val, hloads, hshifted, hplain⟩ := exists_offsetSource hfix hop
  have hraw (draws : ℕ → BitVec 31) : (validate op (s.withDraws draws)).2.rawInstr =
      s.rawInstr := by
    obtain ⟨s', l, hval, hemission⟩ := hloads draws
    rw [hval]
    exact hemission.raw
  have hiff (draws : ℕ → BitVec 31) (v : Word) :
      offsetLoad (validate op (s.withDraws draws)).2.instrBuf = some v ↔
        emit ∧ v = val ((draws 0).setWidth 32) := by
    obtain ⟨s', l, hval, hemission⟩ := hloads draws
    rw [hval]
    exact hemission.offsetLoad_iff hbuf l v
  have hemit : emit := by
    obtain ⟨v, hv⟩ := Option.isSome_iff_exists.mp hload
    exact ((hiff s.randStream v).mp hv).1
  by_cases hmem : op ∈ shiftedOffsetOps
  · obtain rfl := hshifted hmem
    constructor
    · intro h
      have hmax := h (fun _ => 0x7fffffff) _ ((hiff _ _).mpr ⟨hemit, rfl⟩)
      rw [hraw, effectiveOffset] at hmax
      exact .inr (shiftImm_randMemOffset_maxDraw (s.uninit 0) carry ▸ hmax)
    · rintro (h | h) draws v hv
      · exact absurd hmem h
      · obtain ⟨-, rfl⟩ := (hiff draws v).mp hv
        rw [hraw]
        exact BitVec.le_trans (shiftImm_randMemOffset_le (s.uninit 0) (draws 0) carry) h
  · refine iff_of_true (fun draws v hv => ?_) (.inl hmem)
    obtain ⟨-, rfl⟩ := (hiff draws v).mp hv
    rw [shiftedOffsetOps, List.mem_append, not_or] at hmem
    rw [effectiveOffset, offsetShift, if_neg hmem.1, if_neg hmem.2]
    have hzero (v : Word) : Arm.shiftImm 0 0 v carry = v := BitVec.shiftLeft_zero v
    rw [hzero]
    exact (hplain (by rw [shiftedOffsetOps, List.mem_append, not_or]; exact hmem) _).le

/-- A state of ARM with the word `w`, the limit `0xff` on offsets and draws of all ones. -/
def limitState (w : Word) : GenState :=
  { staticState (fun _ => 0x7fffffff) fun _ => 0 with
    options := { initOptions with isa := .armv7, memOffsetVal := 0xff }
    rawInstr := w }

/-- `ldrh r2, [r1, r3]` keeps to the limit. -/
theorem effectiveOffset_le_limit_LDRH :
    (offsetLoad (validate Op.LDRH (limitState 0xe19120b3)).2.instrBuf).isSome = true ∧
      ∀ draws v,
        offsetLoad (validate Op.LDRH ((limitState 0xe19120b3).withDraws draws)).2.instrBuf =
          some v →
        effectiveOffset Op.LDRH
          (validate Op.LDRH ((limitState 0xe19120b3).withDraws draws)).2.rawInstr false v ≤
            0xff := by
  have hload : (offsetLoad (validate Op.LDRH (limitState 0xe19120b3)).2.instrBuf).isSome =
      true := by
    decide +kernel
  have hplain : Op.LDRH ∉ shiftedOffsetOps := by decide
  have hop : Op.LDRH ∈ regOffsetOps := by decide
  exact ⟨hload, (effectiveOffset_le_limit_iff hop (s := limitState 0xe19120b3) rfl (by decide)
    hload false).2 (.inl hplain)⟩

/-- `ldr r2, [r1, r3]` gets the offset `0xfff` under the limit `0xff`. -/
theorem effectiveOffset_LDR_exceeds :
    ∃ v, offsetLoad (validate Op.LDR_reg (limitState 0xe7912003)).2.instrBuf = some v ∧
      ¬ effectiveOffset Op.LDR_reg (validate Op.LDR_reg (limitState 0xe7912003)).2.rawInstr false
        v ≤ (limitState 0xe7912003).options.memOffsetVal :=
  ⟨0xfff, by decide +kernel, by decide +kernel⟩

end Rit
