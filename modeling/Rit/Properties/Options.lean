import Rit.Properties.Parse
import Rit.Properties.Retry

/-!
# No sentinel is encoded

The parser, the relaxation and the draws keep every option within its range, where the sentinel
for "draw a value" is the largest value of the range.  `Within b` bounds the options and records
in `b` which of them have been drawn; `gen_rand_opt_val` moves from the bounds with sentinels to
those without.
-/

namespace Rit

open GenState

/-! ## Bounds -/

/-- Upper bounds of the options, and how many entries of each register array are drawn. -/
structure OptBounds where
  isa : ℕ
  sbit : ℕ
  cond : ℕ
  src : ℕ
  dst : ℕ
  srcExt : ℕ
  dstExt : ℕ
  szq : ℕ
  shrtReg : ℕ
  shrtType : ℕ

/-- The entries below `n` are at most `top`, the others may be the sentinel `top + 1`. -/
def EntriesWithin (top n : ℕ) (arr : ℕ → Word) : Prop :=
  ∀ i, (arr i).toNat ≤ if i < n then top else top + 1

/-- The options are within the bounds. -/
structure Within (b : OptBounds) (o : GenOption) : Prop where
  isa : o.isa.ctorIdx ≤ b.isa
  sbit : o.sbitVal.ctorIdx ≤ b.sbit
  cond : o.condVal.toNat ≤ b.cond
  src : EntriesWithin 15 b.src o.srcRegs
  dst : EntriesWithin 15 b.dst o.dstRegs
  srcExt : EntriesWithin 1 b.srcExt o.srcFpRegsExt
  dstExt : EntriesWithin 1 b.dstExt o.dstFpRegsExt
  szq : o.fpSzQBit.toNat ≤ b.szq
  shrtReg : o.shiftRotateReg.toNat ≤ b.shrtReg
  shrtType : o.shiftRotateType.toNat ≤ b.shrtType
  list : o.regsList.toNat ≤ 0xffff

/-- The bounds of the user's options: every sentinel is allowed. -/
def sentinelBounds : OptBounds := ⟨4, 2, 15, 0, 0, 0, 0, 2, 16, 4⟩

lemma EntriesWithin.set {top n : ℕ} {arr : ℕ → Word} (h : EntriesWithin top n arr) {val : Word}
    (hval : val.toNat ≤ top) : EntriesWithin top (n + 1) (setEntry arr n val) := by
  intro i
  have hi := h i
  unfold setEntry
  split
  · rename_i heq
    rw [heq, if_pos (Nat.lt_succ_self n)]
    exact hval
  · rename_i hne
    split at hi <;> split <;> omega

/-- An entry that is not the sentinel counts as drawn. -/
lemma EntriesWithin.keep {top n : ℕ} {arr : ℕ → Word} (h : EntriesWithin top n arr)
    (hne : (arr n).toNat ≠ top + 1) : EntriesWithin top (n + 1) arr := by
  intro i
  have hi := h i
  rcases Nat.lt_trichotomy i n with hlt | rfl | hgt
  · rw [if_pos hlt] at hi
    rw [if_pos (Nat.lt_succ_of_lt hlt)]
    exact hi
  · rw [if_neg (Nat.lt_irrefl _)] at hi
    rw [if_pos (Nat.lt_succ_self _)]
    omega
  · rw [if_neg (Nat.lt_asymm hgt)] at hi
    rw [if_neg (by omega)]
    exact hi

/-! ## The parser -/

lemma clampLong_toNat_le {rand : ℕ} (hrand : rand < 2 ^ 31) (v : Int) :
    (clampLong rand v).toNat ≤ rand := by
  unfold clampLong
  split
  · rw [BitVec.toNat_ofNat]
    exact Nat.mod_le _ _
  · rename_i h
    have hv : 0 ≤ v ∧ v ≤ rand := by omega
    rw [wordOfLong, BitVec.toNat_ofInt]
    have hmod : v % (2 ^ 32 : ℕ) = v := Int.emod_eq_of_lt hv.1 (by omega)
    rw [hmod]
    omega

/-- The counters of the parser stay within the register arrays. -/
structure CountersWithin (s : GenState) : Prop where
  sreg : s.sregIdx ≤ MAX_REG_NUM
  dreg : s.dregIdx ≤ MAX_REG_NUM
  fpSregExt : s.fpSregExtIdx ≤ MAX_REG_NUM
  fpDregExt : s.fpDregExtIdx ≤ MAX_REG_NUM

lemma toNat_and_le_right (x y : Word) : (x &&& y).toNat ≤ y.toNat := by
  rw [BitVec.toNat_and]
  exact Nat.and_le_right

lemma InstrSet.ctorIdx_le (isa : InstrSet) : isa.ctorIdx ≤ 4 := by cases isa <;> decide

lemma SbitVal.ctorIdx_le (sbit : SbitVal) : sbit.ctorIdx ≤ 2 := by cases sbit <;> decide

section Owners

variable {a : OptionKind} {p : Para}

lemma own_clampLong_le {rand : ℕ} (hrand : rand < 2 ^ 31) {x : Word} (hx : x.toNat ≤ rand) :
    (own a p (fun v _ => clampLong rand v) x).toNat ≤ rand :=
  own_induction (P := fun y : Word => y.toNat ≤ rand) hx fun v => clampLong_toNat_le hrand v

/-- Appending clamped values to a register array keeps its entries and its index in range. -/
lemma own_pushEntry_within (a : OptionKind) (p : Para) {top : ℕ} (htop : top + 1 < 2 ^ 31)
    (arr : (ℕ → Word) × ℕ) (h : EntriesWithin top 0 arr.1 ∧ arr.2 ≤ MAX_REG_NUM) :
    EntriesWithin top 0 (own a p (fun v => pushEntry (clampLong (top + 1) v)) arr).1 ∧
      (own a p (fun v => pushEntry (clampLong (top + 1) v)) arr).2 ≤ MAX_REG_NUM := by
  refine own_induction (P := fun r : (ℕ → Word) × ℕ => EntriesWithin top 0 r.1 ∧ r.2 ≤ MAX_REG_NUM)
    h fun v => ?_
  unfold pushEntry
  split
  · exact h
  · rename_i hroom
    refine ⟨fun i => ?_, by dsimp only; omega⟩
    dsimp only [setEntry]
    split
    · exact clampLong_toNat_le htop v
    · exact h.1 i

end Owners

/-- What the parser keeps. -/
structure Parsed (s : GenState) : Prop where
  within : Within sentinelBounds s.options
  counters : CountersWithin s

lemma paraEffect_parsed (seeded : Int → ℕ → BitVec 31) (p : Para) {s : GenState}
    (h : Parsed s) : Parsed (paraEffect seeded p s) := by
  obtain ⟨hw, hc⟩ := h
  have hreg : 15 + 1 < 2 ^ 31 := by decide
  have hext : 1 + 1 < 2 ^ 31 := by decide
  have hsrc := own_pushEntry_within .sreg p hreg (s.options.srcRegs, s.sregIdx) ⟨hw.src, hc.sreg⟩
  have hdst := own_pushEntry_within .dreg p hreg (s.options.dstRegs, s.dregIdx) ⟨hw.dst, hc.dreg⟩
  have hsrcExt := own_pushEntry_within .fpSregExt p hext
    (s.options.srcFpRegsExt, s.fpSregExtIdx) ⟨hw.srcExt, hc.fpSregExt⟩
  have hdstExt := own_pushEntry_within .fpDregExt p hext
    (s.options.dstFpRegsExt, s.fpDregExtIdx) ⟨hw.dstExt, hc.fpDregExt⟩
  refine ⟨?_, ⟨hsrc.2, hdst.2, hsrcExt.2, hdstExt.2⟩⟩
  exact {
    isa := InstrSet.ctorIdx_le _
    sbit := SbitVal.ctorIdx_le _
    cond := own_clampLong_le (by decide) hw.cond
    src := hsrc.1
    dst := hdst.1
    srcExt := hsrcExt.1
    dstExt := hdstExt.1
    szq := own_clampLong_le (by decide) hw.szq
    shrtReg := own_clampLong_le (by decide) hw.shrtReg
    shrtType := own_clampLong_le (by decide) hw.shrtType
    list := own_induction (P := fun y : Word => y.toNat ≤ 0xffff) hw.list
      fun v => toNat_and_le_right (wordOfLong v) 0xffff }

lemma entriesWithin_sentinel (top : ℕ) {val : Word} (h : val.toNat = top + 1) :
    EntriesWithin top 0 fun _ => val := by
  intro i
  rw [if_neg (Nat.not_lt_zero i), h]

lemma initEnvVal_parsed (s : GenState) : Parsed (initEnvVal s) where
  within := {
    isa := InstrSet.ctorIdx_le _
    sbit := SbitVal.ctorIdx_le _
    cond := (by decide : COND_RAND.toNat ≤ 15)
    src := entriesWithin_sentinel 15 (by decide : R_RAND.toNat = 16)
    dst := entriesWithin_sentinel 15 (by decide : R_RAND.toNat = 16)
    srcExt := entriesWithin_sentinel 1 (by decide : FP_REG_RAND.toNat = 2)
    dstExt := entriesWithin_sentinel 1 (by decide : FP_REG_RAND.toNat = 2)
    szq := (by decide : FP_REG_RAND.toNat ≤ 2)
    shrtReg := (by decide : R_RAND.toNat ≤ 16)
    shrtType := (by decide : SH_TYPE_RAND.toNat ≤ 4)
    list := Nat.zero_le _ }
  counters := ⟨Nat.zero_le _, Nat.zero_le _, Nat.zero_le _, Nat.zero_le _⟩

lemma parsePara_parsed {seeded : Int → ℕ → BitVec 31} {p : Para} {s s' : GenState}
    (h : Parsed s) (hp : parsePara seeded p s = some s') : Parsed s' := by
  rw [parsePara_eq] at hp
  split at hp
  · obtain rfl := Option.some.inj hp
    obtain ⟨hw, hc⟩ := paraEffect_parsed seeded p h
    exact ⟨⟨hw.isa, hw.sbit, hw.cond, hw.src, hw.dst, hw.srcExt, hw.dstExt, hw.szq, hw.shrtReg,
      hw.shrtType, hw.list⟩, ⟨hc.sreg, hc.dreg, hc.fpSregExt, hc.fpDregExt⟩⟩
  · cases hp

lemma parseParas_parsed {seeded : Int → ℕ → BitVec 31} {ps : List Para} {s s' : GenState}
    (h : Parsed s) (hp : parseParas seeded ps s = some s') : Parsed s' := by
  rw [parseParas_eq_runAll] at hp
  induction ps generalizing s with
  | nil => exact Option.some.inj hp ▸ h
  | cons p ps ih =>
    obtain ⟨t, ht, hrest⟩ := Option.bind_eq_some_iff.mp hp
    exact ih (parsePara_parsed h ht) hrest

/-! ## The relaxation -/

lemma relaxGear1_within {s : GenState} (h : Within sentinelBounds s.options) :
    Within sentinelBounds (relaxGear1 s).options := by
  dsimp only [relaxGear1, GenOption.setOptStat, afterRand]
  exact { h with
    cond := (by decide : COND_RAND.toNat ≤ 15)
    shrtReg := (by decide : R_RAND.toNat ≤ 16) }

lemma relaxGear2_within {s : GenState} (h : Within sentinelBounds s.options) :
    Within sentinelBounds (relaxGear2 s).options := by
  dsimp only [relaxGear2, GenOption.setOptStat, afterRand]
  exact { h with
    sbit := SbitVal.ctorIdx_le _
    shrtType := (by decide : SH_TYPE_RAND.toNat ≤ 4)
    srcExt := entriesWithin_sentinel 1 (by decide : FP_REG_RAND.toNat = 2) }

lemma relaxGear3_within {s : GenState} (h : Within sentinelBounds s.options) :
    Within sentinelBounds (relaxGear3 s).options := by
  dsimp only [relaxGear3, GenOption.setOptStat, afterRand]
  exact { h with
    src := entriesWithin_sentinel 15 (by decide : R_RAND.toNat = 16)
    dstExt := entriesWithin_sentinel 1 (by decide : FP_REG_RAND.toNat = 2) }

lemma relaxGear4_within {s : GenState} (h : Within sentinelBounds s.options) :
    Within sentinelBounds (relaxGear4 s).options := by
  dsimp only [relaxGear4, GenOption.setOptStat, afterRand]
  exact { h with
    dst := entriesWithin_sentinel 15 (by decide : R_RAND.toNat = 16)
    szq := (by decide : FP_REG_RAND.toNat ≤ 2)
    list := by
      change (s.nextRand % 0x10000).toNat ≤ 0xffff
      rw [BitVec.toNat_umod]
      exact Nat.le_of_lt_succ (Nat.mod_lt _ (by decide)) }

/-- The relaxation puts sentinels back and stays within the user's bounds. -/
lemma relaxRestrict_within (n : ℕ) {s : GenState} (h : Within sentinelBounds s.options) :
    Within sentinelBounds (relaxRestrict n s).options := by
  have hgear {c : Prop} [Decidable c] {f : GenState → GenState}
      (hf : ∀ {s : GenState}, Within sentinelBounds s.options → Within sentinelBounds (f s).options)
      {s : GenState} (h : Within sentinelBounds s.options) :
      Within sentinelBounds (if c then f s else s).options := by
    split
    · exact hf h
    · exact h
  unfold relaxRestrict
  split
  · exact h
  · exact hgear relaxGear4_within <| hgear relaxGear3_within <| hgear relaxGear2_within <|
      hgear relaxGear1_within h

/-! ## The draws -/

lemma drawIf_within {α : Type} {c : Prop} [Decidable c] {draw : GenState → α × GenState}
    (hdraw : DrawsOnly draw) {upd : GenOption → α → GenOption} {s : GenState} {b : OptBounds}
    (hpos : Within b (upd s.options (draw s).1)) (hneg : ¬ c → Within b s.options) :
    Within b (drawIf c draw upd s).options := by
  unfold drawIf
  split
  · change Within b (upd (draw s).2.options (draw s).1)
    rw [hdraw s]
    exact hpos
  · rename_i hc
    exact hneg hc

lemma randMod_lt {n : Word} (hn : 0 < n.toNat) (s : GenState) :
    (randMod n s).1.toNat < n.toNat := by
  change (s.nextRand % n).toNat < n.toNat
  rw [BitVec.toNat_umod]
  exact Nat.mod_lt _ hn

lemma genRandReg_le (s : GenState) : (genRandReg s).1.toNat ≤ 15 := by
  have h4 := randMod_lt (n := 4) (by decide) (randMod 6 s).2
  have h5 := randMod_lt (n := 5) (by decide) (randMod 6 s).2
  unfold genRandReg
  dsimp only
  split
  · exact Nat.le_of_lt (Nat.lt_trans h4 (by decide))
  · bv_omega
  · bv_omega
  · exact (by decide : R_SP.toNat ≤ 15)
  · exact (by decide : R_LR.toNat ≤ 15)
  · exact (by decide : R_PC.toNat ≤ 15)

lemma genRandCond_le (s : GenState) : (genRandCond s).1.toNat ≤ 14 := by
  unfold genRandCond
  dsimp only
  split
  · exact Nat.le_of_lt (randMod_lt (n := 14) (by decide) _)
  · exact (by decide : COND_AL.toNat ≤ 14)

lemma isaOfIdx_ctorIdx_le {i : Word} (hi : i.toNat < 4) : (isaOfIdx i).ctorIdx ≤ 3 := by
  have hcases : i = 0 ∨ i = 1 ∨ i = 2 ∨ i = 3 := by bv_omega
  rcases hcases with rfl | rfl | rfl | rfl <;> decide

lemma sbitOfIdx_ctorIdx_le {i : Word} (hi : i.toNat < 2) : (sbitOfIdx i).ctorIdx ≤ 1 := by
  have hcases : i = 0 ∨ i = 1 := by bv_omega
  rcases hcases with rfl | rfl <;> decide

lemma InstrSet.ctorIdx_le_of_ne {isa : InstrSet} (h : isa ≠ .rand) : isa.ctorIdx ≤ 3 := by
  cases isa <;> first | decide | exact absurd rfl h

lemma SbitVal.ctorIdx_le_of_ne {sbit : SbitVal} (h : sbit ≠ .rand) : sbit.ctorIdx ≤ 1 := by
  cases sbit <;> first | decide | exact absurd rfl h

/-- A value in range that is not the sentinel. -/
lemma toNat_le_of_ne (top : ℕ) {n : ℕ} {x sentinel : Word} (h : x.toNat ≤ n) (hn : n = top + 1)
    (hs : sentinel.toNat = top + 1) (hne : x ≠ sentinel) : x.toNat ≤ top := by
  have : x.toNat ≠ top + 1 := fun heq => hne (BitVec.eq_of_toNat_eq (heq.trans hs.symm))
  omega

/-- An entry of a register array that is not the sentinel. -/
lemma EntriesWithin.keep_of_ne {top n : ℕ} {arr : ℕ → Word} (h : EntriesWithin top n arr)
    {sentinel : Word} (hs : sentinel.toNat = top + 1) (hne : arr n ≠ sentinel) :
    EntriesWithin top (n + 1) arr :=
  h.keep fun heq => hne (BitVec.eq_of_toNat_eq (heq.trans hs.symm))

section Draws

variable {b : OptBounds} {s : GenState} (h : Within b s.options)

include h

lemma drawIsa_within : Within { b with isa := 3 }
    (drawIf (¬ s.optStat .isa ∨ s.options.isa = .rand) (randMod 4)
      (fun o v => { o with isa := isaOfIdx v }) s).options :=
  drawIf_within (randMod_drawsOnly 4)
    { h with isa := isaOfIdx_ctorIdx_le (randMod_lt (by decide) s) }
    fun hc => { h with isa := InstrSet.ctorIdx_le_of_ne (not_or.mp hc).2 }

lemma drawSbit_within : Within { b with sbit := 1 }
    (drawIf (¬ s.optStat .sbit ∨ s.options.sbitVal = .rand) (randMod 2)
      (fun o v => { o with sbitVal := sbitOfIdx v }) s).options :=
  drawIf_within (randMod_drawsOnly 2)
    { h with sbit := sbitOfIdx_ctorIdx_le (randMod_lt (by decide) s) }
    fun hc => { h with sbit := SbitVal.ctorIdx_le_of_ne (not_or.mp hc).2 }

lemma drawCond_within (hb : b.cond = 15) : Within { b with cond := 14 }
    (drawIf (¬ s.optStat .cond ∨ s.options.condVal = COND_RAND) genRandCond
      (fun o v => { o with condVal := v }) s).options :=
  drawIf_within genRandCond_drawsOnly { h with cond := genRandCond_le s } fun hc =>
    { h with cond := toNat_le_of_ne 14 h.cond hb (by decide) (not_or.mp hc).2 }

lemma drawSrc_within : Within { b with src := b.src + 1 }
    (drawIf (¬ s.optStat .sreg ∨ s.options.srcRegs b.src = R_RAND) genRandReg
      (fun o v => { o with srcRegs := setEntry o.srcRegs b.src v }) s).options :=
  drawIf_within genRandReg_drawsOnly { h with src := h.src.set (genRandReg_le s) } fun hc =>
    { h with src := h.src.keep_of_ne (by decide) (not_or.mp hc).2 }

lemma drawDst_within : Within { b with dst := b.dst + 1 }
    (drawIf (¬ s.optStat .dreg ∨ s.options.dstRegs b.dst = R_RAND) genRandReg
      (fun o v => { o with dstRegs := setEntry o.dstRegs b.dst v }) s).options :=
  drawIf_within genRandReg_drawsOnly { h with dst := h.dst.set (genRandReg_le s) } fun hc =>
    { h with dst := h.dst.keep_of_ne (by decide) (not_or.mp hc).2 }

lemma drawSrcExt_within : Within { b with srcExt := b.srcExt + 1 }
    (drawIf (¬ s.optStat .fpSregExt ∨ s.options.srcFpRegsExt b.srcExt = FP_REG_RAND) (randMod 2)
      (fun o v => { o with srcFpRegsExt := setEntry o.srcFpRegsExt b.srcExt v }) s).options :=
  drawIf_within (randMod_drawsOnly 2)
    { h with srcExt := h.srcExt.set (Nat.le_of_lt_succ (randMod_lt (by decide) s)) }
    fun hc => { h with srcExt := h.srcExt.keep_of_ne (by decide) (not_or.mp hc).2 }

lemma drawDstExt_within : Within { b with dstExt := b.dstExt + 1 }
    (drawIf (¬ s.optStat .fpDregExt ∨ s.options.dstFpRegsExt b.dstExt = FP_REG_RAND) (randMod 2)
      (fun o v => { o with dstFpRegsExt := setEntry o.dstFpRegsExt b.dstExt v }) s).options :=
  drawIf_within (randMod_drawsOnly 2)
    { h with dstExt := h.dstExt.set (Nat.le_of_lt_succ (randMod_lt (by decide) s)) }
    fun hc => { h with dstExt := h.dstExt.keep_of_ne (by decide) (not_or.mp hc).2 }

lemma drawSzq_within (hb : b.szq = 2) : Within { b with szq := 1 }
    (drawIf (¬ s.optStat .fpSzQExt ∨ s.options.fpSzQBit = FP_REG_RAND) (randMod 2)
      (fun o v => { o with fpSzQBit := v }) s).options :=
  drawIf_within (randMod_drawsOnly 2)
    { h with szq := Nat.le_of_lt_succ (randMod_lt (by decide) s) }
    fun hc => { h with szq := toNat_le_of_ne 1 h.szq hb (by decide) (not_or.mp hc).2 }

lemma drawShrtReg_within (hb : b.shrtReg = 16) : Within { b with shrtReg := 15 }
    (drawIf (¬ s.optStat .shrtReg ∨ s.options.shiftRotateReg = R_RAND) genRandReg
      (fun o v => { o with shiftRotateReg := v }) s).options :=
  drawIf_within genRandReg_drawsOnly { h with shrtReg := genRandReg_le s }
    fun hc => { h with shrtReg := toNat_le_of_ne 15 h.shrtReg hb (by decide) (not_or.mp hc).2 }

lemma drawShrtType_within (hb : b.shrtType = 4) : Within { b with shrtType := 3 }
    (drawIf (¬ s.optStat .shrtType ∨ s.options.shiftRotateType = SH_TYPE_RAND) (randMod 4)
      (fun o v => { o with shiftRotateType := v }) s).options :=
  drawIf_within (randMod_drawsOnly 4)
    { h with shrtType := Nat.le_of_lt_succ (randMod_lt (by decide) s) }
    fun hc => { h with shrtType := toNat_le_of_ne 3 h.shrtType hb (by decide) (not_or.mp hc).2 }

lemma drawList_within : Within b
    (drawIf (¬ s.optStat .regsList) (fun s => (s.nextRand &&& 0xffff, s.afterRand))
      (fun o v => { o with regsList := v }) s).options :=
  drawIf_within (fun _ => rfl) { h with list := toNat_and_le_right s.nextRand 0xffff } fun _ => h

lemma drawImm_within : Within b
    (drawIf (¬ s.optStat .imm) genRandImm (fun o v => { o with immVal := v }) s).options :=
  drawIf_within genRandImm_drawsOnly { h with } fun _ => h

lemma drawShImm_within : Within b
    (drawIf (¬ s.optStat .shImm) genRandImm (fun o v => { o with shiftImmVal := v }) s).options :=
  drawIf_within genRandImm_drawsOnly { h with } fun _ => h

end Draws

/-- The bounds with `n` entries of each register array drawn. -/
def OptBounds.withRegs (b : OptBounds) (n : ℕ) : OptBounds :=
  { b with src := n, dst := n, srcExt := n, dstExt := n }

/-- One round of the register loop draws the next entry of the four arrays. -/
lemma genRandRegs_within {b : OptBounds} {s : GenState} (idx : ℕ)
    (h : Within (b.withRegs idx) s.options) :
    Within (b.withRegs (idx + 1)) (genRandRegs s idx).options :=
  drawDstExt_within (drawSrcExt_within (drawDst_within (drawSrc_within h)))

lemma foldl_genRandRegs_within {b : OptBounds} {s : GenState} (h : Within (b.withRegs 0) s.options)
    (n : ℕ) : Within (b.withRegs n) ((List.range n).foldl genRandRegs s).options := by
  induction n with
  | zero => exact h
  | succ n ih =>
    rw [List.range_succ, List.foldl_concat]
    exact genRandRegs_within n ih

/-- The bounds without sentinels. -/
def concreteBounds : OptBounds :=
  ⟨3, 1, 14, MAX_REG_NUM, MAX_REG_NUM, MAX_REG_NUM, MAX_REG_NUM, 1, 15, 3⟩

/-- `gen_rand_opt_val` replaces every sentinel. -/
lemma genRandOptVal_within {s : GenState} (h : Within sentinelBounds s.options) :
    Within concreteBounds (genRandOptVal s).options := by
  have hcond := drawCond_within (drawSbit_within (drawIsa_within h)) rfl
  have hregs := foldl_genRandRegs_within
    (b := { sentinelBounds with isa := 3, sbit := 1, cond := 14 }) hcond MAX_REG_NUM
  have htype := drawShrtType_within (drawShrtReg_within (drawSzq_within hregs rfl) rfl) rfl
  exact drawShImm_within (drawImm_within (drawList_within htype))

/-! ## Every round -/

/-- Every option that `gen_instr` encodes is a value in range; none is a sentinel. -/
structure GenOption.Concrete (o : GenOption) : Prop where
  isa : o.isa.ctorIdx < 4
  cond : o.condVal.toNat ≤ 14
  srcRegs : ∀ i < MAX_REG_NUM, (o.srcRegs i).toNat < 16
  dstRegs : ∀ i < MAX_REG_NUM, (o.dstRegs i).toNat < 16
  shiftRotateReg : o.shiftRotateReg.toNat < 16
  sbitVal : o.sbitVal.ctorIdx < 2
  srcFpRegsExt : ∀ i < MAX_REG_NUM, (o.srcFpRegsExt i).toNat < 2
  dstFpRegsExt : ∀ i < MAX_REG_NUM, (o.dstFpRegsExt i).toNat < 2
  fpSzQBit : o.fpSzQBit.toNat < 2
  shiftRotateType : o.shiftRotateType.toNat < 4
  regsList : o.regsList.toNat ≤ 0xffff

lemma EntriesWithin.lt {top n : ℕ} {arr : ℕ → Word} (h : EntriesWithin top n arr) {i : ℕ}
    (hi : i < n) : (arr i).toNat < top + 1 := by
  have := h i
  rw [if_pos hi] at this
  exact Nat.lt_succ_of_le this

lemma Within.concrete {o : GenOption} (h : Within concreteBounds o) : o.Concrete where
  isa := Nat.lt_succ_of_le h.isa
  cond := h.cond
  srcRegs := fun _ hi => h.src.lt hi
  dstRegs := fun _ hi => h.dst.lt hi
  shiftRotateReg := Nat.lt_succ_of_le h.shrtReg
  sbitVal := Nat.lt_succ_of_le h.sbit
  srcFpRegsExt := fun _ hi => h.srcExt.lt hi
  dstFpRegsExt := fun _ hi => h.dstExt.lt hi
  fpSzQBit := Nat.lt_succ_of_le h.szq
  shiftRotateType := Nat.lt_succ_of_le h.shrtType
  regsList := h.list

lemma genRandomOp_options (s : GenState) : (genRandomOp s).2.options = s.options := by
  unfold genRandomOp
  dsimp only
  split <;> rfl

lemma prepare_options (fixedOp : Option Opcode) (n : ℕ) (s : GenState) :
    (prepare fixedOp n s).2.options =
      (genRandOptVal (relaxRestrict n { s with options := s.shadowOptions })).options := by
  cases fixedOp with
  | some op => rfl
  | none => exact genRandomOp_options _

lemma enterLoop_counters (timeStream : ℕ → BitVec 31) {s : GenState} (h : CountersWithin s) :
    CountersWithin (enterLoop timeStream s) := by
  unfold enterLoop
  dsimp only
  split
  · exact ⟨h.sreg, h.dreg, h.fpSregExt, h.fpDregExt⟩
  · exact ⟨h.sreg, h.dreg, h.fpSregExt, h.fpDregExt⟩

lemma Carries.countersWithin {s s' : GenState} (h : Carries s s') (hs : CountersWithin s) :
    CountersWithin s' where
  sreg := Nat.le_trans (Nat.le_of_eq (congrArg Foreign.sregIdx h.counters)) hs.sreg
  dreg := Nat.le_trans (Nat.le_of_eq (congrArg Foreign.dregIdx h.counters)) hs.dreg
  fpSregExt := Nat.le_trans (Nat.le_of_eq (congrArg Foreign.fpSregExtIdx h.counters)) hs.fpSregExt
  fpDregExt := Nat.le_trans (Nat.le_of_eq (congrArg Foreign.fpDregExtIdx h.counters)) hs.fpDregExt

/-- **No sentinel is encoded.**  After any accepted parameters, in every round of the retry loop,
the options `gen_instr` is called with are concrete and the parser's counters are within the
register arrays. -/
theorem prepare_concrete {seeded : Int → ℕ → BitVec 31} {ps : List Para} {s s' : GenState}
    (hparse : parseParas seeded ps (initEnvVal s) = some s') (timeStream : ℕ → BitVec 31)
    (n : ℕ) :
    let start := prepare (requestedOp s') n
      (roundState (requestedOp s') (enterLoop timeStream s') n)
    start.2.options.Concrete ∧ CountersWithin start.2 := by
  have hparsed := parseParas_parsed (initEnvVal_parsed s) hparse
  have hfixed : ∀ op ∈ requestedOp s', op < SISA_OP_MAX := fun _ hop => requestedOp_lt hop
  have hround := roundState_carries hfixed (enterLoop timeStream s') n
  have hshadow := hround.shadowOptions.trans (enterLoop_shadowOptions timeStream s')
  constructor
  · rw [prepare_options]
    refine (genRandOptVal_within (relaxRestrict_within n ?_)).concrete
    change Within sentinelBounds (roundState _ _ n).shadowOptions
    rw [hshadow]
    exact hparsed.within
  · exact ((hround.trans (prepare_draws _ n _).carries)).countersWithin
      (enterLoop_counters timeStream hparsed.counters)

/-- Out-of-range requests and five source registers, after sixteen failed rounds. -/
theorem prepare_concrete_out_of_range :
    ∃ s', parseParas (fun _ _ => 0)
        [(.cond, .long 99), (.isa, .long 4), (.shrtType, .long (-1)), (.sreg, .long 3),
          (.sreg, .long 16), (.sreg, .long 400), (.sreg, .long 1), (.sreg, .long 2)]
        (initEnvVal (staticState (fun _ => 0) fun _ => 0)) = some s' ∧
      let start := prepare (requestedOp s') 16
        (roundState (requestedOp s') (enterLoop (fun _ => 0) s') 16)
      start.2.options.Concrete ∧ CountersWithin start.2 := by
  obtain ⟨s', hparse⟩ : ∃ s', parseParas (fun _ _ => 0)
      [(.cond, .long 99), (.isa, .long 4), (.shrtType, .long (-1)), (.sreg, .long 3),
        (.sreg, .long 16), (.sreg, .long 400), (.sreg, .long 1), (.sreg, .long 2)]
      (initEnvVal (staticState (fun _ => 0) fun _ => 0)) = some s' := ⟨_, rfl⟩
  exact ⟨s', hparse, prepare_concrete hparse (fun _ => 0) 16⟩

end Rit
