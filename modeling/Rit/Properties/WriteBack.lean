import Rit.Properties.Bias
import Rit.Properties.Verdict

/-!
# What the bias step writes back

A generator with a bias option reads some operand registers into locals, lets a
`random_bias_reg_*` helper make some of them equal, writes them back, and tests the locals.
`biasCall op s` describes the call: the slot each local was read from together with its value
after the helper, and the state after the write-back.

The step does what it should, `BiasCall.WritesBack`, if each slot of the final word holds the value
of its local and the step changed no bit outside these slots.  Two groups of opcodes miss it.  The
plain extends write both locals to the output slot, so the destination ends up with the number of
the source.  The saturating instructions write the source register to their first input slot, which
holds the saturation immediate.
-/

namespace Rit

open BitField GenState

/-! ## The calls -/

/-- A call of a `random_bias_reg_*` helper. -/
structure BiasCall where
  /-- The locals: the slot each was read from and its value after the call. -/
  regs : List (Opnd × Word)
  /-- The state after the write-back. -/
  state : GenState

/-- The call that writes every local back to the slot it was read from. -/
def callOn (k : OptionKind) (slots : List Opnd) (s : GenState) : Option BiasCall :=
  let read := getRegnum s.rawInstr
  match slots with
  | [o1, o2] =>
    let b := bias2 k o1 o2 (read o1, read o2) s
    some ⟨[(o1, b.1.1), (o2, b.1.2)], b.2⟩
  | [o1, o2, o3] =>
    let b := bias3 k o1 o2 o3 (read o1, read o2, read o3) s
    some ⟨[(o1, b.1.1), (o2, b.1.2.1), (o3, b.1.2.2)], b.2⟩
  | [o1, o2, o3, o4] =>
    let b := bias4 k o1 o2 o3 o4 (read o1, read o2, read o3, read o4) s
    some ⟨[(o1, b.1.1), (o2, b.1.2.1), (o3, b.1.2.2.1), (o4, b.1.2.2.2)], b.2⟩
  | _ => none

/-- The option that asks for the bias. -/
def biasOption (op : Opcode) : OptionKind :=
  if op ∈ [Op.SBFX, Op.UBFX, Op.PKH, Op.USAD8, Op.USADA8] then .allowBiasReg else .allowBiasOpnd

/-- `gen_data_instr` does not bias a register-shifted form that names `r15`. -/
def dataNamesPc (row : InstrDesc) (w : Word) : Bool :=
  (row.input2.type = .shiftReg ∨ (row.input2.type = .none ∧ row.input1.type = .shiftReg)) &&
    (dataBiasOpnds row).any fun o => getRegnum w o = R_PC

/-- The call the generator of `op` makes in state `s`, if it makes one. -/
def biasCall (op : Opcode) (s : GenState) : Option BiasCall :=
  let row := glbInstrTlb op
  let read := getRegnum s.rawInstr
  if op ∈ extOps then
    -- both values go to the output slot
    let b := bias2 .allowBiasOpnd row.output0 row.output0 (read row.output0, read row.input0) s
    some ⟨[(row.output0, b.1.1), (row.input0, b.1.2)], b.2⟩
  else if op ∈ satOps then
    -- the register comes from the second input slot and goes to the first
    let b := bias2 .allowBiasReg row.output0 row.input0 (read row.output0, read row.input1) s
    some ⟨[(row.output0, b.1.1), (row.input1, b.1.2)], b.2⟩
  else if op ∈ mulOps then
    let b := biasMul op s
    some ⟨[(row.output0, b.1.1), (row.input0, b.1.2.1), (row.input1, b.1.2.2)], b.2⟩
  else if op ∈ pairOps then callOn (biasOption op) [row.output0, row.input0] s
  else if op = Op.BFI then callOn .allowBiasReg [row.output0, row.input2] s
  else if op ∈ tripleOps then callOn (biasOption op) [row.output0, row.input0, row.input1] s
  else if op ∈ quadOps then
    callOn (biasOption op) [row.output0, row.input0, row.input1, row.input2] s
  else if op ∈ mulLongOps then
    callOn .allowBiasOpnd [row.output0, row.output1, row.input0, row.input1] s
  else if row.opKind.isData ∧ op ∉ armUncategoriedOp ∧ ¬ dataNamesPc row s.rawInstr then
    callOn .allowBiasOpnd (dataBiasOpnds row) s
  else none

/-- The slots of the final word hold the locals, and the call changed no bit outside them. -/
structure BiasCall.WritesBack (c : BiasCall) (before final : Word) : Prop where
  readBack : ∀ p ∈ c.regs, getRegnum final p.1 = p.2
  outside : AgreeOff (union (c.regs.map fun p => p.1.mask)) c.state.rawInstr before

/-! ## Calls that write to the slots they read -/

section

variable {k : OptionKind} {slots : List Opnd} {s : GenState} {c : BiasCall}

/-- Four-bit register slots, no two of which meet. -/
structure RegSlots (slots : List Opnd) : Prop where
  apart : slots.Pairwise Opnd.Apart
  reg4 : ∀ o ∈ slots, o.reg4 = true

lemma Opnd.under_union {o : Opnd} (h : o ∈ slots) (hslots : RegSlots slots) :
    o.Under (union (slots.map Opnd.mask)) :=
  ⟨(Opnd.ok_of_reg4 (hslots.reg4 o h)).2, and_union_of_mem (List.mem_map_of_mem h)⟩

lemma callOn_writesBack (hslots : RegSlots slots) (h : callOn k slots s = some c) :
    c.WritesBack s.rawInstr c.state.rawInstr := by
  have hunder : ∀ o ∈ slots, o.Under (union (slots.map Opnd.mask)) :=
    fun o ho => Opnd.under_union ho hslots
  have hreg := hslots.reg4
  match slots, hslots, hunder, hreg, h with
  | [o1, o2], hslots, hunder, hreg, h =>
    obtain rfl := Option.some.inj h
    simp only [List.forall_mem_cons, List.not_mem_nil, false_implies, implies_true, and_true]
      at hunder hreg
    obtain ⟨h1, h2⟩ := bias2_holds (k := k) (s := s)
      (List.pairwise_cons.1 hslots.apart |>.1 o2 (by simp)) hreg.1 hreg.2
    refine ⟨?_, (bias2_writes fun _ => hunder).raw⟩
    simp only [List.forall_mem_cons, List.not_mem_nil, false_implies, implies_true, and_true]
    exact ⟨h1, h2⟩
  | [o1, o2, o3], hslots, hunder, hreg, h =>
    obtain rfl := Option.some.inj h
    simp only [List.forall_mem_cons, List.not_mem_nil, false_implies, implies_true, and_true]
      at hunder hreg
    obtain ⟨h1, h2, h3⟩ := bias3_holds (k := k) (s := s) hslots.apart hreg.1 hreg.2.1 hreg.2.2
    refine ⟨?_, (bias3_writes fun _ => hunder).raw⟩
    simp only [List.forall_mem_cons, List.not_mem_nil, false_implies, implies_true, and_true]
    exact ⟨h1, h2, h3⟩
  | [o1, o2, o3, o4], hslots, hunder, hreg, h =>
    obtain rfl := Option.some.inj h
    simp only [List.forall_mem_cons, List.not_mem_nil, false_implies, implies_true, and_true]
      at hunder hreg
    obtain ⟨h1, h2, h3, h4⟩ := bias4_holds (k := k) (s := s) hslots.apart hreg.1 hreg.2.1
      hreg.2.2.1 hreg.2.2.2
    refine ⟨?_, (bias4_writes fun _ => hunder).raw⟩
    simp only [List.forall_mem_cons, List.not_mem_nil, false_implies, implies_true, and_true]
    exact ⟨h1, h2, h3, h4⟩

lemma callOn_slots (h : callOn k slots s = some c) : c.regs.map Prod.fst = slots := by
  match slots, h with
  | [o1, o2], h => exact Option.some.inj h ▸ rfl
  | [o1, o2, o3], h => exact Option.some.inj h ▸ rfl
  | [o1, o2, o3, o4], h => exact Option.some.inj h ▸ rfl

end

/-- The two-operand multiplies exchange two parameters of the helper, and write every local back to
its own slot. -/
lemma biasMul_holds {op : Opcode} {s : GenState} (hslots : RegSlots [(glbInstrTlb op).output0,
    (glbInstrTlb op).input0, (glbInstrTlb op).input1]) :
    getRegnum (biasMul op s).2.rawInstr (glbInstrTlb op).output0 = (biasMul op s).1.1 ∧
      getRegnum (biasMul op s).2.rawInstr (glbInstrTlb op).input0 = (biasMul op s).1.2.1 ∧
      getRegnum (biasMul op s).2.rawInstr (glbInstrTlb op).input1 = (biasMul op s).1.2.2 := by
  have h1 := hslots.reg4 (glbInstrTlb op).output0 (by simp)
  have h2 := hslots.reg4 (glbInstrTlb op).input0 (by simp)
  have h3 := hslots.reg4 (glbInstrTlb op).input1 (by simp)
  have hap := hslots.apart
  unfold biasMul
  dsimp only
  split
  · obtain ⟨hlt1, hlt3, hlt2⟩ := randomBiasReg3_forall (P := fun v => v.toNat < 16)
      (x := s.nextRand) (getRegnum_lt h1 s.rawInstr) (getRegnum_lt h3 s.rawInstr)
      (getRegnum_lt h2 s.rawInstr)
    exact ⟨getRegnum_setInstrRegs (by simpa using hap) (by simp) h1 hlt1 s.rawInstr,
      getRegnum_setInstrRegs (by simpa using hap) (by simp) h2 hlt2 s.rawInstr,
      getRegnum_setInstrRegs (by simpa using hap) (by simp) h3 hlt3 s.rawInstr⟩
  · exact ⟨rfl, rfl, rfl⟩

/-! ## Slots of the rows -/

section

variable {op : Opcode} {s : GenState} {c : BiasCall}

lemma regSlots_of_biasSlots {g : List Opcode × (InstrDesc → List Opnd)} (hg : g ∈ biasSlots)
    (hsat : g.1 ≠ satOps) (hop : op ∈ g.1) : RegSlots (g.2 (glbInstrTlb op)) := by
  obtain ⟨hap, -, hreg⟩ := biasSlots_apart g hg op hop
  exact ⟨hap, hreg.resolve_left hsat⟩

lemma regSlots_data (hop : op < SISA_OP_ARM_MAX) (hdata : (glbInstrTlb op).opKind.isData = true) :
    RegSlots (dataBiasOpnds (glbInstrTlb op)) := by
  have hall : (List.range SISA_OP_ARM_MAX).all (fun op => !(glbInstrTlb op).opKind.isData ||
      (decide ((dataBiasOpnds (glbInstrTlb op)).Pairwise Opnd.Apart) &&
        (dataBiasOpnds (glbInstrTlb op)).all Opnd.reg4)) = true := by
    decide +kernel
  have h := List.all_eq_true.1 hall op (List.mem_range.2 hop)
  simp only [hdata, Bool.not_true, Bool.false_or, Bool.and_eq_true, decide_eq_true_eq,
    List.all_eq_true] at h
  exact ⟨h.1, h.2⟩

lemma regSlots_mul (hop : op ∈ mulOps) : RegSlots [(glbInstrTlb op).output0,
    (glbInstrTlb op).input0, (glbInstrTlb op).input1] :=
  regSlots_of_biasSlots (g := (tripleOps, fun row => [row.output0, row.input0, row.input1]))
    (by simp [biasSlots]) (by decide) (by simp [tripleOps, hop])

/-- The calls of all other opcodes write every local back to its own slot. -/
lemma biasCall_writesBack (hop : op < SISA_OP_ARM_MAX) (hext : op ∉ extOps) (hsat : op ∉ satOps)
    (h : biasCall op s = some c) : c.WritesBack s.rawInstr c.state.rawInstr := by
  rw [biasCall, if_neg hext, if_neg hsat] at h
  split at h
  · rename_i hmul
    obtain rfl := Option.some.inj h
    have hslots := regSlots_mul hmul
    obtain ⟨h1, h2, h3⟩ := biasMul_holds (s := s) hslots
    have hunder := fun o ho => Opnd.under_union (o := o) ho hslots
    refine ⟨?_, (biasMul_writes fun _ => ?_).raw⟩
    · simp only [List.forall_mem_cons, List.not_mem_nil, false_implies, implies_true, and_true]
      exact ⟨h1, h2, h3⟩
    · exact ⟨hunder _ (by simp), hunder _ (by simp), hunder _ (by simp)⟩
  split at h
  · rename_i hpair
    exact callOn_writesBack (regSlots_of_biasSlots
      (g := (pairOps, fun row => [row.output0, row.input0])) (by simp [biasSlots]) (by decide)
      hpair) h
  split at h
  · rename_i hbfi
    exact callOn_writesBack (regSlots_of_biasSlots
      (g := ([Op.BFI], fun row => [row.output0, row.input2])) (by simp [biasSlots]) (by decide)
      (List.mem_singleton.2 hbfi)) h
  split at h
  · rename_i htriple
    exact callOn_writesBack (regSlots_of_biasSlots
      (g := (tripleOps, fun row => [row.output0, row.input0, row.input1])) (by simp [biasSlots])
      (by decide) htriple) h
  split at h
  · rename_i hquad
    exact callOn_writesBack (regSlots_of_biasSlots
      (g := (quadOps, fun row => [row.output0, row.input0, row.input1, row.input2]))
      (by simp [biasSlots]) (by decide) hquad) h
  split at h
  · rename_i hlong
    exact callOn_writesBack (regSlots_of_biasSlots
      (g := (mulLongOps, fun row => [row.output0, row.output1, row.input0, row.input1]))
      (by simp [biasSlots]) (by decide) hlong) h
  split at h
  · rename_i hdata
    exact callOn_writesBack (regSlots_data hop hdata.1) h
  · cases h

/-! ## The two groups that write elsewhere -/

/-- A write to one slot leaves a slot apart from it alone. -/
lemma getRegnum_setInstrReg_of_apart {o o' : Opnd} (ho : o.reg4 = true) (hap : o.Apart o')
    (w v : Word) : getRegnum (setInstrReg w o' v) o = getRegnum w o := by
  have hok := (Opnd.ok_of_reg4 ho).2
  rw [getRegnum_of_reg4 ho, getRegnum_of_reg4 ho, getBitsValue_eq_get _ hok.1 hok.2,
    getBitsValue_eq_get _ hok.1 hok.2, setInstrReg, setInstr_eq_set _ _ hap.right.1 hap.right.2]
  exact get_set_of_disjoint _ _ hap.disjoint

/-- The number just written to a slot. -/
lemma getRegnum_setInstrReg_self {o : Opnd} (ho : o.reg4 = true) {v : Word} (hv : v.toNat < 16)
    (w : Word) : getRegnum (setInstrReg w o v) o = v :=
  getRegnum_setInstrRegs (l := [(o, v)]) (List.pairwise_singleton _ _) List.mem_cons_self ho hv w

lemma Opnd.Apart.symm {o o' : Opnd} (h : o.Apart o') : o'.Apart o :=
  ⟨h.right, h.left, h.disjoint.symm⟩

lemma Opnd.Apart.mask_and_mask {o o' : Opnd} (h : o.Apart o') : o.mask &&& o'.mask = 0#32 := by
  have hdisj := h.disjoint
  apply BitVec.eq_of_getLsbD_eq
  intro i _
  rw [Opnd.mask, Opnd.mask, BitVec.getLsbD_and, getLsbD_span, getLsbD_span, BitVec.getLsbD_zero,
    Bool.and_eq_false_iff]
  simp only [decide_eq_false_iff_not]
  omega

section

variable {o o' imm : Opnd} {d w : Word} {st : GenState}

lemma forall_mem_pair {α : Type} {P : α → Prop} {a b : α} : (∀ x ∈ [a, b], P x) ↔ P a ∧ P b := by
  simp

/-- Both locals written to the first slot: it holds the second local in the end. -/
lemma writesBack_twice_iff (ho : o.reg4 = true) (ho' : o'.reg4 = true) (hap : o'.Apart o)
    (hst : st.rawInstr = setInstrRegs w [(o, d), (o, getRegnum w o')]) :
    (BiasCall.mk [(o, d), (o', getRegnum w o')] st).WritesBack w st.rawInstr ↔
      d = getRegnum w o' := by
  have hread : getRegnum st.rawInstr o = getRegnum w o' := by
    rw [hst]
    exact getRegnum_setInstrReg_self ho (getRegnum_lt ho' w) _
  have hkeep : getRegnum st.rawInstr o' = getRegnum w o' := by
    rw [hst]
    exact (getRegnum_setInstrReg_of_apart ho' hap _ _).trans
      (getRegnum_setInstrReg_of_apart ho' hap _ _)
  have hmask : o.Under (union [o.mask, o'.mask]) :=
    ⟨hap.right, and_union_of_mem List.mem_cons_self⟩
  constructor
  · intro h
    exact (h.readBack (o, d) List.mem_cons_self).symm.trans hread
  · intro hd
    refine ⟨forall_mem_pair.2 ⟨hread.trans hd.symm, hkeep⟩, ?_⟩
    show AgreeOff _ st.rawInstr w
    rw [hst]
    exact setInstrRegs_agreeOff _ w (forall_mem_pair.2 ⟨hmask, hmask⟩)

/-- The second local written to a third slot: the step changes that slot unless it held the number
already. -/
lemma writesBack_third_iff (ho : o.reg4 = true) (ho' : o'.reg4 = true) (hap : o.Apart imm)
    (hap' : o'.Apart o) (hapImm : o'.Apart imm) (hwidth : imm.startBit + 3 ≤ imm.endBit)
    (hd : d.toNat < 16) (hst : st.rawInstr = setInstrRegs w [(o, d), (imm, getRegnum w o')]) :
    (BiasCall.mk [(o, d), (o', getRegnum w o')] st).WritesBack w st.rawInstr ↔
      getBitsValue w imm.startBit imm.endBit = getRegnum w o' := by
  have hn := getRegnum_lt ho' w
  have hread : getRegnum st.rawInstr o = d := by
    rw [hst]
    exact (getRegnum_setInstrReg_of_apart ho hap _ _).trans (getRegnum_setInstrReg_self ho hd _)
  have hkeep : getRegnum st.rawInstr o' = getRegnum w o' := by
    rw [hst]
    exact (getRegnum_setInstrReg_of_apart ho' hapImm _ _).trans
      (getRegnum_setInstrReg_of_apart ho' hap' _ _)
  have himm : getBitsValue st.rawInstr imm.startBit imm.endBit = getRegnum w o' := by
    have hset := toNat_getBitsValue_setInstr (setInstrReg w o d) (getRegnum w o') hap.right.1
      hap.right.2
    have hpow : 2 ^ 4 ≤ 2 ^ (imm.endBit - imm.startBit + 1) :=
      Nat.pow_le_pow_right (by decide) (by omega)
    rw [Nat.mod_eq_of_lt (by omega)] at hset
    rw [hst]
    exact BitVec.eq_of_toNat_eq hset
  have hget : ∀ x : Word, getBitsValue x imm.startBit imm.endBit =
      BitField.get x imm.startBit imm.endBit :=
    fun x => getBitsValue_eq_get x hap.right.1 hap.right.2
  have hwrites : AgreeOff (union [o.mask, imm.mask]) st.rawInstr w := by
    rw [hst]
    exact setInstrRegs_agreeOff _ w (forall_mem_pair.2
      ⟨⟨hap.left, and_union_of_mem (by simp)⟩, hap.right, and_union_of_mem (by simp)⟩)
  constructor
  · intro h
    have hdisj : union [o.mask, o'.mask] &&& imm.mask = 0#32 := by
      refine union_and_eq_zero ?_
      exact forall_mem_pair.2 ⟨hap.mask_and_mask, hapImm.mask_and_mask⟩
    rw [← himm, hget, hget]
    exact (get_congr (h.outside.agreeOn hdisj)).symm
  · intro h
    refine ⟨forall_mem_pair.2 ⟨hread, hkeep⟩, fun i hi => ?_⟩
    have hsame : AgreeOn imm.mask st.rawInstr w := by
      refine agreeOn_of_get_eq ?_
      rw [← hget, ← hget, himm, h]
    cases hbit : imm.mask.getLsbD i with
    | true => exact hsame i hbit
    | false =>
      refine hwrites i ?_
      rw [getLsbD_union] at hi ⊢
      simp_all

end

lemma bias2_on {k : OptionKind} {o1 o2 : Opnd} {r : Word × Word} (hk : s.optStat k = true) :
    bias2 k o1 o2 r s = (((randomBiasReg2 s.nextRand r.1 r.2).1, r.2),
      s.afterRand.setRawInstr (setInstrRegs s.rawInstr
        [(o1, (randomBiasReg2 s.nextRand r.1 r.2).1), (o2, r.2)])) := by
  have hsnd := randomBiasReg2_snd s.nextRand r.1 r.2
  rw [bias2, if_pos hk]
  refine Prod.ext (Prod.ext rfl hsnd) ?_
  dsimp only
  rw [hsnd]

lemma bias2_off {k : OptionKind} {o1 o2 : Opnd} {r : Word × Word} (hk : ¬ s.optStat k = true) :
    bias2 k o1 o2 r s = (r, s) := if_neg hk

lemma extSlots : ∀ op ∈ extOps,
    (glbInstrTlb op).output0.reg4 = true ∧ (glbInstrTlb op).input0.reg4 = true ∧
      (glbInstrTlb op).input0.Apart (glbInstrTlb op).output0 := by
  decide +kernel

/-- A plain extend ends up with the number of the source in both slots. -/
lemma biasCall_ext_iff (hop : op ∈ extOps) (h : biasCall op s = some c) :
    c.WritesBack s.rawInstr c.state.rawInstr ↔ (s.optStat .allowBiasOpnd = true →
      s.nextRand % 2 = 0 ∨ getRegnum s.rawInstr (glbInstrTlb op).output0 =
        getRegnum s.rawInstr (glbInstrTlb op).input0) := by
  obtain ⟨hout, hin, hap⟩ := extSlots op hop
  rw [biasCall, if_pos hop] at h
  obtain rfl := Option.some.inj h
  by_cases hk : s.optStat .allowBiasOpnd = true
  · rw [bias2_on hk, forall_prop_of_true hk]
    refine (writesBack_twice_iff hout hin hap rfl).trans ?_
    unfold randomBiasReg2
    split
    · rename_i heven
      exact iff_of_true rfl (.inl heven)
    · rename_i hodd
      exact (or_iff_right hodd).symm
  · rw [bias2_off hk]
    refine ⟨fun _ hk' => absurd hk' hk, fun _ => ⟨forall_mem_pair.2 ⟨rfl, rfl⟩, .refl _ _⟩⟩

/-- The slots of the saturating instructions: no two of them meet, and the immediate is at least as
wide as a register number. -/
lemma satSlots : ∀ op ∈ satOps, op ∉ extOps ∧
    (glbInstrTlb op).output0.reg4 = true ∧ (glbInstrTlb op).input1.reg4 = true ∧
      (glbInstrTlb op).output0.Apart (glbInstrTlb op).input0 ∧
      (glbInstrTlb op).input1.Apart (glbInstrTlb op).output0 ∧
      (glbInstrTlb op).input1.Apart (glbInstrTlb op).input0 ∧
      (glbInstrTlb op).input0.startBit + 3 ≤ (glbInstrTlb op).input0.endBit := by
  decide +kernel

/-- A saturating instruction keeps the bits of its immediate only if they spell the source
register already. -/
lemma biasCall_sat_iff (hop : op ∈ satOps) (h : biasCall op s = some c) :
    c.WritesBack s.rawInstr c.state.rawInstr ↔ (s.optStat .allowBiasReg = true →
      getBitsValue s.rawInstr (glbInstrTlb op).input0.startBit (glbInstrTlb op).input0.endBit =
        getRegnum s.rawInstr (glbInstrTlb op).input1) := by
  obtain ⟨hnot, hout, hin, hap, hapOut, hapImm, hwidth⟩ := satSlots op hop
  rw [biasCall, if_neg hnot, if_pos hop] at h
  obtain rfl := Option.some.inj h
  by_cases hk : s.optStat .allowBiasReg = true
  · have hd := (randomBiasReg2_forall (P := fun v => v.toNat < 16) (x := s.nextRand)
      (getRegnum_lt hout s.rawInstr) (getRegnum_lt hin s.rawInstr)).1
    rw [bias2_on hk, forall_prop_of_true hk]
    exact writesBack_third_iff hout hin hap hapOut hapImm hwidth hd rfl
  · rw [bias2_off hk]
    refine ⟨fun _ hk' => absurd hk' hk, fun _ => ⟨forall_mem_pair.2 ⟨rfl, rfl⟩, .refl _ _⟩⟩

/-! ## The generators -/

/-- The opcodes whose shift amount is biased after the registers. -/
def shiftAmountOps : List Opcode := [Op.SSAT, Op.USAT, Op.PKH]

lemma not_mem_shiftAmountOps :
    ∀ op ∈ extOps ++ mulOps ++ pairOps ++ [Op.BFI] ++ quadOps ++ mulLongOps,
    op ∉ shiftAmountOps := by
  decide

lemma genArmInstr_uncategorized (h : op ∈ armUncategoriedOp) (s : GenState) :
    genArmInstr op s = genUncategorizedInstr op s := if_pos h

lemma genArmInstr_misc (h : op ∉ armUncategoriedOp) (hk : (glbInstrTlb op).opKind = .miscOp)
    (s : GenState) : genArmInstr op s = genMiscInstr op s := by
  rw [genArmInstr, if_neg h, hk]

lemma genArmInstr_mul (h : op ∈ mulOps ++ mlaOps ++ mulLongOps) (s : GenState) :
    genArmInstr op s = genMulInstr op s := by
  have hall : ∀ op ∈ mulOps ++ mlaOps ++ mulLongOps, op ∉ armUncategoriedOp ∧
      (glbInstrTlb op).opKind ∈ [OpKind.umulOp, .mul32Op, .smulOp, .smuldOp] := by
    decide +kernel
  obtain ⟨hu, hk⟩ := hall op h
  rw [genArmInstr, if_neg hu]
  simp only [List.mem_cons, List.not_mem_nil, or_false] at hk
  rcases hk with hk | hk | hk | hk <;> rw [hk]

lemma genArmInstr_data (h : op ∉ armUncategoriedOp) (hk : (glbInstrTlb op).opKind.isData = true)
    (s : GenState) : genArmInstr op s = genDataInstr op s := by
  rw [genArmInstr, if_neg h]
  cases hkind : (glbInstrTlb op).opKind
  case aluOp | logOp | movOp | cmpOp | testOp => rfl
  all_goals
    rw [hkind] at hk
    cases hk

lemma genArmInstr_pair (h : op ∈ pairOps) : (genArmInstr op s).2.rawInstr =
    (bias2 (biasOption op) (glbInstrTlb op).output0 (glbInstrTlb op).input0
      (getRegnum s.rawInstr (glbInstrTlb op).output0,
        getRegnum s.rawInstr (glbInstrTlb op).input0) s).2.rawInstr := by
  simp only [pairOps, List.mem_cons, List.not_mem_nil, or_false] at h
  rcases h with rfl | rfl | rfl | rfl | rfl
  · rw [genArmInstr_swp s (by decide)]
    exact (apply_ite GenState.rawInstr _ _ _).trans (ite_self _)
  · rw [genArmInstr_swp s (by decide)]
    exact (apply_ite GenState.rawInstr _ _ _).trans (ite_self _)
  · rw [genArmInstr_misc (by decide) (by decide +kernel)]
    rfl
  · rw [genArmInstr_uncategorized (by decide)]
    rfl
  · rw [genArmInstr_uncategorized (by decide)]
    rfl

lemma genArmInstr_triple (h : op ∈ tripleOps) (hmul : op ∉ mulOps) :
    (genArmInstr op s).2 = if op = Op.PKH then biasShiftImm (genThreeReg (biasOption op) op s).2
      else (genThreeReg (biasOption op) op s).2 := by
  simp only [tripleOps, List.cons_append, List.mem_cons, List.mem_append] at h
  rcases h with rfl | rfl | (h | h) | h
  · rw [genArmInstr_uncategorized (by decide)]
    rfl
  · rw [genArmInstr_uncategorized (by decide)]
    rfl
  · exact absurd h hmul
  · have hall : ∀ op ∈ extAddOps, op ≠ Op.PKH ∧ biasOption op = .allowBiasOpnd := by decide
    rw [genArmInstr_extAdd h, if_neg (hall op h).1, (hall op h).2]
    rfl
  · have hall : ∀ op ∈ parallelOps, op ∈ armUncategoriedOp ∧ op ≠ Op.PKH ∧
        biasOption op = .allowBiasOpnd := by decide
    obtain ⟨hu, hpkh, hk⟩ := hall op h
    rw [genArmInstr_uncategorized hu, genUncategorizedInstr, if_pos h, if_neg hpkh, hk]
    rfl

lemma genArmInstr_quad (h : op ∈ quadOps) : (genArmInstr op s).2 =
    (bias4 (biasOption op) (glbInstrTlb op).output0 (glbInstrTlb op).input0 (glbInstrTlb op).input1
      (glbInstrTlb op).input2 (getRegnum s.rawInstr (glbInstrTlb op).output0,
        getRegnum s.rawInstr (glbInstrTlb op).input0, getRegnum s.rawInstr (glbInstrTlb op).input1,
        getRegnum s.rawInstr (glbInstrTlb op).input2) s).2 := by
  rcases List.mem_cons.1 h with rfl | hmla
  · rw [genArmInstr_uncategorized (by decide)]
    rfl
  · have hall : ∀ op ∈ mlaOps, op ∉ mulOps ∧ biasOption op = .allowBiasOpnd := by decide
    rw [genArmInstr_mul (by simp [hmla]), genMulInstr, if_neg (hall op hmla).1, if_pos hmla,
      (hall op hmla).2]
    rfl

/-- The step of `gen_data_instr`. -/
lemma dataBias_of_callOn (hpc : dataNamesPc (glbInstrTlb op) s.rawInstr = false)
    (h : callOn .allowBiasOpnd (dataBiasOpnds (glbInstrTlb op)) s = some c) :
    (dataBias op s).2 = c.state := by
  unfold dataNamesPc at hpc
  unfold dataBiasOpnds at h hpc
  unfold dataBias
  dsimp only
  split
  · rename_i h2
    rw [if_pos h2] at h hpc
    split
    · rename_i hout
      rw [if_pos hout] at h hpc
      rw [if_neg (by simpa [h2] using hpc)]
      exact congrArg BiasCall.state (Option.some.inj h)
    · rename_i hout
      rw [if_neg hout] at h hpc
      rw [if_neg (by simpa [h2] using hpc)]
      exact congrArg BiasCall.state (Option.some.inj h)
  rename_i h2
  rw [if_neg h2] at h hpc
  split
  · rename_i h3
    rw [if_pos h3] at h
    split
    · rename_i hout
      rw [if_pos hout] at h
      exact congrArg BiasCall.state (Option.some.inj h)
    · rename_i hout
      rw [if_neg hout] at h
      exact congrArg BiasCall.state (Option.some.inj h)
  rename_i h3
  rw [if_neg h3] at h hpc
  split
  · rename_i h4
    rw [if_pos h4] at h hpc
    split
    · rename_i h5
      rw [if_pos h5] at h hpc
      rw [if_neg (by simpa [h4, h5] using hpc)]
      exact congrArg BiasCall.state (Option.some.inj h)
    rename_i h5
    rw [if_neg h5] at h
    split
    · rename_i h6
      rw [if_pos h6] at h
      exact congrArg BiasCall.state (Option.some.inj h)
    rename_i h6
    rw [if_neg h6] at h
    split
    · rename_i h7
      rw [if_pos h7] at h
      exact congrArg BiasCall.state (Option.some.inj h)
    · rename_i h7
      rw [if_neg h7] at h
      cases h
  · rename_i h4
    rw [if_neg h4] at h
    cases h

/-- The word the generator leaves is the word after the call, with a shift amount for three of the
opcodes. -/
lemma genArmInstr_of_biasCall (h : biasCall op s = some c) :
    (genArmInstr op s).2.rawInstr =
      (if op ∈ shiftAmountOps then biasShiftImm c.state else c.state).rawInstr := by
  have hshift := not_mem_shiftAmountOps op
  unfold biasCall at h
  dsimp only at h
  split at h
  · rename_i hext
    have hall : ∀ op ∈ extOps, op ∈ armUncategoriedOp ∧ op ∉ parallelOps ∧ op ∉ extAddOps := by
      decide
    obtain ⟨hu, hpar, hadd⟩ := hall op hext
    obtain rfl := Option.some.inj h
    rw [genArmInstr_uncategorized hu, genUncategorizedInstr, if_neg hpar, if_neg hadd, if_pos hext,
      if_neg (hshift (by simp [hext]))]
    rfl
  split at h
  · rename_i hext hsat
    have hall : ∀ op ∈ satOps, op ∈ armUncategoriedOp ∧ op ∉ parallelOps ∧ op ∉ extAddOps ∧
        op ∉ reverseOps ∧ (op ∈ shiftAmountOps ↔ op = Op.SSAT ∨ op = Op.USAT) := by
      decide
    obtain ⟨hu, hpar, hadd, hrev, hsatShift⟩ := hall op hsat
    obtain rfl := Option.some.inj h
    rw [genArmInstr_uncategorized hu, genUncategorizedInstr, if_neg hpar, if_neg hadd, if_neg hext,
      if_neg hrev, if_pos hsat]
    simp only [hsatShift]
    rfl
  split at h
  · rename_i hmul
    obtain rfl := Option.some.inj h
    rw [genArmInstr_mul (by simp [hmul]), genMulInstr, if_pos hmul,
      if_neg (hshift (by simp [hmul]))]
    rfl
  split at h
  · rename_i hpair
    obtain rfl := Option.some.inj h
    rw [genArmInstr_pair hpair, if_neg (hshift (by simp [hpair]))]
  split at h
  · rename_i hbfi
    subst hbfi
    obtain rfl := Option.some.inj h
    rw [genArmInstr_uncategorized (by decide), if_neg (hshift (by simp))]
    rfl
  split at h
  · rename_i hsat hmul hpair hbfi htriple
    obtain rfl := Option.some.inj h
    have hall : ∀ op ∈ tripleOps, (op ∈ shiftAmountOps ↔ op = Op.PKH) := by decide
    rw [genArmInstr_triple htriple hmul]
    simp only [hall op htriple]
    rfl
  split at h
  · rename_i hquad
    obtain rfl := Option.some.inj h
    rw [genArmInstr_quad hquad, if_neg (hshift (by simp [hquad]))]
  split at h
  · rename_i hlong
    have hall : ∀ op ∈ mulLongOps, op ∉ mulOps ∧ op ∉ mlaOps := by decide
    obtain ⟨hmul, hmla⟩ := hall op hlong
    obtain rfl := Option.some.inj h
    rw [genArmInstr_mul (by simp [hlong]), genMulInstr, if_neg hmul, if_neg hmla, if_pos hlong,
      if_neg (hshift (by simp [hlong]))]
    rfl
  split at h
  · rename_i hdata
    obtain ⟨hkind, hu, hpc⟩ := hdata
    have hall : ∀ op ∈ shiftAmountOps, op ∈ armUncategoriedOp := by decide
    rw [genArmInstr_data hu hkind, if_neg fun hmem => hu (hall op hmem)]
    exact congrArg rawInstr (dataBias_of_callOn (by simpa using hpc) h)
  · cases h

/-- The slots of the three opcodes with a biased shift amount lie outside that amount. -/
lemma shiftAmount_slots (hop : op ∈ shiftAmountOps) (h : biasCall op s = some c) :
    ∀ p ∈ c.regs, p.1.reg4 = true ∧ (p.1.endBit < 7 ∨ 11 < p.1.startBit) := by
  have hall : ∀ op ∈ shiftAmountOps, ∀ o ∈ if op = Op.PKH then [(glbInstrTlb op).output0,
      (glbInstrTlb op).input0, (glbInstrTlb op).input1] else [(glbInstrTlb op).output0,
        (glbInstrTlb op).input1], o.reg4 = true ∧ (o.endBit < 7 ∨ 11 < o.startBit) := by
    decide +kernel
  have hregs : c.regs.map Prod.fst = if op = Op.PKH then [(glbInstrTlb op).output0,
      (glbInstrTlb op).input0, (glbInstrTlb op).input1] else [(glbInstrTlb op).output0,
        (glbInstrTlb op).input1] := by
    simp only [shiftAmountOps, List.mem_cons, List.not_mem_nil, or_false] at hop
    rcases hop with rfl | rfl | rfl
    · exact Option.some.inj h ▸ rfl
    · exact Option.some.inj h ▸ rfl
    · exact callOn_slots h
  intro p hp
  exact hall op hop p.1 (hregs ▸ List.mem_map_of_mem hp)

/-- The shift amount is biased outside the register slots, so the write-back can be judged on the
word after the call. -/
lemma writesBack_genArmInstr_iff (h : biasCall op s = some c) :
    c.WritesBack s.rawInstr (genArmInstr op s).2.rawInstr ↔
      c.WritesBack s.rawInstr c.state.rawInstr := by
  have hread : ∀ p ∈ c.regs, getRegnum (genArmInstr op s).2.rawInstr p.1 =
      getRegnum c.state.rawInstr p.1 := by
    intro p hp
    rw [genArmInstr_of_biasCall h]
    split
    · rename_i hshift
      obtain ⟨hreg, haway⟩ := shiftAmount_slots hshift h p hp
      exact getRegnum_biasShiftImm hreg haway c.state
    · rfl
  constructor
  · intro hback
    exact ⟨fun p hp => (hread p hp).symm.trans (hback.readBack p hp), hback.outside⟩
  · intro hback
    exact ⟨fun p hp => (hread p hp).trans (hback.readBack p hp), hback.outside⟩

end

/-- Every ARM generator that biases registers writes back what it tests, and nothing else, exactly
on these inputs: a plain extend draws an even number or names one register twice, and the
immediate of a saturating instruction spells its source register. -/
theorem biasCall_writesBack_iff {op : Opcode} (hop : op < SISA_OP_ARM_MAX) {s : GenState}
    {c : BiasCall} (h : biasCall op s = some c) :
    c.WritesBack s.rawInstr (genArmInstr op s).2.rawInstr ↔
      (op ∈ extOps → s.optStat .allowBiasOpnd = true → s.nextRand % 2 = 0 ∨
        getRegnum s.rawInstr (glbInstrTlb op).output0 =
          getRegnum s.rawInstr (glbInstrTlb op).input0) ∧
      (op ∈ satOps → s.optStat .allowBiasReg = true →
        getBitsValue s.rawInstr (glbInstrTlb op).input0.startBit (glbInstrTlb op).input0.endBit =
          getRegnum s.rawInstr (glbInstrTlb op).input1) := by
  rw [writesBack_genArmInstr_iff h]
  by_cases hext : op ∈ extOps
  · have hsat : op ∉ satOps := fun hsat => (satSlots op hsat).1 hext
    rw [biasCall_ext_iff hext h]
    simp only [hext, hsat, true_implies, false_implies, and_true]
  · by_cases hsat : op ∈ satOps
    · rw [biasCall_sat_iff hsat h]
      simp only [hext, hsat, true_implies, false_implies, true_and]
    · simp only [hext, hsat, false_implies, and_self, iff_true]
      exact biasCall_writesBack hop hext hsat h

/-- A state with both bias options and the next draws 1, 0, 0, …. -/
def biasState (w : Word) : GenState :=
  { sampleState with
    options := (sampleState.options.setOptStat .allowBiasOpnd).setOptStat .allowBiasReg
    rawInstr := w
    randStream := fun i => if i = 0 then 1 else 0 }

/-- `sxtab r2, r1, r3` gets its registers back. -/
theorem biasCall_writesBack_SXTAB :
    Op.SXTAB < SISA_OP_ARM_MAX ∧ ∃ c, biasCall Op.SXTAB (biasState 0xe6a12073) = some c ∧
      c.WritesBack 0xe6a12073 (genArmInstr Op.SXTAB (biasState 0xe6a12073)).2.rawInstr := by
  have hcall : ∃ c, biasCall Op.SXTAB (biasState 0xe6a12073) = some c := ⟨_, rfl⟩
  obtain ⟨c, hc⟩ := hcall
  exact ⟨by decide, c, hc, (@biasCall_writesBack_iff Op.SXTAB (by decide) _ c hc).2
    ⟨fun hmem => absurd hmem (by decide), fun hmem => absurd hmem (by decide)⟩⟩

/-- `sxtb r2, r3` becomes `sxtb r3, r3` although the tested destination is `r2`, and the immediate
of `ssat r1, #1, r3` is overwritten with the number of `r3`. -/
theorem biasCall_not_writesBack :
    (∃ c, biasCall Op.SXTB (biasState 0xe6af2073) = some c ∧
      ¬ c.WritesBack 0xe6af2073 (genArmInstr Op.SXTB (biasState 0xe6af2073)).2.rawInstr) ∧
    ∃ c, biasCall Op.SSAT (biasState 0xe6a01013) = some c ∧
      ¬ c.WritesBack 0xe6a01013 (genArmInstr Op.SSAT (biasState 0xe6a01013)).2.rawInstr := by
  constructor
  · refine ⟨_, rfl, fun h => ?_⟩
    exact absurd (h.readBack _ List.mem_cons_self) (by decide +kernel)
  · refine ⟨_, rfl, fun h => ?_⟩
    exact absurd (h.outside 16 (by decide +kernel)) (by decide +kernel)

end Rit
