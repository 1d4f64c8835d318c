import Rit.Art.Vfp
import Rit.Properties.Build

/-!
# What the floating-point generator emits

`Emits` says once what the helpers of `vfp` can return: for each kind of instruction its operands,
where its core registers come from, and the lines around it.  `genParts_always` proves that every
run ends with one of these, whatever is drawn; no choice is made from an empty list, because the
opcodes for which a list would become empty have been removed before.

The results about `gen_instr` are read off.
-/

namespace Rit.Art.Vfp

open Draw
open Arm (Fmt)
open Rit.Art.Build (coin)

/-! ## Kinds of operands and lines -/

/-- A register list: not empty, within the registers, and no more than 16 doubles. -/
def RegList (a : Arg) : Prop :=
  ∃ f ns, a = .regs f ns ∧ ns ≠ [] ∧ (f = .f64 → ns.length ≤ 16) ∧ ∀ n ∈ ns, n ≤ 31

/-- An operand of an instruction that does not access memory. -/
def Arg.Ok (isARM : Bool) : Arg → Prop
  | .s n => n ≤ 31
  | .d n => n ≤ 31
  | .scalar n _ => n ≤ 31
  | .r n => n ≠ 15 ∧ (isARM = false → n ≠ 13)
  | .bang _ => False
  | .regs _ _ => False
  | .mem _ _ _ => False
  | _ => True

/-- An operand of an instruction of the core. -/
def Arg.IsCore : Arg → Prop
  | .r _ => True
  | .imm _ => True
  | .hex _ => True
  | .hex8 _ => True
  | .address _ _ => True
  | .const _ => True
  | .sp => True
  | _ => False

/-- A line of the core, without a condition. -/
def Inst.IsCore (i : Inst) : Prop :=
  i.op ∈ [Mnemonic.ldr, .bic, .orr, .and, .mov] ∧ i.cond = .none ∧ ∀ a ∈ i.args, a.IsCore

/-- The opcodes whose result may be any NaN; the conversions between the precisions are the others
of this kind. -/
def arithOps : List Op :=
  [.vmla, .vmls, .vmul, .vnmla, .vnmls, .vnmul, .vsqrt, .vadd, .vsub, .vdiv]

/-- A multiplication, an addition, a subtraction, a division, a square root, or a conversion between
the precisions. -/
def Inst.IsArith (i : Inst) : Prop :=
  (∃ op ∈ arithOps, i.op = .vfp op .none) ∨
    i.op = .vfp .vcvt .none ∧ (i.types = [.f32, .f64] ∨ i.types = [.f64, .f32])

/-- An instruction on registers that is not arithmetic in this sense. -/
structure Inst.IsData (isARM : Bool) (i : Inst) : Prop where
  op : ∀ op ∈ memVfpOp, ∀ letter, i.op ≠ .vfp op letter
  notIt : ∀ mask, i.op ≠ .it mask
  notArith : ¬i.IsArith
  cond : i.cond = .hole ∨ i.cond = .none
  args : ∀ a ∈ i.args, a.Ok isARM

/-- The comparison with zero before a conversion to an integer. -/
def testNaN (isARM : Bool) (f : Fmt) (n : ℕ) : List Inst :=
  [{ op := .vfp .vcmp .none, types := [tyOf f], args := [regOf f n, .zero] },
    { op := .vfp .vmrs .none, args := [.apsr "apsr_nzcv", .fpscr] }] ++
  if isARM then [] else [{ op := .it [], args := [.cond .vc] }]

/-- What the helpers return, given the core registers `s` that a base may be. -/
inductive Emits (isARM : Bool) (s : List ℕ) : Parts → Prop
  | none : Emits isARM s ⟨none, [], []⟩
  | mem {op : Op} {f : Fmt} {m n : ℕ} {add : Bool} {imm : ℕ} {pre : List Inst}
      (hop : op = .vldr ∨ op = .vstr) (hm : m ≤ 31) (hn : n ∈ s) (hpc : op = .vstr → n ≠ 15)
      (hpre : ∀ i ∈ pre, i.IsCore) :
      Emits isARM s
        ⟨some ⟨.vfp op .none, .hole, [], [regOf f m, .mem n add imm]⟩, pre, []⟩
  | multi {op : Op} {letter : Letter} {n : ℕ} {wback : Bool} {list : Arg} {pre : List Inst}
      (hop : op = .vldm ∨ op = .vstm) (hlist : RegList list) (hn : n ∈ s)
      (hpc : wback = true ∨ op = .vstm → n ≠ 15) (hpre : ∀ i ∈ pre, i.IsCore) :
      Emits isARM s
        ⟨some ⟨.vfp op letter, .hole, [], [Arg.withBang wback (.r n), list]⟩, pre, []⟩
  | stack {op : Op} {list : Arg} {pre : List Inst} (hop : op = .vpush ∨ op = .vpop)
      (hlist : RegList list) (hpre : ∀ i ∈ pre, i.IsCore) :
      Emits isARM s ⟨some ⟨.vfp op .none, .hole, [], [list]⟩, pre, []⟩
  | data {rinst : Inst} {pre post : List Inst} (hdata : rinst.IsData isARM)
      (hpre : ∀ i ∈ pre, i.IsCore) (hpost : ∀ i ∈ post, i.IsCore) :
      Emits isARM s ⟨some rinst, pre, post⟩
  | arith {f : Fmt} {n ra rb : ℕ} {op : Op} {types : List Ty} {args : List Arg}
      (harith : Inst.IsArith ⟨.vfp op .none, .hole, tyOf f :: types, regOf f n :: args⟩)
      (hn : n ≤ 31) (hargs : ∀ a ∈ args, a.Ok isARM) (hra : ra < 12) (hrb : rb < 12) :
      Emits isARM s
        ⟨some ⟨.vfp op .none, .hole, tyOf f :: types, regOf f n :: args⟩, [],
          fixNaN isARM f n ra rb⟩
  | toInteger {letter : Letter} {ty : Ty} {f : Fmt} {m n : ℕ} (hty : ty = .u32 ∨ ty = .s32)
      (hm : m ≤ 31) (hn : n ≤ 31) :
      Emits isARM s
        ⟨some ⟨.vfp .vcvt letter, .is .vc, [ty, tyOf f], [.s m, regOf f n]⟩, testNaN isARM f n, []⟩

/-! ## Operands -/

section Operands

variable {isARM : Bool}

lemma Arg.ok_regOf {f : Fmt} {n : ℕ} (h : n ≤ 31) : (regOf f n).Ok isARM := by
  cases f <;> exact h

@[simp] lemma Arg.ok_imm (n : ℕ) : (Arg.imm n).Ok isARM := trivial

@[simp] lemma Arg.ok_hex (n : ℕ) : (Arg.hex n).Ok isARM := trivial

@[simp] lemma Arg.ok_zero : Arg.zero.Ok isARM := trivial

@[simp] lemma Arg.ok_cond (c : Arm.Cond) : (Arg.cond c).Ok isARM := trivial

@[simp] lemma Arg.ok_fpscr : Arg.fpscr.Ok isARM := trivial

@[simp] lemma Arg.ok_apsr (name : String) : (Arg.apsr name).Ok isARM := trivial

lemma opType_arg (f : Fmt) (n : ℕ) : (opType f).arg n = regOf f n := by
  cases f <;> rfl

lemma getRandOpnd_always {t : OpType} {lo hi : ℕ} (h : lo ≤ hi) (hcore : t = .coreReg → lo ≤ 15) :
    Always (getRandOpnd t lo hi) fun a => ∃ n, lo ≤ n ∧ n ≤ hi ∧ a = t.arg n := by
  have hle : lo ≤ if t = .coreReg ∧ hi > 15 then 15 else hi := by
    split
    · exact hcore (by tauto)
    · exact h
  refine .draw (.randint hle) fun n => .pure ⟨n.1, n.2.1, ?_, rfl⟩
  have hn := n.2.2
  split at hn <;> omega

lemma getRandReg_always (f : Fmt) :
    Always (getRandOpnd (opType f) 0 31) fun a => ∃ n, n ≤ 31 ∧ a = regOf f n := by
  refine (getRandOpnd_always (by omega) (by cases f <;> simp [opType])).mono ?_
  rintro _ ⟨n, -, hn, rfl⟩
  exact ⟨n, hn, opType_arg f n⟩

/-- The register that has been drawn before. -/
lemma getRandDst_always (f : Fmt) (n : ℕ) :
    Always (getRandOpnd (opType f) n n) fun a => a = regOf f n := by
  refine (getRandOpnd_always le_rfl (by cases f <;> simp [opType])).mono ?_
  rintro _ ⟨m, hm, hm', rfl⟩
  rw [opType_arg, le_antisymm hm' hm]

lemma getRandCore_always {n : ℕ} (hn : n ≤ 15) :
    Always (getRandOpnd .coreReg n n) fun a => a = .r n := by
  refine (getRandOpnd_always le_rfl fun _ => hn).mono ?_
  rintro _ ⟨m, hm, hm', rfl⟩
  rw [le_antisymm hm' hm]
  rfl

variable (isARM) in
lemma getRandImm_always : Always (getRandOpnd .imm 0 255) fun a => a.Ok isARM := by
  refine (getRandOpnd_always (by omega) (by simp)).mono ?_
  rintro _ ⟨n, -, -, rfl⟩
  trivial

lemma quiet_drawFmt : Draw.Quiet drawFmt := Build.quiet_coin.bind fun _ => .pure _

lemma quiet_getRandVFPExpandImm (isF32 : Bool) : Draw.Quiet (getRandVFPExpandImm isF32) := by
  refine .ite (fun _ => ?_) fun _ => ?_
  all_goals
    exact (Draw.Quiet.choice (by simp)).bind fun _ =>
      (Draw.Quiet.randint (by omega)).bind fun _ => .pure _

lemma regList_range' {f : Fmt} {low high : ℕ} (hlow : low < high) (hhigh : high ≤ 32)
    (hlen : f = .f64 → high ≤ low + 16) : RegList (.regs f (List.range' low (high - low))) := by
  refine ⟨f, _, rfl, ?_, ?_, ?_⟩
  · simp only [ne_eq, List.range'_eq_nil_iff]
    omega
  · intro hf
    have := hlen hf
    rw [List.length_range']
    omega
  · intro n hn
    rw [List.mem_range'_1] at hn
    omega

lemma drawList_always : Always drawList RegList := by
  refine .draw Build.quiet_coin fun single => .ite (fun _ => ?_) fun _ => ?_
  · refine .draw (.randint (by omega)) fun low => ?_
    refine .draw (.randint (by omega)) fun high => .pure ?_
    exact regList_range' (by omega) high.2.2 (by simp)
  · refine .draw (.randint (by omega)) fun low => ?_
    refine .draw (.randint (by omega)) fun high => .pure ?_
    have hlow := low.2.2
    have hhigh := high.2
    refine regList_range' ?_ ?_ fun _ => ?_
    all_goals split <;> omega

end Operands

/-! ## Lines around an instruction -/

section Around

/-- The lines that set a base are lines of the core. -/
def CoreLines (mfunc : ℕ → Bool → Gen Unit (List Inst)) : Prop :=
  ∀ n isARM, Always (mfunc n isARM) fun pre => ∀ i ∈ pre, i.IsCore

lemma coreLines_setMemBase : CoreLines setMemBase := by
  intro n isARM
  refine .ite (fun _ => .pure (by simp)) fun _ => .ite (fun _ => .pure ?_) fun _ => ?_
  · simp [Inst.IsCore, Arg.IsCore]
  · refine .draw (.randint (by omega)) fun rval => .ite (fun _ => .pure ?_) fun _ => ?_
    · simp [Inst.IsCore, Arg.IsCore]
    · exact .draw (.randint (by omega)) fun rReg => .pure (by simp [Inst.IsCore, Arg.IsCore])

lemma coreLines_setRegAlign : CoreLines setRegAlign := by
  intro n isARM
  refine .ite (fun _ => .pure ?_) fun _ => .pure ?_
  all_goals split <;> simp [Inst.IsCore, Arg.IsCore]

lemma withBase_always {rinst : Inst} {n : ℕ} {isARM : Bool}
    {mfunc : ℕ → Bool → Gen Unit (List Inst)} (hmfunc : CoreLines mfunc) {P : Parts → Prop}
    (h : ∀ pre, (∀ i ∈ pre, i.IsCore) → P ⟨some rinst, pre, []⟩) :
    Always (withBase rinst n isARM mfunc) P :=
  (Always.drawIf (fun _ => hmfunc n isARM) (by simp)).bind fun pre hpre => .pure (h pre hpre)

lemma getInstrsFixNaN_always (f : Fmt) (n : ℕ) (isARM : Bool) :
    Always (getInstrsFixNaN f n isARM) fun post =>
      ∃ ra rb, ra < 12 ∧ rb < 12 ∧ post = fixNaN isARM f n ra rb := by
  refine .draw (.choice (by simp)) fun ra => ?_
  have hra : ra.1 < 12 := List.mem_range.1 ra.2
  have hlist : (List.range 12).erase ra.1 ≠ [] := by
    rw [← List.length_pos_iff, List.length_erase_of_mem ra.2, List.length_range]
    omega
  refine .bind (P := fun rb => rb < 12) (.drawIf (fun _ => ?_) fun _ => hra) fun rb hrb =>
    .pure ⟨ra.1, rb, hra, hrb, rfl⟩
  exact .draw (.choice hlist) fun rb => .pure (List.mem_range.1 (List.mem_of_mem_erase rb.2))

end Around

/-! ## The helpers -/

section Helpers

variable {isARM : Bool} {s d : List ℕ} {op : Op} {mfunc : ℕ → Bool → Gen Unit (List Inst)}

lemma regsOr_of_ne_nil (h : s ≠ []) : regsOr s = s := if_neg h

lemma ne_nil_of_erase {a : ℕ} (h : s.erase a ≠ []) : s ≠ [] := by
  rintro rfl
  exact h rfl

section Pruned

variable {p : Prop} [Decidable p] {l : List ℕ} {a n : ℕ}

lemma pruned_ne_nil (h : l.erase a ≠ []) : (if p then l.erase a else l) ≠ [] := by
  split
  · exact h
  · exact ne_nil_of_erase h

lemma mem_pruned (hnodup : l.Nodup) (hn : n ∈ if p then l.erase a else l) :
    n ∈ l ∧ (p → n ≠ a) := by
  split at hn
  · have hmem := hnodup.mem_erase_iff.1 hn
    exact ⟨hmem.2, fun _ => hmem.1⟩
  · rename_i hp
    exact ⟨hn, fun h => absurd h hp⟩

end Pruned

lemma genVfpMem_always (hop : op = .vldr ∨ op = .vstr) (hs : s.erase 15 ≠ []) (hnodup : s.Nodup)
    (hmfunc : CoreLines mfunc) : Always (genVfpMem op isARM s mfunc) (Emits isARM s) := by
  unfold genVfpMem
  rw [regsOr_of_ne_nil (ne_nil_of_erase hs)]
  refine .draw Build.quiet_coin fun add => .draw (.choice (by simp)) fun t => ?_
  obtain ⟨f, hf⟩ : ∃ f, t.1 = opType f := by
    obtain ⟨t, ht⟩ := t
    simp only [List.mem_cons, List.not_mem_nil, or_false] at ht
    rcases ht with rfl | rfl
    · exact ⟨.f32, rfl⟩
    · exact ⟨.f64, rfl⟩
  rw [hf]
  refine (getRandReg_always f).bind ?_
  rintro _ ⟨m, hm, rfl⟩
  refine .draw (.choice (pruned_ne_nil hs)) fun n => .draw (.randint (by omega)) fun imm => ?_
  obtain ⟨hn, hpc⟩ := mem_pruned hnodup n.2
  exact withBase_always hmfunc fun pre hpre => .mem hop hm hn hpc hpre

lemma genBase_always {list : Arg} {n : ℕ} {wback : Bool} (hop : op = .vldm ∨ op = .vstm)
    (hlist : RegList list) (hn : n ∈ s) (hle : n ≤ 15) (hpc : wback = true ∨ op = .vstm → n ≠ 15)
    (hmfunc : CoreLines mfunc) : Always (genBase op isARM mfunc list n wback) (Emits isARM s) := by
  refine .draw (.drawIf (fun _ => ?_) _) fun mode => (getRandCore_always hle).bind ?_
  · exact (Draw.Quiet.choice (by simp)).bind fun _ => .pure _
  · rintro _ rfl
    exact withBase_always hmfunc fun pre hpre => .multi hop hlist hn hpc hpre

lemma genVfpMultiMem_always (hop : op ∈ [Op.vldm, .vstm, .vpush, .vpop])
    (hs : (s.erase 15).erase 15 ≠ []) (hnodup : s.Nodup) (hle : ∀ n ∈ s, n ≤ 15)
    (hmfunc : CoreLines mfunc) : Always (genVfpMultiMem op isARM s mfunc) (Emits isARM s) := by
  have hs' := ne_nil_of_erase hs
  have hmem : ∀ n ∈ (if isARM then s else s.erase 15), n ∈ s := by
    intro n hn
    split at hn
    · exact hn
    · exact List.mem_of_mem_erase hn
  have hnodup' : (if isARM then s else s.erase 15).Nodup := by
    split
    · exact hnodup
    · exact hnodup.erase 15
  have herase : (if isARM then s else s.erase 15).erase 15 ≠ [] := by
    split
    · exact hs'
    · exact hs
  unfold genVfpMultiMem
  rw [regsOr_of_ne_nil (ne_nil_of_erase hs')]
  refine drawList_always.bind fun list hlist => ?_
  dsimp only
  generalize (if isARM then s else s.erase 15) = l at hmem hnodup' herase
  have hpc : ∀ n ∈ l.erase 15, n ≠ 15 := fun n hn => (hnodup'.mem_erase_iff.1 hn).1
  simp only [List.mem_cons, List.not_mem_nil, or_false] at hop
  rcases hop with rfl | rfl | rfl | rfl
  · refine .draw Build.quiet_coin fun wback => .draw (.choice (pruned_ne_nil herase)) fun n => ?_
    obtain ⟨hn, hpc⟩ := mem_pruned hnodup' n.2
    refine genBase_always (.inl rfl) hlist (hmem _ hn) (hle _ (hmem _ hn)) ?_ hmfunc
    rintro (hw | hstm)
    · exact hpc hw
    · cases hstm
  · refine .draw (.choice herase) fun n => .draw Build.quiet_coin fun wback => ?_
    have hn := hmem _ (List.mem_of_mem_erase n.2)
    exact genBase_always (.inr rfl) hlist hn (hle _ hn) (fun _ => hpc _ n.2) hmfunc
  · exact withBase_always hmfunc fun pre hpre => .stack (.inl rfl) hlist hpre
  · exact withBase_always hmfunc fun pre hpre => .stack (.inr rfl) hlist hpre

/-! ### System registers -/

lemma isData_vfp {letter : Letter} {cond : Slot} {types : List Ty} {args : List Arg}
    (hmem : op ∉ memVfpOp) (harith : op ∉ arithOps)
    (hcvt : op ≠ .vcvt ∨ types ≠ [.f32, .f64] ∧ types ≠ [.f64, .f32])
    (hcond : cond = .hole ∨ cond = .none) (hargs : ∀ a ∈ args, a.Ok isARM) :
    Inst.IsData isARM ⟨.vfp op letter, cond, types, args⟩ where
  op := by
    rintro op' hop' letter' ⟨⟩
    exact hmem hop'
  notIt := fun _ h => by cases h
  notArith := by
    rintro (⟨op', hop', ⟨⟩⟩ | ⟨⟨⟩, htypes⟩)
    · exact harith hop'
    · rcases hcvt with h | h
      · exact h rfl
      · exact htypes.elim h.1 h.2
  cond := hcond
  args := hargs

/-- The registers `gen_vfp_sr` draws from. -/
lemma mem_thumbRegs {l : List ℕ} {n : ℕ} (hnodup : l.Nodup)
    (hn : n ∈ if isARM then l else l.erase 13) : n ∈ l ∧ (isARM = false → n ≠ 13) := by
  cases isARM with
  | true => exact ⟨hn, by simp⟩
  | false =>
    have hmem := hnodup.mem_erase_iff.1 hn
    exact ⟨hmem.2, fun _ => hmem.1⟩

lemma nodup_thumbRegs {l : List ℕ} (hnodup : l.Nodup) :
    (if isARM then l else l.erase 13).Nodup := by
  split
  · exact hnodup
  · exact hnodup.erase 13

lemma genVfpSr_always (hop : op = .vmsr ∨ op = .vmrs) (hs : s ≠ []) (hd : d ≠ [])
    (hsnodup : s.Nodup) (hdnodup : d.Nodup) (hmsr : (if isARM then s else s.erase 13) ≠ [] →
      (if isARM then s else s.erase 13).erase 15 ≠ []) :
    Always (genVfpSr op isARM s d) (Emits isARM s) := by
  unfold genVfpSr
  rw [regsOr_of_ne_nil hs, regsOr_of_ne_nil hd]
  refine .ite (fun _ => .pure .none) fun hne => ?_
  rw [not_or] at hne
  rcases hop with rfl | rfl
  · refine .draw (.choice (hmsr hne.2)) fun rval => ?_
    obtain ⟨hpc, hrval⟩ := (nodup_thumbRegs hsnodup).mem_erase_iff.1 rval.2
    have hok : (Arg.r rval.1).Ok isARM := ⟨hpc, (mem_thumbRegs hsnodup hrval).2⟩
    have hdata : Inst.IsData isARM ⟨.vfp .vmsr .none, .hole, [], [.fpscr, .r rval.1]⟩ := by
      refine isData_vfp (by decide) (by decide) (.inl (by decide)) (.inl rfl) ?_
      simp [hok]
    refine .ite (fun _ => ?_) fun hrest => ?_
    · exact .draw (.choice (by simp)) fun mask =>
        .pure (.data hdata (by simp [Inst.IsCore, Arg.IsCore]) (by simp))
    · exact .draw (.choice hrest) fun tmp =>
        .pure (.data hdata (by simp [Inst.IsCore, Arg.IsCore]) (by simp))
  · refine .draw (.choice hne.1) fun rval => .ite (fun hlt => .pure ?_) fun _ => .pure ?_
    · refine .data (isData_vfp (by decide) (by decide) (.inl (by decide)) (.inl rfl) ?_) (by simp)
        (by simp [getInstrsFixFPSCR, Inst.IsCore, Arg.IsCore])
      have hok : (Arg.r rval.1).Ok isARM := ⟨hlt.ne, (mem_thumbRegs hdnodup rval.2).2⟩
      simp [hok]
    · exact .data (isData_vfp (by decide) (by decide) (.inl (by decide)) (.inl rfl)
        (by simp)) (by simp) (by simp)

/-! ### Arithmetic -/

lemma isArith_of_mem {types : List Ty} {args : List Arg} {cond : Slot} (hop : op ∈ arithOps) :
    Inst.IsArith ⟨.vfp op .none, cond, types, args⟩ :=
  .inl ⟨op, hop, rfl⟩

lemma genThree_always (hop : op ∈ arithOps) : Always (genThree op isARM) (Emits isARM s) := by
  refine .draw quiet_drawFmt fun f => .draw (.randint (by omega)) fun dst => ?_
  refine (getRandDst_always f dst.1).bind ?_
  rintro _ rfl
  refine (getRandReg_always f).bind ?_
  rintro _ ⟨n, hn, rfl⟩
  refine (getRandReg_always f).bind ?_
  rintro _ ⟨m, hm, rfl⟩
  refine (getInstrsFixNaN_always f dst.1 isARM).bind ?_
  rintro _ ⟨ra, rb, hra, hrb, rfl⟩
  refine .pure (.arith (isArith_of_mem hop) dst.2.2 ?_ hra hrb)
  simp [Arg.ok_regOf hn, Arg.ok_regOf hm]

lemma cmpArgs_always (isARM : Bool) (f : Fmt) (withZero : Bool) :
    Always (cmpArgs f withZero) fun args => ∀ a ∈ args, a.Ok isARM := by
  refine (getRandReg_always f).bind ?_
  rintro _ ⟨n, hn, rfl⟩
  refine .ite (fun _ => .pure ?_) fun _ => (getRandReg_always f).bind ?_
  · simp [Arg.ok_regOf hn]
  · rintro _ ⟨m, hm, rfl⟩
    exact .pure (by simp [Arg.ok_regOf hn, Arg.ok_regOf hm])

lemma genVfpCmp_always : Always (genVfpCmp .vcmp) (Emits isARM s) := by
  refine .draw quiet_drawFmt fun f => .draw Build.quiet_coin fun withZero => ?_
  refine (cmpArgs_always isARM f withZero).bind fun args hargs => ?_
  refine .draw (.choice (by simp)) fun quiet => .pure ?_
  exact .data (isData_vfp (by decide) (by decide) (.inl (by decide)) (.inl rfl) hargs) (by simp)
    (by simp)

lemma genVfpBinary_always (hop : op = .vabs ∨ op = .vneg ∨ op = .vsqrt) :
    Always (genVfpBinary op isARM) (Emits isARM s) := by
  refine .draw quiet_drawFmt fun f => .draw (.randint (by omega)) fun dst => ?_
  refine (getRandDst_always f dst.1).bind ?_
  rintro _ rfl
  refine (getRandReg_always f).bind ?_
  rintro _ ⟨m, hm, rfl⟩
  -- only the square root can make a NaN
  by_cases hsqrt : op = .vsqrt
  · subst hsqrt
    refine (getInstrsFixNaN_always f dst.1 isARM).bind ?_
    rintro _ ⟨ra, rb, hra, hrb, rfl⟩
    refine .pure (.arith (isArith_of_mem (by decide)) dst.2.2 ?_ hra hrb)
    simp [Arg.ok_regOf hm]
  · rw [Draw.drawIf, if_neg hsqrt]
    refine .pure (.data (isData_vfp ?_ ?_ (.inl ?_) (.inl rfl) ?_) (by simp) (by simp))
    · rcases hop with rfl | rfl | rfl <;> decide
    · rcases hop with rfl | rfl | rfl
      · decide
      · decide
      · exact absurd rfl hsqrt
    · rcases hop with rfl | rfl | rfl <;> decide
    · simp [Arg.ok_regOf hm, Arg.ok_regOf dst.2.2]

/-! ### Moves -/

lemma mem_coreRegs {l : List ℕ} {n : ℕ} (hnodup : l.Nodup) (hn : n ∈ coreRegs isARM l) :
    (Arg.r n).Ok isARM := by
  cases isARM with
  | true =>
    have hmem := hnodup.mem_erase_iff.1 hn
    exact ⟨hmem.1, by simp⟩
  | false =>
    have hmem := (hnodup.erase 15).mem_erase_iff.1 hn
    exact ⟨(hnodup.mem_erase_iff.1 hmem.2).1, fun _ => hmem.1⟩

/-- A move without lines around it. -/
lemma emits_move {types : List Ty} {args : List Arg} (hargs : ∀ a ∈ args, a.Ok isARM) :
    Emits isARM s (moveParts .vmov types args) :=
  .data (isData_vfp (by decide) (by decide) (.inl (by decide)) (.inl rfl) hargs) (by simp) (by simp)

lemma Arg.ok_index {n x : ℕ} (h : n ≤ 31) : (Arg.index x (regOf .f64 n)).Ok isARM := h

lemma movImm_always : Always (movImm .vmov) (Emits isARM s) := by
  refine .draw Build.quiet_coin fun single => .ite (fun _ => ?_) fun _ => ?_
  · refine (getRandReg_always .f32).bind ?_
    rintro _ ⟨n, hn, rfl⟩
    refine .draw (quiet_getRandVFPExpandImm true) fun imm => .pure (emits_move ?_)
    simp [Arg.ok_regOf hn]
  · refine (getRandReg_always .f64).bind ?_
    rintro _ ⟨n, hn, rfl⟩
    refine (getRandImm_always isARM).bind fun imm himm =>
      .pure (.data ⟨?_, ?_, ?_, .inl rfl, ?_⟩ ?_ ?_)
    · simp
    · simp
    · simp [Inst.IsArith]
    · simp [Arg.ok_regOf hn, himm]
    · simp
    · simp

lemma movReg_always : Always (movReg .vmov) (Emits isARM s) := by
  refine .draw Build.quiet_coin fun single => ?_
  refine (getRandReg_always _).bind ?_
  rintro _ ⟨n, hn, rfl⟩
  refine (getRandReg_always _).bind ?_
  rintro _ ⟨m, hm, rfl⟩
  exact .pure (emits_move (by simp [Arg.ok_regOf hn, Arg.ok_regOf hm]))

section Core

variable {l l' : List ℕ}

lemma movToScalar_always (hne : coreRegs isARM l ≠ []) (hnodup : l.Nodup) :
    Always (movToScalar .vmov isARM l) (Emits isARM s) := by
  refine .draw (.choice hne) fun rval => ?_
  have hr := mem_coreRegs hnodup rval.2
  refine (getRandReg_always .f64).bind ?_
  rintro _ ⟨n, hn, rfl⟩
  refine .draw (.randint (by omega)) fun x => .pure (emits_move ?_)
  simp [Arg.ok_index hn, hr]

lemma movOfScalar_always (hne : coreRegs isARM l ≠ []) (hnodup : l.Nodup) :
    Always (movOfScalar .vmov isARM l) (Emits isARM s) := by
  refine .draw (.choice hne) fun rval => ?_
  have hr := mem_coreRegs hnodup rval.2
  refine (getRandReg_always .f64).bind ?_
  rintro _ ⟨n, hn, rfl⟩
  refine .draw (.randint (by omega)) fun x => .pure (emits_move ?_)
  simp [Arg.ok_index hn, hr]

variable (hne : coreRegs isARM l ≠ []) (hnodup : l.Nodup)
  (hne' : 1 < (coreRegs isARM l').length) (hnodup' : l'.Nodup)
include hne hnodup hne' hnodup'

lemma movSingle_always : Always (movSingle .vmov isARM l l') (Emits isARM s) := by
  refine .draw Build.quiet_coin fun toArm => .ite (fun _ => ?_) fun _ => ?_
  · refine .draw (.choice (List.ne_nil_of_length_pos (by omega))) fun rval => ?_
    have hr := mem_coreRegs hnodup' rval.2
    refine (getRandReg_always .f32).bind ?_
    rintro _ ⟨n, hn, rfl⟩
    refine .pure (emits_move ?_)
    simp [Arg.ok_regOf hn, hr]
  · refine .draw (.choice hne) fun rval => ?_
    have hr := mem_coreRegs hnodup rval.2
    refine (getRandReg_always .f32).bind ?_
    rintro _ ⟨n, hn, rfl⟩
    refine .pure (emits_move ?_)
    simp [Arg.ok_regOf hn, hr]

lemma drawPair_always (toArm : Bool) :
    Always (drawPair isARM toArm l l') fun t => (Arg.r t.1).Ok isARM ∧ (Arg.r t.2).Ok isARM := by
  refine .ite (fun _ => ?_) fun _ => ?_
  · refine .draw (.choice (List.ne_nil_of_length_pos (by omega))) fun t => ?_
    have hrest : (coreRegs isARM l').erase t.1 ≠ [] :=
      List.ne_nil_of_length_pos (lt_length_erase hne' t.1)
    refine .draw (.choice hrest) fun t2 => .pure ⟨mem_coreRegs hnodup' t.2, ?_⟩
    exact mem_coreRegs hnodup' (List.mem_of_mem_erase t2.2)
  · exact .draw (.choice hne) fun t => .draw (.choice hne) fun t2 =>
      .pure ⟨mem_coreRegs hnodup t.2, mem_coreRegs hnodup t2.2⟩

lemma movSingles_always : Always (movSingles .vmov isARM l l') (Emits isARM s) := by
  refine .draw Build.quiet_coin fun toArm => .draw (.randint (by omega)) fun m => ?_
  refine (drawPair_always hne hnodup hne' hnodup' toArm).bind fun t ht => .pure (emits_move ?_)
  have hm : (Arg.s m.1).Ok isARM := m.2.2.trans (by omega)
  have hm' : (Arg.s (m.1 + 1)).Ok isARM := Nat.succ_le_succ m.2.2
  split
  all_goals simp [ht.1, ht.2, hm, hm']

lemma movDouble_always : Always (movDouble .vmov isARM l l') (Emits isARM s) := by
  refine .draw Build.quiet_coin fun toArm => (getRandReg_always .f64).bind ?_
  rintro _ ⟨n, hn, rfl⟩
  refine (drawPair_always hne hnodup hne' hnodup' toArm).bind fun t ht => .pure (emits_move ?_)
  split
  all_goals simp [ht.1, ht.2, Arg.ok_regOf hn]

lemma genVfpMov_always : Always (genVfpMov .vmov isARM l l') (Emits isARM s) := by
  have hl : l ≠ [] := by
    rintro rfl
    exact hne (by cases isARM <;> rfl)
  have hl' : l' ≠ [] := by
    rintro rfl
    exact absurd hne' (by cases isARM <;> simp [coreRegs])
  unfold genVfpMov
  rw [regsOr_of_ne_nil hl, regsOr_of_ne_nil hl']
  refine .draw (.randint (by omega)) fun movType => ?_
  refine .ite (fun _ => movImm_always) fun _ => .ite (fun _ => movReg_always) fun _ => ?_
  refine .ite (fun _ => movToScalar_always hne hnodup) fun _ => ?_
  refine .ite (fun _ => ?_) fun _ => ?_
  · exact movOfScalar_always (List.ne_nil_of_length_pos (by omega)) hnodup'
  refine .ite (fun _ => movSingle_always hne hnodup hne' hnodup') fun _ => ?_
  exact .ite (fun _ => movSingles_always hne hnodup hne' hnodup') fun _ =>
    movDouble_always hne hnodup hne' hnodup'

end Core

/-! ### Conversions -/

/-- A conversion without lines around it, and not between the precisions. -/
lemma emits_cvt {letter : Letter} {types : List Ty} {args : List Arg}
    (htypes : types ≠ [.f32, .f64] ∧ types ≠ [.f64, .f32]) (hargs : ∀ a ∈ args, a.Ok isARM) :
    Emits isARM s ⟨some ⟨.vfp .vcvt letter, .hole, types, args⟩, [], []⟩ :=
  .data (isData_vfp (by decide) (by decide) (.inr htypes) (.inl rfl) hargs) (by simp) (by simp)

lemma cvtInteger_always : Always (cvtInteger .vcvt isARM) (Emits isARM s) := by
  refine .draw Build.quiet_coin fun toInteger => .draw quiet_drawFmt fun f => ?_
  refine .draw (.choice (by simp)) fun tm => ?_
  have htm : tm.1 = .u32 ∨ tm.1 = .s32 := by simpa using tm.2
  refine (getRandReg_always .f32).bind ?_
  rintro _ ⟨m, hm, rfl⟩
  refine (getRandReg_always f).bind ?_
  rintro _ ⟨n, hn, rfl⟩
  refine .ite (fun _ => ?_) fun _ => .pure (emits_cvt ?_ ?_)
  · refine .draw (.choice (by simp)) fun letter =>
      .ite (fun _ => .pure (emits_cvt ?_ ?_)) fun _ => ?_
    · rcases htm with h | h <;> simp [h]
    · simp [Arg.ok_regOf hm, Arg.ok_regOf hn]
    · exact .pure (.toInteger htm hm hn)
  · rcases htm with h | h <;> simp [h]
  · simp [Arg.ok_regOf hm, Arg.ok_regOf hn]

lemma quiet_drawFbits (size32 : Bool) : Draw.Quiet (drawFbits size32) := by
  refine .ite (fun _ => ?_) fun _ => ?_
  all_goals exact (Draw.Quiet.randint (by omega)).bind fun _ => .pure _

lemma cvtFixed_always : Always (cvtFixed .vcvt) (Emits isARM s) := by
  refine .draw Build.quiet_coin fun toFixed => .draw quiet_drawFmt fun f => ?_
  refine .draw (.choice (by simp)) fun size32 => .draw (.choice (by simp)) fun unsigned => ?_
  refine .draw (quiet_drawFbits size32.1) fun fbits => ?_
  refine .bind (P := fun old : Option Inst => ∀ i ∈ old, i.IsData isARM) (.drawIf (fun _ => ?_) ?_)
    fun old hold => (getRandReg_always f).bind ?_
  · refine (getRandReg_always f).bind ?_
    rintro _ ⟨n, hn, rfl⟩
    refine .pure ?_
    rintro _ ⟨⟩
    refine ⟨?_, ?_, ?_, .inr rfl, by simp [Arg.ok_regOf hn]⟩
    all_goals cases toFixed <;> simp [Inst.IsArith]
  · simp
  · rintro _ ⟨n, hn, rfl⟩
    refine .pure ?_
    cases old with
    | some i =>
      change Emits isARM s ⟨some i, [], []⟩
      exact .data (hold i rfl) (by simp) (by simp)
    | none =>
      refine emits_cvt ?_ (by simp [Arg.ok_regOf hn])
      cases toFixed <;> cases unsigned.1 <;> cases size32.1 <;> simp

lemma cvtFloat_always : Always (cvtFloat .vcvt isARM) (Emits isARM s) := by
  refine .draw Build.quiet_coin fun doubleToSingle => .draw (.randint (by omega)) fun dst => ?_
  refine (getRandDst_always _ dst.1).bind ?_
  rintro _ rfl
  refine (getRandReg_always _).bind ?_
  rintro _ ⟨m, hm, rfl⟩
  refine (getInstrsFixNaN_always _ dst.1 isARM).bind ?_
  rintro _ ⟨ra, rb, hra, hrb, rfl⟩
  refine .pure (.arith (.inr ⟨rfl, ?_⟩) dst.2.2 ?_ hra hrb)
  · cases doubleToSingle
    · exact .inr rfl
    · exact .inl rfl
  · simp [Arg.ok_regOf hm]

lemma cvtHalf_always : Always (cvtHalf .vcvt) (Emits isARM s) := by
  refine .draw (.choice (by simp)) fun lowbit => ?_
  refine .bind (P := fun types => types ∈ [[Ty.f32, .f16], [.f16, .f32]])
    (.drawIf (fun _ => .draw (.choice (by simp)) fun l => .pure l.2) (by simp))
    fun types htypes => ?_
  refine (getRandReg_always .f32).bind ?_
  rintro _ ⟨n, hn, rfl⟩
  refine (getRandReg_always .f32).bind ?_
  rintro _ ⟨m, hm, rfl⟩
  refine .pure (emits_cvt ?_ (by simp [Arg.ok_regOf hn, Arg.ok_regOf hm]))
  simp only [List.mem_cons, List.not_mem_nil, or_false] at htypes
  rcases htypes with rfl | rfl <;> simp

lemma genVfpCvt_always : Always (genVfpCvt .vcvt isARM) (Emits isARM s) := by
  refine .draw (.choice ?_) fun cvtType => ?_
  · split <;> simp [List.range']
  · refine .ite (fun _ => cvtInteger_always) fun _ => .ite (fun _ => cvtFixed_always) fun _ => ?_
    exact .ite (fun _ => cvtFloat_always) fun _ => cvtHalf_always

end Helpers

/-! ## The opcodes -/

section Opcodes

/-- The opcodes of the list are those with `P`. -/
structure Opcodes (P : Op → Prop) (l : List Op) : Prop where
  nodup : l.Nodup
  mem : ∀ op, op ∈ l ↔ P op

variable {P : Op → Prop} {l ops : List Op}

/-- Removing opcodes that are there does not raise. -/
lemma removeOps_eq (h : Opcodes P l) (hops : ops.Nodup) (hP : ∀ op ∈ ops, P op) :
    ∃ l', removeOps l ops = pure l' ∧ Opcodes (fun op => P op ∧ op ∉ ops) l' := by
  induction ops generalizing l P with
  | nil => exact ⟨l, rfl, h.nodup, by simpa using h.mem⟩
  | cons a ops ih =>
    have ha : a ∈ l := (h.mem a).2 (hP a (by simp))
    have herase : Opcodes (fun op => P op ∧ op ≠ a) (l.erase a) := by
      refine ⟨h.nodup.erase a, fun op => ?_⟩
      rw [h.nodup.mem_erase_iff, h.mem, and_comm]
    have hrest : ∀ op ∈ ops, P op ∧ op ≠ a := by
      intro op hop
      refine ⟨hP op (List.mem_cons_of_mem _ hop), ?_⟩
      rintro rfl
      exact (List.nodup_cons.1 hops).1 hop
    obtain ⟨l', heq, hl'⟩ := ih herase (List.nodup_cons.1 hops).2 hrest
    refine ⟨l', ?_, hl'.nodup, by simpa [and_assoc] using hl'.mem⟩
    rw [removeOps, remove, if_pos ha, pure_bind, heq]

lemma removeIf_eq (c : Prop) [Decidable c] (ops : List Op) (h : Opcodes P l) (hops : ops.Nodup)
    (hP : c → ∀ op ∈ ops, P op) :
    ∃ l', Draw.drawIf c (removeOps l ops) l = pure l' ∧
      Opcodes (fun op => P op ∧ (c → op ∉ ops)) l' := by
  by_cases hc : c
  · obtain ⟨l', heq, hl'⟩ := removeOps_eq h hops (hP hc)
    exact ⟨l', by rw [Draw.drawIf, if_pos hc, heq], by simpa [hc] using hl'⟩
  · exact ⟨l, by rw [Draw.drawIf, if_neg hc], by simpa [hc] using h⟩

end Opcodes

/-- The opcodes that `getOpcodes` leaves. -/
structure Allowed (isARM : Bool) (srcReg dstReg : ℕ) (op : Op) : Prop where
  base : srcReg > 12 → op ∉ [Op.vldr, .vstr, .vldm, .vstm]
  stack : srcReg > 13 → op ∉ [Op.vpush, .vpop]
  pc : srcReg = 15 → op ≠ .vmsr
  sp : srcReg = 13 ∧ isARM = false → op ∉ [Op.vmsr, .vmov]
  dst : dstReg > 12 → op ≠ .vmov
  dstSp : dstReg = 13 ∧ isARM = false → op ≠ .vmrs

lemma getOpcodes_eq (isARM : Bool) (srcReg dstReg : ℕ) :
    ∃ l, getOpcodes isARM srcReg dstReg = pure l ∧ Opcodes (Allowed isARM srcReg dstReg) l := by
  have hall : Opcodes (fun _ => True) opcodes :=
    ⟨by decide, fun op => by cases op <;> simp [opcodes]⟩
  obtain ⟨l₁, e₁, h₁⟩ := removeIf_eq (srcReg > 12) [.vldr, .vstr, .vldm, .vstm] hall (by decide)
    (by simp)
  obtain ⟨l₂, e₂, h₂⟩ := removeIf_eq (srcReg > 13) [.vpush, .vpop] h₁ (by decide) (by simp)
  obtain ⟨l₃, e₃, h₃⟩ := removeIf_eq (srcReg = 15) [.vmsr] h₂ (by decide) (by simp)
  obtain ⟨l₄, e₄, h₄⟩ := removeIf_eq (srcReg = 13 ∧ isARM = false) [.vmsr, .vmov] h₃ (by decide)
    (by simp +contextual)
  obtain ⟨l₅, e₅, h₅⟩ := removeIf_eq (dstReg > 12 ∧ .vmov ∈ l₄) [.vmov] h₄ (by decide)
    (fun hdst op hop => by rw [List.mem_singleton.1 hop]; exact (h₄.mem .vmov).1 hdst.2)
  obtain ⟨l₆, e₆, h₆⟩ := removeIf_eq (dstReg = 13 ∧ isARM = false) [.vmrs] h₅ (by decide) (by simp)
  refine ⟨l₆, ?_, h₆.nodup, fun op => ?_⟩
  · simp only [getOpcodes, e₁, pure_bind, e₂, e₃, e₄, e₅, e₆]
  rw [h₆.mem]
  constructor
  · rintro ⟨⟨⟨⟨⟨⟨-, hbase⟩, hstack⟩, hpc⟩, hsp⟩, hdst⟩, hdstSp⟩
    refine ⟨hbase, hstack, by simpa using hpc, hsp, fun hgt => ?_, by simpa using hdstSp⟩
    rintro rfl
    have hmem : Op.vmov ∈ l₄ := (h₄.mem .vmov).2 ⟨⟨⟨⟨trivial, hbase⟩, hstack⟩, hpc⟩, hsp⟩
    simpa using hdst ⟨hgt, hmem⟩
  · intro h
    refine ⟨⟨⟨⟨⟨⟨trivial, h.base⟩, h.stack⟩, ?_⟩, h.sp⟩, fun hdst => ?_⟩, ?_⟩
    · simpa using h.pc
    · simpa using h.dst hdst.1
    · simpa using h.dstSp

/-! ## `gen_instr` -/

section Generate

variable {isARM : Bool} {srcReg dstReg : ℕ}

/-- The lists that `getRegs` returns. -/
def regClasses : List (List ℕ) :=
  [List.range 16, List.range' 0 4, List.range' 4 4, List.range' 8 5, [13]]

lemma getRegs_mem (reg : ℕ) : getRegs reg ∈ regClasses := by
  unfold getRegs
  split_ifs <;> simp [regClasses]

lemma getRegs_eq_sp {reg : ℕ} (h : getRegs reg = [13]) : reg = 13 := by
  unfold getRegs at h
  split_ifs at h with h0 h1 h2 h3 h4
  all_goals first | exact h4 | exact absurd h (by decide)

/-- What is left of a class of registers after pruning it. -/
lemma regClasses_pruned : ∀ l ∈ regClasses, l ≠ [] ∧ l.Nodup ∧ (∀ n ∈ l, n ≤ 15) ∧
    l.erase 15 ≠ [] ∧ (l.erase 15).erase 15 ≠ [] ∧
    (∀ isARM : Bool, (if isARM then l else l.erase 13) ≠ [] →
      (if isARM then l else l.erase 13).erase 15 ≠ []) ∧
    (∀ isARM, l ≠ [13] ∨ isARM = true → coreRegs isARM l ≠ []) ∧
    ∀ isARM, l ≠ [13] → 1 < (coreRegs isARM l).length := by
  decide

lemma vfpGenHelper_always {op : Op} {mfunc : ℕ → Bool → Gen Unit (List Inst)}
    (hop : Allowed isARM srcReg dstReg op) (hmfunc : CoreLines mfunc) :
    Always (vfpGenHelper op isARM (getRegs srcReg) (getRegs dstReg) mfunc)
      (Emits isARM (getRegs srcReg)) := by
  obtain ⟨hs, hsnodup, hsle, hs15, hs1515, hmsr, hscore, -⟩ :=
    regClasses_pruned _ (getRegs_mem srcReg)
  obtain ⟨hd, hdnodup, -, -, -, -, -, hdcore⟩ := regClasses_pruned _ (getRegs_mem dstReg)
  have hmulti : ∀ op ∈ [Op.vldm, .vstm, .vpush, .vpop],
      Always (genVfpMultiMem op isARM (getRegs srcReg) mfunc) (Emits isARM (getRegs srcReg)) :=
    fun op hop => genVfpMultiMem_always hop hs1515 hsnodup hsle hmfunc
  cases op with
  | vldr => exact genVfpMem_always (.inl rfl) hs15 hsnodup hmfunc
  | vstr => exact genVfpMem_always (.inr rfl) hs15 hsnodup hmfunc
  | vldm => exact hmulti .vldm (by simp)
  | vstm => exact hmulti .vstm (by simp)
  | vpush => exact hmulti .vpush (by simp)
  | vpop => exact hmulti .vpop (by simp)
  | vmsr => exact genVfpSr_always (.inl rfl) hs hd hsnodup hdnodup (hmsr isARM)
  | vmrs => exact genVfpSr_always (.inr rfl) hs hd hsnodup hdnodup (hmsr isARM)
  | vcmp => exact genVfpCmp_always
  | vabs => exact genVfpBinary_always (.inl rfl)
  | vneg => exact genVfpBinary_always (.inr (.inl rfl))
  | vsqrt => exact genVfpBinary_always (.inr (.inr rfl))
  | vcvt => exact genVfpCvt_always
  | vmov =>
    -- a class without registers for a move has had the opcode removed
    have hsrc : getRegs srcReg ≠ [13] ∨ isARM = true := by
      by_contra! hcon
      exact hop.sp ⟨getRegs_eq_sp hcon.1, by simpa using hcon.2⟩ (by simp)
    have hdst : getRegs dstReg ≠ [13] := by
      intro heq
      exact hop.dst (by rw [getRegs_eq_sp heq]; omega) rfl
    exact genVfpMov_always (hscore isARM hsrc) hsnodup (hdcore isARM hdst) hdnodup
  | _ => exact genThree_always (by decide)

/-- Whatever is drawn, a helper returns parts of the shape it should. -/
lemma genParts_always (isARM : Bool) (srcReg dstReg : ℕ) (allowFix : Bool) :
    Always (genParts isARM srcReg dstReg allowFix) (Emits isARM (getRegs srcReg)) := by
  have hcvt : Allowed isARM srcReg dstReg .vcvt := by constructor <;> simp
  obtain ⟨l, heq, hl⟩ := getOpcodes_eq isARM srcReg dstReg
  have hmem : Op.vcvt ∈ l := (hl.mem _).2 hcvt
  rw [genParts, heq, pure_bind]
  refine .ite (fun _ => ?_) fun _ => ?_
  · refine .draw (.choice (List.ne_nil_of_mem hmem)) fun op => ?_
    exact vfpGenHelper_always ((hl.mem _).1 op.2) coreLines_setMemBase
  · have hmem' : Op.vcvt ∈ l.erase .vmrs := (List.mem_erase_of_ne (by decide)).2 hmem
    refine .draw (.choice (List.ne_nil_of_mem hmem')) fun op => ?_
    refine vfpGenHelper_always ((hl.mem _).1 (List.mem_of_mem_erase op.2)) ?_
    split
    · exact coreLines_setRegAlign
    · exact coreLines_setMemBase

lemma reinitList_always : Always reinitList RegList := by
  refine .draw Build.quiet_coin fun single => .ite (fun _ => ?_) fun _ => ?_
  · refine .draw (.randint (by omega)) fun low => ?_
    have hlow := low.2.2
    refine .draw (.randint (by omega)) fun high => .pure ?_
    exact regList_range' (by omega) high.2.2 (by simp)
  · refine .draw (.randint (by omega)) fun low => ?_
    refine .draw (.randint (by omega)) fun high => .pure ?_
    have hlow := low.2.2
    have hhigh := high.2
    refine regList_range' ?_ ?_ fun _ => ?_
    all_goals split <;> omega

/-- The lines of `reinitVFPRegs`. -/
inductive Reinit : List Inst → Prop
  | none : Reinit []
  | load {n offset : ℕ} {list : Arg} (hn : n ≤ 12) (hlist : RegList list) :
      Reinit [{ op := .ldr, args := [.r n, .address "bv_vfp" offset] },
        { op := .vfp .vldm .ia, args := [.r n, list] }]

lemma reinitVFPRegs_always (limit : ℕ) : Always (reinitVFPRegs "bv_vfp" limit) Reinit := by
  refine .draw (.randint (by omega)) fun baseReg => ?_
  refine .draw (.drawIf (fun _ => ?_) _) fun offset => reinitList_always.bind fun list hlist => ?_
  · exact (Draw.Quiet.randint (by omega)).bind fun _ => .pure _
  · exact .pure (.load baseReg.2.2 hlist)

/-- What `gen_instr` returns: the parts of a helper, after lines that may set the registers. -/
inductive Returns (isARM : Bool) (cond : ℕ) (s : List ℕ) : Option (List Inst) → Prop
  | none : Returns isARM cond s none
  | some {reinit pre post : List Inst} {rinst : Inst} (hreinit : Reinit reinit)
      (hparts : Emits isARM s ⟨some rinst, pre, post⟩) :
      Returns isARM cond s
        (some (reinit ++ pre ++ [rinst.fill (if isARM then condCode[cond]? else none)] ++ post))

lemma setInstCond_eq {cond : ℕ} (hcond : cond ≤ 14) (i : Inst) :
    setInstCond i cond = pure (i.fill condCode[cond]?) := by
  unfold setInstCond
  split
  · rename_i hal
    rw [hal]
    rfl
  · have hlt : cond < condCode.length := by
      change cond < 14
      omega
    rw [List.getElem?_eq_getElem hlt]

/-- In Thumb code the instruction has no condition. -/
lemma setInstCond_isa (isARM : Bool) {cond : ℕ} (hcond : cond ≤ 14) (i : Inst) :
    setInstCond i (if isARM then cond else 14) =
      pure (i.fill (if isARM then condCode[cond]? else none)) := by
  cases isARM with
  | true => exact setInstCond_eq hcond i
  | false => exact setInstCond_eq le_rfl i

lemma genInstr_always (isARM : Bool) {cond : ℕ} (hcond : cond ≤ 14) (srcReg dstReg : ℕ)
    (allowFix : Bool) :
    Always (genInstr isARM cond srcReg dstReg allowFix) (Returns isARM cond (getRegs srcReg)) := by
  refine (genParts_always isARM srcReg dstReg allowFix).bind fun parts hparts => ?_
  obtain ⟨rinst, pre, post⟩ := parts
  cases rinst with
  | none => exact .pure .none
  | some rinst =>
    refine .draw (.randint (by omega)) fun rval => ?_
    refine .bind (.drawIf (fun _ => reinitVFPRegs_always 512) fun _ => .none)
      fun reinit hreinit => ?_
    rw [setInstCond_isa isARM hcond, pure_bind]
    exact .pure (.some hreinit hparts)

end Generate

end Rit.Art.Vfp
