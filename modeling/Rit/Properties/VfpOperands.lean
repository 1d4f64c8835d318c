import Rit.Properties.Vfp

/-!
# The operands of floating-point instructions

Two properties of every line that `gen_instr` returns, both read off `Emits`.  The operands are
legal, and generation never fails.  With `allow_fix` false the bases were meant to stay in the class
of the source register: they do in the instruction proper, unless the class is that of register 0,
which `getRegs` takes for no class at all; they do not in the lines that `reinitVFPRegs` puts before
it.
-/

namespace Rit.Art.Vfp

open Draw
open Arm (Fmt)

/-! ## Legal operands -/

/-- The opcode of a floating-point mnemonic. -/
def Mnemonic.vfp? : Mnemonic → Option Op
  | vfp op _ => some op
  | _ => none

/-- The core register in an operand of a memory instruction. -/
def Arg.base? : Arg → Option ℕ
  | .mem n _ _ => some n
  | .r n => some n
  | .bang n => some n
  | _ => none

/-- The base of a load or a store; those of the stack name none. -/
def Inst.bases (i : Inst) : List ℕ :=
  if i.op.vfp? ∈ [some .vldr, some .vstr, some .vldm, some .vstm] then i.args.filterMap Arg.base?
  else []

/-- The registers exist, a list is neither empty nor too long, the program counter is no base of a
store or of an instruction that writes its base back, and in Thumb code `r13` is no operand of a
move to or from a core register. -/
structure Inst.Legal (isARM : Bool) (i : Inst) : Prop where
  single : ∀ n, .s n ∈ i.args → n ≤ 31
  double : ∀ n, .d n ∈ i.args → n ≤ 31
  scalar : ∀ n x, .scalar n x ∈ i.args → n ≤ 31
  list : ∀ f ns, .regs f ns ∈ i.args →
    1 ≤ ns.length ∧ (f = .f64 → ns.length ≤ 16) ∧ ∀ n ∈ ns, n ≤ 31
  store : i.op.vfp? ∈ [some .vstr, some .vstm] → 15 ∉ i.bases
  wback : .bang 15 ∉ i.args
  core : isARM = false → i.op.vfp? ∈ [some .vmov, some .vmsr, some .vmrs] → .r 13 ∉ i.args

section Legal

variable {isARM : Bool} {s : List ℕ} {i : Inst}

/-- Operands that are fine are legal in every instruction that does not store. -/
lemma legal_of_ok (hop : i.op.vfp? ∉ [some .vstr, some .vstm]) (h : ∀ a ∈ i.args, a.Ok isARM) :
    i.Legal isARM where
  single _ hn := h _ hn
  double _ hn := h _ hn
  scalar _ _ hn := h _ hn
  list _ _ hns := (h _ hns).elim
  store hstore := absurd hstore hop
  wback hbang := h _ hbang
  core hthumb _ hr := (h _ hr).2 hthumb rfl

lemma Inst.IsCore.vfp?_eq_none (h : i.IsCore) : i.op.vfp? = none := by
  have hop := h.1
  simp only [List.mem_cons, List.not_mem_nil, or_false] at hop
  rcases hop with h | h | h | h | h <;> rw [h] <;> rfl

lemma Inst.IsCore.legal (h : i.IsCore) : i.Legal isARM where
  single _ hn := (h.2.2 _ hn).elim
  double _ hn := (h.2.2 _ hn).elim
  scalar _ _ hn := (h.2.2 _ hn).elim
  list _ _ hns := (h.2.2 _ hns).elim
  store hstore := by simp [h.vfp?_eq_none] at hstore
  wback hbang := h.2.2 _ hbang
  core _ hop := by simp [h.vfp?_eq_none] at hop

/-- The base is the only core register of a load or a store. -/
lemma bases_mem_subset {op : Op} {cond : Slot} {f : Fmt} {m n imm : ℕ} {add : Bool} :
    Inst.bases ⟨.vfp op .none, cond, [], [regOf f m, .mem n add imm]⟩ ⊆ [n] := by
  unfold Inst.bases
  split
  · cases f <;> exact List.Subset.refl [n]
  · simp

lemma bases_multi_subset {op : Op} {letter : Letter} {cond : Slot} {n : ℕ} {wback : Bool}
    {list : Arg} (hlist : RegList list) :
    Inst.bases ⟨.vfp op letter, cond, [], [Arg.withBang wback (.r n), list]⟩ ⊆ [n] := by
  obtain ⟨f, ns, rfl, -⟩ := hlist
  unfold Inst.bases
  split
  · cases wback <;> simp [Arg.withBang, Arg.base?]
  · simp

lemma legal_mem {op : Op} {cond : Slot} {f : Fmt} {m n imm : ℕ} {add : Bool}
    (hop : op = .vldr ∨ op = .vstr) (hm : m ≤ 31) (hpc : op = .vstr → n ≠ 15) :
    Inst.Legal isARM ⟨.vfp op .none, cond, [], [regOf f m, .mem n add imm]⟩ := by
  refine ⟨?_, ?_, ?_, ?_, fun hstore hmem => ?_, ?_, fun _ hmove => ?_⟩
  · cases f <;> simp [regOf, hm]
  · cases f <;> simp [regOf, hm]
  · cases f <;> simp [regOf]
  · cases f <;> simp [regOf]
  · have hn := List.mem_singleton.1 (bases_mem_subset hmem)
    rcases hop with rfl | rfl
    · simp [Mnemonic.vfp?] at hstore
    · exact hpc rfl hn.symm
  · cases f <;> simp [regOf]
  · rcases hop with rfl | rfl <;> simp [Mnemonic.vfp?] at hmove

lemma legal_multi {op : Op} {letter : Letter} {cond : Slot} {wback : Bool} {n : ℕ} {list : Arg}
    (hop : op = .vldm ∨ op = .vstm) (hlist : RegList list)
    (hpc : wback = true ∨ op = .vstm → n ≠ 15) :
    Inst.Legal isARM ⟨.vfp op letter, cond, [], [Arg.withBang wback (.r n), list]⟩ := by
  obtain ⟨f, ns, rfl, hne, hlen, hle⟩ := id hlist
  refine ⟨?_, ?_, ?_, fun g ms hmem => ?_, fun hstore hmem => ?_, fun hbang => ?_,
    fun _ hmove => ?_⟩
  · cases wback <;> simp [Arg.withBang]
  · cases wback <;> simp [Arg.withBang]
  · cases wback <;> simp [Arg.withBang]
  · obtain ⟨rfl, rfl⟩ : g = f ∧ ms = ns := by cases wback <;> simpa [Arg.withBang] using hmem
    exact ⟨List.length_pos_iff.2 hne, hlen, hle⟩
  · have hn := List.mem_singleton.1 (bases_multi_subset hlist hmem)
    rcases hop with rfl | rfl
    · simp [Mnemonic.vfp?] at hstore
    · exact hpc (.inr rfl) hn.symm
  · cases wback with
    | true => exact hpc (.inl rfl) (by simpa [Arg.withBang, eq_comm] using hbang)
    | false => simp [Arg.withBang] at hbang
  · rcases hop with rfl | rfl <;> simp [Mnemonic.vfp?] at hmove

lemma legal_stack {op : Op} {cond : Slot} {list : Arg} (hop : op = .vpush ∨ op = .vpop)
    (hlist : RegList list) : Inst.Legal isARM ⟨.vfp op .none, cond, [], [list]⟩ := by
  obtain ⟨f, ns, rfl, hne, hlen, hle⟩ := hlist
  refine ⟨by simp, by simp, by simp, ?_, fun hstore => ?_, by simp, fun _ hmove => ?_⟩
  · intro g ms hmem
    obtain ⟨rfl, rfl⟩ : g = f ∧ ms = ns := by simpa using hmem
    exact ⟨List.length_pos_iff.2 hne, hlen, hle⟩
  · rcases hop with rfl | rfl <;> simp [Mnemonic.vfp?] at hstore
  · rcases hop with rfl | rfl <;> simp [Mnemonic.vfp?] at hmove

/-- The lines that replace a NaN. -/
lemma legal_fixNaN {f : Fmt} {n ra rb : ℕ} (hn : n ≤ 31) (hra : ra < 12) (hrb : rb < 12) :
    ∀ i ∈ fixNaN isARM f n ra rb, i.Legal isARM := by
  have hok : ∀ i ∈ fixNaN isARM f n ra rb, i.op.vfp? ∉ [some .vstr, some .vstm] ∧
      ∀ a ∈ i.args, a.Ok isARM := by
    have ha : (Arg.r ra).Ok isARM := ⟨by omega, fun _ => by omega⟩
    have hb : (Arg.r rb).Ok isARM := ⟨by omega, fun _ => by omega⟩
    have hs : (Arg.s n).Ok isARM := hn
    have hd : (Arg.d n).Ok isARM := hn
    cases f <;> cases isARM <;>
      simp [fixNaN, Mnemonic.vfp?, regOf, ha, hb, hs, hd, Arg.ok_zero, Arg.ok_cond]
  exact fun i hi => legal_of_ok (hok i hi).1 (hok i hi).2

/-- The comparison before a conversion. -/
lemma legal_testNaN {f : Fmt} {n : ℕ} (hn : n ≤ 31) : ∀ i ∈ testNaN isARM f n, i.Legal isARM := by
  have hok : ∀ i ∈ testNaN isARM f n, i.op.vfp? ∉ [some .vstr, some .vstm] ∧
      ∀ a ∈ i.args, a.Ok isARM := by
    cases isARM <;> simp [testNaN, Mnemonic.vfp?, Arg.ok_regOf hn]
  exact fun i hi => legal_of_ok (hok i hi).1 (hok i hi).2

@[simp] lemma Inst.fill_op (i : Inst) (c : Option Arm.Cond) : (i.fill c).op = i.op := by
  unfold Inst.fill
  split <;> rfl

@[simp] lemma Inst.fill_args (i : Inst) (c : Option Arm.Cond) : (i.fill c).args = i.args := by
  unfold Inst.fill
  split <;> rfl

/-- The condition does not matter. -/
lemma Inst.Legal.fill (h : i.Legal isARM) (c : Option Arm.Cond) : (i.fill c).Legal isARM := by
  have hbases : (i.fill c).bases = i.bases := by simp only [Inst.bases, fill_op, fill_args]
  obtain ⟨h₁, h₂, h₃, h₄, h₅, h₆, h₇⟩ := h
  constructor
  all_goals simpa only [fill_op, fill_args, hbases]

/-- An arithmetic instruction does not access memory. -/
lemma Inst.IsArith.vfp?_ne (h : i.IsArith) : ∀ op ∈ memVfpOp, i.op.vfp? ≠ some op := by
  have hdisjoint : ∀ op ∈ arithOps, op ∉ memVfpOp := by decide
  intro op hop
  rcases h with ⟨op', hop', hi⟩ | ⟨hi, -⟩
  · rw [hi]
    rintro ⟨⟩
    exact hdisjoint op hop' hop
  · rw [hi]
    rintro ⟨⟩
    exact absurd hop (by decide)

/-- Neither does an instruction on registers. -/
lemma Inst.IsData.vfp?_ne (h : i.IsData isARM) : ∀ op ∈ memVfpOp, i.op.vfp? ≠ some op := by
  intro op hop heq
  obtain ⟨letter, hletter⟩ : ∃ letter, i.op = .vfp op letter := by
    cases hi : i.op with
    | vfp op' letter =>
      rw [hi] at heq
      obtain rfl : op' = op := by simpa [Mnemonic.vfp?] using heq
      exact ⟨letter, rfl⟩
    | _ => simp [hi, Mnemonic.vfp?] at heq
  exact h.op op hop letter hletter

lemma Inst.IsData.legal (h : i.IsData isARM) : i.Legal isARM := by
  refine legal_of_ok ?_ h.args
  simp [h.vfp?_ne .vstr (by decide), h.vfp?_ne .vstm (by decide)]

/-- The parts that a helper returns are legal. -/
lemma Emits.legal {rinst : Inst} {pre post : List Inst}
    (h : Emits isARM s ⟨some rinst, pre, post⟩) :
    (∀ i ∈ pre, i.Legal isARM) ∧ rinst.Legal isARM ∧ ∀ i ∈ post, i.Legal isARM := by
  cases h with
  | mem hop hm hn hpc hpre => exact ⟨fun i hi => (hpre i hi).legal, legal_mem hop hm hpc, by simp⟩
  | multi hop hlist hn hpc hpre =>
    exact ⟨fun i hi => (hpre i hi).legal, legal_multi hop hlist hpc, by simp⟩
  | stack hop hlist hpre =>
    exact ⟨fun i hi => (hpre i hi).legal, legal_stack hop hlist, by simp⟩
  | data hdata hpre hpost =>
    exact ⟨fun i hi => (hpre i hi).legal, hdata.legal, fun i hi => (hpost i hi).legal⟩
  | arith harith hn hargs hra hrb =>
    refine ⟨by simp, legal_of_ok ?_ ?_, legal_fixNaN hn hra hrb⟩
    · simp [harith.vfp?_ne .vstr (by decide), harith.vfp?_ne .vstm (by decide)]
    · simp only [List.forall_mem_cons]
      exact ⟨Arg.ok_regOf hn, hargs⟩
  | toInteger hty hm hn =>
    refine ⟨legal_testNaN hn, legal_of_ok (by simp [Mnemonic.vfp?]) ?_, by simp⟩
    simp only [List.forall_mem_cons]
    exact ⟨hm, Arg.ok_regOf hn, by simp⟩

lemma Reinit.legal {reinit : List Inst} (h : Reinit reinit) : ∀ i ∈ reinit, i.Legal isARM := by
  cases h with
  | none => simp
  | @load n offset list hn hlist =>
    have hcore : Inst.IsCore ⟨.ldr, .none, [], [.r n, .address "bv_vfp" offset]⟩ :=
      ⟨by simp, rfl, by simp [Arg.IsCore]⟩
    have hload : Inst.Legal isARM ⟨.vfp .vldm .ia, .none, [], [Arg.withBang false (.r n), list]⟩ :=
      legal_multi (.inl rfl) hlist (by simp)
    simp only [List.forall_mem_cons]
    exact ⟨hcore.legal, hload, by simp⟩

end Legal

/-- `gen_instr` raises no exception, and what it returns is legal. -/
theorem genInstr_legal (isARM : Bool) (cond : Fin 15) (srcReg dstReg : ℕ) (allowFix : Bool) :
    Always (genInstr isARM cond srcReg dstReg allowFix)
      fun ret => ∀ insts ∈ ret, ∀ i ∈ insts, i.Legal isARM := by
  have hcond : cond.val ≤ 14 := Nat.lt_succ_iff.1 cond.isLt
  refine (genInstr_always isARM hcond srcReg dstReg allowFix).mono fun ret hret => ?_
  cases hret with
  | none => simp
  | some hreinit hparts =>
    obtain ⟨hpre, hrinst, hpost⟩ := hparts.legal
    rintro _ ⟨⟩
    simp only [List.forall_mem_append, List.forall_mem_singleton]
    exact ⟨⟨⟨hreinit.legal, hpre⟩, hrinst.fill _⟩, hpost⟩

/-! ## Bases -/

/-- The class that a source register names. -/
def classOf (srcReg : ℕ) : List ℕ :=
  if srcReg < 4 then List.range' 0 4
  else if srcReg < 8 then List.range' 4 4
  else if srcReg < 13 then List.range' 8 5
  else [13]

/-- The bases of loads and stores are in the class. -/
def InClass (srcReg : ℕ) (insts : List Inst) : Prop :=
  ∀ i ∈ insts, ∀ n ∈ i.bases, n ∈ classOf srcReg

instance (srcReg : ℕ) (insts : List Inst) : Decidable (InClass srcReg insts) :=
  inferInstanceAs (Decidable (∀ i ∈ insts, ∀ n ∈ i.bases, n ∈ classOf srcReg))

/-- The lines that a helper returns. -/
def Parts.lines (p : Parts) : List Inst := p.preinst ++ p.rinst.toList ++ p.postinst

section Bases

variable {isARM : Bool} {s : List ℕ} {i : Inst}

lemma bases_eq_nil (h : ∀ op ∈ memVfpOp, i.op.vfp? ≠ some op) : i.bases = [] := by
  refine if_neg ?_
  simp [h .vldr (by decide), h .vstr (by decide), h .vldm (by decide), h .vstm (by decide)]

lemma Inst.IsCore.bases_eq_nil (h : i.IsCore) : i.bases = [] :=
  Vfp.bases_eq_nil (by simp [h.vfp?_eq_none])

lemma bases_fixNaN {f : Fmt} {n ra rb : ℕ} : ∀ i ∈ fixNaN isARM f n ra rb, i.bases = [] := by
  cases f <;> cases isARM <;> simp [fixNaN, Inst.bases, Mnemonic.vfp?]

lemma bases_testNaN {f : Fmt} {n : ℕ} : ∀ i ∈ testNaN isARM f n, i.bases = [] := by
  cases isARM <;> simp [testNaN, Inst.bases, Mnemonic.vfp?]

/-- The helpers draw a base from the registers they are given. -/
lemma Emits.bases_subset {p : Parts} (h : Emits isARM s p) : ∀ i ∈ p.lines, i.bases ⊆ s := by
  have hcore : ∀ l : List Inst, (∀ i ∈ l, i.IsCore) → ∀ i ∈ l, i.bases ⊆ s := by
    intro l hl i hi
    simp [(hl i hi).bases_eq_nil]
  cases h with
  | none => simp [Parts.lines]
  | mem hop hm hn hpc hpre =>
    simp only [Parts.lines, List.forall_mem_append]
    refine ⟨⟨hcore _ hpre, ?_⟩, by simp⟩
    simpa using List.Subset.trans bases_mem_subset (List.cons_subset.2 ⟨hn, List.nil_subset s⟩)
  | multi hop hlist hn hpc hpre =>
    simp only [Parts.lines, List.forall_mem_append]
    refine ⟨⟨hcore _ hpre, ?_⟩, by simp⟩
    simpa using List.Subset.trans (bases_multi_subset hlist)
      (List.cons_subset.2 ⟨hn, List.nil_subset s⟩)
  | stack hop hlist hpre =>
    simp only [Parts.lines, List.forall_mem_append]
    refine ⟨⟨hcore _ hpre, ?_⟩, by simp⟩
    rcases hop with rfl | rfl <;> simp [Inst.bases, Mnemonic.vfp?]
  | data hdata hpre hpost =>
    simp only [Parts.lines, List.forall_mem_append]
    refine ⟨⟨hcore _ hpre, ?_⟩, hcore _ hpost⟩
    simp [bases_eq_nil hdata.vfp?_ne]
  | arith harith hn hargs hra hrb =>
    simp only [Parts.lines, List.forall_mem_append]
    refine ⟨⟨by simp, ?_⟩, fun i hi => by simp [bases_fixNaN i hi]⟩
    simp [bases_eq_nil harith.vfp?_ne]
  | toInteger hty hm hn =>
    simp only [Parts.lines, List.forall_mem_append]
    refine ⟨⟨fun i hi => by simp [bases_testNaN i hi], ?_⟩, by simp⟩
    simp [Inst.bases, Mnemonic.vfp?]

end Bases

/-! ### Draws that leave the class -/

section May

lemma may_coin (b : Bool) : May (Build.coin : Gen Unit Bool) b :=
  (May.choice (by cases b <;> simp)).bind (.pure _)

lemma may_drawFmt (f : Fmt) : May drawFmt f := by
  cases f with
  | f32 => exact (may_coin false).bind (.pure _)
  | f64 => exact (may_coin true).bind (.pure _)

lemma may_getRandOpnd {t : OpType} (ht : t ≠ .coreReg) {lo hi n : ℕ} (h : lo ≤ n ∧ n ≤ hi) :
    May (getRandOpnd t lo hi) (t.arg n) := by
  have hmax : (if t = .coreReg ∧ hi > 15 then 15 else hi) = hi := if_neg fun hcore => ht hcore.1
  exact (May.randint (by rwa [hmax])).bind (.pure _)

/-- The absolute value may be drawn for all arguments. -/
lemma may_genParts_vabs (isARM : Bool) (srcReg dstReg : ℕ) :
    May (genParts isARM srcReg dstReg false)
      ⟨some ⟨.vfp .vabs .none, .hole, [.f64], [.d 0, .d 0]⟩, [], []⟩ := by
  obtain ⟨l, heq, hl⟩ := getOpcodes_eq isARM srcReg dstReg
  have habs : Op.vabs ∈ l.erase .vmrs :=
    (List.mem_erase_of_ne (by decide)).2 ((hl.mem _).2 (by constructor <;> simp))
  have hreg : May (getRandOpnd (opType .f64) 0 31) (.d 0) := may_getRandOpnd (by decide) (by omega)
  have hdst : May (getRandOpnd (opType .f64) 0 0) (.d 0) := may_getRandOpnd (by decide) (by omega)
  rw [genParts, heq, pure_bind]
  refine (May.choice habs).bind ((may_drawFmt .f64).bind ?_)
  refine (May.randint (n := 0) (by omega)).bind ?_
  exact hdst.bind (hreg.bind ((May.pure _).bind (.pure _)))

/-- For register 0 a load with base 4 may be drawn. -/
lemma may_genParts_zero (isARM : Bool) (dstReg : ℕ) :
    May (genParts isARM 0 dstReg false)
      ⟨some ⟨.vfp .vldr .none, .hole, [], [.s 0, .mem 4 true 0]⟩,
        [{ op := .bic, args := [.r 4, .r 4, .imm 3] }], []⟩ := by
  obtain ⟨l, heq, hl⟩ := getOpcodes_eq isARM 0 dstReg
  have hldr : Op.vldr ∈ l.erase .vmrs :=
    (List.mem_erase_of_ne (by decide)).2 ((hl.mem _).2 (by constructor <;> simp))
  have hreg : May (getRandOpnd .spReg 0 31) (.s 0) := may_getRandOpnd (by decide) (by omega)
  have hbase : May (setRegAlign 4 isARM) [{ op := .bic, args := [.r 4, .r 4, .imm 3] }] := by
    cases isARM <;> exact .pure _
  have hfour : 4 ∈ if Op.vldr = .vstr then (regsOr (getRegs 0)).erase 15
      else regsOr (getRegs 0) := by decide
  rw [genParts, heq, pure_bind]
  refine (May.choice hldr).bind ((may_coin true).bind ?_)
  refine (May.choice (a := OpType.spReg) (by simp)).bind (hreg.bind ?_)
  refine (May.choice hfour).bind ((May.randint (n := 0) (by omega)).bind ?_)
  exact (May.drawIf_pos (show 4 < 15 by omega) [] hbase).bind (.pure _)

/-- Before any instruction the registers may be set, from any base. -/
lemma may_genInstr_reinit (isARM : Bool) {cond : ℕ} (hcond : cond ≤ 14) (srcReg dstReg : ℕ) {n : ℕ}
    (hn : n ≤ 12) :
    ∃ insts, May (genInstr isARM cond srcReg dstReg false) (some insts) ∧
      ⟨.vfp .vldm .ia, .none, [], [.r n, .regs .f32 [0]]⟩ ∈ insts := by
  have hlist : May reinitList (.regs .f32 [0]) := by
    refine (may_coin true).bind ((May.randint (n := 0) (by omega)).bind ?_)
    exact (May.randint (n := 1) ⟨le_rfl, by omega⟩).bind (.pure _)
  have hoffset : May (do let k ← randint 0 (512 - 64); pure (k.1 * 4) : Gen Unit ℕ) (0 * 4) :=
    (May.randint (n := 0) (by omega)).bind (.pure _)
  have hreinit : May (reinitVFPRegs "bv_vfp" 512)
      [{ op := .ldr, args := [.r n, .address "bv_vfp" (0 * 4)] },
        { op := .vfp .vldm .ia, args := [.r n, .regs .f32 [0]] }] := by
    refine (May.randint (n := n) ⟨by omega, hn⟩).bind ?_
    exact (May.drawIf_pos (by omega) _ hoffset).bind (hlist.bind (.pure _))
  let rinst : Inst := ⟨.vfp .vabs .none, .hole, [.f64], [.d 0, .d 0]⟩
  refine ⟨[{ op := .ldr, args := [.r n, .address "bv_vfp" (0 * 4)] },
    { op := .vfp .vldm .ia, args := [.r n, .regs .f32 [0]] }] ++ [] ++
      [rinst.fill (if isARM then condCode[cond]? else none)] ++ [], ?_, by simp⟩
  refine (may_genParts_vabs isARM srcReg dstReg).bind ((May.randint (n := 81) (by omega)).bind ?_)
  refine (May.drawIf_pos (show 81 > 80 by omega) [] hreinit).bind ?_
  rw [setInstCond_isa isARM hcond, pure_bind]
  exact .pure _

end May

/-- Every class leaves out one of the registers that `reinitVFPRegs` draws from. -/
lemma exists_not_mem_classOf (srcReg : ℕ) : ∃ n ≤ 12, n ∉ classOf srcReg := by
  unfold classOf
  split_ifs
  · exact ⟨4, by omega, by decide⟩
  · exact ⟨0, by omega, by decide⟩
  · exact ⟨0, by omega, by decide⟩
  · exact ⟨0, by omega, by decide⟩

lemma getRegs_eq_classOf {srcReg : ℕ} (hne : srcReg ≠ 0) (hlt : srcReg < 14) :
    getRegs srcReg = classOf srcReg := by
  unfold getRegs classOf
  split_ifs
  any_goals rfl
  all_goals omega

/-- For no class do the bases stay in it, whatever is drawn.  Without the lines of `reinitVFPRegs`
they do, but for register 0. -/
theorem genInstr_inClass_never (isARM : Bool) (cond : Fin 15) (srcReg : Fin 14) (dstReg : ℕ) :
    ¬Always (genInstr isARM cond srcReg dstReg false)
        (fun ret => ∀ insts ∈ ret, InClass srcReg insts) ∧
      (Always (genParts isARM srcReg dstReg false) (fun p => InClass srcReg p.lines) ↔
        srcReg ≠ 0) := by
  have hcond : cond.val ≤ 14 := Nat.lt_succ_iff.1 cond.isLt
  refine ⟨fun hall => ?_, fun hall hzero => ?_, fun hne => ?_⟩
  · obtain ⟨n, hn, hclass⟩ := exists_not_mem_classOf srcReg
    obtain ⟨insts, hmay, hmem⟩ := may_genInstr_reinit isARM hcond srcReg dstReg hn
    have hbase : n ∈ Inst.bases ⟨.vfp .vldm .ia, .none, [], [.r n, .regs .f32 [0]]⟩ := by
      simp [Inst.bases, Mnemonic.vfp?, Arg.base?]
    exact hclass (hmay.of_always hall insts rfl _ hmem n hbase)
  · subst hzero
    have hin := (may_genParts_zero isARM dstReg).of_always hall
    have hfour := hin ⟨.vfp .vldr .none, .hole, [], [.s 0, .mem 4 true 0]⟩ (by simp [Parts.lines]) 4
      (by simp [Inst.bases, Mnemonic.vfp?, Arg.base?])
    exact absurd hfour (by decide)
  · have hregs := getRegs_eq_classOf (Fin.val_ne_of_ne hne) srcReg.isLt
    refine (genParts_always isARM srcReg dstReg false).mono fun p hp i hi n hn => ?_
    rw [← hregs]
    exact hp.bases_subset i hi hn

/-- With 13 for the class, `vldmia r0, {s0}` before a `vabs`. -/
theorem genInstr_sp_loads_r0 :
    ∃ insts, ((genInstr true 14 13 16 false).run
        ⟨feed [10, 0, 0, 0, 0, 81] fun _ => 0, ()⟩).toOption.map Prod.fst = some (some insts) ∧
      ¬InClass 13 insts := by
  refine ⟨[{ op := .ldr, args := [.r 0, .address "bv_vfp" 0] },
    { op := .vfp .vldm .ia, args := [.r 0, .regs .f32 [0]] },
    { op := .vfp .vabs .none, types := [.f64], args := [.d 0, .d 0] }], ?_, ?_⟩
  · rfl
  · decide

end Rit.Art.Vfp
