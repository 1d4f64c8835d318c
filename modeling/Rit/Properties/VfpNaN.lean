import Rit.Properties.Vfp

/-!
# NaN payloads do not escape

Where the result of an arithmetic instruction is a NaN, which one it is may differ from one
processor to the next.  `gen_instr` therefore has each such instruction followed by lines that
compare the result with zero and, if V says that it is a NaN, overwrite it with ones, by way of core
registers that end with ones too.

`Inst.meaning` gives the lines of these sequences their meaning on the machine of `Arm.Fpu`.  Two
runs of a sequence from one state, with results of the arithmetic instruction that are the same or
both NaNs, end in the same state.
-/

namespace Rit.Art.Vfp

open Draw
open Arm (Fmt Fpu FpOp FpLine SameUpToNaN IsNaN runFp)

/-! ## Meaning -/

/-- A core register. -/
def coreReg? (n : ℕ) : Option Arm.Reg := if h : n < 16 then some ⟨n, h⟩ else none

/-- An extension register. -/
def fpReg? (n : ℕ) : Option (Fin 32) := if h : n < 32 then some ⟨n, h⟩ else none

/-- The words of a register list. -/
def listWords (f : Fmt) (ns : List ℕ) : Option (List (Fin 64)) :=
  (ns.mapM fpReg?).map fun ns => ns.flatMap fun n =>
    match f with
    | .f32 => [Arm.single n]
    | .f64 => [Arm.lower n, Arm.upper n]

instance (i : Inst) : Decidable i.IsArith := inferInstanceAs (Decidable (_ ∨ _))

/-- The destination of an arithmetic instruction. -/
def arithMeaning : List Ty → List Arg → Option FpOp
  | .f32 :: _, .s n :: _ => (fpReg? n).map (.arith .f32)
  | .f64 :: _, .d n :: _ => (fpReg? n).map (.arith .f64)
  | _, _ => none

/-- The other instructions of the sequences; `addr` gives the addresses of labels. -/
def otherMeaning (addr : String → Arm.Word) : Mnemonic → List Ty → List Arg → Option FpOp
  | .it _, _, _ => some .skip
  | .ldr, [], [.r n, .address label offset] =>
    (coreReg? n).map fun r => .core (.ldrConst r (addr label + .ofNat 32 offset))
  | .mvn, [], [.r n, .imm k] =>
    (coreReg? n).map fun r => .core (.alu .mvn r r (.imm (.ofNat 32 k)))
  | .vfp .vldm .ia, [], [.r n, .regs f ns] =>
    (coreReg? n).bind fun r => (listWords f ns).map (.loadWords r)
  | .vfp .vcmp .none, [.f32], [.s n, .zero] => (fpReg? n).map (.cmpZero .f32)
  | .vfp .vcmp .none, [.f64], [.d n, .zero] => (fpReg? n).map (.cmpZero .f64)
  | .vfp .vmrs .none, [], [.apsr _, .fpscr] => some .mrsFlags
  | .vfp .vmov .none, [], [.r t, .s n] =>
    (coreReg? t).bind fun t => (fpReg? n).map (.toCore t)
  | .vfp .vmov .none, [], [.s n, .r t] =>
    (fpReg? n).bind fun n => (coreReg? t).map (.ofCore n)
  | .vfp .vmov .none, [], [.r t, .r t2, .d n] =>
    (coreReg? t).bind fun t => (coreReg? t2).bind fun t2 => (fpReg? n).map (.toCores t t2)
  | .vfp .vmov .none, [], [.d n, .r t, .r t2] =>
    (fpReg? n).bind fun n => (coreReg? t).bind fun t => (coreReg? t2).map (.ofCores n t)
  | _, _, _ => none

/-- The condition of a line; a hole has none. -/
def Slot.meaning : Slot → Option (Option Arm.Cond)
  | .none => some Option.none
  | .hole => Option.none
  | .is c => some (some c)

/-- The meaning of a line, for the sequences with an arithmetic instruction. -/
def Inst.meaning (addr : String → Arm.Word) (i : Inst) : Option FpLine :=
  i.cond.meaning.bind fun c =>
    (if i.IsArith then arithMeaning i.types i.args else otherMeaning addr i.op i.types i.args).map
      fun op => (c, op)

/-! ## Replacing a NaN -/

/-- The code of `fixNaN`. -/
def fixCode (isARM : Bool) (n : Fin 32) (ra rb : Arm.Reg) : Fmt → List FpLine
  | .f32 => [(none, .cmpZero .f32 n), (none, .mrsFlags)] ++
      (if isARM then [] else [(none, .skip)]) ++
      [(some .vs, .toCore ra n), (some .vs, .core (.alu .mvn ra ra (.imm 0))),
        (some .vs, .ofCore n ra)]
  | .f64 => [(none, .cmpZero .f64 n), (none, .mrsFlags)] ++
      (if isARM then [] else [(none, .skip)]) ++
      [(some .vs, .toCores ra rb n), (some .vs, .core (.alu .mvn ra ra (.imm 0))),
        (some .vs, .core (.alu .mvn rb rb (.imm 0))), (some .vs, .ofCores n ra rb)]

section Repair

variable {res res' : (f : Fmt) → f.Bits} {isARM : Bool} {ra rb : Arm.Reg} {n : Fin 32} {s : Fpu}

/-- A register that gets ones in the end does not keep what it had in between. -/
lemma update_ones (regs : Arm.Reg → Arm.Word) (ra rb : Arm.Reg) (x y v : Arm.Word) :
    Function.update (Function.update (Function.update (Function.update regs ra x) rb y) ra v) rb v =
      Function.update (Function.update regs ra v) rb v := by
  funext r
  by_cases hb : r = rb
  · simp only [hb, Function.update_self]
  · by_cases ha : r = ra
    · simp only [ha, Function.update_self, Function.update_of_ne (ha ▸ hb)]
    · simp only [Function.update_of_ne ha, Function.update_of_ne hb]

lemma update_ones_left (regs : Arm.Reg → Arm.Word) (ra rb : Arm.Reg) (v : Arm.Word) :
    Function.update (Function.update regs ra v) rb v ra = v := by
  by_cases h : ra = rb
  · rw [h, Function.update_self]
  · rw [Function.update_of_ne h, Function.update_self]

/-- The flags and the core registers after replacing a NaN. -/
def marked (s : Fpu) (ra rb : Arm.Reg) (f : Fmt) : Fpu :=
  { s with
    regs := match f with
      | .f32 => Function.update s.regs ra (~~~0)
      | .f64 => Function.update (Function.update s.regs ra (~~~0)) rb (~~~0)
    apsr := { s.apsr with n := false, z := false, c := true, v := true }
    nzcv := ⟨false, false, true, true⟩ }

/-- The state after replacing a NaN. -/
def repaired (s : Fpu) (n : Fin 32) (ra rb : Arm.Reg) (f : Fmt) : Fpu :=
  (marked s ra rb f).write f n (BitVec.allOnes f.width)

/-- If there is a NaN, V is set, and all conditional lines are executed. -/
lemma runFp_fixCode {f : Fmt} (hnan : IsNaN (s.read f n)) :
    runFp res (fixCode isARM n ra rb f) s = repaired s n ra rb f := by
  cases f with
  | f32 =>
    cases isARM <;>
    · simp [fixCode, FpLine.exec, FpOp.exec, Arm.compareZero_of_isNaN _ hnan, repaired, marked,
        Arm.Op.exec, Arm.Cond.holds, Arm.Cpu.set, Arm.Alu.value, Arm.Operand.value]
      rfl
  | f64 =>
    cases isARM <;>
    · simp [fixCode, FpLine.exec, FpOp.exec, Arm.compareZero_of_isNaN _ hnan, repaired, marked,
        Arm.Op.exec, Arm.Cond.holds, Arm.Cpu.set, Arm.Alu.value, Arm.Operand.value, update_ones,
        update_ones_left]
      rfl

/-- What was in the register does not matter. -/
lemma repaired_write (f : Fmt) (x : f.Bits) :
    repaired (s.write f n x) n ra rb f = repaired s n ra rb f := by
  have hmarked : marked (s.write f n x) ra rb f = (marked s ra rb f).write f n x := by
    cases f <;> rfl
  rw [repaired, hmarked, Fpu.write_write]
  rfl

/-- Two results that are the same up to the NaN are the same after the lines that replace it. -/
lemma runFp_repair {f : Fmt} {x y : f.Bits} (h : SameUpToNaN x y) :
    runFp res (fixCode isARM n ra rb f) (s.write f n x) =
      runFp res (fixCode isARM n ra rb f) (s.write f n y) := by
  rcases h with rfl | ⟨hx, hy⟩
  · rfl
  · rw [runFp_fixCode (by rwa [Fpu.read_write]), runFp_fixCode (by rwa [Fpu.read_write]),
      repaired_write, repaired_write]

lemma noArith_fixCode {f : Fmt} : ∀ l ∈ fixCode isARM n ra rb f, l.2.NoArith := by
  cases f <;> cases isARM <;> simp [fixCode, FpOp.NoArith]

/-- An arithmetic instruction between other lines and the lines that replace its NaN.  If its
condition fails there is no result, and nothing to tell the runs apart. -/
lemma runFp_sequence {before : List FpLine} (hbefore : ∀ l ∈ before, l.2.NoArith) {f : Fmt}
    {c : Option Arm.Cond} (h : SameUpToNaN (res f) (res' f)) :
    runFp res (before ++ [(c, .arith f n)] ++ fixCode isARM n ra rb f) s =
      runFp res' (before ++ [(c, .arith f n)] ++ fixCode isARM n ra rb f) s := by
  simp only [Arm.runFp_append]
  have hstart : runFp res before s = runFp res' before s := Arm.runFp_congr hbefore
  have hfix (t : Fpu) : runFp res (fixCode isARM n ra rb f) t =
      runFp res' (fixCode isARM n ra rb f) t := Arm.runFp_congr noArith_fixCode
  rw [hstart, hfix]
  generalize runFp res' before s = t
  simp only [Arm.runFp_cons, Arm.runFp_nil, FpLine.exec]
  by_cases hc : Arm.passes c t.apsr = true
  · simp only [hc, if_true, FpOp.exec]
    exact runFp_repair h
  · simp only [hc, Bool.false_eq_true, if_false]

end Repair

/-! ## The sequences -/

section Sequence

variable (isARM : Bool) (addr : String → Arm.Word) {s : List ℕ}

lemma meaning_fixNaN (f : Fmt) {n ra rb : ℕ} (hn : n < 32) (hra : ra < 16) (hrb : rb < 16) :
    (fixNaN isARM f n ra rb).mapM (Inst.meaning addr) =
      some (fixCode isARM ⟨n, hn⟩ ⟨ra, hra⟩ ⟨rb, hrb⟩ f) := by
  cases f <;> cases isARM <;>
    simp [fixNaN, fixCode, Inst.meaning, Slot.meaning, otherMeaning, Inst.IsArith, arithOps, tyOf,
      regOf, coreReg?, fpReg?, hn, hra, hrb]

lemma listWords_eq_some {f : Fmt} {ns : List ℕ} (h : ∀ n ∈ ns, n ≤ 31) :
    ∃ words, listWords f ns = some words := by
  have hregs : ∃ rs, ns.mapM fpReg? = some rs := by
    induction ns with
    | nil => exact ⟨[], rfl⟩
    | cons n ns ih =>
      rw [List.forall_mem_cons] at h
      obtain ⟨rs, hrs⟩ := ih h.2
      have hn : n < 32 := by omega
      exact ⟨⟨n, hn⟩ :: rs, by simp [hrs, fpReg?, hn]⟩
  obtain ⟨rs, hrs⟩ := hregs
  exact ⟨_, by rw [listWords, hrs, Option.map_some]⟩

/-- The lines of `reinitVFPRegs` have a meaning, and there is no arithmetic in them. -/
lemma meaning_reinit {reinit : List Inst} (h : Reinit reinit) :
    ∃ code, reinit.mapM (Inst.meaning addr) = some code ∧ ∀ l ∈ code, l.2.NoArith := by
  cases h with
  | none => exact ⟨[], rfl, by simp⟩
  | @load n offset list hn hlist =>
    obtain ⟨f, ns, rfl, -, -, hns⟩ := hlist
    obtain ⟨words, hwords⟩ := listWords_eq_some (f := f) hns
    have hn' : n < 16 := by omega
    refine ⟨[(none, .core (.ldrConst ⟨n, hn'⟩ (addr "bv_vfp" + .ofNat 32 offset))),
      (none, .loadWords ⟨n, hn'⟩ words)], ?_, by simp [FpOp.NoArith]⟩
    simp [Inst.meaning, Slot.meaning, otherMeaning, Inst.IsArith, arithOps, coreReg?, hn', hwords]

/-- The arithmetic instruction of a sequence. -/
lemma meaning_arith {f : Fmt} {n : ℕ} {op : Op} {types : List Ty} {args : List Arg}
    (harith : Inst.IsArith ⟨.vfp op .none, .hole, tyOf f :: types, regOf f n :: args⟩) (hn : n < 32)
    (c : Option Arm.Cond) :
    Inst.meaning addr (Inst.fill ⟨.vfp op .none, .hole, tyOf f :: types, regOf f n :: args⟩ c) =
      some (c, .arith f ⟨n, hn⟩) := by
  have hslot : (c.elim Slot.none Slot.is).meaning = some c := by cases c <;> rfl
  have hop : arithMeaning (tyOf f :: types) (regOf f n :: args) = some (.arith f ⟨n, hn⟩) := by
    cases f <;> simp [tyOf, regOf, arithMeaning, fpReg?, hn]
  have harith' : Inst.IsArith
      ⟨.vfp op .none, c.elim .none .is, tyOf f :: types, regOf f n :: args⟩ := harith
  rw [Inst.fill, if_pos rfl]
  simp only [Inst.meaning, hslot, Option.bind_some]
  rw [if_pos harith', hop, Option.map_some]

/-! ### Where there is arithmetic -/

variable {isARM}

lemma isArith_fill {i : Inst} {c : Option Arm.Cond} : (i.fill c).IsArith ↔ i.IsArith := by
  unfold Inst.fill
  split <;> rfl

lemma Inst.IsCore.not_isArith {i : Inst} (h : i.IsCore) : ¬i.IsArith := by
  have hop := h.1
  rintro (⟨op, -, hi⟩ | ⟨hi, -⟩) <;> simp [hi] at hop

lemma not_isArith_of_mem {op : Op} {letter : Letter} {cond : Slot} {types : List Ty}
    {args : List Arg} (hop : op ∈ memVfpOp) :
    ¬Inst.IsArith ⟨.vfp op letter, cond, types, args⟩ := by
  have hdisjoint : ∀ op ∈ memVfpOp, op ∉ arithOps ∧ op ≠ .vcvt := by decide
  rintro (⟨op', hop', ⟨⟩⟩ | ⟨⟨⟩, -⟩)
  · exact (hdisjoint op hop).1 hop'
  · exact (hdisjoint _ hop).2 rfl

lemma Reinit.not_isArith {reinit : List Inst} (h : Reinit reinit) : ∀ i ∈ reinit, ¬i.IsArith := by
  cases h with
  | none => simp
  | load hn hlist =>
    simp only [List.forall_mem_cons]
    exact ⟨by simp [Inst.IsArith], not_isArith_of_mem (by decide), by simp⟩

lemma not_isArith_testNaN {f : Fmt} {n : ℕ} : ∀ i ∈ testNaN isARM f n, ¬i.IsArith := by
  cases isARM <;> simp [testNaN, Inst.IsArith, arithOps]

/-- Only a sequence of this shape has an arithmetic instruction in it. -/
lemma emits_arith_cases {rinst : Inst} {pre post : List Inst}
    (h : Emits isARM s ⟨some rinst, pre, post⟩) :
    (∀ i ∈ pre ++ [rinst] ++ post, ¬i.IsArith) ∨
      ∃ f n ra rb op types args,
        rinst = ⟨.vfp op .none, .hole, tyOf f :: types, regOf f n :: args⟩ ∧ rinst.IsArith ∧
        n ≤ 31 ∧ ra < 12 ∧ rb < 12 ∧ pre = [] ∧ post = fixNaN isARM f n ra rb := by
  have hcore : ∀ l : List Inst, (∀ i ∈ l, i.IsCore) → ∀ i ∈ l, ¬i.IsArith :=
    fun l hl i hi => (hl i hi).not_isArith
  simp only [List.forall_mem_append, List.forall_mem_singleton]
  cases h with
  | mem hop hm hn hpc hpre =>
    refine .inl ⟨⟨hcore _ hpre, not_isArith_of_mem ?_⟩, by simp⟩
    rcases hop with rfl | rfl <;> decide
  | multi hop hlist hn hpc hpre =>
    refine .inl ⟨⟨hcore _ hpre, not_isArith_of_mem ?_⟩, by simp⟩
    rcases hop with rfl | rfl <;> decide
  | stack hop hlist hpre =>
    refine .inl ⟨⟨hcore _ hpre, not_isArith_of_mem ?_⟩, by simp⟩
    rcases hop with rfl | rfl <;> decide
  | data hdata hpre hpost => exact .inl ⟨⟨hcore _ hpre, hdata.notArith⟩, hcore _ hpost⟩
  | arith harith hn hargs hra hrb =>
    exact .inr ⟨_, _, _, _, _, _, _, rfl, harith, hn, hra, hrb, rfl, rfl⟩
  | toInteger hty hm hn =>
    refine .inl ⟨⟨not_isArith_testNaN, ?_⟩, by simp⟩
    rcases hty with rfl | rfl <;> simp [Inst.IsArith, arithOps]

end Sequence

/-- Two runs of a sequence with an arithmetic instruction, in which only the NaN that it produces
may differ, end in the same state. -/
theorem genInstr_sameUpToNaN (addr : String → Arm.Word) (isARM : Bool) (cond : Fin 15)
    (srcReg dstReg : ℕ) (allowFix : Bool) :
    Always (genInstr isARM cond srcReg dstReg allowFix) fun ret =>
      ∀ insts ∈ ret, (∃ i ∈ insts, i.IsArith) →
        ∃ code, insts.mapM (Inst.meaning addr) = some code ∧
          ∀ res res' : (f : Fmt) → f.Bits, (∀ f, SameUpToNaN (res f) (res' f)) →
            ∀ s, runFp res code s = runFp res' code s := by
  have hcond : cond.val ≤ 14 := Nat.lt_succ_iff.1 cond.isLt
  refine (genInstr_always isARM hcond srcReg dstReg allowFix).mono fun ret hret => ?_
  cases hret with
  | none => simp
  | @some reinit pre post rinst hreinit hparts =>
    rintro _ ⟨⟩ ⟨i, hi, harith⟩
    rcases emits_arith_cases hparts with hno | ⟨f, n, ra, rb, op, types, args, rfl, hop, hn, hra,
      hrb, rfl, rfl⟩
    · -- neither the lines before nor those of the helper are arithmetic
      simp only [List.mem_append, List.mem_singleton, or_assoc] at hi hno
      rcases hi with hi | hi | rfl | hi
      · exact absurd harith (hreinit.not_isArith i hi)
      · exact absurd harith (hno i (.inl hi))
      · exact absurd (isArith_fill.1 harith) (hno rinst (.inr (.inl rfl)))
      · exact absurd harith (hno i (.inr (.inr hi)))
    · obtain ⟨before, hbefore, hnoArith⟩ := meaning_reinit addr hreinit
      have hn' : n < 32 := by omega
      have hra' : ra < 16 := by omega
      have hrb' : rb < 16 := by omega
      let c := if isARM then condCode[cond.val]? else none
      refine ⟨before ++ [(c, .arith f ⟨n, hn'⟩)] ++ fixCode isARM ⟨n, hn'⟩ ⟨ra, hra'⟩ ⟨rb, hrb'⟩ f,
        ?_, fun res res' h t => runFp_sequence hnoArith (h f)⟩
      simp only [List.append_nil, List.mapM_append, List.mapM_cons, hbefore,
        meaning_arith addr hop hn', meaning_fixNaN isARM addr f hn' hra' hrb']
      rfl

/-- `vmul.f32 s9, s9, s9`, with two different NaNs for its result. -/
theorem genInstr_sameUpToNaN_vmul :
    let run := (genInstr true 14 0 0 false).run ⟨fun _ => 9, ()⟩
    ∃ insts s' code, run = .ok (some insts, s') ∧
      insts.mapM (Inst.meaning fun _ => 0) = some code ∧
        ∀ s, runFp (fun f => .allOnes f.width) code s =
          runFp (fun f => .allOnes f.width - 1) code s := by
  intro run
  have harith : run.toOption.any (·.1.any (·.any fun i => decide i.IsArith)) = true := by
    decide +kernel
  obtain ⟨ret, s', hrun, hret⟩ := genInstr_sameUpToNaN (fun _ => 0) true 14 0 0 false
    ⟨fun _ => 9, ()⟩
  change run = _ at hrun
  rw [hrun] at harith
  cases ret with
  | none => cases harith
  | some insts =>
    obtain ⟨i, hi, hop⟩ := List.any_eq_true.1 harith
    obtain ⟨code, hcode, hsame⟩ := hret insts rfl ⟨i, hi, of_decide_eq_true hop⟩
    refine ⟨insts, s', code, hrun, hcode, hsame _ _ fun f => .inr ?_⟩
    cases f <;> decide

end Rit.Art.Vfp
