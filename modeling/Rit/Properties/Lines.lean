import Mathlib.Data.List.Nodup
import Mathlib.Data.List.Perm.Subperm
import Rit.Properties.Registers

/-!
# The line buffers

`instr_buf` and `init_instr_buf` have room for `MAX_INSTR` lines and nothing that writes them looks
at the index.  `Adds k s s'` bounds what a step writes; it is a frame like `Writes`, and the bounds
add up along a generator.

Seven lines is the most that a prelude has, but one: `LDRD_reg` and `STRD_reg`, generated for a base
above `r7` while the options say 16-bit Thumb, force the base with seven lines and then load the
offset register (`NineLines`).
-/

namespace Rit

open GenState

def MAX_INSTR : ℕ := 8

/-! ## Steps that add lines -/

/-- The texts of the `[INSTINFO]` lines. -/
def infoTexts : List String :=
  ["type=BranchWritePC target=ARM", "type=BranchWritePC target=Thumb", "type=BXWritePC"]

/-- A line that some generator writes. -/
def Line.Printed : Line → Prop
  | .instInfo text => text ∈ infoTexts
  | _ => True

/-- A step that writes at most `k` lines and marks no register as initialised. -/
structure Adds (k : ℕ) (s s' : GenState) : Prop where
  lines : s'.instrBuf.length ≤ s.instrBuf.length + k
  printed : ∀ l ∈ s'.instrBuf, l ∈ s.instrBuf ∨ l.Printed
  isRegInit : s'.isRegInit = s.isRegInit

namespace Adds

variable {k k' : ℕ} {s s' s'' : GenState}

lemma refl (k : ℕ) (s : GenState) : Adds k s s := ⟨Nat.le_add_right _ _, fun _ => .inl, rfl⟩

lemma trans (h : Adds k s s') (h' : Adds k' s' s'') : Adds (k + k') s s'' where
  lines := by
    have h1 := h.lines
    have h2 := h'.lines
    omega
  printed := fun l hl => (h'.printed l hl).elim (h.printed l) .inr
  isRegInit := h'.isRegInit.trans h.isRegInit

lemma mono (h : Adds k s s') (hk : k ≤ k') : Adds k' s s' :=
  ⟨Nat.le_trans h.lines (Nat.add_le_add_left hk _), h.printed, h.isRegInit⟩

lemma setRawInstr (h : Adds k s s') (w : Word) : Adds k s (s'.setRawInstr w) :=
  ⟨h.lines, h.printed, h.isRegInit⟩

lemma afterRand (h : Adds k s s') : Adds k s s'.afterRand := ⟨h.lines, h.printed, h.isRegInit⟩

lemma setOprandInit {r : InstrStatus × GenState} (h : Adds k s r.2) :
    Adds k s (setOprandInit r).2 := ⟨h.lines, h.printed, h.isRegInit⟩

lemma insertInstrs (s : GenState) {ls : List Line} (h : ls.length ≤ k)
    (hprinted : ∀ l ∈ ls, l.Printed) : Adds k s (s.insertInstrs ls) where
  lines := by
    rw [GenState.insertInstrs, List.length_append]
    omega
  printed := fun l hl => (List.mem_append.1 hl).imp_right (hprinted l)
  isRegInit := rfl

lemma insertInst (h : Adds k s s') (asm : Asm) : Adds (k + 1) s (s'.insertInstrs [.inst asm]) := by
  refine h.trans (insertInstrs s' (Nat.le_refl 1) fun l hl => ?_)
  rw [List.mem_singleton.1 hl]
  trivial

lemma ite {p : Prop} [Decidable p] {a b : GenState} (ha : p → Adds k s a) (hb : ¬p → Adds k s b) :
    Adds k s (if p then a else b) := by
  split
  · exact ha ‹_›
  · exact hb ‹_›

lemma iteSnd {p : Prop} [Decidable p] {a b : InstrStatus × GenState} (ha : Adds k s a.2)
    (hb : Adds k s b.2) : Adds k s (if p then a else b).2 := by
  split
  · exact ha
  · exact hb

end Adds

/-! ## Preludes -/

/-- A base that is not copied through `r2`. -/
lemma length_fixMemBaseLines_low {o : GenOption} {n : Word} (h : ¬(o.isa = .thumb ∧ n > 7))
    (forceAlign : Bool) : (fixMemBaseLines o n forceAlign).length ≤ 5 := by
  have hcopy : ¬(o.isa = .thumb ∧ (0 : Word) > 7) := fun h' => absurd h'.2 (by decide)
  simp only [fixMemBaseLines, h, hcopy, decide_false, Bool.false_eq_true, if_false,
    List.nil_append, List.append_nil]
  split_ifs <;> simp

/-- A base that is copied to `r2` and back. -/
lemma length_fixMemBaseLines_high {o : GenOption} {n : Word} (hisa : o.isa = .thumb) (hn : n > 7)
    (forceAlign : Bool) :
    (fixMemBaseLines o n forceAlign).length = if forceAlign then 7 else 6 := by
  have hpc : (2 : Word) ≠ R_PC := by decide
  simp only [fixMemBaseLines, hisa, hn, hpc, and_self, decide_true, if_true, if_false]
  cases forceAlign <;> rfl

lemma length_fixMemBaseLines_le (o : GenOption) (n : Word) (forceAlign : Bool) :
    (fixMemBaseLines o n forceAlign).length ≤ if forceAlign then 7 else 6 := by
  by_cases h : o.isa = .thumb ∧ n > 7
  · exact Nat.le_of_eq (length_fixMemBaseLines_high h.1 h.2 forceAlign)
  · refine Nat.le_trans (length_fixMemBaseLines_low h forceAlign) ?_
    split <;> omega

lemma length_fixMemBaseLines_le_seven (o : GenOption) (n : Word) (forceAlign : Bool) :
    (fixMemBaseLines o n forceAlign).length ≤ 7 :=
  Nat.le_trans (length_fixMemBaseLines_le o n forceAlign) (by split <;> omega)

lemma fixMemBaseLines_printed (o : GenOption) (n : Word) (forceAlign : Bool) :
    ∀ l ∈ fixMemBaseLines o n forceAlign, l.Printed := by
  unfold fixMemBaseLines
  dsimp only
  split_ifs <;> simp [Line.Printed]

lemma fixMemBase_adds_of_le {n : Word} {forceAlign : Bool} {s : GenState} {k : ℕ}
    (h : (fixMemBaseLines s.options n forceAlign).length ≤ k) :
    Adds k s (fixMemBase n forceAlign s) :=
  .insertInstrs s h (fixMemBaseLines_printed _ _ _)

lemma fixMemBase_adds (n : Word) (forceAlign : Bool) (s : GenState) :
    Adds (if forceAlign then 7 else 6) s (fixMemBase n forceAlign s) :=
  fixMemBase_adds_of_le (length_fixMemBaseLines_le _ _ _)

lemma fixMemBase_adds_seven (n : Word) (forceAlign : Bool) (s : GenState) :
    Adds 7 s (fixMemBase n forceAlign s) :=
  fixMemBase_adds_of_le (length_fixMemBaseLines_le_seven _ _ _)

lemma genPreInstrForMemBase_adds (n : Word) (s : GenState) :
    Adds 4 s (genPreInstrForMemBase n s).2 := by
  have hlen (o : GenOption) (baseRand : Word) : (preInstrLines o n baseRand).length ≤ 4 := by
    unfold preInstrLines
    dsimp only
    split <;> simp
  have hprinted (o : GenOption) (baseRand : Word) : ∀ l ∈ preInstrLines o n baseRand,
      l.Printed := by
    unfold preInstrLines
    dsimp only
    split <;> simp [Line.Printed]
  unfold genPreInstrForMemBase
  dsimp only
  have hdraw : Adds 0 s (if s.optStat .allowUnalignMem then s.afterRand else s) :=
    .ite (fun _ => (Adds.refl 0 s).afterRand) fun _ => .refl 0 s
  split
  · exact .refl 4 s
  · exact (hdraw.trans (.insertInstrs _ (hlen _ _) (hprinted _ _))).mono (by omega)

lemma getRandMemOffset_adds (shiftT shiftN : Word) (s : GenState) :
    Adds 0 s (getRandMemOffset shiftT shiftN s).2 := by
  rw [getRandMemOffset]
  dsimp only
  split_ifs <;> exact ⟨Nat.le_refl _, fun _ => .inl, rfl⟩

lemma fixOffset_adds (shifted dual : Bool) (shiftT shiftN : Word) (s : GenState) :
    Adds 0 s (fixOffset shifted dual shiftT shiftN s).2 := by
  rw [fixOffset]
  split_ifs
  · exact getRandMemOffset_adds shiftT shiftN s
  · exact (Adds.refl 0 s).afterRand
  · exact (Adds.refl 0 s).afterRand

lemma immTail_adds (n : Word) (dual half word : Bool) (status : InstrStatus) (s : GenState) :
    Adds 7 s (immTail n dual half word status s).2 := by
  unfold immTail
  dsimp only
  split
  · exact .refl 7 s
  split
  · exact .ite (fun _ => (fixMemBase_adds_seven n dual s).setRawInstr _)
      fun _ => fixMemBase_adds_seven n dual s
  · exact (genPreInstrForMemBase_adds n s).mono (by omega)

lemma multiTail_adds (n : Word) (status : InstrStatus) (s : GenState) :
    Adds 7 s (multiTail n status s).2 := by
  unfold multiTail
  dsimp only
  split
  · exact .refl 7 s
  split
  · exact fixMemBase_adds_seven n true s
  · exact (genPreInstrForMemBase_adds n s).mono (by omega)

/-- The prelude of a register-offset access. -/
lemma regTail_adds {n : Word} {dual : Bool} {status : InstrStatus} {s : GenState} {k : ℕ}
    (hk : 4 ≤ k) (hbase : status ≠ .unsupported → s.optStat .notAllowFixMem = false →
      (fixMemBaseLines s.options n dual).length ≤ k) (m shiftT shiftN : Word)
    (shifted half word : Bool) :
    Adds (k + 1) s (regTail n m shiftT shiftN shifted dual half word status s).2 := by
  unfold regTail
  dsimp only
  split
  · exact .refl _ s
  split
  · rename_i hstatus hfix
    have hlines := fixMemBase_adds_of_le (hbase hstatus (by simpa using hfix))
    exact (hlines.trans (fixOffset_adds _ _ _ _ _)).insertInst _
  · have hpre := (genPreInstrForMemBase_adds n s).trans (getRandMemOffset_adds shiftT shiftN _)
    exact (hpre.mono hk).insertInst _

/-! ## ARM -/

section Bias

variable (k : OptionKind) (o1 o2 o3 o4 : Opnd) (s : GenState)

lemma bias2_adds (r : Word × Word) : Adds 0 s (bias2 k o1 o2 r s).2 := by
  unfold bias2
  split
  · exact (Adds.refl 0 s).afterRand.setRawInstr _
  · exact .refl 0 s

lemma bias3_adds (r : Word × Word × Word) : Adds 0 s (bias3 k o1 o2 o3 r s).2 := by
  unfold bias3
  split
  · exact (Adds.refl 0 s).afterRand.setRawInstr _
  · exact .refl 0 s

lemma bias4_adds (r : Word × Word × Word × Word) : Adds 0 s (bias4 k o1 o2 o3 o4 r s).2 := by
  unfold bias4
  split
  · exact (Adds.refl 0 s).afterRand.setRawInstr _
  · exact .refl 0 s

end Bias

section Arm

variable (op : Opcode) (s : GenState)

lemma biasShiftImm_adds : Adds 0 s (biasShiftImm s) :=
  .ite (fun _ => (Adds.refl 0 s).afterRand.setRawInstr _) fun _ => .refl 0 s

lemma biasMul_adds : Adds 0 s (biasMul op s).2 := by
  unfold biasMul
  dsimp only
  split
  · exact (Adds.refl 0 s).afterRand.setRawInstr _
  · exact .refl 0 s

lemma dataBias_adds : Adds 0 s (dataBias op s).2 := by
  unfold dataBias
  dsimp only
  split_ifs <;>
    first
    | exact .refl 0 s
    | exact bias2_adds _ _ _ s _
    | exact bias3_adds _ _ _ _ s _
    | exact bias4_adds _ _ _ _ _ s _

/-- Data processing prints no line. -/
lemma genUncategorizedInstr_adds : Adds 0 s (genUncategorizedInstr op s).2 := by
  have hthree (k : OptionKind) : Adds 0 s (genThreeReg k op s).2 := bias3_adds _ _ _ _ s _
  have hsat : Adds 0 s (genSat op s).2 :=
    (bias2_adds _ _ _ s _).trans (.ite (fun _ => biasShiftImm_adds _) fun _ => .refl 0 _)
  have hpkh : Adds 0 s (genPkh op s).2 := (hthree .allowBiasReg).trans (biasShiftImm_adds _)
  unfold genUncategorizedInstr
  refine .iteSnd (hthree _) <| .iteSnd (bias3_adds _ _ _ _ s _) <| .iteSnd (bias2_adds _ _ _ s _) ?_
  refine .iteSnd (.refl 0 s) <| .iteSnd hsat <| .iteSnd hpkh <| .iteSnd (bias2_adds _ _ _ s _) ?_
  refine .iteSnd (.refl 0 s) <| .iteSnd (bias2_adds _ _ _ s _) <| .iteSnd (hthree _) ?_
  refine .iteSnd (bias4_adds _ _ _ _ _ s _) <| .iteSnd (.refl 0 s) <| .iteSnd (.refl 0 s) ?_
  exact .iteSnd (.refl 0 s) (.refl 0 s)

lemma genMulInstr_adds : Adds 0 s (genMulInstr op s).2 := by
  unfold genMulInstr
  split_ifs
  · exact biasMul_adds op s
  · exact bias4_adds _ _ _ _ _ s _
  · exact bias4_adds _ _ _ _ _ s _
  · exact .refl 0 s

lemma genMiscInstr_adds : Adds 7 s (genMiscInstr op s).2 := by
  have hswp : Adds 7 s (genSwp op s).2 :=
    (bias2_adds _ _ _ s _).trans
      (.ite (fun _ => fixMemBase_adds_seven _ true _) fun _ => .refl 7 _)
  unfold genMiscInstr
  split_ifs
  · exact .refl 7 s
  · exact hswp
  · exact (bias2_adds _ _ _ s _).mono (by omega)
  all_goals exact .refl 7 s

lemma genJmpInstr_adds : Adds 1 s (genJmpInstr op s).2 := by
  unfold genJmpInstr
  split_ifs
  all_goals first
    | exact .refl 1 s
    | exact .insertInstrs s (by simp) (by simp [Line.Printed, infoTexts])

lemma genMultiMemInstr_adds : Adds 7 s (genMultiMemInstr op s).2 := by
  unfold genMultiMemInstr
  refine .setOprandInit ?_
  split
  all_goals first | exact multiTail_adds _ _ s | exact .refl 7 s

end Arm

/-- The word makes `LDRD_reg` or `STRD_reg` force a base above `r7`: the base is one of `r8` to
`r14` and not the offset register, and a load does not reach `r15`. -/
def DualHighBase (op : Opcode) (instr : Word) : Prop :=
  let n := getBitsValue instr 16 19
  let m := getBitsValue instr 0 3
  let t := getBitsValue instr 12 15
  n > 7 ∧ n ≠ R_PC ∧ m ≠ n ∧ (op = Op.LDRD_reg ∧ t ≠ 14 ∧ t ≠ R_PC ∨ op = Op.STRD_reg)

/-- The validator is about to write eight lines before its own: the opcode is an ARM one, but the
options say 16-bit Thumb. -/
def EightLines (op : Opcode) (s : GenState) : Prop :=
  s.options.isa = .thumb ∧ s.optStat .notAllowFixMem = false ∧ DualHighBase op s.rawInstr

section Dual

variable {o : GenOption} {instr : Word}

lemma dual_slots (instr : Word) :
    (getRegnum instr (glbInstrTlb Op.LDRD_reg).output0 = getBitsValue instr 12 15 ∧
      getRegnum instr (glbInstrTlb Op.LDRD_reg).input0 = getBitsValue instr 16 19 ∧
      getRegnum instr (glbInstrTlb Op.LDRD_reg).input1 = getBitsValue instr 0 3) ∧
    getRegnum instr (glbInstrTlb Op.STRD_reg).input1 = getBitsValue instr 16 19 ∧
      getRegnum instr (glbInstrTlb Op.STRD_reg).input2 = getBitsValue instr 0 3 :=
  ⟨⟨rfl, rfl, rfl⟩, rfl, rfl⟩

/-- A step of a status chain that does not assign `UNSUPPORTED`. -/
lemma ite_ne_unsupported {p : Prop} [Decidable p] {a b : InstrStatus} (ha : a ≠ .unsupported) :
    b ≠ .unsupported → (if p then a else b) ≠ .unsupported := by
  intro hb
  split
  · exact ha
  · exact hb

/-- A step that does. -/
lemma ite_unsupported_ne_iff {p : Prop} [Decidable p] {b : InstrStatus} :
    (if p then .unsupported else b) ≠ .unsupported ↔ ¬p ∧ b ≠ .unsupported := by
  split <;> simp [*]

lemma ldRegStatus_dual : ldRegStatus Op.LDRD_reg o instr ≠ .unsupported ↔
    getBitsValue instr 16 19 ≠ R_PC ∧ getBitsValue instr 0 3 ≠ getBitsValue instr 16 19 ∧
      getBitsValue instr 12 15 ≠ 14 ∧ getBitsValue instr 12 15 ≠ R_PC := by
  obtain ⟨⟨ht, hn, hm⟩, -⟩ := dual_slots instr
  have hpair : getBitsValue instr 12 15 + 1 = R_PC ↔ getBitsValue instr 12 15 = 14 := by
    unfold R_PC
    bv_omega
  unfold ldRegStatus
  dsimp only
  rw [ht, hn, hm, ite_unsupported_ne_iff, ite_unsupported_ne_iff, ite_unsupported_ne_iff,
    ite_unsupported_ne_iff, hpair]
  constructor
  · rintro ⟨hmn, hpc, htpc, htop, -⟩
    exact ⟨hpc, hmn, fun h => htop ⟨rfl, h⟩, htpc⟩
  · rintro ⟨hpc, hmn, htop, htpc⟩
    refine ⟨hmn, hpc, htpc, fun h => htop h.2, ?_⟩
    -- the earlier steps assign other statuses
    iterate 8 refine ite_ne_unsupported (by decide) ?_
    exact ite_ne_unsupported (by decide) (by decide)

lemma stRegStatus_dual : stRegStatus Op.STRD_reg o instr ≠ .unsupported ↔
    getBitsValue instr 16 19 ≠ R_PC ∧ getBitsValue instr 0 3 ≠ getBitsValue instr 16 19 := by
  obtain ⟨-, hn, hm⟩ := dual_slots instr
  unfold stRegStatus
  dsimp only
  rw [hn, hm, ite_unsupported_ne_iff, ite_unsupported_ne_iff]
  constructor
  · rintro ⟨hmn, hpc, -⟩
    exact ⟨hpc, hmn⟩
  · rintro ⟨hpc, hmn⟩
    refine ⟨hmn, hpc, ?_⟩
    iterate 6 refine ite_ne_unsupported (by decide) ?_
    exact ite_ne_unsupported (by decide) (by decide)

end Dual

section Memory

variable {op : Opcode} {s : GenState}

lemma fixOffset_instrBuf (shifted dual : Bool) (shiftT shiftN : Word) (s : GenState) :
    (fixOffset shifted dual shiftT shiftN s).2.instrBuf = s.instrBuf := by
  unfold fixOffset getRandMemOffset
  dsimp only
  split_ifs <;> rfl

/-- What a dual register-offset access writes. -/
lemma regTail_nine (n m shiftT shiftN : Word) (shifted half word : Bool) {status : InstrStatus}
    (hstatus : status ≠ .unsupported) (hfix : s.optStat .notAllowFixMem = false)
    (hisa : s.options.isa = .thumb) (hn : n > 7) :
    (regTail n m shiftT shiftN shifted true half word status s).2.instrBuf.length =
      s.instrBuf.length + 8 := by
  unfold regTail
  dsimp only
  rw [if_neg hstatus, if_pos (by simp [hfix])]
  dsimp only [insertInstrs]
  rw [fixOffset_instrBuf, List.length_append, fixMemBase, insertInstrs, List.length_append,
    length_fixMemBaseLines_high hisa hn, if_pos rfl]
  rfl

lemma genLdReg_adds (h : ¬EightLines op s) : Adds 7 s (genLdReg op s).2 := by
  refine regTail_adds (k := 6) (by omega) (fun hstatus hfix => ?_) _ _ _ _ _ _
  by_cases hop : op = Op.LDRD_reg
  · subst hop
    obtain ⟨hpc, hmn, htop, htpc⟩ := ldRegStatus_dual.1 hstatus
    have hlow : ¬(s.options.isa = .thumb ∧ getBitsValue s.rawInstr 16 19 > 7) := fun hhigh =>
      h ⟨hhigh.1, hfix, hhigh.2, hpc, hmn, .inl ⟨rfl, htop, htpc⟩⟩
    exact Nat.le_trans (length_fixMemBaseLines_low hlow _) (by omega)
  · rw [decide_eq_false hop]
    exact length_fixMemBaseLines_le _ _ false

lemma genStReg_adds (h : ¬EightLines op s) : Adds 7 s (genStReg op s).2 := by
  refine regTail_adds (k := 6) (by omega) (fun hstatus hfix => ?_) _ _ _ _ _ _
  by_cases hop : op = Op.STRD_reg
  · subst hop
    obtain ⟨hpc, hmn⟩ := stRegStatus_dual.1 hstatus
    have hlow : ¬(s.options.isa = .thumb ∧ getBitsValue s.rawInstr 16 19 > 7) := fun hhigh =>
      h ⟨hhigh.1, hfix, hhigh.2, hpc, hmn, .inr rfl⟩
    exact Nat.le_trans (length_fixMemBaseLines_low hlow _) (by omega)
  · rw [decide_eq_false hop]
    exact length_fixMemBaseLines_le _ _ false

lemma genLdReg_adds_eight (op : Opcode) (s : GenState) : Adds 8 s (genLdReg op s).2 :=
  regTail_adds (k := 7) (by omega) (fun _ _ => length_fixMemBaseLines_le_seven _ _ _) _ _ _ _ _ _

lemma genStReg_adds_eight (op : Opcode) (s : GenState) : Adds 8 s (genStReg op s).2 :=
  regTail_adds (k := 7) (by omega) (fun _ _ => length_fixMemBaseLines_le_seven _ _ _) _ _ _ _ _ _

variable {k : ℕ}

lemma genLdInstr_adds (hk : 7 ≤ k) (h : Adds k s (genLdReg op s).2) :
    Adds k s (genLdInstr op s).2 := by
  have hlit : Adds k s (genLdLit op s).2 :=
    .ite (fun _ => (Adds.refl k s).setRawInstr _) fun _ => .refl k s
  have hldt : Adds 7 s (genLdtA2 op s).2 :=
    regTail_adds (k := 6) (by omega) (fun _ _ => length_fixMemBaseLines_le _ _ false) _ _ _ _ _ _
  unfold genLdInstr
  refine .setOprandInit <| .iteSnd ((immTail_adds _ _ _ _ _ s).mono hk) <|
    .iteSnd ((immTail_adds _ _ _ _ _ s).mono hk) <| .iteSnd h ?_
  exact .iteSnd (hldt.mono hk) <| .iteSnd hlit (.refl k s)

lemma genStInstr_adds (hk : 7 ≤ k) (h : Adds k s (genStReg op s).2) :
    Adds k s (genStInstr op s).2 := by
  have hstt : Adds 7 s (genSttA2 op s).2 :=
    regTail_adds (k := 6) (by omega) (fun _ _ => length_fixMemBaseLines_le _ _ false) _ _ _ _ _ _
  unfold genStInstr
  refine .setOprandInit <| .iteSnd ((immTail_adds _ _ _ _ _ s).mono hk) <|
    .iteSnd ((immTail_adds _ _ _ _ _ s).mono hk) <| .iteSnd h ?_
  exact .iteSnd (hstt.mono hk) (.refl k s)

lemma genArmInstr_adds (hk : 7 ≤ k) (hld : Adds k s (genLdReg op s).2)
    (hst : Adds k s (genStReg op s).2) : Adds k s (genArmInstr op s).2 := by
  unfold genArmInstr
  refine .iteSnd ((genUncategorizedInstr_adds op s).mono (Nat.zero_le k)) ?_
  split
  · exact genStInstr_adds hk hst
  · exact genLdInstr_adds hk hld
  all_goals first
    | exact .refl k s
    | exact (fixMemBase_adds_seven _ true s).mono hk
    | exact (genMultiMemInstr_adds op s).mono hk
    | exact (genMiscInstr_adds op s).mono hk
    | exact (genMulInstr_adds op s).mono (Nat.zero_le k)
    | exact (genJmpInstr_adds op s).mono (by omega)
    | exact (dataBias_adds op s).mono (Nat.zero_le k)

/-- The exception writes its eight lines. -/
lemma genArmInstr_nine (h : EightLines op s) :
    (genArmInstr op s).2.instrBuf.length = s.instrBuf.length + 8 := by
  obtain ⟨hisa, hfix, hn, hpc, hmn, ⟨rfl, htop, htpc⟩ | rfl⟩ := h
  · rw [genArmInstr_ldReg s (by decide)]
    exact regTail_nine (getBitsValue s.rawInstr 16 19) _ _ _ _ _ _
      (ldRegStatus_dual.2 ⟨hpc, hmn, htop, htpc⟩) hfix hisa hn
  · rw [genArmInstr_stReg s (by decide)]
    exact regTail_nine (getBitsValue s.rawInstr 16 19) _ _ _ _ _ _
      (stRegStatus_dual.2 ⟨hpc, hmn⟩) hfix hisa hn

/-! ## Thumb -/

lemma thumbMemImm_adds (n : Word) (word half : Bool) (s : GenState) :
    Adds 7 s (thumbMemImm n word half s).2 := by
  unfold thumbMemImm
  split
  · exact fixMemBase_adds_seven n false s
  · exact (genPreInstrForMemBase_adds n s).mono (by omega)

lemma thumbMemReg_adds (n m : Word) (word half : Bool) (s : GenState) :
    Adds 7 s (thumbMemReg n m word half s).2 := by
  unfold thumbMemReg
  split
  · exact .refl 7 s
  split
  · exact (fixMemBase_adds n false s).afterRand.insertInst _
  · have hpre := (genPreInstrForMemBase_adds n s).trans (getRandMemOffset_adds 0 0 _)
    exact (hpre.insertInst _).mono (by omega)

lemma genThumbMemInstr_adds (op : Opcode) (s : GenState) : Adds 7 s (genThumbMemInstr op s).2 := by
  unfold genThumbMemInstr
  refine .setOprandInit <| .iteSnd (thumbMemImm_adds _ _ _ s) <|
    .iteSnd (thumbMemImm_adds _ _ _ s) <| .iteSnd (thumbMemReg_adds _ _ _ _ s) ?_
  exact .iteSnd (thumbMemReg_adds _ _ _ _ s) <| .iteSnd (.refl 7 s) (.refl 7 s)

lemma genThumbMultiMemInstr_adds (op : Opcode) (s : GenState) :
    Adds 7 s (genThumbMultiMemInstr op s).2 := by
  unfold genThumbMultiMemInstr
  dsimp only
  refine .setOprandInit ?_
  dsimp only
  split
  · split
    · exact fixMemBase_adds_seven _ true s
    · exact (genPreInstrForMemBase_adds _ s).mono (by omega)
  · exact .refl 7 s

lemma genThumbJmpInstr_adds (op : Opcode) (s : GenState) : Adds 7 s (genThumbJmpInstr op s).2 := by
  have hline {text : String} (h : text ∈ infoTexts) :
      Adds 7 s (s.insertInstrs [.instInfo text]) := by
    refine .insertInstrs s (by simp) fun l hl => ?_
    rw [List.mem_singleton.1 hl]
    exact h
  unfold genThumbJmpInstr
  refine .iteSnd (hline (by decide)) <| .iteSnd (hline (by decide)) <| .iteSnd
    (hline (by decide)) ?_
  exact .iteSnd (hline (by decide)) <| .iteSnd (hline (by decide)) (.refl 7 s)

lemma genThumbInstr_adds (op : Opcode) (s : GenState) : Adds 7 s (genThumbInstr op s).2 := by
  unfold genThumbInstr
  split
  all_goals
    first
    | exact .refl 7 s
    | exact genThumbMemInstr_adds op s
    | exact genThumbMultiMemInstr_adds op s
    | exact genThumbJmpInstr_adds op s

lemma thumb32Base_adds (n : Word) (forceAlign : Bool) (s : GenState) :
    Adds (if forceAlign then 7 else 6) s (thumb32Base n forceAlign s) := by
  have hpre : Adds (if forceAlign then 7 else 6) s (genPreInstrForMemBase n s).2 :=
    (genPreInstrForMemBase_adds n s).mono (by split <;> omega)
  exact .ite (fun _ => fixMemBase_adds n forceAlign s) fun _ => hpre

lemma thumb32Base_adds_seven (n : Word) (forceAlign : Bool) (s : GenState) :
    Adds 7 s (thumb32Base n forceAlign s) :=
  (thumb32Base_adds n forceAlign s).mono (by split <;> omega)

lemma genThumb32Instr_adds (op : Opcode) (s : GenState) : Adds 7 s (genThumb32Instr op s).2 := by
  have hreg : Adds 7 s (genThumb32MemReg op s).2 :=
    ((thumb32Base_adds _ false s).trans (getRandMemOffset_adds _ _ _)).insertInst _
  have hroute := genThumb32Instr_route op s
  generalize genThumb32Instr op s = r at hroute ⊢
  cases hroute with
  | memReg => exact hreg
  | misc => exact (Adds.refl 7 s).setRawInstr _
  | multi | ldImm | stImm | memEx => exact thumb32Base_adds_seven _ _ s
  | _ => exact .refl 7 s

end Memory

/-! ## `gen_instr` -/

section GenInstr

variable {op : Opcode} {s : GenState}

lemma validate_adds (h : ¬EightLines op s) : Adds 8 s (validate op s).2 := by
  let s' : GenState := { s with options := { s.options with isa := .thumb } }
  have hthumb : Adds 0 s s' := ⟨Nat.le_refl _, fun _ => .inl, rfl⟩
  unfold validate
  split
  · exact (genArmInstr_adds (Nat.le_refl 7) (genLdReg_adds h) (genStReg_adds h)).insertInst _
  split
  · exact (hthumb.trans (genThumbInstr_adds op s')).insertInst _
  split
  · exact (hthumb.trans (genThumb32Instr_adds op s')).insertInst _
  · exact .refl 8 s

lemma DualHighBase.op_lt {w : Word} (h : DualHighBase op w) : op < SISA_OP_ARM_MAX := by
  obtain ⟨-, -, -, ⟨rfl, -⟩ | rfl⟩ := h
  · decide
  · decide

lemma validate_nine (h : EightLines op s) :
    (validate op s).2.instrBuf.length = s.instrBuf.length + 9 := by
  rw [validate, if_pos h.2.2.op_lt]
  dsimp only [insertInstrs]
  rw [List.length_append, genArmInstr_nine h]
  rfl

/-- The lines of `gen_instr` are those of the validator. -/
lemma genInstr_instrBuf (op : Opcode) (s : GenState) :
    (genInstr op s).2.instrBuf = if (glbInstrTlb op).opKind = .pseudoOp then []
      else (validate op (preValidate op s)).2.instrBuf := by
  unfold genInstr
  dsimp only
  split <;> rfl

/-- The options ask for a dual access with a base above `r7` while they say 16-bit Thumb.  Base and
offset register of `LDRD_reg` are the entries 0 and 1 of `src_regs`, those of `STRD_reg` the entries
1 and 2. -/
def NineLines (op : Opcode) (o : GenOption) : Prop :=
  let src := fun i => (o.srcRegs i).toNat % 16
  let dst := (o.dstRegs 0).toNat % 16
  o.isa = .thumb ∧ o.getOptStat .notAllowFixMem = false ∧
    (op = Op.LDRD_reg ∧ 7 < src 0 ∧ src 0 ≠ 15 ∧ src 1 ≠ src 0 ∧ dst ≠ 14 ∧ dst ≠ 15 ∨
      op = Op.STRD_reg ∧ 7 < src 1 ∧ src 1 ≠ 15 ∧ src 2 ≠ src 1)

/-- No stage before the validator writes over the register inputs of the two dual accesses. -/
lemma dual_checks : inputCheck Op.LDRD_reg rnOpnd 0 0 ∧ inputCheck Op.LDRD_reg rmOpnd 1 1 ∧
    inputCheck Op.STRD_reg rnOpnd 1 1 ∧ inputCheck Op.STRD_reg rmOpnd 2 2 := by
  decide +kernel

/-- What the validator finds in the word stands in the options. -/
lemma eightLines_iff (op : Opcode) (s : GenState) :
    EightLines op (preValidate op s) ↔ NineLines op s.options := by
  have hnat (x y : Word) : x = y ↔ x.toNat = y.toNat := BitVec.toNat_inj.symm
  have hpc : R_PC.toNat = 15 := rfl
  unfold EightLines NineLines DualHighBase optStat
  simp only [gt_iff_lt, BitVec.lt_def, ne_eq, hnat, hpc]
  by_cases hld : op = Op.LDRD_reg
  · subst hld
    have hn := preValidate_input_of_check (by decide) dual_checks.1 s
    have hm := preValidate_input_of_check (by decide) dual_checks.2.1 s
    have hsplit : (glbInstrTlb Op.LDRD_reg).outputs =
        [] ++ (glbInstrTlb Op.LDRD_reg).output0 :: [_] := rfl
    have ht := preValidate_output (by decide) hsplit (by decide +kernel) (by decide +kernel) s
    change (getBitsValue _ 16 19).toNat = _ % 16 at hn
    change (getBitsValue _ 0 3).toNat = _ % 16 at hm
    change (getBitsValue _ 12 15).toNat = _ % 16 at ht
    rw [preValidate_options (by decide), hn, hm, ht]
    simp
  · by_cases hst : op = Op.STRD_reg
    · subst hst
      have hn := preValidate_input_of_check (by decide) dual_checks.2.2.1 s
      have hm := preValidate_input_of_check (by decide) dual_checks.2.2.2 s
      change (getBitsValue _ 16 19).toNat = _ % 16 at hn
      change (getBitsValue _ 0 3).toNat = _ % 16 at hm
      rw [preValidate_options (by decide), hn, hm]
      simp
    · simp [hld, hst]

lemma genInstr_length_iff (hop : op < SISA_OP_MAX) (s : GenState) :
    (genInstr op s).2.instrBuf.length ≤ MAX_INSTR ↔ ¬EightLines op (preValidate op s) := by
  have hstart := preValidate_instrBuf hop s
  rw [genInstr_instrBuf]
  by_cases hnine : EightLines op (preValidate op s)
  · have hkind : (glbInstrTlb op).opKind ≠ .pseudoOp := by
      obtain ⟨-, -, -, -, -, ⟨rfl, -⟩ | rfl⟩ := hnine
      · decide
      · decide
    rw [if_neg hkind, validate_nine hnine, hstart]
    exact iff_of_false (by decide) (not_not.2 hnine)
  · have hlines := (validate_adds hnine).lines
    rw [hstart] at hlines
    refine iff_of_true ?_ hnine
    split
    · exact Nat.zero_le _
    · exact hlines

lemma preValidate_isRegInit (hop : op < SISA_OP_MAX) (s : GenState) :
    (preValidate op s).isRegInit = s.isRegInit := by
  have hstages := congrArg GenState.isRegInit (operandStages_sets hop (beginInstr s)).rest
  have hfix := congrArg GenState.isRegInit
    (fixUnpredictableBit_sets op (takeOrig (operandStages op (beginInstr s))).2).rest
  have horig : (takeOrig (operandStages op (beginInstr s))).2.isRegInit =
      (operandStages op (beginInstr s)).isRegInit := by
    unfold takeOrig
    split <;> rfl
  exact (hfix.trans horig).trans hstages

lemma genInstr_isRegInit (hop : op < SISA_OP_MAX) (h : ¬EightLines op (preValidate op s)) :
    (genInstr op s).2.isRegInit = s.isRegInit := by
  have hval := (validate_adds h).isRegInit
  rw [preValidate_isRegInit hop] at hval
  unfold genInstr
  dsimp only
  split
  · rfl
  · exact hval

end GenInstr

/-! ## `gen_oprand_init_instrs` -/

section Init

variable {s : GenState}

/-- The registers marked as initialised are among `rs`. -/
def MarkedIn (s : GenState) (rs : List ℕ) : Prop := ∀ r, s.isRegInit r = true → r ∈ rs

lemma initReg_marked {rs : List ℕ} (h : MarkedIn s rs) (opnd : Opnd) (vals : List Word) :
    MarkedIn (initReg opnd vals s) ((getRegnum s.rawInstr opnd).toNat :: rs) := by
  intro r hr
  unfold initReg at hr
  dsimp only at hr
  split at hr
  · dsimp only at hr
    split at hr
    · exact List.mem_cons.2 (.inl ‹_›)
    · exact List.mem_cons_of_mem _ (h r hr)
  · exact List.mem_cons_of_mem _ (h r hr)

/-- `set_bias_oprand_value` marks at most one register for each operand. -/
lemma foldl_marked (opnds : List Opnd) {rs : List ℕ} (h : MarkedIn s rs) :
    ∃ rs', rs'.length ≤ rs.length + opnds.length ∧
      MarkedIn (opnds.foldl (fun s opnd =>
        match opnd.type with
        | .gpr => initReg opnd regVals s
        | .shiftReg => initReg opnd shiftRegVals s
        | _ => s) s) rs' := by
  induction opnds generalizing s rs with
  | nil => exact ⟨rs, Nat.le_refl _, h⟩
  | cons opnd opnds ih =>
    have hstep : ∃ rs₁ : List ℕ, rs₁.length ≤ rs.length + 1 ∧ MarkedIn (match opnd.type with
        | .gpr => initReg opnd regVals s
        | .shiftReg => initReg opnd shiftRegVals s
        | _ => s) rs₁ := by
      split
      · exact ⟨_, Nat.le_refl _, initReg_marked h opnd _⟩
      · exact ⟨_, Nat.le_refl _, initReg_marked h opnd _⟩
      · exact ⟨rs, Nat.le_succ _, h⟩
    obtain ⟨rs₁, hlen₁, h₁⟩ := hstep
    obtain ⟨rs', hlen', h'⟩ := ih h₁
    refine ⟨rs', ?_, h'⟩
    rw [List.length_cons]
    omega

/-- Each register takes at most two lines. -/
lemma length_flatMap_oprandInitLines (s : GenState) (l : List ℕ) :
    (l.flatMap (oprandInitLines s)).length ≤ 2 * (l.filter s.isRegInit).length := by
  induction l with
  | nil => simp
  | cons r l ih =>
    rw [List.flatMap_cons, List.length_append]
    have hr : (oprandInitLines s r).length ≤ if s.isRegInit r then 2 else 0 := by
      unfold oprandInitLines
      split_ifs <;> simp
    cases hmark : s.isRegInit r with
    | false =>
      rw [hmark, if_neg Bool.false_ne_true] at hr
      rw [List.filter_cons_of_neg (by simp [hmark])]
      omega
    | true =>
      rw [hmark, if_pos rfl] at hr
      rw [List.filter_cons_of_pos hmark, List.length_cons]
      omega

lemma genOprandInitInstrs_length_le (op : Opcode) (hfresh : ∀ r, s.isRegInit r = false) :
    (genOprandInitInstrs (setBiasOprandValue op s)).initInstrBuf.length ≤ MAX_INSTR := by
  have hnone : MarkedIn s [] := by
    intro r hr
    rw [hfresh r] at hr
    cases hr
  obtain ⟨rs, hlen, hmarked⟩ := foldl_marked (glbInstrTlb op).inputs.reverse hnone
  let t := setBiasOprandValue op s
  have hcount : ((List.range 15).reverse.filter t.isRegInit).length ≤ rs.length := by
    have hnodup : (List.range 15).reverse.Nodup := List.nodup_reverse.2 List.nodup_range
    refine (List.subperm_of_subset (hnodup.filter _) fun r hr => ?_).length_le
    exact hmarked r (List.mem_filter.1 hr).2
  have hlines := length_flatMap_oprandInitLines t (List.range 15).reverse
  have hfour : rs.length ≤ 4 := hlen
  refine Nat.le_trans hlines ?_
  unfold MAX_INSTR
  omega

end Init

/-- The lines of one instruction, and those that initialise its operands, fit their buffers. -/
structure LinesInRange (op : Opcode) (s : GenState) : Prop where
  instr : (genInstr op s).2.instrBuf.length ≤ MAX_INSTR
  init : (genOprandInitInstrs (setBiasOprandValue op (genInstr op s).2)).initInstrBuf.length ≤
    MAX_INSTR

/-- The line buffers suffice unless the options ask for a dual access with a high base in Thumb
state. -/
theorem genInstr_linesInRange_iff {op : Opcode} (hop : op < SISA_OP_MAX) (s : GenState)
    (hfresh : ∀ r, s.isRegInit r = false) : LinesInRange op s ↔ ¬NineLines op s.options := by
  rw [← eightLines_iff, ← genInstr_length_iff hop s]
  refine ⟨LinesInRange.instr, fun h => ⟨h, genOprandInitInstrs_length_le op fun r => ?_⟩⟩
  rw [genInstr_isRegInit hop ((genInstr_length_iff hop s).1 h)]
  exact hfresh r

theorem genInstr_linesInRange_LDR_imm :
    LinesInRange Op.LDR_imm (staticState (fun _ => 0) fun _ => 0) := by
  refine (genInstr_linesInRange_iff (by decide) _ fun _ => rfl).2 fun h => ?_
  obtain ⟨-, -, ⟨hop, -⟩ | ⟨hop, -⟩⟩ := h
  · exact absurd hop (by decide)
  · exact absurd hop (by decide)

/-- `ldrd r0, r1, [r8, r2]` with the options at 16-bit Thumb: nine lines. -/
theorem genInstr_nineLines :
    (genInstr Op.LDRD_reg { staticState (fun _ => 0) fun _ => 0 with
      options := { initOptions with
        isa := .thumb, srcRegs := fun i => if i = 0 then 8 else 2, dstRegs := fun _ => 0 }
      rawInstr := 0xe18000d0 }).2.instrBuf.length = 9 := by
  decide +kernel

end Rit
