import Rit.Properties.Table

/-!
# What the stages of `gen_instr` may write

The frame of every stage.  `Writes m s s'` says that a step from `s` to `s'` changed at most the
bits of `m` in the instruction word, only appended lines, and left alone everything that the
bookkeeping of requested bits and the retry loop rely on.
-/

namespace Rit

open BitField GenState

/-! ## The frame -/

/-- A step that writes at most the bits `m` of the instruction word. -/
structure Writes (m : Word) (s s' : GenState) : Prop where
  raw : AgreeOff m s'.rawInstr s.rawInstr
  lines : s.instrBuf <+: s'.instrBuf
  options : s'.options = { s.options with condVal := s'.options.condVal, isa := s'.options.isa }
  shadowOptions : s'.shadowOptions = s.shadowOptions
  instrFixedBit : s'.instrFixedBit = s.instrFixedBit
  isSetFixedBit : s'.isSetFixedBit = s.isSetFixedBit
  isRegBitCut : s'.isRegBitCut = s.isRegBitCut
  opkindList : s'.opkindList = s.opkindList

namespace Writes

variable {m m' : Word} {s s' s'' : GenState}

lemma refl (m : Word) (s : GenState) : Writes m s s :=
  ⟨.refl m _, List.prefix_rfl, rfl, rfl, rfl, rfl, rfl, rfl⟩

lemma trans (h : Writes m s s') (h' : Writes m s' s'') : Writes m s s'' where
  raw := h'.raw.trans h.raw
  lines := h.lines.trans h'.lines
  options := by rw [h'.options, h.options]
  shadowOptions := h'.shadowOptions.trans h.shadowOptions
  instrFixedBit := h'.instrFixedBit.trans h.instrFixedBit
  isSetFixedBit := h'.isSetFixedBit.trans h.isSetFixedBit
  isRegBitCut := h'.isRegBitCut.trans h.isRegBitCut
  opkindList := h'.opkindList.trans h.opkindList

lemma mono (h : Writes m s s') (hm : m &&& m' = m) : Writes m' s s' :=
  ⟨h.raw.mono hm, h.lines, h.options, h.shadowOptions, h.instrFixedBit, h.isSetFixedBit,
    h.isRegBitCut, h.opkindList⟩

/-- Steps that write nothing fit under every mask. -/
lemma of_zero (h : Writes 0 s s') : Writes m s s' := h.mono (BitVec.zero_and)

lemma optStat (h : Writes m s s') (k : OptionKind) : s'.optStat k = s.optStat k := by
  simp only [GenState.optStat, GenOption.getOptStat]
  rw [h.options]

lemma rawInstr_eq (h : Writes 0 s s') : s'.rawInstr = s.rawInstr := by
  apply BitVec.eq_of_getLsbD_eq
  intro i _
  exact h.raw i (BitVec.getLsbD_zero)

end Writes

/-! ## Elementary steps -/

lemma writes_setRawInstr {m w : Word} {s : GenState} (h : AgreeOff m w s.rawInstr) :
    Writes m s (s.setRawInstr w) :=
  ⟨h, List.prefix_rfl, rfl, rfl, rfl, rfl, rfl, rfl⟩

lemma writes_insertInstrs (m : Word) (ls : List Line) (s : GenState) :
    Writes m s (s.insertInstrs ls) :=
  ⟨.refl m _, List.prefix_append _ _, rfl, rfl, rfl, rfl, rfl, rfl⟩

lemma writes_afterRand (m : Word) (s : GenState) : Writes m s s.afterRand :=
  ⟨.refl m _, List.prefix_rfl, rfl, rfl, rfl, rfl, rfl, rfl⟩

lemma writes_setOprandInit {m : Word} {s : GenState} {r : InstrStatus × GenState}
    (h : Writes m s r.2) : Writes m s (setOprandInit r).2 :=
  ⟨h.raw, h.lines, h.options, h.shadowOptions, h.instrFixedBit, h.isSetFixedBit, h.isRegBitCut,
    h.opkindList⟩

/-! ## Memory preludes -/

lemma fixMemBase_writes (n : Word) (forceAlign : Bool) (s : GenState) :
    Writes 0 s (fixMemBase n forceAlign s) := writes_insertInstrs 0 _ s

lemma genPreInstrForMemBase_writes (n : Word) (s : GenState) :
    Writes 0 s (genPreInstrForMemBase n s).2 := by
  unfold genPreInstrForMemBase
  dsimp only
  split
  · exact .refl 0 s
  · refine Writes.trans ?_ (writes_insertInstrs 0 _ _)
    split
    · exact writes_afterRand 0 s
    · exact .refl 0 s

lemma getRandMemOffset_writes (shiftT shiftN : Word) (s : GenState) :
    Writes 0 s (getRandMemOffset shiftT shiftN s).2 := by
  rw [getRandMemOffset]
  dsimp only
  split_ifs
  · exact ⟨.refl 0 _, List.prefix_rfl, rfl, rfl, rfl, rfl, rfl, rfl⟩
  · exact writes_afterRand 0 s

lemma fixOffset_writes (shifted dual : Bool) (shiftT shiftN : Word) (s : GenState) :
    Writes 0 s (fixOffset shifted dual shiftT shiftN s).2 := by
  rw [fixOffset]
  split_ifs
  · exact getRandMemOffset_writes shiftT shiftN s
  · exact writes_afterRand 0 s
  · exact writes_afterRand 0 s

lemma setInstr_agreeOff (w v : Word) {lo hi : ℕ} (hlo : lo ≤ hi) (hhi : hi < 31) :
    AgreeOff (span 32 lo hi) (setInstr w lo hi v) w := by
  rw [setInstr_eq_set w v hlo hhi]
  exact agreeOff_set w v lo hi

lemma immTail_writes {m : Word} (n : Word) {dual : Bool} (half word : Bool)
    (status : InstrStatus) (s : GenState) (hm : dual = true → alignMask &&& m = alignMask) :
    Writes m s (immTail n dual half word status s).2 := by
  unfold immTail
  dsimp only
  split
  · exact .refl m s
  split
  · refine (fixMemBase_writes n dual s).of_zero.trans ?_
    split
    · rename_i hdual
      have h : AgreeOff alignMask (setInstr s.rawInstr 0 1 0) s.rawInstr :=
        setInstr_agreeOff _ 0 (by decide) (by decide)
      exact writes_setRawInstr (h.mono (hm hdual.1))
    · exact .refl m _
  · exact (genPreInstrForMemBase_writes n s).of_zero

lemma regTail_writes (n m shiftT shiftN : Word) (shifted dual half word : Bool)
    (status : InstrStatus) (s : GenState) :
    Writes 0 s (regTail n m shiftT shiftN shifted dual half word status s).2 := by
  unfold regTail
  dsimp only
  split
  · exact .refl 0 s
  split
  · exact ((fixMemBase_writes n dual s).trans (fixOffset_writes _ _ _ _ _)).trans
      (writes_insertInstrs 0 _ _)
  · exact ((genPreInstrForMemBase_writes n s).trans (getRandMemOffset_writes _ _ _)).trans
      (writes_insertInstrs 0 _ _)

lemma multiTail_writes (n : Word) (status : InstrStatus) (s : GenState) :
    Writes 0 s (multiTail n status s).2 := by
  unfold multiTail
  dsimp only
  split
  · exact .refl 0 s
  split
  · exact fixMemBase_writes n true s
  · exact genPreInstrForMemBase_writes n s

/-! ## Biasing -/

lemma setInstrReg_agreeOff {o : Opnd} (ho : o.Ok) (w v : Word) :
    AgreeOff o.mask (setInstrReg w o v) w := setInstr_agreeOff w v ho.1 ho.2

/-- Writes to operands under `m` stay under `m`. -/
lemma setInstrRegs_agreeOff {m : Word} (writes : List (Opnd × Word)) (w : Word)
    (h : ∀ p ∈ writes, p.1.Ok ∧ p.1.mask &&& m = p.1.mask) :
    AgreeOff m (setInstrRegs w writes) w := by
  unfold setInstrRegs
  induction writes generalizing w with
  | nil => exact .refl m w
  | cons p ps ih =>
    obtain ⟨hok, hm⟩ := h p List.mem_cons_self
    have hhead := (setInstrReg_agreeOff hok w p.2).mono hm
    exact (ih _ fun q hq => h q (List.mem_cons_of_mem p hq)).trans hhead

section Bias

variable {m : Word} {k : OptionKind} {s : GenState}

lemma writes_setInstrRegs {writes : List (Opnd × Word)} (h : ∀ p ∈ writes, p.1.Under m) :
    Writes m s (s.afterRand.setRawInstr (setInstrRegs s.rawInstr writes)) :=
  (writes_afterRand m s).trans (writes_setRawInstr (setInstrRegs_agreeOff writes s.rawInstr h))

lemma bias2_writes {o1 o2 : Opnd} {r : Word × Word}
    (h : s.optStat k = true → o1.Under m ∧ o2.Under m) : Writes m s (bias2 k o1 o2 r s).2 := by
  unfold bias2
  split
  · rename_i hk
    exact writes_setInstrRegs (by simpa using h hk)
  · exact .refl m s

lemma bias3_writes {o1 o2 o3 : Opnd} {r : Word × Word × Word}
    (h : s.optStat k = true → o1.Under m ∧ o2.Under m ∧ o3.Under m) :
    Writes m s (bias3 k o1 o2 o3 r s).2 := by
  unfold bias3
  split
  · rename_i hk
    exact writes_setInstrRegs (by simpa using h hk)
  · exact .refl m s

lemma bias4_writes {o1 o2 o3 o4 : Opnd} {r : Word × Word × Word × Word}
    (h : s.optStat k = true → o1.Under m ∧ o2.Under m ∧ o3.Under m ∧ o4.Under m) :
    Writes m s (bias4 k o1 o2 o3 o4 r s).2 := by
  unfold bias4
  split
  · rename_i hk
    exact writes_setInstrRegs (by simpa using h hk)
  · exact .refl m s

lemma biasMul_writes {op : Opcode}
    (h : s.optStat .allowBiasOpnd = true → (glbInstrTlb op).output0.Under m ∧
      (glbInstrTlb op).input0.Under m ∧ (glbInstrTlb op).input1.Under m) :
    Writes m s (biasMul op s).2 := by
  unfold biasMul
  dsimp only
  split
  · rename_i hk
    exact writes_setInstrRegs (by simpa using h hk)
  · exact .refl m s

lemma biasShiftImm_writes
    (h : s.optStat .allowBiasOpnd = true → span 32 7 11 &&& m = span 32 7 11) :
    Writes m s (biasShiftImm s) := by
  unfold biasShiftImm
  split
  · rename_i hk
    have hset := setInstr_agreeOff s.rawInstr (shiftImm s.nextRand) (show 7 ≤ 11 by decide)
      (show 11 < 31 by decide)
    exact (writes_afterRand m s).trans (writes_setRawInstr (hset.mono (h hk)))
  · exact .refl m s

end Bias

end Rit
