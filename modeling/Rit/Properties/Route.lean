import Rit.Properties.Frame

/-!
# Which generator an opcode reaches

The dispatch of the three instruction sets, inverted once.  `ArmRoute op s r` lists every way
`gen_arm_instr` can produce `r` from `s`; whatever never ends `VALID` and does not touch the
word is collected under `reject`.  `ThumbRoute` and `Thumb32Route` do the same for the other two
sets.  Later results go by cases on the route and never unfold the dispatch.
-/

namespace Rit

open BitField GenState

/-! ## ARM -/

lemma mem_armKindOps {op : Opcode} {l : List Opcode} (hop : op < SISA_OP_ARM_MAX)
    (hu : op ∉ armUncategoriedOp) (hl : armKindOps (glbInstrTlb op).opKind = some l) : op ∈ l := by
  have h := (rowFacts (Nat.lt_trans hop (by decide))).armKind
  have hge : ¬ SISA_OP_ARM_MAX ≤ op := Nat.not_le.mpr hop
  simpa only [armKindCheck, hl, Option.all_some, hge, hu, decide_false, Bool.or_false,
    decide_eq_true_eq] using h

/-- The ways through `gen_arm_instr`. -/
inductive ArmRoute (op : Opcode) (s : GenState) : InstrStatus × GenState → Prop
  | ldImm (h : op ∈ ldImmOps) : ArmRoute op s (setOprandInit (genLdImm op s))
  | ldtA1 (h : op ∈ ldtA1Ops) : ArmRoute op s (setOprandInit (genLdtA1 op s))
  | ldReg (h : op ∈ ldRegOps) : ArmRoute op s (setOprandInit (genLdReg op s))
  | ldtA2 (h : op ∈ ldtA2Ops) : ArmRoute op s (setOprandInit (genLdtA2 op s))
  | ldLit (h : op ∈ ldLitOps) : ArmRoute op s (setOprandInit (genLdLit op s))
  | stImm (h : op ∈ stImmOps) : ArmRoute op s (setOprandInit (genStImm op s))
  | sttA1 (h : op ∈ sttA1Ops) : ArmRoute op s (setOprandInit (genSttA1 op s))
  | stReg (h : op ∈ stRegOps) : ArmRoute op s (setOprandInit (genStReg op s))
  | sttA2 (h : op ∈ sttA2Ops) : ArmRoute op s (setOprandInit (genSttA2 op s))
  | ldm (h : op ∈ ldmOps) : ArmRoute op s (setOprandInit
      (multiTail (getRegnum s.rawInstr (glbInstrTlb op).input0)
        (ldmStatus op s.options s.rawInstr) s))
  | stm (h : op ∈ stmOps) : ArmRoute op s (setOprandInit
      (multiTail (getRegnum s.rawInstr (glbInstrTlb op).input0) (stmStatus op s.rawInstr) s))
  | push (h : op ∈ pushOps) :
      ArmRoute op s (setOprandInit (multiTail R_SP (pushStatus op s.rawInstr) s))
  | pop (h : op ∈ popOps) :
      ArmRoute op s (setOprandInit (multiTail R_SP (popStatus op s.options s.rawInstr) s))
  | ldex (h : op ∈ ldexOps) : ArmRoute op s (genLdexInstr op s)
  | stex (h : op ∈ stexOps) : ArmRoute op s (genStexInstr op s)
  | swp (h : op ∈ [Op.SWP, Op.SWPB]) : ArmRoute op s (genSwp op s)
  | clz (h : op = Op.CLZ) : ArmRoute op s (genClz op s)
  | adr (h : op ∈ [Op.ADR_a1, Op.ADR_a2, Op.MOVT]) : ArmRoute op s
      (if getRegnum s.rawInstr (glbInstrTlb op).output0 = R_PC then .unsupported else .valid, s)
  | mul (h : op ∈ mulOps) : ArmRoute op s (genMul op s)
  | mla (h : op ∈ mlaOps) : ArmRoute op s (genMla op s)
  | mulLong (h : op ∈ mulLongOps) : ArmRoute op s (genMulLong op s)
  | data (h : (glbInstrTlb op).opKind.isData = true) (hu : op ∉ armUncategoriedOp) :
      ArmRoute op s (genDataInstr op s)
  | empty (h : op ∈ armEmptyOps) : ArmRoute op s (genEmptyInstr op, s)
  | parallel (h : op ∈ parallelOps) : ArmRoute op s (genThreeReg .allowBiasOpnd op s)
  | extAdd (h : op ∈ extAddOps) : ArmRoute op s (genExtAdd op s)
  | ext (h : op ∈ extOps) : ArmRoute op s (genExt op s)
  | reverse (h : op ∈ reverseOps) : ArmRoute op s (reverseStatus op s.rawInstr, s)
  | sat (h : op ∈ satOps) : ArmRoute op s (genSat op s)
  | pkh (h : op = Op.PKH) : ArmRoute op s (genPkh op s)
  | bfx (h : op ∈ [Op.SBFX, Op.UBFX]) : ArmRoute op s (genBfx op s)
  | bfc (h : op = Op.BFC) : ArmRoute op s (bfcStatus op s.rawInstr, s)
  | bfi (h : op = Op.BFI) : ArmRoute op s (genBfi op s)
  | usad8 (h : op = Op.USAD8) : ArmRoute op s (genThreeReg .allowBiasReg op s)
  | usada8 (h : op = Op.USADA8) : ArmRoute op s (genUsada8 op s)
  | sel (h : op = Op.SEL) : ArmRoute op s (selStatus op s.rawInstr, s)
  | sr (h : op ∈ [Op.MRS_a, Op.MSR_imm_a, Op.MSR_reg_a]) :
      ArmRoute op s (srStatus op s.rawInstr, s)
  | preload (h : op ∈ preloadOps) : ArmRoute op s (preloadStatus op s.rawInstr, s)
  | reject {r : InstrStatus × GenState} (hr : r.1 ≠ .valid) (hw : Writes 0 s r.2) :
      ArmRoute op s r

/-- Returning at once with a status other than `VALID`. -/
lemma ArmRoute.stop {op : Opcode} {s : GenState} {st : InstrStatus} (h : st ≠ .valid) :
    ArmRoute op s (st, s) := .reject h (.refl 0 s)

lemma genLdInstr_route (op : Opcode) (s : GenState) : ArmRoute op s (genLdInstr op s) := by
  unfold genLdInstr
  split
  · exact .ldImm ‹_›
  split
  · exact .ldtA1 ‹_›
  split
  · exact .ldReg ‹_›
  split
  · exact .ldtA2 ‹_›
  split
  · exact .ldLit ‹_›
  · exact .reject (by simp [setOprandInit]) (writes_setOprandInit (.refl 0 s))

lemma genStInstr_route (op : Opcode) (s : GenState) : ArmRoute op s (genStInstr op s) := by
  unfold genStInstr
  split
  · exact .stImm ‹_›
  split
  · exact .sttA1 ‹_›
  split
  · exact .stReg ‹_›
  split
  · exact .sttA2 ‹_›
  · exact .reject (by simp [setOprandInit]) (writes_setOprandInit (.refl 0 s))

lemma genMiscInstr_route (op : Opcode) (s : GenState) : ArmRoute op s (genMiscInstr op s) := by
  unfold genMiscInstr
  split
  · exact .stop (by decide)
  split
  · exact .swp (by simpa using ‹_›)
  split
  · exact .clz ‹_›
  split
  · exact .adr (by simpa using ‹_›)
  · exact .stop (by decide)

lemma genMulInstr_route (op : Opcode) (s : GenState) : ArmRoute op s (genMulInstr op s) := by
  unfold genMulInstr
  split
  · exact .mul ‹_›
  split
  · exact .mla ‹_›
  split
  · exact .mulLong ‹_›
  · exact .stop (by decide)

lemma genJmpInstr_route (op : Opcode) (s : GenState) : ArmRoute op s (genJmpInstr op s) := by
  have hins : ∀ ls, Writes 0 s (s.insertInstrs ls) := fun ls => writes_insertInstrs 0 ls s
  unfold genJmpInstr
  split_ifs <;> first | exact .stop (by decide) | exact .reject (by simp) (hins _)

lemma genUncategorizedInstr_route (op : Opcode) (s : GenState) :
    ArmRoute op s (genUncategorizedInstr op s) := by
  unfold genUncategorizedInstr
  refine iteInduction .parallel fun _ => iteInduction .extAdd fun _ => iteInduction .ext fun _ => ?_
  refine iteInduction .reverse fun _ => iteInduction .sat fun _ => iteInduction .pkh fun _ => ?_
  refine iteInduction (fun h => .bfx (by simpa using h)) fun _ => iteInduction .bfc fun _ => ?_
  refine iteInduction .bfi fun _ => iteInduction .usad8 fun _ => iteInduction .usada8 fun _ => ?_
  refine iteInduction .sel fun _ => iteInduction .sr fun _ => iteInduction .preload fun _ => ?_
  exact .stop (by decide)

/-- Every run of `gen_arm_instr` on an ARM opcode takes one of the routes. -/
theorem genArmInstr_route {op : Opcode} (hop : op < SISA_OP_ARM_MAX) (s : GenState) :
    ArmRoute op s (genArmInstr op s) := by
  unfold genArmInstr
  split
  · exact genUncategorizedInstr_route op s
  rename_i hu
  have hlist : ∀ {l}, armKindOps (glbInstrTlb op).opKind = some l → op ∈ l := mem_armKindOps hop hu
  have hdata : (glbInstrTlb op).opKind.isData = true → ArmRoute op s (genDataInstr op s) :=
    fun hd => .data hd hu
  cases hk : (glbInstrTlb op).opKind <;> rw [hk] at hlist hdata
  case stOp => exact genStInstr_route op s
  case ldOp => exact genLdInstr_route op s
  case ldrexOp => exact .ldex (hlist rfl)
  case strexOp => exact .stex (hlist rfl)
  case miscOp => exact genMiscInstr_route op s
  case umulOp | mul32Op | smulOp | smuldOp => exact genMulInstr_route op s
  case jmpOp => exact genJmpInstr_route op s
  case emptyOp => exact .empty (hlist rfl)
  case aluOp | logOp | movOp | cmpOp | testOp => exact hdata rfl
  case ldmOp => simpa only [genMultiMemInstr, hk] using ArmRoute.ldm (hlist rfl)
  case stmOp => simpa only [genMultiMemInstr, hk] using ArmRoute.stm (hlist rfl)
  case pushOp => simpa only [genMultiMemInstr, hk] using ArmRoute.push (hlist rfl)
  case popOp => simpa only [genMultiMemInstr, hk] using ArmRoute.pop (hlist rfl)
  all_goals exact .stop (by decide)

/-! ## 16-bit Thumb -/

def thumbMultiOps : List Opcode := [Op.LDM_T1, Op.STM_T1, Op.POP_T, Op.PUSH_T]

/-- The ways through `gen_thumb_instr`. -/
inductive ThumbRoute (op : Opcode) (s : GenState) : InstrStatus × GenState → Prop
  | ldImm (h : op ∈ thumbLdImmOps) (word half : Bool) : ThumbRoute op s (setOprandInit
      (thumbMemImm (getRegnum s.rawInstr (glbInstrTlb op).input0) word half s))
  | stImm (h : op ∈ thumbStImmOps) (word half : Bool) : ThumbRoute op s (setOprandInit
      (thumbMemImm (getRegnum s.rawInstr (glbInstrTlb op).input1) word half s))
  | ldReg (h : op ∈ thumbLdRegOps) (word half : Bool) : ThumbRoute op s (setOprandInit
      (thumbMemReg (getRegnum s.rawInstr (glbInstrTlb op).input0)
        (getRegnum s.rawInstr (glbInstrTlb op).input1) word half s))
  | stReg (h : op ∈ thumbStRegOps) (word half : Bool) : ThumbRoute op s (setOprandInit
      (thumbMemReg (getRegnum s.rawInstr (glbInstrTlb op).input1)
        (getRegnum s.rawInstr (glbInstrTlb op).input2) word half s))
  | ldLit (h : op = Op.LDR_lit_T1) : ThumbRoute op s (setOprandInit (.valid, s))
  | multi (h : op ∈ thumbMultiOps) : ThumbRoute op s (genThumbMultiMemInstr op s)
  | adr (h : op = Op.ADR_T1) : ThumbRoute op s (.valid, s)
  | mul (h : op = Op.MUL_reg_T1) : ThumbRoute op s (genThumbMulInstr op s.options s.rawInstr, s)
  | empty (h : (glbInstrTlb op).opKind = .emptyOp) : ThumbRoute op s (genThumbEmptyInstr op, s)
  | data (h : (glbInstrTlb op).opKind.isData = true) :
      ThumbRoute op s (genThumbDataInstr op s.rawInstr, s)
  | ext (h : (glbInstrTlb op).opKind = .extOp ∨ (glbInstrTlb op).opKind = .reverseOp) :
      ThumbRoute op s (.valid, s)
  | reject {r : InstrStatus × GenState} (hr : r.1 ≠ .valid) (hw : Writes 0 s r.2) :
      ThumbRoute op s r

lemma ThumbRoute.stop {op : Opcode} {s : GenState} {st : InstrStatus} (h : st ≠ .valid) :
    ThumbRoute op s (st, s) := .reject h (.refl 0 s)

lemma genThumbMemInstr_route (op : Opcode) (s : GenState) :
    ThumbRoute op s (genThumbMemInstr op s) := by
  unfold genThumbMemInstr
  dsimp only
  split
  · exact .ldImm ‹_› _ _
  split
  · exact .stImm ‹_› _ _
  split
  · exact .ldReg ‹_› _ _
  split
  · exact .stReg ‹_› _ _
  split
  · exact .ldLit ‹_›
  · exact .reject (by simp [setOprandInit]) (writes_setOprandInit (.refl 0 s))

lemma genThumbMultiMemInstr_writes (op : Opcode) (s : GenState) :
    Writes 0 s (genThumbMultiMemInstr op s).2 := by
  unfold genThumbMultiMemInstr
  dsimp only
  apply writes_setOprandInit
  split
  · split
    · exact fixMemBase_writes _ true s
    · exact genPreInstrForMemBase_writes _ s
  · exact .refl 0 s

lemma genThumbMultiMemInstr_route (op : Opcode) (s : GenState) :
    ThumbRoute op s (genThumbMultiMemInstr op s) := by
  by_cases h : op ∈ thumbMultiOps
  · exact .multi h
  refine .reject ?_ (genThumbMultiMemInstr_writes op s)
  simp only [thumbMultiOps, List.mem_cons, List.not_mem_nil, or_false, not_or] at h
  obtain ⟨h1, h2, h3, h4⟩ := h
  have hst : thumbMultiStatus op s.rawInstr = .invalid := by
    simp only [thumbMultiStatus, h1, h2, h3, h4, if_false]
  simp only [genThumbMultiMemInstr, setOprandInit, hst]
  split <;> simp

lemma genThumbJmpInstr_route (op : Opcode) (s : GenState) :
    ThumbRoute op s (genThumbJmpInstr op s) := by
  have hins : ∀ ls, Writes 0 s (s.insertInstrs ls) := fun ls => writes_insertInstrs 0 ls s
  unfold genThumbJmpInstr
  split_ifs <;> first | exact .stop (by decide) | exact .reject (by simp) (hins _)

/-- Every run of `gen_thumb_instr` takes one of the routes. -/
theorem genThumbInstr_route (op : Opcode) (s : GenState) :
    ThumbRoute op s (genThumbInstr op s) := by
  have hdata : (glbInstrTlb op).opKind.isData = true →
      ThumbRoute op s (genThumbDataInstr op s.rawInstr, s) := fun hd => .data hd
  unfold genThumbInstr
  cases hk : (glbInstrTlb op).opKind <;> rw [hk] at hdata
  case stOp | ldOp => exact genThumbMemInstr_route op s
  case stmOp | ldmOp | pushOp | popOp => exact genThumbMultiMemInstr_route op s
  case miscOp =>
    simp only [genThumbMiscInstr]
    split
    · exact .stop (by decide)
    split
    · exact .adr ‹_›
    · exact .stop (by decide)
  case mul32Op =>
    by_cases h : op = Op.MUL_reg_T1
    · exact .mul h
    · exact .stop (by simp [genThumbMulInstr, h])
  case jmpOp => exact genThumbJmpInstr_route op s
  case emptyOp => exact .empty hk
  case aluOp | logOp | movOp | cmpOp | testOp => exact hdata rfl
  case extOp => exact .ext (.inl hk)
  case reverseOp => exact .ext (.inr hk)
  all_goals exact .stop (by decide)

/-! ## 32-bit Thumb -/

/-- The ways through `gen_thumb32_instr`. -/
inductive Thumb32Route (op : Opcode) (s : GenState) : InstrStatus × GenState → Prop
  | multi (h : op ∈ thumb32MultiMemOps) : Thumb32Route op s (genThumb32MultiMem op s)
  | ldImm (h : op ∈ thumb32LdImmOps) : Thumb32Route op s (genThumb32LdImm op s)
  | memReg (h : op ∈ thumb32MemRegOps) : Thumb32Route op s (genThumb32MemReg op s)
  | stImm (h : op ∈ thumb32StImmOps) : Thumb32Route op s (genThumb32StImm op s)
  | memLit (h : op ∈ thumb32MemLitOps) : Thumb32Route op s (genThumb32MemLit op s.rawInstr, s)
  | memEx (h : op ∈ thumb32MemExOps) : Thumb32Route op s (genThumb32MemEx op s)
  | preload (h : op ∈ thumb32PreloadOps) :
      Thumb32Route op s (genThumb32MemPreload op s.rawInstr, s)
  | shiftedReg (h : op ∈ thumb32ShiftedRegOps) :
      Thumb32Route op s (genThumb32DataShiftedReg op s.rawInstr, s)
  | mimm (h : op ∈ thumb32MimmOps) : Thumb32Route op s (genThumb32DataMimm op s.rawInstr, s)
  | pimm (h : op ∈ thumb32PimmOps) : Thumb32Route op s (genThumb32DataPimm op s.rawInstr, s)
  | dataReg (h : op ∈ thumb32DataRegOps) : Thumb32Route op s (genThumb32DataReg op s.rawInstr, s)
  | parallel (h : op ∈ thumb32ParallelOps) :
      Thumb32Route op s (genThumb32DataParallel s.rawInstr, s)
  | misc (h : op ∈ thumb32MiscOps) : Thumb32Route op s (genThumb32DataMisc s)
  | mul (h : op ∈ thumb32MulOps) : Thumb32Route op s (genThumb32DataMul op s.rawInstr, s)
  | sr (h : op ∈ [Op.MSR_a_T1, Op.MRS_a_T1]) : Thumb32Route op s (genThumb32Sr op s.rawInstr, s)
  | hint (h : op ∈ thumb32HintOps) : Thumb32Route op s (genThumb32Hint op, s)
  | unsupported : Thumb32Route op s (.unsupported, s)

/-- Every run of `gen_thumb32_instr` takes one of the routes. -/
theorem genThumb32Instr_route (op : Opcode) (s : GenState) :
    Thumb32Route op s (genThumb32Instr op s) := by
  unfold genThumb32Instr
  -- the dispatch is one chain of tests; each test that succeeds is a route
  refine iteInduction .multi fun _ => iteInduction .ldImm fun _ => iteInduction .memReg fun _ => ?_
  refine iteInduction .stImm fun _ => iteInduction .memLit fun _ => iteInduction .memEx fun _ => ?_
  refine iteInduction .preload fun _ => iteInduction .shiftedReg fun _ => ?_
  refine iteInduction .mimm fun _ => iteInduction .pimm fun _ => iteInduction .dataReg fun _ => ?_
  refine iteInduction .parallel fun _ => iteInduction .misc fun _ => iteInduction .mul fun _ => ?_
  exact iteInduction .sr fun _ => iteInduction .hint fun _ => .unsupported

/-! ## The generator of a load or store

For the opcodes of one list the dispatch is an equation. -/

section Dispatch

variable {op : Opcode} {l : List Opcode} (s : GenState)

lemma genArmInstr_ld (hl : (l, OpKind.ldOp) ∈ memKinds) (hop : op ∈ l) :
    genArmInstr op s = genLdInstr op s := by
  rw [genArmInstr, if_neg (memKinds_sound _ hl op hop).1, (memKinds_sound _ hl op hop).2]

lemma genArmInstr_st (hl : (l, OpKind.stOp) ∈ memKinds) (hop : op ∈ l) :
    genArmInstr op s = genStInstr op s := by
  rw [genArmInstr, if_neg (memKinds_sound _ hl op hop).1, (memKinds_sound _ hl op hop).2]

lemma genArmInstr_ldm (hop : op ∈ ldmOps) : genArmInstr op s = setOprandInit
    (multiTail (getRegnum s.rawInstr (glbInstrTlb op).input0)
      (ldmStatus op s.options s.rawInstr) s) := by
  have hl : (ldmOps, OpKind.ldmOp) ∈ memKinds := by decide
  rw [genArmInstr, if_neg (memKinds_sound _ hl op hop).1, (memKinds_sound _ hl op hop).2]
  dsimp only
  rw [genMultiMemInstr, (memKinds_sound _ hl op hop).2]

lemma genArmInstr_stm (hop : op ∈ stmOps) : genArmInstr op s = setOprandInit
    (multiTail (getRegnum s.rawInstr (glbInstrTlb op).input0) (stmStatus op s.rawInstr) s) := by
  have hl : (stmOps, OpKind.stmOp) ∈ memKinds := by decide
  rw [genArmInstr, if_neg (memKinds_sound _ hl op hop).1, (memKinds_sound _ hl op hop).2]
  dsimp only
  rw [genMultiMemInstr, (memKinds_sound _ hl op hop).2]

lemma genArmInstr_push (hop : op ∈ pushOps) :
    genArmInstr op s = setOprandInit (multiTail R_SP (pushStatus op s.rawInstr) s) := by
  have hl : (pushOps, OpKind.pushOp) ∈ memKinds := by decide
  rw [genArmInstr, if_neg (memKinds_sound _ hl op hop).1, (memKinds_sound _ hl op hop).2]
  dsimp only
  rw [genMultiMemInstr, (memKinds_sound _ hl op hop).2]

lemma genArmInstr_pop (hop : op ∈ popOps) :
    genArmInstr op s = setOprandInit (multiTail R_SP (popStatus op s.options s.rawInstr) s) := by
  have hl : (popOps, OpKind.popOp) ∈ memKinds := by decide
  rw [genArmInstr, if_neg (memKinds_sound _ hl op hop).1, (memKinds_sound _ hl op hop).2]
  dsimp only
  rw [genMultiMemInstr, (memKinds_sound _ hl op hop).2]

lemma genArmInstr_ldex (hop : op ∈ ldexOps) : genArmInstr op s = genLdexInstr op s := by
  have hl : (ldexOps, OpKind.ldrexOp) ∈ memKinds := by decide
  rw [genArmInstr, if_neg (memKinds_sound _ hl op hop).1, (memKinds_sound _ hl op hop).2]

lemma genArmInstr_stex (hop : op ∈ stexOps) : genArmInstr op s = genStexInstr op s := by
  have hl : (stexOps, OpKind.strexOp) ∈ memKinds := by decide
  rw [genArmInstr, if_neg (memKinds_sound _ hl op hop).1, (memKinds_sound _ hl op hop).2]

lemma genArmInstr_swp (hop : op ∈ [Op.SWP, Op.SWPB]) : genArmInstr op s = genSwp op s := by
  have hl : ([Op.SWP, Op.SWPB], OpKind.miscOp) ∈ memKinds := by decide
  rw [genArmInstr, if_neg (memKinds_sound _ hl op hop).1, (memKinds_sound _ hl op hop).2]
  dsimp only
  have hsvc : op ≠ Op.SVC := by
    rintro rfl
    exact absurd hop (by decide)
  rw [genMiscInstr, if_neg hsvc, if_pos (by simpa using hop)]

lemma genArmInstr_ldImm (hop : op ∈ ldImmOps) :
    genArmInstr op s = setOprandInit (genLdImm op s) := by
  rw [genArmInstr_ld s (by decide) hop, genLdInstr, if_pos hop]

lemma genArmInstr_ldtA1 (hop : op ∈ ldtA1Ops) :
    genArmInstr op s = setOprandInit (genLdtA1 op s) := by
  have hother : ∀ op ∈ ldtA1Ops, op ∉ ldImmOps := by decide
  rw [genArmInstr_ld s (by decide) hop, genLdInstr, if_neg (hother op hop), if_pos hop]

lemma genArmInstr_ldReg (hop : op ∈ ldRegOps) :
    genArmInstr op s = setOprandInit (genLdReg op s) := by
  have hother : ∀ op ∈ ldRegOps, op ∉ ldImmOps ∧ op ∉ ldtA1Ops := by decide
  rw [genArmInstr_ld s (by decide) hop, genLdInstr, if_neg (hother op hop).1,
    if_neg (hother op hop).2, if_pos hop]

lemma genArmInstr_ldtA2 (hop : op ∈ ldtA2Ops) :
    genArmInstr op s = setOprandInit (genLdtA2 op s) := by
  have hother : ∀ op ∈ ldtA2Ops, op ∉ ldImmOps ∧ op ∉ ldtA1Ops ∧ op ∉ ldRegOps := by decide
  rw [genArmInstr_ld s (by decide) hop, genLdInstr, if_neg (hother op hop).1,
    if_neg (hother op hop).2.1, if_neg (hother op hop).2.2, if_pos hop]

lemma genArmInstr_ldLit (hop : op ∈ ldLitOps) :
    genArmInstr op s = setOprandInit (genLdLit op s) := by
  have hother : ∀ op ∈ ldLitOps, op ∉ ldImmOps ∧ op ∉ ldtA1Ops ∧ op ∉ ldRegOps ∧ op ∉ ldtA2Ops := by
    decide
  obtain ⟨h1, h2, h3, h4⟩ := hother op hop
  rw [genArmInstr_ld s (by decide) hop, genLdInstr, if_neg h1, if_neg h2, if_neg h3, if_neg h4,
    if_pos hop]

lemma genArmInstr_stImm (hop : op ∈ stImmOps) :
    genArmInstr op s = setOprandInit (genStImm op s) := by
  rw [genArmInstr_st s (by decide) hop, genStInstr, if_pos hop]

lemma genArmInstr_sttA1 (hop : op ∈ sttA1Ops) :
    genArmInstr op s = setOprandInit (genSttA1 op s) := by
  have hother : ∀ op ∈ sttA1Ops, op ∉ stImmOps := by decide
  rw [genArmInstr_st s (by decide) hop, genStInstr, if_neg (hother op hop), if_pos hop]

lemma genArmInstr_stReg (hop : op ∈ stRegOps) :
    genArmInstr op s = setOprandInit (genStReg op s) := by
  have hother : ∀ op ∈ stRegOps, op ∉ stImmOps ∧ op ∉ sttA1Ops := by decide
  rw [genArmInstr_st s (by decide) hop, genStInstr, if_neg (hother op hop).1,
    if_neg (hother op hop).2, if_pos hop]

lemma genArmInstr_sttA2 (hop : op ∈ sttA2Ops) :
    genArmInstr op s = setOprandInit (genSttA2 op s) := by
  have hother : ∀ op ∈ sttA2Ops, op ∉ stImmOps ∧ op ∉ sttA1Ops ∧ op ∉ stRegOps := by decide
  rw [genArmInstr_st s (by decide) hop, genStInstr, if_neg (hother op hop).1,
    if_neg (hother op hop).2.1, if_neg (hother op hop).2.2, if_pos hop]

lemma genThumbInstr_mem (hop : op ∈ thumbLdImmOps ++ thumbLdRegOps ++ [Op.LDR_lit_T1] ++
    thumbStImmOps ++ thumbStRegOps) : genThumbInstr op s = genThumbMemInstr op s := by
  have hkind : ∃ l, (l, OpKind.ldOp) ∈ memKinds ∧ op ∈ l ∨ (l, OpKind.stOp) ∈ memKinds ∧
      op ∈ l := by
    simp only [List.mem_append] at hop
    rcases hop with (((h | h) | h) | h) | h
    · exact ⟨_, .inl ⟨by decide, h⟩⟩
    · exact ⟨_, .inl ⟨by decide, h⟩⟩
    · exact ⟨_, .inl ⟨by decide, h⟩⟩
    · exact ⟨_, .inr ⟨by decide, h⟩⟩
    · exact ⟨_, .inr ⟨by decide, h⟩⟩
  obtain ⟨l, ⟨hl, hmem⟩ | ⟨hl, hmem⟩⟩ := hkind
  · rw [genThumbInstr, (memKinds_sound _ hl op hmem).2]
  · rw [genThumbInstr, (memKinds_sound _ hl op hmem).2]

lemma genThumbInstr_multi (hop : op ∈ thumbMultiOps) :
    genThumbInstr op s = genThumbMultiMemInstr op s := by
  simp only [thumbMultiOps, List.mem_cons, List.not_mem_nil, or_false] at hop
  rcases hop with rfl | rfl | rfl | rfl
  · rw [genThumbInstr, (memKinds_sound ([Op.LDM_T1], .ldmOp) (by decide) _ (by decide)).2]
  · rw [genThumbInstr, (memKinds_sound ([Op.STM_T1], .stmOp) (by decide) _ (by decide)).2]
  · rw [genThumbInstr, (memKinds_sound ([Op.POP_T], .popOp) (by decide) _ (by decide)).2]
  · rw [genThumbInstr, (memKinds_sound ([Op.PUSH_T], .pushOp) (by decide) _ (by decide)).2]

end Dispatch

end Rit
