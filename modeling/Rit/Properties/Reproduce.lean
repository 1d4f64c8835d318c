import Rit.Properties.Parse
import Rit.Properties.Retry

/-!
# Reproducibility of `single_instr_gen`

Two calls with the same parameters, a seed among them, return the same status, word and text
whatever happened before them, and the parameters of different kinds may come in any order.

`init_env_val` resets every global except the state of `rand()`, which the seed sets, the
memory behind `opkind_list`, and the contents of the stack.  From there on the two runs differ
in foreign values only, and no round, printed line or status depends on those.
-/

namespace Rit

open GenState

/-! ## A round -/

lemma randMod_blind (n : Word) : Blind (randMod n) := fun _ _ => rfl

lemma genRandReg_blind : Blind genRandReg := by
  intro x s
  simp only [genRandReg, randMod, withForeign_nextRand, withForeign_afterRand]
  split <;> rfl

lemma genRandCond_blind : Blind genRandCond := by
  intro x s
  unfold genRandCond
  dsimp only
  by_cases h : (randMod 3 s).1 = 1
  · rw [if_pos h, if_pos (show (randMod 3 (s.withForeign x)).1 = 1 from h)]
    rfl
  · rw [if_neg h, if_neg (show ¬ (randMod 3 (s.withForeign x)).1 = 1 from h)]
    rfl

lemma genPartImm_blind (bits : ℕ) : Blind (genPartImm bits) := by
  intro x s
  simp only [genPartImm, randMod, withForeign_nextRand, withForeign_afterRand]
  split <;> rfl

lemma genRandImm_blind : Blind genRandImm := by
  intro x s
  simp only [genRandImm, randMod, withForeign_nextRand, withForeign_afterRand, genPartImm_blind]
  split <;> rfl

/-- A conditional draw whose condition is about the options. -/
lemma BlindStep.drawIf {α : Type} {f : GenState → GenState} (hf : BlindStep f)
    (c : GenOption → Prop) [DecidablePred c] {draw : GenState → α × GenState} (hdraw : Blind draw)
    (upd : GenOption → α → GenOption) :
    BlindStep fun s => Rit.drawIf (c (f s).options) draw upd (f s) := by
  intro x s
  dsimp only
  rw [hf x s]
  refine ite_withForeign Iff.rfl ?_ rfl
  rw [hdraw x]
  rfl

lemma genRandRegs_blind (idx : ℕ) : BlindStep fun s => genRandRegs s idx := by
  unfold genRandRegs
  refine BlindStep.drawIf ?_ (fun o => ¬ o.getOptStat .fpDregExt ∨ o.dstFpRegsExt idx = FP_REG_RAND)
    (randMod_blind 2) _
  refine BlindStep.drawIf ?_ (fun o => ¬ o.getOptStat .fpSregExt ∨ o.srcFpRegsExt idx = FP_REG_RAND)
    (randMod_blind 2) _
  refine BlindStep.drawIf ?_ (fun o => ¬ o.getOptStat .dreg ∨ o.dstRegs idx = R_RAND)
    genRandReg_blind _
  exact BlindStep.drawIf (f := id) (fun _ _ => rfl)
    (fun o => ¬ o.getOptStat .sreg ∨ o.srcRegs idx = R_RAND) genRandReg_blind _

lemma genRandOptVal_blind : BlindStep genRandOptVal := by
  unfold genRandOptVal
  refine BlindStep.drawIf ?_ (fun o => ¬ o.getOptStat .shImm) genRandImm_blind _
  refine BlindStep.drawIf ?_ (fun o => ¬ o.getOptStat .imm) genRandImm_blind _
  refine BlindStep.drawIf ?_ (fun o => ¬ o.getOptStat .regsList) (fun _ _ => rfl) _
  refine BlindStep.drawIf ?_ (fun o => ¬ o.getOptStat .shrtType ∨ o.shiftRotateType = SH_TYPE_RAND)
    (randMod_blind 4) _
  refine BlindStep.drawIf ?_ (fun o => ¬ o.getOptStat .shrtReg ∨ o.shiftRotateReg = R_RAND)
    genRandReg_blind _
  refine BlindStep.drawIf ?_ (fun o => ¬ o.getOptStat .fpSzQExt ∨ o.fpSzQBit = FP_REG_RAND)
    (randMod_blind 2) _
  intro x s
  -- the three draws in front of the register loop
  have hfront := BlindStep.drawIf (BlindStep.drawIf (BlindStep.drawIf (f := id) (fun _ _ => rfl)
      (fun o => ¬ o.getOptStat .isa ∨ o.isa = .rand) (randMod_blind 4)
        (fun o v => { o with isa := isaOfIdx v }))
      (fun o => ¬ o.getOptStat .sbit ∨ o.sbitVal = .rand) (randMod_blind 2)
        (fun o v => { o with sbitVal := sbitOfIdx v }))
      (fun o => ¬ o.getOptStat .cond ∨ o.condVal = COND_RAND) genRandCond_blind
        (fun o v => { o with condVal := v }) x s
  exact (congrArg ((List.range MAX_REG_NUM).foldl genRandRegs) hfront).trans
    (BlindStep.foldl genRandRegs_blind (List.range MAX_REG_NUM) x _)

lemma relaxRestrict_blind (n : ℕ) : BlindStep (relaxRestrict n) := by
  intro x s
  rw [relaxRestrict, relaxRestrict, withForeign_optStat]
  split_ifs <;> rfl

lemma genRandomOp_blind : Blind genRandomOp := by
  intro x s
  have hops : candidateOps (s.withForeign x).options.isa (s.withForeign x).opkindList =
    candidateOps s.options.isa s.opkindList := rfl
  unfold genRandomOp
  dsimp only
  rw [hops]
  split_ifs <;> rfl

lemma prepare_blind (fixedOp : Option Opcode) (n : ℕ) : Blind (prepare fixedOp n) := by
  intro x s
  have hdraw : genRandOptVal (relaxRestrict n { s.withForeign x with options := s.shadowOptions }) =
      (genRandOptVal (relaxRestrict n { s with options := s.shadowOptions })).withForeign x :=
    (congrArg genRandOptVal (relaxRestrict_blind n x { s with options := s.shadowOptions })).trans
      (genRandOptVal_blind x _)
  cases fixedOp with
  | some op => exact congrArg (Prod.mk op) hdraw
  | none => exact (congrArg genRandomOp hdraw).trans (genRandomOp_blind x _)

lemma initRawInstrBin_blind (op : Opcode) : BlindStep (initRawInstrBin op) := by
  intro x s
  unfold initRawInstrBin
  rw [withForeign_optStat]
  split_ifs <;> rfl

/-- Two states that differ in foreign values only. -/
def SameButForeign (s t : GenState) : Prop := ∃ x, t = s.withForeign x

/-- Two results of a round that differ in foreign values only. -/
def SameResult (r q : Opcode × InstrStatus × GenState) : Prop :=
  q.1 = r.1 ∧ q.2.1 = r.2.1 ∧ SameButForeign r.2.2 q.2.2

lemma attempt_sameResult (fixedOp : Option Opcode) (n : ℕ) (s t : GenState)
    (h : SameButForeign s t) : SameResult (attempt fixedOp n s) (attempt fixedOp n t) := by
  obtain ⟨x, rfl⟩ := h
  unfold attempt
  rw [prepare_blind fixedOp n x s]
  dsimp only
  rw [initRawInstrBin_blind]
  obtain ⟨u, c, hgen⟩ := genInstr_withForeign (prepare fixedOp n s).1 x
    (initRawInstrBin (prepare fixedOp n s).1 (prepare fixedOp n s).2)
  rw [hgen]
  exact ⟨rfl, rfl, _, rfl⟩

/-! ## Printing -/

lemma initReg_blind (opnd : Opnd) (vals : List Word) : BlindStep (initReg opnd vals) := by
  intro x s
  exact ite_withForeign Iff.rfl rfl rfl

lemma setBiasOprandValue_blind (op : Opcode) : BlindStep (setBiasOprandValue op) := by
  refine BlindStep.foldl (fun opnd x s => ?_) _
  cases opnd.type
  case gpr => exact initReg_blind opnd regVals x s
  case shiftReg => exact initReg_blind opnd shiftRegVals x s
  all_goals rfl

lemma outputInstr_blind (op : Opcode) (instr : Word) (status : InstrStatus) :
    BlindStep (outputInstr op instr status) := by
  intro x s
  have hinit : (if (s.withForeign x).optStat .allowBiasOpnd ∧ ¬ (s.withForeign x).isOprandInit then
      genOprandInitInstrs (setBiasOprandValue op (s.withForeign x)) else s.withForeign x) =
      (if s.optStat .allowBiasOpnd ∧ ¬ s.isOprandInit then
        genOprandInitInstrs (setBiasOprandValue op s) else s).withForeign x := by
    refine ite_withForeign Iff.rfl ?_ rfl
    rw [setBiasOprandValue_blind]
    rfl
  unfold outputInstr
  rw [hinit]
  rfl

/-! ## The whole call -/

/-- What `single_instr_gen` returns apart from the reported bits. -/
def returned (r : InstrStatus × GenState) : InstrStatus × Word × List String :=
  (r.1, r.2.rawInstr, r.2.printBuf)

lemma enterLoop_withForeign (timeStream timeStream' : ℕ → BitVec 31) (x : Foreign) {s : GenState}
    (hseed : s.optStat .randSeed = true) :
    enterLoop timeStream' (s.withForeign x) = (enterLoop timeStream s).withForeign x := by
  have hrun (u : ℕ → BitVec 31) (t : GenState) (ht : t.optStat .randSeed = true) :
      enterLoop u t = { t with
        shadowOptions := t.options, instrFixedBit := 0, isSetFixedBit := false } :=
    if_neg (not_not_intro ht)
  rw [hrun timeStream s hseed, hrun timeStream' (s.withForeign x) hseed]
  rfl

lemma SameResult.returned_outputInstr {r q : Opcode × InstrStatus × GenState} (h : SameResult r q) :
    returned (q.2.1, outputInstr q.1 q.2.2.rawInstr q.2.1 q.2.2) =
      returned (r.2.1, outputInstr r.1 r.2.2.rawInstr r.2.1 r.2.2) := by
  obtain ⟨hop, hstatus, x, hstate⟩ := h
  rw [hop, hstatus, hstate, outputInstr_blind]
  rfl

/-- Generation depends neither on foreign values nor, with a seed, on the time. -/
lemma genRandomInstr_returned (timeStream timeStream' : ℕ → BitVec 31) (x : Foreign)
    {s : GenState} (hseed : s.optStat .randSeed = true) :
    returned (genRandomInstr timeStream' (s.withForeign x)) =
      returned (genRandomInstr timeStream s) := by
  have henter := enterLoop_withForeign timeStream timeStream' x hseed
  by_cases hop : UnknownOp s
  · -- nothing is generated
    rw [genRandomInstr_of_unknown timeStream hop,
      genRandomInstr_of_unknown timeStream' (show UnknownOp (s.withForeign x) from hop), henter]
    rfl
  · rw [genRandomInstr_of_known timeStream hop,
      genRandomInstr_of_known timeStream' (show ¬ UnknownOp (s.withForeign x) from hop), henter]
    have hsame : SameButForeign (enterLoop timeStream s) ((enterLoop timeStream s).withForeign x) :=
      ⟨x, rfl⟩
    exact (Retry.run_rel (attempt (requestedOp s)) (fun r => r.2.2) (fun r => r.2.1 = .valid)
      (attempt_sameResult (requestedOp s)) (fun _ _ h => h.2.2) (fun a b h => by rw [h.2.1])
      (retryMax s) 0 hsame).returned_outputInstr

/-! ## The parameters -/

/-- A state with another stack and another `rand()` stream. -/
def reseat (u : ℕ → Word) (r : ℕ → BitVec 31) (s : GenState) : GenState :=
  { s with uninit := u, randStream := r }

/-- The stream `rand()` has after the parameters. -/
def seedStream (seeded : Int → ℕ → BitVec 31) (ps : List Para) (r : ℕ → BitVec 31) :
    ℕ → BitVec 31 :=
  ps.foldl (fun r p => own .randSeed p (fun v _ => seeded v) r) r

lemma parsePara_reseat (seeded : Int → ℕ → BitVec 31) (p : Para) (u : ℕ → Word)
    (r : ℕ → BitVec 31) (s : GenState) :
    parsePara seeded p (reseat u r s) =
      (parsePara seeded p s).map (reseat u (own .randSeed p (fun v _ => seeded v) r)) := by
  rw [parsePara_eq, parsePara_eq]
  split <;> rfl

lemma parseParas_reseat (seeded : Int → ℕ → BitVec 31) (ps : List Para) (u : ℕ → Word)
    (r : ℕ → BitVec 31) (s : GenState) :
    parseParas seeded ps (reseat u r s) =
      (parseParas seeded ps s).map (reseat u (seedStream seeded ps r)) := by
  rw [parseParas_eq_runAll, parseParas_eq_runAll]
  induction ps generalizing r s with
  | nil => rfl
  | cons p ps ih =>
    rw [Interleave.runAll, Interleave.runAll, parsePara_reseat]
    cases parsePara seeded p s with
    | none => rfl
    | some t => exact ih _ t

/-- A seed among the parameters fixes the stream. -/
lemma seedStream_eq {seeded : Int → ℕ → BitVec 31} {ps : List Para} {v : Int}
    (h : (OptionKind.randSeed, ParaVal.long v) ∈ ps) (r r' : ℕ → BitVec 31) :
    seedStream seeded ps r = seedStream seeded ps r' := by
  induction ps generalizing r r' with
  | nil => exact absurd h List.not_mem_nil
  | cons p ps ih =>
    rcases List.mem_cons.mp h with rfl | hmem
    · rfl
    · exact ih hmem _ _

lemma getOptStat_orStatus {bits : Word} {s : GenState} {k : OptionKind}
    (h : s.optStat k = true ∨ bits.getLsbD k.bit = true) : (orStatus bits s).optStat k = true := by
  change (s.options.optStatus ||| bits).getLsbD k.bit = true
  rw [BitVec.getLsbD_or, Bool.or_eq_true]
  exact h

lemma parsePara_optStat {seeded : Int → ℕ → BitVec 31} {p : Para} {s t : GenState}
    (hp : parsePara seeded p s = some t) {k : OptionKind} (h : s.optStat k = true) :
    t.optStat k = true := by
  rw [parsePara_eq] at hp
  split at hp
  · obtain rfl := Option.some.inj hp
    exact getOptStat_orStatus (.inl h)
  · cases hp

/-- A seed among the parameters is noted in `opt_status`. -/
lemma parseParas_optStat_randSeed {seeded : Int → ℕ → BitVec 31} {ps : List Para} {v : Int}
    {s t : GenState} (hparse : parseParas seeded ps s = some t)
    (h : s.optStat .randSeed = true ∨ (OptionKind.randSeed, ParaVal.long v) ∈ ps) :
    t.optStat .randSeed = true := by
  rw [parseParas_eq_runAll] at hparse
  induction ps generalizing s with
  | nil =>
    obtain rfl := Option.some.inj hparse
    exact h.resolve_right List.not_mem_nil
  | cons p ps ih =>
    obtain ⟨s', hs', hrest⟩ := Option.bind_eq_some_iff.mp hparse
    refine ih hrest ?_
    rcases h with h | h
    · exact .inl (parsePara_optStat hs' h)
    · rcases List.mem_cons.mp h with rfl | hmem
      · obtain rfl := Option.some.inj hs'
        exact .inl (getOptStat_orStatus (.inr (by decide)))
      · exact .inr hmem

lemma parseParas_randStream {seeded : Int → ℕ → BitVec 31} {ps : List Para} {s t : GenState}
    (hparse : parseParas seeded ps s = some t) :
    t.randStream = seedStream seeded ps s.randStream := by
  have h := parseParas_reseat seeded ps s.uninit s.randStream s
  rw [show reseat s.uninit s.randStream s = s from rfl, hparse] at h
  exact congrArg GenState.randStream (Option.some.inj h)

lemma reseat_eq_withForeign (u : ℕ → Word) (t : GenState) :
    reseat u t.randStream t = t.withForeign { t.foreign with uninit := u } := rfl

/-! ## Reproducibility -/

/-- The kinds enabled by a string, where memory behind the list reads as disabled. -/
lemma updateOpkindStr_opkindList {s t : GenState}
    (hs : ∀ i ≥ opkindNames.length, s.opkindList i = false)
    (ht : ∀ i ≥ opkindNames.length, t.opkindList i = false) (str : String) :
    (updateOpkindStr str t).opkindList = (updateOpkindStr str s).opkindList := by
  funext i
  by_cases hi : i < opkindNames.length
  · exact (if_pos hi).trans (if_pos hi).symm
  · have hi' := Nat.le_of_not_lt hi
    exact (if_neg hi).trans ((ht i hi').trans ((hs i hi').symm.trans (if_neg hi).symm))

/-- The globals after `init_env_val` are the same up to the stack and the stream. -/
lemma initEnvVal_reseat {s t : GenState} (hs : ∀ i ≥ opkindNames.length, s.opkindList i = false)
    (ht : ∀ i ≥ opkindNames.length, t.opkindList i = false) :
    initEnvVal t = reseat t.uninit t.randStream (initEnvVal s) := by
  have hkinds : (initEnvVal t).opkindList = (initEnvVal s).opkindList := by
    unfold initEnvVal
    exact updateOpkindStr_opkindList (fun i hi => hs i hi) (fun i hi => ht i hi) _
  exact congrArg (fun kinds => { initEnvVal t with opkindList := kinds }) hkinds

/-- Only the order within a kind matters to the parser. -/
lemma parseParas_of_ofKey_eq (seeded : Int → ℕ → BitVec 31) {ps ps' : List Para}
    (hkeys : ∀ k, Interleave.ofKey k ps = Interleave.ofKey k ps') (s : GenState) :
    parseParas seeded ps' s = parseParas seeded ps s := by
  rw [parseParas_eq_runAll, parseParas_eq_runAll]
  exact (Interleave.runAll_eq_of_ofKey_eq (parsePara_comm seeded) hkeys _).symm

/-- With a seed among the parameters, the stack and the stream before the parsing do not reach
the result. -/
lemma genRandomInstr_reseat (seeded : Int → ℕ → BitVec 31)
    (timeStream timeStream' : ℕ → BitVec 31) {ps : List Para} {v : Int}
    (hseed : (OptionKind.randSeed, ParaVal.long v) ∈ ps) {s t : GenState}
    (hparse : parseParas seeded ps s = some t) (u : ℕ → Word) (r : ℕ → BitVec 31) :
    returned (genRandomInstr timeStream' (reseat u (seedStream seeded ps r) t)) =
      returned (genRandomInstr timeStream t) := by
  have hnoted := parseParas_optStat_randSeed hparse (.inr hseed)
  have hstream : seedStream seeded ps r = t.randStream :=
    (seedStream_eq hseed _ _).trans (parseParas_randStream hparse).symm
  rw [hstream, reseat_eq_withForeign]
  exact genRandomInstr_returned timeStream timeStream' _ hnoted

/-- **Reproducibility.**  With a seed among the parameters the returned status, word and text
are determined by the parameters of each kind in their order: they depend neither on the state
the earlier calls left, nor on the time, nor on how the kinds are interleaved.  Memory behind
`opkind_list` is assumed to read as disabled. -/
theorem singleInstrGen_reproducible (seeded : Int → ℕ → BitVec 31)
    (timeStream timeStream' : ℕ → BitVec 31) {ps ps' : List Para} {v : Int}
    (hseed : (OptionKind.randSeed, ParaVal.long v) ∈ ps)
    (hkeys : ∀ k, Interleave.ofKey k ps = Interleave.ofKey k ps') {s s' : GenState}
    (hs : ∀ i ≥ opkindNames.length, s.opkindList i = false)
    (hs' : ∀ i ≥ opkindNames.length, s'.opkindList i = false) :
    (singleInstrGen seeded timeStream ps s).map returned =
      (singleInstrGen seeded timeStream' ps' s').map returned := by
  unfold singleInstrGen
  rw [parseParas_of_ofKey_eq seeded hkeys, initEnvVal_reseat hs hs', parseParas_reseat,
    Option.map_map, Option.map_map, Option.map_map]
  refine Option.map_congr fun t ht => ?_
  exact (genRandomInstr_reseat seeded timeStream timeStream' hseed ht _ _).symm

/-- Two orders of four parameters, after different histories and at different times. -/
theorem singleInstrGen_reproducible_reordered :
    (singleInstrGen (fun v i => .ofInt 31 (v + i)) (fun _ => 0)
        [(.randSeed, .long 7), (.sreg, .long 1), (.opcode, .str "ADD_imm"), (.sreg, .long 2)]
        (staticState (fun _ => 0) fun _ => 0)).map returned =
      (singleInstrGen (fun v i => .ofInt 31 (v + i)) (fun _ => 1)
        [(.opcode, .str "ADD_imm"), (.sreg, .long 1), (.sreg, .long 2), (.randSeed, .long 7)]
        { staticState (fun _ => 5) (fun _ => 9) with rawInstr := 3, sregIdx := 4 }).map returned :=
  singleInstrGen_reproducible (v := 7) _ _ _ (by decide) (fun k => by cases k <;> rfl)
    (fun _ _ => rfl) (fun _ _ => rfl)

end Rit
