import Rit.Lib.Retry
import Rit.Properties.Encoding
import Rit.Properties.Foreign

/-!
# The retry loop

`gen_random_instr` as an instance of a bounded retry loop: `roundState` is the state before a
given round.  What a round keeps for the next is `Carries`: the user's options in `shadow_options`,
the enabled kinds and the counters of the parameter parser.
-/

namespace Rit

open BitField GenState

/-! ## The loop -/

/-- The state in which `gen_random_instr` enters its loop. -/
def enterLoop (timeStream : ℕ → BitVec 31) (s : GenState) : GenState :=
  let s := { s with shadowOptions := s.options, instrFixedBit := 0, isSetFixedBit := false }
  if ¬ s.optStat .randSeed then { s with randStream := timeStream } else s

/-- The state before round `n` of a loop entered in state `s`. -/
def roundState (fixedOp : Option Opcode) (s : GenState) (n : ℕ) : GenState :=
  Retry.stateAt (attempt fixedOp) (fun r => r.2.2) 0 s n

lemma attempts_eq_run (fixedOp : Option Opcode) (fuel n : ℕ) (op : Opcode) (status : InstrStatus)
    (s : GenState) :
    attempts fixedOp (fuel + 1) n op status s =
      Retry.run (attempt fixedOp) (fun r => r.2.2) (fun r => r.2.1 = .valid) fuel n s := by
  induction fuel generalizing n op status s with
  | zero =>
    rw [attempts, attempts, Retry.run]
    exact ite_self _
  | succ fuel ih =>
    rw [attempts, Retry.run]
    exact if_congr Iff.rfl rfl (ih ..)

/-- The opcode the user fixed by name. -/
def requestedOp (s : GenState) : Option Opcode :=
  if s.optStat .opcode then findOpcode (s.options.opcode.getD "") else none

/-- The opcode was asked for by a name that no row has. -/
def UnknownOp (s : GenState) : Prop := s.optStat .opcode = true ∧ requestedOp s = none

instance (s : GenState) : Decidable (UnknownOp s) := inferInstanceAs (Decidable (_ ∧ _))

@[simp] lemma enterLoop_options (timeStream : ℕ → BitVec 31) (s : GenState) :
    (enterLoop timeStream s).options = s.options :=
  (apply_ite GenState.options _ _ _).trans (ite_self _)

@[simp] lemma enterLoop_shadowOptions (timeStream : ℕ → BitVec 31) (s : GenState) :
    (enterLoop timeStream s).shadowOptions = s.options :=
  (apply_ite GenState.shadowOptions _ _ _).trans (ite_self _)

lemma requestedOp_enterLoop (timeStream : ℕ → BitVec 31) (s : GenState) :
    requestedOp (enterLoop timeStream s) = requestedOp s := by
  rw [requestedOp, optStat, enterLoop_options]
  rfl

/-- A call for an unknown opcode ends before the loop. -/
lemma genRandomInstr_of_unknown (timeStream : ℕ → BitVec 31) {s : GenState} (h : UnknownOp s) :
    genRandomInstr timeStream s = (.unsupported, enterLoop timeStream s) := by
  have hunknown : (enterLoop timeStream s).optStat .opcode = true ∧
      requestedOp (enterLoop timeStream s) = none := by
    rw [requestedOp_enterLoop, optStat, enterLoop_options]
    exact h
  exact if_pos hunknown

/-- The loop's result, printed. -/
lemma genRandomInstr_of_known (timeStream : ℕ → BitVec 31) {s : GenState} (h : ¬ UnknownOp s) :
    genRandomInstr timeStream s =
      (let r := Retry.run (attempt (requestedOp s)) (fun r => r.2.2) (fun r => r.2.1 = .valid)
        (retryMax s) 0 (enterLoop timeStream s)
      (r.2.1, outputInstr r.1 r.2.2.rawInstr r.2.1 r.2.2)) := by
  have hretry : retryMax (enterLoop timeStream s) = retryMax s := by
    rw [retryMax, optStat, enterLoop_options]
    rfl
  have hop := requestedOp_enterLoop timeStream s
  have hknown : ¬ ((enterLoop timeStream s).optStat .opcode = true ∧
      requestedOp (enterLoop timeStream s) = none) := by
    rw [hop, optStat, enterLoop_options]
    exact h
  rw [← hretry, ← hop, ← attempts_eq_run _ _ 0 SISA_OP_MAX .unsupported]
  exact if_neg hknown

/-! ## Draws -/

/-- A step that draws random values and changes options only. -/
structure Draws (s s' : GenState) : Prop where
  rest : s' = { s with options := s'.options, randStream := s'.randStream }

namespace Draws

variable {s s' s'' : GenState}

lemma refl (s : GenState) : Draws s s := ⟨rfl⟩

lemma trans (h : Draws s s') (h' : Draws s' s'') : Draws s s'' where
  rest := by rw [h'.rest, h.rest]

lemma foldl {α : Type} {f : GenState → α → GenState} (h : ∀ a s, Draws s (f s a)) (l : List α)
    (s : GenState) : Draws s (l.foldl f s) := by
  induction l generalizing s with
  | nil => exact .refl s
  | cons a l ih => exact (h a s).trans (ih (f s a))

end Draws

/-- A drawing function that only advances the stream. -/
def DrawsOnly {α : Type} (draw : GenState → α × GenState) : Prop :=
  ∀ s, (draw s).2 = { s with randStream := (draw s).2.randStream }

lemma randMod_drawsOnly (n : Word) : DrawsOnly (randMod n) := fun _ => rfl

lemma genRandReg_drawsOnly : DrawsOnly genRandReg := by
  intro s
  unfold genRandReg
  dsimp only
  split <;> rfl

lemma genRandCond_drawsOnly : DrawsOnly genRandCond := by
  intro s
  unfold genRandCond
  dsimp only
  split <;> rfl

lemma genPartImm_drawsOnly (bits : ℕ) : DrawsOnly (genPartImm bits) := by
  intro s
  unfold genPartImm
  dsimp only
  split <;> rfl

lemma genRandImm_drawsOnly : DrawsOnly genRandImm := by
  intro s
  unfold genRandImm
  dsimp only
  split
  case h_3 =>
    rw [genPartImm_drawsOnly 20, genPartImm_drawsOnly 4, genPartImm_drawsOnly 8]
    rfl
  all_goals rfl

lemma drawIf_draws {α : Type} {c : Prop} [Decidable c] {draw : GenState → α × GenState}
    (hdraw : DrawsOnly draw) (upd : GenOption → α → GenOption) (s : GenState) :
    Draws s (drawIf c draw upd s) := by
  unfold drawIf
  split
  · change Draws s { (draw s).2 with options := upd (draw s).2.options (draw s).1 }
    rw [hdraw s]
    exact ⟨rfl⟩
  · exact .refl s

lemma genRandRegs_draws (idx : ℕ) (s : GenState) : Draws s (genRandRegs s idx) := by
  unfold genRandRegs
  refine .trans ?_ (drawIf_draws (randMod_drawsOnly 2) _ _)
  refine .trans ?_ (drawIf_draws (randMod_drawsOnly 2) _ _)
  refine .trans ?_ (drawIf_draws genRandReg_drawsOnly _ _)
  exact drawIf_draws genRandReg_drawsOnly _ _

lemma genRandOptVal_draws (s : GenState) : Draws s (genRandOptVal s) := by
  unfold genRandOptVal
  refine .trans ?_ (drawIf_draws genRandImm_drawsOnly _ _)
  refine .trans ?_ (drawIf_draws genRandImm_drawsOnly _ _)
  refine .trans ?_ (drawIf_draws (fun _ => rfl) _ _)
  refine .trans ?_ (drawIf_draws (randMod_drawsOnly 4) _ _)
  refine .trans ?_ (drawIf_draws genRandReg_drawsOnly _ _)
  refine .trans ?_ (drawIf_draws (randMod_drawsOnly 2) _ _)
  refine .trans ?_ (Draws.foldl genRandRegs_draws _ _)
  refine .trans ?_ (drawIf_draws genRandCond_drawsOnly _ _)
  refine .trans ?_ (drawIf_draws (randMod_drawsOnly 2) _ _)
  exact drawIf_draws (randMod_drawsOnly 4) _ _

lemma relaxRestrict_draws (n : ℕ) (s : GenState) : Draws s (relaxRestrict n s) := by
  have hgear {c : Prop} [Decidable c] {f : GenState → GenState} (hf : ∀ s, Draws s (f s))
      (s : GenState) : Draws s (if c then f s else s) := by
    split
    · exact hf s
    · exact .refl s
  unfold relaxRestrict
  split
  · exact .refl s
  · exact (hgear (fun _ => ⟨rfl⟩) _).trans <| (hgear (fun _ => ⟨rfl⟩) _).trans <|
      (hgear (fun _ => ⟨rfl⟩) _).trans <| hgear (fun _ => ⟨rfl⟩) _

lemma prepare_draws (fixedOp : Option Opcode) (n : ℕ) (s : GenState) :
    Draws s (prepare fixedOp n s).2 := by
  have hstart : Draws s { s with options := s.shadowOptions } := ⟨rfl⟩
  have hdraw := hstart.trans ((relaxRestrict_draws n _).trans (genRandOptVal_draws _))
  cases fixedOp with
  | some op => exact hdraw
  | none =>
    refine hdraw.trans ?_
    change Draws _ (genRandomOp _).2
    unfold genRandomOp
    dsimp only
    split
    · exact .refl _
    · exact ⟨rfl⟩

/-! ## What a round keeps -/

/-- The part of the state that every round finds as the first one did. -/
structure Carries (s s' : GenState) : Prop where
  shadowOptions : s'.shadowOptions = s.shadowOptions
  opkindList : s'.opkindList = s.opkindList
  counters : s'.foreign = { s.foreign with
    uninit := s'.uninit, curFixedBit := s'.curFixedBit }

namespace Carries

variable {s s' s'' : GenState}

lemma refl (s : GenState) : Carries s s := ⟨rfl, rfl, rfl⟩

lemma trans (h : Carries s s') (h' : Carries s' s'') : Carries s s'' where
  shadowOptions := h'.shadowOptions.trans h.shadowOptions
  opkindList := h'.opkindList.trans h.opkindList
  counters := by rw [h'.counters, h.counters]

end Carries

lemma Draws.carries {s s' : GenState} (h : Draws s s') : Carries s s' := by
  rw [h.rest]
  exact ⟨rfl, rfl, rfl⟩

lemma initRawInstrBin_carries (op : Opcode) (s : GenState) : Carries s (initRawInstrBin op s) := by
  unfold initRawInstrBin
  dsimp only
  split
  · exact ⟨rfl, rfl, rfl⟩
  · exact ⟨rfl, rfl, rfl⟩

/-- The foreign values after `gen_instr`. -/
lemma genInstr_foreign (op : Opcode) (s : GenState) :
    (genInstr op s).2.foreign = { s.foreign with
      uninit := (genInstr op s).2.uninit, curFixedBit := (genInstr op s).2.curFixedBit } := by
  obtain ⟨u, c, h⟩ := genInstr_withForeign op s.foreign s
  rw [withForeign_foreign] at h
  rw [h]
  rfl

lemma takeOrig_carries (s : GenState) : Carries s (takeOrig s).2 := by
  unfold takeOrig
  split
  · exact ⟨rfl, rfl, rfl⟩
  · exact ⟨rfl, rfl, rfl⟩

lemma genInstr_carries {op : Opcode} (hop : op < SISA_OP_MAX) (s : GenState) :
    Carries s (genInstr op s).2 := by
  suffices h : (genInstr op s).2.shadowOptions = s.shadowOptions ∧
      (genInstr op s).2.opkindList = s.opkindList from ⟨h.1, h.2, genInstr_foreign op s⟩
  unfold genInstr
  dsimp only
  split
  · exact ⟨rfl, rfl⟩
  · have hstages := operandStages_sets hop (beginInstr s)
    have horig := takeOrig_carries (operandStages op (beginInstr s))
    have hval := validate_writes op
      (fixUnpredictableBit op (takeOrig (operandStages op (beginInstr s))).2)
    refine ⟨hval.shadowOptions.trans (horig.shadowOptions.trans hstages.shadowOptions),
      hval.opkindList.trans (horig.opkindList.trans ?_)⟩
    rw [hstages.rest]
    rfl

/-! ## The opcode of a round -/

lemma opRange_le (isa : InstrSet) :
    (opRange isa).1 ≤ (opRange isa).2 ∧ (opRange isa).2 ≤ SISA_OP_MAX := by
  cases isa <;> decide

lemma mem_candidateOps_lt {isa : InstrSet} {kinds : ℕ → Bool} {op : Opcode}
    (h : op ∈ candidateOps isa kinds) : op < SISA_OP_MAX := by
  obtain ⟨hmem, -⟩ := List.mem_filter.mp h
  obtain ⟨hlo, hhi⟩ := List.mem_range'_1.mp hmem
  obtain ⟨hord, hle⟩ := opRange_le isa
  rw [Nat.add_sub_cancel' hord] at hhi
  exact Nat.lt_of_lt_of_le hhi hle

/-- The opcode drawn is one of the candidates. -/
lemma genRandomOp_mem (s : GenState) : (genRandomOp s).1 = SISA_OP_NA ∨
    (genRandomOp s).1 ∈ candidateOps s.options.isa s.opkindList := by
  unfold genRandomOp
  dsimp only
  split
  · exact .inl rfl
  · rename_i hlen
    have hidx : s.nextRand.toNat % (candidateOps s.options.isa s.opkindList).length <
        (candidateOps s.options.isa s.opkindList).length := Nat.mod_lt _ (Nat.pos_of_ne_zero hlen)
    rw [List.getD_eq_getElem?_getD, List.getElem?_eq_getElem hidx]
    exact .inr (List.getElem_mem hidx)

lemma genRandomOp_lt (s : GenState) : (genRandomOp s).1 < SISA_OP_MAX := by
  rcases genRandomOp_mem s with h | h
  · rw [h]
    decide
  · exact mem_candidateOps_lt h

lemma findOpcode_lt {name : String} {op : Opcode} (h : findOpcode name = some op) :
    op < SISA_OP_MAX := by
  have hmem := List.mem_of_find?_eq_some h
  obtain ⟨hlo, hhi⟩ := List.mem_range'_1.mp hmem
  rwa [Nat.add_sub_cancel' (by decide)] at hhi

lemma requestedOp_lt {s : GenState} {op : Opcode} (h : requestedOp s = some op) :
    op < SISA_OP_MAX := by
  unfold requestedOp at h
  split at h
  · exact findOpcode_lt h
  · cases h

lemma prepare_op_lt {fixedOp : Option Opcode} (hfixed : ∀ op ∈ fixedOp, op < SISA_OP_MAX)
    (n : ℕ) (s : GenState) : (prepare fixedOp n s).1 < SISA_OP_MAX := by
  cases fixedOp with
  | some op => exact hfixed op rfl
  | none => exact genRandomOp_lt _

/-- A round keeps the user's options, the enabled kinds and the counters. -/
lemma attempt_carries {fixedOp : Option Opcode} (hfixed : ∀ op ∈ fixedOp, op < SISA_OP_MAX)
    (n : ℕ) (s : GenState) : Carries s (attempt fixedOp n s).2.2 :=
  (prepare_draws fixedOp n s).carries.trans <|
    (initRawInstrBin_carries _ _).trans (genInstr_carries (prepare_op_lt hfixed n s) _)

/-- Every round finds them as the first one did. -/
theorem roundState_carries {fixedOp : Option Opcode} (hfixed : ∀ op ∈ fixedOp, op < SISA_OP_MAX)
    (s : GenState) (n : ℕ) : Carries s (roundState fixedOp s n) :=
  Retry.stateAt_invariant (attempt fixedOp) (fun r => r.2.2)
    (fun m t h => h.trans (attempt_carries hfixed m t)) 0 (.refl s) n

end Rit
