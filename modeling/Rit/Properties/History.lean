import Rit.Src.InstrGenerator

/-!
# Calls do not depend on the calls before them

The first library keeps all its state in globals that no call resets as a whole.  What survives a
call is described by `Settled`: the options that no entry point assigns have their default values,
and nothing writes behind `opkind_list`.  An entry point then assigns the rest, up to two things:
the lines of the last instruction, which `gen_instr` clears before it appends to them, and, in
`py_gen_instr_with_op`, the instruction set.
-/

namespace Rit.Src

/-! ## What generation leaves alone -/

/-- The options with the values that calls assign blanked out. -/
def GenOption.core (o : GenOption) : GenOption :=
  { o with
    condVal := 0
    srcRegs := .default
    dstRegs := .default
    isSbitInit := false
    sbitVal := 0
    isa := .armv5 }

lemma genInstr_core (op : Opcode) (w : Work) : (genInstr op w).2.options.core = w.options.core := by
  unfold genInstr
  dsimp only
  split_ifs <;> rfl

lemma attempt_core (op : Opcode) (isInstrInit : Bool) (w : Work) :
    (attempt op isInstrInit w).2.options.core = w.options.core := by
  unfold attempt
  rw [genInstr_core]
  cases isInstrInit <;> rfl

lemma attempts_core (op : Opcode) (isInstrInit : Bool) (retry : ℕ) (status : InstrStatus)
    (w : Work) : (attempts op isInstrInit retry status w).2.options.core = w.options.core := by
  induction retry generalizing status w with
  | zero => rfl
  | succ retry ih =>
    unfold attempts
    split_ifs
    · exact (ih _ _).trans (attempt_core op isInstrInit w)
    · rfl

lemma genInstrWithOp_core {op : Opcode} {w w' : Work} {text : List String}
    (h : genInstrWithOp op w = some (text, w')) : w'.options.core = w.options.core := by
  obtain ⟨_, -, heq⟩ := Option.map_eq_some_iff.1 h
  obtain ⟨-, rfl⟩ := Prod.mk.inj heq
  exact attempts_core op _ 8 .unsupported w

/-! ## Histories -/

/-- What holds of the globals once a call has initialised them: the options no call assigns have
the values of `set_default_option`, and the memory behind `opkind_list` is as it was. -/
structure Settled (behind : ℕ → Bool) (s : State) : Prop where
  initOption : s.initOption = true
  core : s.work.options.core = (defaultOption (State.fresh (fun _ => 0) behind).work.options).core
  kinds : ∀ i, opkindNames.length ≤ i → s.opkindList i = behind i

section Histories

variable {seeded : Int → ℕ → BitVec 31} {rand : ℕ → BitVec 31} {behind : ℕ → Bool}
  {s s' t : State}

lemma Settled.initialise (hs : Settled behind s) : s.initialise = s := if_pos hs.initOption

lemma updateOpkindStr_behind (str : String) (opkindList : ℕ → Bool) {i : ℕ}
    (hi : opkindNames.length ≤ i) : updateOpkindStr str opkindList i = opkindList i :=
  if_neg (by omega)

lemma settled_fresh : Settled behind (State.fresh rand behind).initialise where
  initOption := rfl
  core := rfl
  kinds := fun i hi => (updateOpkindStr_behind _ _ hi).trans (if_neg (by omega))

/-- Generating from globals whose assigned options may have changed. -/
lemma Settled.generate {op : Opcode} {w : Work} (hs : Settled behind s)
    (hw : w.options.core = s.work.options.core) (h : s.generate op w = some t) :
    Settled behind t := by
  obtain ⟨⟨text, w'⟩, hgen, rfl⟩ := Option.map_eq_some_iff.1 h
  exact ⟨hs.initOption, ((genInstrWithOp_core hgen).trans hw).trans hs.core, hs.kinds⟩

lemma getRandomOp_core (opkindList : ℕ → Bool) (w : Work) :
    (getRandomOp opkindList w).2.options.core = w.options.core := by
  unfold getRandomOp
  dsimp only
  split_ifs <;> rfl

lemma Settled.pyGenInstr {isa : Int} {opkind : String} {a : Args} (hs : Settled behind s)
    (h : pyGenInstr seeded isa opkind a s = some t) : Settled behind t := by
  unfold Src.pyGenInstr at h
  rw [hs.initialise] at h
  have hkinds : Settled behind { s with opkindList := updateOpkindStr opkind s.opkindList } :=
    ⟨hs.initOption, hs.core, fun i hi => (updateOpkindStr_behind _ _ hi).trans (hs.kinds i hi)⟩
  dsimp only at h
  generalize hr : getRandomOp _ _ = r at h
  have hw : r.2.options.core = s.work.options.core := by rw [← hr, getRandomOp_core]; rfl
  exact hkinds.generate hw h

lemma Settled.pyGenInstrWithOp {op : String} {a : Args} (hs : Settled behind s)
    (h : pyGenInstrWithOp seeded op a s = some t) : Settled behind t := by
  unfold Src.pyGenInstrWithOp at h
  rw [hs.initialise] at h
  dsimp only at h
  split at h
  case h_1 =>
    obtain rfl := Option.some.inj h
    exact ⟨hs.initOption, hs.core, hs.kinds⟩
  case h_2 idx _ =>
    refine hs.generate ?_ h
    split_ifs <;> rfl

lemma initialise_run (c : Call) (s : State) : c.run seeded s.initialise = c.run seeded s := by
  have hidem : s.initialise.initialise = s.initialise := by
    by_cases h : s.initOption = true <;> simp [State.initialise, h]
  cases c <;> simp only [Call.run, Src.pyGenInstr, Src.pyGenInstrWithOp, hidem]

/-- A call leaves the globals settled. -/
lemma Settled.run {c : Call} (hs : Settled behind s.initialise) (h : c.run seeded s = some t) :
    Settled behind t := by
  rw [← initialise_run] at h
  cases c with
  | genInstr isa opkind a => exact hs.pyGenInstr h
  | genInstrWithOp op a => exact hs.pyGenInstrWithOp h

/-- Whatever the calls before, the next one finds settled globals, with the instruction set that was
left there. -/
lemma settled_of_runCalls {calls : List Call}
    (h : runCalls seeded calls (State.fresh rand behind) = some s) :
    Settled behind s.initialise ∧ s.initialise.work.options.isa = s.work.options.isa := by
  have hfresh : (State.fresh rand behind).initialise.work.options.isa =
      (State.fresh rand behind).work.options.isa := rfl
  have hstart : Settled behind (State.fresh rand behind).initialise := settled_fresh
  generalize State.fresh rand behind = t at h hfresh hstart
  induction calls generalizing t with
  | nil => exact Option.some.inj h ▸ ⟨hstart, hfresh⟩
  | cons c calls ih =>
    obtain ⟨u, hu, h⟩ := Option.bind_eq_some_iff.1 h
    have hsettled := hstart.run hu
    have heq := hsettled.initialise
    exact ih u h (by rw [heq]) (heq.symm ▸ hsettled)

end Histories

/-! ## What a call reads -/

/-- The globals with the two ARM instruction sets taken as one. -/
def Work.oneArm (w : Work) : Work :=
  { w with options := { w.options with isa := if w.options.isa = .thumb then .thumb else .armv7 } }

lemma lift_oneArm (gen : GenState → InstrStatus × GenState) (w : Work) :
    w.oneArm.lift gen = ((w.lift gen).1, (w.lift gen).2.oneArm) := by
  have htoGen : w.oneArm.toGen = w.toGen := by
    unfold Work.oneArm Work.toGen GenOption.toGen
    cases w.options.isa <;> rfl
  unfold Work.lift
  rw [htoGen]
  rfl

/-- Generation does not tell the two ARM instruction sets apart. -/
lemma genInstr_oneArm (op : Opcode) (w : Work) :
    genInstr op w.oneArm = ((genInstr op w).1, (genInstr op w).2.oneArm) := by
  have hpre (v : Work) : preprocessInstr op v.oneArm.options v.oneArm.toDraft =
    preprocessInstr op v.options v.toDraft := rfl
  unfold genInstr
  rw [hpre]
  dsimp only
  split_ifs
  · rfl
  · generalize preprocessInstr op w.options w.toDraft = d
    have h := lift_oneArm (genArmInstr op) { w with toDraft := d, instrBuf := [] }
    rw [show ({ w.oneArm with toDraft := d, instrBuf := [] } : Work) =
      ({ w with toDraft := d, instrBuf := [] } : Work).oneArm from rfl, h]
    rfl
  · rfl
  · rfl
  · rfl

lemma attempt_oneArm (op : Opcode) (isInstrInit : Bool) (w : Work) :
    attempt op isInstrInit w.oneArm =
      ((attempt op isInstrInit w).1, (attempt op isInstrInit w).2.oneArm) := by
  have hinit (v : Work) (x : Word) : initWord op v.oneArm.options x = initWord op v.options x := by
    unfold initWord Work.oneArm
    cases v.options.isa <;> rfl
  cases isInstrInit with
  | true =>
    change genInstr op { w.oneArm with rawInstr := initWord op w.oneArm.options w.rawInstr } = _
    rw [hinit]
    exact genInstr_oneArm op { w with rawInstr := initWord op w.options w.rawInstr }
  | false =>
    change genInstr op { w.oneArm with toDraft :=
      { w.toDraft.afterRand with rawInstr := initWord op w.oneArm.options w.nextRand } } = _
    rw [hinit]
    exact genInstr_oneArm op { w with toDraft :=
      { w.toDraft.afterRand with rawInstr := initWord op w.options w.nextRand } }

lemma attempts_oneArm (op : Opcode) (isInstrInit : Bool) (retry : ℕ) (status : InstrStatus)
    (w : Work) : attempts op isInstrInit retry status w.oneArm =
      ((attempts op isInstrInit retry status w).1,
        (attempts op isInstrInit retry status w).2.oneArm) := by
  induction retry generalizing status w with
  | zero => rfl
  | succ retry ih =>
    unfold attempts
    split_ifs
    · rw [attempt_oneArm]
      exact ih _ _
    · rfl

/-- The text does not tell the two ARM instruction sets apart. -/
lemma genInstrWithOp_oneArm (op : Opcode) (w : Work) :
    (genInstrWithOp op w.oneArm).map Prod.fst = (genInstrWithOp op w).map Prod.fst := by
  have h := attempts_oneArm op (w.rawInstr ≠ 0) 8 .unsupported w
  unfold genInstrWithOp
  rw [Option.map_map, Option.map_map]
  change (outputInstr op (attempts op (w.rawInstr ≠ 0) 8 .unsupported w.oneArm).1
    (attempts op (w.rawInstr ≠ 0) 8 .unsupported w.oneArm).2).map id = _
  rw [h]
  rfl

/-- Generation clears the lines of the last instruction. -/
lemma genInstrWithOp_instrBuf (op : Opcode) (w : Work) (lines : List Line) :
    genInstrWithOp op { w with instrBuf := lines } = genInstrWithOp op w := by
  have hattempt (isInstrInit : Bool) :
      attempt op isInstrInit { w with instrBuf := lines } = attempt op isInstrInit w := by
    cases isInstrInit <;> rfl
  unfold genInstrWithOp attempts
  rw [if_pos rfl, if_pos rfl, hattempt]

/-! ## Independence -/

section Independence

variable {seeded : Int → ℕ → BitVec 31} {rand rand' : ℕ → BitVec 31} {behind : ℕ → Bool}
  {s s' : State}

@[simp] lemma generate_text (s : State) (op : Opcode) (w : Work) :
    (s.generate op w).map State.printBuff = (genInstrWithOp op w).map Prod.fst := by
  rw [State.generate, Option.map_map]
  rfl

/-- With the instruction set given, both entry points generate from globals in which only the lines
of the last instruction are old. -/
lemma assign_eq {w w' : Work} (a : Args) (isa : InstrSet) (h : w.options.core = w'.options.core) :
    a.assign seeded { w with options := { w.options with isa := isa } } =
      { a.assign seeded { w' with options := { w'.options with isa := isa } } with
        instrBuf := w.instrBuf } := by
  unfold Args.assign
  simp only [GenOption.core, GenOption.mk.injEq] at h
  simp only [Work.mk.injEq, GenOption.mk.injEq]
  tauto

lemma getRandomOp_instrBuf (opkindList : ℕ → Bool) (w : Work) (lines : List Line) :
    getRandomOp opkindList { w with instrBuf := lines } =
      ((getRandomOp opkindList w).1, { (getRandomOp opkindList w).2 with instrBuf := lines }) := by
  unfold getRandomOp
  dsimp only
  split_ifs <;> rfl

/-- The kinds a string enables, over settled kinds. -/
lemma Settled.updateOpkindStr (hs : Settled behind s) (hs' : Settled behind s') (str : String) :
    Src.updateOpkindStr str s.opkindList = Src.updateOpkindStr str s'.opkindList := by
  funext i
  unfold Src.updateOpkindStr
  split_ifs with hi
  · rfl
  · rw [hs.kinds i (by omega), hs'.kinds i (by omega)]

/-- Whatever calls came before, `py_gen_instr` returns the same text for the same arguments. -/
theorem pyGenInstr_independent {calls calls' : List Call}
    (hs : runCalls seeded calls (State.fresh rand behind) = some s)
    (hs' : runCalls seeded calls' (State.fresh rand' behind) = some s')
    (isa : Int) (opkind : String) (a : Args) :
    (pyGenInstr seeded isa opkind a s).map State.printBuff =
      (pyGenInstr seeded isa opkind a s').map State.printBuff := by
  obtain ⟨hset, -⟩ := settled_of_runCalls hs
  obtain ⟨hset', -⟩ := settled_of_runCalls hs'
  have hcore := hset.core.trans hset'.core.symm
  unfold pyGenInstr
  dsimp only
  rw [generate_text, generate_text, hset.updateOpkindStr hset', assign_eq a _ hcore,
    getRandomOp_instrBuf, genInstrWithOp_instrBuf]

/-- A process that has generated a Thumb instruction answers like a new one. -/
theorem pyGenInstr_independent_thumb :
    let zeros : Int → ℕ → BitVec 31 := fun _ _ => 0
    let fresh := State.fresh (fun _ => 0) fun _ => false
    let a : Args := ⟨0, 14, 1, 16, 16, 0⟩
    ∃ s, runCalls zeros [.genInstrWithOp "ADD_imm_T1" a] fresh = some s ∧
      (pyGenInstr zeros 0 "ALU_OP" a s).map State.printBuff =
        (pyGenInstr zeros 0 "ALU_OP" a fresh).map State.printBuff := by
  intro zeros fresh a
  obtain ⟨s, hs⟩ : ∃ s, runCalls zeros [.genInstrWithOp "ADD_imm_T1" a] fresh = some s :=
    Option.isSome_iff_exists.1 (by decide +kernel)
  have hfresh : runCalls zeros [] fresh = some fresh := rfl
  exact ⟨s, hs, pyGenInstr_independent hs hfresh 0 "ALU_OP" a⟩

lemma assign_oneArm (a : Args) (w : Work) :
    (a.assign seeded w).oneArm = a.assign seeded { w with options := { w.options with
      isa := if w.options.isa = .thumb then .thumb else .armv7 } } := rfl

/-- Whatever calls came before, `py_gen_instr_with_op` returns the same text for the same arguments
if the name is that of an opcode and, unless that is a Thumb opcode, both or neither of the
histories have left the Thumb instruction set selected. -/
theorem pyGenInstrWithOp_independent {calls calls' : List Call}
    (hs : runCalls seeded calls (State.fresh rand behind) = some s)
    (hs' : runCalls seeded calls' (State.fresh rand' behind) = some s')
    {op : String} {idx : Opcode} (hop : findOpcode op = some idx)
    (hisa : SISA_OP_ARM_MAX < idx ∨
      (s.work.options.isa = .thumb ↔ s'.work.options.isa = .thumb)) (a : Args) :
    (pyGenInstrWithOp seeded op a s).map State.printBuff =
      (pyGenInstrWithOp seeded op a s').map State.printBuff := by
  obtain ⟨hset, hleft⟩ := settled_of_runCalls hs
  obtain ⟨hset', hleft'⟩ := settled_of_runCalls hs'
  have hcore := hset.core.trans hset'.core.symm
  unfold pyGenInstrWithOp
  simp only [hop, generate_text]
  split_ifs with hidx
  · have hthumb (w : Work) : { a.assign seeded w with
        options := { (a.assign seeded w).options with isa := .thumb } } =
      a.assign seeded { w with options := { w.options with isa := .thumb } } := rfl
    rw [hthumb, hthumb, assign_eq a _ hcore, genInstrWithOp_instrBuf]
  · have hsame := hisa.resolve_left hidx
    rw [← hleft, ← hleft'] at hsame
    rw [← genInstrWithOp_oneArm idx (a.assign seeded s.initialise.work),
      ← genInstrWithOp_oneArm idx (a.assign seeded s'.initialise.work), assign_oneArm,
      assign_oneArm, if_congr hsame rfl rfl, assign_eq a _ hcore, genInstrWithOp_instrBuf]

/-- A process that has generated a Thumb instruction answers like a new one to the name of a Thumb
opcode. -/
theorem pyGenInstrWithOp_independent_thumb :
    let zeros : Int → ℕ → BitVec 31 := fun _ _ => 0
    let fresh := State.fresh (fun _ => 0) fun _ => false
    let a : Args := ⟨0, 14, 1, 16, 16, 0⟩
    ∃ s, runCalls zeros [.genInstrWithOp "ADD_imm_T1" a] fresh = some s ∧
      (pyGenInstrWithOp zeros "ADD_imm_T3" a s).map State.printBuff =
        (pyGenInstrWithOp zeros "ADD_imm_T3" a fresh).map State.printBuff := by
  intro zeros fresh a
  obtain ⟨s, hs⟩ : ∃ s, runCalls zeros [.genInstrWithOp "ADD_imm_T1" a] fresh = some s :=
    Option.isSome_iff_exists.1 (by decide +kernel)
  have hop : findOpcode "ADD_imm_T3" = some Op.ADD_imm_T3 := by decide +kernel
  have hfresh : runCalls zeros [] fresh = some fresh := rfl
  exact ⟨s, hs, pyGenInstrWithOp_independent hs hfresh hop (.inl (by decide)) a⟩

/-- An unknown name returns the text of the call before, and the S bit asked for an ARM opcode is
lost after a Thumb instruction. -/
theorem pyGenInstrWithOp_stale :
    let zeros : Int → ℕ → BitVec 31 := fun _ _ => 0
    let fresh := State.fresh (fun _ => 0) fun _ => false
    let a : Args := ⟨0, 14, 1, 16, 16, 0⟩
    let text := fun calls => (runCalls zeros calls fresh).map State.printBuff
    (text [.genInstrWithOp "NOSUCH" a] = some [] ∧
      text [.genInstrWithOp "ADD_imm" a, .genInstrWithOp "NOSUCH" a] =
        some ["[INFO] VALID ADD_imm e2900000", "[INST] .inst 0xe2900000"]) ∧
    text [.genInstrWithOp "ADD_imm" a] =
      some ["[INFO] VALID ADD_imm e2900000", "[INST] .inst 0xe2900000"] ∧
    text [.genInstrWithOp "ADD_imm_T1" a, .genInstrWithOp "ADD_imm" a] =
      some ["[INFO] VALID ADD_imm e2800000", "[INST] .inst 0xe2800000"] := by
  decide +kernel

end Independence

end Rit.Src
