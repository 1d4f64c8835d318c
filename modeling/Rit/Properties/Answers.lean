import Rit.Properties.ItText
import Rit.Properties.Vfp

/-!
# The answers to requests in Thumb code

A request is answered by the library or by `vfp.gen_instr`.  The library prints lines of fix-up code
and then the instruction as a raw word, narrow or wide; none of the lines has a condition.
`vfp.gen_instr` prints instructions without a condition too, except in the lines that replace a NaN
and in the conversion to an integer, which it puts under an `it` of its own.

Either way the texts are `Printed`, so a Thumb block made of them has well-formed IT blocks
(`keeps_printed`).
-/

namespace Rit.Art.Generate

open Draw PyStr Query

/-! ## The library -/

/-- The entry of a line of the library. -/
def asmEntry : Asm → Entry
  | .ldr rd val => .inst "ldr".toList none [] (reg rd ++ ", =0x" ++ Rit.hex val).toList
  | .ldrW rd val => .inst "ldr".toList none ".w".toList (reg rd ++ ", =0x" ++ Rit.hex val).toList
  | .ldrMemData rd => .inst "ldr".toList none [] (reg rd ++ ", =mem_data").toList
  | .mov rd rm => .inst "mov".toList none [] (reg rd ++ ", " ++ reg rm).toList
  | .add rd rn rm => .inst "add".toList none [] (reg rd ++ ", " ++ reg rn ++ ", " ++ reg rm).toList
  | .bicImm rd rn imm =>
    .inst "bic".toList none [] (reg rd ++ ", " ++ reg rn ++ ", #0x" ++ Rit.hex imm).toList
  | .bicThree rd rn => .inst "bic".toList none [] (reg rd ++ ", " ++ reg rn ++ ", #3").toList
  | .bic rd rm => .inst "bic".toList none [] (reg rd ++ ", " ++ reg rm).toList
  | .bics rd rm => .inst "bics".toList none [] (reg rd ++ ", " ++ reg rm).toList
  | .orrImm rd rn imm =>
    .inst "orr".toList none [] (reg rd ++ ", " ++ reg rn ++ ", #0x" ++ Rit.hex imm).toList
  | .orr rd rm => .inst "orr".toList none [] (reg rd ++ ", " ++ reg rm).toList
  | .orrs rd rm => .inst "orrs".toList none [] (reg rd ++ ", " ++ reg rm).toList
  | .inst word => .word .inst ("0x" ++ hexPad 8 word).toList
  | .instN half => .word .instN ("0x" ++ hexPad 4 half).toList
  | .instW word => .word .instW ("0x" ++ hexPad 8 word).toList

lemma text_asmEntry (a : Asm) : (asmEntry a).text = a.item := by
  have hn : instN = ".inst.n".toList := by
    delta instN
    rfl
  have hw : instW = ".inst.w".toList := by
    delta instW
    rfl
  cases a <;>
    simp [asmEntry, Entry.text, Raw.str, hn, hw, Asm.item, Asm.text, cutBlank,
      String.toList_append]

lemma ok_asmEntry (a : Asm) : (asmEntry a).Ok := by
  cases a with
  | inst | instN | instW => trivial
  | _ => exact ⟨by decide, by simp⟩

lemma plain_asmEntry (a : Asm) : (asmEntry a).look.plain = true := by
  cases a <;> rfl

/-- The instructions of a line that are kept. -/
def asms (allowFix : Bool) : Rit.Line → List Asm
  | .code asm => if allowFix then [asm] else []
  | .inst asm => [asm]
  | .instInfo _ => []

lemma items_eq (allowFix : Bool) (l : Rit.Line) :
    l.items allowFix = ((asms allowFix l).map asmEntry).map Entry.text := by
  rw [List.map_map]
  cases l with
  | code asm => cases allowFix <;> simp [Rit.Line.items, asms, text_asmEntry]
  | inst asm => simp [Rit.Line.items, asms, text_asmEntry]
  | instInfo text => rfl

/-- Lines that end with a Thumb instruction. -/
lemma lines_printed (allowFix : Bool) (ls : List Rit.Line) {asm : Asm}
    (hasm : ∀ rest, asmEntry asm ≠ .word .inst rest) :
    Printed ((ls ++ [Rit.Line.inst asm]).flatMap (Rit.Line.items allowFix)) := by
  have hitems : (ls ++ [Rit.Line.inst asm]).flatMap (Rit.Line.items allowFix) =
      (((ls.flatMap (asms allowFix)) ++ [asm]).map asmEntry).map Entry.text := by
    rw [show Rit.Line.items allowFix = fun l => ((asms allowFix l).map asmEntry).map Entry.text from
      funext (items_eq allowFix)]
    simp [List.map_flatMap, asms]
  rw [hitems]
  refine .of_plain ?_ ?_ ?_
  · intro e he
    obtain ⟨a, -, rfl⟩ := List.mem_map.1 he
    exact ok_asmEntry a
  · intro e he
    obtain ⟨a, -, rfl⟩ := List.mem_map.1 he
    exact plain_asmEntry a
  · intro rest h
    rw [List.map_append, List.map_singleton, List.getLast?_concat] at h
    exact hasm rest (Option.some.inj h)

/-- A valid Thumb instruction is the last line. -/
def EndsInThumb (r : InstrStatus × Src.Work) : Prop :=
  r.1 = .valid → ∃ ls asm, r.2.instrBuf = ls ++ [.inst asm] ∧
    ∀ rest, asmEntry asm ≠ .word .inst rest

/-- The row that stands for no opcode. -/
lemma lift_na (w : Src.Work) : (w.lift (Src.genArmInstr SISA_OP_NA)).1 = .unsupported := by
  have hcat : SISA_OP_NA ∉ armUncategoriedOp := by decide
  have hkind : (glbInstrTlb SISA_OP_NA).opKind = .noOp := by decide
  change (Src.genArmInstr SISA_OP_NA w.toGen).1 = .unsupported
  rw [Src.genArmInstr, if_neg hcat, hkind, Rit.genArmInstr, if_neg hcat, hkind]

lemma genInstr_endsInThumb {op : Opcode} (hop : op = SISA_OP_NA ∨ SISA_OP_ARM_MAX ≤ op)
    (w : Src.Work) : EndsInThumb (Src.genInstr op w) := by
  unfold Src.genInstr EndsInThumb
  dsimp only
  split_ifs with hpseudo harm
  · exact fun h => by cases h
  · rcases hop with rfl | hop
    · intro h
      dsimp only at h
      rw [lift_na] at h
      cases h
    · exact absurd harm (Nat.not_lt.2 hop)
  · exact fun _ => ⟨_, _, rfl, fun rest h => by cases h⟩
  · exact fun _ => ⟨_, _, rfl, fun rest h => by cases h⟩
  · exact fun h => by cases h

lemma attempts_endsInThumb {op : Opcode} (hop : op = SISA_OP_NA ∨ SISA_OP_ARM_MAX ≤ op)
    (isInstrInit : Bool) (retry : ℕ) {status : InstrStatus} {w : Src.Work}
    (h : EndsInThumb (status, w)) : EndsInThumb (Src.attempts op isInstrInit retry status w) := by
  induction retry generalizing status w with
  | zero => exact h
  | succ retry ih =>
    rw [Src.attempts]
    split
    · exact ih (genInstr_endsInThumb hop _)
    · exact h

/-- In Thumb code the opcode is a Thumb one, if there is one of the kind. -/
lemma getRandomOp_thumb (opkindList : ℕ → Bool) {w : Src.Work} (h : w.options.isa = .thumb) :
    (Src.getRandomOp opkindList w).1 = SISA_OP_NA ∨
      SISA_OP_ARM_MAX ≤ (Src.getRandomOp opkindList w).1 := by
  unfold Src.getRandomOp
  rw [h]
  dsimp only
  split
  · exact .inl rfl
  · rename_i hlen
    right
    set tmpOp := (List.range' (Src.opRange .thumb).1
      ((Src.opRange .thumb).2 - (Src.opRange .thumb).1)).filter fun idx =>
        opkindList (glbInstrTlb idx).opKind.ctorIdx with htmp
    have hlt : w.nextRand.toNat % tmpOp.length < tmpOp.length :=
      Nat.mod_lt _ (Nat.pos_of_ne_zero hlen)
    have hmem : tmpOp.getD (w.nextRand.toNat % tmpOp.length) SISA_OP_NA ∈ tmpOp := by
      rw [List.getD_eq_getElem?_getD, List.getElem?_eq_getElem hlt]
      exact List.getElem_mem hlt
    exact (List.mem_range'_1.1 (List.mem_of_mem_filter hmem)).1

/-- What `parseRIT` reads after a call. -/
lemma parseRIT_generate {op : Opcode} {w : Src.Work} {s s' : Src.State}
    (h : s.generate op w = some s') {r : InstrStatus × Src.Work}
    (hr : Src.attempts op (w.rawInstr ≠ 0) 8 .unsupported w = r) (allowFix isARM invalid : Bool) :
    parseRIT (libOutput s') allowFix isARM invalid = some (if StatusTrue isARM invalid r.1 then
      (true, some (infoItems r.2.rawInstr r.1 ++ r.2.instrBuf.flatMap (Rit.Line.items allowFix)))
      else (false, none)) := by
  have hprinted : ∀ l ∈ r.2.instrBuf, l.Printed := by
    have h := @Src.firstAttempt_printed op (w.rawInstr ≠ 0) w
    rwa [hr] at h
  obtain ⟨⟨text, w'⟩, hgen, rfl⟩ := Option.map_eq_some_iff.1 h
  unfold Src.genInstrWithOp at hgen
  rw [hr] at hgen
  obtain ⟨lines, hout, hpair⟩ := Option.map_eq_some_iff.1 hgen
  obtain ⟨rfl, rfl⟩ := Prod.mk.inj hpair
  have hlines : ∀ l ∈ [] ++ r.2.instrBuf, l.Printed := hprinted
  change parseRIT (lines.flatMap fun l => l.toList ++ ['\n']) allowFix isARM invalid = _
  rw [Src.outputInstr_printBuff hprinted hout, parseRIT_printBuff op r.2.rawInstr r.1 hlines]
  rfl

/-- `parseRIT` reads the text of the last call without an exception. -/
def Parses (s : Src.State) : Prop :=
  ∀ allowFix isARM invalid, (parseRIT (libOutput s) allowFix isARM invalid).isSome

lemma parses_generate {op : Opcode} {w : Src.Work} {s t : Src.State}
    (h : s.generate op w = some t) : Parses t := by
  intro allowFix isARM invalid
  rw [parseRIT_generate h rfl]
  rfl

/-- A call writes a text, or leaves the one that is there. -/
lemma Parses.run {seeded : Int → ℕ → BitVec 31} {c : Src.Call} {s t : Src.State} (hs : Parses s)
    (h : c.run seeded s = some t) : Parses t := by
  cases c with
  | genInstr => exact parses_generate h
  | genInstrWithOp op a =>
    rw [Src.Call.run, Src.pyGenInstrWithOp] at h
    split at h
    · cases h
      unfold Src.State.initialise
      split <;> exact hs
    · exact parses_generate h

/-- Whatever calls a process has answered, `parseRIT` reads its text without an exception. -/
theorem parseRIT_runCalls (seeded : Int → ℕ → BitVec 31) (calls : List Src.Call)
    (rand : ℕ → BitVec 31) (behind : ℕ → Bool) (allowFix isARM invalid : Bool) :
    (Src.runCalls seeded calls (.fresh rand behind)).all fun s =>
      (parseRIT (libOutput s) allowFix isARM invalid).isSome := by
  have hrun : ∀ (calls : List Src.Call) (s t : Src.State), Parses s →
      Src.runCalls seeded calls s = some t → Parses t := by
    intro calls
    induction calls with
    | nil =>
      intro s t hs h
      rwa [← Option.some.inj h]
    | cons c calls ih =>
      intro s t hs h
      obtain ⟨u, hu, h⟩ := Option.bind_eq_some_iff.1 h
      exact ih u t (hs.run hu) h
  rw [Option.all_eq_true]
  intro s hs
  exact hrun calls _ s (fun _ _ _ => rfl) hs allowFix isARM invalid

/-- A call that generates a valid instruction. -/
lemma generate_valid {op : Opcode} {w : Src.Work} (s : Src.State) {r : InstrStatus × Src.Work}
    (hr : Src.attempts op (w.rawInstr ≠ 0) 8 .unsupported w = r) (hvalid : r.1 = .valid)
    (hlen : r.2.instrBuf.length ≤ 8) (allowFix isARM : Bool) :
    ∃ s', s.generate op w = some s' ∧ parseRIT (libOutput s') allowFix isARM false =
      some (true, some (r.2.instrBuf.flatMap (Rit.Line.items allowFix))) := by
  obtain ⟨s', hs'⟩ : ∃ s', s.generate op w = some s' := by
    unfold Src.State.generate Src.genInstrWithOp
    rw [hr]
    dsimp only
    rw [Src.outputInstr, if_pos hlen]
    exact ⟨_, rfl⟩
  refine ⟨s', hs', ?_⟩
  have hstatus : StatusTrue isARM false r.1 := .inl hvalid
  rw [parseRIT_generate hs' hr, if_pos hstatus, infoItems, hvalid]
  rfl

/-- The kinds from which `py_gen_instr` draws an opcode. -/
def callKinds (opkind : String) (s : Src.State) : ℕ → Bool :=
  Src.updateOpkindStr opkind s.initialise.opkindList

/-- The globals with which it draws. -/
def callWork (seeded : Int → ℕ → BitVec 31) (isa : Int) (a : Src.Args) (s : Src.State) : Src.Work :=
  a.assign seeded { s.initialise.work with options := { s.initialise.work.options with
    isa := if isa ≠ 0 then .thumb else .armv7 } }

/-- A call draws an opcode and generates it. -/
lemma pyGenInstr_eq {seeded : Int → ℕ → BitVec 31} {isa : Int} {opkind : String} {a : Src.Args}
    {s : Src.State} {r : Opcode × Src.Work}
    (h : Src.getRandomOp (callKinds opkind s) (callWork seeded isa a s) = r) :
    Src.pyGenInstr seeded isa opkind a s =
      { s.initialise with opkindList := callKinds opkind s }.generate r.1 r.2 := by
  subst h
  rfl

/-- What the library prints for a Thumb instruction is what `parseRIT` makes `Printed` texts of. -/
lemma pyGenInstr_printed {seeded : Int → ℕ → BitVec 31} {opkind : String} {a : Src.Args}
    {s s' : Src.State} (h : Src.pyGenInstr seeded 1 opkind a s = some s') (allowFix isARM : Bool) :
    ∃ ret, parseRIT (libOutput s') allowFix isARM false = some ret ∧ Printed (ret.2.getD []) := by
  have hisa : (callWork seeded 1 a s).options.isa = .thumb := rfl
  have hop := getRandomOp_thumb (callKinds opkind s) hisa
  obtain ⟨r, hr⟩ : ∃ r, Src.getRandomOp (callKinds opkind s) (callWork seeded 1 a s) = r := ⟨_, rfl⟩
  rw [pyGenInstr_eq hr] at h
  rw [hr] at hop
  have hends := attempts_endsInThumb hop (r.2.rawInstr ≠ 0) 8
    (show EndsInThumb (.unsupported, r.2) from fun h => by cases h)
  obtain ⟨out, hout⟩ : ∃ out, Src.attempts r.1 (r.2.rawInstr ≠ 0) 8 .unsupported r.2 = out :=
    ⟨_, rfl⟩
  rw [hout] at hends
  refine ⟨_, parseRIT_generate h hout allowFix isARM false, ?_⟩
  split
  · rename_i hstatus
    have hvalid : out.1 = .valid := hstatus.resolve_right fun h => absurd h.2.1 (by decide)
    obtain ⟨ls, asm, hbuf, hasm⟩ := hends hvalid
    have hinfo : infoItems out.2.rawInstr out.1 = [] := by rw [infoItems, hvalid]; rfl
    rw [hinfo, hbuf]
    exact lines_printed allowFix ls hasm
  · exact .nil

/-! ## Floating point -/

section Vfp

/-- The condition of an instruction that is printed. -/
def slotCond : Vfp.Slot → Option Arm.Cond
  | .is c => some c
  | _ => none

/-- The entry of an instruction. -/
def vfpEntry (i : Vfp.Inst) : Entry :=
  match i.op, i.args with
  | .it mask, [.cond c] => .it c mask
  | op, args => .inst op.str (slotCond i.cond) (i.types.flatMap fun t => t.str.toList)
      (joinComma (args.map Vfp.Arg.str))

/-- An instruction that is printed: the hole is filled, and an `it` has its condition as the only
operand. -/
structure Filled (i : Vfp.Inst) : Prop where
  cond : i.cond ≠ .hole
  it : ∀ mask, i.op = .it mask → i.cond = .none ∧ i.types = [] ∧ ∃ c, i.args = [.cond c]

@[simp] lemma filled_vfp {op : Vfp.Op} {letter : Vfp.Letter} {c : Vfp.Slot} {types : List Vfp.Ty}
    {args : List Vfp.Arg} : Filled ⟨.vfp op letter, c, types, args⟩ ↔ c ≠ .hole :=
  ⟨fun h => h.cond, fun h => ⟨h, by simp⟩⟩

@[simp] lemma filled_mvn {c : Vfp.Slot} {types : List Vfp.Ty} {args : List Vfp.Arg} :
    Filled ⟨.mvn, c, types, args⟩ ↔ c ≠ .hole :=
  ⟨fun h => h.cond, fun h => ⟨h, by simp⟩⟩

@[simp] lemma filled_it (mask : List Bool) (c : Arm.Cond) :
    Filled ⟨.it mask, .none, [], [.cond c]⟩ :=
  ⟨by simp, fun _ _ => ⟨rfl, rfl, c, rfl⟩⟩

lemma vfpEntry_of_ne_it {i : Vfp.Inst} (h : ∀ mask, i.op ≠ .it mask) : vfpEntry i =
    .inst i.op.str (slotCond i.cond) (i.types.flatMap fun t => t.str.toList)
      (joinComma (i.args.map Vfp.Arg.str)) := by
  unfold vfpEntry
  split
  · rename_i mask c hop _
    exact absurd hop (h mask)
  · rfl

lemma Filled.eq_it {i : Vfp.Inst} (h : Filled i) {mask : List Bool} (hop : i.op = .it mask) :
    ∃ c, i = ⟨.it mask, .none, [], [.cond c]⟩ := by
  obtain ⟨hcond, htypes, c, hargs⟩ := h.it mask hop
  obtain ⟨op, cond, types, args⟩ := i
  exact ⟨c, by rw [show op = _ from hop, show cond = _ from hcond, show types = _ from htypes,
    show args = _ from hargs]⟩

lemma vfpEntry_it (mask : List Bool) (c : Arm.Cond) :
    vfpEntry ⟨.it mask, .none, [], [.cond c]⟩ = .it c mask := rfl

lemma str_it (mask : List Bool) :
    (Vfp.Mnemonic.it mask).str = "it".toList ++ Entry.letters mask := rfl

lemma str_vfp (op : Vfp.Op) (letter : Vfp.Letter) :
    (Vfp.Mnemonic.vfp op letter).str = op.str.toList ++ letter.str.toList := rfl

lemma text_vfpEntry {i : Vfp.Inst} (h : Filled i) : (vfpEntry i).text = i.text := by
  by_cases hit : ∃ mask, i.op = .it mask
  · obtain ⟨mask, hop⟩ := hit
    obtain ⟨c, rfl⟩ := h.eq_it hop
    rw [vfpEntry_it]
    simp [Entry.text, Vfp.Inst.text, str_it, Vfp.Slot.str, joinComma, Vfp.Arg.str]
  · rw [vfpEntry_of_ne_it fun mask hop => hit ⟨mask, hop⟩]
    have hcond := h.cond
    cases hc : i.cond with
    | hole => exact absurd hc hcond
    | none => simp [Entry.text, Vfp.Inst.text, slotCond, hc, Vfp.Slot.str]
    | is c => simp [Entry.text, Vfp.Inst.text, slotCond, hc, Vfp.Slot.str]

/-- The types start with a dot. -/
lemma head?_types (types : List Vfp.Ty) :
    ∀ ch ∈ (types.flatMap fun t => t.str.toList).head?, ch = '.' := by
  cases types with
  | nil => simp
  | cons t types =>
    intro ch hch
    cases t <;> exact (Option.some.inj hch).symm

lemma ok_mnemonic {op : Vfp.Mnemonic} (h : ∀ mask, op ≠ .it mask) :
    op.str ≠ [] ∧ '.' ∉ op.str ∧ ¬"it".toList <+: op.str ∧ op.str ∉ Entry.branchOps := by
  cases op with
  | it mask => exact absurd rfl (h mask)
  | vfp op letter =>
    -- all of these opcodes start with the same letter
    have hop : ∃ s, op.str.toList = 'v' :: s ∧ '.' ∉ s := by
      cases op <;> exact ⟨_, rfl, by decide⟩
    have hletter : '.' ∉ letter.str.toList := by cases letter <;> decide
    obtain ⟨s, hs, hdot⟩ := hop
    simp [str_vfp, hs, hdot, hletter, Entry.branchOps]
  | ftosh f => cases f <;> decide
  | fshto f => cases f <;> decide
  | _ => decide

lemma ok_vfpEntry {i : Vfp.Inst} (h : Filled i) : (vfpEntry i).Ok := by
  by_cases hit : ∃ mask, i.op = .it mask
  · obtain ⟨mask, hop⟩ := hit
    obtain ⟨c, rfl⟩ := h.eq_it hop
    trivial
  · have hne : ∀ mask, i.op ≠ .it mask := fun mask hop => hit ⟨mask, hop⟩
    rw [vfpEntry_of_ne_it hne]
    exact ⟨ok_mnemonic hne, head?_types i.types⟩

lemma vfpEntry_ne_word (i : Vfp.Inst) (rest : Str) : vfpEntry i ≠ .word .inst rest := by
  unfold vfpEntry
  split <;> exact fun h => by cases h

/-- Instructions with well-formed IT blocks. -/
def Blocked (l : List Vfp.Inst) : Prop :=
  (∀ i ∈ l, Filled i) ∧ Arm.WellBlocked (l.map fun i => (vfpEntry i).look)

lemma Blocked.append {l l' : List Vfp.Inst} (h : Blocked l) (h' : Blocked l') :
    Blocked (l ++ l') := by
  refine ⟨?_, ?_⟩
  · intro i hi
    rcases List.mem_append.1 hi with hi | hi
    · exact h.1 i hi
    · exact h'.1 i hi
  · rw [List.map_append]
    exact h.2.append h'.2

lemma Blocked.printed {l : List Vfp.Inst} (h : Blocked l) : Printed (l.map Vfp.Inst.text) := by
  refine ⟨l.map vfpEntry, ?_, ?_, ?_, getLast?_ne_of_forall ?_⟩
  · rw [List.map_map]
    exact List.map_congr_left fun i hi => (text_vfpEntry (h.1 i hi)).symm
  · intro e he
    obtain ⟨i, hi, rfl⟩ := List.mem_map.1 he
    exact ok_vfpEntry (h.1 i hi)
  · rw [List.map_map]
    exact h.2
  · intro e he
    obtain ⟨i, -, rfl⟩ := List.mem_map.1 he
    exact vfpEntry_ne_word i

/-- An instruction without a condition that is no `it`. -/
structure Bare (i : Vfp.Inst) : Prop where
  notIt : ∀ mask, i.op ≠ .it mask
  cond : i.cond = .none

lemma Bare.filled {i : Vfp.Inst} (h : Bare i) : Filled i := by
  refine ⟨?_, fun mask hop => absurd hop (h.notIt mask)⟩
  rw [h.cond]
  decide

lemma Bare.look {i : Vfp.Inst} (h : Bare i) : (vfpEntry i).look = .text none false := by
  rw [vfpEntry_of_ne_it h.notIt, h.cond]
  rfl

lemma Blocked.of_bare {l : List Vfp.Inst} (h : ∀ i ∈ l, Bare i) : Blocked l := by
  refine ⟨fun i hi => (h i hi).filled, .of_plain fun e he => ?_⟩
  obtain ⟨i, hi, rfl⟩ := List.mem_map.1 he
  rw [(h i hi).look]
  rfl

lemma Blocked.singleton {i : Vfp.Inst} (h : Bare i) : Blocked [i] :=
  .of_bare fun _ hj => List.mem_singleton.1 hj ▸ h

lemma bare_core {i : Vfp.Inst} (h : i.IsCore) : Bare i := by
  refine ⟨fun mask hop => ?_, h.2.1⟩
  have hmem := h.1
  rw [hop] at hmem
  simp at hmem

/-- An opcode whose hole is left empty. -/
lemma bare_fill {op : Vfp.Op} {letter : Vfp.Letter} {types : List Vfp.Ty} {args : List Vfp.Arg} :
    Bare (Vfp.Inst.fill ⟨.vfp op letter, .hole, types, args⟩ none) := by
  refine ⟨?_, rfl⟩
  rintro mask ⟨⟩

lemma blocked_fixNaN (f : Arm.Fmt) (n ra rb : ℕ) : Blocked (Vfp.fixNaN false f n ra rb) := by
  have hfilled : ∀ i ∈ Vfp.fixNaN false f n ra rb, Filled i := by
    cases f <;>
      simp only [Vfp.fixNaN, Bool.false_eq_true, if_false, List.cons_append, List.nil_append,
        List.forall_mem_cons, List.not_mem_nil, false_implies, implies_true, and_true, filled_vfp,
        filled_mvn, filled_it, ne_eq, reduceCtorEq, not_false_eq_true]
  cases f with
  | f32 => exact ⟨hfilled, rfl⟩
  | f64 => exact ⟨hfilled, rfl⟩

/-- What the helpers return in Thumb code, with its hole filled. -/
lemma blocked_emits {s : List ℕ} {pre post : List Vfp.Inst} {rinst : Vfp.Inst}
    (h : Vfp.Emits false s ⟨some rinst, pre, post⟩) :
    Blocked (pre ++ [rinst.fill none] ++ post) := by
  cases h with
  | mem hop hm hn hpc hpre =>
    exact ((Blocked.of_bare fun i hi => bare_core (hpre i hi)).append (.singleton bare_fill)).append
      (.of_bare (by simp))
  | multi hop hlist hn hpc hpre =>
    exact ((Blocked.of_bare fun i hi => bare_core (hpre i hi)).append (.singleton bare_fill)).append
      (.of_bare (by simp))
  | stack hop hlist hpre =>
    exact ((Blocked.of_bare fun i hi => bare_core (hpre i hi)).append (.singleton bare_fill)).append
      (.of_bare (by simp))
  | data hdata hpre hpost =>
    refine ((Blocked.of_bare fun i hi => bare_core (hpre i hi)).append (.singleton ?_)).append
      (.of_bare fun i hi => bare_core (hpost i hi))
    refine ⟨?_, ?_⟩
    · unfold Vfp.Inst.fill
      split <;> exact hdata.notIt
    · unfold Vfp.Inst.fill
      split
      · rfl
      · rename_i hne
        exact hdata.cond.resolve_left hne
  | arith harith hn hargs hra hrb =>
    exact (Blocked.singleton bare_fill).append (blocked_fixNaN _ _ _ _)
  | toInteger hty hm hn => exact ⟨by simp [Vfp.testNaN, Vfp.Inst.fill], rfl⟩

lemma bare_reinit {l : List Vfp.Inst} (h : Vfp.Reinit l) : ∀ i ∈ l, Bare i := by
  cases h with
  | none => simp
  | load hn hlist =>
    simp only [List.forall_mem_cons, List.not_mem_nil, false_implies, implies_true, and_true]
    constructor
    all_goals
      refine ⟨?_, rfl⟩
      rintro mask ⟨⟩

/-- In Thumb code `gen_instr` takes no notice of the condition. -/
lemma genInstr_printed (cond srcReg dstReg : ℕ) (allowFix : Bool) :
    Always (Vfp.genInstr false cond srcReg dstReg allowFix) fun ret =>
      Printed ((ret.map fun l => l.map Vfp.Inst.text).getD []) := by
  have halways : Always (Vfp.genInstr false cond srcReg dstReg allowFix) _ :=
    Vfp.genInstr_always false (Nat.zero_le 14) srcReg dstReg allowFix
  refine halways.mono fun ret hret => ?_
  cases hret with
  | none => exact .nil
  | some hreinit hparts =>
    have hblocked := (Blocked.of_bare (bare_reinit hreinit)).append (blocked_emits hparts)
    rw [← List.append_assoc, ← List.append_assoc] at hblocked
    exact hblocked.printed

end Vfp

/-! ## Requests -/

lemma callLib_run {f : Src.State → Option Src.State} {s : Run Src.State} {st : Src.State}
    (h : f s.st = some st) : (callLib f).run s = .ok (libOutput st, { s with st }) := by
  change callLib f s = _
  simp only [callLib, h]

/-- The first call is accepted. -/
lemma tryCalls_run {call : Gen Src.State Str} {s s' : Run Src.State} {output : Str}
    {allowFix isARM invalid : Bool} {inst : Option (List ParsedInst)}
    (hcall : call.run s = .ok (output, s'))
    (hparse : parseRIT output allowFix isARM invalid = some (true, inst)) (retry : ℕ) :
    (tryCalls call allowFix isARM invalid (retry + 1)).run s = .ok (inst, s') := by
  rw [tryCalls, run_bind_of_ok hcall, hparse]
  rfl

/-- The loop over calls of the library. -/
lemma tryCalls_ensures {call : Gen Src.State Str} {allowFix isARM invalid : Bool}
    (h : Ensures call fun output => ∃ ret, parseRIT output allowFix isARM invalid = some ret ∧
      Printed (ret.2.getD [])) (retry : ℕ) :
    Ensures (tryCalls call allowFix isARM invalid retry) fun ret => Printed (ret.getD []) := by
  induction retry with
  | zero => exact .pure .nil
  | succ retry ih =>
    refine h.bind fun output houtput => ?_
    obtain ⟨⟨status, inst⟩, hparse, hprinted⟩ := houtput
    rw [hparse]
    cases status with
    | true => exact .pure hprinted
    | false => exact ih

lemma callLib_ensures {f : Src.State → Option Src.State} {P : Str → Prop}
    (h : ∀ s s', f s = some s' → P (libOutput s')) : Ensures (callLib f) P := by
  intro s output s' hout
  cases hst : f s.st with
  | some st =>
    rw [callLib_run hst] at hout
    cases hout
    exact h _ _ hst
  | none =>
    change callLib f s = _ at hout
    simp only [callLib, hst, reduceCtorEq] at hout

/-- Whatever is left open in a request for a Thumb instruction, the answer is `Printed`. -/
lemma genSingleInstWithOpkind_printed (seeded : Int → ℕ → BitVec 31) (maxretry : ℕ)
    (opkind : Option Opkind) (cond sbit srcReg dstReg : Option ℕ) (allowFix : Bool) :
    Ensures (genSingleInstWithOpkind seeded maxretry false opkind cond sbit srcReg dstReg allowFix)
      fun ret => Printed (ret.getD []) := by
  refine .bind_any fun kind => .bind_any fun a => .ite (fun _ => ?_) fun _ => ?_
  · refine (genInstr_printed a.cond a.srcReg a.dstReg allowFix).ensures.lift.bind fun ret hret => ?_
    exact .pure hret
  · refine tryCalls_ensures (.bind_any fun hexcode => .bind_any fun seed => ?_) maxretry
    exact callLib_ensures fun s s' hs => pyGenInstr_printed hs allowFix true

/-- The answers that requests can get are kept `Printed` in Thumb blocks. -/
lemma keeps_printed (seeded : Int → ℕ → BitVec 31) (maxretry : ℕ) :
    Keeps false (Answered seeded maxretry) Printed where
  nil := .nil
  append := .append
  answer := by
    rintro kind cond sbit srcReg dstReg ret ⟨s, hs⟩
    have h := genSingleInstWithOpkind_printed seeded maxretry kind cond sbit srcReg dstReg true
    cases hrun : (genSingleInstWithOpkind seeded maxretry false kind cond sbit srcReg dstReg
        true).run s with
    | error e =>
      rw [Request.run, hrun] at hs
      cases hs
    | ok r =>
      rw [Request.run, hrun] at hs
      cases hs
      exact h s r.1 r.2 hrun
  block := itBlock_printed

end Rit.Art.Generate
