import Rit.Art.ParseRIT
import Rit.Properties.Lines
import Rit.Src.RandomInstrGen

/-!
# The text protocol

The library prints a result as lines with a tag, and `parseRIT` reads them.  What the lines hold is
put together from numbers and literals, so three facts carry the round trip: a line has no break in
it, it is shorter than what `strncat` copies, and its first blank ends the opcode.
-/

namespace Rit

open PyStr Art

/-! ## The texts of the library -/

lemma token_hex (v : Word) : Token (hex v).toList := by
  rw [hex, String.toList_ofList]
  exact token_toDigits (by omega) (by omega) _

lemma token_hexPad (n : ℕ) (v : Word) : Token (hexPad n v).toList := by
  have hdigits := token_toDigits (b := 16) (by omega) (by omega) v.toNat
  unfold hexPad
  rw [String.toList_ofList]
  refine ⟨List.append_ne_nil_of_right_ne_nil _ hdigits.ne_nil, fun c hc => ?_⟩
  rcases List.mem_append.1 hc with hc | hc
  · rw [(List.mem_replicate.1 hc).2]
    rfl
  · exact hdigits.plain c hc

lemma toList_reg (v : Word) : (reg v).toList = 'r' :: Nat.toDigits 10 v.toNat := by
  simp [reg, String.toList_append]

lemma token_reg (v : Word) : Token (reg v).toList := by
  have hr : Token ['r'] := .of_all (by decide) rfl
  rw [toList_reg]
  exact hr.append (token_toDigits (b := 10) (by omega) (by omega) _)

lemma length_hex_le (v : Word) : (hex v).toList.length ≤ 8 := by
  rw [hex, String.toList_ofList, Nat.length_toDigits_le_iff (by omega) (by omega)]
  exact v.isLt

lemma length_hexPad_le (n : ℕ) (v : Word) : (hexPad n v).toList.length ≤ n + 8 := by
  have h : (Nat.toDigits 16 v.toNat).length ≤ 8 := by
    rw [Nat.length_toDigits_le_iff (by omega) (by omega)]
    exact v.isLt
  unfold hexPad
  rw [String.toList_ofList, List.length_append, List.length_replicate]
  omega

lemma length_reg_le (v : Word) : (reg v).toList.length ≤ 11 := by
  have h : (Nat.toDigits 10 v.toNat).length ≤ 10 := by
    rw [Nat.length_toDigits_le_iff (by omega) (by omega)]
    have := v.isLt
    omega
  rw [toList_reg, List.length_cons]
  omega

/-- What `parseRIT` needs to know of the text of an instruction. -/
structure Shape (s opcode rest : Str) : Prop where
  eq : s = opcode ++ ' ' :: rest
  token : Token opcode
  oneLine : OneLine rest
  ends : EndsPlain rest
  length : s.length ≤ 80

/-- A short text that may stand before the last token. -/
def Start (s : Str) : Prop := OneLine s ∧ s.length ≤ 40

/-- A short token. -/
def Last (s : Str) : Prop := Token s ∧ s.length ≤ 16

lemma oneLine_of_all {s : Str} (h : s.all (fun c => !isBreak c) = true) : OneLine s := by
  simpa [OneLine] using h

lemma start_reg (v : Word) (sep : Str) (h : sep.all (fun c => !isBreak c) = true)
    (hlen : sep.length ≤ 5) : Start ((reg v).toList ++ sep) := by
  refine ⟨(token_reg v).oneLine.append (oneLine_of_all h), ?_⟩
  have hv := length_reg_le v
  rw [List.length_append]
  omega

lemma start_regs (v w : Word) (sep : Str) (h : sep.all (fun c => !isBreak c) = true)
    (hlen : sep.length ≤ 5) : Start ((reg v).toList ++ ", ".toList ++ ((reg w).toList ++ sep)) := by
  refine ⟨((token_reg v).oneLine.append (oneLine_of_all rfl)).append
    ((token_reg w).oneLine.append (oneLine_of_all h)), ?_⟩
  have hv := length_reg_le v
  have hw := length_reg_le w
  have hcomma : ", ".toList.length = 2 := rfl
  simp only [List.length_append]
  omega

lemma last_reg (v : Word) : Last (reg v).toList :=
  ⟨token_reg v, Nat.le_trans (length_reg_le v) (by omega)⟩

lemma last_hex (v : Word) : Last (hex v).toList :=
  ⟨token_hex v, Nat.le_trans (length_hex_le v) (by omega)⟩

lemma last_hexPad {n : ℕ} (hn : n ≤ 8) (v : Word) : Last (hexPad n v).toList :=
  ⟨token_hexPad n v, Nat.le_trans (length_hexPad_le n v) (by omega)⟩

lemma Shape.of_parts {s start last : Str} (opcode : Str) (hstart : Start start) (hlast : Last last)
    (token : Token opcode) (hlen : opcode.length ≤ 8) (eq : s = opcode ++ ' ' :: (start ++ last)) :
    ∃ opcode rest, Shape s opcode rest := by
  refine ⟨opcode, start ++ last, eq, token, hstart.1.append hlast.1.oneLine,
    hlast.1.endsPlain.append start, ?_⟩
  have h1 := hstart.2
  have h2 := hlast.2
  rw [eq, List.length_append, List.length_cons, List.length_append]
  omega

lemma Asm.shape (a : Asm) : ∃ opcode rest, Shape a.text.toList opcode rest := by
  have hmem : Last "mem_data".toList := ⟨.of_all (by decide) rfl, by decide⟩
  have hthree : Last "3".toList := ⟨.of_all (by decide) rfl, by decide⟩
  have hzero : Start "0x".toList := ⟨oneLine_of_all rfl, by decide⟩
  cases a with
  | ldr rd val =>
    exact Shape.of_parts "ldr".toList (start_reg rd ", =0x".toList rfl (by decide)) (last_hex val)
      (.of_all (by decide) rfl) (by decide) (by simp [Asm.text, String.toList_append])
  | ldrW rd val =>
    exact Shape.of_parts "ldr.w".toList (start_reg rd ", =0x".toList rfl (by decide)) (last_hex val)
      (.of_all (by decide) rfl) (by decide) (by simp [Asm.text, String.toList_append])
  | ldrMemData rd =>
    exact Shape.of_parts "ldr".toList (start_reg rd ", =".toList rfl (by decide)) hmem
      (.of_all (by decide) rfl) (by decide) (by simp [Asm.text, String.toList_append])
  | mov rd rm =>
    exact Shape.of_parts "mov".toList (start_reg rd ", ".toList rfl (by decide)) (last_reg rm)
      (.of_all (by decide) rfl) (by decide) (by simp [Asm.text, String.toList_append])
  | bic rd rm =>
    exact Shape.of_parts "bic".toList (start_reg rd ", ".toList rfl (by decide)) (last_reg rm)
      (.of_all (by decide) rfl) (by decide) (by simp [Asm.text, String.toList_append])
  | bics rd rm =>
    exact Shape.of_parts "bics".toList (start_reg rd ", ".toList rfl (by decide)) (last_reg rm)
      (.of_all (by decide) rfl) (by decide) (by simp [Asm.text, String.toList_append])
  | orr rd rm =>
    exact Shape.of_parts "orr".toList (start_reg rd ", ".toList rfl (by decide)) (last_reg rm)
      (.of_all (by decide) rfl) (by decide) (by simp [Asm.text, String.toList_append])
  | orrs rd rm =>
    exact Shape.of_parts "orrs".toList (start_reg rd ", ".toList rfl (by decide)) (last_reg rm)
      (.of_all (by decide) rfl) (by decide) (by simp [Asm.text, String.toList_append])
  | add rd rn rm =>
    exact Shape.of_parts "add".toList (start_regs rd rn ", ".toList rfl (by decide)) (last_reg rm)
      (.of_all (by decide) rfl) (by decide) (by simp [Asm.text, String.toList_append])
  | bicImm rd rn imm =>
    exact Shape.of_parts "bic".toList (start_regs rd rn ", #0x".toList rfl (by decide))
      (last_hex imm)
      (.of_all (by decide) rfl) (by decide) (by simp [Asm.text, String.toList_append])
  | orrImm rd rn imm =>
    exact Shape.of_parts "orr".toList (start_regs rd rn ", #0x".toList rfl (by decide))
      (last_hex imm)
      (.of_all (by decide) rfl) (by decide) (by simp [Asm.text, String.toList_append])
  | bicThree rd rn =>
    exact Shape.of_parts "bic".toList (start_regs rd rn ", #".toList rfl (by decide)) hthree
      (.of_all (by decide) rfl) (by decide) (by simp [Asm.text, String.toList_append])
  | inst word =>
    exact Shape.of_parts ".inst".toList hzero (last_hexPad (n := 8) (by omega) word)
      (.of_all (by decide) rfl) (by decide) (by simp [Asm.text, String.toList_append])
  | instN half =>
    exact Shape.of_parts ".inst.n".toList hzero (last_hexPad (n := 4) (by omega) half)
      (.of_all (by decide) rfl) (by decide) (by simp [Asm.text, String.toList_append])
  | instW word =>
    exact Shape.of_parts ".inst.w".toList hzero (last_hexPad (n := 8) (by omega) word)
      (.of_all (by decide) rfl) (by decide) (by simp [Asm.text, String.toList_append])

/-- What an instruction adds to the list that `parseRIT` returns. -/
def Asm.item (a : Asm) : ParsedInst := cutBlank a.text.toList

/-- What a line adds to the list that `parseRIT` returns. -/
def Line.items (allowFix : Bool) : Line → List ParsedInst
  | .code asm => if allowFix then [asm.item] else []
  | .inst asm => [asm.item]
  | .instInfo _ => []

/-! ## One line -/

section Line

variable {allowFix isARM invalid : Bool}

/-- A line with a tag and an instruction. -/
lemma append_asm {tag : Str} {c : Char} (htag : Token (c :: tag)) (a : Asm) (p : Art.Parsed) :
    p.append (c :: tag ++ ' ' :: a.text.toList) = some { p with inst := p.inst ++ [a.item] } := by
  obtain ⟨opcode, rest, h⟩ := a.shape
  have hends : EndsPlain (c :: tag ++ ' ' :: (opcode ++ ' ' :: rest)) := by
    have hsplit : c :: tag ++ ' ' :: (opcode ++ ' ' :: rest) =
        (c :: tag ++ ' ' :: (opcode ++ [' '])) ++ rest := by simp
    rw [hsplit]
    exact h.ends.append _
  have hstrip : strip (c :: tag ++ ' ' :: (opcode ++ ' ' :: rest)) =
      c :: tag ++ ' ' :: (opcode ++ ' ' :: rest) :=
    strip_eq_self (htag.plain c List.mem_cons_self) hends
  have hsplit : (c :: tag ++ ' ' :: (opcode ++ ' ' :: rest)).splitOn ' ' =
      (c :: tag) :: opcode :: rest.splitOn ' ' := by
    rw [splitOn_blank htag.not_mem_blank, splitOn_blank h.token.not_mem_blank]
  rw [Art.Parsed.append, Asm.item, h.eq, cutBlank_append h.token.not_mem_blank]
  simp only [hstrip, hsplit, List.getElem?_cons_succ, List.getElem?_cons_zero, Option.map_some,
    List.drop_succ_cons, List.drop_zero, List.intercalate_splitOn]

lemma Line.text_oneLine {l : Line} (h : l.Printed) : OneLine l.text.toList := by
  have hasm (a : Asm) : OneLine a.text.toList := by
    obtain ⟨opcode, rest, h⟩ := a.shape
    rw [h.eq]
    exact h.token.oneLine.append (OneLine.append (s := [' ']) (oneLine_of_all rfl) h.oneLine)
  cases l with
  | code a =>
    rw [Line.text, String.toList_append]
    exact (oneLine_of_all rfl).append (hasm a)
  | inst a =>
    rw [Line.text, String.toList_append]
    exact (oneLine_of_all rfl).append (hasm a)
  | instInfo text =>
    have hall : ∀ t ∈ infoTexts, ("[INSTINFO] " ++ t).toList.all (fun c => !isBreak c) = true := by
      decide +kernel
    exact oneLine_of_all (hall text h)

/-- `strncat` copies the whole line. -/
lemma Line.take_text {l : Line} (h : l.Printed) : l.text.toList.take 100 = l.text.toList := by
  refine List.take_of_length_le ?_
  have hasm (a : Asm) : a.text.toList.length ≤ 80 := by
    obtain ⟨opcode, rest, h⟩ := a.shape
    exact h.length
  cases l with
  | code a =>
    have ha := hasm a
    have htag : "[CODE] ".toList.length = 7 := rfl
    rw [Line.text, String.toList_append, List.length_append]
    omega
  | inst a =>
    have ha := hasm a
    have htag : "[INST] ".toList.length = 7 := rfl
    rw [Line.text, String.toList_append, List.length_append]
    omega
  | instInfo text =>
    have hall : ∀ t ∈ infoTexts, ("[INSTINFO] " ++ t).toList.length ≤ 100 := by decide +kernel
    exact hall text h

lemma parseLine_text {l : Line} (h : l.Printed) (p : Art.Parsed) :
    parseLine allowFix isARM invalid p l.text.toList =
      some { p with inst := p.inst ++ l.items allowFix } := by
  cases l with
  | code a =>
    have htag : Token ('[' :: "CODE]".toList) := .of_all (by decide) rfl
    have happ := append_asm htag a p
    have htext : (Line.code a).text.toList = '[' :: "CODE]".toList ++ ' ' :: a.text.toList := by
      simp [Line.text, String.toList_append]
    rw [htext, parseLine, happ]
    cases allowFix
    · simp [startsWith, Line.items]
    · simp [startsWith, Line.items]
  | inst a =>
    have htag : Token ('[' :: "INST]".toList) := .of_all (by decide) rfl
    have happ := append_asm htag a p
    have htext : (Line.inst a).text.toList = '[' :: "INST]".toList ++ ' ' :: a.text.toList := by
      simp [Line.text, String.toList_append]
    rw [htext, parseLine, happ]
    simp [startsWith, Line.items]
  | instInfo text =>
    rw [parseLine, Line.text, String.toList_append]
    simp [startsWith, Line.items]

end Line

/-! ## The whole text -/

section Text

variable {allowFix isARM invalid : Bool}

lemma parseLines {ls : List Line} (h : ∀ l ∈ ls, l.Printed) (p : Art.Parsed) :
    (ls.map fun l => l.text.toList).foldlM (parseLine allowFix isARM invalid) p =
      some { p with inst := p.inst ++ ls.flatMap (Line.items allowFix) } := by
  induction ls generalizing p with
  | nil => simp
  | cons l ls ih =>
    rw [List.map_cons, List.foldlM_cons, parseLine_text (h l List.mem_cons_self)]
    exact (ih (fun l' hl' => h l' (List.mem_cons_of_mem l hl')) _).trans (by simp)

lemma token_status (status : InstrStatus) : Token status.text.toList := by
  cases status <;> exact .of_all (by decide) rfl

/-- No name in the table has a blank. -/
lemma token_name (op : Opcode) : Token ((glbInstrTlb op).name.getD "(null)").toList := by
  have hrows : glbInstrTlbRows.all (fun row => bytes (row.name.getD "(null)") ≠ [] &&
      (bytes (row.name.getD "(null)")).all fun b => 32 < b.toNat) = true := by decide +kernel
  have h := forall_row hrows (by decide +kernel) op
  simp only [Bool.and_eq_true, decide_eq_true_eq, List.all_eq_true] at h
  exact token_of_bytes h.1 h.2

/-- The first line of a text. -/
def infoLine (op : Opcode) (instr : Word) (status : InstrStatus) : Str :=
  ("[INFO] " ++ status.text ++ " " ++ (glbInstrTlb op).name.getD "(null)" ++ " " ++
    hexPad 8 instr).toList

/-- The status that `parseRIT` returns. -/
def StatusTrue (isARM invalid : Bool) (status : InstrStatus) : Prop :=
  status = .valid ∨ status = .unsupported ∧ invalid = true ∧ isARM = true

instance (isARM invalid : Bool) (status : InstrStatus) :
    Decidable (StatusTrue isARM invalid status) :=
  inferInstanceAs (Decidable (_ ∨ _))

/-- The item that `parseRIT` makes of the first line. -/
def infoItems (instr : Word) (status : InstrStatus) : List ParsedInst :=
  if status = .unsupported then [([], (hexPad 8 instr).toList)] else []

lemma infoLine_eq (op : Opcode) (instr : Word) (status : InstrStatus) :
    infoLine op instr status = "[INFO]".toList ++ ' ' :: (status.text.toList ++ ' ' ::
      (((glbInstrTlb op).name.getD "(null)").toList ++ ' ' :: (hexPad 8 instr).toList)) := by
  simp [infoLine, String.toList_append]

/-- The words of the first line. -/
lemma splitOn_infoLine (op : Opcode) (instr : Word) (status : InstrStatus) :
    (infoLine op instr status).splitOn ' ' = ["[INFO]".toList, status.text.toList,
      ((glbInstrTlb op).name.getD "(null)").toList, (hexPad 8 instr).toList] := by
  rw [infoLine_eq, splitOn_blank (by decide), splitOn_blank (token_status status).not_mem_blank,
    splitOn_blank (token_name op).not_mem_blank,
    List.splitOn_eq_singleton (token_hexPad 8 instr).not_mem_blank]

lemma strip_infoLine (op : Opcode) (instr : Word) (status : InstrStatus) :
    strip (infoLine op instr status) = infoLine op instr status := by
  have hends : EndsPlain (infoLine op instr status) := by
    rw [infoLine, String.toList_append]
    exact (token_hexPad 8 instr).endsPlain.append _
  rw [infoLine_eq] at hends ⊢
  exact strip_eq_self (by decide) hends

lemma oneLine_infoLine (op : Opcode) (instr : Word) (status : InstrStatus) :
    OneLine (infoLine op instr status) := by
  have hblank : OneLine [' '] := oneLine_of_all rfl
  rw [infoLine_eq]
  exact (oneLine_of_all rfl).append <| hblank.append <| (token_status status).oneLine.append <|
    hblank.append <| (token_name op).oneLine.append <| hblank.append (token_hexPad 8 instr).oneLine

lemma parseLine_infoLine (op : Opcode) (instr : Word) (status : InstrStatus) :
    parseLine allowFix isARM invalid ⟨false, []⟩ (infoLine op instr status) =
      some (if StatusTrue isARM invalid status then ⟨true, infoItems instr status⟩
        else ⟨false, []⟩) := by
  have hstart : startsWith (infoLine op instr status) "[INFO]".toList = true := by
    rw [infoLine_eq]
    simp [startsWith]
  have hvalid : status.text.toList = "VALID".toList ↔ status = .valid := by
    cases status <;> decide
  have hunsupported : status.text.toList = "UNSUPPORTED".toList ↔ status = .unsupported := by
    cases status <;> decide
  rw [parseLine, if_pos hstart, strip_infoLine, splitOn_infoLine]
  simp only [List.getElem?_cons_succ, List.getElem?_cons_zero, Option.map_some, hvalid,
    hunsupported, StatusTrue, infoItems]
  by_cases h1 : status = .valid
  · simp [h1]
  · by_cases h2 : status = .unsupported ∧ invalid = true ∧ isARM = true
    · simp [h2, List.intercalate]
    · simp [h1, h2]

end Text

/-! ## What the library prints -/

section Printed

open Src

variable {op : Opcode}

lemma Src.fixMemBaseLines_printed (o : Rit.GenOption) (n : Word) (forceAlign : Bool) :
    ∀ l ∈ Src.fixMemBaseLines o n forceAlign, l.Printed := by
  unfold Src.fixMemBaseLines
  dsimp only
  split_ifs <;> simp [Line.Printed]

lemma Adds.printed_of_nil {k : ℕ} {s s' : GenState} (h : Adds k s s') (hs : s.instrBuf = []) :
    ∀ l ∈ s'.instrBuf, l.Printed := by
  intro l hl
  refine (h.printed l hl).resolve_left ?_
  rw [hs]
  exact List.not_mem_nil

lemma Src.genArmInstr_printed (s : GenState) (h : s.instrBuf = []) :
    ∀ l ∈ (Src.genArmInstr op s).2.instrBuf, l.Printed := by
  intro l hl
  have hex {ls : List Line} (hls : ∀ l ∈ ls, l.Printed) (hl : l ∈ (s.insertInstrs ls).instrBuf) :
      l.Printed := by
    rw [GenState.insertInstrs, h] at hl
    exact hls l hl
  unfold Src.genArmInstr at hl
  split at hl
  · exact (genUncategorizedInstr_adds op s).printed_of_nil h l hl
  · split at hl
    · exact hex (Src.fixMemBaseLines_printed _ _ _) hl
    · exact hex (Src.fixMemBaseLines_printed _ _ _) hl
    · have hadds := Rit.genArmInstr_adds (k := 8) (by omega) (genLdReg_adds_eight op s)
        (genStReg_adds_eight op s)
      exact hadds.printed_of_nil h l hl

lemma Src.lift_printed {gen : GenState → InstrStatus × GenState}
    (hgen : ∀ s, s.instrBuf = [] → ∀ l ∈ (gen s).2.instrBuf, l.Printed) {w : Work}
    (hw : w.instrBuf = []) (asm : Asm) :
    ∀ l ∈ (w.lift gen).2.instrBuf ++ [.inst asm], l.Printed := by
  intro l hl
  rcases List.mem_append.1 hl with hl | hl
  · exact hgen w.toGen hw l hl
  · rw [List.mem_singleton.1 hl]
    trivial

/-- Whatever buffer it starts from, `gen_instr` leaves lines that `parseRIT` can read. -/
lemma Src.genInstr_printed (op : Opcode) (w : Work) :
    ∀ l ∈ (Src.genInstr op w).2.instrBuf, l.Printed := by
  unfold Src.genInstr
  dsimp only
  split_ifs
  · exact fun _ hl => absurd hl List.not_mem_nil
  · exact Src.lift_printed (fun s hs => Src.genArmInstr_printed s hs) rfl _
  · exact Src.lift_printed (fun s hs => (genThumbInstr_adds op s).printed_of_nil hs) rfl _
  · exact Src.lift_printed (fun s hs => (genThumb32Instr_adds op s).printed_of_nil hs) rfl _
  · exact fun _ hl => absurd hl List.not_mem_nil

/-- The rounds that are left, once one round has filled the buffer. -/
lemma Src.attempts_printed (isInstrInit : Bool) (retry : ℕ) (status : InstrStatus) {w : Work}
    (hw : ∀ l ∈ w.instrBuf, l.Printed) :
    ∀ l ∈ (attempts op isInstrInit retry status w).2.instrBuf, l.Printed := by
  induction retry generalizing status w with
  | zero => exact hw
  | succ retry ih =>
    rw [attempts]
    split
    · exact ih _ (Src.genInstr_printed op _)
    · exact hw

lemma Src.firstAttempt_printed (isInstrInit : Bool) (w : Work) :
    ∀ l ∈ (attempts op isInstrInit 8 .unsupported w).2.instrBuf, l.Printed := by
  rw [attempts, if_pos rfl]
  exact Src.attempts_printed isInstrInit 7 _ (Src.genInstr_printed op _)

/-- `output_instr` fills `print_buff`. -/
lemma Src.outputInstr_printBuff {status : InstrStatus} {w : Work} {text : List String}
    (hw : ∀ l ∈ w.instrBuf, l.Printed) (h : outputInstr op status w = some text) :
    text.flatMap (fun l => l.toList ++ ['\n']) = printBuff op w.rawInstr status [] w.instrBuf := by
  rw [outputInstr] at h
  split at h
  · obtain rfl := Option.some.inj h
    rw [List.flatMap_cons, List.flatMap_map, printBuff, List.nil_append, List.append_assoc,
      List.singleton_append]
    congr 2
    exact List.flatMap_congr fun l hl => by rw [Line.take_text (hw l hl)]
  · cases h

/-- The text of `gen_instr_with_op` is the text of lines that `parseRIT` can read. -/
theorem Src.genInstrWithOp_printed {w w' : Work} {text : List String}
    (h : genInstrWithOp op w = some (text, w')) :
    (∀ l ∈ w'.instrBuf, l.Printed) ∧ ∃ status, text.flatMap (fun l => l.toList ++ ['\n']) =
      printBuff op w'.rawInstr status [] w'.instrBuf := by
  have hprinted := @Src.firstAttempt_printed op (w.rawInstr ≠ 0) w
  rw [genInstrWithOp] at h
  generalize attempts op (w.rawInstr ≠ 0) 8 .unsupported w = r at h hprinted
  obtain ⟨lines, hout, hpair⟩ := Option.map_eq_some_iff.1 h
  obtain ⟨rfl, rfl⟩ := Prod.mk.inj hpair
  exact ⟨hprinted, r.1, Src.outputInstr_printBuff hprinted hout⟩

end Printed

/-- The loop of `parseRIT` on what `output_instr` wrote. -/
lemma foldlM_printBuff (op : Opcode) (instr : Word) (status : InstrStatus)
    {initInstrBuf instrBuf : List Line} (h : ∀ l ∈ initInstrBuf ++ instrBuf, l.Printed)
    (allowFix isARM invalid : Bool) :
    (splitlines (Src.printBuff op instr status initInstrBuf instrBuf)).foldlM
      (parseLine allowFix isARM invalid) ⟨false, []⟩ =
      some ⟨decide (StatusTrue isARM invalid status),
        (if StatusTrue isARM invalid status then infoItems instr status else []) ++
          (initInstrBuf ++ instrBuf).flatMap (Line.items allowFix)⟩ := by
  have htext : Src.printBuff op instr status initInstrBuf instrBuf =
      infoLine op instr status ++ '\n' ::
        ((initInstrBuf ++ instrBuf).map fun l => l.text.toList).flatMap fun l => l ++ ['\n'] := by
    rw [Src.printBuff, ← infoLine, List.flatMap_map]
    congr 2
    exact List.flatMap_congr fun l hl => by rw [Line.take_text (h l hl)]
  have hlines : ∀ l ∈ (initInstrBuf ++ instrBuf).map fun l => l.text.toList, OneLine l := by
    intro l hl
    obtain ⟨l, hmem, rfl⟩ := List.mem_map.1 hl
    exact Line.text_oneLine (h l hmem)
  rw [htext, splitlines_line (oneLine_infoLine op instr status), splitlines_flatMap hlines,
    List.foldlM_cons, parseLine_infoLine, Option.bind_eq_bind, Option.bind_some, parseLines h]
  by_cases hacc : StatusTrue isARM invalid status
  · simp [hacc]
  · simp [hacc]

/-- `parseRIT` reads back what `output_instr` wrote, whatever lines the two buffers hold. -/
theorem parseRIT_printBuff (op : Opcode) (instr : Word) (status : InstrStatus)
    {initInstrBuf instrBuf : List Line} (h : ∀ l ∈ initInstrBuf ++ instrBuf, l.Printed)
    (allowFix isARM invalid : Bool) :
    parseRIT (Src.printBuff op instr status initInstrBuf instrBuf) allowFix isARM invalid =
      some (if StatusTrue isARM invalid status then
        (true, some (infoItems instr status ++
          (initInstrBuf ++ instrBuf).flatMap (Line.items allowFix)))
      else (false, none)) := by
  rw [parseRIT, foldlM_printBuff op instr status h]
  by_cases hacc : StatusTrue isARM invalid status
  · simp [hacc]
  · simp [hacc]

/-- An unsupported instruction with one line of each kind. -/
theorem parseRIT_printBuff_unsupported :
    (∀ l ∈ [Line.code (.ldr 0 16)] ++ [.instInfo "type=BXWritePC", .inst (.inst 0xe12fff1e)],
      l.Printed) ∧
    parseRIT (Src.printBuff Op.BX 0xe12fff1e .unsupported [.code (.ldr 0 16)]
      [.instInfo "type=BXWritePC", .inst (.inst 0xe12fff1e)]) true true true =
      some (true, some [([], "e12fff1e".toList), ("ldr".toList, "r0, =0x10".toList),
        (".inst".toList, "0xe12fff1e".toList)]) := by
  have hprinted : ∀ l ∈ [Line.code (.ldr 0 16)] ++
      [.instInfo "type=BXWritePC", .inst (.inst 0xe12fff1e)], l.Printed := by
    simp [Line.Printed, infoTexts]
  refine ⟨hprinted, ?_⟩
  rw [parseRIT_printBuff Op.BX 0xe12fff1e .unsupported hprinted]
  decide +kernel

end Rit
