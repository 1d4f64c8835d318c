import Rit.Art.Build
import Rit.Properties.Protocol
import Rit.Src.InstrGenerator

/-!
# Building the block tree

`makeRandomBlock` ends without an exception, whatever it draws: it restores the nesting level and
the instruction set, it registers the leaves of the tree it has drawn, and the tree is one that
`Shape.drawable` describes.

The one lookup that could fail is that of `genBranch`.  It is made only at level 0 and below, where
`getRBlock` returns basic blocks, and a basic block has registered itself.
-/

namespace Rit.Art.Build

open Draw PyStr
open Arm (Reg)

/-! ## The emitters -/

section Emitters

lemma quiet_coin {σ : Type} : Draw.Quiet (coin : Gen σ Bool) :=
  (Draw.Quiet.choice (by decide)).bind fun _ => .pure _

lemma quiet_randFin {σ : Type} (n : ℕ) : Draw.Quiet (randFin n : Gen σ _) :=
  (Draw.Quiet.randint (Nat.zero_le n)).bind fun _ => .pure _

lemma quiet_percent {σ : Type} (per : ℕ) : Draw.Quiet (percent per : Gen σ _) :=
  (quiet_randFin 100).bind fun _ => .pure _

lemma quiet_drawCond {σ : Type} (isconditional : Bool) :
    Draw.Quiet (drawCond isconditional : Gen σ _) :=
  (Draw.Quiet.drawIf (fun _ => .choice (by decide)) _).bind fun _ => .pure _

lemma quiet_drawCbz {σ : Type} : Draw.Quiet (drawCbz : Gen σ _) := by
  refine (quiet_percent 20).bind fun use => .drawIf (fun _ => ?_) none
  exact (Draw.Quiet.choice (by decide)).bind fun _ => (quiet_randFin 7).bind fun _ => .pure _

lemma quiet_genLoop : Draw.Quiet genLoop := by
  refine (Draw.Quiet.randint (by omega)).bind fun inc =>
    (Draw.Quiet.randint (by omega)).bind fun limit =>
    (Draw.Quiet.randint (by omega)).bind fun r1 => ?_
  refine (Draw.Quiet.remove (List.mem_range.2 (Nat.lt_succ_of_le r1.2.2))).bind fun _ => ?_
  refine (Draw.Quiet.choice (List.ne_nil_of_length_pos (lt_length_erase ?_ _))).bind
    fun _ => .pure _
  decide

lemma quiet_genBX (isARM isconditional : Bool) : Draw.Quiet (Build.genBX isARM isconditional) := by
  refine quiet_coin.bind fun useBx => (quiet_drawCond isconditional).bind fun cond => ?_
  refine .ite (fun _ => .ite (fun _ => ?_) fun _ => ?_) fun _ => .pure _
  · exact (quiet_randFin 14).bind fun _ => .pure _
  · exact (quiet_randFin 15).bind fun _ =>
      (Draw.Quiet.drawIf (fun _ => quiet_randFin 14) 0).bind fun _ => .pure _

lemma quiet_drawCallCond : Draw.Quiet drawCallCond :=
  (Draw.Quiet.choice (by decide)).bind fun _ => (Draw.Quiet.choice (by simp)).bind fun _ => .pure _

lemma quiet_genCall (isCallerARM isCalleeARM : Bool) :
    Draw.Quiet (Build.genCall isCallerARM isCalleeARM) := by
  have hcond {p : Prop} [Decidable p] : Draw.Quiet (Draw.drawIf p drawCallCond none) :=
    .drawIf (fun _ => quiet_drawCallCond) none
  refine quiet_coin.bind fun useBlxReg => .ite (fun _ => ?_) fun _ => ?_
  · exact (quiet_randFin 14).bind fun _ => hcond.bind fun _ => .pure _
  · exact hcond.bind fun _ => .pure _

end Emitters

/-! ## The exclusive sequence -/

section Exclusive

lemma quiet_drawArmCond {σ : Type} (isconditional : Bool) :
    Draw.Quiet (drawArmCond isconditional : Gen σ _) :=
  (Draw.Quiet.drawIf (fun _ => .choice (by decide)) _).bind fun _ => .pure _

lemma quiet_getRandRegVal {σ : Type} (r : Reg) : Draw.Quiet (getRandRegVal r : Gen σ _) :=
  (Draw.Quiet.randint (by omega)).bind fun _ => .pure _

/-- Three registers can be taken from the list of a load, and one is left. -/
lemma length_ldrexRegs (isARM : Bool) (size : OpSize) :
    3 < ((ldrexRegs isARM size).erase 13).length := by
  cases isARM <;> cases size <;> decide

lemma quiet_drawLdrexPair (isARM : Bool) (size : OpSize) {l : List Reg} (h : 0 < l.length) :
    Draw.Quiet (drawLdrexPair isARM size l) := by
  unfold drawLdrexPair
  split
  · exact (Draw.Quiet.choice (List.ne_nil_of_length_pos h)).bind fun _ => .pure _
  · exact .pure _

/-- `genLDREX` finds a register whenever it looks for one. -/
lemma quiet_genLDREX (isARM isconditional : Bool) :
    Draw.Quiet (Build.genLDREX isARM isconditional) := by
  refine (quiet_drawArmCond isconditional).bind fun cond => ?_
  refine (Draw.Quiet.randint (by decide)).bind fun rval => ?_
  refine (Draw.Quiet.choice (by decide)).bind fun size => ?_
  have hregs := length_ldrexRegs isARM size.1
  have hrt : ldrexRegs isARM size.1 ≠ [] := by
    refine List.ne_nil_of_length_pos ?_
    have hle : ((ldrexRegs isARM size.1).erase 13).length ≤ (ldrexRegs isARM size.1).length :=
      List.length_erase_le
    omega
  refine (Draw.Quiet.choice (by decide)).bind fun rn => ?_
  refine (Draw.Quiet.onlyIf fun _ => .remove (by decide)).bind fun _ => ?_
  refine (Draw.Quiet.onlyIf fun _ => .remove (by decide)).bind fun _ => ?_
  refine (Draw.Quiet.choice hrt).bind fun rt => ?_
  refine (Draw.Quiet.choice (List.ne_nil_of_length_pos (by omega))).bind fun rp => ?_
  have hp := lt_length_erase hregs rp.1
  have hpt := lt_length_erase hp rt.1
  refine (Draw.Quiet.remove rp.2).bind fun _ => ?_
  refine (Draw.Quiet.choice (List.ne_nil_of_length_pos (by omega))).bind fun rq => ?_
  refine (Draw.Quiet.drawIf (fun _ => quiet_coin) false).bind fun immOffset => ?_
  refine (Draw.Quiet.drawIf (fun _ => quiet_randFin 255) 0).bind fun imm => ?_
  refine (quiet_drawLdrexPair isARM size.1 (by omega)).bind fun rt2 => ?_
  refine (Draw.Quiet.choice (by decide)).bind fun rx => (Draw.Quiet.remove rx.2).bind fun _ => ?_
  refine (Draw.Quiet.choice (List.ne_nil_of_length_pos (lt_length_erase (by decide) _))).bind
    fun ry => ?_
  refine (quiet_getRandRegVal rt.1).bind fun rtVal => ?_
  exact (Draw.Quiet.drawIf (fun _ => quiet_getRandRegVal _) 0).bind fun rt2Val => .pure _

/-- The lists that a store draws from are long enough. -/
lemma length_strexRegs (isARM : Bool) : 3 < (strexRegs isARM).length := by
  cases isARM <;> decide

lemma length_strexTransferRegs (isARM : Bool) (size : OpSize) :
    3 < (strexTransferRegs isARM size).length := by
  cases isARM <;> cases size <;> decide

lemma strexRtRegs_ne_nil (isARM : Bool) (size : OpSize) : strexRtRegs isARM size ≠ [] := by
  cases isARM <;> cases size <;> decide

lemma mem_strexTransferRegs {isARM : Bool} {size : OpSize} {r : Reg}
    (h : r ∈ strexRtRegs isARM size) : r ∈ strexTransferRegs isARM size := by
  unfold strexRtRegs at h
  split at h
  · exact List.mem_of_mem_filter h
  · exact h

lemma regLm_ne_nil (size : OpSize) (rt pair : Reg) : regLm size rt pair ≠ [] := by
  have hrt : 1 < ((regRange 13).erase rt).length := lt_length_erase (by decide) rt
  unfold regLm
  refine List.ne_nil_of_length_pos ?_
  dsimp only
  split
  · exact lt_length_erase hrt pair
  · omega

lemma quiet_drawStrexPair (isARM : Bool) {l : List Reg} (h : 0 < l.length) :
    Draw.Quiet (drawStrexPair isARM l) := by
  unfold drawStrexPair
  split
  · exact .pure _
  · exact (Draw.Quiet.choice (List.ne_nil_of_length_pos h)).bind fun _ => .pure _

lemma quiet_drawLockReg {l : List Reg} (h : l ≠ []) (rn : Reg) : Draw.Quiet (drawLockReg l rn) := by
  unfold drawLockReg
  split
  · exact .pure _
  · exact .choice h

/-- `genSTREX` finds a register whenever it looks for one. -/
lemma quiet_genSTREX (isARM isconditional : Bool) (size : OpSize) :
    Draw.Quiet (Build.genSTREX isARM isconditional size) := by
  have hregs := length_strexRegs isARM
  have htrans := length_strexTransferRegs isARM size
  refine (quiet_drawArmCond isconditional).bind fun cond => ?_
  refine (Draw.Quiet.onlyIf fun _ => .remove (by decide)).bind fun _ => ?_
  -- four registers, each struck from the list when it has been drawn
  refine (Draw.Quiet.choice (List.ne_nil_of_length_pos (by omega))).bind fun rs => ?_
  have hs := lt_length_erase hregs rs.1
  refine (Draw.Quiet.remove rs.2).bind fun _ => ?_
  refine (Draw.Quiet.choice (List.ne_nil_of_length_pos (by omega))).bind fun rw => ?_
  have hw := lt_length_erase hs rw.1
  refine (Draw.Quiet.remove rw.2).bind fun _ => ?_
  refine (Draw.Quiet.choice (List.ne_nil_of_length_pos (by omega))).bind fun rn => ?_
  have hn := lt_length_erase hw rn.1
  refine (Draw.Quiet.remove rn.2).bind fun _ => ?_
  refine (Draw.Quiet.choice (List.ne_nil_of_length_pos (by omega))).bind fun rv => ?_
  refine quiet_coin.bind fun immOffset => ?_
  refine (Draw.Quiet.drawIf (fun _ => quiet_randFin 255) 0).bind fun imm => ?_
  refine (Draw.Quiet.onlyIf fun _ =>
    (Draw.Quiet.choice (by decide)).bind fun _ => .pure _).bind fun _ => ?_
  refine (Draw.Quiet.onlyIf fun _ => .remove (by decide)).bind fun _ => ?_
  refine (Draw.Quiet.onlyIf fun _ => .remove (by decide)).bind fun _ => ?_
  -- the transfer registers and the result
  refine (Draw.Quiet.choice (strexRtRegs_ne_nil isARM size)).bind fun rt => ?_
  have ht := lt_length_erase htrans rt.1
  refine (Draw.Quiet.remove (mem_strexTransferRegs rt.2)).bind fun _ => ?_
  refine (quiet_drawStrexPair isARM (by omega)).bind fun rt2 => ?_
  have hp := lt_length_erase ht (strexPair isARM rt.1 rt2.1)
  have hpn := lt_length_erase hp rn.1
  refine (Draw.Quiet.choice (List.ne_nil_of_length_pos hpn)).bind fun rd => ?_
  have hz : 1 < ((regRange 15).erase rn.1).length := lt_length_erase (by decide) rn.1
  refine (Draw.Quiet.choice (List.ne_nil_of_length_pos (by omega))).bind fun rz1 => ?_
  refine (Draw.Quiet.remove rz1.2).bind fun _ => ?_
  refine (Draw.Quiet.choice (List.ne_nil_of_length_pos (lt_length_erase hz rz1.1))).bind
    fun rz2 => ?_
  refine (Draw.Quiet.remove rz2.2).bind fun _ => ?_
  refine (quiet_drawLockReg (regLm_ne_nil _ _ _) _).bind fun rm => ?_
  refine (quiet_getRandRegVal rt.1).bind fun rtVal => ?_
  refine (Draw.Quiet.drawIf (fun _ => quiet_getRandRegVal _) 0).bind fun rt2Val => ?_
  exact (quiet_getRandRegVal rs.1).bind fun rsVal => (quiet_getRandRegVal rm.1).bind fun rnVal =>
    .pure _

end Exclusive

/-! ## The ALU sequence -/

/-- A text that `output_instr` can have written for an ARM opcode: the last line, if there is one,
is the instruction. -/
def WellFormed (text : Str) : Prop :=
  ∃ (op : Opcode) (instr : Word) (status : InstrStatus) (ls : List Rit.Line),
    text = Src.printBuff op instr status [] ls ∧ (∀ l ∈ ls, l.Printed) ∧
      ∀ l ∈ ls.getLast?, ∃ word, l = .inst (.inst word)

section Library

variable {op : Opcode}

lemma genInstr_last (hop : op < SISA_OP_ARM_MAX) (w : Src.Work) :
    ∀ l ∈ (Src.genInstr op w).2.instrBuf.getLast?, ∃ word, l = .inst (.inst word) := by
  unfold Src.genInstr
  dsimp only
  split_ifs
  · exact fun _ hl => by cases hl
  · intro l hl
    rw [Src.Work.insertInstr, List.getLast?_concat] at hl
    exact ⟨_, (Option.some.inj hl).symm⟩

lemma attempts_last (hop : op < SISA_OP_ARM_MAX) (isInstrInit : Bool) (retry : ℕ)
    (status : InstrStatus) {w : Src.Work}
    (hw : ∀ l ∈ w.instrBuf.getLast?, ∃ word, l = .inst (.inst word)) :
    ∀ l ∈ (Src.attempts op isInstrInit retry status w).2.instrBuf.getLast?,
      ∃ word, l = .inst (.inst word) := by
  induction retry generalizing status w with
  | zero => exact hw
  | succ retry ih =>
    rw [Src.attempts]
    split
    · exact ih _ (genInstr_last hop _)
    · exact hw

lemma firstAttempt_last (hop : op < SISA_OP_ARM_MAX) (isInstrInit : Bool) (w : Src.Work) :
    ∀ l ∈ (Src.attempts op isInstrInit 8 .unsupported w).2.instrBuf.getLast?,
      ∃ word, l = .inst (.inst word) := by
  rw [Src.attempts, if_pos rfl]
  exact attempts_last hop _ 7 _ (genInstr_last hop _)

/-- The texts of the library for ARM opcodes are of that kind. -/
theorem genInstrWithOp_wellFormed (hop : op < SISA_OP_ARM_MAX) {w w' : Src.Work}
    {text : List String} (h : Src.genInstrWithOp op w = some (text, w')) :
    WellFormed (text.flatMap fun l => l.toList ++ ['\n']) := by
  obtain ⟨hprinted, status, htext⟩ := Src.genInstrWithOp_printed h
  refine ⟨op, w'.rawInstr, status, w'.instrBuf, htext, hprinted, ?_⟩
  have hlast := firstAttempt_last hop (w.rawInstr ≠ 0) w
  rw [Src.genInstrWithOp] at h
  generalize Src.attempts op (w.rawInstr ≠ 0) 8 .unsupported w = r at h hlast
  obtain ⟨lines, -, hpair⟩ := Option.map_eq_some_iff.1 h
  rw [← (Prod.mk.inj hpair).2]
  exact hlast

theorem genInstrWithOp_wellFormed_ADD : ∃ r, Src.genInstrWithOp Op.ADD_imm
      (Src.State.fresh (fun _ => 0) fun _ => false).work = some r ∧
    WellFormed (r.1.flatMap fun l => l.toList ++ ['\n']) := by
  obtain ⟨r, h⟩ := Option.isSome_iff_exists.1 (by decide +kernel : (Src.genInstrWithOp Op.ADD_imm
    (Src.State.fresh (fun _ => 0) fun _ => false).work).isSome)
  exact ⟨r, h, genInstrWithOp_wellFormed (by decide) h⟩

end Library

/-- All texts still to come are of that kind. -/
def Fed (c : BuildCtx) : Prop := ∀ i, WellFormed (c.rit i)

/-- The S bit of the word stands in a hexadecimal digit. -/
def HasSbit (instHex : Str) : Prop := ∃ c ∈ sbitVal, instHex.reverse[5]? = some c

section Alu

lemma toList_hexPad (v : Word) : (hexPad 8 v).toList.length = 8 ∧ ∀ c ∈ (hexPad 8 v).toList,
    c ∈ sbitVal := by
  have hlen : (Nat.toDigits 16 v.toNat).length ≤ 8 := by
    rw [Nat.length_toDigits_le_iff (by omega) (by omega)]
    exact v.isLt
  unfold hexPad
  rw [String.toList_ofList]
  refine ⟨by rw [List.length_append, List.length_replicate]; omega, fun c hc => ?_⟩
  rcases List.mem_append.1 hc with hc | hc
  · rw [(List.mem_replicate.1 hc).2]
    decide
  · have hdigit : ∀ d < 16, d.digitChar ∈ sbitVal := by decide
    exact forall_mem_toDigits (by omega) hdigit _ c hc

/-- Whatever stands before the eight digits. -/
lemma hasSbit_append_hexPad (s : Str) (v : Word) : HasSbit (s ++ (hexPad 8 v).toList) := by
  obtain ⟨hlen, hmem⟩ := toList_hexPad v
  have hlt : 5 < (hexPad 8 v).toList.reverse.length := by rw [List.length_reverse]; omega
  refine ⟨(hexPad 8 v).toList.reverse.get ⟨5, hlt⟩, ?_, ?_⟩
  · exact hmem _ (List.mem_reverse.1 (List.get_mem _ _))
  · rw [List.reverse_append, List.getElem?_append_left hlt, List.getElem?_eq_getElem hlt]
    rfl

lemma item_inst (word : Word) :
    (Asm.inst word).item = (".inst".toList, "0x".toList ++ (hexPad 8 word).toList) := by
  have htext : (Asm.inst word).text.toList =
      ".inst".toList ++ ' ' :: ("0x".toList ++ (hexPad 8 word).toList) := by
    simp [Asm.text, String.toList_append]
  rw [Asm.item, htext, cutBlank_append (by decide)]

/-- The last instruction that `parseRIT` returns for a text of the library. -/
lemma WellFormed.parseRIT {text : Str} (h : WellFormed text) :
    ∃ status inst, parseRIT text true true true = some (status, inst) ∧
      ∀ i ∈ inst.bind List.getLast?, HasSbit i.2 := by
  obtain ⟨op, instr, status, ls, rfl, hprinted, hlast⟩ := h
  rw [Art.parseRIT, foldlM_printBuff op instr status (by simpa using hprinted)]
  refine ⟨_, _, rfl, fun i hi => ?_⟩
  by_cases hst : StatusTrue true true status
  · simp only [hst, decide_true, if_true, Option.bind_some, List.nil_append] at hi
    rcases List.eq_nil_or_concat ls with rfl | ⟨ls, l, rfl⟩
    · -- without lines only the raw word can be the last
      rw [List.flatMap_nil, List.append_nil, infoItems] at hi
      split at hi
      · obtain rfl := Option.some.inj hi
        exact hasSbit_append_hexPad [] instr
      · cases hi
    · obtain ⟨word, rfl⟩ := hlast l (by simp)
      have hitems : Line.items true (.inst (.inst word)) = [(Asm.inst word).item] := rfl
      rw [List.concat_eq_append, List.flatMap_append, List.flatMap_singleton, hitems,
        ← List.append_assoc, List.getLast?_concat] at hi
      obtain rfl := Option.some.inj hi
      rw [item_inst]
      exact hasSbit_append_hexPad _ word
  · simp [hst] at hi

/-- What the functions that call the library leave. -/
def Calm (c c' : BuildCtx) : Prop := c'.toCtx = c.toCtx ∧ c'.bb = c.bb ∧ Fed c'

lemma Calm.trans {a b c : BuildCtx} (h : Calm a b) (h' : Calm b c) : Calm a c :=
  ⟨h'.1.trans h.1, h'.2.1.trans h.2.1, h'.2.2⟩

lemma Calm.of_eq {c c' : BuildCtx} (h : c' = c) (hfed : Fed c) : Calm c c' := by
  subst h
  exact ⟨rfl, rfl, hfed⟩

lemma genSingleInstWithOpcode_gives (retry : ℕ) (s : Run BuildCtx) (hfed : Fed s.st) :
    Gives (genSingleInstWithOpcode true true true retry) s fun ret s' =>
      Calm s.st s'.st ∧ ∀ i ∈ ret.bind List.getLast?, HasSbit i.2 := by
  induction retry generalizing s with
  | zero => exact .pure ⟨.of_eq rfl hfed, fun i hi => by cases hi⟩
  | succ retry ih =>
    rw [genSingleInstWithOpcode, callRit]
    simp only [bind_assoc, pure_bind]
    refine .getSt_bind (.modifySt_bind ?_)
    obtain ⟨status, inst, hparse, hlast⟩ := (hfed 0).parseRIT
    rw [hparse]
    cases status with
    | true => exact .pure ⟨⟨rfl, rfl, fun i => hfed (i + 1)⟩, hlast⟩
    | false =>
      have hstep : Calm s.st { s.st with rit := fun i => s.st.rit (i + 1) } :=
        ⟨rfl, rfl, fun i => hfed (i + 1)⟩
      exact (ih { s with st := _ } hstep.2.2).mono fun ret s' h => ⟨hstep.trans h.1, h.2⟩

lemma wordOfRet_quiet {ret : Option (List ParsedInst)}
    (h : ∀ i ∈ ret.bind List.getLast?, HasSbit i.2) : Draw.Quiet (wordOfRet ret) := by
  unfold wordOfRet
  split
  · exact .pure _
  · rename_i inst hinst
    obtain ⟨c, hc, hchar⟩ := h inst hinst
    have hmask : Draw.Quiet (maskSbit inst.2) := by
      rw [maskSbit, hchar]
      exact .ite (fun _ => .pure _) fun hnot => absurd hc hnot
    exact hmask.bind fun _ => .pure _

/-- The two calls of `genALUwritePC` and the words they give. -/
lemma callAndMask_gives (maxretry : ℕ) (s : Run BuildCtx) (hfed : Fed s.st) {α : Type}
    {f : Option Str → Build α} {T : α → Run BuildCtx → Prop}
    (hf : ∀ word s', Calm s.st s'.st → Gives (f word) s' T) :
    Gives (genSingleInstWithOpcode true true true maxretry >>= fun ret => wordOfRet ret >>= f) s
      T := by
  refine (genSingleInstWithOpcode_gives maxretry s hfed).bind fun ret s' h => ?_
  exact (wordOfRet_quiet h.2).seq fun word d => hf word _ h.1

/-- `genALUwritePC` only needs texts that it can read. -/
lemma genALUwritePC_gives (maxretry : ℕ) (s : Run BuildCtx) (hfed : Fed s.st) :
    Gives (genALUwritePC maxretry) s fun _ s' => Calm s.st s'.st := by
  have hregs : 4 < ((((List.range 16).erase 15).erase 14).erase 13).length := by decide
  refine .getSt_bind ?_
  refine (Draw.Quiet.randint (by omega)).seq fun hexcode d => ?_
  refine (Draw.Quiet.randint (by omega)).seq fun seed d => ?_
  refine (Draw.Quiet.remove (by decide)).seq fun _ d => ?_
  refine (Draw.Quiet.remove (by decide)).seq fun _ d => ?_
  refine (Draw.Quiet.remove (by decide)).seq fun _ d => ?_
  refine (Draw.Quiet.choice (by decide)).seq fun rn d => ?_
  refine (Draw.Quiet.choice (by decide)).seq fun rm d => ?_
  have hleft := lt_length_erase (lt_length_erase (lt_length_erase hregs rn.1) rm.1) 13
  refine (Draw.Quiet.choice (List.ne_nil_of_length_pos (by omega))).seq fun ri d => ?_
  refine (Draw.Quiet.remove ri.2).seq fun _ d => ?_
  refine (Draw.Quiet.choice (List.ne_nil_of_length_pos (lt_length_erase hleft ri.1))).seq
    fun rf d => ?_
  refine quiet_coin.seq fun isconditional d => (quiet_drawCond _).seq fun cond d => ?_
  split
  · refine (Draw.Quiet.choice (by decide)).seq fun opcode d => ?_
    refine callAndMask_gives maxretry ⟨d, s.st⟩ hfed fun trial s' hs' => ?_
    exact callAndMask_gives maxretry s' hs'.2.2 fun real s'' hs'' => .pure (hs'.trans hs'')
  · exact (Draw.Quiet.choice (by decide)).seq fun opcode d => .pure (.of_eq rfl hfed)

end Alu

/-! ## Branches -/

/-- What a conditional forward branch does to the dictionary: a `cbz` may stand for it if it is
generated for Thumb at level 0 or below, and then the block it skips must be short. -/
def limited (isARM : Bool) (nest : ℤ) (label : Label) (bb : BlockDict) : BlockDict :=
  if isARM = false ∧ nest ≤ 0 then bb.insert label (some 32) else bb

section Branch

lemma quiet_genBranch (isARM : Bool) {isconditional forward : Bool} (off : Option Label)
    (h : isconditional = false ∨ forward = false) :
    Draw.Quiet (Build.genBranch isARM isconditional forward off) := by
  intro s
  refine .getSt_bind ((quiet_drawCond isconditional).seq fun cond d => ?_)
  have hcbz : ¬(isconditional && !(isARM || decide (s.st.nest > 0)) && forward) = true := by
    rcases h with rfl | rfl <;> simp
  refine (Draw.Quiet.drawIf (fun htrue => absurd htrue hcbz) none).seq fun cbz d => ?_
  refine (Draw.Quiet.onlyIf fun htrue => absurd htrue hcbz).seq fun _ d => ?_
  exact (Draw.Quiet.drawIf (fun _ => quiet_percent 20) false).seq fun adr d => .pure rfl

/-- A conditional forward branch finds the block it skips. -/
lemma genBranch_gives (isARM : Bool) {label : Label} (s : Run BuildCtx)
    (h : isARM = false → s.st.nest ≤ 0 → label ∈ s.st.bb) :
    Gives (Build.genBranch isARM true true (some label)) s fun _ s' =>
      s'.st = { s.st with bb := limited isARM s.st.nest label s.st.bb } := by
  refine .getSt_bind ((quiet_drawCond true).seq fun cond d => ?_)
  refine (Draw.Quiet.drawIf (fun _ => quiet_drawCbz) none).seq fun cbz d => ?_
  have hadr {t : Run BuildCtx} {p : Prop} [Decidable p]
      (ht : t.st = { s.st with bb := limited isARM s.st.nest label s.st.bb }) :
      Gives (do
        let adr ← Draw.drawIf p (percent 20) false
        pure (⟨cond, cbz, adr⟩ : BranchChoice) : Build BranchChoice) t fun _ s' =>
          s'.st = { s.st with bb := limited isARM s.st.nest label s.st.bb } :=
    (Draw.Quiet.drawIf (fun _ => quiet_percent 20) false).seq fun adr d => .pure ht
  by_cases hcbz : isARM = false ∧ s.st.nest ≤ 0
  · have hallow : (true && !(isARM || decide (s.st.nest > 0)) && true) = true := by
      simp [hcbz.1, hcbz.2]
    have hlimited : limited isARM s.st.nest label s.st.bb = s.st.bb.insert label (some 32) :=
        if_pos hcbz
    refine Gives.bind
      (Q := fun _ s' => s'.st = { s.st with bb := limited isARM s.st.nest label s.st.bb })
      ?_ fun _ s' hs' => hadr hs'
    rw [onlyIf, Draw.drawIf, if_pos hallow, limitBlock, setInstLimit]
    refine .getSt_bind ?_
    rw [if_pos (h hcbz.1 hcbz.2)]
    exact ⟨(), _, rfl, by rw [hlimited]⟩
  · have hallow : ¬(true && !(isARM || decide (s.st.nest > 0)) && true) = true := by
      simpa using hcbz
    have hlimited : limited isARM s.st.nest label s.st.bb = s.st.bb := if_neg hcbz
    refine (Draw.Quiet.onlyIf fun htrue => absurd htrue hallow).seq fun _ d => hadr ?_
    rw [hlimited]

end Branch

/-! ## `getRBlock` -/

/-- The class of a block. -/
def rbType : Shape → RBType
  | .basic => .basic
  | .byPass .. => .byPass
  | .hammock .. => .hammock
  | .loop .. => .loop
  | .irLoop .. => .irLoop
  | .interwork .. => .interwork
  | .callRet .. => .callRet
  | .exclusive .. => .exclusive
  | .aluWritePC .. => .aluWritePC

/-- `Shape.classDrawable` as a property of the class. -/
def RBType.drawable (o : Shape.Options) (nest : ℤ) : RBType → Bool
  | .basic => decide (nest ≤ 3) || o.aluwpcBlock
  | .exclusive => decide (0 < nest) && decide (nest ≤ 3) && o.exclBlock
  | .aluWritePC => decide (0 < nest) && o.aluwpcBlock
  | _ => decide (0 < nest)

section GetRBlock

variable (o : Shape.Options) (nest : ℤ)

lemma classDrawable_eq (sh : Shape) : sh.classDrawable o nest = (rbType sh).drawable o nest := by
  cases sh <;> rfl

/-- What the list that `getRBlock` chooses from has. -/
lemma drawable_of_mem_classes {c : RBType} (hnest : 0 < nest)
    (h : c ∈ if 3 < nest then ((classes o).erase .basic).erase .exclusive else classes o) :
    c.drawable o nest = true ∧
      (c = .exclusive ∨ c = .aluWritePC → RBType.drawable o nest .basic = true) := by
  have hhigh : ∀ e a : Bool, ∀ c ∈ ((classes ⟨e, a⟩).erase .basic).erase .exclusive,
      c ≠ .basic ∧ c ≠ .exclusive ∧ (c = .aluWritePC → a = true) := by decide
  have hlow : ∀ e a : Bool, ∀ c ∈ classes ⟨e, a⟩,
      (c = .exclusive → e = true) ∧ (c = .aluWritePC → a = true) := by decide
  obtain ⟨e, a⟩ := o
  split at h
  · obtain ⟨hbasic, hexcl, halu⟩ := hhigh e a c h
    clear hhigh hlow h
    cases c <;> simp_all [RBType.drawable]
  · obtain ⟨hexcl, halu⟩ := hlow e a c h
    have hnest' : nest ≤ 3 := by omega
    clear hhigh hlow h
    cases c <;> simp_all [RBType.drawable]

lemma getRBlock_gives (s : Run BuildCtx) :
    Gives (getRBlock o nest) s fun c s' => s'.st = s.st ∧ c.drawable o nest = true := by
  have hne : ∀ e a : Bool, ((classes ⟨e, a⟩).erase .basic).erase .exclusive ≠ [] ∧
      classes ⟨e, a⟩ ≠ [] ∧ RBType.basic ∈ classes ⟨e, a⟩ := by decide
  obtain ⟨hhigh, hlow, hmem⟩ := hne o.exclBlock o.aluwpcBlock
  unfold getRBlock
  split
  · rename_i hnest
    refine (Draw.Quiet.onlyIf fun _ => .remove hmem).seq fun _ d => ?_
    refine (Draw.Quiet.choice (by split <;> assumption)).seq fun rval d => ?_
    obtain ⟨hrval, hbasic⟩ := drawable_of_mem_classes o nest hnest rval.2
    by_cases hp : rval.1 = .exclusive ∨ rval.1 = .aluWritePC
    · rw [Draw.drawIf, if_pos hp]
      refine (quiet_percent 30).seq fun keep d => .pure ⟨rfl, ?_⟩
      split
      · exact hrval
      · exact hbasic hp
    · rw [Draw.drawIf, if_neg hp, pure_bind]
      exact .pure ⟨rfl, hrval⟩
  · refine .pure ⟨rfl, ?_⟩
    have hnest : nest ≤ 3 := by omega
    simp [RBType.drawable, hnest]

end GetRBlock

/-! ## `makeRandomBlock` -/

/-- `ctx[CTX.BB]` after `makeRandomBlock`. -/
def registered : Shape → Label → Ctx → BlockDict → BlockDict
  | .basic, l, _, bb => bb.insert l none
  | .byPass _ b1 b2 b3, l, ctx, bb =>
    let ctx := { ctx with nest := ctx.nest - 1 }
    let bb := registered b1 (.b1 :: l) ctx bb
    let bb := registered b2 (.b2 :: l) ctx bb
    let bb := registered b3 (.b3 :: l) ctx bb
    limited ctx.isa ctx.nest (.b2 :: l) bb
  | .hammock _ _ h1 h2 h3 h4, l, ctx, bb =>
    let ctx := { ctx with nest := ctx.nest - 1 }
    let bb := registered h1 (.h1 :: l) ctx bb
    let bb := registered h2 (.h2 :: l) ctx bb
    let bb := registered h3 (.h3 :: l) ctx bb
    let bb := registered h4 (.h4 :: l) ctx bb
    limited ctx.isa ctx.nest (.h2 :: l) bb
  | .loop _ l1, l, ctx, bb => registered l1 (.l1 :: l) { ctx with nest := ctx.nest - 1 } bb
  | .irLoop _ _ ir1 ir2 ir3, l, ctx, bb =>
    let ctx := { ctx with nest := ctx.nest - 1 }
    let bb := registered ir1 (.ir1 :: l) ctx bb
    let bb := registered ir2 (.ir2 :: l) ctx bb
    registered ir3 (.ir3 :: l) ctx bb
  | .interwork _ _ _ _ _ _ iw1 iw2 iw3, l, ctx, bb =>
    let ctx := { ctx with nest := ctx.nest - 1 }
    let bb := registered iw1 (.iw1 :: l) ctx bb
    let bb := registered iw2 (.iw2 :: l) { ctx with isa := !ctx.isa } bb
    registered iw3 (.iw3 :: l) ctx bb
  | .callRet iwcall _ _ _ _ _ _ c1 c2 c3, l, ctx, bb =>
    let ctx := { ctx with nest := ctx.nest - 1 }
    let bb := registered c1 (.c1 :: l) ctx bb
    let bb := registered c2 (.c2 :: l) { ctx with isa := if iwcall then !ctx.isa else ctx.isa } bb
    registered c3 (.c3 :: l) ctx bb
  | .exclusive e1 e2, l, ctx, bb =>
    let ctx := { ctx with nest := ctx.nest - 1 }
    registered e2 (.e2 :: l) ctx (registered e1 (.e1 :: l) ctx bb)
  | .aluWritePC p1 p2, l, ctx, bb =>
    let ctx := { ctx with nest := ctx.nest - 1 }
    registered p2 (.aluwpc2 :: l) ctx (registered p1 (.aluwpc1 :: l) ctx bb)

/-- What `makeRandomBlock` leaves when it has drawn `sh`. -/
structure Built (l : Label) (c : BuildCtx) (sh : Shape) (c' : BuildCtx) : Prop where
  ctx : c'.toCtx = c.toCtx
  bb : c'.bb = registered sh l c.toCtx c.bb
  fed : Fed c'

section MakeRandomBlock

variable {o : Shape.Options} {maxretry : ℕ}

lemma mem_limited {isARM : Bool} {nest : ℤ} {label x : Label} {bb : BlockDict} (h : x ∈ bb) :
    x ∈ limited isARM nest label bb := by
  unfold limited
  split
  · exact (AList.mem_insert _).2 (.inr h)
  · exact h

lemma mem_registered (sh : Shape) {l x : Label} {ctx : Ctx} {bb : BlockDict} (h : x ∈ bb) :
    x ∈ registered sh l ctx bb := by
  induction sh generalizing l ctx bb with
  | basic => exact (AList.mem_insert _).2 (.inr h)
  | byPass br b1 b2 b3 ih1 ih2 ih3 => exact mem_limited (ih3 (ih2 (ih1 h)))
  | hammock br3 br4 h1 h2 h3 h4 ih1 ih2 ih3 ih4 => exact mem_limited (ih4 (ih3 (ih2 (ih1 h))))
  | loop lp l1 ih => exact ih h
  | irLoop lp br ir1 ir2 ir3 ih1 ih2 ih3 => exact ih3 (ih2 (ih1 h))
  | interwork condBx iwFollowed bx1 bx2 bx3 br iw1 iw2 iw3 ih1 ih2 ih3 => exact ih3 (ih2 (ih1 h))
  | callRet iwcall calleeFollowed beginWithCall call pre post br c1 c2 c3 ih1 ih2 ih3 =>
    exact ih3 (ih2 (ih1 h))
  | exclusive e1 e2 ih1 ih2 => exact ih2 (ih1 h)
  | aluWritePC p1 p2 ih1 ih2 => exact ih2 (ih1 h)

/-- `makeRandomBlock` on a block that `getRBlock` can return at this level. -/
def Builds (o : Shape.Options) (maxretry depth : ℕ) (nest : ℤ) : Prop :=
  ∀ (cls : RBType) (l : Label) (s : Run BuildCtx), Fed s.st → s.st.nest = nest →
    cls.drawable o nest = true →
      Gives (makeRandomBlock o maxretry depth cls l) s fun sh s' =>
        sh.drawable o nest = true ∧ Built l s.st sh s'.st

/-- What a call of `makeRandomBlock` on a block of class `cls` gives. -/
def BuiltAs (o : Shape.Options) (cls : RBType) (l : Label) (c : BuildCtx) (sh : Shape)
    (s' : Run BuildCtx) : Prop :=
  rbType sh = cls ∧ (∀ child ∈ sh.children, child.drawable o (c.nest - 1) = true) ∧
    Built l c sh s'.st

variable {depth : ℕ} {d : ℕ → ℕ} {nest : ℤ} {isa : Bool} {bb : BlockDict} {rit : ℕ → Str}
  {l : Label} {α : Type} {T : α → Run BuildCtx → Prop}

lemma getRBlock_seq {s : Run BuildCtx} {f : RBType → Build α}
    (hf : ∀ c d, c.drawable o nest = true → Gives (f c) ⟨d, s.st⟩ T) :
    Gives (getRBlock o nest >>= f) s T := by
  refine (getRBlock_gives o nest s).bind fun c s' h => ?_
  obtain ⟨d, st⟩ := s'
  obtain ⟨rfl, hc⟩ := h
  exact hf c d hc

/-- A child: it leaves the level and the instruction set, and registers its leaves. -/
lemma Builds.seq {cls : RBType} {f : Shape → Build α} (h : Builds o maxretry depth nest)
    (hc : cls.drawable o nest = true) (hfed : ∀ i, WellFormed (rit i))
    (hf : ∀ sh d rit, sh.drawable o nest = true → (∀ i, WellFormed (rit i)) →
      Gives (f sh) ⟨d, ⟨⟨nest, isa⟩, registered sh l ⟨nest, isa⟩ bb, rit⟩⟩ T) :
    Gives (makeRandomBlock o maxretry depth cls l >>= f) ⟨d, ⟨⟨nest, isa⟩, bb, rit⟩⟩ T := by
  refine (h cls l ⟨d, ⟨⟨nest, isa⟩, bb, rit⟩⟩ hfed rfl hc).bind fun sh s' hs' => ?_
  obtain ⟨d', ⟨ctx', bb', rit'⟩⟩ := s'
  obtain ⟨hdraw, hctx, hbb, hfed'⟩ := hs'
  obtain rfl : ctx' = ⟨nest, isa⟩ := hctx
  obtain rfl : bb' = registered sh l ⟨nest, isa⟩ bb := hbb
  exact hf sh d' rit' hdraw hfed'

/-- At level 0 and below the block that a forward branch skips is registered. -/
lemma mem_registered_of_low {sh : Shape} (h : sh.drawable o nest = true) (hnest : nest ≤ 0)
    {ctx : Ctx} : l ∈ registered sh l ctx bb := by
  have hbasic : sh = .basic := by
    by_contra hne
    have hpos := Shape.drawable_pos h hne
    omega
  subst hbasic
  exact (AList.mem_insert _).2 (.inl rfl)

lemma genBranch_seq {label : Label} {f : BranchChoice → Build α} (hmem : nest ≤ 0 → label ∈ bb)
    (hf : ∀ br d, Gives (f br) ⟨d, ⟨⟨nest, isa⟩, limited isa nest label bb, rit⟩⟩ T) :
    Gives (Build.genBranch isa true true (some label) >>= f) ⟨d, ⟨⟨nest, isa⟩, bb, rit⟩⟩ T := by
  refine (genBranch_gives isa ⟨d, ⟨⟨nest, isa⟩, bb, rit⟩⟩ fun _ => hmem).bind fun br s' hs' => ?_
  obtain ⟨d', st⟩ := s'
  obtain rfl : st = ⟨⟨nest, isa⟩, limited isa nest label bb, rit⟩ := hs'
  exact hf br d'

/-- The last step: the level is put back. -/
lemma restore_gives {cls : RBType} {sh : Shape} {rit' : ℕ → Str} {c : BuildCtx}
    (hc : c.toCtx = ⟨nest, isa⟩) (hcls : rbType sh = cls)
    (hdraw : ∀ child ∈ sh.children, child.drawable o (nest - 1) = true)
    (hfed : ∀ i, WellFormed (rit' i)) :
    Gives (setNest (nest - 1 + 1) >>= fun _ => pure sh)
      ⟨d, ⟨⟨nest - 1, isa⟩, registered sh l ⟨nest, isa⟩ c.bb, rit'⟩⟩ (BuiltAs o cls l c) := by
  have hnest : c.nest = nest := congrArg Ctx.nest hc
  refine .modifySt_bind (.pure ⟨hcls, by rwa [hnest], ?_, ?_, hfed⟩)
  · rw [hc]
    exact congrArg (Ctx.mk · isa) (Int.sub_add_cancel nest 1)
  · rw [hc]

lemma byPass_builds (h : Builds o maxretry depth (nest - 1)) (hfed : ∀ i, WellFormed (rit i)) :
    Gives (makeRandomBlock o maxretry (depth + 1) .byPass l) ⟨d, ⟨⟨nest, isa⟩, bb, rit⟩⟩
      (BuiltAs o .byPass l ⟨⟨nest, isa⟩, bb, rit⟩) := by
  rw [makeRandomBlock]
  refine .getSt_bind ?_
  refine getRBlock_seq fun b1 d hb1 => getRBlock_seq fun b2 d hb2 =>
    getRBlock_seq fun b3 d hb3 => ?_
  refine .modifySt_bind ?_
  refine h.seq hb1 hfed fun b1 d rit1 hd1 hfed => ?_
  refine h.seq hb2 hfed fun b2 d rit2 hd2 hfed => ?_
  refine h.seq hb3 hfed fun b3 d rit3 hd3 hfed => ?_
  refine .getSt_bind (genBranch_seq (fun hlow => ?_) fun br d => ?_)
  · exact mem_registered b3 (mem_registered_of_low hd2 hlow)
  · exact restore_gives rfl rfl (by simp [Shape.children, hd1, hd2, hd3]) hfed

lemma hammock_builds (h : Builds o maxretry depth (nest - 1)) (hfed : ∀ i, WellFormed (rit i)) :
    Gives (makeRandomBlock o maxretry (depth + 1) .hammock l) ⟨d, ⟨⟨nest, isa⟩, bb, rit⟩⟩
      (BuiltAs o .hammock l ⟨⟨nest, isa⟩, bb, rit⟩) := by
  rw [makeRandomBlock]
  refine .getSt_bind ?_
  refine getRBlock_seq fun h1 d hh1 => getRBlock_seq fun h2 d hh2 => getRBlock_seq fun h3 d hh3 =>
    getRBlock_seq fun h4 d hh4 => ?_
  refine .modifySt_bind ?_
  refine h.seq hh1 hfed fun h1 d rit1 hd1 hfed => ?_
  refine h.seq hh2 hfed fun h2 d rit2 hd2 hfed => ?_
  refine h.seq hh3 hfed fun h3 d rit3 hd3 hfed => ?_
  refine h.seq hh4 hfed fun h4 d rit4 hd4 hfed => ?_
  refine .getSt_bind (genBranch_seq (fun hlow => ?_) fun br3 d => ?_)
  · exact mem_registered h4 (mem_registered h3 (mem_registered_of_low hd2 hlow))
  · refine (quiet_genBranch isa _ (.inl rfl)).seq fun br4 d => ?_
    exact restore_gives rfl rfl (by simp [Shape.children, hd1, hd2, hd3, hd4]) hfed

lemma loop_builds (h : Builds o maxretry depth (nest - 1)) (hfed : ∀ i, WellFormed (rit i)) :
    Gives (makeRandomBlock o maxretry (depth + 1) .loop l) ⟨d, ⟨⟨nest, isa⟩, bb, rit⟩⟩
      (BuiltAs o .loop l ⟨⟨nest, isa⟩, bb, rit⟩) := by
  rw [makeRandomBlock]
  refine .getSt_bind (getRBlock_seq fun l1 d hl1 => .modifySt_bind ?_)
  refine h.seq hl1 hfed fun l1 d rit1 hd1 hfed => quiet_genLoop.seq fun lp d => ?_
  exact restore_gives rfl rfl (by simp [Shape.children, hd1]) hfed

lemma irLoop_builds (h : Builds o maxretry depth (nest - 1)) (hfed : ∀ i, WellFormed (rit i)) :
    Gives (makeRandomBlock o maxretry (depth + 1) .irLoop l) ⟨d, ⟨⟨nest, isa⟩, bb, rit⟩⟩
      (BuiltAs o .irLoop l ⟨⟨nest, isa⟩, bb, rit⟩) := by
  rw [makeRandomBlock]
  refine .getSt_bind ?_
  refine getRBlock_seq fun i1 d hi1 => getRBlock_seq fun i2 d hi2 =>
    getRBlock_seq fun i3 d hi3 => ?_
  refine .modifySt_bind ?_
  refine h.seq hi1 hfed fun ir1 d rit1 hd1 hfed => ?_
  refine h.seq hi2 hfed fun ir2 d rit2 hd2 hfed => ?_
  refine h.seq hi3 hfed fun ir3 d rit3 hd3 hfed => ?_
  refine quiet_genLoop.seq fun lp d => .getSt_bind ?_
  refine (quiet_genBranch isa _ (.inr rfl)).seq fun br d => ?_
  exact restore_gives rfl rfl (by simp [Shape.children, hd1, hd2, hd3]) hfed

lemma flipIsa_seq {f : Unit → Build α} (hf : Gives (f ()) ⟨d, ⟨⟨nest, !isa⟩, bb, rit⟩⟩ T) :
    Gives (flipIsa >>= f) ⟨d, ⟨⟨nest, isa⟩, bb, rit⟩⟩ T :=
  .modifySt_bind hf

lemma flipIsa_back {f : Unit → Build α} (hf : Gives (f ()) ⟨d, ⟨⟨nest, isa⟩, bb, rit⟩⟩ T) :
    Gives (flipIsa >>= f) ⟨d, ⟨⟨nest, !isa⟩, bb, rit⟩⟩ T := by
  rw [← Bool.not_not isa] at hf
  exact flipIsa_seq hf

lemma interwork_builds (h : Builds o maxretry depth (nest - 1)) (hfed : ∀ i, WellFormed (rit i)) :
    Gives (makeRandomBlock o maxretry (depth + 1) .interwork l) ⟨d, ⟨⟨nest, isa⟩, bb, rit⟩⟩
      (BuiltAs o .interwork l ⟨⟨nest, isa⟩, bb, rit⟩) := by
  rw [makeRandomBlock]
  refine .getSt_bind ?_
  refine getRBlock_seq fun i1 d hi1 => getRBlock_seq fun i2 d hi2 =>
    getRBlock_seq fun i3 d hi3 => ?_
  refine .modifySt_bind ?_
  refine h.seq hi1 hfed fun iw1 d rit1 hd1 hfed => flipIsa_seq ?_
  refine h.seq hi2 hfed fun iw2 d rit2 hd2 hfed => flipIsa_back ?_
  refine h.seq hi3 hfed fun iw3 d rit3 hd3 hfed => ?_
  refine quiet_coin.seq fun condBx d => quiet_coin.seq fun iwFollowed d => .getSt_bind ?_
  refine (quiet_genBX _ _).seq fun bx1 d => (quiet_genBX _ _).seq fun bx2 d =>
    (quiet_genBX _ _).seq fun bx3 d => (quiet_genBranch _ _ (.inl rfl)).seq fun br d => ?_
  exact restore_gives rfl rfl (by simp [Shape.children, hd1, hd2, hd3]) hfed

/-- The instruction set of the callee. -/
lemma flipIf_seq (b : Bool) {f : Unit → Build α}
    (hf : Gives (f ()) ⟨d, ⟨⟨nest, if b then !isa else isa⟩, bb, rit⟩⟩ T) :
    Gives (onlyIf (b = true) flipIsa >>= f) ⟨d, ⟨⟨nest, isa⟩, bb, rit⟩⟩ T := by
  cases b with
  | false => exact hf
  | true => exact flipIsa_seq hf

lemma flipIf_back (b : Bool) {f : Unit → Build α}
    (hf : Gives (f ()) ⟨d, ⟨⟨nest, isa⟩, bb, rit⟩⟩ T) :
    Gives (onlyIf (b = true) flipIsa >>= f) ⟨d, ⟨⟨nest, if b then !isa else isa⟩, bb, rit⟩⟩ T := by
  cases b with
  | false => exact hf
  | true => exact flipIsa_back hf

lemma callRet_builds (h : Builds o maxretry depth (nest - 1)) (hfed : ∀ i, WellFormed (rit i)) :
    Gives (makeRandomBlock o maxretry (depth + 1) .callRet l) ⟨d, ⟨⟨nest, isa⟩, bb, rit⟩⟩
      (BuiltAs o .callRet l ⟨⟨nest, isa⟩, bb, rit⟩) := by
  rw [makeRandomBlock]
  refine .getSt_bind ?_
  refine getRBlock_seq fun c1 d hc1 => getRBlock_seq fun c2 d hc2 =>
    getRBlock_seq fun c3 d hc3 => ?_
  refine .modifySt_bind ?_
  refine quiet_coin.seq fun iwcall d => quiet_coin.seq fun calleeFollowed d =>
    quiet_coin.seq fun beginWithCall d => (quiet_genCall _ _).seq fun call d => ?_
  refine h.seq hc1 hfed fun c1 d rit1 hd1 hfed => flipIf_seq iwcall ?_
  refine (quiet_randFin 7).seq fun pre d => (quiet_randFin 7).seq fun post d => ?_
  refine h.seq hc2 hfed fun c2 d rit2 hd2 hfed => flipIf_back iwcall ?_
  refine h.seq hc3 hfed fun c3 d rit3 hd3 hfed => .modifySt_bind ?_
  refine (quiet_genBranch _ _ (.inl rfl)).seq fun br d => .pure ⟨rfl, ?_, ?_, rfl, hfed⟩
  · simp [Shape.children, hd1, hd2, hd3]
  · exact congrArg (Ctx.mk · isa) (Int.sub_add_cancel nest 1)

lemma exclusive_builds (h : Builds o maxretry depth (nest - 1)) (hfed : ∀ i, WellFormed (rit i)) :
    Gives (makeRandomBlock o maxretry (depth + 1) .exclusive l) ⟨d, ⟨⟨nest, isa⟩, bb, rit⟩⟩
      (BuiltAs o .exclusive l ⟨⟨nest, isa⟩, bb, rit⟩) := by
  rw [makeRandomBlock]
  refine quiet_coin.seq fun condcode d => .getSt_bind ?_
  refine getRBlock_seq fun e1 d he1 => getRBlock_seq fun e2 d he2 => .modifySt_bind ?_
  refine h.seq he1 hfed fun e1 d rit1 hd1 hfed => .getSt_bind ?_
  refine (quiet_genLDREX _ _).seq fun ldrex d => (quiet_genSTREX _ _ _).seq fun strex d => ?_
  refine h.seq he2 hfed fun e2 d rit2 hd2 hfed => ?_
  exact restore_gives rfl rfl (by simp [Shape.children, hd1, hd2]) hfed

lemma aluWritePC_builds (h : Builds o maxretry depth (nest - 1)) (hfed : ∀ i, WellFormed (rit i)) :
    Gives (makeRandomBlock o maxretry (depth + 1) .aluWritePC l) ⟨d, ⟨⟨nest, isa⟩, bb, rit⟩⟩
      (BuiltAs o .aluWritePC l ⟨⟨nest, isa⟩, bb, rit⟩) := by
  rw [makeRandomBlock]
  refine .getSt_bind (getRBlock_seq fun p1 d hp1 => getRBlock_seq fun p2 d hp2 => .modifySt_bind ?_)
  refine h.seq hp1 hfed fun p1 d rit1 hd1 hfed => ?_
  refine (genALUwritePC_gives maxretry ⟨_, ⟨_, _, rit1⟩⟩ hfed).bind fun words s' hs' => ?_
  obtain ⟨d', ⟨ctx', bb', rit'⟩⟩ := s'
  obtain ⟨rfl, rfl, hfed⟩ := hs'
  refine h.seq hp2 hfed fun p2 d rit2 hd2 hfed => ?_
  exact restore_gives rfl rfl (by simp [Shape.children, hd1, hd2]) hfed

/-- One call, from what the calls below it do. -/
lemma builtAs_step {cls : RBType} (h : cls ≠ .basic → Builds o maxretry depth (nest - 1))
    (hfed : ∀ i, WellFormed (rit i)) :
    Gives (makeRandomBlock o maxretry (depth + 1) cls l) ⟨d, ⟨⟨nest, isa⟩, bb, rit⟩⟩
      (BuiltAs o cls l ⟨⟨nest, isa⟩, bb, rit⟩) := by
  cases cls with
  | basic =>
    rw [makeRandomBlock_basic]
    refine .modifySt_bind (.pure ⟨rfl, ?_, rfl, rfl, hfed⟩)
    simp [Shape.children]
  | byPass => exact byPass_builds (h (by decide)) hfed
  | hammock => exact hammock_builds (h (by decide)) hfed
  | loop => exact loop_builds (h (by decide)) hfed
  | irLoop => exact irLoop_builds (h (by decide)) hfed
  | interwork => exact interwork_builds (h (by decide)) hfed
  | callRet => exact callRet_builds (h (by decide)) hfed
  | exclusive => exact exclusive_builds (h (by decide)) hfed
  | aluWritePC => exact aluWritePC_builds (h (by decide)) hfed

/-- A class other than the basic one is drawn above level 0 only. -/
lemma RBType.drawable_pos {cls : RBType} (h : cls.drawable o nest = true) (hne : cls ≠ .basic) :
    0 < nest := by
  cases cls <;> simp_all [RBType.drawable]

/-- The nesting level bounds the depth of the calls. -/
theorem builds_of_le (hdepth : nest.toNat + 1 ≤ depth) : Builds o maxretry depth nest := by
  induction depth generalizing nest with
  | zero => omega
  | succ depth ih =>
    rintro cls l ⟨d, ⟨⟨nest, isa⟩, bb, rit⟩⟩ hfed rfl hcls
    have hbelow : cls ≠ .basic → Builds o maxretry depth (nest - 1) := by
      intro hne
      have hpos : 0 < nest := RBType.drawable_pos hcls hne
      exact ih (by change nest.toNat + 1 ≤ depth + 1 at hdepth; omega)
    refine (builtAs_step hbelow hfed).mono fun sh s' h => ⟨?_, h.2.2⟩
    rw [Shape.drawable_iff, classDrawable_eq, h.1]
    exact ⟨hcls, h.2.1⟩

/-- `makeRandomBlock` on a block of any class. -/
lemma makeRandomBlock_gives (cls : RBType) (l : Label) (s : Run BuildCtx) (hfed : Fed s.st)
    (hdepth : s.st.nest.toNat + 2 ≤ depth) :
    Gives (makeRandomBlock o maxretry depth cls l) s (BuiltAs o cls l s.st) := by
  obtain ⟨d, ⟨⟨nest, isa⟩, bb, rit⟩⟩ := s
  obtain ⟨depth, rfl⟩ : ∃ n, depth = n + 1 := ⟨depth - 1, by omega⟩
  refine builtAs_step (fun _ => builds_of_le ?_) hfed
  change nest.toNat + 2 ≤ depth + 1 at hdepth
  omega

end MakeRandomBlock

/-- Whatever is drawn, `makeRandomBlock` ends without an exception, and the level and the
instruction set are those it was called with. -/
theorem makeRandomBlock_restores (o : Shape.Options) (maxretry : ℕ) (cls : RBType) (l : Label)
    (s : Run BuildCtx) (hfed : Fed s.st) {depth : ℕ} (hdepth : s.st.nest.toNat + 2 ≤ depth) :
    ∃ sh s', (makeRandomBlock o maxretry depth cls l).run s = .ok (sh, s') ∧
      s'.st.nest = s.st.nest ∧ s'.st.isa = s.st.isa := by
  obtain ⟨sh, s', hrun, hbuilt⟩ := makeRandomBlock_gives cls l s hfed hdepth
  have hctx := hbuilt.2.2.ctx
  exact ⟨sh, s', hrun, congrArg Ctx.nest hctx, congrArg Ctx.isa hctx⟩

/-- A by-pass block at level 1, with a library that supports nothing. -/
theorem makeRandomBlock_restores_byPass :
    Fed (initContext 1 fun _ => Src.printBuff 0 0 .unsupported [] []) ∧
    ∃ sh s', (makeRandomBlock ⟨true, true⟩ 8 3 .byPass []).run
        ⟨fun i => i, initContext 1 fun _ => Src.printBuff 0 0 .unsupported [] []⟩ = .ok (sh, s') ∧
      s'.st.nest = 1 ∧ s'.st.isa = true := by
  have hfed : Fed (initContext 1 fun _ => Src.printBuff 0 0 .unsupported [] []) := fun _ =>
    ⟨0, 0, .unsupported, [], rfl, by simp, by simp⟩
  exact ⟨hfed, makeRandomBlock_restores ⟨true, true⟩ 8 .byPass [] ⟨fun i => i, _⟩ hfed (by decide)⟩

end Rit.Art.Build
