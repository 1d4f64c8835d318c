import Rit.Properties.Execute
import Rit.Properties.OffsetLimit
import Rit.Properties.Status
import Rit.Src.RandomInstrGen

/-!
# Word-aligned accesses

Without memory fixing, the base register of an access is loaded with `mem_data + 0x600000`, which is
word aligned if the label is.  What is added to it, an immediate or a shifted register, need not be.
`is_mem_align` was to reject the addresses that are not; it tests the option for unaligned accesses
in the wrong sense, so that with the option off it accepts every address.

`Disp` is what an access adds to its base, as the architecture reads it from the word.  After the
emitted lines a `VALID` access is word aligned iff its displacement is, with the drawn number in the
place of the offset register.
-/

namespace Rit

open BitField GenState

/-! ## Multiples of four -/

/-- The address of a word. -/
def WordAligned (a : Word) : Prop := a &&& 3 = 0

instance (a : Word) : Decidable (WordAligned a) := inferInstanceAs (Decidable (_ = _))

lemma wordAligned_iff {a : Word} : WordAligned a ↔ a.toNat % 4 = 0 := by
  have hthree : (3 : Word).toNat = 2 ^ 2 - 1 := rfl
  unfold WordAligned
  rw [← BitVec.toNat_inj, BitVec.toNat_and, hthree, Nat.and_two_pow_sub_one_eq_mod]
  rfl

lemma wordAligned_add_iff {a d : Word} (h : WordAligned a) :
    WordAligned (a + d) ↔ WordAligned d := by
  rw [wordAligned_iff] at h ⊢
  rw [wordAligned_iff, BitVec.toNat_add]
  omega

lemma wordAligned_neg_iff {d : Word} : WordAligned (-d) ↔ WordAligned d := by
  rw [wordAligned_iff, wordAligned_iff, BitVec.toNat_neg]
  omega

lemma wordAligned_four_mul (k : Word) : WordAligned (4 * k) := by
  have hfour : (4 : Word).toNat = 4 := rfl
  rw [wordAligned_iff, BitVec.toNat_mul, hfour]
  omega

lemma wordAligned_congr {a b : Word} (h : a &&& 3 = b &&& 3) : WordAligned a ↔ WordAligned b := by
  unfold WordAligned
  rw [h]

/-! ## The low bits of a drawn offset -/

section Draw

variable (type : BitVec 2) (amount : BitVec 5)

/-- Shifting commutes with masking; for an arithmetic shift of numbers that are not negative. -/
lemma shiftImm_and {x y : Word} (hx : x.msb = false) (hy : y.msb = false) (carry : Bool) :
    Arm.shiftImm type amount (x &&& y) carry =
      Arm.shiftImm type amount x carry &&& Arm.shiftImm type amount y carry := by
  have hxy : (x &&& y).msb = false := by rw [BitVec.msb_and, hx, Bool.false_and]
  unfold Arm.shiftImm
  split
  · exact BitVec.shiftLeft_and_distrib _ _ _
  · exact BitVec.ushiftRight_and_distrib _ _ _
  · rw [BitVec.sshiftRight_eq_of_msb_false hx, BitVec.sshiftRight_eq_of_msb_false hy,
      BitVec.sshiftRight_eq_of_msb_false hxy]
    exact BitVec.ushiftRight_and_distrib _ _ _
  · split
    · apply BitVec.eq_of_getLsbD_eq
      intro i hi
      simp only [BitVec.getLsbD_and, BitVec.getLsbD_or, BitVec.getLsbD_ushiftRight]
      cases x.getLsbD (1 + i) <;> cases y.getLsbD (1 + i) <;> simp
    · apply BitVec.eq_of_getLsbD_eq
      intro i hi
      rw [BitVec.getLsbD_and]
      simp only [Arm.getLsbD_rotateRight _ _ hi, BitVec.getLsbD_and]

/-- The mask of `get_rand_mem_offset` keeps the bits that end up in the low two. -/
lemma shiftImm_maxDraw_and_three (carry : Bool) :
    Arm.shiftImm type amount
        (randMemOffset 0 (type.setWidth 32) (passedAmount type amount) 0x7fffffff).1 carry &&& 3 =
      Arm.shiftImm type amount 0x7fffffff false &&& 3 := by
  revert type amount carry
  decide +kernel

lemma shiftImm_carry_and_three (x : Word) (carry : Bool) :
    Arm.shiftImm type amount x carry &&& 3 = Arm.shiftImm type amount x false &&& 3 := by
  cases carry with
  | false => rfl
  | true =>
    unfold Arm.shiftImm
    split
    · rfl
    · rfl
    · rfl
    · split
      · have hlow : ∀ b : Bool, ((BitVec.ofBool b).setWidth 32 <<< 31 : Word) &&& 3 = 0 := by decide
        rw [BitVec.and_or_distrib_right, BitVec.and_or_distrib_right, hlow, hlow]
      · rfl

/-- The offset register, shifted, ends in the same two bits as the draw, shifted. -/
lemma shiftImm_randMemOffset_and_three (junk : Word) (r : BitVec 31) (carry : Bool) :
    Arm.shiftImm type amount
        (randMemOffset junk (type.setWidth 32) (passedAmount type amount) (r.setWidth 32)).1
        carry &&& 3 =
      Arm.shiftImm type amount (r.setWidth 32) false &&& 3 := by
  obtain ⟨m, hm⟩ := exists_mask_randMemOffset type amount
  have hlow := shiftImm_maxDraw_and_three type amount carry
  rw [hm] at hlow ⊢
  have hr : (r.setWidth 32).msb = false := by
    rw [BitVec.msb_eq_getLsbD_last, BitVec.getLsbD_setWidth, BitVec.getLsbD_of_ge r _ (by decide)]
    rfl
  -- the draw is part of the largest draw, so masking it by `m` is masking it by `0x7fffffff & m`
  have hmask : (r.setWidth 32 : Word) &&& m = r.setWidth 32 &&& (0x7fffffff &&& m) := by
    rw [← BitVec.and_assoc, (bitsIn_maxDraw r).and_eq]
  have hmax : (0x7fffffff &&& m : Word).msb = false := by
    rw [BitVec.msb_and]
    rfl
  have hin := ((bitsIn_maxDraw r).shiftImm rfl type amount false).and_eq
  have hdistrib (a b : Word) : (a &&& b) &&& 3 = (a &&& 3) &&& (b &&& 3) := by
    rw [← BitVec.and_assoc, BitVec.and_assoc a 3 b, BitVec.and_comm 3 b, ← BitVec.and_assoc a b 3,
      BitVec.and_assoc (a &&& b) 3 3, BitVec.and_self]
  rw [hmask, shiftImm_and type amount hr hmax, hdistrib, hlow,
    shiftImm_carry_and_three type amount _ carry, ← hdistrib, hin]

end Draw

/-! ## The address of an access -/

/-- What an access adds to its base. -/
inductive Disp
  /-- An offset the word holds. -/
  | imm (index add : Bool) (x : Word)
  /-- A shifted register. -/
  | reg (index add : Bool) (m : Word) (type : BitVec 2) (amount : BitVec 5)
  /-- A number of words. -/
  | words (k : Word)
  deriving DecidableEq, Repr

/-- An offset added or subtracted before the access; without index the base is accessed. -/
def indexed (index add : Bool) (x : Word) : Word :=
  if index then if add then x else -x else 0

def Disp.value (regs : Word → Word) (carry : Bool) : Disp → Word
  | .imm index add x => indexed index add x
  | .reg index add m type amount => indexed index add (Arm.shiftImm type amount (regs m) carry)
  | .words k => 4 * k

/-- The number of registers in a list of registers. -/
def regCount (registerList : Word) : Word := .ofNat 32 (bitCount registerList)

/-- The first word of a multiple access of ARM, counted from the base. -/
def firstWord (w : Word) : Word :=
  if w.getLsbD 23 then if w.getLsbD 24 then 1 else 0
  else if w.getLsbD 24 then -regCount (w &&& 0xffff) else 1 - regCount (w &&& 0xffff)

/-- The loads and stores of words, of two words and of several words of ARM; `LDRD` of a literal is
apart, because its generator clears two bits of the word, and so is `SWP`, which biases. -/
def armWordOps : List Opcode :=
  [Op.LDR_imm, Op.STR_imm, Op.LDRT_a1, Op.STRT_a1, Op.LDRD_imm, Op.STRD_imm, Op.LDR_reg, Op.STR_reg,
    Op.LDRT_a2, Op.STRT_a2, Op.LDRD_reg, Op.STRD_reg, Op.LDR_lit] ++
  ldmOps ++ stmOps ++ pushOps ++ popOps ++ [Op.LDREX, Op.LDREXD, Op.STREX, Op.STREXD]

/-- Those of 16-bit Thumb. -/
def thumbWordOps : List Opcode :=
  [Op.LDR_imm_T1, Op.STR_imm_T1, Op.LDR_imm_T2, Op.STR_imm_T2, Op.LDR_reg_T1, Op.STR_reg_T1,
    Op.LDR_lit_T1, Op.LDM_T1, Op.STM_T1, Op.POP_T, Op.PUSH_T]

/-- Those of 32-bit Thumb. -/
def thumb32WordOps : List Opcode :=
  [Op.LDR_imm_T3, Op.LDR_imm_T4, Op.LDRT_T1, Op.LDRD_imm_T1, Op.POP_T3, Op.STR_imm_T3,
    Op.STR_imm_T4, Op.STRT_T1, Op.STRD_imm_T1, Op.PUSH_T3, Op.LDR_reg_T2, Op.STR_reg_T2,
    Op.LDR_lit_T2, Op.LDRD_lit_T1] ++ thumb32MultiMemOps ++
  [Op.LDREX_T1, Op.STREX_T1, Op.LDREXD_T1, Op.STREXD_T1]

/-- The loads and stores of words, of two words and of several words; `SWP` does both. -/
def wordOps : List Opcode :=
  [Op.LDRD_lit, Op.SWP] ++ (armWordOps ++ thumbWordOps ++ thumb32WordOps)

/-- What the access of a word adds to its base.  A multiple access goes on with the next words. -/
def disp (op : Opcode) (w : Word) : Disp :=
  let P := w.getLsbD 24
  let U := w.getLsbD 23
  if op ∈ [Op.LDR_imm, Op.STR_imm, Op.LDRT_a1, Op.STRT_a1, Op.PUSH_a2, Op.POP_a2, Op.LDR_lit] then
    .imm P U (w &&& 0xfff)
  else if op ∈ [Op.LDRD_imm, Op.STRD_imm, Op.LDRD_lit] then
    .imm P U (((w >>> 4) &&& 0xf0) ||| (w &&& 0xf))
  else if op ∈ [Op.LDR_reg, Op.STR_reg, Op.LDRT_a2, Op.STRT_a2] then
    .reg P U (rm w) (w.extractLsb' 5 2) (w.extractLsb' 7 5)
  else if op ∈ [Op.LDRD_reg, Op.STRD_reg] then .reg P U (rm w) 0 0
  else if op ∈ ldmOps ++ stmOps ++ [Op.PUSH_a1, Op.POP_a1] then .words (firstWord w)
  else if op ∈ [Op.LDR_imm_T1, Op.STR_imm_T1] then .words (getBitsValue w 6 10)
  else if op ∈ [Op.LDR_imm_T2, Op.STR_imm_T2, Op.LDR_lit_T1, Op.LDREX_T1, Op.STREX_T1] then
    .words (w &&& 0xff)
  else if op ∈ [Op.LDR_reg_T1, Op.STR_reg_T1] then .reg true true (getBitsValue w 6 8) 0 0
  else if op = Op.PUSH_T then .words (-regCount (w &&& 0x1ff))
  else if op ∈ [Op.LDR_imm_T3, Op.STR_imm_T3] then .imm true true (w &&& 0xfff)
  else if op = Op.LDR_lit_T2 then .imm true U (w &&& 0xfff)
  else if op ∈ [Op.LDR_imm_T4, Op.STR_imm_T4, Op.LDRT_T1, Op.STRT_T1, Op.POP_T3, Op.PUSH_T3] then
    .imm (w.getLsbD 10) (w.getLsbD 9) (w &&& 0xff)
  else if op ∈ [Op.LDRD_imm_T1, Op.STRD_imm_T1, Op.LDRD_lit_T1] then
    .words (indexed P U (w &&& 0xff))
  else if op ∈ [Op.LDR_reg_T2, Op.STR_reg_T2] then
    .reg true true (rm w) 0 ((w.extractLsb' 4 2).setWidth 5)
  else if op ∈ [Op.LDMDB_T1, Op.STMDB_T1, Op.PUSH_T2] then .words (-regCount (w &&& 0xffff))
  -- `LDM`, `STM` and `POP` of Thumb, and the other exclusive accesses, start at the base
  else .words 0

/-- The base register of an access; the literal accesses have the program counter. -/
def accessBase (op : Opcode) (w : Word) : Option Word :=
  if op ∈ [Op.LDR_lit, Op.LDRD_lit, Op.LDR_lit_T1, Op.LDR_lit_T2, Op.LDRD_lit_T1] then none
  else if op ∈ pushOps ++ popOps ++ [Op.LDR_imm_T2, Op.STR_imm_T2, Op.POP_T, Op.PUSH_T] then
    some R_SP
  else if op ∈ [Op.LDR_imm_T1, Op.STR_imm_T1, Op.LDR_reg_T1, Op.STR_reg_T1] then
    some (getBitsValue w 3 5)
  else if op ∈ [Op.LDM_T1, Op.STM_T1] then some (getBitsValue w 8 10)
  else some (rn w)

/-- The address of an access, or of the first word of several, in the state `c` of the core with
`r15` reading as `pc`. -/
def accessAddress (op : Opcode) (w pc : Word) (c : Arm.Cpu) : Word :=
  (accessBase op w).elim (pc &&& ~~~3) (fun n => c.regs (asmReg n)) +
    (disp op w).value (fun m => c.regs (asmReg m)) c.apsr.c

lemma wordAligned_indexed {index add : Bool} {x y : Word} (h : x &&& 3 = y &&& 3) :
    WordAligned (indexed index add x) ↔ WordAligned (indexed index add y) := by
  unfold indexed
  split
  · split
    · exact wordAligned_congr h
    · rw [wordAligned_neg_iff, wordAligned_neg_iff]
      exact wordAligned_congr h
  · exact Iff.rfl

lemma wordAligned_pc (pc : Word) : WordAligned (pc &&& ~~~3) := by
  unfold WordAligned
  rw [BitVec.and_assoc]
  exact BitVec.and_zero

/-! ## The base register after the prelude -/

section Prelude

variable {o : GenOption} {memData : Word} {c : Arm.Cpu} {n : Word}

/-- The lines of `gen_pre_instr_for_mem_base` put `mem_data + base` in the base register. -/
lemma regs_preInstrLines (hn : n < 15) (base : Word) :
    (execLines memData c (preInstrLines o n base)).regs (asmReg n) = memData + base := by
  have htmp := asmReg_ne_scratch hn
  unfold preInstrLines
  generalize (if n ≠ 0 then 0 else 1 : Word) = tmp at htmp ⊢
  dsimp only
  split
  all_goals simp [execLine, Line.asm?, Asm.op?, Arm.Op.exec, Arm.Cpu.set, Arm.Operand.value, htmp]

/-- The base value is a multiple of four, and so is the label. -/
lemma wordAligned_base (hmem : WordAligned memData) : WordAligned (memData + 0x600000) :=
  (wordAligned_add_iff hmem).mpr (by decide)

end Prelude

/-! ## What the generators emit without memory fixing -/

/-- The generator leaves the word and appends the lines `ls`. -/
structure Appends (ls : List Line) (s s' : GenState) : Prop where
  raw : s'.rawInstr = s.rawInstr
  lines : s'.instrBuf = s.instrBuf ++ ls

lemma Appends.setOprandInit {ls : List Line} {s : GenState} {r : InstrStatus × GenState}
    (h : Appends ls s r.2) : Appends ls s (Rit.setOprandInit r).2 := ⟨h.raw, h.lines⟩

/-- The value loaded into an offset register that the access shifts as encoded. -/
def offsetVal (s : GenState) (type : BitVec 2) (amount : BitVec 5) : Word :=
  (randMemOffset (s.uninit 0) (type.setWidth 32) (passedAmount type amount) s.nextRand).1

lemma genPreInstrForMemBase_appends {s : GenState} (halign : s.optStat .allowUnalignMem = false)
    {n : Word} (hn : n ≠ R_PC) :
    genPreInstrForMemBase n s =
      (0x600000, s.insertInstrs (preInstrLines s.options n 0x600000)) := by
  unfold genPreInstrForMemBase
  rw [if_neg hn]
  simp [halign]

section Tails

variable {s : GenState} (hnofix : s.optStat .notAllowFixMem = true)
  (halign : s.optStat .allowUnalignMem = false)

include hnofix halign

lemma immTail_appends {n : Word} (hn : n ≠ R_PC) (dual half word : Bool) {status : InstrStatus}
    (hst : status = .valid) :
    Appends (preInstrLines s.options n 0x600000) s (immTail n dual half word status s).2 := by
  subst hst
  unfold immTail
  simp only [reduceCtorEq, if_false, hnofix, not_true_eq_false,
    genPreInstrForMemBase_appends halign hn]
  exact ⟨rfl, rfl⟩

lemma multiTail_appends {n : Word} (hn : n ≠ R_PC) {status : InstrStatus} (hst : status = .valid) :
    Appends (preInstrLines s.options n 0x600000) s (multiTail n status s).2 := by
  subst hst
  unfold multiTail
  simp only [reduceCtorEq, if_false, hnofix, not_true_eq_false,
    genPreInstrForMemBase_appends halign hn]
  exact ⟨rfl, rfl⟩

lemma regTail_appends {n : Word} (hn : n ≠ R_PC) (m shiftT shiftN : Word)
    (shifted dual half word : Bool) {status : InstrStatus} (hst : status = .valid) :
    Appends (preInstrLines s.options n 0x600000 ++
        [.inst (.ldr m (randMemOffset (s.uninit 0) shiftT shiftN s.nextRand).1)]) s
      (regTail n m shiftT shiftN shifted dual half word status s).2 := by
  subst hst
  unfold regTail
  simp only [reduceCtorEq, if_false, hnofix, not_true_eq_false,
    genPreInstrForMemBase_appends halign hn]
  obtain ⟨hval, hraw, hbuf⟩ := getRandMemOffset_frame shiftT shiftN
    (s.insertInstrs (preInstrLines s.options n 0x600000))
  generalize getRandMemOffset shiftT shiftN
    (s.insertInstrs (preInstrLines s.options n 0x600000)) = res at hval hraw hbuf ⊢
  refine ⟨hraw, ?_⟩
  rw [insertInstrs, hval, hbuf, insertInstrs, List.append_assoc]
  rfl

lemma thumbMemImm_appends {n : Word} (hn : n ≠ R_PC) (word half : Bool) :
    Appends (preInstrLines s.options n 0x600000) s (thumbMemImm n word half s).2 := by
  unfold thumbMemImm
  simp only [if_false, hnofix, not_true_eq_false, genPreInstrForMemBase_appends halign hn]
  exact ⟨rfl, rfl⟩

/-- The line loads the shifted offset, which is the register value for a shift by zero. -/
lemma thumbMemReg_appends {n m : Word} (hn : n ≠ R_PC) (hmn : m ≠ n) (word half : Bool) :
    Appends (preInstrLines s.options n 0x600000 ++ [.inst (.ldr m (offsetVal s 0 0))]) s
      (thumbMemReg n m word half s).2 := by
  unfold thumbMemReg
  simp only [if_neg hmn, hnofix, not_true_eq_false, if_false,
    genPreInstrForMemBase_appends halign hn]
  obtain ⟨hval, hraw, hbuf⟩ := getRandMemOffset_frame 0 0
    (s.insertInstrs (preInstrLines s.options n 0x600000))
  generalize getRandMemOffset 0 0
    (s.insertInstrs (preInstrLines s.options n 0x600000)) = res at hval hraw hbuf ⊢
  have hsame : res.1.2 = offsetVal s 0 0 := by
    rw [hval]
    exact BitVec.shiftLeft_zero _
  refine ⟨hraw, ?_⟩
  rw [insertInstrs, hsame, hbuf, insertInstrs, List.append_assoc]

lemma thumb32Base_appends {n : Word} (hn : n ≠ R_PC) (forceAlign : Bool) :
    thumb32Base n forceAlign s = s.insertInstrs (preInstrLines s.options n 0x600000) := by
  unfold thumb32Base
  simp only [hnofix, not_true_eq_false, if_false, genPreInstrForMemBase_appends halign hn]

end Tails

/-! ## The accesses -/

/-- The displacement is a shifted register. -/
def Disp.isReg : Disp → Bool
  | .reg .. => true
  | _ => false

/-- The lines that come before the word of an access. -/
inductive Prepared (op : Opcode) (s : GenState) : List Line → Prop
  /-- The base register is loaded. -/
  | base {o : GenOption} {n : Word} (hbase : accessBase op s.rawInstr = some n) (hn : n < 15)
      (hdisp : (disp op s.rawInstr).isReg = false) : Prepared op s (preInstrLines o n 0x600000)
  /-- The base register and then the offset register are loaded. -/
  | offset {o : GenOption} {n m : Word} {index add : Bool} {type : BitVec 2} {amount : BitVec 5}
      {l : Line} (hbase : accessBase op s.rawInstr = some n) (hn : n < 15)
      (hdisp : disp op s.rawInstr = .reg index add m type amount) (hm : m < 16) (hmn : m ≠ n)
      (hl : l = .inst (.ldr m (offsetVal s type amount)) ∨
        l = .inst (.ldrW m (offsetVal s type amount))) :
      Prepared op s (preInstrLines o n 0x600000 ++ [l])
  /-- The bits of the base register are forced: the exclusive accesses of ARM. -/
  | forced {o : GenOption} {n : Word} (hbase : accessBase op s.rawInstr = some n) (hn : n < 15)
      (hdisp : (disp op s.rawInstr).isReg = false) : Prepared op s (fixMemBaseLines o n true)
  /-- The base is the program counter. -/
  | literal (hbase : accessBase op s.rawInstr = none)
      (hdisp : (disp op s.rawInstr).isReg = false) : Prepared op s []

section Accesses

variable {op : Opcode} {s : GenState} {w : Word}

lemma field_lt (w : Word) {lo hi : ℕ} (hlo : lo ≤ hi) (hhi : hi < 31) :
    (getBitsValue w lo hi).toNat < 2 ^ (hi - lo + 1) := by
  rw [getBitsValue_eq_extractLsb w hlo hhi, BitVec.toNat_setWidth]
  exact Nat.lt_of_le_of_lt (Nat.mod_le _ _) (BitVec.isLt _)

lemma rn_lt_of_ne_pc (hpc : rn w ≠ R_PC) : rn w < 15 := by
  have hlt : (rn w).toNat < 2 ^ 4 := field_lt w (by decide) (by decide)
  unfold R_PC at hpc
  bv_omega

lemma rm_lt (w : Word) : rm w < 16 := by
  have hlt : (rm w).toNat < 2 ^ 4 := field_lt w (by decide) (by decide)
  bv_omega

lemma low_lt (w : Word) {lo : ℕ} (hlo : lo + 2 < 31) : getBitsValue w lo (lo + 2) < 8 := by
  have hlt : (getBitsValue w lo (lo + 2)).toNat < 2 ^ (lo + 2 - lo + 1) :=
    field_lt w (by omega) hlo
  rw [Nat.add_sub_cancel_left] at hlt
  bv_omega

/-- The accesses of one word of ARM with a register offset, which is shifted, and those of two. -/
abbrev shiftWordOps : List Opcode := [Op.LDR_reg, Op.STR_reg, Op.LDRT_a2, Op.STRT_a2]

abbrev dualRegOps : List Opcode := [Op.LDRD_reg, Op.STRD_reg]

/-- The accesses with a register offset. -/
def regDispOps : List Opcode :=
  [Op.LDR_reg, Op.STR_reg, Op.LDRT_a2, Op.STRT_a2, Op.LDRD_reg, Op.STRD_reg, Op.LDR_reg_T1,
    Op.STR_reg_T1, Op.LDR_reg_T2, Op.STR_reg_T2]

lemma isReg_disp (hop : op ∉ regDispOps) (w : Word) : (disp op w).isReg = false := by
  have hsub {l : List Opcode} (hl : l ⊆ regDispOps) : op ∉ l := fun h => hop (hl h)
  have hite {c : Prop} [Decidable c] {a b : Disp} (ha : a.isReg = false) (hb : b.isReg = false) :
      (if c then a else b).isReg = false := by
    split
    · exact ha
    · exact hb
  unfold disp
  dsimp only
  rw [if_neg (hsub (l := shiftWordOps) (by decide)), if_neg (hsub (l := dualRegOps) (by decide)),
    if_neg (hsub (l := [Op.LDR_reg_T1, Op.STR_reg_T1]) (by decide)),
    if_neg (hsub (l := [Op.LDR_reg_T2, Op.STR_reg_T2]) (by decide))]
  exact hite rfl (hite rfl (hite rfl (hite rfl (hite rfl (hite rfl (hite rfl (hite rfl
    (hite rfl (hite rfl (hite rfl rfl))))))))))

/-- The accesses whose base register stands in bits 16 to 19. -/
def rnOps : List Opcode :=
  [Op.LDR_imm, Op.STR_imm, Op.LDRT_a1, Op.STRT_a1, Op.LDRD_imm, Op.STRD_imm, Op.LDR_reg, Op.STR_reg,
    Op.LDRT_a2, Op.STRT_a2, Op.LDRD_reg, Op.STRD_reg] ++ ldmOps ++ stmOps ++
  [Op.LDREX, Op.LDREXD, Op.STREX, Op.STREXD] ++
  [Op.LDR_imm_T3, Op.LDR_imm_T4, Op.LDRT_T1, Op.LDRD_imm_T1, Op.POP_T3, Op.STR_imm_T3,
    Op.STR_imm_T4, Op.STRT_T1, Op.STRD_imm_T1, Op.PUSH_T3, Op.LDR_reg_T2, Op.STR_reg_T2] ++
  thumb32MultiMemOps ++ [Op.LDREX_T1, Op.STREX_T1, Op.LDREXD_T1, Op.STREXD_T1]

lemma accessBase_rn (hop : op ∈ rnOps) (w : Word) : accessBase op w = some (rn w) := by
  have hrow : ∀ op ∈ rnOps,
      op ∉ [Op.LDR_lit, Op.LDRD_lit, Op.LDR_lit_T1, Op.LDR_lit_T2, Op.LDRD_lit_T1] ∧
      op ∉ pushOps ++ popOps ++ [Op.LDR_imm_T2, Op.STR_imm_T2, Op.POP_T, Op.PUSH_T] ∧
      op ∉ [Op.LDR_imm_T1, Op.STR_imm_T1, Op.LDR_reg_T1, Op.STR_reg_T1] ∧
      op ∉ [Op.LDM_T1, Op.STM_T1] := by decide
  obtain ⟨h1, h2, h3, h4⟩ := hrow op hop
  rw [accessBase, if_neg h1, if_neg h2, if_neg h3, if_neg h4]

lemma Prepared.rnBase (hop : op ∈ rnOps) (hreg : op ∉ regDispOps) (hpc : rn s.rawInstr ≠ R_PC)
    (o : GenOption) : Prepared op s (preInstrLines o (rn s.rawInstr) 0x600000) :=
  .base (accessBase_rn hop _) (rn_lt_of_ne_pc hpc) (isReg_disp hreg _)

/-- A shifted register offset of ARM: the decoded shift is the one the architecture reads. -/
lemma Prepared.armOffset (hop : op ∈ shiftWordOps)
    (hpc : rn s.rawInstr ≠ R_PC) (hmn : rm s.rawInstr ≠ rn s.rawInstr) {opnd : Opnd}
    (hopnd : opnd = ⟨7, 11, 5, 6, .shiftImm⟩) (o : GenOption) :
    Prepared op s (preInstrLines o (rn s.rawInstr) 0x600000 ++
      [.inst (.ldr (rm s.rawInstr) (randMemOffset (s.uninit 0)
        (decodeShift true s.rawInstr opnd).2 (decodeShift true s.rawInstr opnd).1
        s.nextRand).1)]) := by
  have hrn : ∀ op ∈ shiftWordOps, op ∈ rnOps ∧
      op ∉ [Op.LDR_imm, Op.STR_imm, Op.LDRT_a1, Op.STRT_a1, Op.PUSH_a2, Op.POP_a2, Op.LDR_lit] ∧
      op ∉ [Op.LDRD_imm, Op.STRD_imm, Op.LDRD_lit] := by decide
  obtain ⟨hmem, h1, h2⟩ := hrn op hop
  have hdisp : disp op s.rawInstr = .reg (s.rawInstr.getLsbD 24) (s.rawInstr.getLsbD 23)
      (rm s.rawInstr) (s.rawInstr.extractLsb' 5 2) (s.rawInstr.extractLsb' 7 5) := by
    rw [disp, if_neg h1, if_neg h2, if_pos hop]
  refine .offset (accessBase_rn hmem _) (rn_lt_of_ne_pc hpc) hdisp (rm_lt _) hmn (.inl ?_)
  rw [hopnd, decodeShift_eq]
  rfl

/-- The register offset of a dual access is not shifted. -/
lemma Prepared.dualOffset (hop : op ∈ dualRegOps)
    (hpc : rn s.rawInstr ≠ R_PC) (hmn : rm s.rawInstr ≠ rn s.rawInstr) (opnd : Opnd)
    (o : GenOption) :
    Prepared op s (preInstrLines o (rn s.rawInstr) 0x600000 ++
      [.inst (.ldr (rm s.rawInstr) (randMemOffset (s.uninit 0)
        (decodeShift false s.rawInstr opnd).2 (decodeShift false s.rawInstr opnd).1
        s.nextRand).1)]) := by
  have hrn : ∀ op ∈ dualRegOps, op ∈ rnOps ∧
      op ∉ [Op.LDR_imm, Op.STR_imm, Op.LDRT_a1, Op.STRT_a1, Op.PUSH_a2, Op.POP_a2, Op.LDR_lit] ∧
      op ∉ [Op.LDRD_imm, Op.STRD_imm, Op.LDRD_lit] ∧ op ∉ shiftWordOps := by decide
  obtain ⟨hmem, h1, h2, h3⟩ := hrn op hop
  have hdisp : disp op s.rawInstr = .reg (s.rawInstr.getLsbD 24) (s.rawInstr.getLsbD 23)
      (rm s.rawInstr) 0 0 := by
    rw [disp, if_neg h1, if_neg h2, if_neg h3, if_pos hop]
  exact .offset (accessBase_rn hmem _) (rn_lt_of_ne_pc hpc) hdisp (rm_lt _) hmn (.inl rfl)

/-- The register-offset accesses refuse an offset register that is the base. -/
lemma regStatus_ne {o : GenOption} :
    (∀ op ∈ ldRegOps, ldRegStatus op o w = .valid → rm w ≠ rn w) ∧
      (∀ op ∈ ldtA2Ops, ldtA2Status op w = .valid → rm w ≠ rn w) ∧
      (∀ op ∈ stRegOps, stRegStatus op o w = .valid → rm w ≠ rn w) ∧
      ∀ op ∈ sttA2Ops, sttA2Status op w = .valid → rm w ≠ rn w := by
  refine ⟨fun op hop h => ?_, fun op hop h => ?_, fun op hop h => ?_, fun op hop h => ?_⟩
  all_goals
    simp only [ldRegStatus, ldtA2Status, stRegStatus, sttA2Status, InstrStatus.ite_eq_valid, ne_eq,
      reduceCtorEq, not_false_eq_true] at h
  iterate 2
    · rw [getRegnum_gprAt_16 (memSlots.1 op (by simp [hop])).2,
        getRegnum_gprAt_0 (memSlots.2.2.1 op (by simp [hop]))] at h
      exact h.1
  iterate 2
    · rw [getRegnum_gprAt_16 (memSlots.2.1 op (by simp [hop])).2,
        getRegnum_gprAt_0 (memSlots.2.2.2.1 op (by simp [hop]))] at h
      exact h.1

/-- The generator's lines prepare the access. -/
def Prepares (op : Opcode) (s s' : GenState) : Prop := ∃ ls, Prepared op s ls ∧ Appends ls s s'

lemma Prepares.setOprandInit {r : InstrStatus × GenState} (h : Prepares op s r.2) :
    Prepares op s (Rit.setOprandInit r).2 := by
  obtain ⟨ls, hls, happends⟩ := h
  exact ⟨ls, hls, happends.setOprandInit⟩

section NoFix

variable (hnofix : s.optStat .notAllowFixMem = true) (halign : s.optStat .allowUnalignMem = false)

include hnofix halign

/-! ### ARM -/

/-- An access of ARM with an immediate offset, from the equation of its generator. -/
lemma immTail_prepares (hop : op ∈ rnOps) (hreg : op ∉ regDispOps) {n : Word}
    {dual half word : Bool} {status : InstrStatus}
    (hgen : genArmInstr op s = setOprandInit (immTail n dual half word status s))
    (hn : n = rn s.rawInstr) (hpc : status = .valid → rn s.rawInstr ≠ R_PC)
    (hvalid : (genArmInstr op s).1 = .valid) : Prepares op s (genArmInstr op s).2 := by
  subst hn
  rw [hgen] at hvalid ⊢
  have hst : status = .valid := immTail_valid hvalid
  have happends := immTail_appends hnofix halign (hpc hst) dual half word hst
  exact Prepares.setOprandInit ⟨_, .rnBase hop hreg (hpc hst) s.options, happends⟩

lemma multiTail_prepares (hreg : op ∉ regDispOps) {n : Word} {status : InstrStatus}
    (hgen : genArmInstr op s = setOprandInit (multiTail n status s))
    (hbase : accessBase op s.rawInstr = some n) (hn : status = .valid → n < 15)
    (hvalid : (genArmInstr op s).1 = .valid) : Prepares op s (genArmInstr op s).2 := by
  rw [hgen] at hvalid ⊢
  have hst : status = .valid := multiTail_valid hvalid
  have hpc : n ≠ R_PC := by
    rintro rfl
    exact absurd (hn hst) (by decide)
  have happends := multiTail_appends hnofix halign hpc hst
  exact Prepares.setOprandInit ⟨_, .base hbase (hn hst) (isReg_disp hreg _), happends⟩

/-- An access of ARM with a register offset, which is shifted if one word is accessed. -/
lemma regTail_prepares {shifted : Bool}
    (hop : if shifted then op ∈ shiftWordOps else op ∈ dualRegOps) {n m : Word} {opnd : Opnd}
    (hopnd : op ∈ armShiftedOps → opnd = ⟨7, 11, 5, 6, .shiftImm⟩) {dual half word : Bool}
    {status : InstrStatus}
    (hgen : genArmInstr op s = setOprandInit (regTail n m (decodeShift shifted s.rawInstr opnd).2
      (decodeShift shifted s.rawInstr opnd).1 shifted dual half word status s))
    (hn : n = rn s.rawInstr) (hm : m = rm s.rawInstr)
    (hne : status = .valid → rn s.rawInstr ≠ R_PC ∧ rm s.rawInstr ≠ rn s.rawInstr)
    (hvalid : (genArmInstr op s).1 = .valid) : Prepares op s (genArmInstr op s).2 := by
  subst hn hm
  rw [hgen] at hvalid ⊢
  have hst : status = .valid := regTail_valid hvalid
  obtain ⟨hpc, hmn⟩ := hne hst
  have happends := regTail_appends hnofix halign hpc (rm s.rawInstr)
    (decodeShift shifted s.rawInstr opnd).2 (decodeShift shifted s.rawInstr opnd).1
    shifted dual half word hst
  cases shifted with
  | true =>
    have hmem : ∀ op ∈ shiftWordOps, op ∈ armShiftedOps := by decide
    exact Prepares.setOprandInit
      ⟨_, .armOffset hop hpc hmn (hopnd (hmem op hop)) s.options, happends⟩
  | false => exact Prepares.setOprandInit ⟨_, .dualOffset hop hpc hmn opnd s.options, happends⟩

omit hnofix halign in
/-- The exclusive accesses force the base register whatever the options say. -/
lemma exclusive_prepares (hop : op ∈ rnOps) (hreg : op ∉ regDispOps) {n : Word}
    {status : InstrStatus} (hgen : genArmInstr op s = (status, fixMemBase n true s))
    (hn : n = rn s.rawInstr) (hpc : status = .valid → rn s.rawInstr ≠ R_PC)
    (hvalid : (genArmInstr op s).1 = .valid) : Prepares op s (genArmInstr op s).2 := by
  subst hn
  rw [hgen] at hvalid ⊢
  exact ⟨_, .forced (accessBase_rn hop _) (rn_lt_of_ne_pc (hpc hvalid)) (isReg_disp hreg _),
    ⟨rfl, rfl⟩⟩

omit hnofix halign in
/-- The registers of the loads and of the stores. -/
lemma ldSlots (hop : op ∈ ldImmOps ++ ldtA1Ops ++ ldRegOps ++ ldtA2Ops ++ ldLitOps ++ ldexOps) :
    getRegnum s.rawInstr (glbInstrTlb op).input0 = rn s.rawInstr :=
  getRegnum_gprAt_16 (memSlots.1 op hop).2

omit hnofix halign in
lemma stSlots (hop : op ∈ stImmOps ++ sttA1Ops ++ stRegOps ++ sttA2Ops) :
    getRegnum s.rawInstr (glbInstrTlb op).input1 = rn s.rawInstr :=
  getRegnum_gprAt_16 (memSlots.2.1 op hop).2

lemma genArmInstr_prepares_imm
    (hop : op ∈ [Op.LDR_imm, Op.LDRD_imm, Op.LDRT_a1, Op.STR_imm, Op.STRD_imm, Op.STRT_a1])
    (hvalid : (genArmInstr op s).1 = .valid) : Prepares op s (genArmInstr op s).2 := by
  have hlists : ∀ op ∈ [Op.LDR_imm, Op.LDRD_imm, Op.LDRT_a1, Op.STR_imm, Op.STRD_imm, Op.STRT_a1],
      op ∈ rnOps ∧ op ∉ regDispOps ∧
      (op ∈ ldImmOps ∨ op ∈ ldtA1Ops ∨ op ∈ stImmOps ∨ op ∈ sttA1Ops) := by decide
  obtain ⟨hrn, hreg, h | h | h | h⟩ := hlists op hop
  · exact immTail_prepares hnofix halign hrn hreg (genArmInstr_ldImm s h) (ldSlots (by simp [h]))
      (fun hst => (ldImmStatus_valid h hst).1) hvalid
  · exact immTail_prepares hnofix halign hrn hreg (genArmInstr_ldtA1 s h) (ldSlots (by simp [h]))
      (fun hst => (ldtA1Status_valid h hst).1) hvalid
  · exact immTail_prepares hnofix halign hrn hreg (genArmInstr_stImm s h) (stSlots (by simp [h]))
      (fun hst => (stImmStatus_valid h hst).1) hvalid
  · exact immTail_prepares hnofix halign hrn hreg (genArmInstr_sttA1 s h) (stSlots (by simp [h]))
      (fun hst => (sttA1Status_valid h hst).1) hvalid

lemma genArmInstr_prepares_reg
    (hop : op ∈ [Op.LDR_reg, Op.LDRD_reg, Op.LDRT_a2, Op.STR_reg, Op.STRD_reg, Op.STRT_a2])
    (hvalid : (genArmInstr op s).1 = .valid) : Prepares op s (genArmInstr op s).2 := by
  have hlists : ∀ op ∈ [Op.LDR_reg, Op.LDRD_reg, Op.LDRT_a2, Op.STR_reg, Op.STRD_reg, Op.STRT_a2],
      (op ∈ ldRegOps ∧ if op ∈ [Op.LDR_reg, Op.LDRB_reg] then op ∈ shiftWordOps
        else op ∈ dualRegOps) ∨
      (op ∈ ldtA2Ops ∧ if op ∈ [Op.LDRT_a2, Op.LDRBT_a2] then op ∈ shiftWordOps
        else op ∈ dualRegOps) ∨
      (op ∈ stRegOps ∧ if op ∈ [Op.STR_reg, Op.STRB_reg] then op ∈ shiftWordOps
        else op ∈ dualRegOps) ∨
      (op ∈ sttA2Ops ∧ if op ∈ [Op.STRT_a2, Op.STRBT_a2] then op ∈ shiftWordOps
        else op ∈ dualRegOps) := by decide
  obtain ⟨h, hsh⟩ | ⟨h, hsh⟩ | ⟨h, hsh⟩ | ⟨h, hsh⟩ := hlists op hop
  · exact regTail_prepares hnofix halign (by simpa using hsh) (shiftSlots.1 op (by simp [h]))
      (genArmInstr_ldReg s h) (ldSlots (by simp [h]))
      (getRegnum_gprAt_0 (memSlots.2.2.1 op (by simp [h])))
      (fun hst => ⟨(ldRegStatus_valid h hst).1, regStatus_ne.1 op h hst⟩) hvalid
  · exact regTail_prepares hnofix halign (by simpa using hsh) (shiftSlots.1 op (by simp [h]))
      (genArmInstr_ldtA2 s h) (ldSlots (by simp [h]))
      (getRegnum_gprAt_0 (memSlots.2.2.1 op (by simp [h])))
      (fun hst => ⟨(ldtA2Status_valid h hst).1, (regStatus_ne (o := s.options)).2.1 op h hst⟩)
      hvalid
  · exact regTail_prepares hnofix halign (by simpa using hsh) (shiftSlots.2 op (by simp [h]))
      (genArmInstr_stReg s h) (stSlots (by simp [h]))
      (getRegnum_gprAt_0 (memSlots.2.2.2.1 op (by simp [h])))
      (fun hst => ⟨(stRegStatus_valid h hst).1, regStatus_ne.2.2.1 op h hst⟩) hvalid
  · exact regTail_prepares hnofix halign (by simpa using hsh) (shiftSlots.2 op (by simp [h]))
      (genArmInstr_sttA2 s h) (stSlots (by simp [h]))
      (getRegnum_gprAt_0 (memSlots.2.2.2.1 op (by simp [h])))
      (fun hst => ⟨(sttA2Status_valid h hst).1, (regStatus_ne (o := s.options)).2.2.2 op h hst⟩)
      hvalid

lemma genArmInstr_prepares_multi (hop : op ∈ ldmOps ++ stmOps ++ pushOps ++ popOps)
    (hvalid : (genArmInstr op s).1 = .valid) : Prepares op s (genArmInstr op s).2 := by
  have hlists : ∀ op ∈ ldmOps ++ stmOps ++ pushOps ++ popOps, op ∉ regDispOps ∧
      (op ∈ ldmOps ++ stmOps → op ∈ rnOps) := by decide
  obtain ⟨hreg, hrn⟩ := hlists op hop
  have hsp (h : op ∈ pushOps ++ popOps) : accessBase op s.rawInstr = some R_SP := by
    have hlit : ∀ op ∈ pushOps ++ popOps,
        op ∉ [Op.LDR_lit, Op.LDRD_lit, Op.LDR_lit_T1, Op.LDR_lit_T2, Op.LDRD_lit_T1] := by decide
    rw [accessBase, if_neg (hlit op h), if_pos (List.mem_append_left _ h)]
  have hbase (h : op ∈ ldmOps ++ stmOps) : accessBase op s.rawInstr =
      some (getRegnum s.rawInstr (glbInstrTlb op).input0) := by
    rw [accessBase_rn (hrn h), getRegnum_gprAt_16 (memSlots.2.2.2.2.1 op h)]
  have hlt (h : op ∈ ldmOps ++ stmOps) (hpc : rn s.rawInstr ≠ R_PC) :
      getRegnum s.rawInstr (glbInstrTlb op).input0 < 15 := by
    rw [getRegnum_gprAt_16 (memSlots.2.2.2.2.1 op h)]
    exact rn_lt_of_ne_pc hpc
  simp only [List.mem_append] at hop
  rcases hop with ((h | h) | h) | h
  · have hmem : op ∈ ldmOps ++ stmOps := List.mem_append_left _ h
    exact multiTail_prepares hnofix halign hreg (genArmInstr_ldm s h) (hbase hmem)
      (fun hst => hlt hmem (ldmStatus_valid h hst).1) hvalid
  · have hmem : op ∈ ldmOps ++ stmOps := List.mem_append_right _ h
    exact multiTail_prepares hnofix halign hreg (genArmInstr_stm s h) (hbase hmem)
      (fun hst => hlt hmem (stmStatus_valid h hst)) hvalid
  · exact multiTail_prepares hnofix halign hreg (genArmInstr_push s h)
      (hsp (List.mem_append_left _ h)) (fun _ => by decide) hvalid
  · exact multiTail_prepares hnofix halign hreg (genArmInstr_pop s h)
      (hsp (List.mem_append_right _ h)) (fun _ => by decide) hvalid

lemma genArmInstr_prepares (hop : op ∈ armWordOps) (hvalid : (genArmInstr op s).1 = .valid) :
    Prepares op s (genArmInstr op s).2 := by
  have hlists : ∀ op ∈ armWordOps,
      op ∈ [Op.LDR_imm, Op.LDRD_imm, Op.LDRT_a1, Op.STR_imm, Op.STRD_imm, Op.STRT_a1] ∨
      op ∈ [Op.LDR_reg, Op.LDRD_reg, Op.LDRT_a2, Op.STR_reg, Op.STRD_reg, Op.STRT_a2] ∨
      op ∈ ldmOps ++ stmOps ++ pushOps ++ popOps ∨ op = Op.LDR_lit ∨
      op ∈ ldexOps ∧ op ∈ rnOps ∧ op ∉ regDispOps ∨
      op ∈ stexOps ∧ op ∈ rnOps ∧ op ∉ regDispOps := by decide
  rcases hlists op hop with h | h | h | rfl | ⟨h, hrn, hreg⟩ | ⟨h, hrn, hreg⟩
  · exact genArmInstr_prepares_imm hnofix halign h hvalid
  · exact genArmInstr_prepares_reg hnofix halign h hvalid
  · exact genArmInstr_prepares_multi hnofix halign h hvalid
  · rw [genArmInstr_ldLit s (by decide)]
    exact ⟨[], .literal rfl rfl, ⟨rfl, (List.append_nil _).symm⟩⟩
  · exact exclusive_prepares hrn hreg (genArmInstr_ldex s h) (ldSlots (by simp [h]))
      (fun hst => (ldexStatus_valid h hst).1) hvalid
  · exact exclusive_prepares hrn hreg (genArmInstr_stex s h)
      (getRegnum_gprAt_16 (memSlots.2.2.2.2.2 op h).2.2)
      (fun hst => (stexStatus_valid h hst).1) hvalid

/-! ### 16-bit Thumb -/

lemma thumbMemImm_prepares {n : Word} (hbase : accessBase op s.rawInstr = some n) (hn : n < 15)
    (hreg : op ∉ regDispOps) (word half : Bool) : Prepares op s (thumbMemImm n word half s).2 := by
  have hpc : n ≠ R_PC := by
    rintro rfl
    exact absurd hn (by decide)
  exact ⟨_, .base hbase hn (isReg_disp hreg _), thumbMemImm_appends hnofix halign hpc word half⟩

lemma thumbMemReg_prepares {n m : Word} (hbase : accessBase op s.rawInstr = some n) (hn : n < 8)
    (hdisp : disp op s.rawInstr = .reg true true m 0 0) (hm : m < 8) {word half : Bool}
    (hvalid : (thumbMemReg n m word half s).1 = .valid) :
    Prepares op s (thumbMemReg n m word half s).2 := by
  have hmn : m ≠ n := by
    rintro rfl
    rw [thumbMemReg, if_pos rfl] at hvalid
    cases hvalid
  have hpc : n ≠ R_PC := by
    rintro rfl
    exact absurd hn (by decide)
  exact ⟨_, .offset hbase (by bv_omega) hdisp (by bv_omega) hmn (.inl rfl),
    thumbMemReg_appends hnofix halign hpc hmn word half⟩

lemma genThumbMemInstr_prepares
    (hop : op ∈ [Op.LDR_imm_T1, Op.STR_imm_T1, Op.LDR_imm_T2, Op.STR_imm_T2, Op.LDR_reg_T1,
      Op.STR_reg_T1, Op.LDR_lit_T1]) (hvalid : (genThumbMemInstr op s).1 = .valid) :
    Prepares op s (genThumbMemInstr op s).2 := by
  have hrow : (glbInstrTlb Op.LDR_imm_T1).input0 = ⟨3, 5, 0, 0, .gpr⟩ ∧
      (glbInstrTlb Op.STR_imm_T1).input1 = ⟨3, 5, 0, 0, .gpr⟩ ∧
      (glbInstrTlb Op.LDR_imm_T2).input0 = ⟨0, 0, 13, 0, .gprConst⟩ ∧
      (glbInstrTlb Op.STR_imm_T2).input1 = ⟨0, 0, 13, 0, .gprConst⟩ ∧
      (glbInstrTlb Op.LDR_reg_T1).input0 = ⟨3, 5, 0, 0, .gpr⟩ ∧
      (glbInstrTlb Op.LDR_reg_T1).input1 = ⟨6, 8, 0, 0, .gpr⟩ ∧
      (glbInstrTlb Op.STR_reg_T1).input1 = ⟨3, 5, 0, 0, .gpr⟩ ∧
      (glbInstrTlb Op.STR_reg_T1).input2 = ⟨6, 8, 0, 0, .gpr⟩ := by decide +kernel
  obtain ⟨hld1, hst1, hld2, hst2, hldn, hldm, hstn, hstm⟩ := hrow
  have hlow : getBitsValue s.rawInstr 3 5 < 8 := low_lt _ (by decide)
  have hlow' : getBitsValue s.rawInstr 6 8 < 8 := low_lt _ (by decide)
  have hbase : getBitsValue s.rawInstr 3 5 < 15 := by bv_omega
  simp only [List.mem_cons, List.not_mem_nil, or_false] at hop
  rcases hop with rfl | rfl | rfl | rfl | rfl | rfl | rfl
  · rw [genThumbMemInstr, if_pos (by decide), hld1]
    exact (thumbMemImm_prepares hnofix halign rfl hbase (by decide) _ _).setOprandInit
  · rw [genThumbMemInstr, if_neg (by decide), if_pos (by decide), hst1]
    exact (thumbMemImm_prepares hnofix halign rfl hbase (by decide) _ _).setOprandInit
  · rw [genThumbMemInstr, if_pos (by decide), hld2]
    exact (thumbMemImm_prepares hnofix halign rfl (show (13 : Word) < 15 by decide)
      (by decide) _ _).setOprandInit
  · rw [genThumbMemInstr, if_neg (by decide), if_pos (by decide), hst2]
    exact (thumbMemImm_prepares hnofix halign rfl (show (13 : Word) < 15 by decide)
      (by decide) _ _).setOprandInit
  · rw [genThumbMemInstr, if_neg (by decide), if_neg (by decide), if_pos (by decide), hldn,
      hldm] at hvalid ⊢
    exact (thumbMemReg_prepares hnofix halign rfl hlow rfl hlow' hvalid).setOprandInit
  · rw [genThumbMemInstr, if_neg (by decide), if_neg (by decide), if_neg (by decide),
      if_pos (by decide), hstn, hstm] at hvalid ⊢
    exact (thumbMemReg_prepares hnofix halign rfl hlow rfl hlow' hvalid).setOprandInit
  · exact ⟨[], .literal rfl rfl, ⟨rfl, (List.append_nil _).symm⟩⟩

lemma genThumbMultiMemInstr_prepares (hop : op ∈ [Op.LDM_T1, Op.STM_T1, Op.POP_T, Op.PUSH_T]) :
    Prepares op s (genThumbMultiMemInstr op s).2 := by
  have hrow : (glbInstrTlb Op.LDM_T1).input0 = ⟨8, 10, 0, 0, .gpr⟩ ∧
      (glbInstrTlb Op.STM_T1).input0 = ⟨8, 10, 0, 0, .gpr⟩ := by decide +kernel
  obtain ⟨hldm, hstm⟩ := hrow
  have hlow : getBitsValue s.rawInstr 8 10 < 15 := by
    have hlt : getBitsValue s.rawInstr 8 10 < 8 := low_lt _ (by decide)
    bv_omega
  have hbase {n : Word} (hn : n < 15) :
      Appends (preInstrLines s.options n 0x600000) s (genPreInstrForMemBase n s).2 := by
    have hpc : n ≠ R_PC := by
      rintro rfl
      exact absurd hn (by decide)
    rw [genPreInstrForMemBase_appends halign hpc]
    exact ⟨rfl, rfl⟩
  have hgen : (genThumbMultiMemInstr op s).2 = (setOprandInit (.valid, (genPreInstrForMemBase
      (if op ∈ [Op.LDM_T1, Op.STM_T1] then getRegnum s.rawInstr (glbInstrTlb op).input0
        else R_SP) s).2)).2 := by
    unfold genThumbMultiMemInstr
    simp only [if_pos hop, hnofix, not_true_eq_false, if_false]
    rfl
  rw [hgen]
  refine Prepares.setOprandInit ?_
  simp only [List.mem_cons, List.not_mem_nil, or_false] at hop
  rcases hop with rfl | rfl | rfl | rfl
  · rw [if_pos (by decide), hldm]
    exact ⟨_, .base rfl hlow rfl, hbase hlow⟩
  · rw [if_pos (by decide), hstm]
    exact ⟨_, .base rfl hlow rfl, hbase hlow⟩
  · rw [if_neg (by decide)]
    exact ⟨_, .base rfl (by decide) rfl, hbase (by decide)⟩
  · rw [if_neg (by decide)]
    exact ⟨_, .base rfl (by decide) rfl, hbase (by decide)⟩

/-! ### 32-bit Thumb -/

lemma thumb32Base_prepares (hop : op ∈ rnOps) (hreg : op ∉ regDispOps)
    (hpc : rn s.rawInstr ≠ R_PC) (forceAlign : Bool) :
    Prepares op s (thumb32Base (rn s.rawInstr) forceAlign s) := by
  refine ⟨_, .rnBase hop hreg hpc s.options, ?_⟩
  rw [thumb32Base_appends hnofix halign hpc]
  exact ⟨rfl, rfl⟩

/-- The accesses with a register offset, which is shifted left by at most three. -/
lemma genThumb32MemReg_prepares (hop : op ∈ [Op.LDR_reg_T2, Op.STR_reg_T2])
    (hvalid : (genThumb32MemReg op s).1 = .valid) : Prepares op s (genThumb32MemReg op s).2 := by
  have hrow : ∀ op ∈ [Op.LDR_reg_T2, Op.STR_reg_T2], op ∈ rnOps ∧ ∀ w, disp op w =
      .reg true true (rm w) 0 ((w.extractLsb' 4 2).setWidth 5) := by
    simp only [List.forall_mem_cons, List.not_mem_nil, false_imp_iff, implies_true, and_true]
    exact ⟨⟨by decide, fun w => rfl⟩, by decide, fun w => rfl⟩
  obtain ⟨hrn, hdisp⟩ := hrow op hop
  have hstatus : thumb32MemRegStatus op s.rawInstr = .valid := hvalid
  have hpc := (thumb32MemRegStatus_valid hstatus).1
  have hmn : rm s.rawInstr ≠ rn s.rawInstr := by
    intro h
    have hbits : getBitsValue s.rawInstr 16 19 = getBitsValue s.rawInstr 0 3 := h.symm
    simp [thumb32MemRegStatus, hbits] at hstatus
  refine ⟨_, .offset (o := s.options) (accessBase_rn hrn _) (rn_lt_of_ne_pc hpc) (hdisp _) (rm_lt _)
    hmn (.inr rfl), ?_⟩
  unfold genThumb32MemReg
  dsimp only
  have hbase : thumb32Base (getBitsValue s.rawInstr 16 19) false s = _ :=
    thumb32Base_appends hnofix halign hpc false
  rw [hbase]
  obtain ⟨hval, hraw, hbuf⟩ := getRandMemOffset_frame 0 (getBitsValue s.rawInstr 4 5)
    (s.insertInstrs (preInstrLines s.options (rn s.rawInstr) 0x600000))
  generalize getRandMemOffset 0 (getBitsValue s.rawInstr 4 5)
    (s.insertInstrs (preInstrLines s.options (rn s.rawInstr) 0x600000)) = res at hval hraw hbuf ⊢
  refine ⟨hraw, ?_⟩
  rw [insertInstrs, hval, hbuf, insertInstrs, List.append_assoc, leftAmount_eq]
  rfl

lemma genThumb32Instr_prepares (hop : op ∈ thumb32WordOps)
    (hvalid : (genThumb32Instr op s).1 = .valid) : Prepares op s (genThumb32Instr op s).2 := by
  have hrow : ∀ op ∈ thumb32WordOps,
      (op ∉ thumb32MemLitOps → op ∈ rnOps) ∧
      (op ∉ thumb32MemRegOps → op ∉ regDispOps) ∧
      (op ∈ thumb32MemRegOps → op ∈ [Op.LDR_reg_T2, Op.STR_reg_T2]) ∧
      (op ∈ thumb32MemLitOps → op ∈ [Op.LDR_lit, Op.LDRD_lit, Op.LDR_lit_T1, Op.LDR_lit_T2,
        Op.LDRD_lit_T1]) ∧
      (op ∈ thumb32MultiMemOps ∨ op ∈ thumb32LdImmOps ∨ op ∈ thumb32MemRegOps ∨
        op ∈ thumb32StImmOps ∨ op ∈ thumb32MemLitOps ∨ op ∈ thumb32MemExOps) := by decide
  have hdisjoint : ∀ op ∈ thumb32MultiMemOps ++ thumb32LdImmOps ++ thumb32StImmOps ++
      thumb32MemExOps, op ∉ thumb32MemLitOps ∧ op ∉ thumb32MemRegOps := by decide
  obtain ⟨hrn, hreg, hregOp, hlitOp, hgroup⟩ := hrow op hop
  unfold genThumb32Instr at hvalid ⊢
  dsimp only at hvalid ⊢
  by_cases hmulti : op ∈ thumb32MultiMemOps
  · rw [if_pos hmulti] at hvalid ⊢
    obtain ⟨hlit, hplain⟩ := hdisjoint op (by simp [hmulti])
    exact thumb32Base_prepares hnofix halign (hrn hlit) (hreg hplain)
      (thumb32MultiMemStatus_valid hvalid).1 true
  rw [if_neg hmulti] at hvalid ⊢
  by_cases hldImm : op ∈ thumb32LdImmOps
  · rw [if_pos hldImm] at hvalid ⊢
    obtain ⟨hlit, hplain⟩ := hdisjoint op (by simp [hldImm])
    exact thumb32Base_prepares hnofix halign (hrn hlit) (hreg hplain)
      (thumb32LdImmStatus_valid hvalid).1 _
  rw [if_neg hldImm] at hvalid ⊢
  by_cases hmemReg : op ∈ thumb32MemRegOps
  · rw [if_pos hmemReg] at hvalid ⊢
    exact genThumb32MemReg_prepares hnofix halign (hregOp hmemReg) hvalid
  rw [if_neg hmemReg] at hvalid ⊢
  by_cases hstImm : op ∈ thumb32StImmOps
  · rw [if_pos hstImm] at hvalid ⊢
    obtain ⟨hlit, hplain⟩ := hdisjoint op (by simp [hstImm])
    exact thumb32Base_prepares hnofix halign (hrn hlit) (hreg hplain)
      (thumb32StImmStatus_valid hvalid) _
  rw [if_neg hstImm] at hvalid ⊢
  by_cases hlit : op ∈ thumb32MemLitOps
  · rw [if_pos hlit]
    refine ⟨[], .literal ?_ (isReg_disp (hreg hmemReg) _), ⟨rfl, (List.append_nil _).symm⟩⟩
    rw [accessBase, if_pos (hlitOp hlit)]
  rw [if_neg hlit] at hvalid ⊢
  have hex : op ∈ thumb32MemExOps := by
    simpa [hmulti, hldImm, hmemReg, hstImm, hlit] using hgroup
  rw [if_pos hex] at hvalid ⊢
  exact thumb32Base_prepares hnofix halign (hrn hlit) (hreg hmemReg)
    (thumb32MemExStatus_valid hex hvalid).1 true

/-! ### The instruction sets -/

lemma genThumbInstr_prepares (hop : op ∈ thumbWordOps)
    (hvalid : (genThumbInstr op s).1 = .valid) : Prepares op s (genThumbInstr op s).2 := by
  have hlists : ∀ op ∈ thumbWordOps,
      op ∈ [Op.LDR_imm_T1, Op.STR_imm_T1, Op.LDR_imm_T2, Op.STR_imm_T2, Op.LDR_reg_T1,
          Op.STR_reg_T1, Op.LDR_lit_T1] ∧ op ∈ thumbLdImmOps ++ thumbLdRegOps ++
          [Op.LDR_lit_T1] ++ thumbStImmOps ++ thumbStRegOps ∨ op ∈ thumbMultiOps := by decide
  rcases hlists op hop with ⟨h, hmem⟩ | h
  · rw [genThumbInstr_mem s hmem] at hvalid ⊢
    exact genThumbMemInstr_prepares hnofix halign h hvalid
  · rw [genThumbInstr_multi s h]
    exact genThumbMultiMemInstr_prepares hnofix halign h

end NoFix

/-! ## The executed access -/

lemma Disp.value_eq {d : Disp} (h : d.isReg = false) (regs regs' : Word → Word)
    (carry carry' : Bool) : d.value regs carry = d.value regs' carry' := by
  cases d with
  | imm index add x => rfl
  | reg index add m type amount => cases h
  | words k => rfl

lemma execLine_ldr {l : Line} {m v memData : Word} (c : Arm.Cpu)
    (hl : l = .inst (.ldr m v) ∨ l = .inst (.ldrW m v)) :
    execLine memData c l = c.set (asmReg m) v := by
  rcases hl with rfl | rfl <;> rfl

/-- After the lines that prepare it, an access is aligned iff its displacement is.  The base
register then holds a multiple of four, and the offset register ends in the bits of the draw. -/
lemma Prepared.wordAligned_iff {ls : List Line} (h : Prepared op s ls) {memData : Word}
    (hmem : WordAligned memData) (hbase : accessBase op w = accessBase op s.rawInstr)
    (hdisp : disp op w = disp op s.rawInstr) (pc : Word) (c : Arm.Cpu) :
    WordAligned (accessAddress op w pc (execLines memData c ls)) ↔
      WordAligned ((disp op s.rawInstr).value (fun _ => s.nextRand) false) := by
  unfold accessAddress
  rw [hbase, hdisp]
  cases h with
  | base hb hn hd =>
    rw [hb, Option.elim_some, regs_preInstrLines hn, wordAligned_add_iff (wordAligned_base hmem),
      Disp.value_eq hd]
  | @offset o n m index add type amount l hb hn hd hm hmn hl =>
    have hne : asmReg n ≠ asmReg m := asmReg_ne (by bv_omega) hm hmn.symm
    rw [hb, hd, Option.elim_some, execLines_append, execLines_cons, execLines_nil,
      execLine_ldr _ hl]
    have hregn (c : Arm.Cpu) (v : Word) :
        (c.set (asmReg m) v).regs (asmReg n) = c.regs (asmReg n) := Function.update_of_ne hne _ _
    have hregm (c : Arm.Cpu) (v : Word) : (c.set (asmReg m) v).regs (asmReg m) = v :=
      Function.update_self _ _ _
    rw [hregn, regs_preInstrLines hn, wordAligned_add_iff (wordAligned_base hmem)]
    unfold Disp.value
    dsimp only
    rw [hregm]
    exact wordAligned_indexed (shiftImm_randMemOffset_and_three type amount _ (s.randStream 0) _)
  | @forced o n hb hn hd =>
    have haligned :
        WordAligned ((execLines memData c (fixMemBaseLines o n true)).regs (asmReg n)) :=
      (baseForced_fixMemBaseLines hn).aligned rfl
    rw [hb, Option.elim_some, wordAligned_add_iff haligned, Disp.value_eq hd]
  | literal hb hd =>
    rw [hb, Option.elim_none, wordAligned_add_iff (wordAligned_pc pc), Disp.value_eq hd]

lemma Prepares.wordAligned_iff {s' : GenState} (h : Prepares op s s') (hbuf : s.instrBuf = [])
    {memData : Word} (hmem : WordAligned memData) {l : Line}
    (hl : ∀ c, execLine memData c l = c) (pc : Word) (c : Arm.Cpu) :
    WordAligned (accessAddress op s'.rawInstr pc
        (execLines memData c (s'.insertInstrs [l]).instrBuf)) ↔
      WordAligned ((disp op s.rawInstr).value (fun _ => s.nextRand) false) := by
  obtain ⟨ls, hls, hraw, hlines⟩ := h
  have hexec : execLines memData c (s'.insertInstrs [l]).instrBuf = execLines memData c ls := by
    rw [insertInstrs, hlines, hbuf, List.nil_append, execLines_append, execLines_cons,
      execLines_nil, hl]
  rw [hexec]
  exact hls.wordAligned_iff hmem (congrArg _ hraw) (congrArg _ hraw) pc c

/-- The program counter of a literal `LDRD` is aligned, and its offset after the two bits are
cleared. -/
lemma wordAligned_LDRD_lit (w pc : Word) (c : Arm.Cpu) :
    WordAligned (accessAddress Op.LDRD_lit (clearBits w 0 1) pc c) := by
  have hclear : clearBits w 0 1 = w &&& 0xfffffffc := rfl
  have hlow (x : Word) : ((x >>> 4 &&& 0xf0) ||| ((w &&& 0xfffffffc) &&& 0xf)) &&& 3 = 0 &&& 3 := by
    rw [BitVec.and_or_distrib_right, BitVec.and_assoc, BitVec.and_assoc, BitVec.and_assoc]
    exact (congrArg₂ (· ||| ·) BitVec.and_zero BitVec.and_zero).trans (by decide)
  have hzero (index add : Bool) : WordAligned (indexed index add 0) := by
    cases index <;> cases add <;> decide
  have haddress : accessAddress Op.LDRD_lit (clearBits w 0 1) pc c = (pc &&& ~~~(3 : Word)) +
      indexed ((clearBits w 0 1).getLsbD 24) ((clearBits w 0 1).getLsbD 23)
        (((w &&& 0xfffffffc) >>> 4 &&& 0xf0) ||| ((w &&& 0xfffffffc) &&& 0xf)) := rfl
  rw [haddress, wordAligned_add_iff (wordAligned_pc pc), wordAligned_indexed (hlow _)]
  exact hzero _ _

/-- `SWP` forces its base register, after biasing the other two. -/
lemma genSwp_forced (hvalid : (genSwp Op.SWP s).1 = .valid) :
    rn s.rawInstr ≠ R_PC ∧ ∃ t, (genSwp Op.SWP s).2 = fixMemBase (rn s.rawInstr) true t ∧
      rn t.rawInstr = rn s.rawInstr ∧ t.instrBuf = s.instrBuf := by
  have hrow : (glbInstrTlb Op.SWP).input1 = gprAt 16 ∧
      (glbInstrTlb Op.SWP).output0.Under 0xf00f ∧ (glbInstrTlb Op.SWP).input0.Under 0xf00f := by
    decide +kernel
  obtain ⟨hn, hout, hin⟩ := hrow
  let t := (bias2 .allowBiasOpnd (glbInstrTlb Op.SWP).output0 (glbInstrTlb Op.SWP).input0
    (getRegnum s.rawInstr (glbInstrTlb Op.SWP).output0,
      getRegnum s.rawInstr (glbInstrTlb Op.SWP).input0) s).2
  refine ⟨?_, t, ?_, ?_, ?_⟩
  · simp [genSwp, getRegnum_gprAt_16 hn] at hvalid
    exact hvalid.1
  · -- the base is forced unless the status is `UNSUPPORTED`
    have hstate : (genSwp Op.SWP s).2 = if (genSwp Op.SWP s).1 ≠ .unsupported then
        fixMemBase (getRegnum s.rawInstr (glbInstrTlb Op.SWP).input1) true t else t := rfl
    rw [hstate, hvalid, if_pos (by decide), getRegnum_gprAt_16 hn]
  · have hwrites : Writes 0xf00f s t := bias2_writes fun _ => ⟨hout, hin⟩
    unfold rn
    rw [getBitsValue_eq_get _ (by decide) (by decide),
      getBitsValue_eq_get _ (by decide) (by decide)]
    exact get_congr (hwrites.raw.agreeOn (by decide))
  · show (bias2 _ _ _ _ s).2.instrBuf = _
    unfold bias2
    split <;> rfl

lemma wordAligned_SWP {memData : Word} (hbuf : s.instrBuf = [])
    (hvalid : (genSwp Op.SWP s).1 = .valid) {l : Line} (hl : ∀ c, execLine memData c l = c)
    (pc : Word) (c : Arm.Cpu) :
    WordAligned (accessAddress Op.SWP (genSwp Op.SWP s).2.rawInstr pc
      (execLines memData c ((genSwp Op.SWP s).2.insertInstrs [l]).instrBuf)) := by
  obtain ⟨hpc, t, hstate, hrn, hlines⟩ := genSwp_forced hvalid
  have haddress (c : Arm.Cpu) : accessAddress Op.SWP (fixMemBase (rn s.rawInstr) true t).rawInstr
      pc c = c.regs (asmReg (rn t.rawInstr)) + 4 * 0 := rfl
  have hexec : execLines memData c ((fixMemBase (rn s.rawInstr) true t).insertInstrs [l]).instrBuf =
      execLines memData c (fixMemBaseLines t.options (rn s.rawInstr) true) := by
    rw [insertInstrs, fixMemBase, insertInstrs, hlines, hbuf, List.nil_append, execLines_append,
      execLines_cons, execLines_nil, hl]
  have haligned : WordAligned ((execLines memData c
      (fixMemBaseLines t.options (rn s.rawInstr) true)).regs (asmReg (rn s.rawInstr))) :=
    (baseForced_fixMemBaseLines (rn_lt_of_ne_pc hpc)).aligned rfl
  rw [hstate, hexec, haddress, hrn]
  exact (wordAligned_add_iff haligned).mpr (wordAligned_four_mul 0)

section Validate

variable (hbuf : s.instrBuf = []) (hnofix : s.optStat .notAllowFixMem = true)
  (halign : s.optStat .allowUnalignMem = false) (hvalid : (validate op s).1 = .valid)

include hbuf hnofix halign hvalid

/-- A `VALID` access without memory fixing, the two exceptions apart. -/
lemma validate_wordAligned_iff (hop : op ∈ armWordOps ++ thumbWordOps ++ thumb32WordOps)
    {memData : Word} (hmem : WordAligned memData) (pc : Word) (c : Arm.Cpu) :
    WordAligned (accessAddress op (validate op s).2.rawInstr pc
        (execLines memData c (validate op s).2.instrBuf)) ↔
      WordAligned ((disp op s.rawInstr).value (fun _ => s.nextRand) false) := by
  have hrow : (∀ op ∈ armWordOps, op < SISA_OP_ARM_MAX) ∧
      (∀ op ∈ thumbWordOps, ¬ op < SISA_OP_ARM_MAX ∧ op < SISA_OP_THUMB_MAX) ∧
      ∀ op ∈ thumb32WordOps, ¬ op < SISA_OP_ARM_MAX ∧ ¬ op < SISA_OP_THUMB_MAX ∧
        op < SISA_OP_THUMB_32_MAX := by decide
  obtain ⟨harm, hthumb, hthumb32⟩ := hrow
  unfold validate at hvalid ⊢
  simp only [List.mem_append] at hop
  rcases hop with (h | h) | h
  · rw [if_pos (harm op h)] at hvalid ⊢
    exact (genArmInstr_prepares hnofix halign h hvalid).wordAligned_iff hbuf hmem
      (fun c => rfl) pc c
  · rw [if_neg (hthumb op h).1, if_pos (hthumb op h).2] at hvalid ⊢
    exact Prepares.wordAligned_iff
      (s := { s with options := { s.options with isa := .thumb } })
      (genThumbInstr_prepares hnofix halign h hvalid) hbuf hmem (fun c => rfl) pc c
  · rw [if_neg (hthumb32 op h).1, if_neg (hthumb32 op h).2.1, if_pos (hthumb32 op h).2.2]
      at hvalid ⊢
    exact Prepares.wordAligned_iff
      (s := { s with options := { s.options with isa := .thumb } })
      (genThumb32Instr_prepares hnofix halign h hvalid) hbuf hmem (fun c => rfl) pc c

end Validate

end Accesses

/-! ## `is_mem_align` -/

/-- With unaligned accesses not allowed the library accepts every address, and the old library the
addresses that are aligned; allowed, it is the other way round. -/
lemma isMemAlign_eq_iff {o : GenOption} {o' : Src.GenOption}
    (hsame : o.getOptStat .allowUnalignMem = o'.allowUnalignMem) (addr : Word) (alignBit : ℕ) :
    isMemAlign o addr alignBit = Src.isMemAlign o' addr alignBit ↔
      addr &&& (shl 1 alignBit - 1) = 0 := by
  unfold isMemAlign Src.isMemAlign
  rw [hsame]
  generalize o'.allowUnalignMem = allow
  cases allow <;> simp

/-- Word alignment without memory fixing and with unaligned accesses not allowed.  A `VALID` access
is aligned iff what it adds to its base is, the first draw standing for an offset register; a
literal `LDRD` always is.  The two libraries' `is_mem_align` agree iff the address is aligned. -/
theorem validate_wordAligned_and_isMemAlign_iff {op : Opcode} (hop : op ∈ wordOps) {s : GenState}
    (hbuf : s.instrBuf = []) (hnofix : s.optStat .notAllowFixMem = true)
    (halign : s.optStat .allowUnalignMem = false) (hvalid : (validate op s).1 = .valid)
    {memData : Word} (hmem : WordAligned memData) (pc : Word) (c : Arm.Cpu) {o : GenOption}
    {o' : Src.GenOption} (hsame : o.getOptStat .allowUnalignMem = o'.allowUnalignMem) (addr : Word)
    (alignBit : ℕ) :
    (WordAligned (accessAddress op (validate op s).2.rawInstr pc
        (execLines memData c (validate op s).2.instrBuf)) ↔
      op = Op.LDRD_lit ∨ WordAligned ((disp op s.rawInstr).value (fun _ => s.nextRand) false)) ∧
    (isMemAlign o addr alignBit = Src.isMemAlign o' addr alignBit ↔
      addr &&& (shl 1 alignBit - 1) = 0) := by
  refine ⟨?_, isMemAlign_eq_iff hsame addr alignBit⟩
  rcases List.mem_append.mp hop with hspecial | hplain
  · simp only [List.mem_cons, List.not_mem_nil, or_false] at hspecial
    rcases hspecial with rfl | rfl
    · exact iff_of_true (wordAligned_LDRD_lit s.rawInstr pc _) (.inl rfl)
    · rw [validate, if_pos (by decide), genArmInstr_swp s (by decide)] at hvalid ⊢
      exact iff_of_true (wordAligned_SWP hbuf hvalid (fun c => rfl) pc c)
        (.inr (wordAligned_four_mul 0))
  · have hlit : op ≠ Op.LDRD_lit := by
      rintro rfl
      exact absurd hplain (by decide)
    rw [validate_wordAligned_iff hbuf hnofix halign hvalid hplain hmem pc c]
    exact (or_iff_right hlit).symm

/-- A state of ARM with the word `w` and without memory fixing. -/
def noFixState (w : Word) : GenState :=
  { staticState (fun _ => 0) fun _ => 0 with
    options := { initOptions with isa := .armv7 }.setOptStat .notAllowFixMem
    rawInstr := w }

/-- Options of the old library with unaligned accesses not allowed. -/
def strictOptions : Src.GenOption where
  allowUnalignMem := false
  fixMem := false
  memBaseVal := 0x03fc0000
  memBaseMask := 0xfffc0000
  memOffsetVal := 0xfff
  condVal := COND_AL
  srcRegs := .default
  dstRegs := .default
  isSbitInit := false
  sbitVal := 0
  isShiftImmInit := false
  shiftImmVal := 0
  archVersion := 7
  isa := .armv7

/-- `ldr r2, [r1, #4]` accesses a word, and the two libraries agree about the address four. -/
theorem validate_wordAligned_LDR :
    (validate Op.LDR_imm (noFixState 0xe5912004)).1 = .valid ∧
      WordAligned (accessAddress Op.LDR_imm
        (validate Op.LDR_imm (noFixState 0xe5912004)).2.rawInstr 0
        (execLines 0 zeroCpu (validate Op.LDR_imm (noFixState 0xe5912004)).2.instrBuf)) ∧
      isMemAlign (noFixState 0xe5912004).options 4 2 = Src.isMemAlign strictOptions 4 2 := by
  have hop : Op.LDR_imm ∈ wordOps := by decide
  have hvalid : (validate Op.LDR_imm (noFixState 0xe5912004)).1 = .valid := by decide +kernel
  have hmem : WordAligned 0 := by decide
  have hsame : (noFixState 0xe5912004).options.getOptStat .allowUnalignMem =
      strictOptions.allowUnalignMem := by decide
  have h := validate_wordAligned_and_isMemAlign_iff hop rfl (by decide) (by decide) hvalid hmem 0
    zeroCpu hsame 4 2
  exact ⟨hvalid, h.1.mpr (.inr (by decide)), h.2.mpr (by decide)⟩

/-- `ldr r2, [r1, #1]` is `VALID` and accesses no word; of the address one `is_mem_align` says that
it is aligned, where the old library says that it is not. -/
theorem validate_LDR_not_wordAligned :
    (noFixState 0xe5912001).optStat .notAllowFixMem = true ∧
      (noFixState 0xe5912001).optStat .allowUnalignMem = false ∧
      strictOptions.allowUnalignMem = false ∧
      (validate Op.LDR_imm (noFixState 0xe5912001)).1 = .valid ∧
      ¬ WordAligned (accessAddress Op.LDR_imm
        (validate Op.LDR_imm (noFixState 0xe5912001)).2.rawInstr 0
        (execLines 0 zeroCpu (validate Op.LDR_imm (noFixState 0xe5912001)).2.instrBuf)) ∧
      isMemAlign (noFixState 0xe5912001).options 1 2 = true ∧
      Src.isMemAlign strictOptions 1 2 = false :=
  ⟨by decide, by decide, rfl, by decide +kernel, by decide +kernel, by decide, by decide⟩

end Rit
