import Rit.Lib.Arm.Cpu
import Rit.Lib.Layout

/-!
# Assembled text and its execution

A `Text` is a listing in one instruction set together with the addresses an assembler has given to
its lines.  The assembler may choose the width of a Thumb instruction where it has a choice, so the
addresses are a part of the text and the rule they follow (`Line.Sized`) is its invariant.

The program counter is a line of the text or an address outside of it.  Outside, the machine
executes one instruction, `bx lr`, fetched from memory in the current instruction set.  Whether a
store-exclusive succeeds is taken from the list `answers`, and `attempts` counts how many were
executed.

Data-processing instructions may stand in the text as words.  They are decoded, and a result for
`r15` is an interworking branch, as the architecture has it in ARM state.
-/

namespace Arm

open Layout

/-! ## Data-processing words -/

/-- The operations by their code, for instructions that do not set the flags. -/
def aluOf (code : BitVec 4) : Option Alu :=
  match code.toNat with
  | 0 => some .and
  | 1 => some .eor
  | 2 => some .sub
  | 3 => some .rsb
  | 4 => some .add
  | 5 => some .adc
  | 6 => some .sbc
  | 7 => some .rsc
  | 12 => some .orr
  | 13 => some .mov
  | 14 => some .bic
  | 15 => some .mvn
  | _ => none

/-- The conditions by their code; `some none` is `al`. -/
def condOf (code : BitVec 4) : Option (Option Cond) :=
  match code.toNat with
  | 0 => some (some .eq)
  | 1 => some (some .ne)
  | 2 => some (some .cs)
  | 3 => some (some .cc)
  | 4 => some (some .mi)
  | 5 => some (some .pl)
  | 6 => some (some .vs)
  | 7 => some (some .vc)
  | 8 => some (some .hi)
  | 9 => some (some .ls)
  | 10 => some (some .ge)
  | 11 => some (some .lt)
  | 12 => some (some .gt)
  | 13 => some (some .le)
  | 14 => some none
  | _ => none

/-- The modified immediate constants of ARM. -/
def armExpandImm (imm12 : BitVec 12) : Word :=
  ((imm12.extractLsb' 0 8).setWidth 32).rotateRight (2 * (imm12.extractLsb' 8 4).toNat)

/-- A register shifted by an immediate amount. -/
def shiftImm (type : BitVec 2) (amount : BitVec 5) (v : Word) (carry : Bool) : Word :=
  match type.toNat with
  | 0 => v <<< amount.toNat
  | 1 => v >>> (if amount = 0 then 32 else amount.toNat)
  | 2 => v.sshiftRight (if amount = 0 then 32 else amount.toNat)
  | _ =>
    if amount = 0 then (v >>> 1) ||| ((BitVec.ofBool carry).setWidth 32 <<< 31)
    else v.rotateRight amount.toNat

/-- The register a field of four bits names. -/
def regField (w : Word) (lo : ℕ) : Reg := (w.extractLsb' lo 4).toFin

/-- The value of a register, with `r15` given. -/
def readReg (regs : Reg → Word) (pc : Word) (r : Reg) : Word := if r = 15 then pc else regs r

/-- The value a data-processing word computes with `r15` reading as `pc`.  Words of other
instructions, those that set the flags and those that shift by a register have none. -/
def wordValue (w : Word) (s : Cpu) (pc : Word) : Option Word :=
  if w.extractLsb' 26 2 ≠ 0 ∨ w.getLsbD 20 then none
  else
    (aluOf (w.extractLsb' 21 4)).bind fun op =>
      let x := readReg s.regs pc (regField w 16)
      if w.getLsbD 25 then some (op.value x (armExpandImm (w.extractLsb' 0 12)) s.apsr)
      else if w.getLsbD 4 then none
      else
        let y := shiftImm (w.extractLsb' 5 2) (w.extractLsb' 7 5)
          (readReg s.regs pc (regField w 0)) s.apsr.c
        some (op.value x y s.apsr)

/-! ## Text -/

/-- A line of text. -/
inductive Line (L : Type)
  | label (l : L)
  /-- `.align` -/
  | align
  /-- `it` with its further letters; the conditions stand at the instructions. -/
  | it (c : Cond)
  | op (c : Option Cond) (o : Op)
  /-- A store-exclusive to `[rn, #imm]`. -/
  | strex (c : Option Cond) (rd : Reg) (t : Transfer) (rn : Reg) (imm : Word)
  | b (c : Option Cond) (l : L)
  /-- `.inst w` -/
  | word (w : Word)
  /-- `add pc, rm` in Thumb. -/
  | addPc (c : Option Cond) (rm : Reg)
  /-- `mov pc, rm` in Thumb. -/
  | movPc (c : Option Cond) (rm : Reg)
  deriving DecidableEq, Repr

/-- The label a line defines. -/
def Line.label? {L : Type} : Line L → Option L
  | .label l => some l
  | _ => none

/-- The addresses an assembler may give to a line and the one after it. -/
def Line.Sized {L : Type} (isARM : Bool) (a a' : ℕ) : Line L → Prop
  | .label _ => a' = a
  | .align => a ≤ a' ∧ a' < a + 4 ∧ a' % 4 = 0
  | .it _ => a' = a + 2
  | .word _ => a' = a + 4
  | .addPc _ _ => a' = a + 2
  | .movPc _ _ => a' = a + 2
  | _ => a' = a + 4 ∨ (isARM = false ∧ a' = a + 2)

/-- A listing with its addresses. -/
structure Text (L : Type) where
  lines : List (Line L)
  isARM : Bool
  addr : ℕ → ℕ
  sized : ∀ (i : ℕ) (l : Line L), lines[i]? = some l → l.Sized isARM (addr i) (addr (i + 1))

/-! ## Execution -/

inductive Loc
  | line (i : ℕ)
  | at (a : Word)
  deriving DecidableEq, Repr

structure State where
  pc : Loc
  isARM : Bool
  cpu : Cpu
  answers : ℕ → Bool
  attempts : ℕ

section Step

variable {L : Type} [DecidableEq L] (T : Text L)

/-- The line at an address. -/
def Text.locate (a : Word) : Loc :=
  ((List.range T.lines.length).find? fun i => BitVec.ofNat 32 (T.addr i) = a).elim (.at a) .line

/-- An interworking branch. -/
def Text.bxWritePC (v : Word) (s : State) : Option State :=
  if v.getLsbD 0 then some { s with pc := T.locate (v &&& ~~~1), isARM := false }
  else if v.getLsbD 1 then none
  else some { s with pc := T.locate v, isARM := true }

/-- A branch in Thumb state that stays in it. -/
def Text.branchWritePC (v : Word) (s : State) : State := { s with pc := T.locate (v &&& ~~~1) }

/-- What a store-exclusive does after its condition has passed. -/
def State.strex (rd : Reg) (t : Transfer) (rn : Reg) (imm : Word) (s : State) : State :=
  { s with
    cpu :=
      if s.answers 0 then
        { s.cpu.set rd 0 with
          mem := store s.cpu.mem (s.cpu.regs rn + imm) (t.bytes s.cpu.regs) }
      else s.cpu.set rd 1
    answers := fun i => s.answers (i + 1)
    attempts := s.attempts + 1 }

/-- One line, standing at index `i`. -/
def Text.exec (i : ℕ) (s : State) : Line L → Option State
  | .label _ => some { s with pc := .line (i + 1) }
  | .align => some { s with pc := .line (i + 1) }
  | .it _ => some { s with pc := .line (i + 1) }
  | .op c o =>
    some { s with pc := .line (i + 1), cpu := if passes c s.cpu.apsr then o.exec s.cpu else s.cpu }
  | .strex c rd t rn imm =>
    let s' := { s with pc := .line (i + 1) }
    some (if passes c s.cpu.apsr then s'.strex rd t rn imm else s')
  | .b c l =>
    some { s with
      pc := .line (if passes c s.cpu.apsr then T.lines.idxOf (.label l) else i + 1) }
  | .word w =>
    (condOf (w.extractLsb' 28 4)).bind fun c =>
      if passes c s.cpu.apsr then
        (wordValue w s.cpu (.ofNat 32 (T.addr i + 8))).bind fun v =>
          if regField w 12 = 15 then T.bxWritePC v s
          else some { s with pc := .line (i + 1), cpu := s.cpu.set (regField w 12) v }
      else some { s with pc := .line (i + 1) }
  | .addPc c rm =>
    some (if passes c s.cpu.apsr then
        T.branchWritePC (.ofNat 32 (T.addr i + 4) + s.cpu.regs rm) s
      else { s with pc := .line (i + 1) })
  | .movPc c rm =>
    some (if passes c s.cpu.apsr then T.branchWritePC (s.cpu.regs rm) s
      else { s with pc := .line (i + 1) })

/-- The encodings of `bx lr`. -/
def bxLrARM : Word := 0xe12fff1e

def bxLrThumb : BitVec 16 := 0x4770

/-- The instruction `bx lr` of the current instruction set stands at `a`. -/
def State.AtBxLr (s : State) (a : Word) : Prop :=
  if s.isARM then loadWord s.cpu.mem a = bxLrARM else loadHalf s.cpu.mem a = bxLrThumb

instance (s : State) (a : Word) : Decidable (s.AtBxLr a) := by
  unfold State.AtBxLr; infer_instance

/-- One step. -/
def Text.step (s : State) : Option State :=
  match s.pc with
  | .line i => if s.isARM = T.isARM then T.lines[i]?.bind (T.exec i s) else none
  | .at a => if s.AtBxLr a then T.bxWritePC (s.cpu.regs 14) s else none

/-- Runs of the machine. -/
abbrev Text.Runs : State → State → Prop := Relation.ReflTransGen fun s t => T.step s = some t

end Step

/-! ## Straight-line pieces -/

section Straight

variable {L : Type}

/-- What a line does to the core if the program counter moves on to the next line. -/
def Line.run (s : Cpu) : Line L → Cpu
  | .op c o => if passes c s.apsr then o.exec s else s
  | _ => s

@[simp] lemma run_label (s : Cpu) (l : L) : (Line.label l).run s = s := rfl

@[simp] lemma run_align (s : Cpu) : (Line.align : Line L).run s = s := rfl

@[simp] lemma run_it (s : Cpu) (c : Cond) : (Line.it c : Line L).run s = s := rfl

@[simp] lemma run_op_none (s : Cpu) (o : Op) : (Line.op none o : Line L).run s = o.exec s := rfl

lemma run_op_of_passes {s : Cpu} {c : Option Cond} (hc : passes c s.apsr = true) (o : Op) :
    (Line.op c o : Line L).run s = o.exec s := if_pos hc

lemma run_op_of_not {s : Cpu} {c : Option Cond} (hc : passes c s.apsr = false) (o : Op) :
    (Line.op c o : Line L).run s = s := if_neg (by rw [hc]; exact Bool.false_ne_true)

/-- The lines that neither branch nor consume an answer. -/
def Line.straight : Line L → Bool
  | .label _ | .align | .it _ | .op _ _ => true
  | _ => false

/-- The straight lines that are instructions. -/
def Line.plain : Line L → Bool
  | .it _ | .op _ _ => true
  | _ => false

lemma straight_of_plain {ls : List (Line L)} (h : ls.all Line.plain = true) :
    ls.all Line.straight = true := by
  rw [List.all_eq_true] at h ⊢
  intro l hl
  have hp := h l hl
  cases l <;> first | rfl | cases hp

lemma labels_of_plain {ls : List (Line L)} (h : ls.all Line.plain = true) :
    ls.filterMap Line.label? = [] := by
  rw [List.all_eq_true] at h
  rw [List.filterMap_eq_nil_iff]
  intro l hl
  have hp := h l hl
  cases l <;> first | rfl | cases hp

/-- What a piece of such lines does. -/
def runLines (ls : List (Line L)) (s : Cpu) : Cpu := ls.foldl Line.run s

@[simp] lemma runLines_nil (s : Cpu) : runLines ([] : List (Line L)) s = s := rfl

@[simp] lemma runLines_cons (l : Line L) (ls : List (Line L)) (s : Cpu) :
    runLines (l :: ls) s = runLines ls (l.run s) := rfl

@[simp] lemma runLines_append (ls ls' : List (Line L)) (s : Cpu) :
    runLines (ls ++ ls') s = runLines ls' (runLines ls s) := List.foldl_append

variable [DecidableEq L] {T : Text L} {p : ℕ} {ls : List (Line L)}

lemma step_line {s : State} {i : ℕ} {l : Line L} (hpc : s.pc = .line i)
    (hisa : s.isARM = T.isARM) (hl : T.lines[i]? = some l) : T.step s = T.exec i s l := by
  simp [Text.step, hpc, hisa, hl]

lemma exec_straight {l : Line L} (hl : l.straight) (i : ℕ) (s : State) :
    T.exec i s l = some { s with pc := .line (i + 1), cpu := l.run s.cpu } := by
  cases l <;> first | rfl | cases hl

/-- A straight-line piece runs to its end. -/
lemma runs_straight (hat : At T.lines p ls) (hls : ls.all Line.straight) {s : State}
    (hpc : s.pc = .line p) (hisa : s.isARM = T.isARM) :
    T.Runs s { s with pc := .line (p + ls.length), cpu := runLines ls s.cpu } := by
  induction ls generalizing p s with
  | nil =>
    obtain ⟨pc, isARM, cpu, answers, attempts⟩ := s
    obtain rfl : pc = .line p := hpc
    exact .refl
  | cons l ls ih =>
    obtain ⟨hl, hat⟩ := at_cons.1 hat
    obtain ⟨hstraight, hls⟩ := Bool.and_eq_true_iff.1 hls
    have hstep := (step_line hpc hisa hl).trans (exec_straight hstraight p s)
    have hrest := ih hat hls (s := { s with pc := .line (p + 1), cpu := l.run s.cpu }) rfl hisa
    rw [show p + 1 + ls.length = p + (l :: ls).length by rw [List.length_cons]; omega] at hrest
    exact .head hstep hrest

lemma step_b {s : State} {i : ℕ} {c : Option Cond} {l : L} (hpc : s.pc = .line i)
    (hisa : s.isARM = T.isARM) (hl : T.lines[i]? = some (.b c l)) :
    T.step s = some { s with
      pc := .line (if passes c s.cpu.apsr then T.lines.idxOf (.label l) else i + 1) } :=
  step_line hpc hisa hl

end Straight

/-! ## Assembling -/

section Assemble

variable {L : Type}

/-- The address after a line, with every instruction at its full width. -/
def Line.after (a : ℕ) : Line L → ℕ
  | .label _ => a
  | .align => (a + 3) / 4 * 4
  | .it _ | .addPc _ _ | .movPc _ _ => a + 2
  | _ => a + 4

lemma Line.sized_after (isARM : Bool) (a : ℕ) (l : Line L) : l.Sized isARM a (l.after a) := by
  cases l with
  | label l => rfl
  | align =>
    change a ≤ (a + 3) / 4 * 4 ∧ (a + 3) / 4 * 4 < a + 4 ∧ (a + 3) / 4 * 4 % 4 = 0
    omega
  | it c => rfl
  | word w => rfl
  | addPc c rm => rfl
  | movPc c rm => rfl
  | _ => exact .inl rfl

/-- The listing placed at `base`. -/
def Text.assemble (lines : List (Line L)) (isARM : Bool) (base : ℕ) : Text L where
  lines := lines
  isARM := isARM
  addr := fun i => (lines.take i).foldl Line.after base
  sized := by
    intro i l hl
    rw [List.take_add_one, hl, List.foldl_append]
    exact l.sized_after isARM _

end Assemble

end Arm
