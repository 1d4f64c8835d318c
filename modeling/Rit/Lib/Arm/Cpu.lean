import Mathlib.Algebra.Ring.Nat
import Mathlib.Data.Set.Function

/-!
# An ARM core

The registers, the application flags and the byte-addressed, little-endian memory of an ARM core,
with the instructions that only compute and move data.  The conditions read the flags as the
architecture has it.

Two register files or two memories are compared by where they may differ (`EqOff`).
-/

namespace Arm

abbrev Word := BitVec 32

/-- `r0` to `r15`. -/
abbrev Reg := Fin 16

/-! Numbers are registers, conditions and immediates of eight bits. -/

instance neZero16 : NeZero 16 := ⟨by decide⟩
instance neZero15 : NeZero 15 := ⟨by decide⟩
instance neZero256 : NeZero 256 := ⟨by decide⟩
instance lawfulBEqReg : LawfulBEq Reg := inferInstance

/-! ## Memory -/

abbrev Mem := Word → BitVec 8

/-- The memory with the bytes `bs` from `a` on. -/
def store (m : Mem) (a : Word) (bs : List (BitVec 8)) : Mem :=
  fun x => (bs[(x - a).toNat]?).getD (m x)

/-- The bytes of a word. -/
def wordBytes (v : Word) : List (BitVec 8) :=
  [v.extractLsb' 0 8, v.extractLsb' 8 8, v.extractLsb' 16 8, v.extractLsb' 24 8]

def storeWord (m : Mem) (a v : Word) : Mem := store m a (wordBytes v)

def loadHalf (m : Mem) (a : Word) : BitVec 16 := m (a + 1) ++ m a

def loadWord (m : Mem) (a : Word) : Word := m (a + 3) ++ m (a + 2) ++ m (a + 1) ++ m a

section Memory

variable {m m' : Mem} {a b x : Word} {bs : List (BitVec 8)}

@[simp] lemma length_wordBytes (v : Word) : (wordBytes v).length = 4 := rfl

lemma store_of_lt (h : (x - a).toNat < bs.length) : store m a bs x = bs[(x - a).toNat] := by
  unfold store
  rw [List.getElem?_eq_getElem h, Option.getD_some]

lemma store_of_le (h : bs.length ≤ (x - a).toNat) : store m a bs x = m x := by
  unfold store
  rw [List.getElem?_eq_none h, Option.getD_none]

lemma loadWord_congr (h : ∀ x, (x - a).toNat < 4 → m x = m' x) : loadWord m a = loadWord m' a := by
  have hoff (i : Word) (hi : i.toNat < 4) : m (a + i) = m' (a + i) :=
    h _ (by rwa [BitVec.add_comm, BitVec.add_sub_cancel])
  have hzero : m a = m' a := by simpa using hoff 0 (by decide)
  unfold loadWord
  rw [hoff 3 (by decide), hoff 2 (by decide), hoff 1 (by decide), hzero]

@[simp] lemma loadWord_storeWord (m : Mem) (a v : Word) : loadWord (storeWord m a v) a = v := by
  have hoff (i : Word) : a + i - a = i := by rw [BitVec.add_comm, BitVec.add_sub_cancel]
  have hzero : a - a = 0 := BitVec.sub_self a
  have hbytes : (v.extractLsb' 24 8 ++ v.extractLsb' 16 8 ++ v.extractLsb' 8 8 ++
      v.extractLsb' 0 8 : Word) = v := by
    apply BitVec.eq_of_getLsbD_eq
    intro i hi
    simp only [BitVec.getLsbD_append, BitVec.getLsbD_extractLsb']
    grind
  simp only [loadWord, storeWord, store, hoff, hzero]
  exact hbytes

/-- A word apart from the stored bytes is as it was. -/
lemma loadWord_store (h : ∀ x : Word, (x - a).toNat < 4 → bs.length ≤ (x - b).toNat) :
    loadWord (store m b bs) a = loadWord m a :=
  loadWord_congr fun x hx => store_of_le (h x hx)

/-- Words that do not overlap. -/
lemma loadWord_storeWord_apart (m : Mem) (v : Word) (hab : 4 ≤ (a - b).toNat)
    (hba : 4 ≤ (b - a).toNat) : loadWord (storeWord m b v) a = loadWord m a := by
  refine loadWord_store fun x hx => ?_
  rw [length_wordBytes]
  bv_omega

/-- Storing what is there. -/
lemma storeWord_loadWord (m : Mem) (a : Word) : storeWord m a (loadWord m a) = m := by
  have hbyte : wordBytes (loadWord m a) = [m a, m (a + 1), m (a + 2), m (a + 3)] := by
    simp only [wordBytes, loadWord, List.cons.injEq, and_true]
    refine ⟨?_, ?_, ?_, ?_⟩ <;>
    · apply BitVec.eq_of_getLsbD_eq
      intro i hi
      simp only [BitVec.getLsbD_extractLsb', BitVec.getLsbD_append]
      grind
  funext x
  by_cases h : (x - a).toNat < 4
  · obtain ⟨i, rfl⟩ : ∃ i, x = a + i := ⟨x - a, by bv_omega⟩
    have hoff : a + i - a = i := by rw [BitVec.add_comm, BitVec.add_sub_cancel]
    rw [hoff] at h
    simp only [storeWord, store, hoff, hbyte]
    obtain rfl | rfl | rfl | rfl : i = 0 ∨ i = 1 ∨ i = 2 ∨ i = 3 := by bv_omega
    all_goals simp
  · exact store_of_le (by rw [length_wordBytes]; omega)

end Memory

/-! ## Flags and conditions -/

/-- The application program status register. -/
structure Apsr where
  n : Bool
  z : Bool
  c : Bool
  v : Bool
  q : Bool
  ge : BitVec 4
  deriving DecidableEq, Repr

/-- What `mrs` reads. -/
def Apsr.word (f : Apsr) : Word :=
  BitVec.ofBool f.n ++ BitVec.ofBool f.z ++ BitVec.ofBool f.c ++ BitVec.ofBool f.v ++
    BitVec.ofBool f.q ++ (0 : BitVec 7) ++ f.ge ++ (0 : BitVec 16)

/-- What `msr APSR_nzcvqg` writes. -/
def Apsr.ofWord (w : Word) : Apsr where
  n := w.getLsbD 31
  z := w.getLsbD 30
  c := w.getLsbD 29
  v := w.getLsbD 28
  q := w.getLsbD 27
  ge := w.extractLsb' 16 4

@[simp] lemma Apsr.ofWord_word (f : Apsr) : Apsr.ofWord f.word = f := by
  obtain ⟨n, z, c, v, q, ge⟩ := f
  revert n z c v q ge
  decide

/-- The conditions other than `al`. -/
inductive Cond
  | eq | ne | cs | cc | mi | pl | vs | vc | hi | ls | ge | lt | gt | le
  deriving DecidableEq, Repr

def Cond.holds (f : Apsr) : Cond → Bool
  | .eq => f.z
  | .ne => !f.z
  | .cs => f.c
  | .cc => !f.c
  | .mi => f.n
  | .pl => !f.n
  | .vs => f.v
  | .vc => !f.v
  | .hi => f.c && !f.z
  | .ls => !(f.c && !f.z)
  | .ge => f.n == f.v
  | .lt => f.n != f.v
  | .gt => !f.z && f.n == f.v
  | .le => !(!f.z && f.n == f.v)

/-- Whether an instruction with the condition `c`, or with none, is executed. -/
def passes (c : Option Cond) (f : Apsr) : Bool := c.elim true (Cond.holds f)

@[simp] lemma passes_none (f : Apsr) : passes none f = true := rfl

@[simp] lemma passes_some (c : Cond) (f : Apsr) : passes (some c) f = c.holds f := rfl

/-! ## Data processing -/

/-- The operations of the data-processing instructions. -/
inductive Alu
  | and | eor | sub | rsb | add | adc | sbc | rsc | orr | mov | bic | mvn
  deriving DecidableEq, Repr

/-- The sum of the adder. -/
def adderValue (x y : Word) (carry : Bool) : Word := x + y + (BitVec.ofBool carry).setWidth 32

/-- The flags the adder sets. -/
def adderFlags (x y : Word) (carry : Bool) (f : Apsr) : Apsr :=
  let r := adderValue x y carry
  { f with
    n := r.msb
    z := r == 0
    c := decide (2 ^ 32 ≤ x.toNat + y.toNat + carry.toNat)
    v := decide (r.toInt ≠ x.toInt + y.toInt + carry.toNat) }

/-- The flags a subtraction sets: C is set if there is no borrow. -/
def subFlags (x y : Word) (f : Apsr) : Apsr :=
  { f with
    n := (x - y).msb
    z := x == y
    c := decide (y ≤ x)
    v := decide ((x - y).toInt ≠ x.toInt - y.toInt) }

/-- The flags a logical operation sets for its result.  The carry of the operand's shift is not part
of them. -/
def logicalFlags (r : Word) (f : Apsr) : Apsr := { f with n := r.msb, z := r == 0 }

/-- The result of an operation. -/
def Alu.value (op : Alu) (x y : Word) (f : Apsr) : Word :=
  match op with
  | .and => x &&& y
  | .eor => x ^^^ y
  | .sub => x - y
  | .rsb => y - x
  | .add => adderValue x y false
  | .adc => adderValue x y f.c
  | .sbc => adderValue x (~~~y) f.c
  | .rsc => adderValue (~~~x) y f.c
  | .orr => x ||| y
  | .mov => y
  | .bic => x &&& ~~~y
  | .mvn => ~~~y

/-- The flags of its `s` form. -/
def Alu.flags (op : Alu) (x y : Word) (f : Apsr) : Apsr :=
  match op with
  | .sub => subFlags x y f
  | .rsb => subFlags y x f
  | .add => adderFlags x y false f
  | .adc => adderFlags x y f.c f
  | .sbc => adderFlags x (~~~y) f.c f
  | .rsc => adderFlags (~~~x) y f.c f
  | _ => logicalFlags (op.value x y f) f

section Arithmetic

variable (x y : Word) (f : Apsr)

@[simp] lemma sub_value : Alu.sub.value x y f = x - y := rfl

@[simp] lemma add_value : Alu.add.value x y f = x + y := by
  change x + y + 0 = x + y
  exact BitVec.add_zero _

@[simp] lemma and_value : Alu.and.value x y f = x &&& y := rfl

@[simp] lemma sub_z : (Alu.sub.flags x y f).z = (x == y) := rfl

@[simp] lemma and_z : (Alu.and.flags x y f).z = (x &&& y == 0) := rfl

/-- A comparison overwrites all flags but Q and GE. -/
lemma sub_flags_congr {f g : Apsr} (hq : f.q = g.q) (hge : f.ge = g.ge) :
    Alu.sub.flags x y f = Alu.sub.flags x y g := by
  simp only [Alu.flags, subFlags, hq, hge]

@[simp] lemma sub_q : (Alu.sub.flags x y f).q = f.q := rfl

@[simp] lemma sub_ge : (Alu.sub.flags x y f).ge = f.ge := rfl

end Arithmetic

/-! ## Instructions -/

/-- The registers and the width of a transfer. -/
inductive Transfer
  | b (rt : Reg)
  | h (rt : Reg)
  | w (rt : Reg)
  | d (rt rt2 : Reg)
  deriving DecidableEq, Repr

/-- The number of bytes transferred. -/
def Transfer.size : Transfer → ℕ
  | .b _ => 1
  | .h _ => 2
  | .w _ => 4
  | .d _ _ => 8

/-- The bytes a store writes. -/
def Transfer.bytes (regs : Reg → Word) : Transfer → List (BitVec 8)
  | .b rt => (wordBytes (regs rt)).take 1
  | .h rt => (wordBytes (regs rt)).take 2
  | .w rt => wordBytes (regs rt)
  | .d rt rt2 => wordBytes (regs rt) ++ wordBytes (regs rt2)

@[simp] lemma Transfer.length_bytes (regs : Reg → Word) (t : Transfer) :
    (t.bytes regs).length = t.size := by
  cases t <;> rfl

/-- The registers after a load. -/
def Transfer.load (m : Mem) (a : Word) (regs : Reg → Word) : Transfer → Reg → Word
  | .b rt => Function.update regs rt ((m a).setWidth 32)
  | .h rt => Function.update regs rt ((loadHalf m a).setWidth 32)
  | .w rt => Function.update regs rt (loadWord m a)
  | .d rt rt2 =>
    Function.update (Function.update regs rt (loadWord m a)) rt2 (loadWord m (a + 4))

/-- The second operand of a data-processing instruction. -/
inductive Operand
  | imm (v : Word)
  | reg (r : Reg)
  deriving DecidableEq, Repr

def Operand.value (regs : Reg → Word) : Operand → Word
  | .imm v => v
  | .reg r => regs r

/-- The instructions that compute and move data. -/
inductive Op
  /-- `mrs rd, APSR` -/
  | mrs (rd : Reg)
  /-- `msr APSR_nzcvqg, rn` -/
  | msr (rn : Reg)
  /-- `ldr rd, =v` -/
  | ldrConst (rd : Reg) (v : Word)
  /-- A load from `[rn, #imm]`, exclusive or not. -/
  | ldr (t : Transfer) (rn : Reg) (imm : Word)
  /-- A store to `[rn, #imm]`. -/
  | str (t : Transfer) (rn : Reg) (imm : Word)
  /-- `mov rd, src` -/
  | mov (rd : Reg) (src : Operand)
  /-- `op rd, rn, src` -/
  | alu (op : Alu) (rd rn : Reg) (src : Operand)
  /-- `ops rd, rn, src` -/
  | alus (op : Alu) (rd rn : Reg) (src : Operand)
  /-- `cmp rn, src` -/
  | cmp (rn : Reg) (src : Operand)
  /-- `nop` and the barriers. -/
  | nop
  deriving DecidableEq, Repr

/-- The state of the core but for the program counter. -/
@[ext] structure Cpu where
  regs : Reg → Word
  apsr : Apsr
  mem : Mem

/-- Assign a register. -/
def Cpu.set (s : Cpu) (r : Reg) (v : Word) : Cpu := { s with regs := Function.update s.regs r v }

def Op.exec (s : Cpu) : Op → Cpu
  | .mrs rd => s.set rd s.apsr.word
  | .msr rn => { s with apsr := .ofWord (s.regs rn) }
  | .ldrConst rd v => s.set rd v
  | .ldr t rn imm => { s with regs := t.load s.mem (s.regs rn + imm) s.regs }
  | .str t rn imm => { s with mem := store s.mem (s.regs rn + imm) (t.bytes s.regs) }
  | .mov rd src => s.set rd (src.value s.regs)
  | .alu op rd rn src => s.set rd (op.value (s.regs rn) (src.value s.regs) s.apsr)
  | .alus op rd rn src =>
    { s.set rd (op.value (s.regs rn) (src.value s.regs) s.apsr) with
      apsr := op.flags (s.regs rn) (src.value s.regs) s.apsr }
  | .cmp rn src => { s with apsr := Alu.sub.flags (s.regs rn) (src.value s.regs) s.apsr }
  | .nop => s

/-! ## States that agree off a set -/

section EqOff

variable {α β : Type*} {K K' : Set α} {f g h : α → β} {r : α} {v : β}

/-- The two functions differ at most on `K`. -/
def EqOff (K : Set α) (f g : α → β) : Prop := ∀ r, r ∉ K → f r = g r

lemma EqOff.refl (K : Set α) (f : α → β) : EqOff K f f := fun _ _ => rfl

lemma EqOff.trans (hfg : EqOff K f g) (hgh : EqOff K g h) : EqOff K f h :=
  fun r hr => (hfg r hr).trans (hgh r hr)

lemma EqOff.mono (hfg : EqOff K f g) (hK : K ⊆ K') : EqOff K' f g :=
  fun r hr => hfg r fun hr' => hr (hK hr')

lemma EqOff.eq (hfg : EqOff ∅ f g) : f = g := funext fun r => hfg r (Set.notMem_empty r)

variable [DecidableEq α]

/-- Writing the same value on both sides makes them agree there. -/
lemma EqOff.update (hfg : EqOff (insert r K) f g) :
    EqOff K (Function.update f r v) (Function.update g r v) := by
  intro r' hr'
  by_cases h : r' = r
  · rw [h, Function.update_self, Function.update_self]
  · rw [Function.update_of_ne h, Function.update_of_ne h]
    exact hfg r' (by simp [h, hr'])

end EqOff

/-! ## Lists of writes -/

/-- The register file after some writes, the last of them at the end of the list. -/
def writes (ws : List (Reg × Word)) (f : Reg → Word) : Reg → Word :=
  ws.foldl (fun f w => Function.update f w.1 w.2) f

/-- The registers that are written. -/
def written (ws : List (Reg × Word)) : Set Reg := {r | r ∈ ws.map Prod.fst}

@[simp] lemma mem_written {ws : List (Reg × Word)} {r : Reg} :
    r ∈ written ws ↔ r ∈ ws.map Prod.fst := Iff.rfl

section Writes

variable {ws ws' : List (Reg × Word)} {f g : Reg → Word} {r : Reg}

@[simp] lemma writes_nil (f : Reg → Word) : writes [] f = f := rfl

@[simp] lemma writes_cons (w : Reg × Word) (ws : List (Reg × Word)) (f : Reg → Word) :
    writes (w :: ws) f = writes ws (Function.update f w.1 w.2) := rfl

@[simp] lemma writes_append (ws ws' : List (Reg × Word)) (f : Reg → Word) :
    writes (ws ++ ws') f = writes ws' (writes ws f) := List.foldl_append

/-- Only the written registers change. -/
lemma eqOff_writes (ws : List (Reg × Word)) (f : Reg → Word) :
    EqOff (written ws) (writes ws f) f := by
  induction ws generalizing f with
  | nil => exact EqOff.refl _ f
  | cons w ws ih =>
    intro r hr
    have hw : r ≠ w.1 := fun h => hr (by simp [written, h])
    have hrest : r ∉ written ws := fun h => hr (List.mem_cons_of_mem _ h)
    rw [writes_cons, ih _ r hrest, Function.update_of_ne hw]

/-- What the writes leave does not depend on the old values of the written registers. -/
lemma writes_congr (h : EqOff (written ws) f g) : writes ws f = writes ws g := by
  induction ws generalizing f g with
  | nil => exact EqOff.eq (h.mono fun r hr => by simp [written] at hr)
  | cons w ws ih =>
    refine ih (EqOff.update (h.mono fun r hr => ?_))
    rcases List.mem_cons.1 hr with rfl | hr
    · exact Set.mem_insert _ _
    · exact Set.mem_insert_of_mem _ hr

/-- Later writes to the same registers hide earlier ones. -/
lemma writes_writes (h : written ws' ⊆ written ws) (f : Reg → Word) :
    writes ws (writes ws' f) = writes ws f :=
  writes_congr ((eqOff_writes ws' f).mono h)

end Writes

/-- The addresses of `n` bytes from `a` on. -/
def bytesAt (a : Word) (n : ℕ) : Set Word := {x | (x - a).toNat < n}

lemma EqOff.store {K : Set Word} {m m' : Mem} {a : Word} {bs : List (BitVec 8)}
    (h : EqOff (bytesAt a bs.length ∪ K) m m') :
      EqOff K (Arm.store m a bs) (Arm.store m' a bs) := by
  intro x hx
  by_cases hlt : (x - a).toNat < bs.length
  · rw [store_of_lt hlt, store_of_lt hlt]
  · rw [store_of_le (by omega), store_of_le (by omega)]
    exact h x fun hmem => hmem.elim hlt hx

lemma EqOff.store_left {K : Set Word} {m m' : Mem} {a : Word} {bs : List (BitVec 8)}
    (h : EqOff K m m') (ha : bytesAt a bs.length ⊆ K) : EqOff K (Arm.store m a bs) m' := by
  intro x hx
  have hlt : ¬ (x - a).toNat < bs.length := fun hlt => hx (ha hlt)
  rw [store_of_le (by omega)]
  exact h x hx

@[simp] lemma storeWord_storeWord (m : Mem) (a v w : Word) :
    storeWord (storeWord m a v) a w = storeWord m a w := by
  have hinner : EqOff (bytesAt a 4 ∪ ∅) (storeWord m a v) m :=
    (EqOff.refl _ m).store_left Set.subset_union_left
  exact EqOff.eq hinner.store

end Arm
