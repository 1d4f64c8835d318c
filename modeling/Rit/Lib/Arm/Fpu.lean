import Rit.Lib.Arm.Cpu

/-!
# The floating-point extension of an ARM core

The extension registers are 64 words: `s0` to `s31` are the first 32 of them, and each of `d0` to
`d31` is two words in a row, so that the lower half of the double registers is another view of the
single ones.  A comparison writes the condition flags of the FPSCR, from where they are copied to
the application flags.

What an arithmetic instruction computes is not modelled.  A run is given the result, and two runs
that are given different results are compared: of two NaNs, any may be the result where one is
(`SameUpToNaN`).  The cumulative exception bits of the FPSCR are left out; no instruction here
reads them.
-/

namespace Arm

/-! ## Numbers -/

/-- The precision of a number. -/
inductive Fmt
  | f32 | f64
  deriving DecidableEq, Repr

namespace Fmt

/-- The bits of the exponent and of the fraction. -/
def expo : Fmt → ℕ
  | f32 => 8
  | f64 => 11

def frac : Fmt → ℕ
  | f32 => 23
  | f64 => 52

def width : Fmt → ℕ
  | f32 => 32
  | f64 => 64

/-- A number in its binary format. -/
abbrev Bits (f : Fmt) := BitVec f.width

end Fmt

variable {f : Fmt}

/-- The exponent is all ones, and the fraction is not zero. -/
def IsNaN (x : f.Bits) : Prop :=
  x.extractLsb' f.frac f.expo = BitVec.allOnes f.expo ∧ x.extractLsb' 0 f.frac ≠ 0

instance (x : f.Bits) : Decidable (IsNaN x) := inferInstanceAs (Decidable (_ ∧ _))

/-- The same number, or two NaNs. -/
def SameUpToNaN (x y : f.Bits) : Prop := x = y ∨ IsNaN x ∧ IsNaN y

/-! ## State -/

/-- The condition flags of the FPSCR. -/
structure Nzcv where
  n : Bool
  z : Bool
  c : Bool
  v : Bool
  deriving DecidableEq, Repr

/-- A comparison with zero; `flush` makes a number with the least exponent a zero. -/
def compareZero (flush : Bool) (x : f.Bits) : Nzcv :=
  if IsNaN x then ⟨false, false, true, true⟩
  else if x.extractLsb' 0 f.frac = 0 ∧ x.extractLsb' f.frac f.expo = 0 ∨
      flush = true ∧ x.extractLsb' f.frac f.expo = 0 then ⟨false, true, true, false⟩
  else if x.msb then ⟨true, false, false, false⟩
  else ⟨false, false, true, false⟩

/-- All NaNs compare alike. -/
lemma compareZero_of_isNaN (flush : Bool) {x : f.Bits} (h : IsNaN x) :
    compareZero flush x = ⟨false, false, true, true⟩ :=
  if_pos h

/-- A core with its extension registers. -/
structure Fpu extends Cpu where
  ext : Fin 64 → Word
  nzcv : Nzcv
  flush : Bool

/-- The word of a single register, and the two words of a double one. -/
def single (n : Fin 32) : Fin 64 := ⟨n, by omega⟩
def lower (n : Fin 32) : Fin 64 := ⟨2 * n, by omega⟩
def upper (n : Fin 32) : Fin 64 := ⟨2 * n + 1, by omega⟩

namespace Fpu

variable (s : Fpu)

/-- The number in a register. -/
def read : (f : Fmt) → Fin 32 → f.Bits
  | .f32, n => s.ext (single n)
  | .f64, n => s.ext (upper n) ++ s.ext (lower n)

/-- Assign a register. -/
def write : (f : Fmt) → Fin 32 → f.Bits → Fpu
  | .f32, n, x => { s with ext := Function.update s.ext (single n) x }
  | .f64, n, x => { s with
      ext := Function.update (Function.update s.ext (lower n) (x.extractLsb' 0 32)) (upper n)
        (x.extractLsb' 32 32) }

lemma lower_ne_upper (n : Fin 32) : lower n ≠ upper n := by
  intro h
  have hval := congrArg Fin.val h
  simp only [lower, upper] at hval
  omega

lemma append_extract (x : BitVec 64) : x.extractLsb' 32 32 ++ x.extractLsb' 0 32 = x := by
  apply BitVec.eq_of_getLsbD_eq
  intro i hi
  simp only [BitVec.getLsbD_append, BitVec.getLsbD_extractLsb']
  grind

@[simp] lemma read_write (f : Fmt) (n : Fin 32) (x : f.Bits) : (s.write f n x).read f n = x := by
  cases f with
  | f32 => exact Function.update_self ..
  | f64 =>
    simp only [read, write, Function.update_self, Function.update_of_ne (lower_ne_upper n)]
    exact append_extract x

@[simp] lemma write_write (f : Fmt) (n : Fin 32) (x y : f.Bits) :
    (s.write f n x).write f n y = s.write f n y := by
  cases f with
  | f32 =>
    have hword (v w : Word) : Function.update (Function.update s.ext (single n) v) (single n) w =
        Function.update s.ext (single n) w := Function.update_idem ..
    exact congrArg (fun e => { s with ext := e }) (hword x y)
  | f64 =>
    simp only [write]
    congr 1
    funext i
    by_cases hup : i = upper n
    · simp [hup]
    · by_cases hlow : i = lower n
      · simp [hlow, lower_ne_upper]
      · simp [hup, hlow]

end Fpu

/-! ## Instructions -/

/-- The instructions. -/
inductive FpOp
  | core (op : Op)
  /-- An arithmetic instruction with its destination. -/
  | arith (f : Fmt) (d : Fin 32)
  /-- `vcmp d, 0` -/
  | cmpZero (f : Fmt) (d : Fin 32)
  /-- `vmrs APSR_nzcv, fpscr` -/
  | mrsFlags
  /-- `vmov rt, sn` -/
  | toCore (rt : Reg) (n : Fin 32)
  /-- `vmov sn, rt` -/
  | ofCore (n : Fin 32) (rt : Reg)
  /-- `vmov rt, rt2, dn` -/
  | toCores (rt rt2 : Reg) (n : Fin 32)
  /-- `vmov dn, rt, rt2` -/
  | ofCores (n : Fin 32) (rt rt2 : Reg)
  /-- `vldmia rn, {…}` with the words of the list -/
  | loadWords (rn : Reg) (words : List (Fin 64))
  /-- A line that changes nothing, as `it`. -/
  | skip
  deriving DecidableEq, Repr

/-- The words after loading them one after the other. -/
def loadExt (m : Mem) : Word → List (Fin 64) → (Fin 64 → Word) → Fin 64 → Word
  | _, [], ext => ext
  | a, w :: ws, ext => loadExt m (a + 4) ws (Function.update ext w (loadWord m a))

/-- One instruction, `res` being the result of an arithmetic one. -/
def FpOp.exec (res : (f : Fmt) → f.Bits) (s : Fpu) : FpOp → Fpu
  | core op => { s with toCpu := op.exec s.toCpu }
  | arith f d => s.write f d (res f)
  | cmpZero f d => { s with nzcv := compareZero s.flush (s.read f d) }
  | mrsFlags =>
    { s with apsr := { s.apsr with n := s.nzcv.n, z := s.nzcv.z, c := s.nzcv.c, v := s.nzcv.v } }
  | toCore rt n => { s with toCpu := s.toCpu.set rt (s.ext (single n)) }
  | ofCore n rt => s.write .f32 n (s.regs rt)
  | toCores rt rt2 n =>
    { s with toCpu := (s.toCpu.set rt (s.ext (lower n))).set rt2 (s.ext (upper n)) }
  | ofCores n rt rt2 => s.write .f64 n (s.regs rt2 ++ s.regs rt)
  | loadWords rn words => { s with ext := loadExt s.mem (s.regs rn) words s.ext }
  | skip => s

/-- An instruction with its condition. -/
abbrev FpLine := Option Cond × FpOp

def FpLine.exec (res : (f : Fmt) → f.Bits) (s : Fpu) (l : FpLine) : Fpu :=
  if passes l.1 s.apsr then l.2.exec res s else s

/-- Straight-line code. -/
def runFp (res : (f : Fmt) → f.Bits) (code : List FpLine) (s : Fpu) : Fpu :=
  code.foldl (FpLine.exec res) s

section Run

variable {res res' : (f : Fmt) → f.Bits} {code code' : List FpLine} {l : FpLine} {s : Fpu}

@[simp] lemma runFp_nil : runFp res [] s = s := rfl

@[simp] lemma runFp_cons : runFp res (l :: code) s = runFp res code (l.exec res s) := rfl

lemma runFp_append : runFp res (code ++ code') s = runFp res code' (runFp res code s) :=
  List.foldl_append

/-- The instruction does not ask for a result. -/
def FpOp.NoArith : FpOp → Prop
  | arith _ _ => False
  | _ => True

/-- Without an arithmetic instruction the results do not matter. -/
lemma runFp_congr (h : ∀ l ∈ code, l.2.NoArith) : runFp res code s = runFp res' code s := by
  induction code generalizing s with
  | nil => rfl
  | cons l code ih =>
    have hl : l.exec res s = l.exec res' s := by
      have hno := h l (by simp)
      obtain ⟨c, op⟩ := l
      cases op with
      | arith f d => exact hno.elim
      | _ => rfl
    rw [runFp_cons, runFp_cons, hl]
    exact ih fun l hl => h l (List.mem_cons_of_mem _ hl)

end Run

end Arm
