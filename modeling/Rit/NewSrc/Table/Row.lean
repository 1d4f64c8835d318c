import Rit.NewSrc.Types

/-!
# Row and operand builders

The macros of `ubt-stub/cortex-a9.h` that the three `.def` tables are written in, and the
row macros of `InstrUtil.c`.  `LINK`, `TAIL` and `CONNECT` lines are the inner nodes of the
decode tree; `InstrUtil.c` expands each of them to an all-zero row, so they keep their
position in the opcode numbering and nothing else.
-/

namespace Rit.Table

/-! ## Operand builders -/

/-- `OPNDNA`: the absent operand. -/
def dna : Opnd := ⟨0, 0, 0, 0, .none⟩
def dimm (s e : ℕ) : Opnd := ⟨s, e, 0, 0, .imm⟩
def dimmMerge (hs he ls le : ℕ) : Opnd := ⟨hs, he, ls, le, .immMerge⟩
def dimmArmexp (s e l : ℕ) : Opnd := ⟨s, e, l, 0, .immArmExp⟩
def dimmThumbexp (s e l : ℕ) : Opnd := ⟨s, e, l, 0, .immThumbExp⟩
def dimmSimdexp (s e : ℕ) : Opnd := ⟨s, e, 0, 0, .immSimdExp⟩
def dimmZeroExtend (s e n : ℕ) : Opnd := ⟨s, e, n, 0, .immZeroExtend⟩
def dimmZeroExtendI (s e n i : ℕ) : Opnd := ⟨s, e, n, i, .immZeroExtend⟩
def dimmSignExtend (s e n : ℕ) : Opnd := ⟨s, e, n, 0, .immSignExtend⟩
def dshftimm (s e l h : ℕ) : Opnd := ⟨s, e, l, h, .shiftImm⟩
def dshftimmT (s e l h : ℕ) : Opnd := ⟨s, e, l, h, .shiftImmT⟩
def dimmVfpExpand (hs he ls le : ℕ) : Opnd := ⟨hs, he, ls, le, .immVfpExpand⟩
def drotategpr (s e c d : ℕ) : Opnd := ⟨s, e, c, d, .rotateReg⟩
def dgpr (s e : ℕ) : Opnd := ⟨s, e, 0, 0, .gpr⟩
def dgprRw (s e : ℕ) : Opnd := ⟨s, e, 0, 0, .gprRw⟩
def dshftgpr (s e c d : ℕ) : Opnd := ⟨s, e, c, d, .shiftReg⟩
def dgprList (s e : ℕ) : Opnd := ⟨s, e, 0, 0, .gprList⟩
def dgprSet (s e : ℕ) : Opnd := ⟨s, e, 0, 0, .gprSet⟩
def dgprMerge (s e dn : ℕ) : Opnd := ⟨s, e, dn, 0, .gprMerge⟩
def dgprConst (v : ℕ) : Opnd := ⟨0, 0, v, 0, .gprConst⟩
def dgprListT (s e v p : ℕ) : Opnd := ⟨s, e, v, p, .gprListT⟩
def dcond (s e : ℕ) : Opnd := ⟨s, e, 0, 0, .cond⟩
def fpsr (s e c : ℕ) : Opnd := ⟨s, e, c, 0, .fpsr⟩
def fpdr (s e c : ℕ) : Opnd := ⟨s, e, c, 0, .fpdr⟩
def fpqr (s e c : ℕ) : Opnd := ⟨s, e, c, 0, .fpqr⟩
def fpdsr (s e c d : ℕ) : Opnd := ⟨s, e, c, d, .fpdsr⟩
def fpqdr (s e d q : ℕ) : Opnd := ⟨s, e, d, q, .fpqdr⟩

/-! The operands that most rows have, by the first of their bits (the immediates by their width). -/

def g0 : Opnd := dgpr 0 3
def g8 : Opnd := dgpr 8 11
def g12 : Opnd := dgpr 12 15
def g16 : Opnd := dgpr 16 19
def d0 : Opnd := fpdr 0 3 5
def d12 : Opnd := fpdr 12 15 22
def d16 : Opnd := fpdr 16 19 7
def q0 : Opnd := fpqdr 0 3 5 6
def q12 : Opnd := fpqdr 12 15 22 6
def q16 : Opnd := fpqdr 16 19 7 6
def l0 : Opnd := dgpr 0 2
def l3 : Opnd := dgpr 3 5
def s0 : Opnd := fpsr 0 3 5
def s12 : Opnd := fpsr 12 15 22
def f0 : Opnd := fpdsr 0 3 5 8
def f12 : Opnd := fpdsr 12 15 22 8
def f16 : Opnd := fpdsr 16 19 7 8
def x0 : Opnd := fpqr 0 3 5
def x12 : Opnd := fpqr 12 15 22
def x16 : Opnd := fpqr 16 19 7
def imm8 : Opnd := dimm 0 7
def imm12 : Opnd := dimm 0 11
def shift7 : Opnd := dshftimm 7 11 5 6
def size18 : Opnd := dimm 18 19
def size20 : Opnd := dimm 20 21

/-! ## Row builders -/

/-- The `{0}` initialiser of a row: no name, kind `NO_OP`, empty patterns and operands. -/
def nullRow : InstrDesc := ⟨0, 0, 0, 0, .noOp, none, dna, dna, dna, dna, dna, dna⟩

/-- `DEF_INST`.  The operands that are absent at the end of a row are left out. -/
def inst (op : String) (val0 msk0 val1 msk1 : ℕ) (opKind : OpKind)
    (o0 o1 i0 i1 i2 i3 : Opnd := dna) : InstrDesc :=
  ⟨.ofNat 32 val0, .ofNat 32 msk0, .ofNat 32 val1, .ofNat 32 msk1, opKind, some op,
    o0, o1, i0, i1, i2, i3⟩

/-- `DEF_INST` with `0xffffffff, 0x00000000` as the second pattern, which no word has. -/
def pinst (op : String) (val0 msk0 : ℕ) (opKind : OpKind) (o0 o1 i0 i1 i2 i3 : Opnd := dna) :
    InstrDesc :=
  inst op val0 msk0 0xffffffff 0x00000000 opKind o0 o1 i0 i1 i2 i3

/-- `DEF_INST` with `0xf0000000, 0xf0000000`: the condition is not `1111`. -/
def cinst (op : String) (val0 msk0 : ℕ) (opKind : OpKind) (o0 o1 i0 i1 i2 i3 : Opnd := dna) :
    InstrDesc :=
  inst op val0 msk0 0xf0000000 0xf0000000 opKind o0 o1 i0 i1 i2 i3

/-- `DEF_INST` with `0x0000ffff, 0x00000000`: a halfword, and no second pattern. -/
def hinst (op : String) (val0 msk0 : ℕ) (opKind : OpKind) (o0 o1 i0 i1 i2 i3 : Opnd := dna) :
    InstrDesc :=
  inst op val0 msk0 0x0000ffff 0x00000000 opKind o0 o1 i0 i1 i2 i3

/-- `DEF_INST` with `neg, neg`: some bits of `neg` are not set. -/
def einst (op : String) (val0 msk0 neg : ℕ) (opKind : OpKind) (o0 o1 i0 i1 i2 i3 : Opnd := dna) :
    InstrDesc :=
  inst op val0 msk0 neg neg opKind o0 o1 i0 i1 i2 i3

/-- `DEF_LINK`. -/
def link (_op : String) : InstrDesc := nullRow

/-- `DEF_TAIL`. -/
def tail (_op : String) : InstrDesc := nullRow

/-- `DEF_CONNECT`. -/
def connect (_op : String) : InstrDesc := nullRow

end Rit.Table
