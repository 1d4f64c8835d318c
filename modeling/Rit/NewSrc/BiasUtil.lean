import Rit.NewSrc.State

/-!
# `BiasUtil`: making operand registers coincide

With an operand-bias option the validators redraw which operand registers are equal.  Each
helper takes the registers by value together with the drawn `rand()` value.
-/

namespace Rit

def randomBiasReg2 (randVal reg1 reg2 : Word) : Word × Word :=
  if randVal % 2 = 0 then (reg2, reg2) else (reg1, reg2)

def randomBiasReg3 (randVal reg1 reg2 reg3 : Word) : Word × Word × Word :=
  match (randVal % 8).toNat with
  | 0 | 1 | 2 => (reg3, reg3, reg3)
  | 3 => (reg1, reg2, reg2)
  | 4 => (reg1, reg1, reg3)
  | 5 => (reg3, reg2, reg3)
  | _ => (reg1, reg2, reg3)

def randomBiasReg4 (randVal reg1 reg2 reg3 reg4 : Word) : Word × Word × Word × Word :=
  match (randVal % 16).toNat with
  | 0 | 1 | 2 | 3 => (reg4, reg4, reg4, reg4)
  | 4 => (reg3, reg3, reg3, reg4)
  | 5 => (reg1, reg4, reg4, reg4)
  | 6 => (reg1, reg2, reg1, reg1)
  | 7 => (reg2, reg2, reg3, reg2)
  | 8 => (reg2, reg2, reg3, reg4)
  | 9 => (reg1, reg3, reg3, reg4)
  | 10 => (reg1, reg2, reg4, reg4)
  | 11 => (reg1, reg2, reg3, reg1)
  | 12 => (reg3, reg2, reg3, reg4)
  | 13 => (reg1, reg4, reg3, reg4)
  | _ => (reg1, reg2, reg3, reg4)

end Rit
