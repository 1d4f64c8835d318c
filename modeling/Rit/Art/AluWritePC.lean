import Rit.Art.Listing

/-!
# `instrgen`: arithmetic instructions that write the program counter

Where such an instruction goes is as random as its operands.  `genALUwritePC` therefore emits a copy
of it first that writes `r14` instead, and looks at the result: if it lies outside of an area that
is kept free for this purpose, the instruction itself is jumped over.  Otherwise an instruction that
returns to `r14` is stored where the jump will go, `r14` is set to the end of the sequence, and the
instruction is executed.

In ARM code both words come from the library, which is asked twice with the same seed; the source
then writes its own source registers over the digits of the word.  In Thumb code there are two
instructions to choose from, and they are printed as text.
-/

namespace Rit.Art

open Arm (Reg)
open Listing (Entry)

/-! ## Tables of `arminfo` -/

/-- `arminfo.ARM_ALU_W_PC_sreg_4_0`: two source registers. -/
def armAluWPcSreg40 : List String :=
  ["ADC_reg", "AND_reg", "BIC_reg", "EOR_reg", "ORR_reg", "RSB_reg", "RSC_reg", "SBC_reg",
    "ADD_reg", "SUB_reg"]

/-- `arminfo.ARM_ALU_W_PC_sreg_4`: one source register, in the upper place. -/
def armAluWPcSreg4 : List String :=
  ["ADC_imm", "AND_imm", "ADD_imm", "RSC_imm", "SBC_imm", "BIC_imm", "EOR_imm", "ORR_imm",
    "RSB_imm", "SUB_imm"]

/-- `arminfo.ARM_ALU_W_PC_sreg_0`: one source register, in the lowest place. -/
def armAluWPcSreg0 : List String :=
  ["MOV_reg", "MVN_reg", "LSL_imm", "LSR_imm", "ASR_imm", "ROR_imm", "RRX_imm"]

/-- `arminfo.ARM_ALU_W_PC_sreg_nul`: no source register but the program counter. -/
def armAluWPcSregNul : List String := ["ADR_a1", "ADR_a2", "MOV_imm_a1", "MVN_imm"]

def armAluWPcAll : List String :=
  armAluWPcSreg40 ++ armAluWPcSreg4 ++ armAluWPcSreg0 ++ armAluWPcSregNul

inductive ThumbAluWPc
  | addRegT2
  | movRegT1
  deriving DecidableEq, Repr

/-- `arminfo.ARM_PC_RET` and `arminfo.THUMB_PC_RET`: `bx lr`. -/
def armPcRet : Arm.Word := 0xe12fff1e
def thumbPcRet : Arm.Word := 0x4770

/-- `arminfo.ALU_W_PC_VALID_BEG_ADDR` and `arminfo.ALU_W_PC_VALID_SPACE_SIZE`. -/
def aluWPcValidBegAddr : Arm.Word := 0x10000000
def aluWPcValidSpaceSize : Arm.Word := 0x20000000

/-! ## Draws -/

/-- The labels of the sequence, after the prefix of its block. -/
inductive WpcLabel
  | instPre | instPost | adrOffset | thumbSpring | armSpring | stSpring
  deriving DecidableEq, Repr

/-- The entries of the sequence. -/
abbrev WpcEntry := Entry WpcLabel

/-- `reg_list` when `rn` and `rm` are drawn. -/
def wpcRegs : List Reg := (((regRange 16).erase 15).erase 14).erase 13

/-- The draws of `genALUwritePC`, and the words that the library returns for the destinations `r14`
and `r15`, if it returns any. -/
structure WpcChoice where
  rn : Reg
  rn_mem : rn ∈ wpcRegs
  rm : Reg
  rm_mem : rm ∈ wpcRegs
  ri : Reg
  ri_mem : ri ∈ (wpcRegs.erase rn).erase rm
  rf : Reg
  rf_mem : rf ∈ ((wpcRegs.erase rn).erase rm).erase ri
  cond : Option Arm.Cond
  armOp : String
  armOp_mem : armOp ∈ armAluWPcAll
  thumbOp : ThumbAluWPc
  trial : Option Arm.Word
  final : Option Arm.Word

/-- Four bits of a word replaced: one digit of its text. -/
def putDigit (w : Arm.Word) (r : Reg) (digit : ℕ) : Arm.Word :=
  (w &&& ~~~((0xf : Arm.Word) <<< (4 * digit))) ||| BitVec.ofNat 32 r <<< (4 * digit)

/-- The word that is printed: without the S bit, and with the registers drawn. -/
def WpcChoice.word (r : WpcChoice) (w : Arm.Word) : Arm.Word :=
  let w := w &&& ~~~0x00100000
  if r.armOp ∈ armAluWPcSreg40 then putDigit (putDigit w r.rn 4) r.rm 0
  else if r.armOp ∈ armAluWPcSreg4 then putDigit w r.rn 4
  else if r.armOp ∈ armAluWPcSreg0 then putDigit w r.rn 0
  else w

/-! ## `genALUwritePC` -/

namespace Wpc

variable (r : WpcChoice) (addr : WpcLabel → Arm.Word)

/-- Under a condition, the way around the copy for the case that the condition fails. -/
def skip : List WpcEntry :=
  r.cond.elim [] fun c => [.inst .b (.b (some (invCondcode c)) .instPre)]

/-- The `it` of an instruction. -/
def it : List WpcEntry := r.cond.elim [] fun c => [.it c []]

/-- The copy in ARM code.  An `adr` computes from its own address, so the difference is added. -/
def armTrial : List WpcEntry :=
  match r.trial with
  | none => []
  | some w =>
    .inst .dotInst (.word (r.word w)) ::
      if r.armOp = "ADR_a1" ∨ r.armOp = "ADR_a2" then
        [.mark (.label .adrOffset),
          .inst .add (.op none (.alu .add 14 14 (.imm (addr .instPre - addr .adrOffset + 4))))]
      else []

/-- The copy in Thumb code. -/
def thumbTrial : WpcEntry :=
  match r.thumbOp with
  | .addRegT2 => .inst .add (.op r.cond (.alu .add 14 14 (.reg r.rn)))
  | .movRegT1 => .inst .mov (.op r.cond (.mov 14 (.reg r.rn)))

/-- The flags are saved, `r14` is what the program counter will be, and the copy is executed. -/
def trial (isARM : Bool) : List WpcEntry :=
  .inst .mrs (.op none (.mrs r.rf)) ::
    if isARM then
      .inst .ldr (.op none (.ldrConst 14 (addr .instPre + 8))) :: armTrial r addr
    else
      .inst .ldr (.op none
        (.ldrConst 14 (addr .instPre + if r.cond.isSome then 6 else 4))) ::
        (it r ++ [thumbTrial r])

/-- Whether the result lies in the area. -/
def inArea : List WpcEntry :=
  [.inst .ldr (.op none (.ldrConst r.ri aluWPcValidBegAddr)),
    .inst .subs (.op none (.alus .sub 14 14 (.reg r.ri))),
    .inst .b (.b (some .lt) .instPost),
    .inst .ldr (.op none (.ldrConst r.ri (aluWPcValidSpaceSize - 8))),
    .inst .cmp (.op none (.cmp 14 (.reg r.ri))),
    .inst .b (.b (some .gt) .instPost),
    .inst .ldr (.op none (.ldrConst r.ri aluWPcValidBegAddr)),
    .inst .add (.op none (.alu .add 14 14 (.reg r.ri)))]

/-- In ARM code bit 0 of the result says which instruction set is entered. -/
def whichIsa : List WpcEntry :=
  [.inst .ands (.op none (.alus .and r.ri 14 (.imm 1))),
    .inst .b (.b (some .eq) .armSpring)]

/-- The place of a Thumb instruction, and the instruction. -/
def thumbSpring : List WpcEntry :=
  [.mark (.label .thumbSpring),
    .inst .ldr (.op none (.ldrConst r.ri 0xfffffffe)),
    .inst .and (.op none (.alu .and 14 14 (.reg r.ri))),
    .inst .ldr (.op none (.ldrConst r.ri thumbPcRet))]

/-- The place of an ARM instruction, and the instruction. -/
def armSpring : List WpcEntry :=
  [.inst .b (.b none .stSpring),
    .mark (.label .armSpring),
    .inst .ands (.op none (.alus .and r.ri 14 (.imm 2))),
    .inst .b (.b (some .ne) .instPost),
    .inst .ldr (.op none (.ldrConst r.ri 0xfffffffc)),
    .inst .and (.op none (.alu .and 14 14 (.reg r.ri))),
    .inst .ldr (.op none (.ldrConst r.ri armPcRet))]

/-- The instruction is stored, `r14` is the way back, and the flags are restored. -/
def stSpring (isARM : Bool) : List WpcEntry :=
  [.mark (.label .stSpring),
    .inst .str (.op none (.str (.w r.ri) 14 0)),
    .inst .ldr (.op none (.ldrConst 14 (addr .instPost + if isARM then 0 else 1))),
    .inst .msr (.op none (.msr r.rf)),
    .inst .isb (.op none .nop)]

/-- The instruction itself. -/
def final (isARM : Bool) : List WpcEntry :=
  if isARM then r.final.elim [] fun w => [.inst .dotInst (.word (r.word w))]
  else
    it r ++ match r.thumbOp with
      | .addRegT2 => [.inst .add (.addPc r.cond r.rn)]
      | .movRegT1 => [.inst .mov (.movPc r.cond r.rn)]

end Wpc

/-- `genALUwritePC`; `addr` gives the values of the labels in literals. -/
def genALUwritePC (isARM : Bool) (r : WpcChoice) (addr : WpcLabel → Arm.Word) : List WpcEntry :=
  Wpc.skip r ++ Wpc.trial r addr isARM ++ Wpc.inArea r ++
    (if isARM then Wpc.whichIsa r else []) ++ Wpc.thumbSpring r ++
    (if isARM then Wpc.armSpring r else []) ++ Wpc.stSpring r addr isARM ++
    .mark (.label .instPre) :: Wpc.final r isARM ++ [.mark .align, .mark (.label .instPost)]

end Rit.Art
