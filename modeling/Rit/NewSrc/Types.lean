import Mathlib.Tactic.Common

/-!
# The data types of the instruction generator

The enumerations, the operand and row descriptors and the option record of `new_src`
(`RitCommon.h` and `ubt-stub/cortex-a9.h`), under the source's words.

A C enumeration that is only compared is an inductive type.  One that is also written into
a bit field (`arm_reg_t`, `cond_val_t`, `sh_rt_type_t`, `arm_fp_reg_ext_t`) is the 32-bit
word the compiler gives it, with its enumerators as constants: the sentinels `R_RAND`,
`COND_RAND`, `SH_TYPE_RAND` and `FP_REG_RAND` are ordinary values of that word, and whether
one of them can reach an encoding is a question about the program, not about the type.
-/

namespace Rit

/-- A machine word: `uint32_t`, and every C enumeration written into an encoding. -/
abbrev Word := BitVec 32

/-! ## Machine shifts

The generator is built without optimisation for x86, where a 32-bit shift takes its count
modulo 32.  `1 << 32` is therefore `1`, and the mask expressions of `InstrUtil` depend on
it when a field ends at bit 31. -/

/-- `x << n` on a 32-bit operand. -/
def shl (x : Word) (n : ℕ) : Word := x <<< (n % 32)

/-- `x >> n` on an unsigned 32-bit operand. -/
def shr (x : Word) (n : ℕ) : Word := x >>> (n % 32)

/-! ## Status and instruction set -/

/-- `instr_status_t`. -/
inductive InstrStatus
  | valid
  | unpredictable
  | instUnknown
  | undefined
  | unsupported
  | alias
  | instDiff
  | invalid
  | fixInst
  deriving DecidableEq, Repr

/-- A chain of assignments to `status` ends in `VALID` exactly when no assignment fires. -/
@[simp] lemma InstrStatus.ite_eq_valid {c : Prop} [Decidable c] {a b : InstrStatus}
    (ha : a ≠ .valid) : (if c then a else b) = .valid ↔ ¬ c ∧ b = .valid := by
  by_cases hc : c <;> simp [hc, ha]

@[simp] lemma InstrStatus.ite_eq_valid_of_right {c : Prop} [Decidable c] {a b : InstrStatus}
    (hb : b ≠ .valid) : (if c then a else b) = .valid ↔ c ∧ a = .valid := by
  by_cases hc : c <;> simp [hc, hb]

/-- A chain that assigns no `VALID` and starts from another status keeps away from it. -/
lemma InstrStatus.ite_ne_valid {c : Prop} [Decidable c] {a b : InstrStatus} (ha : a ≠ .valid)
    (hb : b ≠ .valid) : (if c then a else b) ≠ .valid := by
  split <;> assumption

/-- `instr_set_t`. -/
inductive InstrSet
  | armv5
  | armv7
  | thumb
  | thumb32
  | rand
  deriving DecidableEq, Repr

/-- `sbit_val_t`. -/
inductive SbitVal
  | unset
  | set
  | rand
  deriving DecidableEq, Repr

/-- `option_kind_t`, in the order of its bit positions in `opt_status`. -/
inductive OptionKind
  | isa
  | archVersion
  | opKind
  | opcode
  | sbit
  | cond
  | sreg
  | dreg
  | regsList
  | imm
  | shrtReg
  | shImm
  | shrtType
  | fpSregExt
  | fpDregExt
  | fpSzQExt
  | memBaseVal
  | memBaseMsk
  | memOffsetVal
  | allowUnalignMem
  | allowAllInstr
  | allowBiasOpnd
  | allowBiasReg
  | notAllowFixMem
  | notAllowRelax
  | instrBinInit
  | randSeed
  | verbose
  deriving DecidableEq, Repr

/-- The enumerator's value: the bit of `opt_status` it owns. -/
def OptionKind.bit : OptionKind → ℕ
  | .isa => 0
  | .archVersion => 1
  | .opKind => 2
  | .opcode => 3
  | .sbit => 4
  | .cond => 5
  | .sreg => 6
  | .dreg => 7
  | .regsList => 8
  | .imm => 9
  | .shrtReg => 10
  | .shImm => 11
  | .shrtType => 12
  | .fpSregExt => 13
  | .fpDregExt => 14
  | .fpSzQExt => 15
  | .memBaseVal => 16
  | .memBaseMsk => 17
  | .memOffsetVal => 18
  | .allowUnalignMem => 19
  | .allowAllInstr => 20
  | .allowBiasOpnd => 21
  | .allowBiasReg => 22
  | .notAllowFixMem => 23
  | .notAllowRelax => 24
  | .instrBinInit => 25
  | .randSeed => 26
  | .verbose => 27

/-! ## Enumerators that are written into encodings -/

def R_SP : Word := 13
def R_LR : Word := 14
def R_PC : Word := 15
def R_RAND : Word := 16
def COND_AL : Word := 14
def COND_RAND : Word := 15
def SH_TYPE_RAND : Word := 4
def FP_REG_RAND : Word := 2
def INVALID_GPR : Word := 0xff

/-! ## Operand and row descriptors -/

/-- `sisa_opkind_t`. -/
inductive OpKind
  | noOp
  | emptyOp
  | aluOp
  | logOp
  | movOp
  | cmpOp
  | testOp
  | extOp
  | ldOp
  | stOp
  | ldmOp
  | stmOp
  | pushOp
  | popOp
  | jmpOp
  | umulOp
  | mul32Op
  | smulOp
  | smuldOp
  | byteAluOp
  | sByteAluOp
  | bfOp
  | reverseOp
  | ssatOp
  | srOp
  | ldrexOp
  | strexOp
  | miscOp
  | coprOp
  | vfpOp
  | sysOp
  | simdOp
  | lastOp
  | pseudoOp
  | aeabiOp
  | kernelHelperOp
  deriving DecidableEq, Repr

/-- `sisa_opnd_type_t`. -/
inductive OpndType
  | none
  | gpr
  | gprRw
  | shiftReg
  | gprList
  | gprListT
  | gprSet
  | gprMerge
  | gprConst
  | imm
  | immMerge
  | shiftImm
  | shiftImmT
  | immArmExp
  | immThumbExp
  | immZeroExtend
  | immSignExtend
  | immVfpExpand
  | flags
  | vec
  | rotateReg
  | cond
  | fpsr
  | fpdr
  | fpdsr
  | fpqr
  | fpqdr
  | immSimdExp
  deriving DecidableEq, Repr

/-- `sisa_opnd_t`: a field of the encoding and up to two further bit positions whose
meaning depends on the type. -/
structure Opnd where
  startBit : ℕ
  endBit : ℕ
  bit1 : ℕ
  bit2 : ℕ
  type : OpndType
  deriving DecidableEq, Repr

/-- `arm_instr_desc_t`: one row of `glb_instr_tlb`. -/
structure InstrDesc where
  matchVal : Word
  matchMsk : Word
  negVal : Word
  negMsk : Word
  opKind : OpKind
  name : Option String
  output0 : Opnd
  output1 : Opnd
  input0 : Opnd
  input1 : Opnd
  input2 : Opnd
  input3 : Opnd
  deriving DecidableEq, Repr

/-- The operand slots `SISA_FIRST_OUTPUT .. SISA_LAST_OUTPUT`. -/
def InstrDesc.outputs (d : InstrDesc) : List Opnd := [d.output0, d.output1]

/-- The operand slots `SISA_FIRST_INPUT .. SISA_LAST_INPUT`. -/
def InstrDesc.inputs (d : InstrDesc) : List Opnd := [d.input0, d.input1, d.input2, d.input3]

/-! ## The option record -/

/-- `MAX_REG_NUM`: the length of the register arrays of `gen_option_t`. -/
def MAX_REG_NUM : ℕ := 4

/-- `gen_option_t`.  The four register arrays are indexed below `MAX_REG_NUM`. -/
structure GenOption where
  isa : InstrSet
  archVersion : Word
  opcode : Option String
  sbitVal : SbitVal
  condVal : Word
  srcRegs : ℕ → Word
  dstRegs : ℕ → Word
  srcFpRegsExt : ℕ → Word
  dstFpRegsExt : ℕ → Word
  fpSzQBit : Word
  regsList : Word
  immVal : Word
  shiftRotateReg : Word
  shiftImmVal : Word
  shiftRotateType : Word
  memBaseVal : Word
  memBaseMask : Word
  memOffsetVal : Word
  optStatus : Word

/-- `GET_OPT_STAT(x)`. -/
def GenOption.getOptStat (o : GenOption) (k : OptionKind) : Bool := o.optStatus.getLsbD k.bit

/-- `SET_OPT_STAT(x)`. -/
def GenOption.setOptStat (o : GenOption) (k : OptionKind) : GenOption :=
  { o with optStatus := o.optStatus ||| (1#32 <<< k.bit) }

/-- The instruction set is one of the two ARM ones. -/
def InstrSet.isArm : InstrSet → Bool
  | .armv5 => true
  | .armv7 => true
  | _ => false

end Rit
