import Rit.NewSrc.InstrUtil

/-!
# Emitted lines and the generator's state

The generator communicates through text lines.  A line is kept here as the instruction it
spells (`Asm`) under the tag it is printed with; `Line.text` is the exact text the source's
`sprintf` formats produce.

`GenState` collects the globals of `RandomInstrGen.c`.  Two fields stand for the outside:
`randStream` is what the calls of `rand()` still to come will return (31 bits, `RAND_MAX` of
the C library), and `uninit` supplies the values of locals that are read before they are
assigned.
-/

namespace Rit

/-! ## Lines -/

/-- The assembly the generator prints, one constructor for each format string. -/
inductive Asm
  /-- `ldr r%d, =0x%x` -/
  | ldr (rd val : Word)
  /-- `ldr.w r%d, =0x%x` -/
  | ldrW (rd val : Word)
  /-- `ldr r%d, =mem_data` -/
  | ldrMemData (rd : Word)
  /-- `mov r%d, r%d` -/
  | mov (rd rm : Word)
  /-- `add r%d, r%d, r%d` -/
  | add (rd rn rm : Word)
  /-- `bic r%d, r%d, #0x%x` -/
  | bicImm (rd rn imm : Word)
  /-- `bic r%d, r%d, #3` -/
  | bicThree (rd rn : Word)
  /-- `bic r%d, r%d` -/
  | bic (rd rm : Word)
  /-- `bics r%d, r%d` -/
  | bics (rd rm : Word)
  /-- `orr r%d, r%d, #0x%x` -/
  | orrImm (rd rn imm : Word)
  /-- `orr r%d, r%d` -/
  | orr (rd rm : Word)
  /-- `orrs r%d, r%d` -/
  | orrs (rd rm : Word)
  /-- `.inst 0x%08x` -/
  | inst (word : Word)
  /-- `.inst.n 0x%04x` -/
  | instN (half : Word)
  /-- `.inst.w 0x%08x` -/
  | instW (word : Word)
  deriving DecidableEq, Repr

/-- A line of `instr_buf` or `init_instr_buf`. -/
inductive Line
  | code (asm : Asm)
  | inst (asm : Asm)
  | instInfo (text : String)
  deriving DecidableEq, Repr

/-- `%x`. -/
def hex (v : Word) : String := String.ofList (Nat.toDigits 16 v.toNat)

/-- `%0nx`. -/
def hexPad (n : ℕ) (v : Word) : String :=
  let digits := Nat.toDigits 16 v.toNat
  String.ofList (List.replicate (n - digits.length) '0' ++ digits)

/-- `r%d`. -/
def reg (v : Word) : String := "r" ++ toString v.toNat

/-- The text of an instruction. -/
def Asm.text : Asm → String
  | .ldr rd val => "ldr " ++ reg rd ++ ", =0x" ++ hex val
  | .ldrW rd val => "ldr.w " ++ reg rd ++ ", =0x" ++ hex val
  | .ldrMemData rd => "ldr " ++ reg rd ++ ", =mem_data"
  | .mov rd rm => "mov " ++ reg rd ++ ", " ++ reg rm
  | .add rd rn rm => "add " ++ reg rd ++ ", " ++ reg rn ++ ", " ++ reg rm
  | .bicImm rd rn imm => "bic " ++ reg rd ++ ", " ++ reg rn ++ ", #0x" ++ hex imm
  | .bicThree rd rn => "bic " ++ reg rd ++ ", " ++ reg rn ++ ", #3"
  | .bic rd rm => "bic " ++ reg rd ++ ", " ++ reg rm
  | .bics rd rm => "bics " ++ reg rd ++ ", " ++ reg rm
  | .orrImm rd rn imm => "orr " ++ reg rd ++ ", " ++ reg rn ++ ", #0x" ++ hex imm
  | .orr rd rm => "orr " ++ reg rd ++ ", " ++ reg rm
  | .orrs rd rm => "orrs " ++ reg rd ++ ", " ++ reg rm
  | .inst word => ".inst 0x" ++ hexPad 8 word
  | .instN half => ".inst.n 0x" ++ hexPad 4 half
  | .instW word => ".inst.w 0x" ++ hexPad 8 word

/-- The text of a line, tag included. -/
def Line.text : Line → String
  | .code asm => "[CODE] " ++ asm.text
  | .inst asm => "[INST] " ++ asm.text
  | .instInfo text => "[INSTINFO] " ++ text

/-! ## State -/

/-- The globals of `RandomInstrGen.c`.  The two line buffers hold the lines written so far,
so `instr_idx` and `init_instr_idx` are their lengths.  `opkindList` is total: an index past
the array reads whatever memory follows it. -/
structure GenState where
  options : GenOption
  shadowOptions : GenOption
  isRegInit : ℕ → Bool
  regInitVals : ℕ → Word
  instrBuf : List Line
  initInstrBuf : List Line
  instrFixedBit : Word
  curFixedBit : Word
  isSetFixedBit : Bool
  isOprandInit : Bool
  isRegBitCut : Bool
  rawInstr : Word
  printBuf : List String
  sregIdx : ℕ
  dregIdx : ℕ
  fpSregExtIdx : ℕ
  fpDregExtIdx : ℕ
  opkindList : ℕ → Bool
  randStream : ℕ → BitVec 31
  uninit : ℕ → Word

namespace GenState

/-- `GET_OPT_STAT(x)` on the current options. -/
def optStat (s : GenState) (k : OptionKind) : Bool := s.options.getOptStat k

def setRawInstr (w : Word) (s : GenState) : GenState := { s with rawInstr := w }

/-- `insert_instr`, for the lines one caller writes in order. -/
def insertInstrs (ls : List Line) (s : GenState) : GenState :=
  { s with instrBuf := s.instrBuf ++ ls }

/-- The value the next call of `rand()` returns. -/
def nextRand (s : GenState) : Word := (s.randStream 0).setWidth 32

/-- The state after one call of `rand()`. -/
def afterRand (s : GenState) : GenState := { s with randStream := fun i => s.randStream (i + 1) }

end GenState

/-- `is_oprand_init = true`, the last statement of the load and store generators of ARM and
16-bit Thumb. -/
def setOprandInit (r : InstrStatus × GenState) : InstrStatus × GenState :=
  (r.1, { r.2 with isOprandInit := true })

@[simp] lemma setOprandInit_fst (r : InstrStatus × GenState) : (setOprandInit r).1 = r.1 := rfl

end Rit
