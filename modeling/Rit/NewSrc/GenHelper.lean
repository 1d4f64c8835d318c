import Rit.NewSrc.State

/-!
# `GenHelper`: memory operands

The helpers that make a generated load or store hit mapped memory: `fix_mem_base` prints
instructions that force the base register's masked bits, `gen_pre_instr_for_mem_base` loads
the base register outright, and `get_rand_mem_offset` picks an offset register value whose
shifted value is small.
-/

namespace Rit

open GenState

/-- The number of steps one of the counting loops of `is_imm_encodable` makes before it
meets a set bit. -/
def zeroRun (imm : Word) (idxs : List ℕ) : ℕ :=
  (idxs.takeWhile fun idx => imm &&& shl 1 idx = 0).length

def isImmEncodable (o : GenOption) (imm : Word) : Bool :=
  if o.isa.isArm then
    let cnt := zeroRun imm (List.range 32) + zeroRun imm ((List.range 32).map (31 - ·))
    if cnt ≥ 24 then true
    else
      let cnt := zeroRun imm ((List.range 16).map (15 - ·)) +
        zeroRun imm ((List.range 16).map (16 + ·))
      decide (cnt ≥ 24)
  else false

/-! ## Base registers -/

/-- The lines of `gen_pre_instr_for_mem_base`, for the base value `baseRand`. -/
def preInstrLines (o : GenOption) (regBase baseRand : Word) : List Line :=
  let tmpReg : Word := if regBase ≠ 0 then 0 else 1
  let load : List Line :=
    if o.isa = .thumb ∧ regBase > 7 then
      [.code (.ldrMemData tmpReg), .code (.mov regBase tmpReg)]
    else [.code (.ldrMemData regBase)]
  load ++ [.code (.ldr tmpReg baseRand), .code (.add regBase regBase tmpReg)]

/-- `gen_pre_instr_for_mem_base`: the offset from `mem_data` the base is given, and the
state with the lines that give it. -/
def genPreInstrForMemBase (regBase : Word) (s : GenState) : Word × GenState :=
  if regBase = R_PC then (0, s)
  else
    let baseRand : Word := 0x600000
    -- the only `rand()` here sits behind the unaligned-access option, and both of its
    -- outcomes leave the constant as it is
    let baseRand := if s.optStat .allowUnalignMem ∧ s.nextRand % 8 ≠ 0 then baseRand / 4 * 4
      else baseRand
    let s' := if s.optStat .allowUnalignMem then s.afterRand else s
    (baseRand, s'.insertInstrs (preInstrLines s.options regBase baseRand))

/-- The lines of `fix_mem_base`. -/
def fixMemBaseLines (o : GenOption) (regBase : Word) (forceAlign : Bool) : List Line :=
  let unsetMask := ~~~o.memBaseVal &&& o.memBaseMask
  let setMask := o.memBaseVal &&& o.memBaseMask
  let tmpReg : Word := if regBase ≠ 0 then 0 else 1
  let viaR2 : Bool := o.isa = .thumb ∧ regBase > 7
  let regBaseT : Word := if viaR2 then regBase else 0
  let regBase : Word := if viaR2 then 2 else regBase
  let copyIn : List Line := if viaR2 then [.inst (.mov regBase regBaseT)] else []
  if regBase = R_PC then copyIn
  else
    let unsetMask := if forceAlign then unsetMask ||| 3 else unsetMask
    let body : List Line :=
      if o.isa = .thumb then
        [.code (.ldr tmpReg unsetMask), .code (.bics regBase tmpReg),
          .code (.ldr tmpReg setMask), .code (.orrs regBase tmpReg)]
      else
        (if isImmEncodable o unsetMask then [.code (.bicImm regBase regBase unsetMask)]
          else [.code (.ldr tmpReg unsetMask), .code (.bic regBase tmpReg)]) ++
        (if isImmEncodable o setMask then [.code (.orrImm regBase regBase setMask)]
          else [.code (.ldr tmpReg setMask), .code (.orr regBase tmpReg)])
    let align : List Line := if forceAlign then [.inst (.bicThree regBase regBase)] else []
    let copyOut : List Line :=
      if o.isa = .thumb ∧ regBaseT > 7 then [.inst (.mov regBaseT regBase)] else []
    copyIn ++ body ++ align ++ copyOut

def fixMemBase (regBase : Word) (forceAlign : Bool) (s : GenState) : GenState :=
  s.insertInstrs (fixMemBaseLines s.options regBase forceAlign)

/-! ## Offset registers -/

/-- What `get_rand_mem_offset` computes from the drawn value `regVal`: the value for the
offset register and the shifted offset.  `32 - shiftN` is a subtraction of `uint32_t`.  For
an unknown shift type the source returns its `result` without having assigned it; `junk` is
what it then holds. -/
def randMemOffset (junk shiftT shiftN regVal : Word) : Word × Word :=
  let n := shiftN.toNat
  let n' := (32 - shiftN).toNat
  if shiftT = 0 then
    let shiftMask := if n < 12 then shr 0xfff n ||| shl 0xfff n' else shl 0xffffffff n'
    let regVal := regVal &&& shiftMask
    (regVal, shl regVal n)
  else if shiftT = 1 then
    let shiftMask := if n < 20 then shr 0xffffffff (20 - n) else 0xffffffff
    let regVal := regVal &&& shiftMask
    (regVal, if n < 32 then shr regVal n else 0)
  else if shiftT = 2 then
    let shiftMask := if n < 20 then shr 0xffffffff (20 - n) else 0x7fffffff
    let regVal := regVal &&& shiftMask
    (regVal, if n < 32 then regVal.sshiftRight n else 0)
  else if shiftT = 3 then
    if n = 0 then
      let regVal := regVal &&& shr 0xffffffff 19
      (regVal, shr regVal 1)
    else
      let regVal := regVal &&& (shl 0xfff n ||| shr 0xfff n')
      (regVal, shr regVal n ||| shl regVal n')
  else (regVal, junk)

/-- `get_rand_mem_offset`: the offset-register value, the shifted offset, and the state
after the draw.  For RRX it stores the condition `CC` in the options. -/
def getRandMemOffset (shiftT shiftN : Word) (s : GenState) : (Word × Word) × GenState :=
  let res := randMemOffset (s.uninit 0) shiftT shiftN s.nextRand
  let s := s.afterRand
  -- "exec when C == 0"
  let s := if shiftT = 3 ∧ shiftN = 0 then
      { s with options := { s.options with condVal := 3 } }
    else s
  (res, s)

def isMemAlign (o : GenOption) (addr : Word) (alignBit : ℕ) : Bool :=
  let mask := shl 1 alignBit - 1
  !(o.getOptStat .allowUnalignMem && addr &&& mask ≠ 0)

end Rit
