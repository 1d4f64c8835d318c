import Mathlib.Data.Fintype.Basic
import Rit.Lib.PyLit
import Rit.Lib.Tally

/-!
# `rit_cov.py`: counting coverage items

A raw log is the trace of a simulated run.  Each of its `INST:` lines describes one executed
instruction, in three parts with `###` between them: fields `key="value"`, the address with the
encoding, and the disassembly.  `parseLine` turns the line into an item, which puts the values of
most fields into classes, and `logInstInfo` counts the items of several logs.  The counts are
appended to a log of items, one line for each, and `mergeLogs` adds such logs up.

The printed warnings are left out, except that printing can itself raise: the warning about an
unknown `isa` names a variable that does not exist, and the trace of `imm` reads two values.
-/

namespace Rit.RitCov

open PyStr PyInt PyLit
open Draw (PyErr)

/-! ## Items -/

/-- `TBEntry`: the columns of an item. -/
inductive TBEntry
  | isa | opkind | op | sbit | cond | d1 | d2 | s1 | s2 | s3 | s4 | shiftType | shiftImm | shiftReg
  | immBit | immVal | rotateReg | vecStride | vecLen | puw | round | fprVal1 | fprVal2 | fprVal3
  | fprVal4 | misc
  deriving DecidableEq, Repr

def isaTb : List TBEntry :=
  [.isa, .opkind, .op, .sbit, .cond, .d1, .d2, .s1, .s2, .s3, .s4, .shiftType, .shiftImm, .shiftReg,
    .immBit, .immVal, .rotateReg, .vecStride, .vecLen, .puw, .round, .fprVal1, .fprVal2, .fprVal3,
    .fprVal4, .misc]

def strNA : Str := "NA".toList

/-- A parsed line: the value of each column, and `inst_addr` if the line had three parts. -/
structure Parsed where
  col : TBEntry → Str := fun _ => strNA
  addr : Option ℤ := none

/-- `item[c] = v`. -/
def Parsed.set (item : Parsed) (c : TBEntry) (v : Str) : Parsed :=
  { item with col := Function.update item.col c v }

/-- The tuple of the columns, which is the key the item is counted under. -/
abbrev Key := List Str

def Parsed.key (item : Parsed) : Key := isaTb.map item.col

/-! ## The classes of values -/

/-- `S_REG_BASE`, `D_REG_BASE` and `Q_REG_BASE`. -/
def sRegBase : ℤ := 64
def dRegBase : ℤ := 128
def qRegBase : ℤ := 256

def parseReg (input : Str) : Except PyErr Str :=
  if input = ['-'] then .ok strNA
  else do
    let r ← intOf 10 input
    return if 0 ≤ r ∧ r < 16 then
      if r ≤ 12 then
        if 7 < r then "8,12".toList else if 3 < r then "4,7".toList else "0,3".toList
      else decInt r
    else if qRegBase ≤ r then
      let qr := r - qRegBase
      if qr ≤ 7 then "0,7".toList else if qr ≤ 15 then "8,15".toList else strNA
    else if dRegBase ≤ r then
      let dr := r - dRegBase
      if dr ≤ 15 then "0,15".toList else if dr ≤ 31 then "16,31".toList else strNA
    else if sRegBase ≤ r then
      let sr := r - sRegBase
      if sr % 2 = 0 then "EVEN".toList else "ODD".toList
    else strNA

def parseShiftType (input : Str) : Str := input

def parseShiftImm (input : Str) : Except PyErr Str :=
  if input = ['-'] then .ok strNA
  else do
    let v ← intOf 16 input
    return if 1 < v ∧ v < 30 then "2,29".toList else if 31 < v ∨ v < 0 then strNA else decInt v

def parseShiftReg (input : Str) : Except PyErr Str :=
  if input = ['-'] then .ok strNA
  else do
    let v ← intOf 16 input
    return if v < 34 then
      if 1 < v ∧ v < 30 then "2,29".toList else decInt v
    else if v < 257 then
      if 253 < v then decInt v else "34,253".toList
    else if v = 0xfffffffe then "4294967294".toList
    else if v = 0xffffffff then "4294967295".toList
    else "257,4294967293".toList

def parseSingleVfpVal (input : Str) : Except PyErr Str := do
  let v ← intOf 16 input
  return if v = 0 then "0".toList
    else if 1 ≤ v ∧ v ≤ 0x7fffff then "1,8388607".toList
    else if 0x00800000 ≤ v ∧ v ≤ 0x7f7fffff then "8388608,2139095039".toList
    else if v = 0x7f800000 then "2139095040".toList
    else if 0x7f800001 ≤ v ∧ v ≤ 0x7fffffff then "2139095041,2147483647".toList
    else if v = 0x80000000 then "2147483648".toList
    else if 0x80000001 ≤ v ∧ v ≤ 0x807fffff then "2147483649,2155872255".toList
    else if 0x80800000 ≤ v ∧ v ≤ 0xff7fffff then "2155872256,4286578687".toList
    else if v = 0xff800000 then "4286578688".toList
    else "4286578689,4294967295".toList

def parseDoubleVfpVal (input : Str) : Except PyErr Str := do
  let v ← intOf 16 input
  return if v = 0 then "0".toList
    else if 1 ≤ v ∧ v ≤ 0x000fffffffffffff then "1,4503599627370495".toList
    else if 0x0010000000000000 ≤ v ∧ v ≤ 0x7fefffffffffffff then
      "4503599627370496,9218868437227405311".toList
    else if v = 0x7ff0000000000000 then "9218868437227405312".toList
    else if 0x7ff0000000000001 ≤ v ∧ v ≤ 0x7fffffffffffffff then
      "9218868437227405313,9223372036854775807".toList
    else if v = 0x8000000000000000 then "9223372036854775808".toList
    else if 0x8000000000000001 ≤ v ∧ v ≤ 0x800fffffffffffff then
      "9223372036854775809,9227875636482146303".toList
    else if 0x8010000000000000 ≤ v ∧ v ≤ 0xffefffffffffffff then
      "9227875636482146304,18442240474082181119".toList
    else if v = 0xfff0000000000000 then "18442240474082181120".toList
    else "18442240474082181121,18446744073709551615".toList

def parseVfpVal (type input : Str) : Except PyErr Str :=
  if input = ['-'] then .ok strNA
  else if type = ['s'] then parseSingleVfpVal input
  else if type = ['d'] then parseDoubleVfpVal input
  else .ok strNA

/-- The largest value of the class in the middle, for each width that has one. -/
def immTop : List (ℤ × ℤ) :=
  [(3, 5), (4, 0xd), (5, 0x1d), (6, 0x3d), (7, 0x7d), (8, 0xfd), (10, 0x3fd), (11, 0x7fd),
    (12, 0xffd), (24, 0xfffffd), (16, 0xfffd), (17, 0x1fffd), (21, 0x1ffffd)]

/-- `parse_imm`.  Its test for a `-` compares a number with a string, so it is never true. -/
def parseImm (strBit strVal : Str) : Except PyErr Str := do
  let bit ← intOf 10 strBit
  let val ← intOf 10 strVal
  return match immTop.lookup bit with
    | none => strVal
    | some top => if 2 ≤ val ∧ val ≤ top then "2,".toList ++ decInt top else strVal

/-! ## A line -/

/-- `if v != '-': item[c] = f(v)`. -/
def setUnless (item : Parsed) (c : TBEntry) (f : Str → Except PyErr Str) (v : Str) :
    Except PyErr Parsed :=
  if v = ['-'] then .ok item else return item.set c (← f v)

/-- A value of the field `vfp_val`: the type and the value, with `#` between them. -/
def parseTyped (v : Str) : Except PyErr Str :=
  match v.splitOn '#' with
  | type :: input :: _ => parseVfpVal type input
  | _ => .error .indexError

/-- One field of the first part. -/
def parseField (item : Parsed) (k v : Str) : Except PyErr Parsed :=
  let tmps := v.splitOn ','
  if k = "isa".toList then
    if v = ['0'] then .ok (item.set .isa ['A'])
    else if v = ['1'] then .ok (item.set .isa ['T'])
    else .error .nameError
  else if k = "opk".toList then .ok (item.set .opkind v)
  else if k = "src".toList then
    match tmps with
    | [t₀, t₁, t₂, t₃] => do
      let item := item.set .s1 (← parseReg t₀)
      let item := item.set .s2 (← parseReg t₁)
      let item := item.set .s3 (← parseReg t₂)
      return item.set .s4 (← parseReg t₃)
    | _ => .ok item
  else if k = "dst".toList then
    match tmps with
    | [t₀, t₁] => do
      let item := item.set .d1 (← parseReg t₀)
      return item.set .d2 (← parseReg t₁)
    | _ => .ok item
  else if k = "shift".toList then
    match tmps with
    | [t₀, t₁, t₂] => do
      let item ← setUnless item .shiftType (.ok ∘ parseShiftType) t₀
      let item ← setUnless item .shiftImm parseShiftImm t₁
      setUnless item .shiftReg parseShiftReg t₂
    | _ => .ok item
  else if k = "c".toList then
    .ok (if v = ['0'] then item.set .cond "AL".toList
      else if v = ['1'] then item.set .cond "NAL".toList else item)
  else if k = "s".toList then
    .ok (if v = ['0'] ∨ v = ['1'] then item.set .sbit v else item)
  else if k = "imm".toList then
    match tmps with
    | [t₀, t₁] =>
      if t₀ = ['-'] then .ok item
      else do
        let item := item.set .immBit t₀
        return item.set .immVal (← parseImm t₀ t₁)
    | _ :: _ :: _ => .ok item
    | _ => .error .indexError
  else if k = "rotate_reg".toList then setUnless item .rotateReg .ok v
  else if k = "vfp".toList then
    match tmps with
    | [t₀, t₁, t₂, t₃] => do
      let item ← setUnless item .vecStride .ok t₀
      let item ← setUnless item .vecLen .ok t₁
      let item ← setUnless item .puw .ok t₂
      setUnless item .round .ok t₃
    | _ => .ok item
  else if k = "vfp_val".toList then
    match tmps with
    | [t₀, t₁, t₂, t₃] => do
      let item ← setUnless item .fprVal1 parseTyped t₀
      let item ← setUnless item .fprVal2 parseTyped t₁
      let item ← setUnless item .fprVal3 parseTyped t₂
      setUnless item .fprVal4 parseTyped t₃
    | _ => .ok item
  else .ok item

/-- One word of the first part; words without `=` are passed over. -/
def parseWord (item : Parsed) (substr : Str) : Except PyErr Parsed :=
  if '=' ∈ substr then
    let idx := substr.idxOf '='
    parseField item (substr.take idx) (substr.drop (idx + 2)).dropLast
  else .ok item

/-- The opcode of the disassembly: its first word up to a dot, without the `s` that `sbit` says. -/
def parseOp (item : Parsed) (disinst : Str) : Except PyErr Str :=
  match split (strip disinst) with
  | [] => .error .indexError
  | w :: _ =>
    let op := (w.splitOn '.').headD []
    if item.col .sbit = ['1'] then
      match op.getLast? with
      | none => .error .indexError
      | some z => .ok (if z = 's' then op.dropLast else op)
    else .ok op

def parseLine (line : Str) : Except PyErr Parsed :=
  match splitStr "###".toList line with
  | [instinfo, hexcode, disinst] => do
    let item ← (split (strip instinfo)).foldlM parseWord {}
    let item := item.set .op (← parseOp item disinst)
    let instAddr ← intOf 16 (((strip hexcode).splitOn ':').headD [])
    return { item with addr := some instAddr }
  | _ => .ok {}

/-! ## Counting -/

/-- The dictionary `all_items`, and the set `all_addrs` of the current file. -/
structure Counts where
  items : Tally.Dict Key
  addrs : List ℤ

/-- The body of the loop, behind the parser. -/
def Counts.add (c : Counts) (item : Key) (addr : ℤ) : Counts :=
  if item ∈ c.items then
    if addr ∈ c.addrs then c
    else ⟨c.items.insert item (Tally.count c.items item + 1), addr :: c.addrs⟩
  else ⟨c.items.insert item 1, addr :: c.addrs⟩

/-- `l.startswith("INST:")`. -/
def isInst (l : Str) : Bool := startsWith l "INST:".toList

/-- One line of a file. -/
def logLine (c : Counts) (l : Str) : Except PyErr Counts :=
  if isInst l then do
    let item ← parseLine l
    let addr ← item.addr.elim (.error .keyError) .ok
    return c.add item.key addr
  else .ok c

/-- One file. -/
def logFile (items : Tally.Dict Key) (lines : List Str) : Except PyErr (Tally.Dict Key) := do
  let c ← lines.foldlM logLine ⟨items, []⟩
  return c.items

/-- The dictionary that `logInstInfo` makes of the lines of its files. -/
def logItems (files : List (List Str)) : Except PyErr (Tally.Dict Key) := files.foldlM logFile ∅

/-! ## Files -/

/-- The files by their names. -/
abbrev Files := Str → Option Str

/-- `open(f, 'r').read()`. -/
def readFile (fs : Files) (f : Str) : Except PyErr Str := (fs f).elim (.error .ioError) .ok

def fname : Str := "rit.ilog".toList

/-- `os.path.join(dst, FNAME)`. -/
def joinPath (dst : Str) : Str :=
  if dst = [] ∨ dst.getLast? = some '/' then dst ++ fname else dst ++ '/' :: fname

/-- The order in which a dictionary gives its items, which depends on how it is hashed. -/
structure ItemOrder where
  items : Tally.Dict Key → List (Key × ℕ)
  perm : ∀ d, (items d).Perm (Tally.items d)

/-- `"%s: %d" % (k, v)`. -/
def itemLine (e : Key × ℕ) : Str := PyLit.reprTuple e.1 ++ ':' :: ' ' :: dec e.2

/-- The text that is written for some items. -/
def itemText (es : List (Key × ℕ)) : Str := es.flatMap fun e => itemLine e ++ ['\n']

/-- `saveItemsToFile`, which appends. -/
def saveItemsToFile (o : ItemOrder) (name : Str) (items : Tally.Dict Key) (fs : Files) : Files :=
  Function.update fs name (some ((fs name).getD [] ++ itemText (o.items items)))

def logInstInfo (o : ItemOrder) (dst : Str) (files : List Str) (fs : Files) :
    Except PyErr Files := do
  let logs ← files.mapM (readFile fs)
  let allItems ← logItems (logs.map readlines)
  return saveItemsToFile o (joinPath dst) allItems fs

/-- The key and the count of a line.  What `eval` cannot read stands for any of its exceptions. -/
def parseItem (l : Str) : Except PyErr (Key × ℕ) := do
  let subs := l.splitOn ':'
  let key ← (evalTuple (subs.headD [])).elim (.error .syntaxError) .ok
  let text ← subs[1]?.elim (.error .indexError) .ok
  let count ← (evalNum text).elim (.error .syntaxError) .ok
  return (key, count)

/-- A line of `mergeLogs`. -/
def mergeLine (items : Tally.Dict Key) (l : Str) : Except PyErr (Tally.Dict Key) := do
  let e ← parseItem l
  return Tally.bump items e.1 e.2

/-- A file of `mergeLogs`. -/
def mergeFile (fs : Files) (items : Tally.Dict Key) (f : Str) : Except PyErr (Tally.Dict Key) := do
  let content ← readFile fs f
  (readlines content).foldlM mergeLine items

def mergeLogs (o : ItemOrder) (dst : Str) (files : List Str) (fs : Files) : Except PyErr Files := do
  let allItems ← files.foldlM (mergeFile fs) ∅
  return saveItemsToFile o (joinPath dst) allItems fs

end Rit.RitCov
