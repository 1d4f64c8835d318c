import Rit.Lib.Interleave
import Rit.NewSrc.InstrGenerator

/-!
# The parameter parser as keyed actions

Whether a parameter is accepted depends on the parameter alone, and accepting it changes the
fields of its own kind and the kind's bit of `opt_status`.  `paraEffect` writes the effect
without branches, so that effects of different kinds commute field by field; the parser is then
an instance of keyed actions and only the order within a kind matters.
-/

namespace Rit

open GenState

/-- A parameter: an option kind and a value. -/
abbrev Para := OptionKind × ParaVal

/-- One round of the loop over the parameters. -/
def parsePara (seeded : Int → ℕ → BitVec 31) : Para → GenState → Option GenState
  | (k, .long v) => parseLongPara seeded k v
  | (k, .str v) => parseStringPara k v

lemma parseParas_eq_runAll (seeded : Int → ℕ → BitVec 31) (ps : List Para) (s : GenState) :
    parseParas seeded ps s = Interleave.runAll (parsePara seeded) ps s := by
  induction ps generalizing s with
  | nil => rfl
  | cons p ps ih =>
    have hrest : parseParas seeded ps = Interleave.runAll (parsePara seeded) ps := funext ih
    obtain ⟨k, v | v⟩ := p
    · exact congrArg (parseLongPara seeded k v s).bind hrest
    · exact congrArg (parseStringPara k v s).bind hrest

/-! ## Acceptance -/

/-- The kinds that take a string. -/
def OptionKind.isString : OptionKind → Bool
  | .opKind | .opcode => true
  | _ => false

/-- The parameter's value has the type its kind needs. -/
def paraAccepted : Para → Bool
  | (k, .long _) => !k.isString
  | (k, .str _) => k.isString

/-! ## Effects -/

section Own

variable {α : Type} (a : OptionKind) (p q : Para)

/-- The new value of a field that the long parameters of kind `a` set. -/
def own (f : Int → α → α) (x : α) : α :=
  if p.1 = a then
    match p.2 with
    | .long v => f v x
    | .str _ => x
  else x

/-- The new value of a field that the string parameters of kind `a` set. -/
def ownStr (f : String → α → α) (x : α) : α :=
  if p.1 = a then
    match p.2 with
    | .long _ => x
    | .str v => f v x
  else x

variable {a p q}

lemma own_of_ne (h : p.1 ≠ a) (f : Int → α → α) (x : α) : own a p f x = x := if_neg h

lemma ownStr_of_ne (h : p.1 ≠ a) (f : String → α → α) (x : α) : ownStr a p f x = x := if_neg h

/-- What the owner's updates keep holds after any parameter. -/
lemma own_induction {P : α → Prop} {f : Int → α → α} {x : α} (hx : P x)
    (hf : ∀ v, P (f v x)) : P (own a p f x) := by
  unfold own
  split
  · split
    · exact hf _
    · exact hx
  · exact hx

/-- At most one of two parameters of different kinds owns a field. -/
lemma own_comm (h : p.1 ≠ q.1) (f : Int → α → α) (x : α) :
    own a p f (own a q f x) = own a q f (own a p f x) := by
  by_cases hp : p.1 = a
  · have hq : q.1 ≠ a := fun hq => h (hp.trans hq.symm)
    rw [own_of_ne hq, own_of_ne hq]
  · rw [own_of_ne hp, own_of_ne hp]

lemma ownStr_comm (h : p.1 ≠ q.1) (f : String → α → α) (x : α) :
    ownStr a p f (ownStr a q f x) = ownStr a q f (ownStr a p f x) := by
  by_cases hp : p.1 = a
  · have hq : q.1 ≠ a := fun hq => h (hp.trans hq.symm)
    rw [ownStr_of_ne hq, ownStr_of_ne hq]
  · rw [ownStr_of_ne hp, ownStr_of_ne hp]

end Own

/-- The next entry of a register array and the index after it; a full array ignores the entry. -/
def pushEntry (val : Word) (arr : (ℕ → Word) × ℕ) : (ℕ → Word) × ℕ :=
  if arr.2 ≥ MAX_REG_NUM then arr else (setEntry arr.1 arr.2 val, arr.2 + 1)

/-- The enabled kinds after `update_opkind_str`. -/
def enabledKinds (str : String) (kinds : ℕ → Bool) : ℕ → Bool :=
  fun i =>
    if i < opkindNames.length then
      (opkindTokens str.toList).any fun t => t.isPrefixOf (opkindNames.getD i "").toList
    else kinds i

/-- Whether the parameter sets its bit of `opt_status`. -/
def paraMarks (s : GenState) : Para → Bool
  | (.sreg, _) => s.sregIdx < MAX_REG_NUM
  | (.dreg, _) => s.dregIdx < MAX_REG_NUM
  | (.fpSregExt, _) => s.fpSregExtIdx < MAX_REG_NUM
  | (.fpDregExt, _) => s.fpDregExtIdx < MAX_REG_NUM
  | (.allowUnalignMem, .long v) | (.allowAllInstr, .long v) | (.allowBiasOpnd, .long v)
  | (.allowBiasReg, .long v) | (.notAllowFixMem, .long v) | (.notAllowRelax, .long v)
  | (.verbose, .long v) => v ≠ 0
  | _ => true

/-- The options an accepted parameter leaves, apart from `opt_status`: each field and the kind
that owns it. -/
def optEffect (p : Para) (s : GenState) : GenOption :=
  let o := s.options
  { o with
    isa := own .isa p (fun v _ => isaOfIdx (clampLong 4 v)) o.isa
    archVersion := own .archVersion p (fun v _ => if v ≤ 0 then 5 else wordOfLong v) o.archVersion
    opcode := ownStr .opcode p (fun v _ => some v) o.opcode
    sbitVal := own .sbit p (fun v _ => sbitOfIdx (clampLong 2 v)) o.sbitVal
    condVal := own .cond p (fun v _ => clampLong 15 v) o.condVal
    srcRegs := (own .sreg p (fun v => pushEntry (clampLong 16 v)) (o.srcRegs, s.sregIdx)).1
    dstRegs := (own .dreg p (fun v => pushEntry (clampLong 16 v)) (o.dstRegs, s.dregIdx)).1
    srcFpRegsExt :=
      (own .fpSregExt p (fun v => pushEntry (clampLong 2 v)) (o.srcFpRegsExt, s.fpSregExtIdx)).1
    dstFpRegsExt :=
      (own .fpDregExt p (fun v => pushEntry (clampLong 2 v)) (o.dstFpRegsExt, s.fpDregExtIdx)).1
    fpSzQBit := own .fpSzQExt p (fun v _ => clampLong 2 v) o.fpSzQBit
    regsList := own .regsList p (fun v _ => wordOfLong v &&& 0xffff) o.regsList
    immVal := own .imm p (fun v _ => wordOfLong v) o.immVal
    shiftRotateReg := own .shrtReg p (fun v _ => clampLong 16 v) o.shiftRotateReg
    shiftImmVal := own .shImm p (fun v _ => wordOfLong v) o.shiftImmVal
    shiftRotateType := own .shrtType p (fun v _ => clampLong 4 v) o.shiftRotateType
    memBaseVal := own .memBaseVal p (fun v _ => wordOfLong v) o.memBaseVal
    memBaseMask := own .memBaseMsk p (fun v _ => wordOfLong v) o.memBaseMask
    memOffsetVal := own .memOffsetVal p (fun v _ => wordOfLong v) o.memOffsetVal }

/-- The state an accepted parameter leaves, apart from `opt_status`. -/
def paraEffect (seeded : Int → ℕ → BitVec 31) (p : Para) (s : GenState) : GenState :=
  let o := s.options
  { s with
    options := optEffect p s
    sregIdx := (own .sreg p (fun v => pushEntry (clampLong 16 v)) (o.srcRegs, s.sregIdx)).2
    dregIdx := (own .dreg p (fun v => pushEntry (clampLong 16 v)) (o.dstRegs, s.dregIdx)).2
    fpSregExtIdx :=
      (own .fpSregExt p (fun v => pushEntry (clampLong 2 v)) (o.srcFpRegsExt, s.fpSregExtIdx)).2
    fpDregExtIdx :=
      (own .fpDregExt p (fun v => pushEntry (clampLong 2 v)) (o.dstFpRegsExt, s.fpDregExtIdx)).2
    rawInstr := own .instrBinInit p (fun v _ => wordOfLong v) s.rawInstr
    randStream := own .randSeed p (fun v _ => seeded v) s.randStream
    opkindList := ownStr .opKind p enabledKinds s.opkindList }

/-- The bits of `opt_status` a parameter sets. -/
def paraBits (s : GenState) (p : Para) : Word := if paraMarks s p then 1#32 <<< p.1.bit else 0

/-- `opt_status |= bits`. -/
def orStatus (bits : Word) (s : GenState) : GenState :=
  { s with options := { s.options with optStatus := s.options.optStatus ||| bits } }

lemma orStatus_zero (s : GenState) : orStatus 0 s = s :=
  congrArg (fun st => { s with options := { s.options with optStatus := st } }) BitVec.or_zero

lemma paraBits_of_marks {s : GenState} {p : Para} (h : paraMarks s p = true) :
    paraBits s p = 1#32 <<< p.1.bit := if_pos h

lemma paraBits_of_not_marks {s : GenState} {p : Para} (h : paraMarks s p = false) :
    paraBits s p = 0 := if_neg (by simp [h])

/-- A kind that may ignore its parameter. -/
lemma parse_ignoring {skip : Prop} [Decidable skip] {s t u : GenState} {bits b : Word}
    (hskip : skip → bits = 0 ∧ u = s) (hset : ¬ skip → bits = b ∧ t = orStatus b u) :
    (if skip then some s else some t) = some (orStatus bits u) := by
  split
  · rename_i h
    rw [(hskip h).1, (hskip h).2, orStatus_zero]
  · rename_i h
    rw [(hset h).1, (hset h).2]

/-- The parser, by cases on acceptance. -/
lemma parsePara_eq (seeded : Int → ℕ → BitVec 31) (p : Para) (s : GenState) :
    parsePara seeded p s =
      if paraAccepted p then some (orStatus (paraBits s p) (paraEffect seeded p s)) else none := by
  obtain ⟨k, v | v⟩ := p
  · cases k
    case sreg | dreg | fpSregExt | fpDregExt =>
      refine parse_ignoring (fun h => ⟨?_, ?_⟩) fun h => ⟨paraBits_of_marks ?_, ?_⟩
      · exact paraBits_of_not_marks (decide_eq_false (Nat.not_lt.mpr h))
      · simp only [paraEffect, optEffect, own, ownStr, pushEntry, if_pos h]
        rfl
      · exact decide_eq_true (Nat.lt_of_not_le h)
      · simp only [paraEffect, optEffect, own, ownStr, pushEntry, if_neg h]
        rfl
    case allowUnalignMem | allowAllInstr | allowBiasOpnd | allowBiasReg | notAllowFixMem
        | notAllowRelax | verbose =>
      refine parse_ignoring (fun h => ⟨?_, rfl⟩) fun h => ⟨paraBits_of_marks ?_, rfl⟩
      · exact paraBits_of_not_marks (decide_eq_false (not_not_intro h))
      · exact decide_eq_true h
    all_goals rfl
  · cases k <;> rfl

/-! ## Commutation -/

/-- Effects of different kinds write different fields. -/
lemma paraEffect_comm (seeded : Int → ℕ → BitVec 31) {p q : Para} (h : p.1 ≠ q.1) (s : GenState) :
    paraEffect seeded p (paraEffect seeded q s) = paraEffect seeded q (paraEffect seeded p s) := by
  simp only [paraEffect, optEffect, own_comm h, ownStr_comm h]

lemma paraEffect_orStatus (seeded : Int → ℕ → BitVec 31) (p : Para) (bits : Word) (s : GenState) :
    paraEffect seeded p (orStatus bits s) = orStatus bits (paraEffect seeded p s) := rfl

lemma paraBits_orStatus (bits : Word) (s : GenState) (p : Para) :
    paraBits (orStatus bits s) p = paraBits s p := rfl

lemma orStatus_comm (a b : Word) (s : GenState) :
    orStatus a (orStatus b s) = orStatus b (orStatus a s) := by
  have hor : s.options.optStatus ||| b ||| a = s.options.optStatus ||| a ||| b := by
    rw [BitVec.or_assoc, BitVec.or_comm b, BitVec.or_assoc]
  exact congrArg (fun st => { s with options := { s.options with optStatus := st } }) hor

/-- Whether a parameter sets its bit depends on its own counter only. -/
lemma paraBits_paraEffect (seeded : Int → ℕ → BitVec 31) {p q : Para} (h : p.1 ≠ q.1)
    (s : GenState) : paraBits (paraEffect seeded p s) q = paraBits s q := by
  obtain ⟨k, v⟩ := q
  have hmarks : paraMarks (paraEffect seeded p s) (k, v) = paraMarks s (k, v) := by
    cases k
    case sreg | dreg | fpSregExt | fpDregExt => simp only [paraMarks, paraEffect, own_of_ne h]
    all_goals cases v <;> rfl
  rw [paraBits, paraBits, hmarks]

/-- **Parameters of different kinds commute.** -/
theorem parsePara_comm (seeded : Int → ℕ → BitVec 31) (p q : Para) (h : p.1 ≠ q.1) (s : GenState) :
    (parsePara seeded p s).bind (parsePara seeded q) =
      (parsePara seeded q s).bind (parsePara seeded p) := by
  rw [parsePara_eq, parsePara_eq]
  cases hp : paraAccepted p with
  | false =>
    -- a refused parameter is refused in either place
    cases hq : paraAccepted q with
    | false => rfl
    | true => simp [parsePara_eq, hp]
  | true =>
    cases hq : paraAccepted q with
    | false => simp [parsePara_eq, hq]
    | true =>
      simp only [if_true, Option.bind_some, parsePara_eq, hp, hq, paraBits_orStatus,
        paraEffect_orStatus, paraBits_paraEffect seeded h, paraBits_paraEffect seeded h.symm,
        paraEffect_comm seeded h]
      rw [orStatus_comm]

end Rit
