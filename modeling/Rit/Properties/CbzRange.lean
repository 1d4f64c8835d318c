import Rit.Art.LoadFill
import Rit.Properties.Answers
import Rit.Properties.CbzSites

/-!
# The range of `cbz`

A `cbz` reaches 126 bytes forward from its program counter.  `genBranch` emits one over a basic
block and marks that block with a limit of 32 instructions.  The limit counts what the library
returns, of which each may have four bytes, and `genMemInstrs` does not count the loads that set its
base registers.

So a `cbz` is out of range for some run, unless the library is not asked at all
(`cbz_inRange_iff`).
-/

namespace Rit.Art

open Draw PyStr Query Layout
open Build (registered blockLimitRange genTest)
open Generate (instN Request Answer Answered Fill Ropts genMemInstrs setReg setRegs basesOf stackOp
  memOp request_within drawFSM drawLimit loadRegs genBlockInstrsWithLoadInsts
  genCodeBlocksWithLoadInsts callKinds callWork pyGenInstr_eq generate_valid
  callLib_run tryCalls_run)

/-! ## Addresses -/

/-- The width of a Thumb instruction of the skeleton; `none` if the assembler chooses. -/
def Inst.thumbSize? : Inst → Option ℕ
  | .b _ wide _ | .cmp wide _ _ | .ble wide _ | .ldrPc _ wide _ _ | .ldrLabel wide _ _ _ =>
    if wide then some 4 else none
  | .cbz .. | .bx .. | .bxPc | .blxReg .. | .nop | .it _ | .movSp _ | .pushLr | .popPc => some 2
  | .bl .. | .blx _ => some 4
  | _ => none

/-- Where the assembler is free to choose, whether it chooses 16 bits. -/
structure Widths where
  narrow : Inst → Bool
  narrowText : ParsedInst → Bool

/-- The bytes of an instruction of the skeleton. -/
def Widths.inst (w : Widths) (isARM : Bool) (i : Inst) : ℕ :=
  if isARM then 4 else i.thumbSize?.getD (if w.narrow i then 2 else 4)

/-- The bytes of an instruction of a filled block. -/
def Widths.text (w : Widths) (isARM : Bool) (i : ParsedInst) : ℕ :=
  if isARM then 4
  else if i.1 = instN then 2
  else if ".w".toList <:+ i.1 then 4
  else if w.narrowText i then 2 else 4

/-- Where a line stands: below which label, and at which address. -/
structure Spot where
  label : Option CodeLabel
  addr : ℕ

section Place

variable (w : Widths) (fill : CodeLabel → List ParsedInst)

/-- The spot behind a line.  The instructions of a block stand below its label.  Literal pools are
not counted. -/
def Spot.next (s : Spot) : Line → Spot
  | .label c => { s with label := some c }
  | .directive .align => { s with addr := (s.addr + 3) / 4 * 4 }
  | .directive _ => s
  | .inst isARM .body => { s with addr := s.addr + ((s.label.elim [] fill).map (w.text isARM)).sum }
  | .inst isARM i => { s with addr := s.addr + w.inst isARM i }

/-- The lines of a text with their addresses. -/
def place (s : Spot) : List Line → List (ℕ × Line)
  | [] => []
  | x :: ls => (s.addr, x) :: place (s.next w fill x) ls

/-- Every `cbz` has a target between 0 and 126 bytes after its program counter. -/
def CbzInRange (placed : List (ℕ × Line)) : Prop :=
  ∀ p m nz rn t, (p, Line.inst m (.cbz nz rn t)) ∈ placed →
    ∃ q, (q, Line.label (.start t)) ∈ placed ∧ p + 4 ≤ q ∧ q ≤ p + 4 + 126

variable {w fill}

lemma mem_place {s : Spot} {p : ℕ} {x : Line} {ls : List Line} :
    (p, x) ∈ place w fill s ls ↔
      ∃ as bs, ls = as ++ x :: bs ∧ p = (as.foldl (Spot.next w fill) s).addr := by
  induction ls generalizing s with
  | nil => simp [place]
  | cons y ls ih =>
    rw [place, List.mem_cons, ih]
    constructor
    · rintro (heq | ⟨as, bs, rfl, hp⟩)
      · obtain ⟨rfl, rfl⟩ := Prod.mk.inj heq
        exact ⟨[], ls, rfl, rfl⟩
      · exact ⟨y :: as, bs, rfl, hp⟩
    · rintro ⟨as, bs, heq, hp⟩
      cases as with
      | nil =>
        obtain ⟨rfl, -⟩ := List.cons.inj heq
        exact .inl (Prod.ext hp rfl)
      | cons z as =>
        obtain ⟨rfl, hrest⟩ := List.cons.inj heq
        exact .inr ⟨as, bs, hrest, hp⟩

/-- A label that occurs once splits the text in one way. -/
lemma split_eq {ls as as' bs bs' : List Line} {c : CodeLabel} (h : Once Line.label? ls)
    (has : ls = as ++ .label c :: bs) (has' : ls = as' ++ .label c :: bs') : as = as' := by
  have hlen : as.length = as'.length := by
    refine h.index_eq (x := .label c) rfl ?_ ?_
    · rw [has, List.getElem?_append_right (Nat.le_refl _), Nat.sub_self]
      rfl
    · rw [has', List.getElem?_append_right (Nat.le_refl _), Nat.sub_self]
      rfl
  exact (List.append_inj (has.symm.trans has') hlen).1

end Place

/-! ## The distance over a block -/

section Distance

variable (w : Widths) (fill : CodeLabel → List ParsedInst)

/-- The bytes of a Thumb block. -/
def blockBytes (l : Label) : ℕ := ((fill (.start l)).map (w.text false)).sum

variable {b : BasicBlock} {t : Label} {as bs : List Line}

/-- A `cbz` stands at a multiple of 4. -/
lemma Site.aligned (h : Site b t as bs) (s : Spot) :
    (as.foldl (Spot.next w fill) s).addr % 4 = 0 := by
  obtain ⟨as', c, rfl⟩ := h.before
  rw [List.foldl_append]
  exact Nat.mul_mod_left _ 4

/-- The target is behind the block, and not far behind it. -/
lemma Site.distance (h : Site b t as bs) (s : Spot) (m nz : Bool) (rn : ℕ) :
    ∃ bs₁ bs₂, bs = bs₁ ++ .label (.start t) :: bs₂ ∧
      (as.foldl (Spot.next w fill) s).addr + 4 + blockBytes w fill b.label ≤
        ((as ++ .inst m (.cbz nz rn t) :: bs₁).foldl (Spot.next w fill) s).addr ∧
      ((as ++ .inst m (.cbz nz rn t) :: bs₁).foldl (Spot.next w fill) s).addr ≤
        (as.foldl (Spot.next w fill) s).addr + 4 + blockBytes w fill b.label + 10 := by
  have haligned : (as.foldl (Spot.next w fill) s).addr % 4 = 0 := h.aligned w fill s
  obtain ⟨br, bs', rfl, hbr⟩ := h.behind
  refine ⟨printBlock false b.label [.inst false .body] ++
    (br ++ [.directive .align, isaLine false]), bs', by simp, ?_⟩
  rw [List.foldl_append, List.foldl_cons]
  generalize as.foldl (Spot.next w fill) s = s' at haligned ⊢
  -- the branch behind the block, if there is one
  have hshort : ∀ s'' : Spot, s''.addr ≤ (br.foldl (Spot.next w fill) s'').addr ∧
      (br.foldl (Spot.next w fill) s'').addr ≤ s''.addr + 4 := by
    intro s''
    rcases hbr with rfl | ⟨i, hi, rfl⟩
    · exact ⟨Nat.le_refl _, Nat.le_add_right _ _⟩
    · have hsize : w.inst false i ≤ 4 := by
        cases i <;> simp only [Widths.inst, Inst.thumbSize?] <;> (repeat' split) <;> simp
      have hstep : (([.inst false i, .directive .ltorg] : List Line).foldl (Spot.next w fill)
          s'').addr = s''.addr + w.inst false i := by
        cases i with
        | body => exact absurd rfl hi
        | _ => rfl
      rw [hstep]
      exact ⟨Nat.le_add_right _ _, Nat.add_le_add_left hsize _⟩
  rw [List.foldl_append, List.foldl_append]
  set s'' := (printBlock false b.label [.inst false .body]).foldl (Spot.next w fill)
    (s'.next w fill (.inst m (.cbz nz rn t))) with hs''
  have hblock : s''.addr =
      ((s'.addr + (if m then 4 else 2) + 3) / 4 * 4 + blockBytes w fill b.label + 3) / 4 * 4 := by
    cases m <;> rfl
  have hlast : ((br.foldl (Spot.next w fill) s'').addr + 3) / 4 * 4 =
      (([.directive .align, isaLine false] : List Line).foldl (Spot.next w fill)
        (br.foldl (Spot.next w fill) s'')).addr := rfl
  obtain ⟨hlo, hhi⟩ := hshort s''
  rw [← hlast]
  cases m <;> simp only [Bool.false_eq_true, if_false, if_true] at hblock <;> omega

/-- Short blocks keep every `cbz` in range. -/
lemma cbzInRange_of_short {S : BasicBlock → Prop} {ls : List Line} (h : Sited S ls)
    (hshort : ∀ b, S b → blockBytes w fill b.label ≤ 116) (s : Spot) :
    CbzInRange (place w fill s ls) := by
  intro p m nz rn t hp
  obtain ⟨as, bs, rfl, rfl⟩ := mem_place.1 hp
  obtain ⟨b, hb, hsite⟩ := h as bs m nz rn t rfl
  obtain ⟨bs₁, bs₂, rfl, hlo, hhi⟩ := hsite.distance w fill s m nz rn
  have hbytes := hshort b hb
  refine ⟨_, mem_place.2 ⟨as ++ .inst m (.cbz nz rn t) :: bs₁, bs₂, by simp, rfl⟩, ?_, ?_⟩
  · omega
  · omega

/-- A long block puts a `cbz` out of range. -/
lemma not_cbzInRange_of_long {S : BasicBlock → Prop} {ls : List Line} (h : Sited S ls)
    (honce : Once Line.label? ls) {m nz : Bool} {rn : ℕ} {t : Label}
    (hmem : .inst m (.cbz nz rn t) ∈ ls)
    (hlong : ∀ b, S b → b.isARM = false → 126 < blockBytes w fill b.label) (s : Spot) :
    ¬CbzInRange (place w fill s ls) := by
  intro hrange
  obtain ⟨as, bs, rfl⟩ := List.append_of_mem hmem
  obtain ⟨b, hb, hsite⟩ := h as bs m nz rn t rfl
  obtain ⟨bs₁, bs₂, rfl, hlo, -⟩ := hsite.distance w fill s m nz rn
  obtain ⟨q, hq, -, hle⟩ := hrange _ m nz rn t (mem_place.2 ⟨as, _, rfl, rfl⟩)
  obtain ⟨as', bs', hsplit, rfl⟩ := mem_place.1 hq
  -- the label that is found is the one behind the block
  have hbehind : as ++ .inst m (.cbz nz rn t) :: (bs₁ ++ .label (.start t) :: bs₂) =
      (as ++ .inst m (.cbz nz rn t) :: bs₁) ++ .label (.start t) :: bs₂ := by simp
  rw [← split_eq honce hbehind hsplit] at hle
  have hbytes := hlong b hb hsite.isThumb
  omega

end Distance

/-! ## What the walk appends -/

section Walk

variable {o : Generate.Options} {num instrLimit : ℕ} {bb : BlockDict}
  {good : Request → Answer → Prop}

/-- The walk visits the blocks of the list, and each gets what its own generator returns. -/
lemma walk_yields {P : BasicBlock → List ParsedInst → Prop}
    (h : ∀ b, Yields good (genBlockInstrsWithLoadInsts o num instrLimit bb b) (P b))
    (bs : Blocks BasicBlock) (fsm : Option FSMType) :
    Yields good (genCodeBlocksWithLoadInsts o num instrLimit bb bs fsm) fun r =>
      r.2.map Prod.fst = bs.flatten ∧ ∀ p ∈ r.2, P p.1 p.2 := by
  induction bs generalizing fsm with
  | nil => exact .pure ⟨rfl, by simp⟩
  | basic b rest ih =>
    rw [genCodeBlocksWithLoadInsts]
    refine .draws_bind fun fsm => (h b).bind fun instrs hinstrs => ?_
    refine (ih (some fsm)).bind fun r hr => .pure ⟨?_, ?_⟩
    · rw [List.map_cons, hr.1]
      rfl
    · exact List.forall_mem_cons.2 ⟨hinstrs, hr.2⟩
  | pair s t rest ihs iht ih =>
    rw [genCodeBlocksWithLoadInsts]
    refine .draws_bind fun nFsm => (ihs (some nFsm)).bind fun r hr => ?_
    refine .draws_bind fun fsm => .draws_bind fun nFsm => (iht (some nFsm)).bind fun r' hr' => ?_
    refine .draws_bind fun fsm => (ih fsm.1).bind fun r'' hr'' => .pure ⟨?_, ?_⟩
    · rw [List.map_append, List.map_append, hr.1, hr'.1, hr''.1]
      rfl
    · intro p hp
      rcases List.mem_append.1 hp with hp | hp
      · rcases List.mem_append.1 hp with hp | hp
        · exact hr.2 p hp
        · exact hr'.2 p hp
      · exact hr''.2 p hp

/-- If the range of a block is empty, its limit cannot be drawn. -/
lemma drawLimit_ensures (label : Label) : Ensures (drawLimit num instrLimit bb label) fun _ =>
    (blockLimitRange num instrLimit bb label).1 ≤ (blockLimitRange num instrLimit bb label).2 :=
  .bind_any fun limit => .pure (Nat.le_trans limit.2.1 limit.2.2)

/-- The loads that set the base registers. -/
lemma setRegs_ensures (isARM : Bool) (regs : List ℕ) :
    Ensures (setRegs isARM regs) fun l => l.length = regs.length := by
  induction regs with
  | nil => exact .pure rfl
  | cons reg regs ih =>
    have hone : Ensures (setReg reg getMemLimit.1 getMemLimit.2 isARM) fun l => l.length = 1 :=
      .bind_any fun _ => .pure rfl
    refine hone.bind fun inst hinst => ih.bind fun insts hinsts => .pure ?_
    rw [List.length_append, hinst, hinsts, List.length_cons, Nat.add_comm]

lemma basesOf_length (reg : Option ℕ) : (basesOf reg).length ≤ 5 := by
  unfold basesOf
  split_ifs <;> decide

/-- Without patience nothing is found. -/
lemma answered_zero {seeded : Int → ℕ → BitVec 31} {isARM allowFix : Bool} {kind : Generate.Opkind}
    (hkind : kind ≠ .vfpOp) {cond sbit srcReg dstReg : Option ℕ} {ret : Option (List ParsedInst)}
    (h : Answered seeded 0 (.opkind isARM (some kind) cond sbit srcReg dstReg allowFix) (.ok ret)) :
    ret.getD [] = [] := by
  obtain ⟨s, hs⟩ := h
  have hens : Ensures (genSingleInstWithOpkind seeded 0 isARM (some kind) cond sbit srcReg dstReg
      allowFix) fun ret => ret.getD [] = [] := by
    have hkind' : Ensures (drawArgOpkind (some kind)) fun k => k = kind := .pure rfl
    refine hkind'.bind fun k hk => .bind_any fun a => ?_
    rw [if_neg (hk ▸ hkind)]
    exact .pure rfl
  rw [Generate.Request.run] at hs
  cases hrun : (genSingleInstWithOpkind seeded 0 isARM (some kind) cond sbit srcReg dstReg
      allowFix).run s with
  | error e =>
    rw [hrun] at hs
    cases hs
  | ok r =>
    rw [hrun] at hs
    cases hs
    exact hens s r.1 r.2 hrun

lemma genMemInstrs_yields_zero {seeded : Int → ℕ → BitVec 31} (ho : o.maxretry = 0) (isa : Bool)
    (reg : Option ℕ) (ropts : Ropts) (limit : ℕ) :
    Yields (Answered seeded o.maxretry) (genMemInstrs o isa reg ropts limit) fun l =>
      l.length ≤ 5 := by
  unfold genMemInstrs
  refine (Yields.draws_of (setRegs_ensures isa (basesOf reg))).bind fun inst hinst => ?_
  have hlen : inst.length ≤ 5 := hinst ▸ basesOf_length reg
  have hcollect (round : Fill (Round ParsedInst))
      (hround : Query.Within (Answered seeded o.maxretry) 1 round
        fun x => x.ret = [] ∧ x.extra = []) :
      Yields (Answered seeded o.maxretry) (collect limit (o.maxretry + 1) round ⟨0, 0⟩ inst)
        fun l => l.length ≤ 5 := by
    have hretry : 0 < max 1 (o.maxretry + 1) := Nat.lt_of_lt_of_le Nat.one_pos (Nat.le_max_left _ _)
    refine (hround.collect ?_ ⟨0, 0⟩ hretry hlen).yields
    rintro inst x hinv ⟨hret, hextra⟩
    rw [hret, hextra, List.append_nil, List.append_nil]
    exact hinv
  refine hcollect _ ?_
  refine .draws_bind fun x => .draws_bind fun opkind => .draws_bind fun dstReg => ?_
  have hkind : opkind.1 ≠ .vfpOp := by
    intro hvfp
    have hmem := opkind.2
    rw [hvfp] at hmem
    split at hmem <;> simp [stackOp, memOp] at hmem
  have hrequest : Query.Within (Answered seeded o.maxretry) 1 (Generate.request (.opkind isa
      (some opkind.1) x.cond x.sbit reg (some dstReg.1) (Generate.allowFix reg))) (· = []) :=
    request_within fun ret hret => answered_zero hkind (ho ▸ hret)
  exact hrequest.bind_free fun ret hret => .pure ⟨hret, rfl⟩

end Walk

/-! ## A library that returns wide loads -/

section Loads

/-- A libc whose `rand()` always returns 18. -/
def constRand : Int → ℕ → BitVec 31 := fun _ _ => 18

/-- The library when it is loaded. -/
def loadedState : Src.State := Src.State.fresh (constRand 0) fun _ => false

/-- The arguments that the draws of `loadOracle` lead to. -/
def loadArgs : Src.Args := ⟨1, 14, 0, 0, 4, 0⟩

/-- The kinds that are enabled for `LD_OP`. -/
def loadKinds : ℕ → Bool := callKinds "LD_OP" loadedState

/-- The globals with which a load is generated. -/
def loadWork (isARM : Bool) : Src.Work :=
  callWork constRand (if isARM then 0 else 1) loadArgs loadedState

lemma loadKinds_eq (k : OpKind) : loadKinds k.ctorIdx = decide (k = .ldOp) := by
  cases k <;> decide +kernel

/-- The opcode with the number 18 among the loads. -/
def loadOp (isARM : Bool) : Opcode := if isARM then 197 else 1194

/-- The globals after the draw of the opcode. -/
def loadStart (isARM : Bool) : Src.Work :=
  { loadWork isARM with toDraft := (loadWork isARM).toDraft.afterRand }

/-- The loads of an instruction set. -/
def loadOps (isARM : Bool) : List Opcode :=
  (List.range' (Src.opRange (loadWork isARM).options.isa).1
    ((Src.opRange (loadWork isARM).options.isa).2 -
      (Src.opRange (loadWork isARM).options.isa).1)).filter fun idx =>
    decide ((glbInstrTlb idx).opKind = .ldOp)

lemma loadOps_eighteen (isARM : Bool) :
    18 < (loadOps isARM).length ∧ (loadOps isARM).getD 18 SISA_OP_NA = loadOp isARM := by
  cases isARM <;> decide +kernel

lemma getRandomOp_load (isARM : Bool) : Src.getRandomOp loadKinds (loadWork isARM) =
    (loadOp isARM, loadStart isARM) := by
  obtain ⟨hlen, hget⟩ := loadOps_eighteen isARM
  have hkinds : (fun idx => loadKinds (glbInstrTlb idx).opKind.ctorIdx) =
      fun idx => decide ((glbInstrTlb idx).opKind = .ldOp) := funext fun idx => loadKinds_eq _
  have hrand : (loadWork isARM).nextRand.toNat = 18 := by cases isARM <;> rfl
  unfold Src.getRandomOp
  rw [hkinds, hrand]
  change (if (loadOps isARM).length = 0 then _ else
    ((loadOps isARM).getD (18 % (loadOps isARM).length) SISA_OP_NA, _)) = _
  rw [if_neg (by omega), Nat.mod_eq_of_lt hlen, hget]
  rfl

/-- The loop of `gen_instr_with_op` for that opcode. -/
def loadOut (isARM : Bool) : InstrStatus × Src.Work :=
  Src.attempts (loadOp isARM) ((loadStart isARM).rawInstr ≠ 0) 8 .unsupported (loadStart isARM)

/-- The text of the load. -/
def loadText (isARM : Bool) : ParsedInst :=
  if isARM then (".inst".toList, "0xe51f6001".toList) else (".inst.w".toList, "0xf9926001".toList)

lemma loadOut_valid (isARM : Bool) : (loadOut isARM).1 = .valid ∧
    (loadOut isARM).2.instrBuf.length ≤ 8 ∧
    (loadOut isARM).2.instrBuf.flatMap (Rit.Line.items false) = [loadText isARM] := by
  cases isARM <;> decide +kernel

lemma pyGenInstr_load (isARM : Bool) :
    ∃ s', Src.pyGenInstr constRand (if isARM then 0 else 1) "LD_OP" loadArgs loadedState = some s' ∧
      parseRIT (libOutput s') false true false = some (true, some [loadText isARM]) := by
  obtain ⟨hvalid, hlen, hitems⟩ := loadOut_valid isARM
  have hcall := pyGenInstr_eq (getRandomOp_load isARM)
  rw [hcall, ← hitems]
  exact generate_valid _ rfl hvalid hlen false true

/-- One answer of the library to each request, from the moment it is loaded. -/
def loadOracle (maxretry : ℕ) (x : Request) : Answer :=
  ((x.run constRand maxretry).run ⟨feed [14, 0, 1, 0] fun _ => 0, loadedState⟩).map Prod.fst

/-- A request for a load into `r4` to `r7` with its base in `r0` to `r3`. -/
lemma loadOracle_eq (isARM : Bool) (retry : ℕ) :
    loadOracle (retry + 1) (.opkind isARM (some .ldOp) none none (some 0) (some 4) false) =
      .ok (some [loadText isARM]) := by
  obtain ⟨s', hs', hparse⟩ := pyGenInstr_load isARM
  have hargs : (drawArgs none none (some 0) (some 4)).run
      ⟨feed [14, 0, 1, 0] fun _ => 0, loadedState⟩ =
        .ok (⟨14, 0, 0, 4⟩, ⟨feed [1, 0] fun _ => 0, loadedState⟩) := rfl
  have hkind : (drawArgOpkind (some .ldOp)).run ⟨feed [14, 0, 1, 0] fun _ => 0, loadedState⟩ =
      .ok (.ldOp, ⟨feed [14, 0, 1, 0] fun _ => 0, loadedState⟩) := rfl
  have hhexcode : (drawWord none).run ⟨feed [1, 0] fun _ => 0, loadedState⟩ =
      .ok (1, ⟨feed [0] fun _ => 0, loadedState⟩) := rfl
  have hseed : (drawWord none).run ⟨feed [0] fun _ => 0, loadedState⟩ =
      .ok (0, ⟨feed [] fun _ => 0, loadedState⟩) := rfl
  have hcall : (do
      let hexcode ← drawWord none
      let seed ← drawWord none
      callLib (Src.pyGenInstr constRand (if isARM then 0 else 1) (Generate.Opkind.ldOp).str
        (CallArgs.args ⟨14, 0, 0, 4⟩ hexcode seed)) : Gen Src.State Str).run
        ⟨feed [1, 0] fun _ => 0, loadedState⟩ = .ok (libOutput s', ⟨feed [] fun _ => 0, s'⟩) := by
    rw [run_bind_of_ok hhexcode, run_bind_of_ok hseed]
    exact callLib_run hs'
  rw [loadOracle, Generate.Request.run, genSingleInstWithOpkind, run_bind_of_ok hkind,
    run_bind_of_ok hargs, if_neg (by decide), tryCalls_run hcall hparse]
  rfl

/-- The answers are those of the library. -/
lemma loadOracle_answered (maxretry : ℕ) (x : Request) :
    Answered constRand maxretry x (loadOracle maxretry x) := ⟨_, rfl⟩

variable {o : Generate.Options} {num instrLimit : ℕ} {bb : BlockDict}

lemma setRegs_may (isARM : Bool) (regs : List ℕ) : ∃ l, May (setRegs isARM regs) l := by
  induction regs with
  | nil => exact ⟨[], .pure _⟩
  | cons reg regs ih =>
    obtain ⟨l, hl⟩ := ih
    have hlo : getMemLimit.1 ≤ getMemLimit.1 ∧ getMemLimit.1 ≤ getMemLimit.2 := by decide
    have hreg : ∃ inst, May (setReg reg getMemLimit.1 getMemLimit.2 isARM) inst :=
      ⟨_, (May.randint hlo).bind (.pure _)⟩
    obtain ⟨inst, hinst⟩ := hreg
    exact ⟨inst ++ l, hinst.bind (hl.bind (.pure _))⟩

/-- A block that is filled with loads. -/
lemma genMemInstrs_reaches (ho : 0 < o.maxretry) (isARM : Bool) (limit : ℕ) :
    ∃ inst, Reaches (loadOracle o.maxretry) (genMemInstrs o isARM (some Generate.R_0_3) {} limit)
      (inst ++ List.replicate limit (loadText isARM)) := by
  obtain ⟨inst, hinst⟩ := setRegs_may isARM (basesOf (some Generate.R_0_3))
  obtain ⟨retry, hretry⟩ : ∃ retry, o.maxretry = retry + 1 := ⟨o.maxretry - 1, by omega⟩
  refine ⟨inst, ?_⟩
  unfold genMemInstrs
  refine (Reaches.draws hinst).bind (Reaches.collect ?_ (Nat.succ_pos _) (Nat.zero_add limit) inst)
  have hopts : May (Generate.extOptions {}) ⟨none, none, none, none⟩ := .pure _
  have hkind : Generate.Opkind.ldOp ∈ (if some Generate.R_0_3 = some Generate.R_SP then stackOp
      else memOp) := by decide
  have hdst : 4 ∈ Generate.memDstRegs isARM (some Generate.R_0_3) := by cases isARM <;> decide
  refine (Reaches.draws hopts).bind ((Reaches.draws (.choice hkind)).bind
    ((Reaches.draws (.choice hdst)).bind ?_))
  refine Reaches.bind (a := [loadText isARM]) ?_ (.pure _)
  refine (Reaches.ask _).bind ?_
  have hanswer : loadOracle o.maxretry (.opkind isARM (some .ldOp) none none (some Generate.R_0_3)
      (some 4) (Generate.allowFix (some Generate.R_0_3))) = .ok (some [loadText isARM]) := by
    rw [hretry]
    exact loadOracle_eq isARM retry
  rw [hanswer]
  exact .pure _

/-- A block that is filled with as many loads as its limit allows. -/
lemma genBlockInstrs_reaches (ho : 0 < o.maxretry) {b : BasicBlock}
    (hb : (blockLimitRange num instrLimit bb b.label).1 ≤
      (blockLimitRange num instrLimit bb b.label).2) :
    ∃ inst, Reaches (loadOracle o.maxretry) (genBlockInstrsWithLoadInsts o num instrLimit bb b)
      (inst ++ List.replicate (blockLimitRange num instrLimit bb b.label).2
        (loadText b.isARM)) := by
  obtain ⟨inst, hinst⟩ := genMemInstrs_reaches ho b.isARM
    (blockLimitRange num instrLimit bb b.label).2
  have hlimit : May (drawLimit num instrLimit bb b.label)
      (blockLimitRange num instrLimit bb b.label).2 :=
    (May.randint ⟨hb, Nat.le_refl _⟩).bind (.pure _)
  have hreg : some Generate.R_0_3 ∈ loadRegs b.isARM := List.mem_cons_self
  exact ⟨inst, (Reaches.draws hlimit).bind ((Reaches.draws (.choice hreg)).bind hinst)⟩

lemma drawFSM_may (prev : Option FSMType) : ∃ fsm, May (drawFSM prev) fsm := by
  cases prev with
  | none => exact ⟨_, [0], fun _ _ => rfl⟩
  | some fsm =>
    cases fsm with
    | flagDuJ => exact ⟨_, [], fun _ _ => rfl⟩
    | regAllocJ => exact ⟨_, [], fun _ _ => rfl⟩
    | _ => exact ⟨_, [0], fun _ _ => rfl⟩

/-- If each block can be filled, the walk can fill them all. -/
lemma walk_reaches {f : Request → Answer} {P : BasicBlock → List ParsedInst → Prop}
    {bs : Blocks BasicBlock} (h : ∀ b ∈ bs.flatten, ∃ l, Reaches f
      (genBlockInstrsWithLoadInsts o num instrLimit bb b) l ∧ P b l) (fsm : Option FSMType) :
    ∃ r, Reaches f (genCodeBlocksWithLoadInsts o num instrLimit bb bs fsm) r ∧
      r.2.map Prod.fst = bs.flatten ∧ ∀ p ∈ r.2, P p.1 p.2 := by
  induction bs generalizing fsm with
  | nil => exact ⟨_, .pure _, rfl, by simp⟩
  | basic b rest ih =>
    obtain ⟨l, hl, hP⟩ := h b List.mem_cons_self
    obtain ⟨fsm', hfsm⟩ := drawFSM_may fsm
    obtain ⟨r, hr, hfst, hall⟩ := ih (fun c hc => h c (List.mem_cons_of_mem b hc)) (some fsm')
    refine ⟨(r.1, (b, l) :: r.2), ?_, ?_, List.forall_mem_cons.2 ⟨hP, hall⟩⟩
    · rw [genCodeBlocksWithLoadInsts]
      exact (Reaches.draws hfsm).bind (hl.bind (hr.bind (.pure _)))
    · rw [List.map_cons, hfst]
      rfl
  | pair s t rest ihs iht ih =>
    simp only [Blocks.flatten, List.mem_append] at h
    obtain ⟨fsm₁, hfsm₁⟩ := drawFSM_may fsm
    obtain ⟨r₁, hr₁, hfst₁, hall₁⟩ := ihs (fun c hc => h c (by simp [hc])) (some fsm₁)
    obtain ⟨fsm₂, hfsm₂⟩ := drawFSM_may r₁.1
    obtain ⟨r₂, hr₂, hfst₂, hall₂⟩ := iht (fun c hc => h c (by simp [hc])) (some fsm₂)
    obtain ⟨r₃, hr₃, hfst₃, hall₃⟩ := ih (fun c hc => h c (by simp [hc])) r₁.1
    have hone : r₁.1 ∈ [r₁.1] := List.mem_cons_self
    have htwo : r₁.1 ∈ [r₁.1, r₂.1] := List.mem_cons_self
    refine ⟨(r₃.1, r₁.2 ++ r₂.2 ++ r₃.2), ?_, ?_, ?_⟩
    · rw [genCodeBlocksWithLoadInsts]
      exact (Reaches.draws hfsm₁).bind (hr₁.bind ((Reaches.draws (.choice hone)).bind
        ((Reaches.draws hfsm₂).bind (hr₂.bind ((Reaches.draws (.choice htwo)).bind
          (hr₃.bind (.pure _)))))))
    · rw [List.map_append, List.map_append, hfst₁, hfst₂, hfst₃]
      rfl
    · intro p hp
      rcases List.mem_append.1 hp with hp | hp
      · rcases List.mem_append.1 hp with hp | hp
        · exact hall₁ p hp
        · exact hall₂ p hp
      · exact hall₃ p hp

end Loads

/-! ## Filled trees -/

section Range

variable {so : Shape.Options} {sh : Shape} {l : Label} {ctx : Ctx}

/-- A run of the walk on the blocks of a tree, with answers that the library can give, and the text
that its results fill. -/
structure Filling (o : Generate.Options) (num instrLimit : ℕ) (sh : Shape) (l : Label) (ctx : Ctx)
    where
  seeded : Int → ℕ → BitVec 31
  tape : Tape Request Answer
  good : tape.Good (Answered seeded o.maxretry)
  result : Option FSMType × List (BasicBlock × List ParsedInst)
  run : (runOn (genCodeBlocksWithLoadInsts o num instrLimit (registered sh l ctx ∅)
    (make sh l [] ctx).1.blocks none) tape).1 = .ok result
  fill : CodeLabel → List ParsedInst
  filled : ∀ p ∈ result.2, fill (.start p.1.label) = p.2

/-- The text of a filling, with its addresses. -/
def Filling.placed {o : Generate.Options} {num instrLimit : ℕ}
    (f : Filling o num instrLimit sh l ctx) (w : Widths) (addr : ℕ) : List (ℕ × Line) :=
  place w f.fill ⟨none, addr⟩ (make sh l [] ctx).1.text

section

variable {o : Generate.Options} {num instrLimit : ℕ}

/-- The blocks of the tree have their own entries. -/
lemma Filling.mem_result {f : Filling o num instrLimit sh l ctx}
    (hfst : f.result.2.map Prod.fst = (make sh l [] ctx).1.blocks.flatten) {b : BasicBlock}
    (hb : b ∈ leafBlocks sh l ctx) : ∃ instrs, (b, instrs) ∈ f.result.2 := by
  have hmem : b ∈ f.result.2.map Prod.fst := by
    rw [hfst]
    exact (flatten_perm_leafBlocks sh l [] ctx).mem_iff.2 hb
  obtain ⟨p, hp, rfl⟩ := List.mem_map.1 hmem
  exact ⟨p.2, hp⟩

lemma sum_text_le (w : Widths) (ls : List ParsedInst) :
    (ls.map (w.text false)).sum ≤ 4 * ls.length := by
  induction ls with
  | nil => exact Nat.le_refl _
  | cons i ls ih =>
    have hi : w.text false i ≤ 4 := by
      unfold Widths.text
      split_ifs <;> decide
    rw [List.map_cons, List.sum_cons, List.length_cons]
    omega

/-- If the library is not asked, a block has the loads of its base registers only. -/
lemma Filling.inRange_of_zero (h : sh.drawable so ctx.nest = true) (ho : o.maxretry = 0)
    (f : Filling o num instrLimit sh l ctx) (w : Widths) (addr : ℕ) :
    CbzInRange (f.placed w addr) := by
  have hblock (b : BasicBlock) : Yields (Answered f.seeded o.maxretry)
      (genBlockInstrsWithLoadInsts o num instrLimit (registered sh l ctx ∅) b)
      fun l => l.length ≤ 5 := by
    refine .draws_bind fun limit => .draws_bind fun reg => ?_
    exact genMemInstrs_yields_zero ho b.isARM reg.1 {} limit
  have hwalk := walk_yields hblock (make sh l [] ctx).1.blocks none
  obtain ⟨hfst, hshort⟩ := (hwalk f.tape f.good).2 f.result f.run
  rw [Filling.placed, make_text]
  refine cbzInRange_of_short w f.fill (blockText_sited h l) ?_ _
  rintro b ⟨hleaf, -⟩
  obtain ⟨instrs, hb⟩ := f.mem_result hfst hleaf
  have hlen : instrs.length ≤ 5 := hshort (b, instrs) hb
  have hsum := sum_text_le w instrs
  have hfill : f.fill (.start b.label) = instrs := f.filled (b, instrs) hb
  rw [blockBytes, hfill]
  omega

/-- A run that ends has drawn the limit of every block. -/
lemma Filling.roomy (h : sh.drawable so ctx.nest = true) (f : Filling o num instrLimit sh l ctx) :
    Roomy num sh l ctx := by
  have hblock (b : BasicBlock) : Yields (Answered f.seeded o.maxretry)
      (genBlockInstrsWithLoadInsts o num instrLimit (registered sh l ctx ∅) b)
      fun _ => (blockLimitRange num instrLimit (registered sh l ctx ∅) b.label).1 ≤
        (blockLimitRange num instrLimit (registered sh l ctx ∅) b.label).2 := by
    refine (Yields.draws_of (drawLimit_ensures b.label)).bind fun limit hlimit => ?_
    refine .draws_bind fun reg => ?_
    have hmem := (Generate.asks_genMemInstrs o b.isARM {} reg.1 limit).yields
    exact (hmem.of_good fun _ _ _ => trivial).mono fun _ _ => hlimit
  have hwalk := walk_yields hblock (make sh l [] ctx).1.blocks none
  obtain ⟨hfst, hrange⟩ := (hwalk f.tape f.good).2 f.result f.run
  refine (limitsDrawable_iff h num instrLimit l).1 fun b hb => ?_
  obtain ⟨instrs, hmem⟩ := f.mem_result hfst hb
  exact hrange (b, instrs) hmem

/-- Fillings of different blocks do not conflict. -/
lemma exists_fill {ls : List (BasicBlock × List ParsedInst)}
    (hnodup : (ls.map fun p => p.1.label).Nodup) :
    ∃ fill : CodeLabel → List ParsedInst, ∀ p ∈ ls, fill (.start p.1.label) = p.2 := by
  induction ls with
  | nil => exact ⟨fun _ => [], by simp⟩
  | cons p ls ih =>
    rw [List.map_cons, List.nodup_cons] at hnodup
    obtain ⟨fill, hfill⟩ := ih hnodup.2
    refine ⟨Function.update fill (.start p.1.label) p.2, ?_⟩
    refine List.forall_mem_cons.2 ⟨Function.update_self _ _ _, fun r hr => ?_⟩
    have hne : CodeLabel.start r.1.label ≠ .start p.1.label := by
      intro heq
      exact hnodup.1 (List.mem_map.2 ⟨r, hr, CodeLabel.start.inj heq⟩)
    rw [Function.update_of_ne hne]
    exact hfill r hr

/-- The limit of a block that must stay short. -/
lemma limit_of_short (h : sh.drawable so ctx.nest = true) {x : Label}
    (hx : x ∈ shortBlocks sh l ctx) :
    (blockLimitRange num instrLimit (registered sh l ctx ∅) x).2 = 32 := by
  simp [blockLimitRange, lookup_registered h, limitOf, hx]

lemma text_loadText (w : Widths) : w.text false (loadText false) = 4 := by
  have hne : ".inst.w".toList ≠ instN := by decide
  have hwide : ".w".toList <:+ ".inst.w".toList := by decide
  simp only [Widths.text, loadText, Bool.false_eq_true, if_false, if_neg hne, if_pos hwide]

/-- If the library is asked, it can fill every block with as many wide loads as its limit allows. -/
lemma exists_filling_far (h : sh.drawable so ctx.nest = true) (ho : 0 < o.maxretry)
    (hroomy : Roomy num sh l ctx) (hcbz : cbzBlocks sh l ctx ≠ []) (instrLimit : ℕ) :
    ∃ f : Filling o num instrLimit sh l ctx, ∀ w addr, ¬CbzInRange (f.placed w addr) := by
  have hdraw := (limitsDrawable_iff h num instrLimit l).2 hroomy
  have hperm := flatten_perm_leafBlocks sh l [] ctx
  have hblocks : ∀ b ∈ (make sh l [] ctx).1.blocks.flatten, ∃ ls,
      Reaches (loadOracle o.maxretry)
        (genBlockInstrsWithLoadInsts o num instrLimit (registered sh l ctx ∅) b) ls ∧
      ∃ inst, ls = inst ++ List.replicate
        (blockLimitRange num instrLimit (registered sh l ctx ∅) b.label).2 (loadText b.isARM) := by
    intro b hb
    obtain ⟨inst, hinst⟩ := genBlockInstrs_reaches ho (hdraw b (hperm.mem_iff.1 hb))
    exact ⟨_, hinst, inst, rfl⟩
  obtain ⟨r, ⟨draws, hdraws⟩, hfst, hall⟩ := walk_reaches hblocks none
  obtain ⟨asked, hrun⟩ := hdraws (fun _ => 0) 0
  have hnodup : (r.2.map fun p => p.1.label).Nodup := by
    have hlabels := ((hperm.map BasicBlock.label).nodup_iff.2 (leafBlocks_nodup sh l ctx))
    rw [← hfst, List.map_map] at hlabels
    exact hlabels
  obtain ⟨fill, hfill⟩ := exists_fill hnodup
  let f : Filling o num instrLimit sh l ctx :=
    { seeded := constRand, tape := ⟨feed draws fun _ => 0, fun _ => loadOracle o.maxretry, 0⟩
      good := fun _ x => loadOracle_answered o.maxretry x
      result := r, run := by rw [hrun], fill, filled := hfill }
  refine ⟨f, fun w addr => ?_⟩
  obtain ⟨x, hx⟩ := List.exists_mem_of_ne_nil _ hcbz
  obtain ⟨m, nz, rn, t, hmem⟩ := @cbz_mem_blockText sh l x ctx [] hx
  rw [Filling.placed, make_text]
  refine not_cbzInRange_of_long w fill (blockText_sited h l) (blockText_once sh l ctx) hmem ?_ _
  rintro b ⟨hleaf, hskip⟩ hthumb
  obtain ⟨instrs, hb⟩ := f.mem_result hfst hleaf
  obtain ⟨inst, hinst⟩ := hall (b, instrs) hb
  have hbytes : fill (.start b.label) = inst ++ List.replicate 32 (loadText false) := by
    have heq := (hfill (b, instrs) hb).trans hinst
    dsimp only at heq
    rwa [limit_of_short h (cbzBlocks_subset hskip), hthumb] at heq
  rw [blockBytes, hbytes, List.map_append, List.sum_append, List.map_replicate, text_loadText]
  have hsum : (List.replicate 32 4).sum = 128 := by decide
  omega

end

/-- Every `cbz` of a filled tree is in range, for every run of the library and every choice of the
assembler, if and only if the tree has no `cbz`, or the library is not asked, or the limits cannot
be drawn. -/
theorem cbz_inRange_iff (h : sh.drawable so ctx.nest = true) (l : Label) (o : Generate.Options)
    (num instrLimit : ℕ) :
    (∀ f : Filling o num instrLimit sh l ctx, ∀ w addr, CbzInRange (f.placed w addr)) ↔
      cbzBlocks sh l ctx = [] ∨ o.maxretry = 0 ∨ ¬Roomy num sh l ctx := by
  constructor
  · intro hall
    by_contra hnot
    obtain ⟨hcbz, ho, hroomy⟩ : cbzBlocks sh l ctx ≠ [] ∧ o.maxretry ≠ 0 ∧ Roomy num sh l ctx := by
      simpa only [not_or, not_not] using hnot
    obtain ⟨f, hf⟩ := exists_filling_far h (Nat.pos_of_ne_zero ho) hroomy hcbz instrLimit
    exact hf ⟨fun _ => false, fun _ => false⟩ 0 (hall f _ 0)
  · rintro (hnil | ho | hroomy) f w addr
    · rw [Filling.placed, make_text]
      refine cbzInRange_of_short w f.fill (blockText_sited h l) ?_ _
      rintro b ⟨-, hb⟩
      rw [hnil] at hb
      cases hb
    · exact f.inRange_of_zero h ho w addr
    · exact absurd (f.roomy h) hroomy

/-- The draws of an interworking block whose Thumb part is a by-pass block with a `cbz`. -/
def thumbCbz : ℕ → ℕ := fun i => [5, 0, 1].getD i 0

/-- Its tree. -/
def thumbCbzShape : Shape :=
  let bx : BxChoice := ⟨true, .eq, 0, 0, 0⟩
  .interwork true true bx bx bx ⟨.eq, none, true⟩ .basic
    (.byPass ⟨.eq, some (false, 0), false⟩ .basic .basic .basic) .basic

lemma genTest_thumbCbz :
    ((genTest ⟨false, false⟩ 8 4).run ⟨thumbCbz, Build.initContext 2 emptyLibrary⟩).toOption.map
      Prod.fst = some thumbCbzShape := rfl

lemma thumbCbz_roomy : Roomy 100 thumbCbzShape [] ⟨2, true⟩ := by
  right
  right
  decide

/-- That tree, with a library that is not asked. -/
theorem cbz_inRange_unasked :
    thumbCbzShape.drawable ⟨false, false⟩ (⟨2, true⟩ : Ctx).nest = true ∧
      ∀ f : Filling ⟨0, 20⟩ 100 100 thumbCbzShape [] ⟨2, true⟩, ∀ w addr,
        CbzInRange (f.placed w addr) := by
  have hdrawable : thumbCbzShape.drawable ⟨false, false⟩ (⟨2, true⟩ : Ctx).nest = true := by decide
  exact ⟨hdrawable, (cbz_inRange_iff hdrawable [] ⟨0, 20⟩ 100 100).2 (.inr (.inl rfl))⟩

/-- With the default limits that tree is built, and then there is a run after which its `cbz` does
not reach its target, whatever widths the assembler chooses. -/
theorem cbz_out_of_range :
    ((genTest ⟨false, false⟩ 8 4).run ⟨thumbCbz, Build.initContext 2 emptyLibrary⟩).toOption.map
      Prod.fst = some thumbCbzShape ∧
    ∃ f : Filling ⟨8, 20⟩ 100 100 thumbCbzShape [] ⟨2, true⟩, ∀ w addr,
      ¬CbzInRange (f.placed w addr) := by
  have hdrawable : thumbCbzShape.drawable ⟨false, false⟩ (⟨2, true⟩ : Ctx).nest = true := by decide
  refine ⟨genTest_thumbCbz, exists_filling_far hdrawable (by decide) thumbCbz_roomy ?_ 100⟩
  decide

end Range

end Rit.Art
