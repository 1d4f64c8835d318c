import Rit.Properties.BlockText

/-!
# What the emitted sequences do

Each function of `instrgen` is given one lemma that says where its lines lead when the machine
enters them at the first one: a branch or an interworking branch to its label or past its end, a
loop tail back or past its end, a call into its callee or past its end, and the code around a
callee to the saved return address.

The steps are collected in `Runs`, whose every step also satisfies `Good`: a callee is entered by a
call of it and by nothing else, and a return leads to the line after the pending call.
-/

namespace Rit.Art

open Layout

/-! ## Steps -/

/-- A label of a callee: the child `c2` of a call block. -/
def IsCallee (l : Label) : Prop := l.head? = some .c2

/-- Line `i` calls the block `l`, directly or through the register loaded on the line before. -/
def CallsTo (P : List Line) (i : ℕ) (l : Label) : Prop :=
  (∃ a c, P[i]? = some (.inst a (.bl c l))) ∨ (∃ a, P[i]? = some (.inst a (.blx l))) ∨
    ∃ a c w r plus1 j, i = j + 1 ∧ P[j]? = some (.inst a (.ldrLabel w r l plus1)) ∧
      P[i]? = some (.inst a (.blxReg c r))

/-- The discipline of calls in a step from `s` to `t`. -/
structure Good (P : List Line) (s t : State) : Prop where
  /-- A callee is entered only by its call, which is then pending. -/
  entry : ∀ l, IsCallee l → P[t.pc]? = some (.label (.start l)) →
    CallsTo P s.pc l ∧ t.calls = (s.pc + 1, t.pc) :: s.calls
  /-- A return leads to the line after the pending call.  It stands behind the block entered. -/
  ret : ∀ a, P[s.pc]? = some (.inst a .popPc) → ∃ e l, s.calls = (t.pc, e) :: t.calls ∧
    P[e]? = some (.label (.start l)) ∧ ∃ j, s.pc = j + 3 ∧ P[j]? = some (.label (.fin l))

/-- A step of the machine that keeps the discipline of calls. -/
def Advance (P : List Line) (s t : State) : Prop := step P s = some t ∧ Good P s t

/-- A run of such steps. -/
abbrev Runs (P : List Line) : State → State → Prop := Relation.ReflTransGen (Advance P)

/-- What is known of the whole text. -/
structure Listing (P : List Line) : Prop where
  once : Once Line.label? P
  headed : Headed P

lemma blockText_listing (sh : Shape) (l : Label) (ctx : Ctx) : Listing (blockText sh l [] ctx) :=
  ⟨blockText_once sh l ctx, blockText_headed sh l ctx⟩

/-- The line is a return. -/
def Line.isPop : Line → Bool
  | .inst _ .popPc => true
  | _ => false

section

variable {P : List Line} {p q : ℕ} {s t : State} {x y : Line} {a : Bool} {i : Inst} {l : Label}

lemma Listing.lineOf_eq (hP : Listing P) (hq : P[q]? = some (.label (.start l))) : lineOf P l = q :=
  hP.once.idxOf_eq rfl hq

lemma step_inst (hx : P[s.pc]? = some (.inst a i)) (ha : s.isARM = a) : step P s = exec P s i := by
  simp [step, hx, ha]

/-- Nothing is asked of a step that neither returns nor reaches the label of a callee. -/
lemma advance_of (hx : P[s.pc]? = some x) (hstep : step P s = some t) (hpop : x.isPop = false)
    (hentry : ∀ l, IsCallee l → P[t.pc]? ≠ some (.label (.start l))) : Advance P s t := by
  refine ⟨hstep, fun l hl h => absurd h (hentry l hl), fun a ha => ?_⟩
  obtain rfl := Option.some.inj (hx.symm.trans ha)
  cases hpop

/-- Falling through a line that is no mode directive. -/
lemma advance_fall (hP : Listing P) (hx : P[s.pc]? = some x) (hstep : step P s = some t)
    (hpc : t.pc = s.pc + 1) (hmode : x.isMode = false) (hpop : x.isPop = false) :
    Advance P s t := by
  refine advance_of hx hstep hpop fun l _ h => ?_
  rw [hpc] at h
  have hheaded := hP.headed.isMode hx h rfl
  rw [hmode] at hheaded
  cases hheaded

/-- Falling through to a line that is known. -/
lemma advance_to (hx : P[s.pc]? = some x) (hstep : step P s = some t) (hpc : t.pc = s.pc + 1)
    (hpop : x.isPop = false) (hy : P[s.pc + 1]? = some y)
    (hentry : ∀ l, y = .label (.start l) → ¬IsCallee l) : Advance P s t := by
  refine advance_of hx hstep hpop fun l hl h => ?_
  rw [hpc, hy] at h
  exact hentry l (Option.some.inj h) hl

/-- A transfer to the label of a block that is no callee. -/
lemma advance_jump (hx : P[s.pc]? = some x) (hstep : step P s = some t) (hpop : x.isPop = false)
    (ht : P[t.pc]? = some (.label (.start l))) (hl : ¬IsCallee l) : Advance P s t := by
  refine advance_of hx hstep hpop fun l' hl' h => ?_
  obtain rfl : l = l' := by
    have heq := Option.some.inj (ht.symm.trans h)
    cases heq
    rfl
  exact hl hl'

/-- An instruction that continues with the next line. -/
lemma runs_fall (hP : Listing P) (hx : P[s.pc]? = some (.inst a i)) (ha : s.isARM = a)
    (hexec : exec P s i = some t) (hpc : t.pc = s.pc + 1) (hpop : i ≠ .popPc) : Runs P s t := by
  refine .single (advance_fall hP hx ((step_inst hx ha).trans hexec) hpc rfl ?_)
  cases i <;> first | rfl | exact absurd rfl hpop

/-- An instruction that transfers to the label of a block that is no callee. -/
lemma runs_jump (hx : P[s.pc]? = some (.inst a i)) (ha : s.isARM = a)
    (hexec : exec P s i = some t) (ht : P[t.pc]? = some (.label (.start l))) (hl : ¬IsCallee l)
    (hpop : i ≠ .popPc) : Runs P s t := by
  refine .single (advance_jump hx ((step_inst hx ha).trans hexec) ?_ ht hl)
  cases i <;> first | rfl | exact absurd rfl hpop

/-- A directive or label passed over. -/
lemma runs_next (hP : Listing P) (hx : P[s.pc]? = some x) (hstep : step P s = some s.next)
    (hmode : x.isMode = false) (hpop : x.isPop = false) : Runs P s s.next :=
  .single (advance_fall hP hx hstep rfl hmode hpop)

end

/-! ## States that differ in registers and draws only -/

/-- What the skeleton keeps in memory, and the records of the run, are the same. -/
structure Quiet (s t : State) : Prop where
  cfg : t.cfg = s.cfg
  calls : t.calls = s.calls
  backEdges : t.backEdges = s.backEdges
  exits : t.exits = s.exits

namespace Quiet

lemma refl (s : State) : Quiet s s := ⟨rfl, rfl, rfl, rfl⟩

lemma trans {s t u : State} (h : Quiet s t) (h' : Quiet t u) : Quiet s u :=
  ⟨h'.cfg.trans h.cfg, h'.calls.trans h.calls, h'.backEdges.trans h.backEdges,
    h'.exits.trans h.exits⟩

lemma spend (s : State) (c : Option Cond) : Quiet s (s.spend c) := by
  cases c <;> exact ⟨rfl, rfl, rfl, rfl⟩

end Quiet

section

variable (s : State) (c : Option Cond)

@[simp] lemma State.spend_pc : (s.spend c).pc = s.pc := by cases c <;> rfl

@[simp] lemma State.spend_isARM : (s.spend c).isARM = s.isARM := by cases c <;> rfl

@[simp] lemma State.spend_regs : (s.spend c).regs = s.regs := by cases c <;> rfl

@[simp] lemma State.spend_calls : (s.spend c).calls = s.calls := by cases c <;> rfl

end

/-! ## Branches -/

/-- The outcome of a transfer that may be conditional: it reaches `q` in the instruction set
`isa'`, or it was conditional and falls through to `p'` in the instruction set `isa`. -/
def Branches (P : List Line) (s : State) (isconditional : Bool) (q : ℕ) (isa' : Bool) (p' : ℕ)
    (isa : Bool) : Prop :=
  ∃ t, Runs P s t ∧ Quiet s t ∧
    (t.pc = q ∧ t.isARM = isa' ∨ isconditional = true ∧ t.pc = p' ∧ t.isARM = isa)

section

variable {P : List Line} {p q : ℕ} {s : State} {isARM isconditional isa' : Bool} {target : Label}

/-- One instruction that tests the condition `c` and transfers or falls through. -/
lemma cond_runs (hP : Listing P) {i : Inst} {c : Option Cond}
    (hx : P[s.pc]? = some (.inst isARM i)) (hisa : s.isARM = isARM) (hpop : i ≠ .popPc)
    (htarget : P[q]? = some (.label (.start target))) (hl : ¬IsCallee target)
    (hjump : s.holds c = true → ∃ t, exec P s i = some t ∧ Quiet s t ∧ t.pc = q ∧ t.isARM = isa')
    (hskip : s.holds c = false → exec P s i = some (s.spend c).next) :
    Branches P s c.isSome q isa' (s.pc + 1) isARM := by
  cases hb : s.holds c with
  | true =>
    obtain ⟨t, hexec, hquiet, hpc, hisa'⟩ := hjump hb
    exact ⟨t, runs_jump hx hisa hexec (hpc ▸ htarget) hl hpop, hquiet, .inl ⟨hpc, hisa'⟩⟩
  | false =>
    have hcond : c.isSome = true := by
      cases c with
      | none => cases hb
      | some c => rfl
    have hpc : (s.spend c).next.pc = s.pc + 1 := congrArg (· + 1) (State.spend_pc s c)
    exact ⟨(s.spend c).next, runs_fall hP hx hisa (hskip hb) hpc hpop,
      (Quiet.spend s c).trans ⟨rfl, rfl, rfl, rfl⟩,
      .inr ⟨hcond, hpc, (State.spend_isARM s c).trans hisa⟩⟩

/-- Steps before a transfer. -/
lemma Branches.of_runs {t : State} {isa : Bool} {p' : ℕ}
    (h : Branches P t isconditional q isa' p' isa) (hst : Runs P s t) (hq : Quiet s t) :
    Branches P s isconditional q isa' p' isa := by
  obtain ⟨u, htu, hquiet, hout⟩ := h
  exact ⟨u, hst.trans htu, hq.trans hquiet, hout⟩

/-- A transfer tried again after it fell through. -/
lemma Branches.orElse {isa : Bool} {p' p'' : ℕ} (h : Branches P s isconditional q isa' p' isa)
    (hnext : ∀ t : State, t.pc = p' → t.isARM = isa →
      Branches P t isconditional q isa' p'' isa) : Branches P s isconditional q isa' p'' isa := by
  obtain ⟨t, hst, hquiet, hout⟩ := h
  rcases hout with hjump | ⟨-, hpc, hisa⟩
  · exact ⟨t, hst, hquiet, .inl hjump⟩
  · exact (hnext t hpc hisa).of_runs hst hquiet

/-- Where an unconditional transfer would fall through to does not matter. -/
lemma Branches.of_end {isa isa'' : Bool} {p' p'' : ℕ} (h : Branches P s isconditional q isa' p' isa)
    (hp : isconditional = true → p' = p'' ∧ isa = isa'') :
    Branches P s isconditional q isa' p'' isa'' := by
  obtain ⟨t, hst, hquiet, hout⟩ := h
  refine ⟨t, hst, hquiet, hout.imp_right fun ⟨hcond, hpc, hisa⟩ => ⟨hcond, ?_, ?_⟩⟩
  · exact hpc.trans (hp hcond).1
  · exact hisa.trans (hp hcond).2

lemma genBranch_runs (hP : Listing P) {ctx : Ctx} {forward : Bool} {r : BranchChoice}
    (hat : At P p (genBranch isARM ctx target isconditional forward r)) (hpc : s.pc = p)
    (hisa : s.isARM = isARM) (htarget : P[q]? = some (.label (.start target)))
    (hl : ¬IsCallee target) :
    Branches P s isconditional q isARM
      (p + (genBranch isARM ctx target isconditional forward r).length) isARM := by
  subst hpc
  have hline := hP.lineOf_eq htarget
  -- whatever the mnemonic, one instruction tests a condition and goes to the label or on
  obtain ⟨i, rest, c, hgen, hpop, hrest, rfl, hexec⟩ : ∃ i rest c,
      genBranch isARM ctx target isconditional forward r = .inst isARM i :: rest ∧ i ≠ .popPc ∧
        (isconditional = true → rest = []) ∧ c.isSome = isconditional ∧
          exec P s i =
            some (if s.holds c then (s.spend c).goto P target else (s.spend c).next) := by
    refine ⟨_, _, if isconditional then some r.cond else none, rfl, ?_,
      fun h => by simp [h], ?_, ?_⟩
    · cases r.cbz <;> cases isconditional <;> dsimp only [Option.elim] <;> split_ifs <;> simp
    · cases isconditional <;> rfl
    · cases isconditional <;> cases r.cbz <;> dsimp only [Option.elim] <;> split_ifs <;>
        simp_all [exec, State.holds, State.spend]
  rw [hgen] at hat ⊢
  obtain ⟨hx, -⟩ := at_cons.1 hat
  refine (cond_runs hP hx hisa hpop htarget hl (fun hb => ?_) fun hb => ?_).of_end fun hc => ?_
  · rw [hexec, if_pos hb]
    exact ⟨_, rfl, (Quiet.spend s c).trans ⟨rfl, rfl, rfl, rfl⟩, hline,
      (State.spend_isARM s c).trans hisa⟩
  · rw [hexec, hb]
    rfl
  · rw [hrest hc]
    exact ⟨rfl, rfl⟩

/-! ## Interworking branches -/

lemma ldrPc_runs (hP : Listing P) {c : Option Cond} {w plus1 : Bool}
    (hx : P[s.pc]? = some (.inst isARM (.ldrPc c w target plus1))) (hisa : s.isARM = isARM)
    (htarget : P[q]? = some (.label (.start target))) (hl : ¬IsCallee target) :
    Branches P s c.isSome q (!plus1) (s.pc + 1) isARM := by
  have hline := hP.lineOf_eq htarget
  refine cond_runs hP hx hisa (by simp) htarget hl (fun hb => ?_) fun hb => ?_
  · exact ⟨{ s.spend c with pc := lineOf P target, isARM := !plus1 }, by
      simp [exec, hb, State.transfer], (Quiet.spend s c).trans ⟨rfl, rfl, rfl, rfl⟩, hline, rfl⟩
  · simp [exec, hb]

/-- `bx<c> rm` where the register holds the address of the target. -/
lemma bx_runs (hP : Listing P) {c : Option Cond} {rm : ℕ} {thumb : Bool}
    (hx : P[s.pc]? = some (.inst isARM (.bx c rm))) (hisa : s.isARM = isARM)
    (hrm : s.regs rm = .code q thumb) (htarget : P[q]? = some (.label (.start target)))
    (hl : ¬IsCallee target) : Branches P s c.isSome q (!thumb) (s.pc + 1) isARM := by
  refine cond_runs hP hx hisa (by simp) htarget hl (fun hb => ?_) fun hb => ?_
  · exact ⟨{ s.spend c with pc := q, isARM := !thumb }, by simp [exec, hb, hrm, State.transfer],
      (Quiet.spend s c).trans ⟨rfl, rfl, rfl, rfl⟩, rfl, rfl⟩
  · simp [exec, hb]

lemma ldrLabel_runs (hP : Listing P) {rt : ℕ} {w plus1 : Bool}
    (hx : P[s.pc]? = some (.inst isARM (.ldrLabel w rt target plus1))) (hisa : s.isARM = isARM) :
    Runs P s (s.set rt (.code (lineOf P target) plus1)).next :=
  runs_fall hP hx hisa rfl rfl (by simp)

/-- An `it`, if there is one, is passed over. -/
lemma it_runs (hP : Listing P) {c : Cond} {isconditional : Bool}
    (hat : At P s.pc (if isconditional then [.inst false (.it c)] else []))
    (hisa : s.isARM = false) : ∃ t, Runs P s t ∧ Quiet s t ∧
      t.pc = s.pc + (if isconditional then [Line.inst false (.it c)] else []).length ∧
      t.isARM = false ∧ t.regs = s.regs := by
  cases isconditional with
  | false => exact ⟨s, .refl, .refl s, rfl, hisa, rfl⟩
  | true =>
    exact ⟨s.next, runs_fall hP (at_cons.1 hat).1 hisa rfl rfl (by simp), ⟨rfl, rfl, rfl, rfl⟩, rfl,
      hisa, rfl⟩

lemma genBX_runs (hP : Listing P) {r : BxChoice} (hat : At P p (genBX isARM target isconditional r))
    (hpc : s.pc = p) (hisa : s.isARM = isARM) (htarget : P[q]? = some (.label (.start target)))
    (hl : ¬IsCallee target) :
    Branches P s isconditional q (!isARM)
      (p + (genBX isARM target isconditional r).length) isARM := by
  subst hpc
  have hline := hP.lineOf_eq htarget
  obtain ⟨c, hc, hsome⟩ : ∃ c, (if isconditional then some r.cond else none) = c ∧
      c.isSome = isconditional := by
    refine ⟨_, rfl, ?_⟩
    cases isconditional <;> rfl
  -- a load of the program counter from any state at its line
  have hldr : ∀ {a w plus1 : Bool} {k : ℕ}, P[s.pc + k]? =
      some (.inst a (.ldrPc c w target plus1)) →
      ∀ t : State, t.pc = s.pc + k → t.isARM = a →
        Branches P t isconditional q (!plus1) (s.pc + (k + 1)) a := by
    intro a w plus1 k hx t hpc hisa
    have h := ldrPc_runs hP (hpc ▸ hx) hisa htarget hl
    rwa [hsome, hpc, Nat.add_assoc] at h
  cases isARM with
  | true =>
    cases hbx : r.useBx with
    | false =>
      have hgen :
          genBX true target isconditional r = [.inst true (.ldrPc c false target true)] := by
        simp [genBX, hbx, hc]
      rw [hgen] at hat ⊢
      exact hldr (k := 0) (at_cons.1 hat).1 s rfl hisa
    | true =>
      by_cases h15 : r.tmpReg = 15
      · have hgen : genBX true target isconditional r = [.inst true (.bxPcInst r.pcCond),
            .inst true (.ldrPc c false target true), .inst true (.ldrPc c false target true)] := by
          simp [genBX, hbx, hc, h15]
        rw [hgen] at hat ⊢
        simp only [at_cons, Nat.add_assoc] at hat
        obtain ⟨h0, h1, h2, -⟩ := hat
        have hsecond := hldr h2
        have hfirst : ∀ t : State, t.pc = s.pc + 1 → t.isARM = true →
            Branches P t isconditional q false (s.pc + 3) true := fun t hpc hisa =>
          (hldr h1 t hpc hisa).orElse hsecond
        -- over the first load, to the second
        have hover : ∀ t : State, exec P s (.bxPcInst r.pcCond) = some t → t.pc = s.pc + 2 →
            Runs P s t := fun t hexec hpc =>
          .single (advance_of h0 ((step_inst h0 hisa).trans hexec) rfl fun l _ h => by
            rw [hpc, h2] at h
            cases h)
        by_cases h14 : (r.pcCond : ℕ) = 14
        · exact (hsecond { s with pc := s.pc + 2 } rfl hisa).of_runs
            (hover _ (by simp [exec, h14]) rfl) ⟨rfl, rfl, rfl, rfl⟩
        · cases hcoin : s.coins 0 with
          | true =>
            exact (hsecond { s.spend (some .eq) with pc := s.pc + 2 } rfl hisa).of_runs
              (hover _ (by simp [exec, h14, hcoin]) rfl) ⟨rfl, rfl, rfl, rfl⟩
          | false =>
            exact (hfirst (s.spend (some .eq)).next rfl hisa).of_runs
              (runs_fall hP h0 hisa (by simp [exec, h14, hcoin]) rfl (by simp)) ⟨rfl, rfl, rfl, rfl⟩
      · have hgen : genBX true target isconditional r =
            [.inst true (.ldrLabel false r.tmpReg target true), .inst true (.bx c r.tmpReg)] := by
          simp [genBX, hbx, hc, h15]
        rw [hgen] at hat ⊢
        simp only [at_cons, Nat.add_assoc] at hat
        obtain ⟨h0, h1, -⟩ := hat
        have hload := ldrLabel_runs hP h0 hisa
        have hreg : (s.set r.tmpReg (.code (lineOf P target) true)).next.regs r.tmpReg =
            .code q true := by
          simp [State.set, State.next, hline]
        have hbranch := bx_runs (s := (s.set r.tmpReg (.code (lineOf P target) true)).next) hP h1
          hisa hreg htarget hl
        rw [hsome] at hbranch
        exact hbranch.of_runs hload ⟨rfl, rfl, rfl, rfl⟩
  | false =>
    cases hbx : r.useBx with
    | false =>
      have hgen : genBX false target isconditional r =
          (if isconditional then [.inst false (.it r.cond)] else []) ++
            [.inst false (.ldrPc c true target false)] := by
        simp [genBX, hbx, hc]
      rw [hgen] at hat ⊢
      obtain ⟨hit, hload⟩ := at_append.1 hat
      obtain ⟨t, hst, hquiet, hpc, hisa', -⟩ := it_runs hP hit hisa
      have h := (hldr (at_cons.1 hload).1 t hpc hisa').of_runs hst hquiet
      rwa [List.length_append]
    | true =>
      by_cases h15 : (if isconditional then (r.tmpLow : ℕ) else r.tmpReg) = 15
      · have hcond : isconditional = false := by
          cases isconditional with
          | false => rfl
          | true => exact absurd h15 (Nat.ne_of_lt r.tmpLow.isLt)
        subst hcond
        have hgen : genBX false target false r = [.directive .align, .inst false .bxPc,
            .inst false .nop, .directive .arm, .inst true (.ldrPc none false target false),
            .directive .thumb] := by
          simp only [genBX, hbx, Bool.false_eq_true, if_false, if_true] at h15 ⊢
          rw [if_pos h15]
        obtain rfl : none = c := hc
        rw [hgen] at hat ⊢
        simp only [at_cons, Nat.add_assoc] at hat
        obtain ⟨h0, h1, h2, h3, h4, -⟩ := hat
        have halign : Runs P s s.next := runs_next hP h0 (by simp [step, h0]) rfl rfl
        have hbxPc : Runs P s.next { s with pc := s.pc + 3, isARM := true } :=
          .single (advance_of (x := .inst false .bxPc) h1
            ((step_inst (s := s.next) h1 hisa).trans rfl) rfl fun l _ h => by
              rw [h3] at h
              cases h)
        have harm : Runs P { s with pc := s.pc + 3, isARM := true }
            { s with pc := s.pc + 4, isARM := true } :=
          .single (advance_to h3 (by simp [step, h3, State.next]) rfl rfl h4 (by simp))
        exact ((hldr h4 { s with pc := s.pc + 4, isARM := true } rfl rfl).of_runs
          ((halign.trans hbxPc).trans harm) ⟨rfl, rfl, rfl, rfl⟩).of_end (by simp)
      · obtain ⟨rt, hrt⟩ : ∃ rt, (if isconditional then (r.tmpLow : ℕ) else r.tmpReg) = rt :=
          ⟨_, rfl⟩
        have hgen : genBX false target isconditional r =
            .inst false (.ldrLabel true rt target false) ::
              ((if isconditional then [.inst false (.it r.cond)] else []) ++
                [.inst false (.bx c rt)]) := by
          rw [hrt] at h15
          simp [genBX, hbx, hc, hrt, h15]
        rw [hgen] at hat ⊢
        obtain ⟨h0, hrest⟩ := at_cons.1 hat
        obtain ⟨hit, hbx⟩ := at_append.1 hrest
        have hload := ldrLabel_runs hP h0 hisa
        obtain ⟨t, hst, hquiet, hpc, hisa', hregs⟩ := it_runs hP
          (s := (s.set rt (.code (lineOf P target) false)).next) hit hisa
        have hreg : t.regs rt = .code q false := by
          simp [hregs, State.set, State.next, hline]
        have hbranch := bx_runs hP (hpc ▸ (at_cons.1 hbx).1) hisa' hreg htarget hl
        rw [hsome, hpc] at hbranch
        have hquiet' : Quiet s (s.set rt (.code (lineOf P target) false)).next :=
          ⟨rfl, rfl, rfl, rfl⟩
        refine (hbranch.of_runs (hload.trans hst) (hquiet'.trans hquiet)).of_end ?_
        intro _
        simp only [State.next, List.length_cons, List.length_append, List.length_nil, State.set,
          and_true]
        omega

/-! ## Loop tails -/

/-- The counter is incremented, and the loop is repeated or left by comparing it with the limit. -/
lemma genLoop_runs (hP : Listing P) {ctx : Ctx} {r : LoopChoice}
    (hat : At P p (genLoop isARM ctx target r)) (hpc : s.pc = p) (hisa : s.isARM = isARM)
    (htarget : P[q]? = some (.label (.start target))) (hl : ¬IsCallee target) {w : BitVec 32}
    (hw : s.cfg ctx.loopSlot = .word w) :
    ∃ t, Runs P s t ∧ t.isARM = isARM ∧ t.calls = s.calls ∧
      t.cfg = Function.update s.cfg ctx.loopSlot (.word (w + .ofNat 32 r.inc)) ∧
      ((w + .ofNat 32 r.inc).sle (.ofNat 32 r.limit) = true ∧ t.pc = q ∧ t.exits = s.exits ∧
          t.backEdges =
            Function.update s.backEdges target.length (s.backEdges target.length + 1) ∨
        (w + .ofNat 32 r.inc).sle (.ofNat 32 r.limit) = false ∧ t.pc = p + 6 ∧
          t.backEdges = s.backEdges ∧
          t.exits = Function.update s.exits target.length (s.exits target.length + 1)) := by
  subst hpc
  have hline := hP.lineOf_eq htarget
  simp only [genLoop, at_cons, Nat.add_assoc] at hat
  obtain ⟨h0, h1, h2, h3, h4, h5, -⟩ := hat
  let w' := w + BitVec.ofNat 32 r.inc
  let s1 := (s.set r.r2 (.data ctx.loopSlot)).next
  let s2 := (s1.set r.r1 (.word w)).next
  let s3 := (s2.set r.r1 (.word w')).next
  let s4 : State := { s3.next with cfg := Function.update s.cfg ctx.loopSlot (.word w') }
  let s5 : State := { s4.next with le := some (w'.sle (.ofNat 32 r.limit)) }
  have hr2 : s3.regs r.r2 = .data ctx.loopSlot := by
    simp [s3, s2, s1, State.set, State.next, r.r2_ne_r1]
  have hr1 : s3.regs r.r1 = .word w' := by simp [s3, State.set, State.next]
  have e0 : Runs P s s1 := runs_fall hP h0 hisa rfl rfl (by simp)
  have e1 : Runs P s1 s2 := runs_fall hP h1 hisa
    (by simp [exec, s1, s2, State.set, State.next, hw]) rfl (by simp)
  have e2 : Runs P s2 s3 := runs_fall hP h2 hisa
    (by simp [exec, s2, s3, w', State.set, State.next]) rfl (by simp)
  have e3 : Runs P s3 s4 := runs_fall hP h3 hisa
    (by simp only [exec, hr2, hr1]; rfl) rfl (by simp)
  have e4 : Runs P s4 s5 := runs_fall hP h4 hisa
    (by simp only [exec, show s4.regs r.r1 = .word w' from hr1]; rfl) rfl (by simp)
  have hruns : Runs P s s5 := (((e0.trans e1).trans e2).trans e3).trans e4
  cases hle : w'.sle (.ofNat 32 r.limit) with
  | true =>
    have hexec : exec P s5 (.ble (!isARM) target) = some { s5.goto P target with
        le := none
        backEdges := Function.update s.backEdges target.length
          (s.backEdges target.length + 1) } := by
      simp only [exec, show s5.le = some true from congrArg some hle]
      rfl
    refine ⟨_, hruns.trans (runs_jump h5 hisa hexec ?_ hl (by simp)), hisa, rfl, rfl,
      .inl ⟨rfl, hline, rfl, rfl⟩⟩
    change P[lineOf P target]? = _
    rw [hline, htarget]
  | false =>
    have hexec : exec P s5 (.ble (!isARM) target) = some { s5.next with
        le := none
        exits := Function.update s.exits target.length (s.exits target.length + 1) } := by
      simp only [exec, show s5.le = some false from congrArg some hle]
      rfl
    exact ⟨_, hruns.trans (runs_fall hP h5 hisa hexec rfl (by simp)), hisa, rfl, rfl,
      .inr ⟨rfl, rfl, rfl, rfl⟩⟩

/-! ## Calls -/

/-- The outcome of a call on the line before `p'`: it enters its callee at `q`, with the link
register and the record of calls set, or it was conditional and falls through. -/
def CallOutcome (P : List Line) (s : State) (p' q : ℕ) (isARM isCallee : Bool) : Prop :=
  ∃ t, Runs P s t ∧ t.cfg = s.cfg ∧ t.backEdges = s.backEdges ∧ t.exits = s.exits ∧
    (t.pc = q ∧ t.isARM = isCallee ∧ t.calls = (p', q) :: s.calls ∧
        t.regs 14 = .code p' (!isARM) ∨
      t.pc = p' ∧ t.isARM = isARM ∧ t.calls = s.calls)

/-- One instruction that tests the condition `c` and calls or falls through. -/
lemma cond_call_runs (hP : Listing P) {i : Inst} {c : Option Cond} {isCallee : Bool}
    (hx : P[s.pc]? = some (.inst isARM i)) (hisa : s.isARM = isARM) (hpop : i ≠ .popPc)
    (htarget : P[q]? = some (.label (.start target))) (hto : CallsTo P s.pc target)
    (hjump : s.holds c = true →
      exec P s i = some { (s.spend c).link q with pc := q, isARM := isCallee })
    (hskip : s.holds c = false → exec P s i = some (s.spend c).next) :
    CallOutcome P s (s.pc + 1) q isARM isCallee := by
  have hq := Quiet.spend s c
  cases hb : s.holds c with
  | true =>
    let t : State := { (s.spend c).link q with pc := q, isARM := isCallee }
    have hcalls : t.calls = (s.pc + 1, q) :: s.calls := by simp [t, State.link, State.set]
    have hlr : t.regs 14 = .code (s.pc + 1) (!isARM) := by
      simp [t, State.link, State.set, hisa]
    refine ⟨t, .single ⟨(step_inst hx hisa).trans (hjump hb), fun l hl h => ?_, fun b hb => ?_⟩,
      hq.cfg, hq.backEdges, hq.exits, .inl ⟨rfl, rfl, hcalls, hlr⟩⟩
    · have heq := htarget.symm.trans h
      cases heq
      exact ⟨hto, hcalls⟩
    · have heq := hx.symm.trans hb
      cases heq
      exact absurd rfl hpop
  | false =>
    have hpc : (s.spend c).next.pc = s.pc + 1 := congrArg (· + 1) (State.spend_pc s c)
    exact ⟨(s.spend c).next, runs_fall hP hx hisa (hskip hb) hpc hpop, hq.cfg, hq.backEdges,
      hq.exits, .inr ⟨hpc, (State.spend_isARM s c).trans hisa, hq.calls⟩⟩

lemma genCall_runs (hP : Listing P) {isCallee : Bool} {r : CallChoice}
    (hat : At P p (genCall isARM isCallee target r)) (hpc : s.pc = p) (hisa : s.isARM = isARM)
    (htarget : P[q]? = some (.label (.start target))) :
    CallOutcome P s (p + (genCall isARM isCallee target r).length) q isARM isCallee := by
  subst hpc
  have hline := hP.lineOf_eq htarget
  cases hreg : r.useBlxReg with
  | true =>
    -- through a register
    obtain ⟨c, hc⟩ : ∃ c, (if isARM then r.cond else none) = c := ⟨_, rfl⟩
    have hgen : genCall isARM isCallee target r =
        [.inst isARM (.ldrLabel (!isARM) r.tmpReg target (!isCallee)),
          .inst isARM (.blxReg c r.tmpReg)] := by
      simp [genCall, hreg, hc]
    rw [hgen] at hat ⊢
    simp only [at_cons] at hat
    obtain ⟨h0, h1, -⟩ := hat
    let s1 := (s.set r.tmpReg (.code (lineOf P target) !isCallee)).next
    have hload : Runs P s s1 := ldrLabel_runs hP h0 hisa
    have hrm : s1.regs r.tmpReg = .code q !isCallee := by simp [s1, State.set, State.next, hline]
    have hto : CallsTo P s1.pc target := .inr (.inr ⟨_, _, _, _, _, s.pc, rfl, h0, h1⟩)
    have hcall : CallOutcome P s1 (s1.pc + 1) q isARM isCallee :=
      cond_call_runs (c := c) hP h1 hisa (by simp) htarget hto
        (fun hb => by simp [exec, hb, hrm, State.transfer]) fun hb => by simp [exec, hb]
    obtain ⟨t, hst, hcfg, hback, hexits, hout⟩ := hcall
    exact ⟨t, hload.trans hst, hcfg, hback, hexits, hout⟩
  | false =>
    by_cases hne : isARM = isCallee
    · -- in the same instruction set
      obtain ⟨c, hc⟩ : ∃ c, (if isARM && isCallee then r.cond else none) = c := ⟨_, rfl⟩
      have hgen : genCall isARM isCallee target r = [.inst isARM (.bl c target)] := by
        subst hne
        simp [genCall, hreg, ← hc]
      rw [hgen] at hat ⊢
      obtain ⟨h0, -⟩ := at_cons.1 hat
      refine cond_call_runs (c := c) hP h0 hisa (by simp) htarget (.inl ⟨_, _, h0⟩) (fun hb => ?_)
        fun hb => by simp [exec, hb]
      have hlink : ((s.spend c).link q).isARM = isCallee :=
        ((State.spend_isARM s c).trans hisa).trans hne
      simp only [exec, hb, hline, State.goto, if_true, ← hlink]
    · -- into the other instruction set
      have hgen : genCall isARM isCallee target r = [.inst isARM (.blx target)] := by
        simp [genCall, hreg, hne]
      rw [hgen] at hat ⊢
      obtain ⟨h0, -⟩ := at_cons.1 hat
      refine cond_call_runs (c := none) hP h0 hisa (by simp) htarget (.inr (.inl ⟨_, h0⟩))
        (fun _ => ?_) fun hb => absurd hb (by simp [State.holds])
      have hother : (!s.isARM) = isCallee := by
        rw [hisa]
        cases isARM <;> cases isCallee <;> first | rfl | exact absurd rfl hne
      simp only [exec, hline, State.goto, hother]
      rfl

/-- The code before a callee saves the link register. -/
lemma getPreCalleeInsts_runs (hP : Listing P) {ctx : Ctx} {r : Fin 8}
    (hat : At P p (getPreCalleeInsts ctx r)) (hpc : s.pc = p) (hisa : s.isARM = ctx.isa) :
    ∃ t, Runs P s t ∧ t.pc = p + 3 ∧ t.isARM = ctx.isa ∧ t.calls = s.calls ∧
      t.cfg = Function.update s.cfg ctx.retSlot (s.regs 14) ∧ t.backEdges = s.backEdges ∧
      t.exits = s.exits := by
  subst hpc
  simp only [getPreCalleeInsts, at_cons, Nat.add_assoc] at hat
  obtain ⟨h0, h1, h2, -⟩ := hat
  have hr : (14 : ℕ) ≠ r := by omega
  let s1 := (s.set r (.data (ctx.retSlot + 4))).next
  let s2 := (s1.set 13 (.data (ctx.retSlot + 4))).next
  let s3 : State := { (s2.set 13 (.data ctx.retSlot)).next with
    cfg := Function.update s.cfg ctx.retSlot (s.regs 14) }
  have e0 : Runs P s s1 := runs_fall hP h0 hisa rfl rfl (by simp)
  have e1 : Runs P s1 s2 := runs_fall hP h1 hisa
    (by simp [exec, s1, s2, State.set, State.next]) rfl (by simp)
  have e2 : Runs P s2 s3 := by
    refine runs_fall hP h2 hisa ?_ rfl (by simp)
    have h13 : s2.regs 13 = .data (ctx.retSlot + 4) := by simp [s2, State.set, State.next]
    have h14 : s2.regs 14 = s.regs 14 := by simp [s2, s1, State.set, State.next, hr]
    simp only [exec, h13, h14, Int.add_sub_cancel]
    rfl
  exact ⟨s3, (e0.trans e1).trans e2, rfl, hisa, rfl, rfl, rfl, rfl⟩

/-- The code behind the callee `l` returns to the saved address, which is the pending call's. -/
lemma getPostCalleeInsts_runs (hP : Listing P) {ctx : Ctx} {r : Fin 8} {l : Label}
    (hat : At P (p + 1) (getPostCalleeInsts ctx r)) (hfin : P[p]? = some (.label (.fin l)))
    (hpc : s.pc = p + 1) (hisa : s.isARM = ctx.isa) {line e : ℕ} {thumb : Bool}
    {calls : List (ℕ × ℕ)} (hret : s.cfg ctx.retSlot = .code line thumb)
    (hcalls : s.calls = (line, e) :: calls) (he : P[e]? = some (.label (.start l)))
    (hentry : ∀ l, IsCallee l → P[line]? ≠ some (.label (.start l))) :
    ∃ t, Runs P s t ∧ t.pc = line ∧ t.isARM = (!thumb) ∧ t.calls = calls ∧ t.cfg = s.cfg ∧
      t.backEdges = s.backEdges ∧ t.exits = s.exits := by
  simp only [getPostCalleeInsts, at_cons, Nat.add_assoc] at hat
  obtain ⟨h0, h1, h2, -⟩ := hat
  rw [← hpc] at h0
  rw [← Nat.add_assoc, ← hpc] at h1 h2
  let s1 := (s.set r (.data ctx.retSlot)).next
  let s2 := (s1.set 13 (.data ctx.retSlot)).next
  let s3 : State := { s2.set 13 (.data (ctx.retSlot + 4)) with
    calls := calls, pc := line, isARM := !thumb }
  have e0 : Runs P s s1 := runs_fall hP h0 hisa rfl rfl (by simp)
  have e1 : Runs P s1 s2 := runs_fall hP h1 hisa
    (by simp [exec, s1, s2, State.set, State.next]) rfl (by simp)
  have hpop : exec P s2 .popPc = some s3 := by
    have h13 : s2.regs 13 = .data ctx.retSlot := by simp [s2, State.set, State.next]
    have htail : s2.calls.tail = calls := congrArg List.tail hcalls
    simp only [exec, h13, show s2.cfg ctx.retSlot = .code line thumb from hret, htail,
      State.transfer]
    rfl
  have e2 : Runs P s2 s3 := by
    refine .single ⟨(step_inst (s := s2) h2 hisa).trans hpop, fun l hl h => absurd h (hentry l hl),
      fun a ha => ⟨e, l, hcalls, he, p, ?_, hfin⟩⟩
    exact congrArg (· + 2) hpc
  exact ⟨s3, (e0.trans e1).trans e2, rfl, rfl, rfl, rfl, rfl, rfl⟩

/-! ## Headers and ends -/

/-- The header of a block that is no callee is passed over. -/
lemma header_runs (hP : Listing P) {l : Label} {code : List Line}
    (hat : At P p (printBlock isARM l code)) (hpc : s.pc = p) (hl : ¬IsCallee l) :
    ∃ t, Runs P s t ∧ Quiet s t ∧ t.pc = p + 3 ∧ t.isARM = s.isARM := by
  subst hpc
  simp only [printBlock, List.cons_append, List.nil_append, at_cons, Nat.add_assoc] at hat
  obtain ⟨h0, h1, h2, -⟩ := hat
  have e0 : Runs P s s.next := runs_next hP h0 (by simp [step, h0]) rfl rfl
  have hmode : step P s.next = some s.next.next := by
    have h1' : P[s.next.pc]? = some (isaLine isARM) := h1
    cases isARM <;> simp [step, h1', isaLine]
  have hpop : (isaLine isARM).isPop = false := by cases isARM <;> rfl
  have e1 : Runs P s.next s.next.next := by
    refine .single (advance_to h1 hmode rfl hpop h2 fun l' h => ?_)
    cases h
    exact hl
  have hlabel : step P s.next.next = some s.next.next.next := by
    have h2' : P[s.next.next.pc]? = some (.label (.start l)) := h2
    simp [step, h2']
  have e2 : Runs P s.next.next s.next.next.next := runs_next hP h2 hlabel rfl rfl
  exact ⟨_, (e0.trans e1).trans e2, ⟨rfl, rfl, rfl, rfl⟩, rfl, rfl⟩

/-- So is the label of any block. -/
lemma label_runs (hP : Listing P) {c : CodeLabel} (hx : P[s.pc]? = some (.label c)) :
    Runs P s s.next :=
  runs_next hP hx (by simp [step, hx]) rfl rfl

lemma footer_runs (hP : Listing P) {l : Label} {code : List Line}
    (hat : At P p (printBlock isARM l code)) (hpc : s.pc = p + 3 + code.length) :
    ∃ t, Runs P s t ∧ Quiet s t ∧ t.pc = p + (printBlock isARM l code).length ∧
      t.isARM = s.isARM := by
  simp only [printBlock] at hat
  obtain ⟨-, hat⟩ := at_append.1 hat
  obtain ⟨-, hat⟩ := at_append.1 hat
  simp only [List.length_cons, List.length_nil, at_cons] at hat
  obtain ⟨h0, h1, -⟩ := hat
  have hpc' : s.pc = p + (0 + 1 + 1 + 1) + code.length := hpc
  rw [← hpc'] at h0 h1
  have e0 : Runs P s s.next := runs_next hP h0 (by simp [step, h0]) rfl rfl
  have e1 : Runs P s.next s.next.next := label_runs hP h1
  refine ⟨_, e0.trans e1, ⟨rfl, rfl, rfl, rfl⟩, ?_, rfl⟩
  simp only [State.next, printBlock, List.length_append, List.length_cons, List.length_nil, hpc]
  omega

end

end Rit.Art
