import Rit.Art.AluWritePC
import Rit.Properties.Answers

/-!
# IT blocks are well formed

In a Thumb block an `it` is emitted by five generators and by the floating-point helpers.  The
sequences of `genBX`, `genLDREX`, `genSTREX` and `genALUwritePC` are fixed but for their registers
and conditions, so their blocks are read off.  The block of `genThumbIT` is made of whatever
instructions the requests for it return; that it is well formed is an invariant of filling a block
(`keeps_printed`).
-/

namespace Rit.Art

open Arm (WellBlocked)

/-! ## Interworking branches -/

/-- The condition of a branch as one of the machine. -/
def Cond.toArm : Cond → Arm.Cond
  | eq => .eq
  | ne => .ne
  | cs => .cs
  | cc => .cc
  | mi => .mi
  | pl => .pl
  | vs => .vs
  | vc => .vc
  | hi => .hi
  | ls => .ls
  | ge => .ge
  | lt => .lt
  | gt => .gt
  | le => .le

/-- What an instruction of the control skeleton looks like.  Whatever writes the program counter is
a branch. -/
def Inst.look : Inst → Arm.Look
  | b c _ _ => .text (c.map Cond.toArm) true
  | cbz _ _ _ => .text none true
  | adrPc c _ => .text (c.map Cond.toArm) true
  | ble _ _ => .text (some .le) true
  | bxPcInst _ => .word false
  | ldrPc c _ _ _ => .text (c.map Cond.toArm) true
  | bx c _ => .text (c.map Cond.toArm) true
  | bxPc => .text none true
  | it c => .it c.toArm []
  | blxReg c _ => .text (c.map Cond.toArm) true
  | bl c _ => .text (c.map Cond.toArm) true
  | blx _ => .text none true
  | popPc => .text none true
  | body => .other
  | _ => .text none false

/-- What a line looks like. -/
def Line.look : Line → Arm.Look
  | inst _ i => i.look
  | _ => .other

lemma genBX_wellBlocked (target : Label) (isconditional : Bool) (r : BxChoice) :
    WellBlocked ((genBX false target isconditional r).map Line.look) := by
  unfold genBX
  cases isconditional with
  | true =>
    have hreg : ((r.tmpLow : ℕ) = 15) = False := eq_false (Nat.ne_of_lt r.tmpLow.isLt)
    cases r.useBx with
    | true => simp [hreg, Line.look, Inst.look, WellBlocked, Arm.blocks, Arm.announced]
    | false => simp [Line.look, Inst.look, WellBlocked, Arm.blocks, Arm.announced]
  | false =>
    cases r.useBx with
    | true =>
      by_cases hreg : (r.tmpReg : ℕ) = 15
      · simp [hreg, Line.look, Inst.look, WellBlocked, Arm.blocks]
      · simp [hreg, Line.look, Inst.look, WellBlocked, Arm.blocks]
    | false => rfl

/-! ## The exclusive sequence -/

namespace Listing

lemma genLDREX_wellBlocked {size : OpSize} (r : LdrexChoice false size) (isconditional : Bool) :
    WellBlocked ((genLDREX r isconditional).map Entry.look) := by
  unfold genLDREX
  cases isconditional with
  | true =>
    cases size <;>
      simp [flags, load, keep, itIf, Entry.look, Entry.cond?, WellBlocked, Arm.blocks,
        Arm.announced]
  | false =>
    cases size <;> rfl

section

variable {L : Type} {l l' : List (Entry L)}

lemma wellBlocked_append (h : WellBlocked (l.map Entry.look))
    (h' : WellBlocked (l'.map Entry.look)) : WellBlocked ((l ++ l').map Entry.look) := by
  rw [List.map_append]
  exact h.append h'

lemma wellBlocked_of_plain (h : ∀ e ∈ l, e.look.plain = true) : WellBlocked (l.map Entry.look) := by
  refine .of_plain fun e he => ?_
  obtain ⟨e', he', rfl⟩ := List.mem_map.1 he
  exact h e' he'

end

lemma invCondcode_eq (c : Arm.Cond) : invCondcode c = c.inv := by
  cases c <;> rfl

/-- The attempt and the way out if it was not made, in one block. -/
lemma attempt_wellBlocked {isARM : Bool} {size : OpSize} (r : StrexChoice isARM size)
    (cond : Option Arm.Cond) :
    WellBlocked ((itIf false cond [false] ++ [attempt r cond] ++ skip cond).map Entry.look) := by
  cases cond with
  | none => rfl
  | some c =>
    simp [itIf, attempt, skip, invCondcode_eq, Entry.look, Entry.cond?, WellBlocked, Arm.blocks,
      Arm.announced]

lemma genSTREX_wellBlocked {size : OpSize} (r : StrexChoice false size) (isconditional : Bool) :
    WellBlocked ((genSTREX r isconditional).map Entry.look) := by
  set cond := if isconditional then some r.cond else none with hcond
  have hparts : genSTREX r isconditional =
      (readAddr r ++ clearAddr r ++ subOffset r ++ [.inst .mov (.op none (.mov r.rd (.imm 0)))]) ++
        (itIf false cond [false] ++ [attempt r cond] ++ skip cond) ++ count r ++
        (itIf false (some .ne) [] ++ again r) ++ (lockAddr r ++ fill r ++ stub r) := by
    simp only [genSTREX, ← hcond, List.append_assoc]
  rw [hparts]
  refine wellBlocked_append (wellBlocked_append (wellBlocked_append (wellBlocked_append ?_
    (attempt_wellBlocked r cond)) ?_) ?_) ?_
  · refine wellBlocked_of_plain ?_
    unfold subOffset
    split <;> simp [readAddr, clearAddr, Entry.look, Entry.cond?, Arm.Look.plain]
  · exact wellBlocked_of_plain (by simp [count, Entry.look, Entry.cond?, Arm.Look.plain])
  · rfl
  · refine wellBlocked_of_plain ?_
    unfold lockAddr fill
    split_ifs <;> simp [stub, Entry.look, Entry.cond?, Arm.Look.plain]

end Listing

/-! ## Arithmetic instructions that write the program counter -/

lemma genALUwritePC_wellBlocked (r : WpcChoice) (addr : WpcLabel → Arm.Word) :
    WellBlocked ((genALUwritePC false r addr).map Listing.Entry.look) := by
  unfold genALUwritePC Wpc.trial Wpc.final Wpc.thumbTrial Wpc.it Wpc.skip
  cases r.cond with
  | none => cases r.thumbOp <;> rfl
  | some c =>
    cases r.thumbOp <;>
      simp [Wpc.inArea, Wpc.thumbSpring, Wpc.stSpring, Listing.Entry.look, Listing.Entry.cond?,
        WellBlocked, Arm.blocks, Arm.announced]

/-! ## All of them -/

open Query Generate in
/-- For all draws and answers, the `it`s of a Thumb block are followed by the instructions they
announce: those of `genThumbIT` and of all of `genInstrs`, those of the floating-point helpers, and
those of the fixed sequences. -/
theorem thumb_it_blocks_wellFormed (seeded : Int → ℕ → BitVec 31) :
    (∀ (o : Options) (opkind : List Opkind) (ropts : Ropts) (t : Tape Request Answer),
      t.Good (Answered seeded o.maxretry) →
        (∀ n ret, (runOn (genThumbIT o false opkind ropts n) t).1 = .ok (some ret) → Printed ret) ∧
        ∀ limit ret, (runOn (genInstrs o false opkind ropts limit) t).1 = .ok ret → Printed ret) ∧
    (∀ cond srcReg dstReg allowFix,
      Draw.Always (Vfp.genInstr false cond srcReg dstReg allowFix) fun ret =>
        ∀ insts, ret = some insts → Printed (insts.map Vfp.Inst.text)) ∧
    (∀ target isconditional r,
      WellBlocked ((genBX false target isconditional r).map Line.look)) ∧
    (∀ size (r : LdrexChoice false size) isconditional,
      WellBlocked ((Listing.genLDREX r isconditional).map Listing.Entry.look)) ∧
    (∀ size (r : StrexChoice false size) isconditional,
      WellBlocked ((Listing.genSTREX r isconditional).map Listing.Entry.look)) ∧
    ∀ r addr, WellBlocked ((genALUwritePC false r addr).map Listing.Entry.look) := by
  refine ⟨fun o opkind ropts t ht => ⟨fun n ret hret => ?_, fun limit ret hret => ?_⟩,
    fun cond srcReg dstReg allowFix => ?_, genBX_wellBlocked,
    fun size => Listing.genLDREX_wellBlocked, fun size => Listing.genSTREX_wellBlocked,
    genALUwritePC_wellBlocked⟩
  · exact ((keeps_printed seeded o.maxretry).genThumbIT o opkind ropts n t ht).2.2 _ hret
  · exact ((keeps_printed seeded o.maxretry).genInstrs o opkind ropts limit t ht).2.2 _ hret
  · refine (genInstr_printed cond srcReg dstReg allowFix).mono fun ret hret => ?_
    rintro insts rfl
    exact hret

open Query Generate in
/-- A run of `genThumbIT` that is given `vabs.f32 s9, s9`. -/
theorem thumb_it_blocks_vabs :
    let seeded : Int → ℕ → BitVec 31 := fun _ _ => 0
    let answer : Request → Answer := fun x =>
      ((x.run seeded 8).run ⟨fun _ => 9, .fresh (fun _ => 0) fun _ => false⟩).map Prod.fst
    let ret := [("it".toList, "eq".toList), ("vabseq.f32".toList, "s9, s9".toList)]
    ∃ draws, (runOn (genThumbIT ⟨8, 20⟩ false [.vfpOp] {} (some 1)) ⟨draws, fun _ => answer, 0⟩).1 =
      .ok (some ret) ∧ Printed ret := by
  intro seeded answer ret
  let w : ParsedInst := ("vabs.f32".toList, "s9, s9".toList)
  have hask : answer (.opkind false (some .vfpOp) none none none none true) = .ok (some [w]) := by
    decide +kernel
  have hone : Reaches answer (genInstrs ⟨8, 20⟩ false [.vfpOp] {} 1) [w] := by
    have hno : Draw.May (drawIt 20 false 1) ⟨false, by simp⟩ := ⟨[], fun _ _ => rfl⟩
    have hkind : Draw.May (choiceOpkind [.vfpOp]) (some .vfpOp) := ⟨[0], fun _ _ => rfl⟩
    have hopts : Draw.May (extOptions {}) ⟨none, none, none, none⟩ := .pure _
    rw [genInstrs]
    refine Reaches.collect (n := 1) ((Reaches.draws hno).bind ((Reaches.draws hkind).bind
      ((Reaches.draws hopts).bind ?_))) (Nat.succ_pos 7) rfl []
    refine Reaches.bind (a := [w]) ((Reaches.ask _).bind ?_) (.pure _)
    rw [hask]
    exact .pure _
  have hinstr : Reaches answer (genITInstr ⟨8, 20⟩ false [.vfpOp] {} 0) [w] := by
    rw [genITInstr, if_pos (by decide)]
    exact hone.bind (.pure _)
  have hloop : Reaches answer (genITInstrs ⟨8, 20⟩ false [.vfpOp] {} 1 []) [w] := by
    rw [genITInstrs]
    refine hinstr.bind ?_
    rw [genITInstrs]
    exact .pure _
  have hblock : Reaches answer (genThumbIT ⟨8, 20⟩ false [.vfpOp] {} (some 1)) (some ret) := by
    rw [genThumbIT]
    exact (Reaches.draws ⟨[], fun _ _ => rfl⟩).bind
      (hloop.bind ⟨[0, 0], fun d asked => ⟨asked, rfl⟩⟩)
  obtain ⟨l, hl⟩ := hblock
  obtain ⟨asked, hrun⟩ := hl (fun _ => 0) 0
  have hret := congrArg Prod.fst hrun
  exact ⟨_, hret, ((thumb_it_blocks_wellFormed seeded).1 ⟨8, 20⟩ _ {} _
    fun _ _ => ⟨_, rfl⟩).1 _ _ hret⟩

end Rit.Art
