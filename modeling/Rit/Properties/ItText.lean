import Rit.Art.SingleInst
import Rit.Lib.Arm.ItBlock
import Rit.Properties.Requests

/-!
# IT blocks as texts

`genThumbIT` works on texts: it does not know what an instruction is, and puts the condition into
the opcode, in front of the first dot if there is one.  For this to give a well-formed block, the
texts it is given must be those of instructions without a condition, or of raw words.

`Entry` is an instruction with the parts its text is made of, and `Printed` says of a list of texts
that they come from entries which form a listing with well-formed IT blocks.  It is kept by
`genThumbIT` (`itBlock_printed`), and so by `genInstrs`, once the answers to the requests have it.
-/

namespace Rit.Art.Generate

open Draw PyStr Query
open Vfp (condStr)

/-! ## Entries -/

/-- The directives for a raw word. -/
inductive Raw
  | inst | instN | instW
  deriving DecidableEq, Repr

def Raw.str : Raw → Str
  | inst => ".inst".toList
  | instN => Generate.instN
  | instW => Generate.instW

/-- An entry of a block: an `it`, an instruction with its opcode, condition, types and operands, or
a raw word. -/
inductive Entry
  | it (c : Arm.Cond) (mask : List Bool)
  | inst (op : Str) (c : Option Arm.Cond) (types rest : Str)
  | word (raw : Raw) (rest : Str)
  deriving DecidableEq, Repr

namespace Entry

/-- The letters of an `it`. -/
def letters (mask : List Bool) : Str := mask.map fun same => if same then 't' else 'e'

/-- The two strings of an entry. -/
def text : Entry → ParsedInst
  | it c mask => ("it".toList ++ letters mask, (condStr c).toList)
  | inst op c types rest => (op ++ c.elim [] (fun c => (condStr c).toList) ++ types, rest)
  | word raw rest => (raw.str, rest)

/-- The opcodes of branches. -/
def branchOps : List Str :=
  ["b", "bl", "blx", "bx", "cbz", "cbnz", "tbb", "tbh"].map String.toList

/-- The opcode of an instruction has no dot in it and its types start with one; it is neither that
of an `it` nor that of a branch. -/
def Ok : Entry → Prop
  | inst op _ types _ =>
    (op ≠ [] ∧ '.' ∉ op ∧ ¬"it".toList <+: op ∧ op ∉ branchOps) ∧ ∀ ch ∈ types.head?, ch = '.'
  | _ => True

/-- What an entry looks like.  A narrow word below `0x40` is a `MOV_reg_T2`, which must not stand in
a block. -/
def look : Entry → Arm.Look
  | it c mask => .it c mask
  | inst _ c _ _ => .text c false
  | word .inst _ => .word true
  | word .instN rest => .word ((PyInt.int 16 rest).elim true fun hexcode => decide (hexcode < 64))
  | word .instW _ => .word false

/-- The entry under a condition. -/
def under (c : Arm.Cond) : Entry → Entry
  | inst op _ types rest => inst op (some c) types rest
  | e => e

end Entry

/-- Texts of entries that form well-formed IT blocks.  The last one is an instruction of Thumb: only
in front of it may there be a word of unspecified width. -/
def Printed (l : List ParsedInst) : Prop :=
  ∃ es : List Entry, l = es.map Entry.text ∧ (∀ e ∈ es, e.Ok) ∧
    Arm.WellBlocked (es.map Entry.look) ∧ ∀ rest, es.getLast? ≠ some (.word .inst rest)

lemma Printed.nil : Printed [] := ⟨[], rfl, by simp, Arm.wellBlocked_nil, by simp⟩

lemma Printed.append {l l' : List ParsedInst} (h : Printed l) (h' : Printed l') :
    Printed (l ++ l') := by
  obtain ⟨es, rfl, hok, hblocks, hlast⟩ := h
  obtain ⟨es', rfl, hok', hblocks', hlast'⟩ := h'
  refine ⟨es ++ es', (List.map_append).symm, ?_, ?_, ?_⟩
  · intro e he
    rcases List.mem_append.1 he with he | he
    · exact hok e he
    · exact hok' e he
  · rw [List.map_append]
    exact hblocks.append hblocks'
  · intro rest
    rw [List.getLast?_append]
    have hlast' := hlast' rest
    cases hes : es'.getLast? with
    | none => exact hlast rest
    | some e =>
      rw [hes] at hlast'
      exact hlast'

/-- Entries that may stand anywhere outside of a block. -/
lemma Printed.of_plain {es : List Entry} (hok : ∀ e ∈ es, e.Ok)
    (hplain : ∀ e ∈ es, e.look.plain = true)
    (hlast : ∀ rest, es.getLast? ≠ some (.word .inst rest)) : Printed (es.map Entry.text) := by
  refine ⟨es, rfl, hok, .of_plain ?_, hlast⟩
  intro e he
  obtain ⟨e', he', rfl⟩ := List.mem_map.1 he
  exact hplain e' he'

/-! ## One instruction under a condition -/

/-- The condition goes in front of the first dot. -/
lemma withCond_append {op types : Str} (hne : op ≠ []) (hdot : '.' ∉ op)
    (htypes : ∀ ch ∈ types.head?, ch = '.') (cond : Str) :
    withCond (op ++ types) cond = op ++ cond ++ types := by
  obtain ⟨ch, s, rfl⟩ := List.exists_cons_of_ne_nil hne
  have hch : ch ≠ '.' := fun h => hdot (h ▸ List.mem_cons_self)
  have hraw : ¬(ch :: s ++ types = instN ∨ ch :: s ++ types = instW) := by
    rintro (h | h)
    · exact hch (List.cons.inj h).1
    · exact hch (List.cons.inj h).1
  have hall : ∀ a ∈ ch :: s, decide (a ≠ '.') = true := by
    intro a ha
    exact decide_eq_true fun h => hdot (h ▸ ha)
  rw [withCond, if_neg hraw]
  cases types with
  | nil =>
    rw [List.append_nil, if_neg hdot, List.append_nil]
  | cons t types =>
    obtain rfl : t = '.' := htypes t rfl
    rw [if_pos (by simp), List.takeWhile_append_of_pos hall, List.dropWhile_append_of_pos hall]
    simp

/-- An instruction that `genITInstr` accepts can be put under every condition. -/
lemma Fit.entry {i : ParsedInst} (h : Fit Printed i) : ∃ e : Entry, ∀ c,
    (e.under c).text = (withCond i.1 (condStr c).toList, i.2) ∧ (e.under c).Ok ∧
      (e.under c).look.FitsUnder c ∧ ∀ rest, e.under c ≠ .word .inst rest := by
  obtain ⟨⟨es, hes, hok, hblocks, hlast⟩, hvalid⟩ := h
  obtain ⟨e, rfl, rfl⟩ : ∃ e, es = [e] ∧ i = e.text := by
    match es with
    | [e] => exact ⟨e, rfl, (List.cons.inj hes).1⟩
  have hok := hok e List.mem_cons_self
  refine ⟨e, fun c => ?_⟩
  match e with
  | .it c' mask => cases hblocks
  | .inst op (some c') types rest => cases hblocks
  | .inst op none types rest =>
    obtain ⟨⟨hne, hdot, hit, hbranch⟩, htypes⟩ := hok
    refine ⟨?_, ⟨⟨hne, hdot, hit, hbranch⟩, htypes⟩, ⟨rfl, rfl⟩, fun rest h => by cases h⟩
    simp [Entry.under, Entry.text, withCond_append hne hdot htypes]
  | .word .inst rest => exact absurd rfl (hlast rest)
  | .word .instW rest => exact ⟨rfl, trivial, rfl, fun rest h => by cases h⟩
  | .word .instN rest =>
    refine ⟨rfl, trivial, ?_, fun rest h => by cases h⟩
    simp only [validInIT, Entry.text, Raw.str, if_pos] at hvalid
    change ((PyInt.int 16 rest).elim true fun hexcode => decide (hexcode < 64)) = false
    split at hvalid
    · cases hvalid
    · rename_i hexcode hint
      rw [hint]
      simpa using hvalid

/-! ## Blocks -/

/-- The conditions by their numbers. -/
lemma condCode_getD {n : ℕ} (hn : n ≤ 13) : ∃ c : Arm.Cond,
    condCode.getD n [] = (condStr c).toList ∧
      condCode.getD (n ^^^ 1) [] = (condStr c.inv).toList := by
  have hconds : ∀ n ∈ List.range 14, ∃ c ∈ Vfp.condCode,
      condCode.getD n [] = (condStr c).toList ∧
        condCode.getD (n ^^^ 1) [] = (condStr c.inv).toList := by
    decide
  obtain ⟨c, -, hc⟩ := hconds n (List.mem_range.2 (by omega))
  exact ⟨c, hc⟩

/-- The masks for `n` instructions are the lists of `n - 1` letters. -/
lemma mem_masksFor {n : ℕ} (hlo : 1 ≤ n) (hhi : n ≤ 4) {mask : Str} (h : mask ∈ masksFor n) :
    ∃ m : List Bool, mask = Entry.letters m ∧ m.length + 1 = n := by
  have hmasks : ∀ n ∈ [1, 2, 3, 4], ∀ mask ∈ masksFor n,
      mask = Entry.letters (mask.map fun ch => decide (ch = 't')) ∧ mask.length + 1 = n := by
    decide
  have hn : n ∈ [1, 2, 3, 4] := by
    simp only [List.mem_cons, List.not_mem_nil, or_false]
    omega
  obtain ⟨hletters, hlen⟩ := hmasks n hn mask h
  exact ⟨_, hletters, by rw [List.length_map, hlen]⟩

/-- The conditions of the block are those the `it` announces. -/
lemma itCond_eq {n : ℕ} {c : Arm.Cond} (hc : condCode.getD n [] = (condStr c).toList)
    (hinv : condCode.getD (n ^^^ 1) [] = (condStr c.inv).toList) (m : List Bool) :
    itCond n (Entry.letters m) = (Arm.announced c m).map fun c => (condStr c).toList := by
  rw [itCond, Arm.announced, List.map_cons, hc, Entry.letters, List.map_map, List.map_map]
  congr 1
  refine List.map_congr_left fun same _ => ?_
  cases same
  · exact hinv
  · exact hc

lemma mapM_of_forall₂ {α β ε : Type} {f : α → Except ε β} {l : List α} {l' : List β}
    (h : List.Forall₂ (fun a b => f a = .ok b) l l') : l.mapM f = .ok l' := by
  induction h with
  | nil => rfl
  | cons hab _ ih =>
    rw [List.mapM_cons, hab, ih]
    rfl

/-- The entries of a block of all instructions. -/
lemma itEntries_eq {instr : List ParsedInst} {conds : List Str}
    (h : conds.length = instr.length) : itEntries instr conds instr.length =
      .ok (List.zipWith (fun i cond => (withCond i.1 cond, i.2)) instr conds) := by
  refine mapM_of_forall₂ (List.forall₂_iff_get.2 ⟨by simp [h], fun i hi _ => ?_⟩)
  have hlt : i < instr.length := by simpa using hi
  simp [List.getElem?_eq_getElem hlt, List.getElem?_eq_getElem (h ▸ hlt)]

/-- Instructions that are accepted, each under its condition. -/
lemma exists_block {instr : List ParsedInst} {cs : List Arm.Cond} (hlen : cs.length = instr.length)
    (h : ∀ i ∈ instr, Fit Printed i) : ∃ es : List Entry,
    es.map Entry.text = List.zipWith (fun i cond => (withCond i.1 cond, i.2)) instr
      (cs.map fun c => (condStr c).toList) ∧
    (∀ e ∈ es, e.Ok ∧ ∀ rest, e ≠ .word .inst rest) ∧
    List.Forall₂ Arm.Look.FitsUnder cs (es.map Entry.look) := by
  induction instr generalizing cs with
  | nil =>
    obtain rfl := List.length_eq_zero_iff.1 hlen
    exact ⟨[], rfl, by simp, .nil⟩
  | cons i instr ih =>
    obtain ⟨c, cs, rfl⟩ : ∃ c cs', cs = c :: cs' := by
      cases cs with
      | nil => cases hlen
      | cons c cs => exact ⟨c, cs, rfl⟩
    obtain ⟨e, he⟩ := (h i List.mem_cons_self).entry
    obtain ⟨es, htext, hok, hfits⟩ := ih (Nat.succ.inj hlen) fun j hj => h j (.tail _ hj)
    obtain ⟨hetext, heok, hefits, hebare⟩ := he c
    refine ⟨e.under c :: es, ?_, ?_, .cons hefits hfits⟩
    · simp [htext, hetext]
    · rintro e' he'
      rcases List.mem_cons.1 he' with rfl | he'
      · exact ⟨heok, hebare⟩
      · exact hok e' he'

lemma getLast?_ne_of_forall {es : List Entry} (h : ∀ e ∈ es, ∀ rest, e ≠ .word .inst rest)
    (rest : Str) : es.getLast? ≠ some (.word .inst rest) :=
  fun hlast => h _ (List.mem_of_getLast? hlast) rest rfl

/-- `genThumbIT` makes a block of the instructions that were found: an `it` and what it
announces. -/
lemma itBlock_printed {good : Request → Answer → Prop} {instr : List ParsedInst} {n : ℕ}
    (h : ∀ i ∈ instr, Fit Printed i) (hlen : instr.length ≤ n) (hn : n ≤ 4) :
    Query.Within good 0 (itBlock instr n) fun ret => Printed (ret.getD []) := by
  unfold itBlock
  refine .ite (fun _ => .pure .nil) fun hne => .draws_bind fun firstcond => ?_
  have hnum : (if instr.length < n then instr.length else n) = instr.length := by
    split <;> omega
  have hpos : 1 ≤ instr.length := List.length_pos_iff.2 hne
  have hcond : firstcond.1 ≠ 14 := by have := firstcond.2; omega
  dsimp only
  rw [hnum]
  simp only [if_neg hcond]
  refine .draws_bind fun mask => (orRaise_within _).free_bind fun entries hentries => .pure ?_
  obtain ⟨c, hc, hinv⟩ := condCode_getD firstcond.2.2
  obtain ⟨m, hmask, hm⟩ := mem_masksFor hpos (hlen.trans hn) mask.2
  have hcs : (Arm.announced c m).length = instr.length := by simp [Arm.announced, hm]
  rw [hmask, itCond_eq hc hinv, itEntries_eq (by simpa using hcs)] at hentries
  obtain ⟨es, htext, hok, hfits⟩ := exists_block hcs h
  obtain rfl := Except.ok.inj hentries
  refine ⟨.it c m :: es, ?_, ?_, Arm.wellBlocked_it hfits, getLast?_ne_of_forall ?_⟩
  · rw [List.map_cons, htext, hmask, hc]
    rfl
  · intro e he
    rcases List.mem_cons.1 he with rfl | he
    · trivial
    · exact (hok e he).1
  · intro e he
    rcases List.mem_cons.1 he with rfl | he
    · exact fun rest h => by cases h
    · exact (hok e he).2

end Rit.Art.Generate
