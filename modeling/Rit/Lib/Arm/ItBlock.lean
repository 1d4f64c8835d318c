import Mathlib.Data.List.Forall2
import Rit.Lib.Arm.Cpu

/-!
# IT blocks of a listing

In Thumb an instruction other than a branch is conditional only inside an IT block: the `it`
instruction names a condition, and its further letters say for each of the following instructions
whether it has this condition (`t`) or the inverse one (`e`).  The assembler wants the condition to
be written at the instruction too.

`Blocks p es` reads a listing from left to right with `p` the conditions that are still announced.
What is seen of an entry is a `Look`: the letters of an `it`, the condition and the kind of an
instruction in text, or the fact that it is a word the assembler does not look into.
-/

namespace Arm

/-- The inverse condition. -/
def Cond.inv : Cond → Cond
  | .eq => .ne
  | .ne => .eq
  | .cs => .cc
  | .cc => .cs
  | .mi => .pl
  | .pl => .mi
  | .vs => .vc
  | .vc => .vs
  | .hi => .ls
  | .ls => .hi
  | .ge => .lt
  | .lt => .ge
  | .gt => .le
  | .le => .gt

/-- What an entry of a listing looks like from the outside. -/
inductive Look
  /-- An `it` with its further letters, `t` as `true`. -/
  | it (c : Cond) (mask : List Bool)
  /-- An instruction in text, with its condition. -/
  | text (c : Option Cond) (branch : Bool)
  /-- A word; `banned` if it must not stand in a block. -/
  | word (banned : Bool)
  /-- A label or a directive. -/
  | other
  deriving DecidableEq, Repr

/-- The conditions an `it` announces. -/
def announced (c : Cond) (mask : List Bool) : List Cond :=
  c :: mask.map fun same => if same then c else c.inv

/-- The conditions that a listing, read with the announced conditions `p`, leaves announced; `none`
if a block is not well formed.  Outside of a block only a branch has a condition. -/
def blocks : List Cond → List Look → Option (List Cond)
  | p, [] => some p
  | [], .it c mask :: es => blocks (announced c mask) es
  | [], .text c branch :: es => if c = none ∨ branch then blocks [] es else none
  | [], .word _ :: es => blocks [] es
  | [], .other :: es => blocks [] es
  | c :: p, .text c' branch :: es =>
    if c' = some c ∧ (branch → p = []) then blocks p es else none
  | _ :: p, .word banned :: es => if banned then none else blocks p es
  | _ :: _, .it _ _ :: _ => none
  | _ :: _, .other :: _ => none

/-- Every `it` of the listing is followed by the instructions it announces, and there is no other
conditional instruction but branches. -/
def WellBlocked (es : List Look) : Prop := blocks [] es = some []

instance (es : List Look) : Decidable (WellBlocked es) := inferInstanceAs (Decidable (_ = _))

section

variable {p q : List Cond} {es fs : List Look} {e : Look} {c : Cond} {mask : List Bool}

lemma blocks_append : blocks p (es ++ fs) = (blocks p es).bind fun q => blocks q fs := by
  fun_induction blocks p es <;> simp_all [blocks]

lemma wellBlocked_nil : WellBlocked [] := rfl

lemma WellBlocked.append (h : WellBlocked es) (h' : WellBlocked fs) : WellBlocked (es ++ fs) := by
  unfold WellBlocked at *
  rw [blocks_append, h]
  exact h'

/-- What may stand outside of a block. -/
def Look.plain : Look → Bool
  | .it _ _ => false
  | .text c branch => c.isNone || branch
  | .word _ => true
  | .other => true

/-- Entries outside of any block. -/
lemma WellBlocked.of_plain (h : ∀ e ∈ es, e.plain = true) : WellBlocked es := by
  induction es with
  | nil => exact wellBlocked_nil
  | cons e es ih =>
    have hrest := ih fun e' he' => h e' (List.mem_cons_of_mem _ he')
    have he := h e List.mem_cons_self
    unfold WellBlocked at hrest ⊢
    cases e with
    | it c mask => cases he
    | text c branch =>
      rw [Look.plain, Bool.or_eq_true, Option.isNone_iff_eq_none] at he
      rw [blocks, if_pos he]
      exact hrest
    | word banned => exact hrest
    | other => exact hrest

/-- What may stand in a block under the condition `c`, wherever that is in the block. -/
def Look.FitsUnder (c : Cond) : Look → Prop
  | .text c' branch => c' = some c ∧ branch = false
  | .word banned => banned = false
  | _ => False

/-- A block: as many entries as conditions, each fit for its own. -/
lemma blocks_of_forall₂ (h : List.Forall₂ Look.FitsUnder p es) : blocks p es = some [] := by
  induction h with
  | nil => rfl
  | @cons c e p es he _ ih =>
    cases e with
    | text c' branch =>
      obtain ⟨hc, hb⟩ := he
      rw [blocks, if_pos ⟨hc, fun h => absurd (hb.symm.trans h) Bool.false_ne_true⟩]
      exact ih
    | word banned =>
      have hbanned : banned = false := he
      rw [hbanned, blocks, if_neg Bool.false_ne_true]
      exact ih
    | it c' mask => exact absurd he id
    | other => exact absurd he id

/-- An `it` with the block it announces. -/
lemma wellBlocked_it (h : List.Forall₂ Look.FitsUnder (announced c mask) es) :
    WellBlocked (.it c mask :: es) := by
  unfold WellBlocked
  rw [blocks]
  exact blocks_of_forall₂ h

end

end Arm
