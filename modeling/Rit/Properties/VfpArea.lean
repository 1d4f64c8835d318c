import Rit.Vfp.GenVfp

/-!
# The data area of the standalone generator

The three areas have 253, 64 and 256 words, and each starts at a multiple of 16.  So there are 1024
bytes before `mem_data` and 1280 bytes from there to the end.  The base register is at most 256
bytes and the immediate at most 1020 bytes away from it, in one direction each.

Downwards that is enough.  Upwards the last word starts 1276 bytes behind `mem_data`, and a double
register needs the word behind it too.
-/

namespace Rit.GenVfp

/-! ## The layout -/

section Layout

variable (draw : ℕ → Word)

lemma endOf_append (addr : ℕ) (as bs : List DataLine) :
    endOf addr (as ++ bs) = endOf (endOf addr as) bs := List.foldl_append

lemma endOf_cons (addr : ℕ) (x : DataLine) (ls : List DataLine) :
    endOf addr (x :: ls) = endOf (x.next addr) ls := rfl

/-- `RandomData` prints as many words as it is asked for. -/
lemma endOf_randomData (size addr : ℕ) : endOf addr (randomData size draw) = addr + 4 * size := by
  have hlines : ∀ n, endOf addr ((List.range n).map fun i =>
      DataLine.word (randomWords draw (4 * i) 4)) = addr + 16 * n := by
    intro n
    induction n with
    | zero => rfl
    | succ n ih =>
      rw [List.range_succ, List.map_append, endOf_append, ih]
      simp [endOf, DataLine.next, randomWords]
      omega
  rw [randomData, endOf_append, hlines]
  split
  · simp only [endOf, List.foldl_cons, List.foldl_nil, DataLine.next, randomWords, List.length_map,
      List.length_range]
    omega
  · change addr + 16 * (size / 4) = _
    omega

lemma label_notMem_randomData (size : ℕ) (l : DataLabel) :
    ∀ x ∈ randomData size draw, x ≠ .label l := by
  intro x hx
  rcases List.mem_append.1 hx with hx | hx
  · obtain ⟨i, -, rfl⟩ := List.mem_map.1 hx
    simp
  · split at hx
    · rw [List.mem_singleton.1 hx]
      simp
    · cases hx

/-- Random data in front of a label is passed over. -/
lemma takeWhile_randomData (size : ℕ) (l : DataLabel) (ls : List DataLine) :
    (randomData size draw ++ ls).takeWhile (· ≠ .label l) =
      randomData size draw ++ ls.takeWhile (· ≠ .label l) := by
  refine List.takeWhile_append_of_pos fun x hx => ?_
  exact decide_eq_true (label_notMem_randomData draw size l x hx)

end Layout

section Area

variable {before mid behind : ℕ → Word}

lemma bMemData_eq : addressOf .bMemData tdata (dataSection before mid behind) = tdata := by
  simp [addressOf, dataSection, endOf, DataLine.next, tdata]

lemma memData_eq : addressOf .memData tdata (dataSection before mid behind) = tdata + 1024 := by
  rw [addressOf, dataSection]
  simp only [List.append_assoc, List.cons_append, List.nil_append]
  rw [List.takeWhile_cons_of_pos (by simp), List.takeWhile_cons_of_pos (by simp),
    takeWhile_randomData, List.takeWhile_cons_of_pos (by simp),
    List.takeWhile_cons_of_neg (by simp)]
  rw [endOf_cons, endOf_cons, endOf_append, endOf_randomData, endOf_cons]
  rfl

lemma endOf_dataSection : endOf tdata (dataSection before mid behind) = tdata + 2304 := by
  simp only [dataSection, endOf_append, endOf_randomData, endOf_cons]
  rfl

end Area

/-! ## The access -/

/-- The access that reaches behind the area: a double register, at the largest distance upwards. -/
def MemChoice.Far (c : MemChoice) : Prop :=
  c.add = true ∧ c.dp = true ∧ c.imm = 255 ∧ c.rval = 64

instance (c : MemChoice) : Decidable c.Far := by
  unfold MemChoice.Far
  infer_instance

/-- The bytes lie between `b_mem_data` and the end of `a_mem_data`. -/
def InArea (data : List DataLine) (bytes : List ℕ) : Prop :=
  ∀ a ∈ bytes, addressOf .bMemData tdata data ≤ a ∧ a < endOf tdata data

section Access

variable {before mid behind : ℕ → Word} {c : MemChoice}

/-- The registers when the instruction is executed. -/
def regsAt (op : MemOp) (c : MemChoice) (data : List DataLine) (r : Regs) : Regs :=
  ((genVfpMem op c).2.map fun p => p.exec (addressOf .memData tdata data) r).getD r

/-- The address, if the base is not the program counter. -/
lemma address_eq (op : MemOp) (hn : c.n ≠ 15) (r : Regs) :
    ((genVfpMem op c).1.address (regsAt op c (dataSection before mid behind) r)).toNat =
      if c.add then tdata + 1024 + 4 * c.rval + 4 * c.imm
      else tdata + 1024 + 4 * c.rval - 4 * c.imm := by
  have hlt : c.n < 15 := by
    have hle : c.n ≤ 15 := Fin.le_last c.n
    exact lt_of_le_of_ne hle hn
  have hbase : regsAt op c (dataSection before mid behind) r c.n =
      .ofNat 32 (tdata + 1024 + 4 * c.rval) := by
    simp [regsAt, genVfpMem, hlt, PreInst.exec, memData_eq, Nat.mul_comm]
  have himm : (genVfpMem op c).1.imm = 4 * c.imm := by
    simp [genVfpMem, hn, Nat.mul_comm]
  have hrval := c.rval.isLt
  have himm' := c.imm.isLt
  have hadd : (genVfpMem op c).1.add = c.add := rfl
  have hbase' : regsAt op c (dataSection before mid behind) r (genVfpMem op c).1.n =
      .ofNat 32 (tdata + 1024 + 4 * c.rval) := hbase
  rw [MemInst.address, hbase', himm, hadd]
  unfold tdata
  cases c.add
  · simp only [Bool.false_eq_true, if_false, BitVec.toNat_sub, BitVec.toNat_ofNat]
    omega
  · simp only [if_true, BitVec.toNat_add, BitVec.toNat_ofNat]
    omega

/-- An access that does not wrap around lies between two addresses if its ends do. -/
lemma forall_bytes_iff {i : MemInst} {r : Regs} (hwrap : (i.address r).toNat + 8 ≤ 2 ^ 32)
    (lo hi : ℕ) : (∀ a ∈ i.bytes r, lo ≤ a ∧ a < hi) ↔
      lo ≤ (i.address r).toNat ∧ (i.address r).toNat + (if i.dp then 8 else 4) ≤ hi := by
  have hwidth : 4 ≤ (if i.dp then 8 else 4) ∧ (if i.dp then 8 else 4) ≤ 8 := by
    split <;> omega
  rw [MemInst.bytes]
  generalize (if i.dp then 8 else 4) = width at hwidth ⊢
  have hbyte : ∀ k < width, (i.address r + .ofNat 32 k).toNat = (i.address r).toNat + k := by
    intro k hk
    rw [BitVec.toNat_add, BitVec.toNat_ofNat]
    omega
  rw [List.forall_mem_map]
  constructor
  · intro h
    have hfirst := h 0 (List.mem_range.2 (by omega))
    have hlast := h (width - 1) (List.mem_range.2 (by omega))
    rw [hbyte _ (by omega)] at hfirst hlast
    omega
  · rintro ⟨hlo, hhi⟩ k hk
    have hk := List.mem_range.1 hk
    rw [hbyte k hk]
    omega

end Access

/-- A load or store whose base is not the program counter stays in the data area, unless it is that
of a double register at the largest distance upwards. -/
theorem genVfpMem_inArea_iff (op : MemOp) {c : MemChoice} (hn : c.n ≠ 15)
    (before mid behind : ℕ → Word) (r : Regs) :
    InArea (dataSection before mid behind) ((genVfpMem op c).1.bytes
      (regsAt op c (dataSection before mid behind) r)) ↔ ¬c.Far := by
  have haddr := @address_eq before mid behind c op hn r
  have hrval := c.rval.isLt
  have himm := c.imm.isLt
  have hwrap : ((genVfpMem op c).1.address
      (regsAt op c (dataSection before mid behind) r)).toNat + 8 ≤ 2 ^ 32 := by
    rw [haddr]
    unfold tdata
    split <;> omega
  have hdp : (genVfpMem op c).1.dp = c.dp := rfl
  rw [InArea, bMemData_eq, endOf_dataSection, forall_bytes_iff hwrap, haddr, hdp]
  simp only [MemChoice.Far, Fin.ext_iff]
  -- the width and the direction, and then the distance
  cases c.dp <;> cases c.add <;>
    simp only [Bool.false_eq_true, if_false, if_true, false_and, and_false, true_and,
      not_false_eq_true, iff_true] <;> omega

/-- Loading a single register at the largest distance upwards: the last word of the area. -/
theorem genVfpMem_inArea_single :
    InArea (dataSection (fun _ => 0) (fun _ => 0) (fun _ => 0))
      ((genVfpMem .vldr ⟨true, false, 3, 4, 255, 64⟩).1.bytes
        (regsAt .vldr ⟨true, false, 3, 4, 255, 64⟩
          (dataSection (fun _ => 0) (fun _ => 0) (fun _ => 0)) fun _ => 0)) :=
  (genVfpMem_inArea_iff .vldr (c := ⟨true, false, 3, 4, 255, 64⟩) (by decide) _ _ _ _).2 (by decide)

/-- `vldr d3, [r4, #1020]` behind `ldr r4, =mem_data+256` reads four bytes behind the area. -/
theorem genVfpMem_behind_area :
    genVfpMem .vldr ⟨true, true, 3, 4, 255, 64⟩ = (⟨.vldr, true, 3, 4, true, 1020⟩, some ⟨4, 256⟩) ∧
      ∀ before mid behind r, ∃ a ∈ (genVfpMem .vldr ⟨true, true, 3, 4, 255, 64⟩).1.bytes
          (regsAt .vldr ⟨true, true, 3, 4, 255, 64⟩ (dataSection before mid behind) r),
        endOf tdata (dataSection before mid behind) + 3 = a := by
  refine ⟨rfl, fun before mid behind r => ⟨_, List.mem_map.2 ⟨7, by decide, rfl⟩, ?_⟩⟩
  have haddr := @address_eq before mid behind ⟨true, true, 3, 4, 255, 64⟩ .vldr (by decide) r
  rw [endOf_dataSection, BitVec.toNat_add, haddr]
  rfl

end Rit.GenVfp
