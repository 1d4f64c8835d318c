import Rit.Art.Listing
import Rit.Properties.Exclusive

/-!
# The operands of the exclusive accesses are legal

The architecture restricts the registers of exclusive accesses: the status of a store-exclusive is
neither its base nor one of its data registers, an ARM pair is an even register and the next one, a
Thumb pair is two different registers, and Thumb wants no `r13`.  `genLDREX` and `genSTREX` meet
this by drawing from lists that they prune before each draw.

`LegalOperands` says it of one entry; the results say it of every entry of the two sequences,
together with the base of the plain stores, the closing one of `genSTREX` among them.
-/

namespace Rit.Art.Listing

open Arm (Reg Transfer)

/-- The data registers of a transfer. -/
def dataRegs : Transfer → List Reg
  | .b rt => [rt]
  | .h rt => [rt]
  | .w rt => [rt]
  | .d rt rt2 => [rt, rt2]

/-- The data registers of an exclusive access are legal. -/
def LegalData (isARM : Bool) (t : Transfer) : Prop :=
  (isARM = false → 13 ∉ dataRegs t) ∧
    ∀ rt rt2, t = .d rt rt2 →
      if isARM then rt.val % 2 = 0 ∧ rt ≠ 14 ∧ rt2.val = rt.val + 1 else rt ≠ rt2

/-- The load-exclusives. -/
def Mnemonic.isLdrex (op : Mnemonic) : Bool := op ∈ [.ldrexb, .ldrexh, .ldrex, .ldrexd]

/-- The operands of an entry are legal: the data of an exclusive access, the status of a
store-exclusive, and the base of a store. -/
def LegalOperands (isARM : Bool) : ExclEntry → Prop
  | .inst _ (.strex _ rd t rn _) =>
    rd ≠ rn ∧ rd ∉ dataRegs t ∧ LegalData isARM t ∧ (isARM = false → rd ≠ 13)
  | .inst op (.op _ (.ldr t _ _)) => op.isLdrex = true → LegalData isARM t
  | .inst _ (.op _ (.str t rn _)) => rn ∉ dataRegs t
  | _ => True

lemma itIf_legal {isARM isARM' : Bool} {cond : Option Arm.Cond} {mask : List Bool} :
    ∀ e ∈ itIf isARM' cond mask, LegalOperands isARM e := by
  cases isARM' <;> cases cond <;> simp [itIf, LegalOperands]

/-! ## Data registers -/

/-- What the lists of data registers are pruned to. -/
lemma dataLists :
    (∀ size, ∀ rt ∈ ldrexRegs false size, rt ≠ 13) ∧
    (∀ rt ∈ ldrexRegs true .d, rt.val % 2 = 0 ∧ rt ≠ 14 ∧ (rt + 1).val = rt.val + 1) ∧
    (∀ size, ∀ rt ∈ strexTransferRegs false size, rt ≠ 13) ∧
    ∀ rt ∈ strexRtRegs true .d, rt.val % 2 = 0 ∧ rt ≠ 14 ∧ (rt + 1).val = rt.val + 1 := by
  refine ⟨?_, by decide, ?_, by decide⟩
  · intro size
    cases size <;> decide
  · intro size
    cases size <;> decide

section Load

variable {isARM : Bool} {size : OpSize} (r : LdrexChoice isARM size)

lemma legalData_ldrex : LegalData isARM (size.transfer r.rt r.pair) := by
  have hmem := r.rt_mem
  have hpair := r.rt2_mem
  unfold LdrexChoice.pair
  cases isARM with
  | true =>
    refine ⟨fun h => absurd h (by decide), fun rt rt2 ht => ?_⟩
    cases size with
    | d =>
      obtain ⟨rfl, rfl⟩ : r.rt = rt ∧ r.rt + 1 = rt2 := by simpa [OpSize.transfer] using ht
      exact dataLists.2.1 r.rt hmem
    | _ => simp [OpSize.transfer] at ht
  | false =>
    have ht : r.rt ≠ 13 := dataLists.1 size r.rt hmem
    cases size with
    | d =>
      have hlist := hpair rfl rfl
      have hnodup := (((ldrexRegs_nodup false .d).erase 13).erase r.rp).mem_erase_iff.1 hlist
      have h13 : r.rt2 ≠ 13 := dataLists.1 .d r.rt2
        (List.mem_of_mem_erase (List.mem_of_mem_erase hnodup.2))
      refine ⟨fun _ => ?_, fun rt rt2 h => ?_⟩
      · simp [OpSize.transfer, dataRegs, Ne.symm ht, Ne.symm h13]
      · obtain ⟨rfl, rfl⟩ : r.rt = rt ∧ r.rt2 = rt2 := by simpa [OpSize.transfer] using h
        exact hnodup.1.symm
    | _ =>
      refine ⟨fun _ => ?_, by simp [OpSize.transfer]⟩
      simp [OpSize.transfer, dataRegs, Ne.symm ht]

lemma genLDREX_legal (isconditional : Bool) :
    ∀ e ∈ genLDREX r isconditional, LegalOperands isARM e := by
  have hsave : r.rq ∉ dataRegs (.w r.rp) := by simpa [dataRegs] using r.rq_ne_rp
  have hload := legalData_ldrex r
  have haddr : r.rx ∉ dataRegs (.w r.ry) := by simpa [dataRegs] using r.ry_ne_rx.symm
  unfold genLDREX
  simp only [List.forall_mem_append, and_assoc]
  refine ⟨?_, itIf_legal, ?_, itIf_legal, ?_⟩
  · simp [flags, LegalOperands, hsave, Mnemonic.isLdrex]
  · simp [load, LegalOperands, hload]
  · unfold keep
    split <;> simp [LegalOperands, haddr]

end Load

section Store

variable {isARM : Bool} {size : OpSize} (r : StrexChoice isARM size)

lemma legalData_strex : LegalData isARM (size.transfer r.rt r.pair) := by
  have hmem := r.rt_mem
  have hpair := r.rt2_mem
  have hne := r.pair_ne_rt
  unfold StrexChoice.pair at hne ⊢
  cases isARM with
  | true =>
    refine ⟨fun h => absurd h (by decide), fun rt rt2 ht => ?_⟩
    cases size with
    | d =>
      obtain ⟨rfl, rfl⟩ : r.rt = rt ∧ r.rt + 1 = rt2 := by
        simpa [OpSize.transfer, strexPair] using ht
      exact dataLists.2.2.2 r.rt hmem
    | _ => simp [OpSize.transfer] at ht
  | false =>
    have ht : r.rt ≠ 13 := dataLists.2.2.1 size r.rt hmem
    have h13 : r.rt2 ≠ 13 := dataLists.2.2.1 size r.rt2 (List.mem_of_mem_erase (hpair rfl))
    have hne' : r.rt ≠ r.rt2 := hne.symm
    cases size with
    | d =>
      refine ⟨fun _ => ?_, fun rt rt2 h => ?_⟩
      · simp [OpSize.transfer, strexPair, dataRegs, Ne.symm ht, Ne.symm h13]
      · obtain ⟨rfl, rfl⟩ : r.rt = rt ∧ r.rt2 = rt2 := by
          simpa [OpSize.transfer, strexPair] using h
        exact hne'
    | _ =>
      refine ⟨fun _ => ?_, by simp [OpSize.transfer]⟩
      simp [OpSize.transfer, dataRegs, Ne.symm ht]

/-- The status register is drawn last, from what the base and the data registers leave. -/
lemma status_legal : r.rd ≠ r.rn ∧ r.rd ∉ dataRegs (size.transfer r.rt r.pair) ∧
    (isARM = false → r.rd ≠ 13) := by
  have hmem := r.rd_mem
  have hnodup := strexTransferRegs_nodup isARM size
  have hpair := ((hnodup.erase r.rt).mem_erase_iff.1 (List.mem_of_mem_erase hmem)).1
  have hrt := (hnodup.mem_erase_iff.1 (List.mem_of_mem_erase (List.mem_of_mem_erase hmem)))
  refine ⟨r.rd_ne_rn, ?_, ?_⟩
  · have hpair' : r.rd ≠ r.pair := hpair
    cases size <;> simp [OpSize.transfer, dataRegs, hrt.1, hpair']
  · rintro rfl
    exact dataLists.2.2.1 size r.rd hrt.2

lemma closing_legal : r.lockReg ∉ dataRegs (.w r.rt) ∧
    (size = .d → r.lockReg ∉ dataRegs (.d r.rt r.pair)) := by
  refine ⟨by simpa [dataRegs] using r.lockReg_ne_rt, fun hsize => ?_⟩
  simpa [dataRegs] using ⟨r.lockReg_ne_rt, r.lockReg_ne_pair hsize⟩

lemma genSTREX_legal (isconditional : Bool) :
    ∀ e ∈ genSTREX r isconditional, LegalOperands isARM e := by
  obtain ⟨hbase, hdata, hsp⟩ := status_legal r
  have hclear : r.rw ∉ dataRegs (.w r.rv) := by simpa [dataRegs] using r.rv_ne_rw.symm
  have hcount : r.rz1 ∉ dataRegs (.w r.rz2) := by simpa [dataRegs] using r.rz2_ne_rz1.symm
  obtain ⟨hword, hpair⟩ := closing_legal r
  unfold genSTREX
  simp only [List.forall_mem_append, List.forall_mem_singleton, and_assoc]
  refine ⟨?_, ?_, ?_, trivial, itIf_legal, ?_, ?_, ?_, itIf_legal, ?_, ?_, ?_, ?_⟩
  · simp [readAddr, LegalOperands, Mnemonic.isLdrex]
  · simp [clearAddr, LegalOperands, hclear]
  · unfold subOffset
    split <;> simp [LegalOperands]
  · exact ⟨hbase, hdata, legalData_strex r, hsp⟩
  · cases isconditional <;> simp [skip, LegalOperands]
  · simp [count, LegalOperands, hcount, Mnemonic.isLdrex]
  · simp [again, LegalOperands]
  · unfold lockAddr
    split <;> split <;> simp [LegalOperands]
  · unfold fill
    split
    · rename_i hsize
      simp [LegalOperands, hpair hsize]
    · simp [LegalOperands, hword]
  · simp [stub, LegalOperands, hcount]

end Store

/-- Every entry of either half of an exclusive block has legal operands. -/
theorem exclusive_operands_legal {isARM : Bool} {size size' : OpSize}
    (ld : LdrexChoice isARM size) (st : StrexChoice isARM size') (condL condS : Bool) :
    ∀ e ∈ genLDREX ld condL ++ genSTREX st condS, LegalOperands isARM e := by
  rw [List.forall_mem_append]
  exact ⟨genLDREX_legal ld condL, genSTREX_legal st condS⟩

/-- A Thumb load-exclusive of a pair. -/
def sampleLdrex : LdrexChoice false .d where
  cond := .eq
  rval := getMemLimit.1
  le_rval := le_rfl
  rval_le := by decide
  rn := 0
  rn_mem := by decide
  rt := 1
  rt_mem := by decide
  rp := 2
  rp_mem := by decide
  rq := 3
  rq_mem := by decide
  immOffset := false
  imm := 0
  rt2 := 4
  rt2_mem := by decide
  rx := 5
  rx_mem := by decide
  ry := 6
  ry_mem := by decide
  rtVal := 0
  rt2Val := 0

/-- A Thumb store-exclusive of a pair. -/
def sampleStrex : StrexChoice false .d where
  cond := .eq
  rs := 0
  rs_mem := by decide
  rw := 1
  rw_mem := by decide
  rn := 2
  rn_mem := by decide
  rv := 3
  rv_mem := by decide
  immOffset := false
  imm := 0
  rt := 4
  rt_mem := by decide
  rt2 := 5
  rt2_mem := by decide
  rd := 6
  rd_mem := by decide
  rz1 := 7
  rz1_mem := by decide
  rz2 := 8
  rz2_mem := by decide
  rm := 9
  rm_mem := by decide
  rtVal := 0
  rt2Val := 0
  rsVal := 0
  rnVal := 0

theorem exclusive_operands_legal_strexd :
    LegalOperands false (.inst .strexd (.strex none 6 (.d 4 5) 2 0)) :=
  exclusive_operands_legal sampleLdrex sampleStrex false false _
    (List.mem_append_right _ (by simp [genSTREX, attempt, sampleStrex]; decide))

end Rit.Art.Listing
