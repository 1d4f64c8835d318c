import Rit.Art.Exclusive

/-!
# The exclusive sequence hides the answers

Each piece of the sequence is given one lemma with the registers, flags and memory it leaves.  The
registers are always the old ones overwritten with constants, a list of writes, so that what an
attempt leaves behind (its status, the count) is visible only until later writes hide it.  Which
registers coincide does not matter for that.
-/

namespace Rit.Art

open Arm Layout Function

/-! ## Registers -/

lemma regRange_nodup (n : ℕ) : (regRange n).Nodup :=
  (List.nodup_finRange 16).sublist (List.take_sublist _ _)

lemma ldrexRegs_nodup (isARM : Bool) (size : OpSize) : (ldrexRegs isARM size).Nodup := by
  unfold ldrexRegs
  split_ifs
  · exact ((regRange_nodup 15).erase 14).filter _
  · exact regRange_nodup 15
  · exact (regRange_nodup 15).erase 13

lemma strexRegs_nodup (isARM : Bool) : (strexRegs isARM).Nodup := by
  unfold strexRegs
  split_ifs
  · exact regRange_nodup 15
  · exact (regRange_nodup 15).erase 13

lemma strexTransferRegs_nodup (isARM : Bool) (size : OpSize) :
    (strexTransferRegs isARM size).Nodup := by
  unfold strexTransferRegs
  split_ifs
  · exact (regRange_nodup 15).erase 14
  · exact regRange_nodup 15
  · exact (regRange_nodup 15).erase 13

namespace LdrexChoice

variable {isARM : Bool} {size : OpSize} (r : LdrexChoice isARM size)

lemma rq_ne_rp : r.rq ≠ r.rp :=
  ((((ldrexRegs_nodup isARM size).erase 13).mem_erase_iff).1 r.rq_mem).1

lemma ry_ne_rx : r.ry ≠ r.rx := ((regRange_nodup 13).mem_erase_iff.1 r.ry_mem).1

end LdrexChoice

namespace StrexChoice

variable {isARM : Bool} {size : OpSize} (r : StrexChoice isARM size)

lemma rw_ne_rs : r.rw ≠ r.rs := ((strexRegs_nodup isARM).mem_erase_iff.1 r.rw_mem).1

lemma rn_ne_rw : r.rn ≠ r.rw :=
  (((strexRegs_nodup isARM).erase _).mem_erase_iff.1 r.rn_mem).1

lemma rn_ne_rs : r.rn ≠ r.rs :=
  ((strexRegs_nodup isARM).mem_erase_iff.1 (List.mem_of_mem_erase r.rn_mem)).1

lemma rv_ne_rn : r.rv ≠ r.rn :=
  ((((strexRegs_nodup isARM).erase _).erase _).mem_erase_iff.1 r.rv_mem).1

lemma rv_ne_rw : r.rv ≠ r.rw :=
  (((strexRegs_nodup isARM).erase _).mem_erase_iff.1 (List.mem_of_mem_erase r.rv_mem)).1

lemma rv_ne_rs : r.rv ≠ r.rs :=
  ((strexRegs_nodup isARM).mem_erase_iff.1
    (List.mem_of_mem_erase (List.mem_of_mem_erase r.rv_mem))).1

lemma rd_ne_rn : r.rd ≠ r.rn :=
  ((((strexTransferRegs_nodup isARM size).erase _).erase _).mem_erase_iff.1 r.rd_mem).1

lemma rz1_ne_rn : r.rz1 ≠ r.rn := ((regRange_nodup 15).mem_erase_iff.1 r.rz1_mem).1

lemma rz2_ne_rn : r.rz2 ≠ r.rn :=
  ((regRange_nodup 15).mem_erase_iff.1 (List.mem_of_mem_erase r.rz2_mem)).1

lemma rz2_ne_rz1 : r.rz2 ≠ r.rz1 := (((regRange_nodup 15).erase _).mem_erase_iff.1 r.rz2_mem).1

/-- The register with the address of the lock is no transfer register. -/
lemma lockReg_mem : r.lockReg ∈ regLm size r.rt r.pair := by
  unfold lockReg keepsRn
  split_ifs with h
  · exact of_decide_eq_true h
  · exact r.rm_mem

lemma lockReg_ne_rt : r.lockReg ≠ r.rt := by
  have h := r.lockReg_mem
  unfold regLm at h
  dsimp only at h
  split_ifs at h
  · exact ((regRange_nodup 13).mem_erase_iff.1 (List.mem_of_mem_erase h)).1
  · exact ((regRange_nodup 13).mem_erase_iff.1 h).1

lemma lockReg_ne_pair (hsize : size = .d) : r.lockReg ≠ r.pair := by
  have h := r.lockReg_mem
  unfold regLm at h
  rw [if_pos hsize] at h
  exact (((regRange_nodup 13).erase _).mem_erase_iff.1 h).1

end StrexChoice

/-! ## The pieces -/

/-- The `it` line of a piece changes nothing. -/
lemma run_it_of_cond (isARM : Bool) (cond : Option Arm.Cond) (s : Cpu) :
    runLines (if isARM then [] else cond.elim [] fun c => [Arm.Line.it c] : List ExclLine) s =
      s := by
  cases isARM <;> cases cond <;> rfl

section Load

variable {isARM : Bool} {size : OpSize} (r : LdrexChoice isARM size) (s : Cpu)

lemma run_save : runLines r.save s =
    { s with
      regs := writes [(r.rp, s.apsr.word), (r.rq, symAddr .exclflag)] s.regs
      mem := storeWord s.mem (symAddr .exclflag) s.apsr.word } := by
  have h := r.rq_ne_rp.symm
  simp [LdrexChoice.save, Op.exec, Cpu.set, Transfer.bytes, update_of_ne h, storeWord]

/-- The registers written when the flags `F` are restored. -/
def LdrexChoice.restoreWrites (F : Apsr) : List (Reg × Arm.Word) :=
  [(r.rq, symAddr .exclflag), (r.rp, F.word)]

lemma run_restore {F : Apsr} (hF : loadWord s.mem (symAddr .exclflag) = F.word) :
    runLines r.restore s =
      { s with
        regs := writes (r.restoreWrites F) s.regs
        apsr := F } := by
  simp [LdrexChoice.restore, Op.exec, Cpu.set, Transfer.load, LdrexChoice.restoreWrites, hF]

/-- The registers written after the load-exclusive. -/
def LdrexChoice.lockWrites : List (Reg × Arm.Word) :=
  [(r.rx, symAddr .excladdr), (r.ry, r.lock), (r.rt, r.rtVal)] ++
    if size = .d then [(r.pair, r.rt2Val)] else []

/-- What the load-exclusive loads is overwritten. -/
lemma writes_load (m : Mem) (a : Arm.Word) (f : Reg → Arm.Word) :
    writes r.lockWrites ((size.transfer r.rt r.pair).load m a f) = writes r.lockWrites f := by
  refine writes_congr fun q hq => ?_
  have hrt : q ≠ r.rt := fun h => hq (by simp [written, LdrexChoice.lockWrites, h])
  cases size with
  | d =>
    have hpair : q ≠ r.pair := fun h => hq (by simp [written, LdrexChoice.lockWrites, h])
    simp [OpSize.transfer, Transfer.load, update_of_ne hrt, update_of_ne hpair]
  | _ => simp [OpSize.transfer, Transfer.load, update_of_ne hrt]

/-- All registers written with the load-exclusive. -/
def LdrexChoice.loadWrites : List (Reg × Arm.Word) :=
  (r.rn, r.lock - r.offset) :: r.lockWrites

lemma run_load {cond : Option Arm.Cond} (hc : passes cond s.apsr = true) :
    runLines (r.load cond) s =
      { s with
        regs := writes r.loadWrites s.regs
        mem := storeWord s.mem (symAddr .excladdr) r.lock } := by
  have h := r.ry_ne_rx.symm
  have hop (t : Cpu) (ht : t.apsr = s.apsr) (o : Op) :
      (Arm.Line.op cond o : ExclLine).run t = o.exec t :=
    run_op_of_passes (by rw [ht, hc]) o
  rw [LdrexChoice.loadWrites, writes_cons, ← writes_load r s.mem (r.lock - r.offset + r.offset)]
  simp only [LdrexChoice.load, runLines_append, run_it_of_cond, LdrexChoice.lockWrites]
  split_ifs <;>
    simp [hop, Op.exec, Cpu.set, Transfer.bytes, update_of_ne h, storeWord]

lemma run_load_skip {cond : Option Arm.Cond} (hc : passes cond s.apsr = false) :
    runLines (r.load cond) s = s := by
  simp only [LdrexChoice.load, runLines_append, run_it_of_cond]
  split_ifs <;> simp [run_op_of_not hc]

end Load

section Store

variable {isARM : Bool} {size : OpSize} (r : StrexChoice isARM size) (s : Cpu)

lemma StrexChoice.pair_ne_rt : r.pair ≠ r.rt := by
  have h := r.rt2_mem
  unfold StrexChoice.pair strexPair
  cases isARM with
  | true =>
    have hne : ∀ x : Reg, x + 1 ≠ x := by decide
    exact hne r.rt
  | false => exact ((strexTransferRegs_nodup false size).mem_erase_iff.1 (h rfl)).1

lemma StrexChoice.offset_eq_zero (h : r.hasOffset = false) : r.offset = 0 := by
  simp [StrexChoice.offset, h]

/-- The registers written when the address `a` is read under the flags `F`. -/
def StrexChoice.readWrites (F : Apsr) (a : Arm.Word) : List (Reg × Arm.Word) :=
  [(r.rs, F.word), (r.rw, symAddr .excladdr), (r.rn, a)]

lemma run_readAddr {a : Arm.Word} (ha : loadWord s.mem (symAddr .excladdr) = a) :
    runLines r.readAddr s =
      { s with
        regs := writes (r.readWrites s.apsr a) s.regs
        apsr := Alu.sub.flags a 0 s.apsr } := by
  simp [StrexChoice.readAddr, StrexChoice.readWrites, Op.exec, Cpu.set, Transfer.load,
    Operand.value, ha]

/-- The registers written before the attempt. -/
def StrexChoice.prepareWrites (a : Arm.Word) : List (Reg × Arm.Word) :=
  [(r.rv, 0)] ++ (if r.hasOffset then [(r.rn, a - r.offset)] else []) ++ [(r.rd, 0)]

lemma run_prepare {a : Arm.Word} {F : Apsr} (cond : Option Arm.Cond)
    (hw : s.regs r.rw = symAddr .excladdr) (hs : s.regs r.rs = F.word) (hn : s.regs r.rn = a) :
    runLines (r.prepare cond) s =
      { regs := writes (r.prepareWrites a) s.regs
        apsr := F
        mem := storeWord s.mem (symAddr .excladdr) 0 } := by
  have hvw := r.rv_ne_rw.symm
  have hvs := r.rv_ne_rs.symm
  have hvn := r.rv_ne_rn.symm
  simp only [StrexChoice.prepare, runLines_append, run_it_of_cond]
  split_ifs with ho
  · simp [Op.exec, Cpu.set, Transfer.bytes, Operand.value, update_of_ne hvw,
      update_of_ne hvs, update_of_ne hvn, hw, hs, hn, storeWord, StrexChoice.prepareWrites, ho]
  · simp [Op.exec, Cpu.set, Transfer.bytes, Operand.value, update_of_ne hvw,
      update_of_ne hvs, hw, hs, storeWord, StrexChoice.prepareWrites, ho]

/-- The flags after the status `d` of the attempt and the count `v` have been compared. -/
def countFlags (d v : Arm.Word) (F : Apsr) : Apsr :=
  let f := Alu.sub.flags d 0 F
  if f.z then f else Alu.sub.flags v 0 f

lemma countFlags_z (d v : Arm.Word) (F : Apsr) : (countFlags d v F).z = (d == 0 || v == 0) := by
  unfold countFlags
  dsimp only
  rw [sub_z]
  cases hd : (d == 0) with
  | true => rw [if_pos rfl, sub_z, hd, Bool.true_or]
  | false => rw [if_neg Bool.false_ne_true, sub_z, Bool.false_or]

/-- The registers written when the count `v` is stored. -/
def StrexChoice.countWrites (v : Arm.Word) : List (Reg × Arm.Word) :=
  [(r.rz1, symAddr .exclcnt), (r.rz2, v)]

lemma run_count {v : Arm.Word} (hv : loadWord s.mem (symAddr .exclcnt) = v) :
    runLines r.count s =
      { regs := writes (r.countWrites (v - 1)) s.regs
        apsr := countFlags (s.regs r.rd) (v - 1) s.apsr
        mem := storeWord s.mem (symAddr .exclcnt) (v - 1) } := by
  have hz := r.rz2_ne_rz1.symm
  have hit (t : Cpu) :
      runLines (if isARM then [] else [Arm.Line.it .ne] : List ExclLine) t = t := by
    cases isARM <;> rfl
  simp only [StrexChoice.count, runLines_append, hit]
  simp only [runLines_cons, runLines_nil, run_op_none, Op.exec, Cpu.set, Transfer.load,
    Transfer.bytes, Operand.value, update_self, update_of_ne hz, BitVec.ofNat_eq_ofNat,
    BitVec.add_zero, hv, sub_value, update_idem]
  -- the comparison of the count is executed if the status was not zero
  by_cases hd : s.regs r.rd = 0
  · have hflags : countFlags (s.regs r.rd) (v - 1#32) s.apsr =
        Alu.sub.flags (s.regs r.rd) 0#32 s.apsr :=
      if_pos (by simp [hd])
    rw [run_op_of_not (by simp [Arm.Cond.holds, hd]), hflags]
    simp [StrexChoice.countWrites, storeWord]
  · have hflags : countFlags (s.regs r.rd) (v - 1#32) s.apsr =
        Alu.sub.flags (v - 1#32) 0#32 (Alu.sub.flags (s.regs r.rd) 0#32 s.apsr) :=
      if_neg (by simpa using hd)
    rw [run_op_of_passes (by simpa [Arm.Cond.holds] using hd), hflags]
    simp [StrexChoice.countWrites, storeWord, Op.exec, Operand.value]

/-- The registers written when the lock at `a` is overwritten. -/
def StrexChoice.fillWrites (a : Arm.Word) : List (Reg × Arm.Word) :=
  (if r.hasOffset then [(r.rn, a)] else []) ++ (if r.keepsRn then [] else [(r.rm, a)]) ++
    [(r.rt, r.rtVal)] ++ if size = .d then [(r.pair, r.rt2Val)] else []

/-- The constants the lock is overwritten with. -/
def StrexChoice.fillBytes : List (BitVec 8) :=
  if size = .d then wordBytes r.rtVal ++ wordBytes r.rt2Val else wordBytes r.rtVal

/-- What a store-exclusive writes is covered by these constants. -/
lemma StrexChoice.size_le_fill :
    (size.transfer r.rt r.pair).size ≤ r.fillBytes.length ∧ r.fillBytes.length ≤ 8 := by
  cases size <;> simp [OpSize.transfer, Transfer.size, StrexChoice.fillBytes]

lemma run_fill {a : Arm.Word} (hn : s.regs r.rn = a - r.offset) :
    runLines r.fill s =
      { s with
        regs := writes (r.fillWrites a) s.regs
        mem := store s.mem a r.fillBytes } := by
  -- the registers when the address stands in `lockReg`
  let f := writes (if r.hasOffset then [(r.rn, a)] else []) s.regs
  let g := writes (if r.keepsRn then [] else [(r.rm, a)]) f
  have hf : f r.rn = a := by
    unfold f
    split_ifs with ho
    · exact update_self ..
    · rw [writes_nil, hn, r.offset_eq_zero (by simpa using ho)]
      exact BitVec.sub_zero a
  have hg : g r.lockReg = a := by
    unfold g StrexChoice.lockReg
    split_ifs
    · exact hf
    · exact update_self ..
  have hadd :
      runLines (if r.hasOffset then [.op none (.alu .add r.rn r.rn (.imm r.offset))] else [] :
      List ExclLine) s = { s with regs := f } := by
    have hsum : s.regs r.rn + r.offset = a := by rw [hn, BitVec.sub_add_cancel]
    unfold f
    split_ifs
    · simp [Op.exec, Cpu.set, Operand.value, hsum]
    · rfl
  have hmov : runLines (if r.keepsRn then [] else [.op none (.mov r.rm (.reg r.rn))] :
      List ExclLine) { s with regs := f } = { s with regs := g } := by
    unfold g
    split_ifs
    · rfl
    · simp [Op.exec, Cpu.set, Operand.value, hf]
  have hrt : update g r.rt r.rtVal r.lockReg = a := by rw [update_of_ne r.lockReg_ne_rt, hg]
  have hregs : writes (r.fillWrites a) s.regs =
      writes (if size = .d then [(r.pair, r.rt2Val)] else []) (update g r.rt r.rtVal) := by
    rw [StrexChoice.fillWrites, writes_append, writes_append, writes_append]
    rfl
  simp only [StrexChoice.fill, runLines_append, hadd, hmov, hregs, StrexChoice.fillBytes]
  split_ifs with hd
  · have hpair : update (update g r.rt r.rtVal) r.pair r.rt2Val r.lockReg = a := by
      rw [update_of_ne (r.lockReg_ne_pair hd), hrt]
    simp [Op.exec, Cpu.set, Transfer.bytes, hpair, update_of_ne r.pair_ne_rt.symm]
  · simp [Op.exec, Cpu.set, Transfer.bytes, hrt]

/-- The registers written at the end. -/
def StrexChoice.stubWrites : List (Reg × Arm.Word) :=
  [(r.rs, r.rsVal), (r.lockReg, r.rnVal), (r.rd, 0), (r.rz1, symAddr .exclcnt), (r.rz2, exclCnt)]

lemma run_stub : runLines r.stub s =
    { regs := writes r.stubWrites s.regs
      apsr := Alu.sub.flags 0 0 s.apsr
      mem := storeWord s.mem (symAddr .exclcnt) exclCnt } := by
  have hz := r.rz2_ne_rz1.symm
  simp [StrexChoice.stub, Op.exec, Cpu.set, Transfer.bytes, Operand.value,
    update_of_ne hz, storeWord, StrexChoice.stubWrites]

end Store

/-! ## Addresses -/

lemma symAddr_excladdr : symAddr .excladdr = 0x04010080 := by unfold symAddr; decide

lemma symAddr_exclflag : symAddr .exclflag = 0x04010084 := by unfold symAddr; decide

lemma symAddr_exclcnt : symAddr .exclcnt = 0x04010088 := by unfold symAddr; decide

section Addresses

variable {isARM : Bool} {size : OpSize} (r : LdrexChoice isARM size) {m : Mem} {v : Arm.Word}

/-- The lock lies in `ritdata`. -/
lemma LdrexChoice.lock_bounds : 0x03fc0000 ≤ r.lock.toNat ∧ r.lock.toNat ≤ 0x03ffffff := by
  have hle : 0x03fc0000 ≤ r.rval := r.le_rval
  have hge : r.rval ≤ 0x03ffffff := r.rval_le
  have halign : 0x03fc0000 ≤ size.align r.rval ∧ size.align r.rval ≤ r.rval := by
    cases size <;>
      simp only [OpSize.align, Nat.shiftRight_eq_div_pow, Nat.shiftLeft_eq] <;> omega
  unfold LdrexChoice.lock
  rw [BitVec.toNat_ofNat, Nat.mod_eq_of_lt (by omega)]
  omega

lemma LdrexChoice.lock_ne_zero : r.lock ≠ 0 := by
  have h := r.lock_bounds.1
  intro h0
  simp [h0] at h

/-- The bytes of the lock are apart from the words that the sequence keeps. -/
lemma LdrexChoice.lock_apart {sym : DataSym} (hsym : sym = .excladdr ∨ sym = .exclcnt)
    {x : Arm.Word} (hx : (x - symAddr sym).toNat < 4) : 8 ≤ (x - r.lock).toNat := by
  obtain ⟨hlo, hhi⟩ := r.lock_bounds
  rcases hsym with rfl | rfl
  · rw [symAddr_excladdr] at hx
    bv_omega
  · rw [symAddr_exclcnt] at hx
    bv_omega

/-- The words that the sequence keeps do not overlap. -/
lemma loadWord_storeWord_kept {a b : DataSym} (ha : a = .excladdr ∨ a = .exclflag ∨ a = .exclcnt)
    (hb : b = .excladdr ∨ b = .exclflag ∨ b = .exclcnt) (hab : a ≠ b) (m : Mem) (v : Arm.Word) :
    loadWord (storeWord m (symAddr b) v) (symAddr a) = loadWord m (symAddr a) := by
  apply loadWord_storeWord_apart <;> rcases ha with rfl | rfl | rfl <;>
    rcases hb with rfl | rfl | rfl <;>
    first
    | exact absurd rfl hab
    | simp only [symAddr_excladdr, symAddr_exclflag, symAddr_exclcnt]; decide

lemma loadWord_storeWord_flag (m : Mem) (v : Arm.Word) :
    loadWord (storeWord m (symAddr .exclcnt) v) (symAddr .exclflag) =
      loadWord m (symAddr .exclflag) :=
  loadWord_storeWord_kept (.inr (.inl rfl)) (.inr (.inr rfl)) nofun m v

lemma loadWord_storeWord_addr (m : Mem) (v : Arm.Word) :
    loadWord (storeWord m (symAddr .exclcnt) v) (symAddr .excladdr) =
      loadWord m (symAddr .excladdr) :=
  loadWord_storeWord_kept (.inl rfl) (.inr (.inr rfl)) nofun m v

/-- Passing an address through `excladdr` leaves it zero. -/
lemma storeWord_clear (h : loadWord m (symAddr .excladdr) = 0) (v : Arm.Word) :
    storeWord (storeWord m (symAddr .excladdr) v) (symAddr .excladdr) 0 = m := by
  rw [storeWord_storeWord, ← h, storeWord_loadWord]

end Addresses

/-! ## The retry loop -/

namespace ExclChoice

variable {isARM : Bool} (r : ExclChoice isARM)

/-- The condition of the load. -/
def loadCond : Option Arm.Cond := if r.condcode then some r.ldrex.cond else none

/-- The condition of the attempt. -/
def storeCond : Option Arm.Cond := if r.condcode then some r.strex.cond else none

/-- The lines from the back edge to the test of the address. -/
def first : List ExclLine := r.ldrex.restore ++ r.ldrex.load r.loadCond ++ r.strex.readAddr

/-- The branch around an attempt that is not executed. -/
def skip : List ExclLine :=
  r.storeCond.elim [] fun c => [.b (some (invCondcode c)) .fillLockMem]

/-- The lines from the end of the attempts. -/
def last : List ExclLine :=
  [.label .fillLockMem] ++ r.strex.fill ++ ([.label .stub] ++ r.strex.stub)

/-- The sequence, cut where control is transferred. -/
lemma sequence_eq : exclSequence r =
    r.ldrex.save ++ (.label .backEdge :: (r.first ++ (.b (some .eq) .stub ::
      (r.strex.prepare r.storeCond ++ (r.strex.attempt r.storeCond :: (r.skip ++ (r.strex.count ++
        (.b (some .ne) .backEdge :: r.last)))))))) := by
  simp [exclSequence, genLDREX, genSTREX, first, skip, last, loadCond, storeCond]

/-- The registers written before an attempt, from the back edge on. -/
def iterWrites (F : Apsr) : List (Reg × Arm.Word) :=
  r.ldrex.restoreWrites F ++ r.ldrex.loadWrites ++ r.strex.readWrites F r.ldrex.lock ++
    r.strex.prepareWrites r.ldrex.lock

/-- The registers written by an attempt with the status `d` that leaves the count `v`. -/
def attemptWrites (d v : Arm.Word) : List (Reg × Arm.Word) :=
  (r.strex.rd, d) :: r.strex.countWrites v

/-- The registers written after the attempts. -/
def lastWrites : List (Reg × Arm.Word) :=
  r.strex.fillWrites r.ldrex.lock ++ r.strex.stubWrites

lemma written_attempt (d v : Arm.Word) : written (r.attemptWrites d v) ⊆ written r.lastWrites := by
  intro q hq
  simp only [mem_written, attemptWrites, StrexChoice.countWrites, List.map_cons, List.map_nil,
    List.mem_cons, List.not_mem_nil, or_false] at hq
  simp only [mem_written, lastWrites, StrexChoice.stubWrites, List.map_append, List.map_cons,
    List.map_nil, List.mem_append, List.mem_cons, List.not_mem_nil, or_false]
  tauto

/-- The state at the end, for the registers `f` and the memory `m` at the back edge. -/
def final (F : Apsr) (f : Reg → Arm.Word) (m : Mem) : Cpu where
  regs := writes r.lastWrites (writes (r.iterWrites F) f)
  apsr := Alu.sub.flags 0 0 F
  mem := storeWord (store m r.ldrex.lock r.strex.fillBytes) (symAddr .exclcnt) exclCnt

/-- A retry does not change the registers at the end. -/
lemma lastWrites_retry (F : Apsr) (f : Reg → Arm.Word) (d v : Arm.Word) :
    writes r.lastWrites (writes (r.iterWrites F)
        (writes (r.attemptWrites d v) (writes (r.iterWrites F) f))) =
      writes r.lastWrites (writes (r.iterWrites F) f) := by
  have hws (g : Reg → Arm.Word) : writes r.lastWrites (writes (r.iterWrites F) g) =
      writes (r.iterWrites F ++ r.lastWrites) g := (writes_append _ _ g).symm
  rw [hws, hws]
  have hattempt : EqOff (written (r.iterWrites F ++ r.lastWrites))
      (writes (r.attemptWrites d v) (writes (r.iterWrites F) f)) (writes (r.iterWrites F) f) :=
    (eqOff_writes _ _).mono ((r.written_attempt d v).trans fun q hq => by
      rw [mem_written, List.map_append, List.mem_append]
      exact .inr hq)
  have hiter : EqOff (written (r.iterWrites F ++ r.lastWrites)) (writes (r.iterWrites F) f) f :=
    (eqOff_writes _ _).mono fun q hq => by
      rw [mem_written, List.map_append, List.mem_append]
      exact .inl hq
  exact writes_congr (hattempt.trans hiter)

/-- The register with the address before and after an attempt. -/
lemma writes_iter_rn (F : Apsr) (f : Reg → Arm.Word) :
    writes (r.iterWrites F) f r.strex.rn = r.ldrex.lock - r.strex.offset := by
  have hd := r.strex.rd_ne_rn.symm
  have hv := r.strex.rv_ne_rn.symm
  rw [iterWrites, writes_append]
  cases ho : r.strex.hasOffset with
  | true => simp [StrexChoice.prepareWrites, ho, Function.update_of_ne hd]
  | false =>
    simp [StrexChoice.prepareWrites, ho, Function.update_of_ne hd, Function.update_of_ne hv,
      StrexChoice.readWrites, r.strex.offset_eq_zero ho]

lemma writes_attempt_rn (d v : Arm.Word) (f : Reg → Arm.Word) :
    writes (r.attemptWrites d v) f r.strex.rn = f r.strex.rn := by
  simp [attemptWrites, StrexChoice.countWrites, Function.update_of_ne r.strex.rd_ne_rn.symm,
    Function.update_of_ne r.strex.rz1_ne_rn.symm, Function.update_of_ne r.strex.rz2_ne_rn.symm]

/-! ### The pieces between the transfers -/

section Pieces

variable {r} {F : Apsr} {m : Mem} (s : Cpu)

lemma run_first (hF : loadWord s.mem (symAddr .exclflag) = F.word)
    (hc : passes r.loadCond F = true) :
    runLines r.first s =
      { regs := writes (r.ldrex.restoreWrites F ++ r.ldrex.loadWrites ++
          r.strex.readWrites F r.ldrex.lock) s.regs
        apsr := Alu.sub.flags r.ldrex.lock 0 F
        mem := storeWord s.mem (symAddr .excladdr) r.ldrex.lock } := by
  let s₁ : Cpu := { s with regs := writes (r.ldrex.restoreWrites F) s.regs, apsr := F }
  let s₂ : Cpu := { s₁ with
    regs := writes r.ldrex.loadWrites s₁.regs
    mem := storeWord s.mem (symAddr .excladdr) r.ldrex.lock }
  have haddr : loadWord s₂.mem (symAddr .excladdr) = r.ldrex.lock := loadWord_storeWord ..
  have h₁ : runLines r.ldrex.restore s = s₁ := run_restore r.ldrex s hF
  have h₂ : runLines (r.ldrex.load r.loadCond) s₁ = s₂ := run_load r.ldrex s₁ hc
  rw [first, runLines_append, runLines_append, h₁, h₂, run_readAddr r.strex s₂ haddr,
    writes_append, writes_append]

/-- Without the load, the address is the one that was there. -/
lemma run_first_skip (hF : loadWord s.mem (symAddr .exclflag) = F.word)
    (haddr : loadWord s.mem (symAddr .excladdr) = 0) (hc : passes r.loadCond F = false) :
    runLines r.first s =
      { regs := writes (r.ldrex.restoreWrites F ++ r.strex.readWrites F 0) s.regs
        apsr := Alu.sub.flags 0 0 F
        mem := s.mem } := by
  let s₁ : Cpu := { s with regs := writes (r.ldrex.restoreWrites F) s.regs, apsr := F }
  have h₁ : runLines r.ldrex.restore s = s₁ := run_restore r.ldrex s hF
  have h₂ : runLines (r.ldrex.load r.loadCond) s₁ = s₁ := run_load_skip r.ldrex s₁ hc
  rw [first, runLines_append, runLines_append, h₁, h₂, run_readAddr r.strex s₁ haddr,
    writes_append]

lemma run_prepare_iter (f : Reg → Arm.Word) (fl : Apsr)
    (haddr : loadWord m (symAddr .excladdr) = 0) :
    runLines (r.strex.prepare r.storeCond)
        { regs := writes (r.ldrex.restoreWrites F ++ r.ldrex.loadWrites ++
            r.strex.readWrites F r.ldrex.lock) f
          apsr := fl
          mem := storeWord m (symAddr .excladdr) r.ldrex.lock } =
      { regs := writes (r.iterWrites F) f, apsr := F, mem := m } := by
  let s : Cpu :=
    { regs := writes (r.ldrex.restoreWrites F ++ r.ldrex.loadWrites ++
        r.strex.readWrites F r.ldrex.lock) f
      apsr := fl
      mem := storeWord m (symAddr .excladdr) r.ldrex.lock }
  have hw : s.regs r.strex.rw = symAddr .excladdr := by
    simp [s, StrexChoice.readWrites, Function.update_of_ne r.strex.rn_ne_rw.symm]
  have hs : s.regs r.strex.rs = F.word := by
    simp [s, StrexChoice.readWrites, Function.update_of_ne r.strex.rn_ne_rs.symm,
      Function.update_of_ne r.strex.rw_ne_rs.symm]
  have hn : s.regs r.strex.rn = r.ldrex.lock := by simp [s, StrexChoice.readWrites]
  rw [run_prepare r.strex s r.storeCond hw hs hn, storeWord_clear haddr, iterWrites,
    writes_append _ (r.strex.prepareWrites _)]

/-- The end of the sequence after an attempt or without one. -/
lemma run_last (hn : s.regs r.strex.rn = r.ldrex.lock - r.strex.offset) (hq : s.apsr.q = F.q)
    (hge : s.apsr.ge = F.ge) :
    runLines r.last s =
      { regs := writes r.lastWrites s.regs
        apsr := Alu.sub.flags 0 0 F
        mem := storeWord (store s.mem r.ldrex.lock r.strex.fillBytes) (symAddr .exclcnt)
          exclCnt } := by
  rw [last, runLines_append, runLines_append, runLines_append]
  simp only [runLines_cons, runLines_nil, run_label]
  rw [run_fill r.strex s hn, run_stub]
  simp only [lastWrites, writes_append, sub_flags_congr 0 0 hq hge]

end Pieces

/-! ### Placing the pieces -/

section Placed

variable {r} {T : Text ExclLabel}

/-- The index of the label of the back edge. -/
def backPos (r : ExclChoice isARM) : ℕ := r.ldrex.save.length

/-- The index of the test of the address. -/
def testPos (r : ExclChoice isARM) : ℕ := r.backPos + 1 + r.first.length

/-- The index of the attempt. -/
def attemptPos (r : ExclChoice isARM) : ℕ :=
  r.testPos + 1 + (r.strex.prepare r.storeCond).length

/-- The index of the branch to the back edge. -/
def retryPos (r : ExclChoice isARM) : ℕ :=
  r.attemptPos + 1 + r.skip.length + r.strex.count.length

/-- Where the pieces stand. -/
structure Placed (T : Text ExclLabel) (r : ExclChoice isARM) : Prop where
  save : At T.lines 0 r.ldrex.save
  back : T.lines[r.backPos]? = some (.label .backEdge)
  first : At T.lines (r.backPos + 1) r.first
  test : T.lines[r.testPos]? = some (.b (some .eq) .stub)
  prepare : At T.lines (r.testPos + 1) (r.strex.prepare r.storeCond)
  attempt : T.lines[r.attemptPos]? = some (r.strex.attempt r.storeCond)
  skip : At T.lines (r.attemptPos + 1) r.skip
  count : At T.lines (r.attemptPos + 1 + r.skip.length) r.strex.count
  retry : T.lines[r.retryPos]? = some (.b (some .ne) .backEdge)
  last : At T.lines (r.retryPos + 1) r.last
  length : T.lines.length = r.retryPos + 1 + r.last.length
  once : Once Arm.Line.label? T.lines

lemma it_plain (c : Option Arm.Cond) :
    (if isARM then [] else c.elim [] fun c => [Arm.Line.it c] : List ExclLine).all
      Arm.Line.plain = true := by
  cases isARM <;> cases c <;> rfl

lemma load_plain : (r.ldrex.load r.loadCond).all Arm.Line.plain = true := by
  simp only [LdrexChoice.load, List.all_append, it_plain]
  split_ifs <;> rfl

lemma first_plain : r.first.all Arm.Line.plain = true := by
  rw [first, List.all_append, List.all_append, load_plain]
  rfl

lemma prepare_plain : (r.strex.prepare r.storeCond).all Arm.Line.plain = true := by
  simp only [StrexChoice.prepare, List.all_append, it_plain]
  split_ifs <;> rfl

lemma count_plain : r.strex.count.all Arm.Line.plain = true := by
  unfold StrexChoice.count
  cases isARM <;> rfl

lemma fill_plain : r.strex.fill.all Arm.Line.plain = true := by
  simp only [StrexChoice.fill, List.all_append]
  split_ifs <;> rfl

lemma labels_sequence : (exclSequence r).filterMap Arm.Line.label? =
    [.backEdge, .fillLockMem, .stub] := by
  have hskip : r.skip.filterMap Arm.Line.label? = [] := by
    unfold skip
    cases r.storeCond <;> rfl
  have hlast : r.last.filterMap Arm.Line.label? = [.fillLockMem, .stub] := by
    rw [last, List.filterMap_append, List.filterMap_append, List.filterMap_append,
      labels_of_plain fill_plain]
    rfl
  have hcons (l : ExclLine) (ls : List ExclLine) (hl : l.label? = none) :
      (l :: ls).filterMap Arm.Line.label? = ls.filterMap Arm.Line.label? :=
    List.filterMap_cons_none hl
  have hback (ls : List ExclLine) :
      (Arm.Line.label ExclLabel.backEdge :: ls).filterMap Arm.Line.label? =
        .backEdge :: ls.filterMap Arm.Line.label? := rfl
  rw [sequence_eq, List.filterMap_append, hback, List.filterMap_append,
    labels_of_plain first_plain, hcons _ _ rfl, List.filterMap_append,
    labels_of_plain prepare_plain, hcons _ _ rfl, List.filterMap_append, hskip,
    List.filterMap_append, labels_of_plain count_plain, hcons _ _ rfl, hlast]
  rfl

lemma placed (hT : T.lines = exclSequence r) : Placed T r := by
  have h : At T.lines 0 (exclSequence r) := hT ▸ at_zero _
  rw [sequence_eq] at h
  simp only [at_append, at_cons, Nat.zero_add] at h
  obtain ⟨hsave, hback, hfirst, htest, hprepare, hattempt, hskip, hcount, hretry, hlast⟩ := h
  refine ⟨hsave, hback, hfirst, htest, hprepare, hattempt, hskip, hcount, hretry, hlast, ?_, ?_⟩
  · rw [hT, sequence_eq]
    simp only [List.length_append, List.length_cons, backPos, testPos, attemptPos, retryPos]
    omega
  · rw [Once, hT, labels_sequence]
    decide

lemma last_straight : r.last.all Arm.Line.straight = true := by
  rw [last, List.all_append, List.all_append, straight_of_plain fill_plain]
  rfl

end Placed

/-! ### Runs -/

section Runs

variable {r} {T : Text ExclLabel} {F : Apsr} {m : Mem} {s : Arm.State}

lemma invCondcode_holds (c : Arm.Cond) (f : Apsr) : (invCondcode c).holds f = !c.holds f := by
  cases c <;> simp [invCondcode, Arm.Cond.holds, bne]

/-- From the back edge to the test of the address. -/
lemma runs_first (hP : Placed T r) (hisa : s.isARM = T.isARM) (hpc : s.pc = .line r.backPos) :
    T.Runs s { s with pc := .line r.testPos, cpu := runLines r.first s.cpu } := by
  have hat : At T.lines r.backPos (.label .backEdge :: r.first) := at_cons.2 ⟨hP.back, hP.first⟩
  have hrun := runs_straight hat
    (by rw [List.all_cons, straight_of_plain first_plain]; rfl) hpc hisa
  have hend : r.backPos + (Arm.Line.label ExclLabel.backEdge :: r.first).length = r.testPos := by
    rw [testPos, List.length_cons]
    omega
  rwa [hend] at hrun

/-- From the label behind the attempts to the end. -/
lemma runs_last (hP : Placed T r) (hisa : s.isARM = T.isARM) (hpc : s.pc = .line (r.retryPos + 1)) :
    T.Runs s { s with pc := .line T.lines.length, cpu := runLines r.last s.cpu } := by
  have hrun := runs_straight hP.last last_straight hpc hisa
  rwa [← hP.length] at hrun

lemma Placed.idxOf_back (hP : Placed T r) : T.lines.idxOf (.label .backEdge) = r.backPos :=
  hP.once.idxOf_eq rfl hP.back

lemma Placed.idxOf_fill (hP : Placed T r) : T.lines.idxOf (.label .fillLockMem) = r.retryPos + 1 :=
  hP.once.idxOf_eq rfl (at_cons.1 hP.last).1

/-- The state after an attempt. -/
def attempted (r : ExclChoice isARM) (s : Arm.State) : Arm.State :=
  s.strex r.strex.rd (r.size.transfer r.strex.rt r.strex.pair) r.strex.rn r.strex.offset

lemma attempted_apsr (r : ExclChoice isARM) (s : Arm.State) :
    (r.attempted s).cpu.apsr = s.cpu.apsr := by
  unfold attempted Arm.State.strex
  dsimp only
  split_ifs <;> rfl

/-- An attempt that is executed, up to the branch to the back edge. -/
lemma runs_attempt (hP : Placed T r) (hisa : s.isARM = T.isARM) (hpc : s.pc = .line r.attemptPos)
    (hc : passes r.storeCond s.cpu.apsr = true) :
    T.Runs s { r.attempted s with
        pc := .line r.retryPos
        cpu := runLines r.strex.count (r.attempted s).cpu } := by
  let s₁ : Arm.State := { r.attempted s with pc := .line (r.attemptPos + 1) }
  let s₂ : Arm.State := { r.attempted s with pc := .line (r.attemptPos + 1 + r.skip.length) }
  have hattempt : T.step s = some s₁ := by
    rw [step_line hpc hisa hP.attempt, StrexChoice.attempt, Text.exec, if_pos hc]
    rfl
  -- the branch around the attempt has the inverse condition
  have hskip : T.Runs s₁ s₂ := by
    have hat := hP.skip
    unfold skip at hat
    cases hcond : r.storeCond with
    | none =>
      have hs : s₂ = s₁ := by simp [s₁, s₂, skip, hcond]
      rw [hs]
    | some c =>
      rw [hcond] at hat hc
      have hbranch := step_b (s := s₁) rfl hisa (at_cons.1 hat).1
      have hs : s₂ = { s₁ with pc := .line (r.attemptPos + 1 + 1) } := by
        simp [s₁, s₂, skip, hcond]
      have hnot : passes (some (invCondcode c)) s₁.cpu.apsr = false := by
        have happsr : s₁.cpu.apsr = s.cpu.apsr := attempted_apsr r s
        rw [happsr, passes_some, invCondcode_holds, ← passes_some, hc]
        rfl
      rw [hnot] at hbranch
      rw [hs]
      exact .single hbranch
  have hcount := runs_straight hP.count (straight_of_plain count_plain) (s := s₂) rfl hisa
  have hhead : T.Runs s s₂ := .head hattempt hskip
  exact hhead.trans hcount

/-- An attempt that is not executed leads behind the attempts. -/
lemma runs_skip (hP : Placed T r) (hisa : s.isARM = T.isARM) (hpc : s.pc = .line r.attemptPos)
    (hc : passes r.storeCond s.cpu.apsr = false) :
    T.Runs s { s with pc := .line (r.retryPos + 1) } := by
  let s₁ : Arm.State := { s with pc := .line (r.attemptPos + 1) }
  have hattempt : T.step s = some s₁ := by
    rw [step_line hpc hisa hP.attempt, StrexChoice.attempt, Text.exec,
      if_neg (by rw [hc]; exact Bool.false_ne_true)]
  have hat := hP.skip
  unfold skip at hat
  cases hcond : r.storeCond with
  | none =>
    rw [hcond] at hc
    cases hc
  | some c =>
    rw [hcond] at hat hc
    have hbranch := step_b (s := s₁) rfl hisa (at_cons.1 hat).1
    have htaken : passes (some (invCondcode c)) s₁.cpu.apsr = true := by
      rw [passes_some, invCondcode_holds, ← passes_some]
      simp only [s₁, hc, Bool.not_false]
    rw [htaken, if_pos rfl, hP.idxOf_fill] at hbranch
    exact .head hattempt (.single hbranch)

/-- From the back edge to the attempt, if the load is executed. -/
lemma runs_to_attempt (hP : Placed T r) (hisa : s.isARM = T.isARM) (hpc : s.pc = .line r.backPos)
    (hF : loadWord s.cpu.mem (symAddr .exclflag) = F.word)
    (haddr : loadWord s.cpu.mem (symAddr .excladdr) = 0) (hl : passes r.loadCond F = true) :
    T.Runs s { s with
      pc := .line r.attemptPos
      cpu := { regs := writes (r.iterWrites F) s.cpu.regs, apsr := F, mem := s.cpu.mem } } := by
  let s₁ : Arm.State := { s with pc := .line r.testPos, cpu := runLines r.first s.cpu }
  have hfirst : T.Runs s s₁ := runs_first hP hisa hpc
  have hcpu := run_first s.cpu hF hl
  -- the address of the lock is not zero
  have hnot : passes (some .eq) s₁.cpu.apsr = false := by
    have hz : (Alu.sub.flags r.ldrex.lock 0 F).z = false := by
      simpa using r.ldrex.lock_ne_zero
    simp only [s₁, hcpu, passes_some, Arm.Cond.holds, hz]
  have hbranch := step_b (s := s₁) rfl hisa hP.test
  rw [hnot] at hbranch
  have hprepare := runs_straight hP.prepare (straight_of_plain prepare_plain)
    (s := { s₁ with pc := .line (r.testPos + 1) }) rfl hisa
  have hend : runLines (r.strex.prepare r.storeCond) s₁.cpu =
      { regs := writes (r.iterWrites F) s.cpu.regs, apsr := F, mem := s.cpu.mem } := by
    simp only [s₁, hcpu]
    exact run_prepare_iter s.cpu.regs _ haddr
  rw [hend] at hprepare
  exact (hfirst.tail hbranch).trans hprepare

/-- The status of the next attempt. -/
def status (s : Arm.State) : Arm.Word := if s.answers 0 then 0 else 1

lemma attempted_regs (r : ExclChoice isARM) (s : Arm.State) :
    (r.attempted s).cpu.regs = Function.update s.cpu.regs r.strex.rd (status s) := by
  unfold attempted Arm.State.strex status
  dsimp only
  split_ifs <;> rfl

/-- An attempt changes the memory at the lock only. -/
lemma attempted_mem {f : Reg → Arm.Word} (hregs : s.cpu.regs = writes (r.iterWrites F) f) :
    EqOff (bytesAt r.ldrex.lock r.strex.fillBytes.length) (r.attempted s).cpu.mem s.cpu.mem := by
  have haddr : s.cpu.regs r.strex.rn + r.strex.offset = r.ldrex.lock := by
    rw [hregs, writes_iter_rn, BitVec.sub_add_cancel]
  unfold attempted Arm.State.strex
  dsimp only
  split_ifs with hok
  · rw [haddr]
    refine (EqOff.refl _ s.cpu.mem).store_left fun x hx => ?_
    rw [Transfer.length_bytes] at hx
    exact lt_of_lt_of_le hx r.strex.size_le_fill.1
  · exact EqOff.refl _ _

/-- The end of the sequence, whatever the attempts have left. -/
lemma runs_end (hP : Placed T r) (hisa : s.isARM = T.isARM) (hpc : s.pc = .line (r.retryPos + 1))
    {f : Reg → Arm.Word} (hregs : s.cpu.regs r.strex.rn = r.ldrex.lock - r.strex.offset)
    (hfin : writes r.lastWrites s.cpu.regs = writes r.lastWrites (writes (r.iterWrites F) f))
    (hq : s.cpu.apsr.q = F.q) (hge : s.cpu.apsr.ge = F.ge)
    (hmem : EqOff (bytesAt r.ldrex.lock r.strex.fillBytes.length ∪ bytesAt (symAddr .exclcnt) 4)
      s.cpu.mem m) : T.Runs s { s with pc := .line T.lines.length, cpu := r.final F f m } := by
  have hrun := runs_last hP hisa hpc
  rw [run_last s.cpu hregs hq hge, hfin] at hrun
  have hfill : EqOff (bytesAt (symAddr .exclcnt) 4 ∪ ∅)
      (store s.cpu.mem r.ldrex.lock r.strex.fillBytes)
        (store m r.ldrex.lock r.strex.fillBytes) := by
    rw [Set.union_empty]
    exact hmem.store
  have hstore :
      storeWord (store s.cpu.mem r.ldrex.lock r.strex.fillBytes) (symAddr .exclcnt) exclCnt =
        storeWord (store m r.ldrex.lock r.strex.fillBytes) (symAddr .exclcnt) exclCnt :=
    EqOff.eq hfill.store
  rw [hstore] at hrun
  exact hrun

lemma countFlags_q_ge (d v : Arm.Word) (F : Apsr) :
    (countFlags d v F).q = F.q ∧ (countFlags d v F).ge = F.ge := by
  unfold countFlags
  dsimp only
  split_ifs <;> exact ⟨rfl, rfl⟩

/-- One round with the count at `v`: it ends the sequence if the attempt succeeds or was the last
one, and comes back to the back edge otherwise. -/
lemma runs_round (hP : Placed T r) (hisa : s.isARM = T.isARM) (hpc : s.pc = .line r.backPos)
    {v : Arm.Word} (hmem : s.cpu.mem = storeWord m (symAddr .exclcnt) v)
    (hF : loadWord m (symAddr .exclflag) = F.word) (haddr : loadWord m (symAddr .excladdr) = 0)
    (hl : passes r.loadCond F = true) (hc : passes r.storeCond F = true) :
    if s.answers 0 ∨ v = 1 then
      T.Runs s { s with
        pc := .line T.lines.length
        cpu := r.final F s.cpu.regs m
        answers := fun i => s.answers (i + 1)
        attempts := s.attempts + 1 }
    else
      ∃ fl, T.Runs s { s with
        pc := .line r.backPos
        cpu :=
          { regs := writes (r.attemptWrites 1 (v - 1)) (writes (r.iterWrites F) s.cpu.regs)
            apsr := fl
            mem := storeWord m (symAddr .exclcnt) (v - 1) }
        answers := fun i => s.answers (i + 1)
        attempts := s.attempts + 1 } := by
  let s₁ : Arm.State := { s with
    pc := .line r.attemptPos
    cpu := { regs := writes (r.iterWrites F) s.cpu.regs, apsr := F, mem := s.cpu.mem } }
  have hto : T.Runs s s₁ := runs_to_attempt hP hisa hpc
    (by rw [hmem, loadWord_storeWord_flag, hF]) (by rw [hmem, loadWord_storeWord_addr, haddr]) hl
  let s₂ : Arm.State := { r.attempted s₁ with
    pc := .line r.retryPos, cpu := runLines r.strex.count (r.attempted s₁).cpu }
  have hattempt : T.Runs s₁ s₂ := runs_attempt hP hisa rfl hc
  have hlock : EqOff (bytesAt r.ldrex.lock r.strex.fillBytes.length) (r.attempted s₁).cpu.mem
      s.cpu.mem := attempted_mem (s := s₁) rfl
  -- the counter is not in the lock
  have hcnt : loadWord (r.attempted s₁).cpu.mem (symAddr .exclcnt) = v := by
    have hsame : loadWord (r.attempted s₁).cpu.mem (symAddr .exclcnt) =
        loadWord s.cpu.mem (symAddr .exclcnt) := by
      refine loadWord_congr fun x hx => hlock x fun hx' => ?_
      have hapart := r.ldrex.lock_apart (.inr rfl) hx
      exact absurd (lt_of_lt_of_le hx' r.strex.size_le_fill.2) (by omega)
    rw [hsame, hmem, loadWord_storeWord]
  have hcpu : s₂.cpu =
      { regs := writes (r.attemptWrites (status s) (v - 1)) (writes (r.iterWrites F) s.cpu.regs)
        apsr := countFlags (status s) (v - 1) F
        mem := storeWord (r.attempted s₁).cpu.mem (symAddr .exclcnt) (v - 1) } := by
    have hd : (r.attempted s₁).cpu.regs r.strex.rd = status s := by
      rw [attempted_regs, Function.update_self]
      rfl
    change runLines r.strex.count (r.attempted s₁).cpu = _
    rw [run_count r.strex (r.attempted s₁).cpu hcnt, hd, attempted_apsr, attempted_regs]
    rfl
  have hz : s₂.cpu.apsr.z = (status s == 0 || v - 1 == 0) := by rw [hcpu, countFlags_z]
  have hbranch := step_b (s := s₂) rfl hisa hP.retry
  split_ifs with hexit
  · -- falling out of the loop
    have hnot : passes (some .ne) s₂.cpu.apsr = false := by
      have hzt : s₂.cpu.apsr.z = true := by
        rw [hz]
        rcases hexit with hok | rfl
        · simp [status, hok]
        · simp
      rw [passes_some, Arm.Cond.holds, hzt]
      rfl
    rw [hnot] at hbranch
    have hend := runs_end (s := { s₂ with pc := .line (r.retryPos + 1) }) (F := F) (m := m) hP hisa
      rfl (f := s.cpu.regs)
      (by rw [hcpu]; exact (r.writes_attempt_rn _ _ _).trans (r.writes_iter_rn F _))
      (by rw [hcpu]; exact writes_writes (r.written_attempt _ _) _)
      (by rw [hcpu, (countFlags_q_ge _ _ F).1]) (by rw [hcpu, (countFlags_q_ge _ _ F).2])
      (by
        rw [hcpu]
        have hold : EqOff (bytesAt r.ldrex.lock r.strex.fillBytes.length ∪
            bytesAt (symAddr .exclcnt) 4) s.cpu.mem m := by
          rw [hmem]
          exact (EqOff.refl _ m).store_left Set.subset_union_right
        exact ((hlock.mono Set.subset_union_left).trans hold).store_left Set.subset_union_right)
    exact ((hto.trans hattempt).tail hbranch).trans hend
  · -- another round
    obtain ⟨hfail, hv⟩ := not_or.1 hexit
    have hstatus : status s = 1 := if_neg hfail
    have htaken : passes (some .ne) s₂.cpu.apsr = true := by
      have hzf : s₂.cpu.apsr.z = false := by
        rw [hz, hstatus]
        have hv1 : v - 1 ≠ 0 := by
          intro h0
          exact hv (by bv_omega)
        simpa using hv1
      rw [passes_some, Arm.Cond.holds, hzf]
      rfl
    rw [htaken, if_pos rfl, hP.idxOf_back] at hbranch
    refine ⟨countFlags 1 (v - 1) F, ?_⟩
    have hkeep : (r.attempted s₁).cpu.mem = storeWord m (symAddr .exclcnt) v := by
      rw [← hmem]
      unfold attempted Arm.State.strex
      dsimp only
      rw [if_neg hfail]
      rfl
    have hback := (hto.trans hattempt).tail hbranch
    rw [hcpu, hstatus, hkeep, storeWord_storeWord] at hback
    exact hback

/-- The loop ends after at most as many attempts as the count says, in a state that does not depend
on the answers. -/
lemma runs_loop (hP : Placed T r) (hF : loadWord m (symAddr .exclflag) = F.word)
    (haddr : loadWord m (symAddr .excladdr) = 0) (hl : passes r.loadCond F = true)
    (hc : passes r.storeCond F = true) (n : ℕ) (hn : n < 255) (s : Arm.State)
    (hisa : s.isARM = T.isARM) (hpc : s.pc = .line r.backPos)
    (hmem : s.cpu.mem = storeWord m (symAddr .exclcnt) (.ofNat 32 (n + 1))) :
    ∃ k ≤ n + 1, T.Runs s { s with
      pc := .line T.lines.length
      cpu := r.final F s.cpu.regs m
      answers := fun i => s.answers (i + k)
      attempts := s.attempts + k } := by
  induction n generalizing s with
  | zero =>
    have hround := runs_round hP hisa hpc hmem hF haddr hl hc
    rw [if_pos (.inr rfl)] at hround
    exact ⟨1, le_rfl, hround⟩
  | succ n ih =>
    have hround := runs_round hP hisa hpc hmem hF haddr hl hc
    split_ifs at hround with hexit
    · exact ⟨1, by omega, hround⟩
    · obtain ⟨fl, hround⟩ := hround
      have hcount : BitVec.ofNat 32 (n + 1 + 1) - 1 = BitVec.ofNat 32 (n + 1) := by
        rw [BitVec.ofNat_add]
        exact BitVec.add_sub_cancel _ 1#32
      obtain ⟨k, hk, hrest⟩ := ih (by omega)
        { s with
          pc := .line r.backPos
          cpu :=
            { regs := writes (r.attemptWrites 1 (.ofNat 32 (n + 1)))
                (writes (r.iterWrites F) s.cpu.regs)
              apsr := fl
              mem := storeWord m (symAddr .exclcnt) (.ofNat 32 (n + 1)) }
          answers := fun i => s.answers (i + 1)
          attempts := s.attempts + 1 } hisa rfl rfl
      rw [hcount] at hround
      refine ⟨k + 1, by omega, hround.trans ?_⟩
      have hfinal : r.final F (writes (r.attemptWrites 1 (.ofNat 32 (n + 1)))
          (writes (r.iterWrites F) s.cpu.regs)) m = r.final F s.cpu.regs m := by
        unfold final
        rw [lastWrites_retry]
      dsimp only at hrest
      rw [hfinal] at hrest
      simpa only [Nat.add_assoc, Nat.add_comm 1 k] using hrest

/-- Where the label of the stub stands. -/
def stubPos (r : ExclChoice isARM) : ℕ := r.retryPos + 1 + (1 + r.strex.fill.length)

lemma Placed.stub (hP : Placed T r) : At T.lines r.stubPos (.label .stub :: r.strex.stub) := by
  have hlast := hP.last
  rw [ExclChoice.last, at_append] at hlast
  have hlen : ([Arm.Line.label ExclLabel.fillLockMem] ++ r.strex.fill).length =
      1 + r.strex.fill.length := by
    rw [List.length_append, List.length_singleton]
  have hstub := hlast.2
  rw [hlen] at hstub
  exact hstub

lemma Placed.stub_end (hP : Placed T r) :
    r.stubPos + (.label .stub :: r.strex.stub : List ExclLine).length = T.lines.length := by
  rw [hP.length, stubPos, ExclChoice.last]
  simp only [List.length_append, List.length_cons, List.length_nil]
  omega

/-- Without the load the sequence goes from the test of the address to the stub. -/
lemma runs_without_load (hP : Placed T r) (hisa : s.isARM = T.isARM)
    (hpc : s.pc = .line r.backPos) (hF : loadWord s.cpu.mem (symAddr .exclflag) = F.word)
    (haddr : loadWord s.cpu.mem (symAddr .excladdr) = 0) (hl : passes r.loadCond F = false) :
    T.Runs s { s with
      pc := .line T.lines.length
      cpu := runLines r.strex.stub (runLines r.first s.cpu) } := by
  let s₁ : Arm.State := { s with pc := .line r.testPos, cpu := runLines r.first s.cpu }
  let s₂ : Arm.State := { s₁ with pc := .line r.stubPos }
  have hfirst : T.Runs s s₁ := runs_first hP hisa hpc
  have htaken : passes (some .eq) s₁.cpu.apsr = true := by
    simp only [s₁, run_first_skip s.cpu hF haddr hl, passes_some, Arm.Cond.holds, sub_z,
      beq_self_eq_true]
  have hidx : T.lines.idxOf (.label .stub) = r.stubPos :=
    hP.once.idxOf_eq rfl (at_cons.1 hP.stub).1
  have hbranch := step_b (s := s₁) rfl hisa hP.test
  rw [htaken, if_pos rfl, hidx] at hbranch
  have hend := runs_straight hP.stub rfl (s := s₂) rfl hisa
  rw [hP.stub_end, runLines_cons, run_label] at hend
  exact (hfirst.tail hbranch).trans hend

end Runs

/-- The sequence makes at most 255 attempts, restores the counter and the address, and ends in a
state that does not depend on whether the attempts succeed. -/
theorem exclSequence_independent {isARM : Bool} (r : ExclChoice isARM) (T : Text ExclLabel)
    (hT : T.lines = exclSequence r) (hisa : T.isARM = isARM) (s : Cpu)
    (hcnt : loadWord s.mem (symAddr .exclcnt) = exclCnt)
    (haddr : loadWord s.mem (symAddr .excladdr) = 0) :
    ∃ t : Cpu, loadWord t.mem (symAddr .exclcnt) = exclCnt ∧
      loadWord t.mem (symAddr .excladdr) = 0 ∧
      ∀ answers, ∃ n ≤ 255, T.Runs ⟨.line 0, isARM, s, answers, 0⟩
        ⟨.line (exclSequence r).length, isARM, t, fun i => answers (i + n), n⟩ := by
  have hP : Placed T r := placed hT
  let F := s.apsr
  let m := storeWord s.mem (symAddr .exclflag) F.word
  let s₀ : Cpu :=
    { s with
      regs := writes [(r.ldrex.rp, F.word), (r.ldrex.rq, symAddr .exclflag)] s.regs, mem := m }
  have hF : loadWord m (symAddr .exclflag) = F.word := loadWord_storeWord _ _ _
  have hcnt₀ : loadWord m (symAddr .exclcnt) = exclCnt := by
    rw [← hcnt]
    exact loadWord_storeWord_kept (.inr (.inr rfl)) (.inr (.inl rfl)) nofun _ _
  have haddr₀ : loadWord m (symAddr .excladdr) = 0 := by
    rw [← haddr]
    exact loadWord_storeWord_kept (.inl rfl) (.inr (.inl rfl)) nofun _ _
  have hfull : m = storeWord m (symAddr .exclcnt) (.ofNat 32 (254 + 1)) := by
    have h := storeWord_loadWord m (symAddr .exclcnt)
    rw [hcnt₀] at h
    exact h.symm
  have hsave (answers : ℕ → Bool) : T.Runs ⟨.line 0, isARM, s, answers, 0⟩
      ⟨.line r.backPos, isARM, s₀, answers, 0⟩ := by
    have hrun := runs_straight hP.save rfl (s := ⟨.line 0, isARM, s, answers, 0⟩) rfl hisa.symm
    rw [run_save, Nat.zero_add] at hrun
    exact hrun
  have hfinal : loadWord (r.final F s₀.regs m).mem (symAddr .exclcnt) = exclCnt ∧
      loadWord (r.final F s₀.regs m).mem (symAddr .excladdr) = 0 := by
    refine ⟨loadWord_storeWord _ _ _, ?_⟩
    rw [final, loadWord_storeWord_addr, ← haddr₀]
    refine loadWord_store fun x hx => ?_
    have hapart := r.ldrex.lock_apart (.inl rfl) hx
    exact le_trans r.strex.size_le_fill.2 (by omega)
  rw [← hT]
  cases hl : passes r.loadCond F with
  | false =>
    refine ⟨runLines r.strex.stub (runLines r.first s₀), ?_, ?_, fun answers => ⟨0, by omega, ?_⟩⟩
    · rw [run_stub, loadWord_storeWord]
    · rw [run_stub, loadWord_storeWord_addr, run_first_skip s₀ hF haddr₀ hl]
      exact haddr₀
    · exact (hsave answers).trans (runs_without_load hP hisa.symm rfl hF haddr₀ hl)
  | true =>
    refine ⟨r.final F s₀.regs m, hfinal.1, hfinal.2, fun answers => ?_⟩
    cases hc : passes r.storeCond F with
    | false =>
      have hto := runs_to_attempt (s := ⟨.line r.backPos, isARM, s₀, answers, 0⟩) hP hisa.symm rfl
        hF haddr₀ hl
      have hskip := runs_skip hP hisa.symm rfl hc
        (s := ⟨.line r.attemptPos, isARM, ⟨writes (r.iterWrites F) s₀.regs, F, m⟩, answers, 0⟩)
      have hend := runs_end hP hisa.symm rfl (m := m) (f := s₀.regs) (r.writes_iter_rn F s₀.regs)
        rfl rfl rfl (EqOff.refl _ m)
        (s := ⟨.line (r.retryPos + 1), isARM, ⟨writes (r.iterWrites F) s₀.regs, F, m⟩, answers, 0⟩)
      exact ⟨0, by omega, (((hsave answers).trans hto).trans hskip).trans hend⟩
    | true =>
      obtain ⟨k, hk, hloop⟩ := runs_loop hP hF haddr₀ hl hc 254 (by omega)
        ⟨.line r.backPos, isARM, s₀, answers, 0⟩ hisa.symm rfl hfull
      rw [Nat.zero_add] at hloop
      exact ⟨k, hk, (hsave answers).trans hloop⟩

/-- A conditional sequence on words, in ARM state, with registers that overlap. -/
def wordChoice : ExclChoice true where
  condcode := true
  size := .w
  ldrex :=
    { cond := .ne, rval := 0x03fc1003, le_rval := by decide, rval_le := by decide
      rn := 1, rn_mem := by decide, rt := 1, rt_mem := by decide
      rp := 0, rp_mem := by decide, rq := 1, rq_mem := by decide
      immOffset := false, imm := 0, rt2 := 0, rt2_mem := nofun
      rx := 0, rx_mem := by decide, ry := 1, ry_mem := by decide
      rtVal := 5, rt2Val := 0 }
  strex :=
    { cond := .cs, rs := 0, rs_mem := by decide, rw := 1, rw_mem := by decide
      rn := 2, rn_mem := by decide, rv := 3, rv_mem := by decide
      immOffset := false, imm := 0, rt := 2, rt_mem := by decide, rt2 := 0, rt2_mem := nofun
      rd := 0, rd_mem := by decide, rz1 := 0, rz1_mem := by decide, rz2 := 1, rz2_mem := by decide
      rm := 4, rm_mem := by decide
      rtVal := 6, rt2Val := 0, rsVal := 7, rnVal := 8 }

/-- A state in which the counter is full and the address is zero. -/
def freshCpu : Cpu where
  regs := fun _ => 0
  apsr := ⟨false, false, true, false, false, 0⟩
  mem := storeWord (fun _ => 0) (symAddr .exclcnt) exclCnt

theorem exclSequence_independent_word : ∃ t : Cpu,
    loadWord t.mem (symAddr .exclcnt) = exclCnt ∧ loadWord t.mem (symAddr .excladdr) = 0 ∧
      ∀ answers, ∃ n ≤ 255, (Text.assemble (exclSequence wordChoice) true 0x8000).Runs
        ⟨.line 0, true, freshCpu, answers, 0⟩
        ⟨.line (exclSequence wordChoice).length, true, t, fun i => answers (i + n), n⟩ :=
  exclSequence_independent wordChoice _ rfl rfl freshCpu (loadWord_storeWord _ _ _)
    (loadWord_storeWord_addr _ _)

end ExclChoice

end Rit.Art
