import Rit.Properties.Retry
import Rit.Lib.PyStr

/-!
# The kinds a random opcode is drawn from

`update_opkind_str` reads the names of the enabled kinds from a comma-separated string, and
`gen_random_op` draws from the rows whose kind is enabled.

The scan compares each piece of the string with the names over the length of the piece, so a piece
enables every kind whose name it begins.  `opkindTokens_eq` says which pieces the scan visits: all
of them, except an empty one at the end.

`gen_random_op` indexes `opkind_list` with the kind of every row in the range of the instruction
set.  The array has one entry for each name, and two kinds of the table have none; their rows lie
in the ARM range.
-/

namespace Rit

/-! ## Reading the names -/

/-- The pieces the scan visits: an empty piece at the end of the string is not one of them. -/
def visited (pieces : List (List Char)) : List (List Char) :=
  if pieces.getLast? = some [] then pieces.dropLast else pieces

lemma visited_cons {t : List Char} {pieces : List (List Char)} (h : pieces ≠ []) :
    visited (t :: pieces) = t :: visited pieces := by
  obtain ⟨t', rest, rfl⟩ := List.exists_cons_of_ne_nil h
  rw [visited, visited, List.getLast?_cons_cons, List.dropLast_cons_cons]
  split <;> rfl

lemma mem_visited {t : List Char} {pieces : List (List Char)} :
    t ∈ visited pieces ↔ t ∈ pieces ∧ (t = [] → t ∈ pieces.dropLast) := by
  rcases List.eq_nil_or_concat pieces with rfl | ⟨init, last, rfl⟩
  · simp [visited]
  · rw [List.concat_eq_append, visited, List.getLast?_concat, List.dropLast_concat, List.mem_append,
      List.mem_singleton]
    by_cases hlast : last = []
    · rw [if_pos (congrArg some hlast), hlast]
      tauto
    · rw [if_neg fun h => hlast (Option.some.inj h), List.mem_append, List.mem_singleton]
      refine ⟨fun h => ⟨h, fun hnil => h.resolve_right ?_⟩, And.left⟩
      rintro rfl
      exact hlast hnil

/-- A string up to its first comma and after it. -/
lemma comma_cases (cs : List Char) :
    (',' ∉ cs ∧ cs.takeWhile (· ≠ ',') = cs ∧ cs.dropWhile (· ≠ ',') = []) ∨
      ∃ t rest, cs = t ++ ',' :: rest ∧ ',' ∉ t ∧ cs.takeWhile (· ≠ ',') = t ∧
        cs.dropWhile (· ≠ ',') = ',' :: rest := by
  have hplain : ∀ {t : List Char}, ',' ∉ t → ∀ c ∈ t, decide (c ≠ ',') = true :=
    fun ht c hc => decide_eq_true fun hcomma => ht (hcomma ▸ hc)
  by_cases h : ',' ∈ cs
  · obtain ⟨t, rest, rfl, ht⟩ := List.eq_append_cons_of_mem h
    refine .inr ⟨t, rest, rfl, ht, ?_, ?_⟩
    · rw [List.takeWhile_append_of_pos (hplain ht)]
      simp
    · rw [List.dropWhile_append_of_pos (hplain ht)]
      simp
  · have htake : (cs ++ []).takeWhile (· ≠ ',') = cs ++ [].takeWhile (· ≠ ',') :=
      List.takeWhile_append_of_pos (hplain h)
    have hdrop : (cs ++ []).dropWhile (· ≠ ',') = [].dropWhile (· ≠ ',') :=
      List.dropWhile_append_of_pos (hplain h)
    exact .inl ⟨h, by simpa using htake, by simpa using hdrop⟩

/-- The scan of `update_opkind_str` visits the pieces of the string between its commas. -/
lemma opkindTokens_eq (cs : List Char) : opkindTokens cs = visited (cs.splitOn ',') := by
  fun_induction opkindTokens cs with
  | case1 => simp [visited]
  | case2 cs ih =>
    have hsplit : (',' :: cs).splitOn ',' = [] :: cs.splitOn ',' :=
      List.splitOn_append_cons_self_of_not_mem List.not_mem_nil cs
    rw [hsplit, visited_cons (List.splitOn_ne_nil _ cs), ih]
  | case3 c cs rest hc ih =>
    have hpiece : ∀ {t : List Char}, ',' ∉ t → ',' ∉ c :: t := by
      intro t ht hmem
      rcases List.mem_cons.1 hmem with h | h
      · exact hc h.symm
      · exact ht h
    rw [ih]
    rcases comma_cases cs with ⟨hnot, htake, hdrop⟩ | ⟨t, tail, hcs, ht, htake, hdrop⟩
    · have hrest : rest = [] := hdrop
      rw [htake, hrest, List.splitOn_eq_singleton (hpiece hnot)]
      simp [visited]
    · have hrest : rest = ',' :: tail := hdrop
      have hsplit : (c :: cs).splitOn ',' = (c :: t) :: tail.splitOn ',' := by
        rw [hcs, ← List.cons_append]
        exact List.splitOn_append_cons_self_of_not_mem (hpiece ht) tail
      rw [htake, hrest, List.tail_cons, hsplit, visited_cons (List.splitOn_ne_nil _ tail)]

/-- The name of the kind with index `i`. -/
def opkindName (i : ℕ) : List Char := (opkindNames.getD i "").toList

/-- A kind is enabled if its name begins with a visited piece. -/
lemma updateOpkindStr_eq_true_iff (str : String) (s : GenState) {i : ℕ}
    (hi : i < opkindNames.length) : (updateOpkindStr str s).opkindList i = true ↔
      ∃ t ∈ visited (str.toList.splitOn ','), t <+: opkindName i := by
  simp only [updateOpkindStr, if_pos hi, opkindTokens_eq, List.any_eq_true,
    List.isPrefixOf_iff_prefix]
  rfl

/-- No name of a kind is empty. -/
lemma opkindName_ne_nil {i : ℕ} (hi : i < opkindNames.length) : opkindName i ≠ [] := by
  have hall : ∀ i < opkindNames.length, opkindName i ≠ [] := by decide +kernel
  exact hall i hi

/-- After `update_opkind_str` exactly the named kinds are enabled if and only if every piece that
begins the name of a kind, other than an empty piece at the end, comes with that name. -/
theorem updateOpkindStr_exact_iff (str : String) (s : GenState) :
    (∀ i < opkindNames.length, ((updateOpkindStr str s).opkindList i = true ↔
      opkindName i ∈ str.toList.splitOn ',')) ↔
    ∀ t ∈ str.toList.splitOn ',', (t = [] → t ∈ (str.toList.splitOn ',').dropLast) →
      ∀ i < opkindNames.length, t <+: opkindName i → opkindName i ∈ str.toList.splitOn ',' := by
  constructor
  · intro h t ht hempty i hi hbegin
    exact (h i hi).1 ((updateOpkindStr_eq_true_iff str s hi).2
      ⟨t, mem_visited.2 ⟨ht, hempty⟩, hbegin⟩)
  · intro h i hi
    rw [updateOpkindStr_eq_true_iff str s hi]
    constructor
    · rintro ⟨t, ht, hbegin⟩
      obtain ⟨hmem, hempty⟩ := mem_visited.1 ht
      exact h t hmem hempty i hi hbegin
    · intro hmem
      exact ⟨opkindName i, mem_visited.2 ⟨hmem, fun hnil => absurd hnil (opkindName_ne_nil hi)⟩,
        List.prefix_rfl⟩

/-- `"LD"` is the name of no kind, and enables loads. -/
theorem updateOpkindStr_LD :
    opkindName 8 = "LD_OP".toList ∧ opkindName 8 ∉ "LD".toList.splitOn ',' ∧
      (updateOpkindStr "LD" (staticState (fun _ => 0) fun _ => 0)).opkindList 8 = true := by
  have hpieces : "LD".toList.splitOn ',' = ["LD".toList] := by decide
  have hname : opkindName 8 = "LD_OP".toList := by decide +kernel
  have hbegin : "LD".toList <+: opkindName 8 := ⟨"_OP".toList, hname.symm⟩
  refine ⟨hname, ?_, (updateOpkindStr_eq_true_iff "LD" _ (by decide)).2 ⟨"LD".toList, ?_, hbegin⟩⟩
  · rw [hpieces, hname]
    decide
  · rw [hpieces]
    exact mem_visited.2 ⟨List.mem_singleton.2 rfl, fun h => nomatch h⟩

/-! ## Drawing an opcode -/

/-- The index of a row's kind in `opkind_list`. -/
def kindIdx (op : Opcode) : ℕ := (glbInstrTlb op).opKind.ctorIdx

/-- The rows `gen_random_op` looks at. -/
def scannedOps (isa : InstrSet) : List Opcode :=
  List.range' (opRange isa).1 ((opRange isa).2 - (opRange isa).1)

lemma mem_scannedOps {isa : InstrSet} {op : Opcode} :
    op ∈ scannedOps isa ↔ (opRange isa).1 ≤ op ∧ op < (opRange isa).2 := by
  have hord := (opRange_le isa).1
  rw [scannedOps, List.mem_range'_1, Nat.add_sub_cancel' hord]

/-- `PSEUDO_AEABI_ARM`. -/
def pseudoAeabiArm : Opcode := 664

/-- Its kind comes after the last one with a name. -/
lemma kindIdx_pseudoAeabiArm : kindIdx pseudoAeabiArm = opkindNames.length := by decide +kernel

/-- The ARM rows include some of a kind without a name, the Thumb rows do not. -/
lemma kindIdx_scannedOps_iff (isa : InstrSet) :
    (∀ op ∈ scannedOps isa, kindIdx op < opkindNames.length) ↔ isa = .thumb ∨ isa = .thumb32 := by
  have hout : pseudoAeabiArm ∈ scannedOps isa →
      ¬ ∀ op ∈ scannedOps isa, kindIdx op < opkindNames.length := by
    intro hmem h
    have hlt := h pseudoAeabiArm hmem
    rw [kindIdx_pseudoAeabiArm] at hlt
    exact absurd hlt (Nat.lt_irrefl _)
  cases isa with
  | armv5 => exact iff_of_false (hout (mem_scannedOps.2 (by decide))) (by simp)
  | armv7 => exact iff_of_false (hout (mem_scannedOps.2 (by decide))) (by simp)
  | rand => exact iff_of_false (hout (mem_scannedOps.2 (by decide))) (by simp)
  | thumb =>
    have hall : (scannedOps .thumb).all (fun op => kindIdx op < opkindNames.length) = true := by
      decide +kernel
    simpa using hall
  | thumb32 =>
    have hall : (scannedOps .thumb32).all (fun op => kindIdx op < opkindNames.length) = true := by
      decide +kernel
    simpa using hall

/-- `gen_random_op` returns `SISA_OP_NA` or a scanned opcode of an enabled named kind, and every row
it scans has a kind with an entry in `opkind_list`, exactly for the Thumb instruction sets. -/
theorem genRandomOp_sound_iff (s : GenState) :
    (((genRandomOp s).1 = SISA_OP_NA ∨ (genRandomOp s).1 ∈ scannedOps s.options.isa ∧
        kindIdx (genRandomOp s).1 < opkindNames.length ∧
        s.opkindList (kindIdx (genRandomOp s).1) = true) ∧
      ∀ op ∈ scannedOps s.options.isa, kindIdx op < opkindNames.length) ↔
    s.options.isa = .thumb ∨ s.options.isa = .thumb32 := by
  rw [← kindIdx_scannedOps_iff]
  refine ⟨And.right, fun hkinds => ⟨?_, hkinds⟩⟩
  rcases genRandomOp_mem s with h | h
  · exact .inl h
  · obtain ⟨hscan, hkind⟩ := List.mem_filter.1 h
    exact .inr ⟨hscan, hkinds _ hscan, hkind⟩

/-- With the ARM instruction set the scan reads `opkind_list` behind its end. -/
theorem genRandomOp_scans_nameless :
    pseudoAeabiArm ∈ scannedOps .armv7 ∧ opkindNames.length ≤ kindIdx pseudoAeabiArm :=
  ⟨mem_scannedOps.2 (by decide), Nat.le_of_eq kindIdx_pseudoAeabiArm.symm⟩

end Rit
