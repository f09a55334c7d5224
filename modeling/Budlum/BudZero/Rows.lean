import Budlum.BudZero.Stepping

/-!
# The rows of a step

A step that performs an instruction records the instruction's own row and, for the Merkle
and inference opcodes, expansion rows after it. The rows lead from the program counter of
the instruction to the one that follows it, each starting where the one before it ends
(`rows_leads`); they record the operands the instruction read (`rows_recorded`); and there
are at most eight of them for a unit of gas (`length_rows_le`).
-/

namespace Budlum.BudZero

open List

/-- `rows` lead from one program counter to another. -/
inductive Leads : ℕ → List Step → ℕ → Prop
  | nil (pc : ℕ) : Leads pc [] pc
  | cons {pc last : ℕ} {row : Step} {rest : List Step} (hpc : row.pc = pc)
      (hrest : Leads row.nextPc rest last) : Leads pc (row :: rest) last

namespace Leads

variable {pc mid last : ℕ} {row : Step} {xs ys : List Step}

lemma single (hpc : row.pc = pc) : Leads pc [row] row.nextPc := .cons hpc (.nil _)

lemma append (hx : Leads pc xs mid) (hy : Leads mid ys last) : Leads pc (xs ++ ys) last := by
  induction hx with
  | nil => exact hy
  | cons hpc _ ih => exact .cons hpc (ih hy)

lemma append_iff : Leads pc (xs ++ ys) last ↔ ∃ mid, Leads pc xs mid ∧ Leads mid ys last := by
  constructor
  · intro h
    induction xs generalizing pc with
    | nil => exact ⟨pc, .nil pc, h⟩
    | cons row rest ih =>
      cases h with
      | cons hpc htail =>
        obtain ⟨mid, hleft, hright⟩ := ih htail
        exact ⟨mid, .cons hpc hleft, hright⟩
  · rintro ⟨mid, hleft, hright⟩
    exact hleft.append hright

lemma isChain (h : Leads pc xs last) : xs.IsChain fun row next => row.nextPc = next.pc := by
  induction h with
  | nil => exact .nil
  | @cons pc last row rest _ htail ih =>
    cases rest with
    | nil => exact .singleton _
    | cons next rest =>
      cases htail with
      | cons hnext _ => exact .cons_cons hnext.symm ih

lemma stay {f : ℕ → Step} {n : ℕ} (hpc : ∀ i, (f i).pc = pc)
    (hnext : ∀ i, i < n → (f i).nextPc = pc) : Leads pc ((range n).map f) pc := by
  induction n with
  | zero => exact .nil pc
  | succ n ih =>
    rw [range_succ, map_append]
    have hlast : Leads pc [f n] (f n).nextPc := single (hpc n)
    rw [hnext n (Nat.lt_succ_self n)] at hlast
    exact (ih fun i hi => hnext i (Nat.lt_succ_of_lt hi)).append hlast

lemma handOver {f : ℕ → Step} {n : ℕ} (hpc : ∀ i, (f i).pc = pc)
    (hnext : ∀ i, (f i).nextPc = if i = n then pc + 1 else pc) :
    Leads pc ((range (n + 1)).map f) (pc + 1) := by
  rw [range_succ, map_append]
  have hlast : Leads pc [f n] (f n).nextPc := single (hpc n)
  rw [hnext n, if_pos rfl] at hlast
  exact (stay hpc fun i hi => by rw [hnext i, if_neg hi.ne]).append hlast

end Leads

namespace Vm

variable {vm : Vm} {pc src1 src2 : ℕ} {inst : Instruction} {row : Step}

lemma opcode_of_hasPath (h : vm.hasPath inst = true) :
    inst.opcode = .verifyMerkle ∨ inst.opcode = .verifyInference := by
  simp only [hasPath, Bool.and_eq_true, Bool.or_eq_true, beq_iff_eq] at h
  exact h.1

lemma opcode_of_hasProof (h : vm.hasProof inst src1 = true) : inst.opcode = .verifyInference := by
  simp only [hasProof, Bool.and_eq_true, beq_iff_eq] at h
  exact h.1

lemma rows_of_plain (h : ¬ (inst.opcode = .verifyMerkle ∨ inst.opcode = .verifyInference)) :
    vm.rows pc inst src1 src2 row = [row] := by
  have hpath : ¬ vm.hasPath inst = true := fun hpath => h (opcode_of_hasPath hpath)
  have hproof : ¬ vm.hasProof inst src1 = true := fun hproof =>
    h (.inr (opcode_of_hasProof hproof))
  rw [rows, if_neg hproof, openedRows, if_neg hpath]

/-! ## Where the rows lead -/

lemma merkleRows_leads (hpc : row.pc = pc) :
    Leads pc (vm.merkleRows pc inst src2 row) (pc + 1) := by
  have hrest : Leads pc ((range 64).map (vm.merkleRow pc inst src2)) (pc + 1) :=
    .handOver (fun _ => rfl) fun _ => rfl
  exact .cons hpc hrest

lemma openedRows_leads (hpc : row.pc = pc)
    (hnext : inst.opcode = .verifyMerkle ∨ inst.opcode = .verifyInference → row.nextPc = pc + 1) :
    Leads pc (vm.openedRows pc inst src2 row) row.nextPc := by
  unfold openedRows
  split_ifs with hpath
  · rw [hnext (opcode_of_hasPath hpath)]
    exact merkleRows_leads hpc
  · exact .single hpc

lemma openedRows_pc (hpc : row.pc = pc) : ∀ r ∈ vm.openedRows pc inst src2 row, r.pc = pc := by
  intro r hr
  unfold openedRows at hr
  split_ifs at hr
  · rcases mem_cons.mp hr with rfl | hr
    · exact hpc
    · obtain ⟨i, -, rfl⟩ := mem_map.mp hr
      rfl
  · rw [mem_singleton.mp hr, hpc]

lemma patchLast_append (rows : List Step) (row : Step) :
    vm.patchLast pc src1 (rows ++ [row]) = rows ++ [vm.withCommitments pc src1 row] := by
  simp [patchLast]

variable {rows : List Step}

lemma patchLast_leads {last : ℕ} (hne : rows ≠ [])
    (h : Leads pc rows last) (hpc : ∀ row ∈ rows, row.pc = pc) :
    Leads pc (vm.patchLast pc src1 rows) pc := by
  rcases eq_nil_or_concat rows with rfl | ⟨init, row, rfl⟩
  · exact absurd rfl hne
  rw [concat_eq_append] at h hpc ⊢
  obtain ⟨mid, hinit, hrow⟩ := Leads.append_iff.mp h
  have hrowPc : row.pc = pc := hpc row (by simp)
  have hmid : mid = pc := by
    cases hrow with
    | cons hpc _ => rw [← hpc, hrowPc]
  rw [patchLast_append]
  exact hinit.append (.cons (hrowPc.trans hmid.symm) (.nil pc))

lemma openedRows_ne_nil : vm.openedRows pc inst src2 row ≠ [] := by
  unfold openedRows
  split_ifs
  · exact cons_ne_nil _ _
  · exact cons_ne_nil _ _

lemma rows_leads (hpc : row.pc = pc)
    (hnext : inst.opcode = .verifyMerkle ∨ inst.opcode = .verifyInference → row.nextPc = pc + 1) :
    Leads pc (vm.rows pc inst src1 src2 row) row.nextPc := by
  have hopened : Leads pc (vm.openedRows pc inst src2 row) row.nextPc :=
    openedRows_leads hpc hnext
  unfold rows
  split_ifs with hproof
  · have hinference : Leads pc ((range 8).map (vm.inferenceRow pc inst src1 src2)) (pc + 1) :=
      .handOver (fun _ => rfl) fun _ => rfl
    rw [hnext (.inr (opcode_of_hasProof hproof))]
    exact (patchLast_leads openedRows_ne_nil hopened (openedRows_pc hpc)).append hinference
  · exact hopened

/-! ## What the rows record -/

/-- The operands a row records are those its instruction read, or register 0. -/
structure Records (inst : Instruction) (src1 src2 : ℕ) (row : Step) : Prop where
  src1 : row.src1Idx = inst.rs1 ∧ row.src1Val = src1 ∨ row.src1Idx = 0 ∧ row.src1Val = 0
  src2 : row.src2Idx = inst.rs2 ∧ row.src2Val = src2 ∨ row.src2Idx = 0 ∧ row.src2Val = 0

/-- An expansion row: it names no destination. -/
structure Expands (inst : Instruction) (src1 src2 : ℕ) (row : Step) : Prop
    extends Records inst src1 src2 row where
  opcode : row.instruction.opcode = .verifyMerkle ∨ row.instruction.opcode = .verifyInference
  dst : row.dstIdx = 0

/-- The first row of a step is the instruction's own, up to its Merkle and inference
columns and the next program counter. -/
structure Heads (row head : Step) : Prop where
  pc : head.pc = row.pc
  instruction : head.instruction = row.instruction
  src1 : head.src1Idx = row.src1Idx ∧ head.src1Val = row.src1Val
  src2 : head.src2Idx = row.src2Idx ∧ head.src2Val = row.src2Val
  dst : head.dstIdx = row.dstIdx ∧ head.dstVal = row.dstVal
  memory : head.memoryAddr = row.memoryAddr ∧ head.memoryVal = row.memoryVal

/-- The instruction's own row, then expansions. -/
structure Headed (inst : Instruction) (src1 src2 : ℕ) (row : Step) (rows : List Step) : Prop where
  shape : ∃ head rest, rows = head :: rest ∧ Heads row head ∧
    ∀ r ∈ rest, Expands inst src1 src2 r

lemma openedRows_headed : Headed inst src1 src2 row (vm.openedRows pc inst src2 row) := by
  unfold openedRows
  split_ifs
  · refine ⟨_, _, rfl, ⟨rfl, rfl, ⟨rfl, rfl⟩, ⟨rfl, rfl⟩, ⟨rfl, rfl⟩, ⟨rfl, rfl⟩⟩, ?_⟩
    intro r hr
    obtain ⟨i, -, rfl⟩ := mem_map.mp hr
    exact ⟨⟨.inr ⟨rfl, rfl⟩, .inr ⟨rfl, rfl⟩⟩, .inl rfl, rfl⟩
  · exact ⟨row, [], rfl, ⟨rfl, rfl, ⟨rfl, rfl⟩, ⟨rfl, rfl⟩, ⟨rfl, rfl⟩, ⟨rfl, rfl⟩⟩, by simp⟩

lemma Headed.patchLast (h : Headed inst src1 src2 row rows) :
    Headed inst src1 src2 row (vm.patchLast pc src1 rows) := by
  obtain ⟨head, rest, rfl, hhead, hrest⟩ := h.shape
  rcases eq_nil_or_concat rest with rfl | ⟨init, last, rfl⟩
  · exact ⟨vm.withCommitments pc src1 head, [], rfl, { hhead with }, by simp⟩
  · refine ⟨head, init ++ [vm.withCommitments pc src1 last], ?_, hhead, ?_⟩
    · rw [concat_eq_append, ← cons_append, patchLast_append, cons_append]
    · intro r hr
      rcases mem_append.mp hr with hr | hr
      · exact hrest r (by simp [hr])
      · have hlast := hrest last (by simp)
        rw [mem_singleton.mp hr]
        exact ⟨⟨hlast.src1, hlast.src2⟩, hlast.opcode, hlast.dst⟩

lemma Headed.append {more : List Step} (h : Headed inst src1 src2 row rows)
    (hmore : ∀ r ∈ more, Expands inst src1 src2 r) : Headed inst src1 src2 row (rows ++ more) := by
  obtain ⟨head, rest, rfl, hhead, hrest⟩ := h.shape
  refine ⟨head, rest ++ more, rfl, hhead, ?_⟩
  intro r hr
  rcases mem_append.mp hr with hr | hr
  · exact hrest r hr
  · exact hmore r hr

lemma rows_headed : Headed inst src1 src2 row (vm.rows pc inst src1 src2 row) := by
  unfold rows
  split_ifs
  · refine openedRows_headed.patchLast.append ?_
    intro r hr
    obtain ⟨i, -, rfl⟩ := mem_map.mp hr
    exact ⟨⟨.inl ⟨rfl, rfl⟩, .inl ⟨rfl, rfl⟩⟩, .inr rfl, rfl⟩
  · exact openedRows_headed

/-! ## How many rows there are -/

lemma length_patchLast : (vm.patchLast pc src1 rows).length = rows.length := by
  rcases eq_nil_or_concat rows with rfl | ⟨init, last, rfl⟩
  · rfl
  · rw [concat_eq_append, patchLast_append, length_append, length_append]
    rfl

lemma length_openedRows : (vm.openedRows pc inst src2 row).length =
    if vm.hasPath inst then 65 else 1 := by
  unfold openedRows
  split_ifs
  · simp [merkleRows]
  · rfl

lemma length_rows_le : (vm.rows pc inst src1 src2 row).length ≤
    8 * gasCost inst.opcode + if inst.opcode = .halt then 1 else 0 := by
  have hopened : (vm.openedRows pc inst src2 row).length =
      if vm.hasPath inst then 65 else 1 := length_openedRows
  by_cases hspecial : inst.opcode = .verifyMerkle ∨ inst.opcode = .verifyInference
  · have hcost : gasCost inst.opcode = 10 := by
      rcases hspecial with h | h <;> rw [h] <;> rfl
    have hle : (vm.openedRows pc inst src2 row).length ≤ 65 := by
      rw [hopened]
      split_ifs <;> omega
    have hrows : (vm.rows pc inst src1 src2 row).length ≤ 73 := by
      unfold rows
      split_ifs
      · rw [length_append, length_patchLast, length_map, length_range]
        omega
      · omega
    omega
  · have hcost : inst.opcode ≠ .halt → 1 ≤ gasCost inst.opcode := by
      cases inst.opcode <;> decide
    rw [rows_of_plain hspecial, length_singleton]
    split_ifs with hhalt
    · omega
    · have := hcost hhalt
      omega

end Vm

end Budlum.BudZero
