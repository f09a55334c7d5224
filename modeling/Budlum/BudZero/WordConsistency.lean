import Budlum.BudZero.TraceFaith
import Budlum.BudZero.Words

/-!
# Memory as a table of words

The proof system keys memory by address alone: a `Load` has to return what the latest
`Store` at its address recorded. The machine addresses bytes, so a `Store` also changes
the words that begin up to seven bytes before or after its own. The two views agree on a
`Load` no such store came before (`load_consistent`).
-/

namespace Budlum.BudZero

open List

def Step.LoadsAt (row : Step) (addr : ℕ) : Prop :=
  row.instruction.opcode = .load ∧ row.memoryAddr = some addr

def Step.StoresAt (row : Step) (addr : ℕ) : Prop :=
  row.instruction.opcode = .store ∧ row.memoryAddr = some addr

instance (row : Step) (addr : ℕ) : Decidable (row.LoadsAt addr) := inferInstanceAs (Decidable (_ ∧ _))
instance (row : Step) (addr : ℕ) : Decidable (row.StoresAt addr) := inferInstanceAs (Decidable (_ ∧ _))

def latestStore (addr : ℕ) : List Step → Option ℕ
  | [] => none
  | row :: rest =>
    (latestStore addr rest).or (if row.StoresAt addr then row.memoryVal else none)

def tableWord (memory : Bytes) (rows : List Step) (addr : ℕ) : ℕ :=
  (latestStore addr rows).getD (readWord memory addr)

/-- Every `Store` among `rows` is at `addr` itself or at least eight bytes away. -/
def NoOverlap (rows : List Step) (addr : ℕ) : Prop :=
  ∀ row ∈ rows, ∀ addr', row.StoresAt addr' → addr' = addr ∨ addr' + 8 ≤ addr ∨ addr + 8 ≤ addr'

/-- Every `Load` among `rows` that satisfies `C` recorded the word of the table. -/
def LoadsConsistent (C : List Step → ℕ → Prop) (memory : Bytes) (rows : List Step) : Prop :=
  ∀ before row later addr, rows = before ++ row :: later → row.LoadsAt addr → C before addr →
    row.memoryVal = some (tableWord memory before addr)

variable {memory : Bytes} {rows more : List Step} {row : Step} {addr : ℕ}

lemma latestStore_append :
    latestStore addr (rows ++ more) = (latestStore addr more).or (latestStore addr rows) := by
  induction rows with
  | nil => rw [nil_append, latestStore, Option.or_none]
  | cons row rest ih => rw [cons_append, latestStore, ih, latestStore, Option.or_assoc]

lemma latestStore_eq_none (h : ∀ row ∈ rows, ¬ row.StoresAt addr) :
    latestStore addr rows = none := by
  induction rows with
  | nil => rfl
  | cons row rest ih =>
    rw [latestStore, ih fun r hr => h r (mem_cons_of_mem _ hr), if_neg (h row mem_cons_self)]
    rfl

lemma NoOverlap.left (h : NoOverlap (rows ++ more) addr) : NoOverlap rows addr :=
  fun row hrow => h row (mem_append_left _ hrow)

lemma LoadsConsistent.append_head {C : List Step → ℕ → Prop} {rest : List Step}
    (h : LoadsConsistent C memory rows) (hrow : ∀ addr, row.LoadsAt addr → C rows addr →
      row.memoryVal = some (tableWord memory rows addr))
    (hrest : ∀ r ∈ rest, ∀ addr, ¬ r.LoadsAt addr) :
    LoadsConsistent C memory (rows ++ row :: rest) := by
  intro before r later addr hsplit hload hC
  rcases append_eq_append_iff.mp hsplit with ⟨mid, hbefore, hmid⟩ | ⟨mid, hrows, hmid⟩
  · -- the load comes after `rows`: it is `row` itself, or one of the rest
    rcases cons_eq_append_iff.mp hmid with ⟨hnil, hcons⟩ | ⟨tail, -, htail⟩
    · cases hcons
      rw [hbefore, hnil, append_nil] at hC ⊢
      exact hrow addr hload hC
    · exact absurd hload (hrest r (by rw [htail]; simp) addr)
  · -- the load is among `rows`, unless nothing is left of them
    rcases cons_eq_append_iff.mp hmid with ⟨hnil, hcons⟩ | ⟨tail, hcons, -⟩
    · cases hcons
      rw [hnil, append_nil] at hrows
      rw [← hrows] at hC ⊢
      exact hrow addr hload hC
    · exact h before r tail addr (by rw [hrows, hcons]) hload hC

namespace Vm

variable {program : List ℕ} {vm vm' : Vm} {inst : Instruction} {out : Performed}

/-- The bytes and the table of words agree wherever no store overlaps. -/
structure Mirrors (memory : Bytes) (rows : List Step) (bytes : Bytes) : Prop where
  length : bytes.length = memory.length
  words : ∀ addr, addr + 8 ≤ memory.length → NoOverlap rows addr →
    readWord bytes addr = tableWord memory rows addr

lemma Mirrors.refl (memory : Bytes) : Mirrors memory [] memory := ⟨rfl, fun _ _ _ => rfl⟩

lemma Mirrors.append_plain {bytes : Bytes} (h : Mirrors memory rows bytes)
    (hmore : ∀ r ∈ more, ∀ addr, ¬ r.StoresAt addr) : Mirrors memory (rows ++ more) bytes where
  length := h.length
  words := by
    intro addr hfits hclear
    have hnone : latestStore addr more = none :=
      latestStore_eq_none fun r hr => hmore r hr addr
    rw [tableWord, latestStore_append, hnone]
    exact h.words addr hfits hclear.left

lemma Mirrors.append_store {bytes : Bytes} {value : ℕ} (h : Mirrors memory rows bytes)
    (hrow : row.StoresAt addr) (hval : row.memoryVal = some value) (hvalue : value < 2 ^ 64)
    (hfits : addr + 8 ≤ bytes.length) :
    Mirrors memory (rows ++ [row]) (writeWord bytes addr value) where
  length := (length_writeWord hfits).trans h.length
  words := by
    intro addr' hfits' hclear
    rw [tableWord, latestStore_append]
    rcases hclear row (by simp) addr hrow with rfl | hapart
    · rw [readWord_writeWord hfits hvalue]
      simp [latestStore, hrow, hval]
    · have hne : ¬ row.StoresAt addr' := by
        rintro ⟨-, haddr'⟩
        have hsame : addr = addr' := Option.some.inj (hrow.2.symm.trans haddr')
        omega
      have hnone : latestStore addr' [row] = none :=
        latestStore_eq_none (by simpa using hne)
      rw [hnone, readWord_writeWord_apart hfits (by omega)]
      exact h.words addr' hfits' hclear.left

lemma expands_not_load {src1 src2 : ℕ} (h : Expands inst src1 src2 row) : ¬ row.LoadsAt addr := by
  rintro ⟨hop, -⟩
  rcases h.opcode with h | h <;> rw [hop] at h <;> cases h

lemma expands_not_store {src1 src2 : ℕ} (h : Expands inst src1 src2 row) :
    ¬ row.StoresAt addr := by
  rintro ⟨hop, -⟩
  rcases h.opcode with h | h <;> rw [hop] at h <;> cases h

/-- What is kept along a run: the rows recorded since it began, with the bytes they left
and the loads among them. -/
structure TableInvariant (start vm : Vm) : Prop where
  fits : Fits vm
  rows : ∃ rows, vm.trace = start.trace ++ rows ∧ Mirrors start.memory rows vm.memory ∧
    LoadsConsistent NoOverlap start.memory rows

lemma TableInvariant.record {start : Vm} (h : TableInvariant start vm)
    (hout : (vm.paid inst).perform inst (vm.reg inst.rs1) (vm.reg inst.rs2) = .ok out) :
    ∃ rows, ((vm.paid inst).record inst (vm.reg inst.rs1) (vm.reg inst.rs2) out).trace =
        start.trace ++ rows ∧ Mirrors start.memory rows out.vm.memory ∧
      LoadsConsistent NoOverlap start.memory rows := by
  obtain ⟨rows, htrace, hmirrors, hloads⟩ := h.rows
  have hframe := perform_framed hout
  let own := instructionRow vm.pc inst (vm.reg inst.rs1) (vm.reg inst.rs2)
    { out with vm := out.vm.clearR0 }
  have hheaded : Headed inst (vm.reg inst.rs1) (vm.reg inst.rs2) own
      (out.vm.clearR0.rows vm.pc inst (vm.reg inst.rs1) (vm.reg inst.rs2) own) := rows_headed
  obtain ⟨head, rest, hrows, hhead, hrest⟩ := hheaded.shape
  have hop : head.instruction.opcode = inst.opcode := by rw [hhead.instruction]; rfl
  have haddr : head.memoryAddr = out.memoryAddr := hhead.memory.1
  have hval : head.memoryVal = out.memoryVal := hhead.memory.2
  have hrestLoads : ∀ r ∈ rest, ∀ addr, ¬ r.LoadsAt addr := fun r hr _ =>
    expands_not_load (hrest r hr)
  have hrestStores : ∀ r ∈ rest, ∀ addr, ¬ r.StoresAt addr := fun r hr _ =>
    expands_not_store (hrest r hr)
  refine ⟨rows ++ head :: rest, ?_, ?_⟩
  · show out.vm.trace ++ out.vm.clearR0.rows vm.pc inst _ _ own = _
    rw [hrows, hframe.trace, ← append_assoc, ← htrace]
    rfl
  have hplain : inst.opcode ≠ .store → ∀ r ∈ head :: rest, ∀ addr, ¬ r.StoresAt addr := by
    intro hopcode r hr addr hstore
    rcases mem_cons.mp hr with rfl | hr
    · exact hopcode (hop.symm.trans hstore.1)
    · exact hrestStores r hr addr hstore
  cases perform_memory hout with
  | untouched hopcode hmemory hnone =>
    rw [hmemory]
    refine ⟨hmirrors.append_plain (hplain hopcode), hloads.append_head ?_ hrestLoads⟩
    rintro addr ⟨-, hsome⟩
    rw [haddr, hnone] at hsome
    cases hsome
  | read addr hopcode hmemory hfits hsome hvalue =>
    rw [hmemory]
    refine ⟨hmirrors.append_plain (hplain hopcode), hloads.append_head ?_ hrestLoads⟩
    rintro addr' ⟨-, hsome'⟩ hclear
    rw [haddr, hsome] at hsome'
    cases hsome'
    have hword : readWord vm.memory addr = tableWord start.memory rows addr :=
      hmirrors.words addr (hmirrors.length ▸ hfits) hclear
    rw [hval, hvalue, ← hword]
    rfl
  | stored addr hopcode hmemory hfits hsome hvalue =>
    have hstore : head.StoresAt addr := ⟨hop.trans hopcode, haddr.trans hsome⟩
    have hbound : vm.reg inst.rs2 < 2 ^ 64 := h.fits.reg (by decide) _
    constructor
    · have hstored := hmirrors.append_store hstore (hval.trans hvalue) hbound hfits
      rw [hmemory, append_cons]
      exact hstored.append_plain hrestStores
    · refine hloads.append_head ?_ hrestLoads
      rintro addr' ⟨hload, -⟩
      rw [hop, hopcode] at hload
      cases hload

lemma TableInvariant.step {start : Vm} (hprogram : program.length < 2 ^ 64)
    (h : TableInvariant start vm) : TableInvariant start (vm.step program).2 := by
  refine ⟨step_fits hprogram h.fits, ?_⟩
  have houtcome := step_outcome program vm
  generalize vm.step program = result at houtcome ⊢
  cases houtcome with
  | idle => exact h.rows
  | failed => exact h.rows
  | performed raw inst out _ _ _ _ hout => exact h.record hout

/-- Along every run, a `Load` no overlapping `Store` came before records what the latest
`Store` at its address recorded, or the initial word. -/
theorem load_consistent (hprogram : program.length < 2 ^ 64) (hfits : Fits vm) (turns : ℕ)
    (rows : List Step) (htrace : (after program turns vm).trace = vm.trace ++ rows) :
    LoadsConsistent NoOverlap vm.memory rows := by
  have hinvariant : TableInvariant vm (after program turns vm) :=
    after_induction
      ⟨hfits, [], (append_nil _).symm, .refl _, by
        intro before row later addr hsplit
        simp at hsplit⟩
      fun _ _ h => h.step hprogram
  obtain ⟨rows', htrace', -, hloads⟩ := hinvariant.rows
  rw [htrace, append_cancel_left_eq] at htrace'
  rw [htrace']
  exact hloads

/-- Two stores eight bytes apart, then a load at the first one's address. -/
def apartProgram : List ℕ :=
  [ { opcode := .load, rd := 2, rs1 := 0, rs2 := 0, imm := 7 : Instruction },
    { opcode := .store, rd := 0, rs1 := 1, rs2 := 2, imm := 0 },
    { opcode := .store, rd := 0, rs1 := 1, rs2 := 2, imm := 8 },
    { opcode := .load, rd := 3, rs1 := 1, rs2 := 0, imm := 0 },
    { opcode := .halt, rd := 0, rs1 := 0, rs2 := 0, imm := 0 } ].map Instruction.encode

theorem load_consistent_apart : LoadsConsistent NoOverlap (withGasLimit 16 1000).memory
        (after apartProgram 5 (withGasLimit 16 1000)).trace ∧
      ∃ row ∈ (after apartProgram 5 (withGasLimit 16 1000)).trace,
        row.LoadsAt 0 ∧ row.memoryVal = some 7 :=
  ⟨load_consistent (by decide +kernel) (withGasLimit_wordsBelow (by decide) 16 1000) 5 _ rfl,
    by decide +kernel⟩

/-! ## Stores that overlap -/

/-- Two stores four bytes apart, then a load at the first one's address. -/
def overlappingProgram : List ℕ :=
  [ { opcode := .load, rd := 2, rs1 := 0, rs2 := 0, imm := 7 : Instruction },
    { opcode := .store, rd := 0, rs1 := 1, rs2 := 2, imm := 0 },
    { opcode := .store, rd := 0, rs1 := 1, rs2 := 2, imm := 4 },
    { opcode := .load, rd := 3, rs1 := 1, rs2 := 0, imm := 0 },
    { opcode := .halt, rd := 0, rs1 := 0, rs2 := 0, imm := 0 } ].map Instruction.encode

/-- The rows of its run on a new machine with sixteen bytes of memory. -/
def overlappingRows : List Step := (after overlappingProgram 5 (withGasLimit 16 1000)).trace

lemma overlappingRows_length : 3 < overlappingRows.length := by decide +kernel

/-- The load records `7 + 7 * 2^32`, where the latest store at its address recorded 7. -/
theorem overlapping_stores :
    ¬ LoadsConsistent (fun _ _ => True) (withGasLimit 16 1000).memory overlappingRows := by
  intro h
  have hsplit : overlappingRows = overlappingRows.take 3 ++
      overlappingRows.get ⟨3, overlappingRows_length⟩ :: overlappingRows.drop 4 := by
    rw [get_eq_getElem, getElem_cons_drop, take_append_drop]
  have hload := h _ _ _ 0 hsplit (by decide +kernel) trivial
  revert hload
  decide +kernel

end Vm

end Budlum.BudZero
