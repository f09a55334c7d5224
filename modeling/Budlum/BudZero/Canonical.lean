import Budlum.BudZero.Words

/-!
# Canonical words

A word is canonical if it is below the field's size; then the number the machine computes
with and the field element the proof commits to are the same value. Arithmetic keeps words
canonical. Three instructions may not: an immediate load of a negative number gives its
two's complement, a word read across two others joins bytes of both, and system call 6
clamps its sum at the largest `u64` and not at the field. A run whose steps avoid these
stays canonical (`registers_canonical`).
-/

namespace Budlum.BudZero.Vm

open Machine Instruction

variable {program : List ℕ} {vm : Vm} {inst : Instruction} {out : Performed}

/-- The words at multiples of eight are canonical. -/
def MemoryCanonical (memory : Bytes) : Prop :=
  ∀ addr, 8 ∣ addr → addr + 8 ≤ memory.length → readWord memory addr < goldilocksP

/-- Registers, stack, storage, context and memory are canonical. -/
structure Canonical (vm : Vm) : Prop where
  words : WordsBelow goldilocksP vm
  memory : MemoryCanonical vm.memory

/-- The instruction the machine is about to perform keeps words canonical: it does not
load a negative immediate, it accesses memory at multiples of eight, and system call 6
stays below the field's size. -/
def KeepsCanonical (program : List ℕ) (vm : Vm) : Prop :=
  ∀ raw inst, program[vm.pc]? = some raw → decodeInstruction raw vm.mainnetMode = .ok inst →
    match inst.opcode with
    | .load => if inst.rs1 = 0 then 0 ≤ inst.imm else (8 : ℤ) ∣ vm.reg inst.rs1 + inst.imm
    | .store => (8 : ℤ) ∣ vm.reg inst.rs1 + inst.imm
    | .syscall => inst.imm = 6 → vm.context.blockHeight + vm.reg inst.rs1 < goldilocksP
    | _ => True

lemma asUnsigned_of_nonneg {value : ℤ} (hvalue : 0 ≤ value) (hlt : value < 2 ^ 31) :
    asUnsigned 64 value < goldilocksP := by
  have hP : (2 : ℤ) ^ 31 ≤ goldilocksP := by decide
  have hmod : value % 2 ^ 64 = value := Int.emod_eq_of_lt hvalue (hlt.trans (by norm_num))
  unfold asUnsigned
  rw [hmod]
  omega

variable {raw addr : ℕ}

lemma decodeInstruction_immFits {mode : Bool}
    (h : decodeInstruction raw mode = .ok inst) : inst.ImmFits := by
  unfold decodeInstruction at h
  have hany : decodeAny raw = .ok inst := by
    cases mode with
    | false =>
      simp only [Bool.false_eq_true, if_false, decode, decodeForProfile_eq] at h
      cases hdecode : decodeAny raw with
      | error e => rw [hdecode] at h; cases h
      | ok decoded => rw [hdecode] at h; cases h; rfl
    | true =>
      simp only [if_true, decodeForMainnet, decodeForProfile_eq] at h
      cases hdecode : decodeAny raw with
      | error e => rw [hdecode] at h; cases h
      | ok decoded =>
        rw [hdecode] at h
        simp only at h
        split_ifs at h
        · cases h; rfl
        · cases h
  exact decodeAny_immFits hany

lemma dvd_of_memoryWordAddr {base memoryLen : ℕ} {imm : ℤ}
    (h : memoryWordAddr base imm memoryLen = some addr) (hdvd : (8 : ℤ) ∣ base + imm) : 8 ∣ addr := by
  obtain ⟨-, haddr⟩ := memoryWordAddr_eq_some h
  rw [← haddr] at hdvd
  exact_mod_cast hdvd

lemma KeepsCanonical.resultFits (hprogram : program.length < goldilocksP) (h : Canonical vm)
    (hkeeps : KeepsCanonical program vm) (hraw : program[vm.pc]? = some raw)
    (hdecode : decodeInstruction raw vm.mainnetMode = .ok inst) :
    ResultFits goldilocksP vm inst (vm.reg inst.rs1) := by
  have hinst := hkeeps raw inst hraw hdecode
  have hpc : vm.pc < program.length := (List.getElem?_eq_some_iff.mp hraw).1
  unfold ResultFits
  cases hop : inst.opcode <;> simp only [hop] at hinst ⊢
  case load =>
    split_ifs at hinst ⊢ with hr0
    · exact asUnsigned_of_nonneg hinst (decodeInstruction_immFits hdecode).2
    · intro addr haddr
      exact h.memory addr (dvd_of_memoryWordAddr haddr hinst) (memoryWordAddr_eq_some haddr).1
  case call => omega
  case syscall =>
    intro h6
    unfold satAdd
    have hsum := hinst h6
    omega

lemma MemoryCanonical.write {memory : Bytes} {value : ℕ} (h : MemoryCanonical memory)
    (haligned : 8 ∣ addr) (hfits : addr + 8 ≤ memory.length) (hvalue : value < goldilocksP) :
    MemoryCanonical (writeWord memory addr value) := by
  intro addr' haligned' hfits'
  rw [length_writeWord hfits] at hfits'
  by_cases hsame : addr' = addr
  · rw [hsame, readWord_writeWord hfits (hvalue.trans (by decide))]
    exact hvalue
  · rw [readWord_writeWord_apart hfits (by omega)]
    exact h addr' haligned' hfits'

lemma memoryWordAddr_of_store {src1 src2 : ℕ} (hop : inst.opcode = .store)
    (h : vm.perform inst src1 src2 = .ok out) (haddr : out.memoryAddr = some addr) :
    memoryWordAddr src1 inst.imm vm.memory.length = some addr := by
  simp only [perform, hop] at h
  split at h
  · rename_i addr' haddr'
    cases h
    cases haddr
    exact haddr'
  · cases h

lemma KeepsCanonical.step (hprogram : program.length < goldilocksP) (h : Canonical vm)
    (hkeeps : KeepsCanonical program vm) : Canonical (vm.step program).2 where
  words := step_wordsBelow le_rfl h.words fun _ _ hraw hdecode =>
    hkeeps.resultFits hprogram h hraw hdecode
  memory := by
    have houtcome := step_outcome program vm
    generalize vm.step program = result at houtcome ⊢
    cases houtcome with
    | idle => exact h.memory
    | failed => exact h.memory
    | performed raw inst out _ hraw hdecode _ hout =>
      show MemoryCanonical out.vm.memory
      cases perform_memory hout with
      | untouched _ hmemory => rw [hmemory]; exact h.memory
      | read _ _ hmemory => rw [hmemory]; exact h.memory
      | stored addr hop hmemory hfits haddr =>
        have hinst := hkeeps raw inst hraw hdecode
        simp only [hop] at hinst
        rw [hmemory]
        exact h.memory.write
          (dvd_of_memoryWordAddr (memoryWordAddr_of_store hop hout haddr) hinst) hfits
          (h.words.reg goldilocksP_pos _)

/-- In every run from a canonical machine whose steps all keep words canonical, every
register is canonical in every state, and so is the value of its field element. -/
theorem registers_canonical (hprogram : program.length < goldilocksP) (hstart : Canonical vm)
    (hsteps : ∀ turns, (after program turns vm).halted = false →
      KeepsCanonical program (after program turns vm)) (turns : ℕ) (i : Fin 32) :
    (after program turns vm).registers i < goldilocksP ∧
      (((after program turns vm).registers i : ℕ) : Goldilocks).val =
        (after program turns vm).registers i := by
  have hall : Canonical (after program turns vm) := by
    induction turns with
    | zero => exact hstart
    | succ turns ih =>
      rw [after_succ']
      cases hhalted : (after program turns vm).halted with
      | true =>
        rw [turn_of_halted hhalted]
        exact ih
      | false =>
        rw [turn_of_running hhalted]
        exact (hsteps turns hhalted).step hprogram ih
  have hlt := hall.words.registers i
  exact ⟨hlt, val_cast hlt⟩

/-! ## Programs -/

def plainInstruction (inst : Instruction) : Bool :=
  match inst.opcode with
  | .load => inst.rs1 = 0 && 0 ≤ inst.imm
  | .store | .syscall => false
  | _ => true

lemma keepsCanonical_of_plain
    (h : ∀ raw ∈ program, ∀ mode, (decodeInstruction raw mode).toOption.all plainInstruction = true)
    (vm : Vm) : KeepsCanonical program vm := by
  intro raw inst hraw hdecode
  have hplain := h raw (List.mem_of_getElem? hraw) vm.mainnetMode
  rw [hdecode] at hplain
  change plainInstruction inst = true at hplain
  unfold plainInstruction at hplain
  cases hop : inst.opcode <;> simp only [hop] at hplain ⊢
  case load =>
    simp only [Bool.and_eq_true, decide_eq_true_eq] at hplain
    rw [if_pos hplain.1]
    exact hplain.2
  case store => cases hplain
  case syscall => cases hplain

lemma withGasLimit_canonical (gasLimit : ℕ) : Canonical (withGasLimit 0 gasLimit) where
  words := withGasLimit_wordsBelow goldilocksP_pos 0 gasLimit
  memory := by
    intro addr _ hfits
    simp [withGasLimit] at hfits

/-- `r1 := imm`, then a halt. -/
def immediateProgram (imm : ℤ) : List ℕ :=
  [ { opcode := .load, rd := 1, rs1 := 0, rs2 := 0, imm : Instruction },
    { opcode := .halt, rd := 0, rs1 := 0, rs2 := 0, imm := 0 } ].map encode

theorem registers_canonical_immediate :
    (after (immediateProgram 7) 2 (withGasLimit 0 1000)).registers 1 < goldilocksP ∧
      (((after (immediateProgram 7) 2 (withGasLimit 0 1000)).registers 1 : ℕ) : Goldilocks).val =
        (after (immediateProgram 7) 2 (withGasLimit 0 1000)).registers 1 :=
  registers_canonical (by decide) (withGasLimit_canonical 1000)
    (fun _ _ => keepsCanonical_of_plain (by decide +kernel) _) 2 1

/-- The immediate `-1` is loaded as the largest `u64`. -/
theorem negative_immediate : Canonical (withGasLimit 0 1000) ∧
      (after (immediateProgram (-1)) 1 (withGasLimit 0 1000)).registers 1 = u64Max ∧
      ¬ (after (immediateProgram (-1)) 1 (withGasLimit 0 1000)).registers 1 < goldilocksP :=
  ⟨withGasLimit_canonical 1000, by decide +kernel, by decide +kernel⟩

end Budlum.BudZero.Vm
