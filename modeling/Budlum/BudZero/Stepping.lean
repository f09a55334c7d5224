import Budlum.BudZero.Vm

/-!
# What a step of the machine can do

A step has three outcomes: the machine was halted and stays as it is, the step fails and
only stops the machine, or an instruction is performed and its rows are recorded
(`step_outcome`). What performing an instruction leaves alone is said once
(`perform_framed`), and so is what it does to memory (`perform_memory`); every property
of runs is derived from these.
-/

namespace Budlum.BudZero.Vm

open Machine Function

variable {program : List ℕ} {vm : Vm} {inst : Instruction} {src1 src2 : ℕ} {out : Performed}

/-- The contents of a register; register 0 holds 0. -/
def reg (vm : Vm) (i : Fin 32) : ℕ := vm.clearR0.registers i

/-- The machine that performs an instruction: register 0 is cleared and the gas is taken. -/
def paid (vm : Vm) (inst : Instruction) : Vm :=
  { vm.clearR0 with gasUsed := satAdd u64Max vm.gasUsed (gasCost inst.opcode) }

@[simp] lemma clearR0_registers_zero (vm : Vm) : vm.clearR0.registers 0 = 0 := by
  simp [clearR0]

lemma clearR0_registers {i : Fin 32} (h : i ≠ 0) : vm.clearR0.registers i = vm.registers i := by
  simp [clearR0, update_of_ne h]

@[simp] lemma reg_zero (vm : Vm) : vm.reg 0 = 0 := clearR0_registers_zero vm

lemma reg_of_ne {i : Fin 32} (h : i ≠ 0) : vm.reg i = vm.registers i := clearR0_registers h

@[simp] lemma reg_clearR0 (vm : Vm) : vm.clearR0.reg = vm.reg := by
  funext i
  simp [reg, clearR0]

@[simp] lemma paid_registers (vm : Vm) (inst : Instruction) :
    (vm.paid inst).registers = vm.reg := rfl

/-! ## The three outcomes -/

inductive Outcome (program : List ℕ) (vm : Vm) : Except VmError Unit × Vm → Prop
  /-- The machine was halted. -/
  | idle (hhalted : vm.halted = true) : Outcome program vm (.ok (), vm.clearR0)
  /-- The step failed. Gas is taken only from an instruction that was decoded. -/
  | failed (e : VmError) (gas : ℕ) (hrunning : vm.halted = false) (hgas : vm.gasUsed ≤ gas ∨
      u64Max ≤ gas) : Outcome program vm (.error e, { vm.clearR0 with gasUsed := gas }.fail e)
  /-- An instruction was performed. -/
  | performed (raw : ℕ) (inst : Instruction) (out : Performed) (hrunning : vm.halted = false)
      (hraw : program[vm.pc]? = some raw)
      (hdecode : decodeInstruction raw vm.mainnetMode = .ok inst)
      (hgas : satAdd u64Max vm.gasUsed (gasCost inst.opcode) ≤ vm.gasLimit)
      (hout : (vm.paid inst).perform inst (vm.reg inst.rs1) (vm.reg inst.rs2) = .ok out) :
      Outcome program vm
        (.ok (), (vm.paid inst).record inst (vm.reg inst.rs1) (vm.reg inst.rs2) out)

lemma le_satAdd (gas amount : ℕ) :
    gas ≤ satAdd u64Max gas amount ∨ u64Max ≤ satAdd u64Max gas amount := by
  unfold satAdd
  omega

lemma consumeGas_clearR0 (vm : Vm) (inst : Instruction) :
    vm.clearR0.consumeGas (gasCost inst.opcode) =
      if vm.gasLimit < satAdd u64Max vm.gasUsed (gasCost inst.opcode) then
        (.error .outOfGas, (vm.paid inst).fail .outOfGas)
      else (.ok (), vm.paid inst) := rfl

lemma step_outcome (program : List ℕ) (vm : Vm) : Outcome program vm (vm.step program) := by
  unfold step
  cases hhalted : vm.halted with
  | true =>
    have hclear : vm.clearR0.halted = true := hhalted
    simp only [hclear, if_true]
    exact .idle hhalted
  | false =>
    have hclear : vm.clearR0.halted = false := hhalted
    simp only [hclear, Bool.false_eq_true, if_false]
    cases hraw : program[vm.clearR0.pc]? with
    | none => exact .failed .invalidPc vm.gasUsed hhalted (.inl le_rfl)
    | some raw =>
      cases hdecode : decodeInstruction raw vm.clearR0.mainnetMode with
      | error text =>
        simp only [hdecode]
        exact .failed (.invalidOpcode text) vm.gasUsed hhalted (.inl le_rfl)
      | ok inst =>
        simp only [hdecode]
        rw [consumeGas_clearR0]
        by_cases hgas : vm.gasLimit < satAdd u64Max vm.gasUsed (gasCost inst.opcode)
        · rw [if_pos hgas]
          exact .failed .outOfGas _ hhalted (le_satAdd _ _)
        · rw [if_neg hgas]
          dsimp only
          rw [paid_registers]
          cases hout : (vm.paid inst).perform inst (vm.reg inst.rs1) (vm.reg inst.rs2) with
          | error e => exact .failed e _ hhalted (le_satAdd _ _)
          | ok out => exact .performed raw inst out hhalted hraw hdecode (not_lt.mp hgas) hout

/-! ## What performing an instruction leaves alone -/

/-- `vm'` and the recorded next program counter, against the machine `vm` before. -/
structure Framed (vm : Vm) (inst : Instruction) (vm' : Vm) (nextPc : ℕ) : Prop where
  trace : vm'.trace = vm.trace
  gasUsed : vm'.gasUsed = vm.gasUsed
  gasLimit : vm'.gasLimit = vm.gasLimit
  context : vm'.context = vm.context
  error : vm'.error = vm.error
  mainnetMode : vm'.mainnetMode = vm.mainnetMode
  halted : vm'.halted = (vm.halted || inst.opcode == .halt)
  pc : vm'.pc = nextPc
  registers : ∀ i, i ≠ inst.rd → vm'.registers i = vm.registers i
  memory : vm'.memory.length = vm.memory.length
  stack : vm'.stack.length ≤ max stackLimit vm.stack.length

namespace Framed

variable {vm₀ : Vm}

section

variable (h : inst.opcode ≠ .halt)
include h

lemma of_update (registers : Registers) (target : ℕ)
    (hregisters : ∀ i, i ≠ inst.rd → registers i = vm.registers i)
    (hmemory : vm₀.memory.length = vm.memory.length)
    (hstack : vm₀.stack.length ≤ max stackLimit vm.stack.length)
    (hrest : { vm₀ with
      stack := vm.stack, memory := vm.memory, storage := vm.storage, events := vm.events
      stateWrites := vm.stateWrites } = vm) :
    Framed vm inst { vm₀ with registers, pc := target } target where
  trace := by rw [← hrest]
  gasUsed := by rw [← hrest]
  gasLimit := by rw [← hrest]
  context := by rw [← hrest]
  error := by rw [← hrest]
  mainnetMode := by rw [← hrest]
  halted := by rw [← hrest]; simp [beq_eq_false_iff_ne.mpr h]
  pc := rfl
  registers := hregisters
  memory := hmemory
  stack := hstack

lemma writeBack (result : ℕ) : Framed vm inst (vm.writeBack inst result).vm (vm.pc + 1) :=
  .of_update h _ _ (fun _ hi => update_of_ne hi _ _) rfl (le_max_right _ _) rfl

lemma writeBackNonzero (result : ℕ) :
    Framed vm inst (vm.writeBackNonzero inst result).vm (vm.pc + 1) := by
  refine .of_update h _ _ (fun i hi => ?_) rfl (le_max_right _ _) rfl
  split_ifs
  · rfl
  · exact update_of_ne hi _ _

lemma goTo (dstVal target : ℕ) : Framed vm inst (vm.goTo dstVal target).vm target :=
  .of_update h vm.registers target (fun _ _ => rfl) rfl (le_max_right _ _) rfl

end

end Framed

lemma length_push_le {stack : List ℕ} {value : ℕ} (h : ¬ stackLimit ≤ stack.length) :
    (stack ++ [value]).length ≤ max stackLimit stack.length := by
  rw [List.length_append, List.length_singleton]
  omega

lemma length_pop_le (stack : List ℕ) : stack.dropLast.length ≤ max stackLimit stack.length := by
  rw [List.length_dropLast]
  omega

lemma perform_framed (h : vm.perform inst src1 src2 = .ok out) :
    Framed vm inst out.vm out.nextPc := by
  cases hop : inst.opcode <;> simp only [perform, hop] at h
  case halt =>
    cases h
    exact
      { trace := rfl, gasUsed := rfl, gasLimit := rfl, context := rfl, error := rfl
        mainnetMode := rfl, halted := by simp [hop], pc := rfl, registers := fun _ _ => rfl
        memory := rfl, stack := le_max_right _ _ }
  all_goals have hne : inst.opcode ≠ .halt := by rw [hop]; decide
  case load =>
    split_ifs at h with hr0
    · cases h
      exact .writeBack hne _
    · split at h
      · cases h
        exact .writeBack hne _
      · cases h
  case store =>
    split at h
    · rename_i addr haddr
      cases h
      obtain ⟨hfits, -⟩ := memoryWordAddr_eq_some haddr
      exact .of_update hne vm.registers _ (fun _ _ => rfl) (length_writeWord hfits)
        (le_max_right _ _) rfl
    · cases h
  case call =>
    split_ifs at h with hfull
    cases h
    exact .of_update hne vm.registers _ (fun _ _ => rfl) rfl (length_push_le hfull) rfl
  case push =>
    split_ifs at h with hfull
    cases h
    exact .of_update hne vm.registers _ (fun _ _ => rfl) rfl (length_push_le hfull) rfl
  case ret =>
    split at h
    · cases h
      exact .of_update hne vm.registers _ (fun _ _ => rfl) rfl (length_pop_le _) rfl
    · cases h
  case pop =>
    split at h
    · cases h
      exact .of_update hne _ _ (fun _ hi => update_of_ne hi _ _) rfl (length_pop_le _) rfl
    · cases h
  case assert =>
    split_ifs at h
    cases h
    exact .goTo hne 0 _
  case syscall =>
    split_ifs at h <;> cases h
    case pos | pos | pos | neg => exact .writeBack hne _
    exact .of_update hne _ _ (fun _ hi => update_of_ne hi _ _) rfl
      (le_max_right _ _) rfl
  case verifyMerkle =>
    split_ifs at h
    · cases h
      exact .writeBack hne _
    · cases h
      exact .writeBack hne _
  case jmp | jnz => 
    cases h
    exact .goTo hne 0 _
  case sWrite | log =>
    cases h
    exact .of_update hne vm.registers _ (fun _ _ => rfl) rfl (le_max_right _ _) rfl
  case verifyInference | privacyCommit | nullifierCheck | sumConservation =>
    cases h
    exact .writeBackNonzero hne _
  all_goals
    cases h
    exact .writeBack hne _

/-- The program counter after an instruction. `Ret` takes its target from `popped`, the top
of the stack. -/
def pcAfter (inst : Instruction) (pc src1 popped : ℕ) : ℕ :=
  match inst.opcode with
  | .halt => pc
  | .jmp | .call => asUnsigned 64 (pc + inst.imm)
  | .jnz => if src1 ≠ 0 then asUnsigned 64 (pc + inst.imm) else pc + 1
  | .ret => popped
  | _ => pc + 1

lemma perform_pcAfter (h : vm.perform inst src1 src2 = .ok out) :
    out.nextPc = pcAfter inst vm.pc src1 (vm.stack.getLast?.getD 0) := by
  cases hop : inst.opcode <;> simp only [perform, hop] at h <;> simp only [pcAfter, hop]
  case load =>
    split_ifs at h
    · cases h
      rfl
    · split at h <;> cases h
      rfl
  case ret =>
    split at h
    · rename_i target htop
      cases h
      rw [htop]
      rfl
    · cases h
  case store | pop =>
    split at h <;> cases h
    rfl
  case call | push | assert =>
    split_ifs at h
    cases h
    rfl
  case syscall | verifyMerkle => split_ifs at h <;> cases h <;> rfl
  all_goals
    cases h
    rfl

/-! ## What performing an instruction does to memory -/

inductive MemoryEffect (memory : Bytes) (opcode : Opcode) (src2 : ℕ) (out : Performed) : Prop
  /-- Memory is neither read nor written. -/
  | untouched (hopcode : opcode ≠ .store) (hmemory : out.vm.memory = memory)
      (haddr : out.memoryAddr = none)
  /-- A word is read. -/
  | read (addr : ℕ) (hopcode : opcode ≠ .store) (hmemory : out.vm.memory = memory)
      (hfits : addr + 8 ≤ memory.length) (haddr : out.memoryAddr = some addr)
      (hval : out.memoryVal = some (readWord memory addr))
  /-- A word is stored. -/
  | stored (addr : ℕ) (hopcode : opcode = .store)
      (hmemory : out.vm.memory = writeWord memory addr src2)
      (hfits : addr + 8 ≤ memory.length) (haddr : out.memoryAddr = some addr)
      (hval : out.memoryVal = some src2)

lemma windowFits_iff {memory : Bytes} {addr size : ℕ} :
    windowFits memory addr size = true ↔ addr + size ≤ u64Max ∧ addr + size ≤ memory.length := by
  unfold windowFits
  cases h : checkedAdd u64Max addr size with
  | none =>
    have hlt := checkedAdd_eq_none.mp h
    constructor
    · intro hfalse
      cases hfalse
    · rintro ⟨hle, -⟩
      omega
  | some last =>
    obtain ⟨hle, rfl⟩ := checkedAdd_eq_some.mp h
    simp [hle]

lemma perform_memory (h : vm.perform inst src1 src2 = .ok out) :
    MemoryEffect vm.memory inst.opcode src2 out := by
  cases hop : inst.opcode <;> simp only [perform, hop] at h
  case store =>
    split at h
    · rename_i addr haddr
      cases h
      obtain ⟨hfits, -⟩ := memoryWordAddr_eq_some haddr
      exact .stored addr rfl rfl hfits rfl rfl
    · cases h
  case load =>
    split_ifs at h with hr0
    · cases h
      exact .untouched (by decide) rfl rfl
    · split at h
      · rename_i addr haddr
        cases h
        obtain ⟨hfits, -⟩ := memoryWordAddr_eq_some haddr
        exact .read addr (by decide) rfl hfits rfl rfl
      · cases h
  case verifyMerkle =>
    split_ifs at h with hwindow
    · cases h
      obtain ⟨-, hfits⟩ := windowFits_iff.mp hwindow
      exact .read _ (by decide) rfl (by omega) rfl rfl
    · cases h
      exact .untouched (by decide) rfl rfl
  case call | push | assert =>
    split_ifs at h
    cases h
    exact .untouched (by decide) rfl rfl
  case ret | pop =>
    split at h
    · cases h
      exact .untouched (by decide) rfl rfl
    · cases h
  case syscall =>
    split_ifs at h <;> cases h <;> exact .untouched (by decide) rfl rfl
  all_goals
    cases h
    exact .untouched (by decide) rfl rfl

end Budlum.BudZero.Vm
