import Budlum.BudZero.Runs

/-!
# What a run can use

Every instruction but `Halt` costs gas before it acts, and the rows it records are paid
for. So a run whose gas limit is below the largest `u64` ends, and its gas limit bounds
what it executes and records. At the largest `u64` the gas counter is clamped to the limit
and never exceeds it: there a program can run for ever.
-/

namespace Budlum.BudZero.Vm

open Machine

variable {program : List ℕ} {vm vm' : Vm} {turns : ℕ}

/-- The number of instructions performed within a number of turns. -/
def executed (program : List ℕ) : ℕ → Vm → ℕ
  | 0, _ => 0
  | turns + 1, vm =>
    if vm.halted then 0
    else
      match vm.step program with
      | (.error _, _) => 0
      | (.ok (), vm) => 1 + executed program turns vm

/-- The resource bounds of a run from `vm`. Rows and stack are counted from what `vm`
begins with, which is nothing for a new machine. -/
structure ResourceBounds (program : List ℕ) (vm : Vm) : Prop where
  terminates : ∃ turns, (vm.runReceipt program turns).isSome = true
  instructions : ∀ turns, executed program turns vm ≤ vm.gasLimit + 1
  rows : ∀ turns receipt vm', vm.runReceipt program turns = some (receipt, vm') →
    vm'.trace.length ≤ vm.trace.length + 8 * vm.gasLimit + 2
  stack : ∀ turns, (after program turns vm).stack.length ≤ max stackLimit vm.stack.length
  memory : ∀ turns, (after program turns vm).memory.length = vm.memory.length
  registerZero : vm.halted = false → ∀ turns, (after program (turns + 1) vm).registers 0 = 0

/-! ## A step below the largest limit -/

/-- What a step does to gas and trace when the gas counter cannot be clamped: it stops the
machine and records at most a row, or it uses gas that was left and records at most eight
rows for a unit of it. -/
lemma step_meter (hlimit : vm.gasLimit < u64Max) (hrunning : vm.halted = false)
    (hstep : vm.step program = (.ok (), vm')) : vm'.gasLimit = vm.gasLimit ∧
      (vm'.halted = true ∧ vm'.trace.length ≤ vm.trace.length + 1 ∨
        vm'.halted = false ∧ vm.gasUsed < vm'.gasUsed ∧ vm'.gasUsed ≤ vm.gasLimit ∧
          vm'.trace.length ≤ vm.trace.length + 8 * (vm'.gasUsed - vm.gasUsed)) := by
  have hkept := step_kept program vm
  have houtcome := step_outcome program vm
  rw [hstep] at houtcome hkept
  refine ⟨hkept.gasLimit, ?_⟩
  cases houtcome with
  | idle hhalted => simp [hhalted] at hrunning
  | performed raw inst out _ _ _ hgas hout =>
    have hframe := perform_framed hout
    have hgasUsed : out.vm.gasUsed = vm.gasUsed + gasCost inst.opcode := by
      rw [hframe.gasUsed]
      show satAdd u64Max vm.gasUsed (gasCost inst.opcode) = _
      unfold satAdd at hgas ⊢
      omega
    have hused : out.vm.gasUsed ≤ vm.gasLimit := by
      rw [hframe.gasUsed]
      exact hgas
    have hhalted : out.vm.halted = (inst.opcode == .halt) := by
      rw [hframe.halted]
      show (vm.halted || inst.opcode == .halt) = _
      rw [hrunning, Bool.false_or]
    rw [record_eq]
    show out.vm.halted = true ∧ (out.vm.trace ++ _).length ≤ _ ∨
      out.vm.halted = false ∧ _ < out.vm.gasUsed ∧ out.vm.gasUsed ≤ _ ∧
        (out.vm.trace ++ _).length ≤ vm.trace.length + 8 * (out.vm.gasUsed - vm.gasUsed)
    rw [List.length_append, hframe.trace, hhalted]
    have hrows : (out.vm.clearR0.rows (vm.paid inst).pc inst (vm.reg inst.rs1)
        (vm.reg inst.rs2) (instructionRow (vm.paid inst).pc inst (vm.reg inst.rs1)
          (vm.reg inst.rs2) { out with vm := out.vm.clearR0 })).length ≤
        8 * gasCost inst.opcode + if inst.opcode = .halt then 1 else 0 := length_rows_le
    have htrace : (vm.paid inst).trace.length = vm.trace.length := rfl
    by_cases hop : inst.opcode = .halt
    · left
      have hcost : gasCost inst.opcode = 0 := by rw [hop]; rfl
      rw [if_pos hop] at hrows
      exact ⟨by simp [hop], by omega⟩
    · right
      have hcost : 1 ≤ gasCost inst.opcode := by
        revert hop
        cases inst.opcode <;> decide
      rw [if_neg hop] at hrows
      exact ⟨by simp [hop], by omega, by omega, by omega⟩

/-! ## Whole runs below the largest limit -/

lemma step_error_trace {e : VmError} (hstep : vm.step program = (.error e, vm')) :
    vm'.trace = vm.trace := by
  have houtcome := step_outcome program vm
  rw [hstep] at houtcome
  cases houtcome with
  | failed => rfl

lemma halts (hlimit : vm.gasLimit < u64Max) : ∃ turns, (after program turns vm).halted = true := by
  -- the induction is on the gas left, which every turn that goes on takes from
  induction hleft : vm.gasLimit - vm.gasUsed using Nat.strong_induction_on generalizing vm with
  | _ left ih =>
    cases hhalted : vm.halted with
    | true => exact ⟨0, hhalted⟩
    | false =>
      rcases hstep : vm.step program with ⟨e | _, next⟩
      · refine ⟨1, ?_⟩
        rw [after_succ, turn_of_running hhalted, hstep]
        exact step_error_halted hstep
      · obtain ⟨hsame, ⟨hstop, -⟩ | ⟨-, hmore, hless, -⟩⟩ := step_meter hlimit hhalted hstep
        · refine ⟨1, ?_⟩
          rw [after_succ, turn_of_running hhalted, hstep]
          exact hstop
        · obtain ⟨turns, hend⟩ := ih (next.gasLimit - next.gasUsed) (by omega)
            (by omega) rfl
          refine ⟨turns + 1, ?_⟩
          rw [after_succ, turn_of_running hhalted, hstep]
          exact hend

lemma run_meter (hlimit : vm.gasLimit < u64Max) :
    executed program turns vm ≤ vm.gasLimit - vm.gasUsed + 1 ∧
      (after program turns vm).trace.length ≤
        vm.trace.length + 8 * (vm.gasLimit - vm.gasUsed) + 1 := by
  induction turns generalizing vm with
  | zero =>
    rw [after_zero]
    exact ⟨Nat.zero_le _, by omega⟩
  | succ turns ih =>
    rw [after_succ, executed]
    cases hhalted : vm.halted with
    | true =>
      rw [turn_of_halted hhalted]
      exact ⟨by simp, (ih hlimit).2⟩
    | false =>
      rw [turn_of_running hhalted, if_neg Bool.false_ne_true]
      rcases hstep : vm.step program with ⟨e | _, next⟩
      · have hstop := step_error_halted hstep
        rw [after_of_halted hstop, step_error_trace hstep]
        exact ⟨Nat.zero_le _, by omega⟩
      · obtain ⟨hsame, ⟨hstop, hrow⟩ | ⟨-, hmore, hless, hrows⟩⟩ :=
          step_meter hlimit hhalted hstep
        · have hnone : executed program turns next = 0 := by
            cases turns with
            | zero => rfl
            | succ turns => rw [executed, if_pos hstop]
          rw [after_of_halted hstop]
          exact ⟨by simp only [hnone]; omega, by omega⟩
        · obtain ⟨hrest, hlength⟩ := @ih next (by omega)
          exact ⟨by dsimp only; omega, by dsimp only; omega⟩

lemma length_closeTrace_le {error : Option VmError} :
    (vm.closeTrace error).trace.length ≤ vm.trace.length + 1 := by
  unfold closeTrace
  split_ifs
  · exact (List.length_append).le
  · omega

lemma resourceBounds_of_lt (hlimit : vm.gasLimit < u64Max) : ResourceBounds program vm where
  terminates := by
    obtain ⟨turns, hend⟩ : ∃ turns, (after program turns vm).halted = true := halts hlimit
    refine ⟨turns, ?_⟩
    rw [runReceipt, Option.isSome_map]
    exact loop_isSome hend
  instructions := by
    intro turns
    have hle : executed program turns vm ≤ (vm.gasLimit - vm.gasUsed) + 1 := (run_meter hlimit).1
    omega
  rows := by
    intro turns receipt vm' hrun
    obtain ⟨error, last, hloop, rfl, -⟩ := runReceipt_eq_some hrun
    obtain ⟨rfl, -⟩ := loop_eq_some hloop
    have hle : (after program turns vm).trace.length ≤
        vm.trace.length + 8 * (vm.gasLimit - vm.gasUsed) + 1 := (run_meter hlimit).2
    have hclose : ((after program turns vm).closeTrace error).trace.length ≤
        (after program turns vm).trace.length + 1 := length_closeTrace_le
    omega
  stack := fun turns => (after_kept program turns vm).stack
  memory := fun turns => (after_kept program turns vm).memory
  registerZero := by
    intro hrunning turns
    rw [after_succ, turn_of_running hrunning]
    exact after_induction (I := fun vm => vm.registers 0 = 0) (step_registers_zero program vm)
      fun vm' _ _ => step_registers_zero program vm'

/-! ## The largest limit -/

def spinInstruction : Instruction := { opcode := .jmp, rd := 0, rs1 := 0, rs2 := 0, imm := 0 }

/-- The machine that spins: it has not halted, and its gas limit is out of reach. -/
structure Spins (vm : Vm) : Prop where
  running : vm.halted = false
  pc : vm.pc = 0
  mode : vm.mainnetMode = false
  limit : u64Max ≤ vm.gasLimit

lemma decode_spin : decodeInstruction spinInstruction.encode false = .ok spinInstruction := by
  decide +kernel

lemma Spins.step (h : Spins vm) : Spins (vm.step [spinInstruction.encode]).2 := by
  have hrunning : vm.clearR0.halted = false := h.running
  have hword : [spinInstruction.encode][vm.clearR0.pc]? = some spinInstruction.encode := by
    show [spinInstruction.encode][vm.pc]? = _
    rw [h.pc]
    rfl
  have hdecode : decodeInstruction spinInstruction.encode vm.clearR0.mainnetMode =
      .ok spinInstruction := by
    show decodeInstruction _ vm.mainnetMode = _
    rw [h.mode, decode_spin]
  -- the clamped counter is at most the largest word, which the limit is not below
  have hgas : ¬ vm.gasLimit < satAdd u64Max vm.gasUsed (gasCost spinInstruction.opcode) :=
    not_lt.mpr ((satAdd_le_max _ _ _).trans h.limit)
  have htarget : (vm.paid spinInstruction).jumpTarget spinInstruction = 0 := by
    show asUnsigned 64 ((vm.pc : ℤ) + 0) = 0
    rw [h.pc]
    rfl
  unfold Vm.step
  simp only [hrunning, Bool.false_eq_true, if_false, hword, hdecode]
  rw [consumeGas_clearR0, if_neg hgas]
  exact ⟨h.running, htarget, h.mode, h.limit⟩

lemma Spins.never_halts (h : Spins vm) (turns : ℕ) :
    (after [spinInstruction.encode] turns vm).halted = false :=
  (after_induction (I := Spins) h fun _ _ hspins => hspins.step).running

lemma not_resourceBounds_of_spins (h : Spins vm) :
    ¬ ResourceBounds [spinInstruction.encode] vm := by
  intro hbounds
  obtain ⟨turns, hsome⟩ := hbounds.terminates
  rw [runReceipt, Option.isSome_map] at hsome
  obtain ⟨⟨error, last⟩, hloop⟩ := Option.isSome_iff_exists.mp hsome
  obtain ⟨rfl, hhalted⟩ := loop_eq_some hloop
  rw [h.never_halts turns] at hhalted
  cases hhalted

lemma spins_withGasLimit {gasLimit : ℕ} (h : u64Max ≤ gasLimit) :
    Spins (withGasLimit 0 gasLimit) :=
  ⟨rfl, rfl, rfl, h⟩

/-- A program that jumps to itself, on a new machine with the largest gas limit. -/
theorem spin_at_max_gas : ¬ ResourceBounds [spinInstruction.encode] (withGasLimit 0 u64Max) :=
  not_resourceBounds_of_spins (spins_withGasLimit le_rfl)

/-- The resource bounds hold for every program and machine just if the gas limit is below
the largest `u64`. -/
theorem resourceBounds_iff (gasLimit : ℕ) :
    (∀ program vm, vm.gasLimit = gasLimit → ResourceBounds program vm) ↔ gasLimit < u64Max := by
  constructor
  · intro hall
    by_contra hlimit
    exact not_resourceBounds_of_spins (spins_withGasLimit (not_lt.mp hlimit)) (hall _ _ rfl)
  · rintro hlimit program vm rfl
    exact resourceBounds_of_lt hlimit

end Budlum.BudZero.Vm
