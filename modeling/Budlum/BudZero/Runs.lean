import Budlum.BudZero.Rows

/-!
# Runs of the machine

The states a run goes through are the turns of the loop of `run_receipt`, iterated. A
property of a state that every step keeps holds after any number of turns
(`after_induction`); the loop ends as soon as a state is halted (`loop_of_halted`), and it
leaves the state it ended in (`loop_eq_some`).
-/

namespace Budlum.BudZero.Vm

open Machine

variable {program : List ℕ} {vm vm' : Vm} {turns : ℕ} {error : Option VmError}

/-- One turn of the loop: a machine that is halted is left as it is. -/
def turn (program : List ℕ) (vm : Vm) : Vm := if vm.halted then vm else (vm.step program).2

def after (program : List ℕ) (turns : ℕ) (vm : Vm) : Vm := (turn program)^[turns] vm

@[simp] lemma after_zero : after program 0 vm = vm := rfl

lemma after_succ : after program (turns + 1) vm = after program turns (turn program vm) := rfl

lemma after_succ' : after program (turns + 1) vm = turn program (after program turns vm) :=
  Function.iterate_succ_apply' _ _ _

lemma turn_of_halted (h : vm.halted = true) : turn program vm = vm := by
  rw [turn, if_pos h]

lemma turn_of_running (h : vm.halted = false) : turn program vm = (vm.step program).2 := by
  rw [turn, h, if_neg Bool.false_ne_true]

lemma after_of_halted (h : vm.halted = true) : after program turns vm = vm := by
  induction turns with
  | zero => rfl
  | succ turns ih => rw [after_succ, turn_of_halted h, ih]

lemma after_induction {I : Vm → Prop} (hstart : I vm)
    (hstep : ∀ vm, vm.halted = false → I vm → I (vm.step program).2) :
    I (after program turns vm) := by
  induction turns with
  | zero => exact hstart
  | succ turns ih =>
    rw [after_succ']
    cases hhalted : (after program turns vm).halted with
    | true => rwa [turn_of_halted hhalted]
    | false =>
      rw [turn_of_running hhalted]
      exact hstep _ hhalted ih

/-! ## What one step does to the machine -/

lemma record_eq {inst : Instruction} {src1 src2 : ℕ} {out : Performed} :
    vm.record inst src1 src2 out =
      { out.vm.clearR0 with
        trace := out.vm.trace ++ out.vm.clearR0.rows vm.pc inst src1 src2
          (instructionRow vm.pc inst src1 src2 { out with vm := out.vm.clearR0 }) } := rfl

lemma perform_nextPc {inst : Instruction} {src1 src2 : ℕ} {out : Performed}
    (h : vm.perform inst src1 src2 = .ok out)
    (hop : inst.opcode = .verifyMerkle ∨ inst.opcode = .verifyInference) :
    out.nextPc = vm.pc + 1 := by
  rw [perform_pcAfter h]
  rcases hop with hop | hop <;> rw [pcAfter, hop]

/-- What the steps of a run leave alone from its beginning on. -/
structure Kept (vm vm' : Vm) : Prop where
  gasLimit : vm'.gasLimit = vm.gasLimit
  context : vm'.context = vm.context
  mainnetMode : vm'.mainnetMode = vm.mainnetMode
  memory : vm'.memory.length = vm.memory.length
  stack : vm'.stack.length ≤ max stackLimit vm.stack.length

lemma Kept.refl (vm : Vm) : Kept vm vm := ⟨rfl, rfl, rfl, rfl, le_max_right _ _⟩

lemma Kept.trans {vm₁ vm₂ vm₃ : Vm} (h : Kept vm₁ vm₂) (h' : Kept vm₂ vm₃) : Kept vm₁ vm₃ where
  gasLimit := h'.gasLimit.trans h.gasLimit
  context := h'.context.trans h.context
  mainnetMode := h'.mainnetMode.trans h.mainnetMode
  memory := h'.memory.trans h.memory
  stack := h'.stack.trans (max_le (le_max_left _ _) h.stack)

lemma step_kept (program : List ℕ) (vm : Vm) : Kept vm (vm.step program).2 := by
  have houtcome := step_outcome program vm
  generalize vm.step program = result at houtcome ⊢
  cases houtcome with
  | idle => exact ⟨rfl, rfl, rfl, rfl, le_max_right _ _⟩
  | failed => exact ⟨rfl, rfl, rfl, rfl, le_max_right _ _⟩
  | performed raw inst out _ _ _ _ hout =>
    have hframe := perform_framed hout
    exact ⟨hframe.gasLimit, hframe.context, hframe.mainnetMode, hframe.memory, hframe.stack⟩

lemma after_kept (program : List ℕ) (turns : ℕ) (vm : Vm) : Kept vm (after program turns vm) :=
  after_induction (Kept.refl vm) fun vm' _ h => h.trans (step_kept program vm')

lemma step_registers_zero (program : List ℕ) (vm : Vm) : (vm.step program).2.registers 0 = 0 := by
  have houtcome := step_outcome program vm
  generalize vm.step program = result at houtcome ⊢
  cases houtcome with
  | idle => exact clearR0_registers_zero vm
  | failed => exact clearR0_registers_zero vm
  | performed raw inst out => exact clearR0_registers_zero out.vm

/-! ## The loop -/

lemma loop_of_halted (h : vm.halted = true) : loop program turns vm = some (none, vm) := by
  cases turns <;> rw [loop, if_pos h]

lemma loop_of_ok (h : vm.halted = false) (hstep : vm.step program = (.ok (), vm')) :
    loop program (turns + 1) vm = loop program turns vm' := by
  rw [loop, h, if_neg Bool.false_ne_true, hstep]

lemma loop_of_error {e : VmError} (h : vm.halted = false)
    (hstep : vm.step program = (.error e, vm')) :
    loop program (turns + 1) vm = some (some e, vm') := by
  rw [loop, h, if_neg Bool.false_ne_true, hstep]

lemma fail_halted (e : VmError) : (vm.fail e).halted = true := rfl

lemma step_error_halted {e : VmError} (hstep : vm.step program = (.error e, vm')) :
    vm'.halted = true := by
  have houtcome := step_outcome program vm
  rw [hstep] at houtcome
  cases houtcome with
  | failed => exact fail_halted e

lemma loop_map_snd : (loop program turns vm).map Prod.snd =
    if (after program turns vm).halted then some (after program turns vm) else none := by
  induction turns generalizing vm with
  | zero =>
    change _ = if vm.halted then some vm else none
    rw [loop]
    split_ifs <;> rfl
  | succ turns ih =>
    cases hhalted : vm.halted with
    | true =>
      rw [loop_of_halted hhalted, after_of_halted hhalted, if_pos hhalted]
      rfl
    | false =>
      rw [after_succ, turn_of_running hhalted]
      rcases hstep : vm.step program with ⟨e | _, next⟩
      · have hstopped := step_error_halted hstep
        rw [loop_of_error hhalted hstep, after_of_halted hstopped, if_pos hstopped]
        rfl
      · rw [loop_of_ok hhalted hstep]
        exact ih

lemma loop_eq_some (h : loop program turns vm = some (error, vm')) :
    vm' = after program turns vm ∧ vm'.halted = true := by
  have hlast := @loop_map_snd program vm turns
  rw [h, Option.map_some] at hlast
  split_ifs at hlast with hhalted
  cases hlast
  exact ⟨rfl, hhalted⟩

lemma loop_isSome (h : (after program turns vm).halted = true) :
    (loop program turns vm).isSome = true := by
  rw [← Option.isSome_map (f := Prod.snd), loop_map_snd, if_pos h]
  rfl

lemma runReceipt_eq_some {receipt : ExecutionReceipt}
    (h : runReceipt program turns vm = some (receipt, vm')) :
    ∃ error last, loop program turns vm = some (error, last) ∧
      vm' = last.closeTrace error ∧ receipt = vm'.receipt error := by
  obtain ⟨⟨error, last⟩, hloop, hresult⟩ := Option.map_eq_some_iff.mp h
  cases hresult
  exact ⟨error, last, hloop, rfl, rfl⟩

/-! ## The log of storage writes -/

/-- The log has grown by writes that, done in their order, turned the storage into the new one. -/
def Logs (vm vm' : Vm) : Prop :=
  ∃ writes, vm'.stateWrites = vm.stateWrites ++ writes ∧
    vm'.storage = writes.foldl (fun m w => m.insert w.1 w.2) vm.storage

lemma Logs.refl (vm : Vm) : Logs vm vm := ⟨[], by simp, rfl⟩

lemma Logs.trans {vm₁ vm₂ vm₃ : Vm} (h : Logs vm₁ vm₂) (h' : Logs vm₂ vm₃) : Logs vm₁ vm₃ := by
  obtain ⟨writes, hlog, hstorage⟩ := h
  obtain ⟨writes', hlog', hstorage'⟩ := h'
  exact ⟨writes ++ writes', by rw [hlog', hlog, List.append_assoc],
    by rw [hstorage', hstorage, List.foldl_append]⟩

lemma perform_logs {inst : Instruction} {src1 src2 : ℕ} {out : Performed}
    (h : vm.perform inst src1 src2 = .ok out) : Logs vm out.vm := by
  cases hop : inst.opcode <;> simp only [perform, hop] at h
  case sWrite =>
    cases h
    exact ⟨[_], rfl, rfl⟩
  case load | store | call | ret | push | pop | assert | syscall | verifyMerkle =>
    (repeat' split at h) <;> cases h <;> exact .refl vm
  all_goals
    cases h
    exact .refl vm

lemma step_logs (program : List ℕ) (vm : Vm) : Logs vm (vm.step program).2 := by
  have houtcome := step_outcome program vm
  generalize vm.step program = result at houtcome ⊢
  cases houtcome with
  | idle => exact .refl vm
  | failed => exact .refl vm
  | performed raw inst out _ _ _ _ hout =>
    have hlogs : Logs (vm.paid inst) out.vm := perform_logs hout
    exact hlogs

/-- However a run goes, its storage is what the logged writes make of the storage at the start. -/
theorem storage_replays_log (program : List ℕ) (turns : ℕ) (vm : Vm) :
    Logs vm (after program turns vm) :=
  after_induction (Logs.refl vm) fun vm' _ h => h.trans (step_logs program vm')

end Budlum.BudZero.Vm
