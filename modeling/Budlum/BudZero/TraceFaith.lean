import Budlum.BudZero.Runs

/-!
# The trace tells what the machine did

One step either records rows that lead from its program counter to the next one, with the
operands it read and the only register it changed, or it fails and leaves everything but
the halt flag, the error and the gas as it was (`step_faithful`). Along a run the rows of
the steps join into one chain, and a run that succeeds ends with a `Halt`
(`trace_faithful`).
-/

namespace Budlum.BudZero.Vm

open Machine

variable {program : List ℕ} {vm vm' : Vm} {turns : ℕ}

/-- What the rows a step recorded say of the step from `vm` to `vm'`. -/
structure RowsFaithful (vm vm' : Vm) (head : Step) (rest : List Step) : Prop where
  trace : vm'.trace = vm.trace ++ head :: rest
  leads : Leads vm.pc (head :: rest) vm'.pc
  operands : ∀ row ∈ head :: rest,
    row.src1Val = vm.reg row.src1Idx ∧ row.src2Val = vm.reg row.src2Idx
  destination : ∀ i, i ≠ head.dstIdx → vm'.reg i = vm.reg i

/-- What a failed step leaves as it was. -/
structure Untouched (vm vm' : Vm) : Prop where
  pc : vm'.pc = vm.pc
  registers : vm'.reg = vm.reg
  memory : vm'.memory = vm.memory
  stack : vm'.stack = vm.stack
  storage : vm'.storage = vm.storage
  events : vm'.events = vm.events
  trace : vm'.trace = vm.trace

/-- A step is faithful: its rows tell what it did, or it did nothing. -/
structure StepFaithful (program : List ℕ) (vm : Vm) : Prop where
  recorded : ∀ vm', vm.step program = (.ok (), vm') →
    ∃ head rest, RowsFaithful vm vm' head rest
  failed : ∀ e vm', vm.step program = (.error e, vm') → Untouched vm vm'

/-- A run is faithful: each of its steps is, the rows it recorded chain, and a run that
succeeded ends with a `Halt`. -/
structure TraceFaithful (program : List ℕ) (vm : Vm) : Prop where
  steps : ∀ turns, (after program turns vm).halted = false →
    StepFaithful program (after program turns vm)
  chain : ∀ turns receipt vm', vm.runReceipt program turns = some (receipt, vm') →
    ∃ rows, vm'.trace = vm.trace ++ rows ∧
      rows.IsChain fun row next => row.nextPc = next.pc
  ends : ∀ turns receipt vm', vm.runReceipt program turns = some (receipt, vm') →
    vm.halted = false → receipt.success = true →
    ∃ init row, vm'.trace = init ++ [row] ∧ row.instruction.opcode = .halt

/-! ## One step -/

lemma records_reg {inst : Instruction} {row : Step}
    (h : Records inst (vm.reg inst.rs1) (vm.reg inst.rs2) row) :
    row.src1Val = vm.reg row.src1Idx ∧ row.src2Val = vm.reg row.src2Idx := by
  constructor
  · rcases h.src1 with ⟨hidx, hval⟩ | ⟨hidx, hval⟩
    · rw [hidx, hval]
    · rw [hidx, hval, reg_zero]
  · rcases h.src2 with ⟨hidx, hval⟩ | ⟨hidx, hval⟩
    · rw [hidx, hval]
    · rw [hidx, hval, reg_zero]

lemma reg_eq_of_registers {i : Fin 32} (h : vm'.registers i = vm.reg i) :
    vm'.clearR0.reg i = vm.reg i := by
  rw [reg_clearR0]
  by_cases hi : i = 0
  · rw [hi, reg_zero, reg_zero]
  · rw [reg_of_ne hi, h]

lemma record_faithful {inst : Instruction} {out : Performed}
    (hout : (vm.paid inst).perform inst (vm.reg inst.rs1) (vm.reg inst.rs2) = .ok out) :
    ∃ head rest, RowsFaithful vm
      ((vm.paid inst).record inst (vm.reg inst.rs1) (vm.reg inst.rs2) out) head rest := by
  have hframe := perform_framed hout
  let row := instructionRow vm.pc inst (vm.reg inst.rs1) (vm.reg inst.rs2)
    { out with vm := out.vm.clearR0 }
  have hnext : inst.opcode = .verifyMerkle ∨ inst.opcode = .verifyInference →
      row.nextPc = vm.pc + 1 := by
    intro hop
    have hpc : out.nextPc = (vm.paid inst).pc + 1 := perform_nextPc hout hop
    exact hpc
  have hleads : Leads vm.pc (out.vm.clearR0.rows vm.pc inst (vm.reg inst.rs1)
      (vm.reg inst.rs2) row) out.nextPc :=
    rows_leads rfl hnext
  have hheaded : Headed inst (vm.reg inst.rs1) (vm.reg inst.rs2) row
      (out.vm.clearR0.rows vm.pc inst (vm.reg inst.rs1) (vm.reg inst.rs2) row) := rows_headed
  obtain ⟨head, rest, hrows, hhead, hrest⟩ := hheaded.shape
  rw [hrows] at hleads
  have hheadRecords : Records inst (vm.reg inst.rs1) (vm.reg inst.rs2) head :=
    ⟨.inl hhead.src1, .inl hhead.src2⟩
  refine ⟨head, rest, ?_, ?_, ?_, ?_⟩
  · show out.vm.trace ++ out.vm.clearR0.rows vm.pc inst _ _ row = _
    rw [hrows, hframe.trace]
    rfl
  · show Leads vm.pc (head :: rest) out.vm.pc
    rw [hframe.pc]
    exact hleads
  · intro r hr
    rcases List.mem_cons.mp hr with rfl | hr
    · exact records_reg hheadRecords
    · exact records_reg (hrest r hr).toRecords
  · intro i hi
    have hdst : i ≠ inst.rd := by
      rw [hhead.dst.1] at hi
      exact hi
    exact reg_eq_of_registers (hframe.registers i hdst)

lemma step_faithful (hrunning : vm.halted = false) : StepFaithful program vm where
  recorded := by
    intro vm' hstep
    have houtcome := step_outcome program vm
    rw [hstep] at houtcome
    cases houtcome with
    | idle hhalted => simp [hhalted] at hrunning
    | performed raw inst out _ _ _ _ hout => exact record_faithful hout
  failed := by
    intro e vm' hstep
    have houtcome := step_outcome program vm
    rw [hstep] at houtcome
    cases houtcome with
    | failed => exact ⟨rfl, reg_clearR0 vm, rfl, rfl, rfl, rfl, rfl⟩

/-! ## Whole runs -/

lemma after_leads (program : List ℕ) (turns : ℕ) (vm : Vm) :
    ∃ rows, (after program turns vm).trace = vm.trace ++ rows ∧
      Leads vm.pc rows (after program turns vm).pc := by
  refine after_induction
    (I := fun vm' => ∃ rows, vm'.trace = vm.trace ++ rows ∧ Leads vm.pc rows vm'.pc)
    ⟨[], by simp, .nil _⟩ ?_
  rintro vm' hrunning ⟨rows, htrace, hleads⟩
  have hfaithful : StepFaithful program vm' := step_faithful hrunning
  rcases hstep : vm'.step program with ⟨e | _, next⟩
  · have hsame := hfaithful.failed e next hstep
    exact ⟨rows, hsame.trace.trans htrace, hsame.pc ▸ hleads⟩
  · obtain ⟨head, rest, hrows⟩ := hfaithful.recorded next hstep
    refine ⟨rows ++ head :: rest, ?_, hleads.append hrows.leads⟩
    rw [hrows.trace, htrace, List.append_assoc]

lemma closeTrace_leads {pc : ℕ} {before rows : List Step} (error : Option VmError)
    (htrace : vm.trace = before ++ rows) (h : Leads pc rows vm.pc) :
    ∃ rows, (vm.closeTrace error).trace = before ++ rows ∧ ∃ last, Leads pc rows last := by
  unfold closeTrace
  split_ifs
  · refine ⟨rows ++ [vm.haltRow], ?_, _, h.append (.single rfl)⟩
    show vm.trace ++ _ = _
    rw [htrace, List.append_assoc]
  · exact ⟨rows, htrace, _, h⟩

lemma step_halts (hrunning : vm.halted = false) (hstep : vm.step program = (.ok (), vm'))
    (hhalted : vm'.halted = true) :
    ∃ row, vm'.trace = vm.trace ++ [row] ∧ row.instruction.opcode = .halt := by
  have houtcome := step_outcome program vm
  rw [hstep] at houtcome
  cases houtcome with
  | idle hidle => simp [hidle] at hrunning
  | performed raw inst out _ _ _ _ hout =>
    have hframe := perform_framed hout
    have hop : inst.opcode = .halt := by
      have hflag : out.vm.halted = true := hhalted
      rw [hframe.halted] at hflag
      change (vm.halted || inst.opcode == .halt) = true at hflag
      rwa [hrunning, Bool.false_or, beq_iff_eq] at hflag
    refine ⟨instructionRow vm.pc inst (vm.reg inst.rs1) (vm.reg inst.rs2)
      { out with vm := out.vm.clearR0 }, ?_, hop⟩
    show out.vm.trace ++ _ = _
    rw [hframe.trace, rows_of_plain (by rw [hop]; decide)]
    rfl

lemma loop_ends (hrunning : vm.halted = false) (h : loop program turns vm = some (none, vm')) :
    ∃ init row, vm'.trace = init ++ [row] ∧ row.instruction.opcode = .halt := by
  induction turns generalizing vm with
  | zero =>
    rw [loop, hrunning, if_neg Bool.false_ne_true] at h
    cases h
  | succ turns ih =>
    rcases hstep : vm.step program with ⟨e | _, next⟩
    · rw [loop_of_error hrunning hstep] at h
      cases h
    · rw [loop_of_ok hrunning hstep] at h
      cases hhalted : next.halted with
      | true =>
        rw [loop_of_halted hhalted] at h
        cases h
        obtain ⟨row, htrace, hop⟩ := step_halts hrunning hstep hhalted
        exact ⟨vm.trace, row, htrace, hop⟩
      | false => exact ih hhalted h

/-- Every run of the machine is faithful. -/
theorem trace_faithful (program : List ℕ) (vm : Vm) : TraceFaithful program vm where
  steps := fun _ hrunning => step_faithful hrunning
  chain := by
    intro turns receipt vm' hrun
    obtain ⟨error, last, hloop, rfl, -⟩ := runReceipt_eq_some hrun
    obtain ⟨rfl, -⟩ := loop_eq_some hloop
    obtain ⟨rows, htrace, hleads⟩ := after_leads program turns vm
    obtain ⟨rows', htrace', last, hleads'⟩ := closeTrace_leads error htrace hleads
    exact ⟨rows', htrace', hleads'.isChain⟩
  ends := by
    intro turns receipt vm' hrun hrunning hsuccess
    obtain ⟨error, last, hloop, rfl, rfl⟩ := runReceipt_eq_some hrun
    have hnone : error = none := by
      have hsome : error.isNone = true := hsuccess
      exact Option.isNone_iff_eq_none.mp hsome
    subst hnone
    exact loop_ends hrunning hloop

/-- A machine halted by a failed step: its next run reports success and has no `Halt` row. -/
theorem failed_machine_reports_success :
    ∃ vm receipt, vm = ((withGasLimit 0 9).step []).2 ∧ vm.runReceipt [] 1 = some (receipt, vm) ∧
      receipt.success = true ∧ vm.trace = [] :=
  ⟨_, _, rfl, rfl, rfl, rfl⟩

end Budlum.BudZero.Vm
