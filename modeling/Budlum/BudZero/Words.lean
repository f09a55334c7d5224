import Budlum.BudZero.Runs

/-!
# Bounds on the words of the machine

All words of a machine (registers, stack, storage and the context it reads) are below a
bound `B`. Every instruction keeps this for `B` at least the field's size, save for the
results that are not computed in the field: immediates, words read from memory, return
addresses and a clamped block height (`ResultFits`). Taken at `2^64` the bound is what the
types of the source say; taken at the field's size it says that words are canonical.
-/

namespace Budlum.BudZero.Vm

open Machine List Function

variable {B : ℕ} {program : List ℕ} {vm : Vm} {inst : Instruction} {src1 src2 : ℕ}
  {out : Performed}

structure WordsBelow (B : ℕ) (vm : Vm) : Prop where
  registers : ∀ i, vm.registers i < B
  stack : ∀ value ∈ vm.stack, value < B
  storage : ∀ slot value, vm.storage.get? slot = some value → value < B
  sender : vm.context.sender < B
  nonce : vm.context.nonce < B
  blockHeight : vm.context.blockHeight < B

/-- The results that are not computed in the field fit the bound. -/
def ResultFits (B : ℕ) (vm : Vm) (inst : Instruction) (src1 : ℕ) : Prop :=
  match inst.opcode with
  | .load =>
    if inst.rs1 = 0 then asUnsigned 64 inst.imm < B
    else
      ∀ addr, memoryWordAddr src1 inst.imm vm.memory.length = some addr →
        readWord vm.memory addr < B
  | .call => vm.pc + 1 < B
  | .syscall => inst.imm = 6 → satAdd u64Max vm.context.blockHeight src1 < B
  | _ => True

namespace WordsBelow

variable {result value : ℕ}

section

variable (h : WordsBelow B vm) (hresult : result < B)
include h hresult

lemma update (i : Fin 32) : ∀ j, update vm.registers i result j < B := by
  intro j
  by_cases hj : j = i
  · rw [hj, update_self]
    exact hresult
  · rw [update_of_ne hj]
    exact h.registers j

lemma writeBack (inst : Instruction) : WordsBelow B (vm.writeBack inst result).vm :=
  { h with registers := h.update hresult inst.rd }

lemma writeBackNonzero
    (inst : Instruction) : WordsBelow B (vm.writeBackNonzero inst result).vm := by
  refine { h with registers := ?_ }
  unfold Vm.writeBackNonzero
  split_ifs
  · exact h.registers
  · exact h.update hresult inst.rd

end

lemma clearR0 (hB : 0 < B) (h : WordsBelow B vm) : WordsBelow B vm.clearR0 :=
  { h with registers := h.update hB 0 }

lemma reg (hB : 0 < B) (h : WordsBelow B vm) (i : Fin 32) : vm.reg i < B :=
  (h.clearR0 hB).registers i

lemma push (h : WordsBelow B vm) (hvalue : value < B) : ∀ v ∈ vm.stack ++ [value], v < B := by
  intro v hv
  rcases mem_append.mp hv with hv | hv
  · exact h.stack v hv
  · rw [mem_singleton.mp hv]
    exact hvalue

lemma pop (h : WordsBelow B vm) : ∀ v ∈ vm.stack.dropLast, v < B :=
  fun v hv => h.stack v (mem_of_mem_dropLast hv)

lemma top (h : WordsBelow B vm) (hvalue : vm.stack.getLast? = some value) : value < B :=
  h.stack value (mem_of_getLast? hvalue)

lemma read (hB : 0 < B) (h : WordsBelow B vm) (slot : ℤ) : (vm.storage.get? slot).getD 0 < B := by
  cases hvalue : vm.storage.get? slot with
  | none => exact hB
  | some value => exact h.storage slot value hvalue

lemma insert (h : WordsBelow B vm) (hvalue : value < B) (slot : ℤ) :
    ∀ s v, (vm.storage.insert slot value).get? s = some v → v < B := by
  intro s v hv
  rcases SortedMap.get?_insert_eq_some.mp hv with ⟨-, rfl⟩ | ⟨-, hv⟩
  · exact hvalue
  · exact h.storage s v hv

end WordsBelow

lemma boolWord_lt (hB : 1 < B) (b : Bool) : boolWord b < B := by
  cases b
  · exact Nat.zero_lt_of_lt hB
  · exact hB

lemma perform_wordsBelow (hB : goldilocksP ≤ B) (h : WordsBelow B vm) (hsrc1 : src1 < B)
    (hfits : ResultFits B vm inst src1)
    (hout : vm.perform inst src1 src2 = .ok out) : WordsBelow B out.vm := by
  have hone : 1 < B := lt_of_lt_of_le (by decide) hB
  have hzero : 0 < B := Nat.zero_lt_of_lt hone
  cases hop : inst.opcode <;> simp only [perform, ResultFits, hop] at hout hfits
  case load =>
    split_ifs at hout hfits with hr0
    · cases hout
      exact h.writeBack hfits inst
    · split at hout
      · rename_i addr haddr
        cases hout
        exact h.writeBack (hfits addr haddr) inst
      · cases hout
  case store =>
    split at hout
    · cases hout
      exact { h with }
    · cases hout
  case call =>
    split_ifs at hout
    cases hout
    exact { h with stack := h.push hfits }
  case push =>
    split_ifs at hout
    cases hout
    exact { h with stack := h.push hsrc1 }
  case ret =>
    split at hout
    · cases hout
      exact { h with stack := h.pop }
    · cases hout
  case pop =>
    split at hout
    · rename_i value hvalue
      cases hout
      exact { h with registers := h.update (h.top hvalue) inst.rd, stack := h.pop }
    · cases hout
  case assert =>
    split_ifs at hout
    cases hout
    exact { h with }
  case halt | jmp | jnz | log =>
    cases hout
    exact { h with }
  case sWrite =>
    cases hout
    exact { h with storage := h.insert hsrc1 _ }
  case sRead =>
    cases hout
    exact h.writeBack (h.read hzero _) inst
  case syscall =>
    split_ifs at hout with h1 h2 h3 h6 <;> cases hout
    · exact h.writeBack h.sender inst
    · exact h.writeBack h.blockHeight inst
    · exact h.writeBack h.nonce inst
    · exact { h with registers := h.update (hfits h6) inst.rd }
    · exact h.writeBack hzero inst
  case verifyMerkle =>
    split_ifs at hout <;> cases hout
    · exact h.writeBack (boolWord_lt hone _) inst
    · exact h.writeBack hzero inst
  case add =>
    cases hout
    exact h.writeBack ((fieldAdd_lt _ _).trans_le hB) inst
  case sub =>
    cases hout
    exact h.writeBack ((fieldSub_lt _ _).trans_le hB) inst
  case mul =>
    cases hout
    exact h.writeBack ((fieldMul_lt _ _).trans_le hB) inst
  case div =>
    cases hout
    refine h.writeBack ?_ inst
    split_ifs
    · exact (Nat.mod_lt _ goldilocksP_pos).trans_le hB
    · exact hzero
  case inv =>
    cases hout
    refine h.writeBack ?_ inst
    split_ifs
    · exact (fieldInverse_lt _).trans_le hB
    · exact hzero
  case and =>
    cases hout
    exact h.writeBack (Nat.and_le_left.trans_lt hsrc1) inst
  case poseidon =>
    cases hout
    exact h.writeBack ((poseidon4HashState_lt _).trans_le hB) inst
  case privacyCommit =>
    cases hout
    exact h.writeBackNonzero ((poseidon4HashState_lt _).trans_le hB) inst
  case verifyInference =>
    cases hout
    exact h.writeBackNonzero hzero inst
  case nullifierCheck | sumConservation =>
    cases hout
    exact h.writeBackNonzero (boolWord_lt hone _) inst
  all_goals
    cases hout
    exact h.writeBack (boolWord_lt hone _) inst

lemma step_wordsBelow (hB : goldilocksP ≤ B) (h : WordsBelow B vm)
    (hfits : ∀ raw inst, program[vm.pc]? = some raw →
      decodeInstruction raw vm.mainnetMode = .ok inst → ResultFits B vm inst (vm.reg inst.rs1)) :
    WordsBelow B (vm.step program).2 := by
  have hzero : 0 < B := goldilocksP_pos.trans_le hB
  have houtcome := step_outcome program vm
  generalize vm.step program = result at houtcome ⊢
  cases houtcome with
  | idle => exact h.clearR0 hzero
  | failed =>
    have hclear := h.clearR0 hzero
    exact { h with registers := hclear.registers }
  | performed raw inst out _ hraw hdecode _ hout =>
    have hclear := h.clearR0 hzero
    have hpaid : WordsBelow B (vm.paid inst) :=
      { h with registers := hclear.registers }
    have hdone := (perform_wordsBelow hB hpaid (h.reg hzero _)
      (hfits raw inst hraw hdecode) hout).clearR0 hzero
    exact { hdone with }

lemma withGasLimit_wordsBelow (hB : 0 < B) (memorySize gasLimit : ℕ) :
    WordsBelow B (withGasLimit memorySize gasLimit) where
  registers := fun _ => hB
  stack := by simp [withGasLimit]
  storage := by simp [withGasLimit]
  sender := hB
  nonce := hB
  blockHeight := hB

/-! ## The bound of the types -/

/-- The words of the machine are `u64` values, as the types of the source have it. -/
abbrev Fits (vm : Vm) : Prop := WordsBelow (2 ^ 64) vm

lemma step_fits (hprogram : program.length < 2 ^ 64) (h : Fits vm) :
    Fits (vm.step program).2 := by
  refine step_wordsBelow (by decide) h ?_
  intro raw inst hraw _
  have hpc : vm.pc < program.length := (List.getElem?_eq_some_iff.mp hraw).1
  unfold ResultFits
  split
  · split_ifs
    · exact Instruction.asUnsigned_lt 64 inst.imm
    · intro addr haddr
      exact readWord_lt (memoryWordAddr_eq_some haddr).1
  · omega
  · intro _
    exact (satAdd_le_max _ _ _).trans_lt (by decide)
  · trivial

end Budlum.BudZero.Vm
