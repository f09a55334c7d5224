import Budlum.BudZero.AirControl

/-!
# System calls in the table

One flag for each known system call says which one a row makes. A flag that is on belongs to
the immediate of the row, but no constraint turns one on: the two that are meant to pin a flag
in both directions are the same. A row with all flags off returns 0.
-/

namespace Budlum.BudZero

open Machine Vm

def Row.syscallFlag (row : Row) (imm : ℤ) : Goldilocks :=
  if imm = 1 then row.syscallIs1
  else if imm = 2 then row.syscallIs2
  else if imm = 3 then row.syscallIs3
  else if imm = 6 then row.syscallIs6
  else 0

def Vm.callResult (vm : Vm) (imm : ℤ) (src1 : ℕ) : ℕ :=
  if imm = 1 then vm.context.sender
  else if imm = 2 then vm.context.blockHeight
  else if imm = 3 then vm.context.nonce
  else if imm = 6 then satAdd u64Max vm.context.blockHeight src1
  else 0

namespace Air

variable {pub : ℕ → Goldilocks} {row : Row} {flag number value result : Goldilocks}
  (hsel : row.sel .syscall = 1)
include hsel

lemma SyscallFlag.eq_zero (h : SyscallFlag row flag number) {imm n : ℤ}
    (himm : row.imm = imm) (hn : number = n) (hne : imm ≠ n) (hlow : -2 ^ 32 ≤ imm - n)
    (hhigh : imm - n ≤ 2 ^ 32) : flag = 0 := by
  have hoff := h.off'
  rw [hsel, one_mul, mul_eq_zero, sub_eq_zero, himm, hn,
    ZMod.intCast_eq_intCast_iff_dvd_sub] at hoff
  refine hoff.resolve_right fun hdvd => hne (sub_eq_zero.mp ?_).symm
  refine Int.eq_zero_of_abs_lt_dvd hdvd (abs_lt.mpr ?_)
  rw [goldilocksP]
  omega

/-- With one flag alone a row has the value of the call, or 0. -/
lemma Syscalls.result_iff (h : Syscalls pub row) (hflag : SyscallFlag row flag number)
    (hknown : row.knownSyscall = flag)
    (hvalue : row.sel .syscall * (flag * (row.rdValNew - value)) = 0) :
    row.rdValNew = result ↔ if flag = 1 then value = result else result = 0 := by
  have hbool := hflag.bool
  have hnone := h.unknown
  rw [hsel, one_mul, isBool_eq_zero, sub_eq_zero, sub_eq_self] at hbool
  rw [hsel, one_mul, hknown] at hnone
  rw [hsel, one_mul] at hvalue
  rcases hbool with rfl | rfl
  · rw [one_mul, sub_eq_zero] at hvalue
    rw [hvalue, if_pos rfl]
  · rw [sub_zero, one_mul] at hnone
    rw [hnone, if_neg zero_ne_one, eq_comm]

/-- A row has the result of its system call iff the flag of the call is on and its sum does not
saturate, or the flag is off and the result is 0. -/
theorem syscall_result_iff (h : EveryRow pub row) {inst : Instruction}
    (hop : inst.opcode = .syscall) (himm : row.imm = (inst.imm : Goldilocks))
    (hlow : -2 ^ 31 ≤ inst.imm) (hhigh : inst.imm < 2 ^ 31) {vm : Vm}
    (hsender : (vm.context.sender : Goldilocks) = limbs pub 26)
    (hnonce : (vm.context.nonce : Goldilocks) = limbs pub 28)
    (hheight : (vm.context.blockHeight : Goldilocks) = limbs pub 30) {src2 : ℕ} {out : Performed}
    (hperform : vm.perform inst row.rs1Val.val src2 = .ok out) :
    row.rdValNew = (out.dstVal : Goldilocks) ↔
      if row.syscallFlag inst.imm = 1 then inst.imm = 6 →
        ((vm.context.blockHeight + row.rs1Val.val : ℕ) : Goldilocks) =
          (satAdd u64Max vm.context.blockHeight row.rs1Val.val : ℕ)
      else (vm.callResult inst.imm row.rs1Val.val : Goldilocks) = 0 := by
  have hcalls := h.syscalls
  have hoff : ∀ {flag number} (n : ℤ), SyscallFlag row flag number → number = n →
      inst.imm ≠ n → 0 ≤ n ∧ n ≤ 6 → flag = 0 := fun n hflag hn hne hsmall =>
    hflag.eq_zero hsel himm hn hne (by omega) (by omega)
  have h1 := hoff 1 hcalls.is1 (by norm_num)
  have h2 := hoff 2 hcalls.is2 (by norm_num)
  have h3 := hoff 3 hcalls.is3 (by norm_num)
  have h6 := hoff 6 hcalls.is6 (by norm_num)
  rw [perform, hop] at hperform
  dsimp only at hperform
  split_ifs at hperform with e1 e2 e3 e6 <;> cases hperform
  · refine (hcalls.result_iff hsel hcalls.is1 ?_ hcalls.sender).trans ?_
    · simp [Row.knownSyscall, h2, h3, h6, e1]
    · simp [Row.syscallFlag, callResult, e1, writeBack, hsender]
  · refine (hcalls.result_iff hsel hcalls.is2 ?_ hcalls.blockHeight).trans ?_
    · simp [Row.knownSyscall, h1, h3, h6, e2]
    · simp [Row.syscallFlag, callResult, e2, writeBack, hheight]
  · refine (hcalls.result_iff hsel hcalls.is3 ?_ hcalls.nonce).trans ?_
    · simp [Row.knownSyscall, h1, h2, h6, e3]
    · simp [Row.syscallFlag, callResult, e3, writeBack, hnonce]
  · have hsum := hcalls.inference
    rw [sub_sub] at hsum
    refine (hcalls.result_iff hsel hcalls.is6 ?_ hsum).trans ?_
    · simp [Row.knownSyscall, h1, h2, h3, e6]
    · simp [Row.syscallFlag, callResult, e6, writeBack, hheight]
  · refine (hcalls.result_iff hsel hcalls.is1 ?_ hcalls.sender).trans ?_
    · simp [Row.knownSyscall, h2, h3, h6, e2, e3, e6]
    · simp [Row.syscallFlag, callResult, h1, e1, e2, e3, e6, writeBack]

end Air

/-! ## A call that no flag admits -/

namespace BudAir

open Air

/-- Ask for the sender and halt. -/
def declinedAir : BudAir where
  numSteps := 2
  program := [0x80001D, 0]

/-- The row of the call has no flag on and returns 0. -/
def declined (i : ℕ) : Row where
  clk := i
  pc := (min i 1 : ℕ)
  nextPc := 1
  opcode := if i = 0 then 0x1D else 0
  rawInst := if i = 0 then 0x80001D else 0
  imm := if i = 0 then 1 else 0
  sel := fun x => if x = (if i = 0 then .syscall else .halt) then 1 else 0
  cpuActive := if i < 2 then 1 else 0
  gasUsed := (min (5 * i) 5 : ℕ)
  reg :=
    { isWrite := if i = 2 then 1 else 0
      active := if i < 3 then 1 else 0
      same := if i < 2 then 1 else 0 }
  regSubClk := (i % 3 + 1 : ℕ)

def declinedPub (j : ℕ) : Goldilocks := if j = 34 ∨ j = 26 then 5 else 0

lemma declined_light :
    Light declinedAir 16 declined (fun i => if i = 0 then .syscall else .halt) declinedPub where
  degree := by decide +kernel
  domain := by decide
  runs _ _ := rfl
  opcode := by decide +kernel
  light i := by by_cases hi : i = 0 <;> simp [hi, lightOps]
  syscalls _ := ⟨rfl, rfl, rfl, rfl⟩
  inference _ := rfl
  every := by decide +kernel
  transition := by decide +kernel
  first := by decide +kernel
  firstRegister := by decide +kernel
  firstMemory := by decide +kernel
  last := by decide +kernel
  registers := by decide +kernel
  memory := by decide +kernel
  program := by decide +kernel

def calledVm : Vm := { withGasLimit 0 0 with context := ⟨5, 0, 0, []⟩ }

theorem syscall_result_iff_declined :
    (declined 0).rdValNew = (5 : ℕ) ↔ if (declined 0).syscallFlag 1 = 1 then
      (1 : ℤ) = 6 → ((0 : ℕ) : Goldilocks) = (0 : ℕ) else ((5 : ℕ) : Goldilocks) = 0 :=
  have hperform : calledVm.perform ⟨.syscall, 0, 0, 0, 1⟩ (declined 0).rs1Val.val 0 =
    .ok (calledVm.writeBack ⟨.syscall, 0, 0, 0, 1⟩ 5) := rfl
  have hrow := declined_light.satisfies.every 0 (by rw [declined_light.degree]; decide)
  syscall_result_iff rfl hrow rfl (by decide +kernel) (by decide) (by decide) (by decide +kernel)
    (by decide +kernel) (by decide +kernel) hperform

/-- The assignment satisfies every constraint, and its call returns 0 in place of the sender. -/
theorem declined_call :
    declinedAir.Satisfies declined declinedPub ∧ (declined 0).sel .syscall = 1 ∧
      (declined 0).cpuActive = 1 ∧ (declined 0).rdValNew = 0 ∧ limbs declinedPub 26 = 5 ∧
      (calledVm.perform ⟨.syscall, 0, 0, 0, 1⟩ 0 0).map Performed.dstVal = .ok 5 :=
  ⟨declined_light.satisfies, rfl, rfl, rfl, by decide +kernel, rfl⟩

end BudAir

end Budlum.BudZero
