import Budlum.BudZero.AirArithmetic
import Budlum.BudZero.Stepping

/-!
# Control flow of a proved trace

The program counter of a row's successor is the row's `NEXT_PC` column, and the program
lookup makes every active row off a Merkle expansion a word of the program. What the
constraints say of `NEXT_PC` itself covers the jumps, the calls, `Push` and `Pop` only:
for the other instructions it is free, and the rows may take the words of the program in
an order no machine takes them in (`shuffled_deviates`).

`control_follows_iff` says exactly which assignments follow the machine: those whose other rows
hold `NEXT_PC = PC + 1`, and whose jumps stay at or above 0.
-/

namespace Budlum.BudZero

open FieldBits

/-- A word cast from an `i64` is the integer in the field when it is not negative; a negative
one is off by `2^64`, which is not 0 in the field. -/
lemma cast_asUnsigned {value : ℤ} (hlow : -2 ^ 63 ≤ value) (hhigh : value < 2 ^ 63) :
    ((asUnsigned 64 value : ℕ) : Goldilocks) = (value : Goldilocks) ↔ 0 ≤ value := by
  have hword : ((asUnsigned 64 value : ℕ) : ℤ) = value % 2 ^ 64 := by
    rw [asUnsigned]
    omega
  have hcast : ((asUnsigned 64 value : ℕ) : Goldilocks) = ((value % 2 ^ 64 : ℤ) : Goldilocks) := by
    rw [← hword, Int.cast_natCast]
  rw [hcast]
  by_cases hneg : 0 ≤ value
  · have hsame : value % 2 ^ 64 = value := by omega
    rw [hsame]
    exact iff_of_true rfl hneg
  · have hshift : value % 2 ^ 64 = value + 2 ^ 64 := by omega
    have hne : ((2 ^ 64 : ℤ) : Goldilocks) ≠ 0 := by decide +kernel
    rw [hshift, Int.cast_add, add_eq_left]
    exact iff_of_false hne hneg

namespace BudAir

open Air

variable {air : BudAir} {rows : ℕ → Row} {pub : ℕ → Goldilocks} {i : ℕ} {inst : Instruction}

def InstructionRow (air : BudAir) (rows : ℕ → Row) (i : ℕ) : Prop :=
  i + 1 < air.degree ∧ (rows i).cpuActive = 1 ∧ (rows i).merkleIsExpand = 0

/-- The next row has the program counter that the machine has after the instruction at the
row's program counter, with the row's operand and the value the row takes from the stack. -/
def Follows (air : BudAir) (rows : ℕ → Row) (i : ℕ) : Prop :=
  ∃ inst, Instruction.decodeAny (air.word (rows i).pc.val) = .ok inst ∧
    (rows (i + 1)).pc = ((Vm.pcAfter inst (rows i).pc.val (rows i).rs1Val.val
      (rows i).memVal.val : ℕ) : Goldilocks)

/-- The opcodes whose successor the constraints determine. -/
def setsNextPc : List Opcode := [.halt, .jmp, .jnz, .call, .ret, .push, .pop]

def Jumps (row : Row) : Prop :=
  row.sel .jmp = 1 ∨ row.sel .call = 1 ∨ row.sel .jnz = 1 ∧ row.rs1Val ≠ 0

/-- What the constraints leave open about `NEXT_PC`. -/
structure HoldsNextPc (air : BudAir) (row : Row) : Prop where
  sequential : row.anyOf setsNextPc = 0 → row.nextPc = row.pc + 1
  target : Jumps row → 0 ≤ (row.pc.val : ℤ) + air.wordImm row.pc.val

/-! ## The instruction of a row -/

structure Fetches (air : BudAir) (row : Row) (inst : Instruction) : Prop where
  decode : Instruction.decodeAny (air.word row.pc.val) = .ok inst
  runs : row.Runs inst.opcode
  imm : row.imm = (inst.imm : Goldilocks)
  pc : row.pc.val < 2 ^ 32

variable {row : Row}

lemma Fetches.wordImm (h : Fetches air row inst) : air.wordImm row.pc.val = inst.imm := by
  rw [BudAir.wordImm, h.decode]

lemma Satisfies.fetches (h : air.Satisfies rows pub) (hi : InstructionRow air rows i) :
    ∃ inst, Fetches air (rows i) inst := by
  obtain ⟨hi, hactive, hexpand⟩ := hi
  obtain ⟨k, hk, -, hentry⟩ := h.fetched hi hactive hexpand
  obtain ⟨o, hruns, hopcode⟩ := h.runs (show i < air.degree by omega)
  have hpc : (rows i).pc.val = k := by
    have hcol : (rows i).pc = (k : Goldilocks) := congrArg ProgramEntry.pc hentry
    rw [hcol, val_cast (lt_trans hk h.degree_lt)]
  have hcode : air.word k % 256 = o.code := by
    have hcol : (rows i).opcode = ((air.word k % 256 : ℕ) : Goldilocks) :=
      congrArg ProgramEntry.opcode hentry
    have hlt : air.word k % 256 < goldilocksP := lt_trans (Nat.mod_lt _ (by decide)) (by decide)
    rw [hopcode] at hcol
    exact ((cast_inj (lt_trans o.code_lt (by decide)) hlt).mp hcol).symm
  have hdecode := Instruction.decodeAny_of_code hcode
  refine ⟨_, ⟨by rw [hpc]; exact hdecode, hruns, ?_, ?_⟩⟩
  · have hcol : (rows i).imm = (air.wordImm k : Goldilocks) := congrArg ProgramEntry.imm hentry
    rw [hcol, BudAir.wordImm, hdecode]
  · have hdomain := h.domain
    omega

/-! ## Where the next row stands -/

lemma Fetches.target_iff (h : Fetches air row inst) :
    row.pc + row.imm = ((asUnsigned 64 (row.pc.val + inst.imm) : ℕ) : Goldilocks) ↔
      0 ≤ (row.pc.val : ℤ) + air.wordImm row.pc.val := by
  have hfits := Instruction.decodeAny_immFits h.decode
  have hpc := h.pc
  obtain ⟨hlow, hhigh⟩ := hfits
  have hcast : row.pc + row.imm = ((row.pc.val + inst.imm : ℤ) : Goldilocks) := by
    rw [Int.cast_add, Int.cast_natCast, ZMod.natCast_zmod_val, h.imm]
  rw [hcast, h.wordImm, eq_comm]
  exact cast_asUnsigned (by omega) (by omega)

lemma jnzZ_eq (h : Control row) (hsel : row.sel .jnz = 1) :
    row.jnzCond = ind (row.rs1Val ≠ 0) := by
  rw [eq_of_gate hsel h.jnzCond, Row.jnzZ]
  exact mul_witness_eq (zero_of_gate hsel h.jnzZero)

lemma memVal_of_ret (hruns : row.Runs .ret) (hexpand : row.merkleIsExpand = 0) :
    row.memVal = row.nextPc := by
  simp [Row.memVal, Row.onOriginal, hruns.sel_self, hruns.sel_of_ne, hexpand]

lemma holdsNextPc_iff {o : Opcode} (hruns : row.Runs o) : HoldsNextPc air row ↔
      (o ∉ setsNextPc → row.nextPc = row.pc + 1) ∧
      (o = .jmp ∨ o = .call ∨ o = .jnz ∧ row.rs1Val ≠ 0 →
        0 ≤ (row.pc.val : ℤ) + air.wordImm row.pc.val) := by
  have hsel : ∀ x, row.sel x = 1 ↔ o = x :=
    fun x => ⟨hruns.eq_of_sel, fun hx => hx ▸ hruns.sel_self⟩
  have hother : row.anyOf setsNextPc = 0 ↔ o ∉ setsNextPc := by
    rw [hruns.anyOf (by decide)]
    by_cases ho : o ∈ setsNextPc <;> simp [ho]
  constructor
  · intro hholds
    refine ⟨fun ho => hholds.sequential (hother.mpr ho), fun hjumps => hholds.target ?_⟩
    simpa only [Jumps, hsel] using hjumps
  · rintro ⟨hsequential, htarget⟩
    refine ⟨fun ho => hsequential (hother.mp ho), fun hjumps => htarget ?_⟩
    simpa only [Jumps, hsel] using hjumps

lemma Satisfies.follows_row (h : air.Satisfies rows pub) (hi : InstructionRow air rows i) :
    Follows air rows i ↔ HoldsNextPc air (rows i) := by
  obtain ⟨inst, hfetch⟩ := h.fetches hi
  have hcontrol := (h.every i (Nat.lt_of_succ_lt hi.1)).control
  have hnext := h.next_pc hi.1
  have hsucc : (((rows i).pc.val + 1 : ℕ) : Goldilocks) = (rows i).pc + 1 := by
    rw [Nat.cast_succ, ZMod.natCast_zmod_val]
  -- Both sides are about the one instruction that the row fetches.
  have hfollows : Follows air rows i ↔
      (rows i).nextPc = ((Vm.pcAfter inst (rows i).pc.val (rows i).rs1Val.val
        (rows i).memVal.val : ℕ) : Goldilocks) := by
    rw [← hnext]
    constructor
    · rintro ⟨inst', hdecode, hpc⟩
      rw [hfetch.decode] at hdecode
      cases hdecode
      exact hpc
    · exact fun hpc => ⟨inst, hfetch.decode, hpc⟩
  have hruns := hfetch.runs
  rw [hfollows, holdsNextPc_iff hruns]
  cases hop : inst.opcode <;> rw [hop] at hruns <;> simp only [Vm.pcAfter, hop]
  case halt =>
    have hhalted := eq_of_gate hruns.sel_self (h.transition i hi.1).activity.haltedPc
    rw [← hnext, hhalted, ZMod.natCast_zmod_val]
    simp [setsNextPc]
  case jmp =>
    have hjmp : (rows i).nextPc = (rows i).pc + (rows i).imm :=
      eq_of_gate (by simp [hruns.sel_self, hruns.sel_of_ne]) hcontrol.jmp
    rw [hjmp, hfetch.target_iff]
    simp [setsNextPc]
  case call =>
    have hcall : (rows i).nextPc = (rows i).pc + (rows i).imm :=
      eq_of_gate hruns.sel_self hcontrol.call
    rw [hcall, hfetch.target_iff]
    simp [setsNextPc]
  case jnz =>
    have hcond := jnzZ_eq hcontrol hruns.sel_self
    have hjnz := eq_of_gate hruns.sel_self hcontrol.jnz
    rw [hjnz, hcond]
    by_cases hzero : (rows i).rs1Val = 0
    · simp [ind, hzero, hsucc, setsNextPc]
    · have hval : (rows i).rs1Val.val ≠ 0 := by rwa [Ne, ZMod.val_eq_zero]
      rw [if_pos hval, ind_true hzero, one_mul, sub_self, zero_mul, add_zero, hfetch.target_iff]
      simp [hzero, setsNextPc]
  case ret =>
    rw [memVal_of_ret hruns hi.2.2, ZMod.natCast_zmod_val]
    simp [setsNextPc]
  case push =>
    rw [hsucc, eq_of_gate hruns.sel_self hcontrol.push]
    simp [setsNextPc]
  case pop =>
    rw [hsucc, eq_of_gate hruns.sel_self hcontrol.pop]
    simp [setsNextPc]
  -- The constraints say nothing about the rest.
  all_goals
    rw [hsucc]
    simp [setsNextPc]

/-- A satisfying assignment follows the machine on every active instruction row exactly when
every such row holds what the constraints leave open about `NEXT_PC`. -/
theorem control_follows_iff (h : air.Satisfies rows pub) :
    (∀ i, InstructionRow air rows i → Follows air rows i) ↔
      ∀ i, InstructionRow air rows i → HoldsNextPc air (rows i) :=
  forall₂_congr fun _ hi => h.follows_row hi

/-! ## Out of order -/

/-- Three loads of an immediate and a halt. -/
def shuffledAir : BudAir where
  numSteps := 4
  program := [0x14, 0x14, 0x14, 0]

/-- The word each row takes: the second and the third load are exchanged. -/
def shuffledPc : ℕ → ℕ
  | 0 => 0
  | 1 => 2
  | 2 => 1
  | _ => 3

/-- The rows that take them. The table of registers is the honest one: every access is to
register 0. -/
def shuffled (i : ℕ) : Row where
  clk := i
  pc := shuffledPc i
  nextPc := shuffledPc (i + 1)
  opcode := if i < 3 then 0x14 else 0
  rawInst := if i < 3 then 0x14 else 0
  sel := fun x => if x = (if i < 3 then .load else .halt) then 1 else 0
  cpuActive := if i < 4 then 1 else 0
  gasUsed := (min (3 * i) 9 : ℕ)
  reg :=
    { clk := (i / 3 : ℕ)
      isWrite := if i % 3 = 2 then 1 else 0
      active := if i < 9 then 1 else 0
      same := if i < 8 then 1 else 0 }
  regSubClk := (i % 3 + 1 : ℕ)

def shuffledPub (j : ℕ) : Goldilocks := if j = 34 then 9 else 0

lemma shuffled_light :
    Light shuffledAir 16 shuffled (fun i => if i < 3 then .load else .halt) shuffledPub where
  degree := by decide +kernel
  domain := by decide
  runs _ _ := rfl
  opcode := by decide +kernel
  light i := by by_cases hi : i < 3 <;> simp [hi, lightOps]
  syscalls _ := ⟨rfl, rfl, rfl, rfl⟩
  inference _ := rfl
  every := by decide +kernel
  transition := by decide +kernel
  first := by decide +kernel
  firstRegister := by decide +kernel
  firstMemory := by decide +kernel
  last := by decide +kernel
  registers := by decide +kernel
  memory := by decide +kernel
  program := by decide +kernel

/-- The assignment satisfies every constraint and takes the third word after the first. -/
theorem shuffled_deviates :
    shuffledAir.Satisfies shuffled shuffledPub ∧ InstructionRow shuffledAir shuffled 0 ∧
      ¬Follows shuffledAir shuffled 0 := by
  have hsatisfies := shuffled_light.satisfies
  have hrow : InstructionRow shuffledAir shuffled 0 := by
    rw [InstructionRow, shuffled_light.degree]
    exact ⟨by decide, rfl, rfl⟩
  refine ⟨hsatisfies, hrow, ?_⟩
  rw [hsatisfies.follows_row hrow]
  intro hholds
  have hnext : (shuffled 0).nextPc = (shuffled 0).pc + 1 := hholds.sequential (by decide +kernel)
  exact absurd hnext (by decide +kernel)

/-- The condition tells this assignment apart. -/
theorem control_follows_shuffled :
    (∀ i, InstructionRow shuffledAir shuffled i → Follows shuffledAir shuffled i) ↔
      ∀ i, InstructionRow shuffledAir shuffled i → HoldsNextPc shuffledAir (shuffled i) :=
  control_follows_iff shuffled_light.satisfies

end BudAir

end Budlum.BudZero
