import Budlum.BudZero.Isa
import Budlum.BudZero.Poseidon
import Budlum.Lib.FieldBits

/-!
# The columns of the trace matrix

A row of the matrix that `bud-proof` proves over: the columns the constraints read, each a
field element, and the expressions over one row that the constraints share. A column
starts at 0, as the prover's matrix does.

A family of columns (bits, limbs, lanes) is a function on the index; the constraints read
it below its width only.
-/

namespace Budlum.BudZero

/-- The columns of a table of accesses: the registers and the memory have one each. -/
structure EventCols where
  clk : Goldilocks := 0
  /-- The register, or the address. -/
  idx : Goldilocks := 0
  val : Goldilocks := 0
  isWrite : Goldilocks := 0
  active : Goldilocks := 0
  /-- Whether the next row of the table is about the same register or address. -/
  same : Goldilocks := 0
  isInit : Goldilocks := 0
  initAcc : Goldilocks := 0
deriving DecidableEq

structure Row where
  clk : Goldilocks := 0
  pc : Goldilocks := 0
  opcode : Goldilocks := 0
  rdIdx : Goldilocks := 0
  rs1Idx : Goldilocks := 0
  rs2Idx : Goldilocks := 0
  rs1Val : Goldilocks := 0
  rs2Val : Goldilocks := 0
  rdValNew : Goldilocks := 0
  nextPc : Goldilocks := 0
  imm : Goldilocks := 0
  rawInst : Goldilocks := 0
  /-- The selectors, one for each opcode. -/
  sel : Opcode → Goldilocks := fun _ => 0
  cpuActive : Goldilocks := 0
  stackPtr : Goldilocks := 0
  gasUsed : Goldilocks := 0
  jnzCond : Goldilocks := 0
  jnzCondInv : Goldilocks := 0
  divInv : Goldilocks := 0
  divZero : Goldilocks := 0
  invZero : Goldilocks := 0
  eqDiffInv : Goldilocks := 0
  assertInv : Goldilocks := 0
  rdIdxInv : Goldilocks := 0
  rs1IdxInv : Goldilocks := 0
  reg : EventCols := {}
  regSubClk : Goldilocks := 0
  regSameInv : Goldilocks := 0
  mem : EventCols := {}
  cmpRs1 : ℕ → Goldilocks := fun _ => 0
  cmpRs2 : ℕ → Goldilocks := fun _ => 0
  cmpEq : ℕ → Goldilocks := fun _ => 0
  cmpLtRaw : Goldilocks := 0
  cmpRs1HiInv : Goldilocks := 0
  cmpRs2HiInv : Goldilocks := 0
  /-- The lanes at the entry of each round. -/
  poseidonState : ℕ → ℕ → Goldilocks := fun _ _ => 0
  poseidonX2 : ℕ → ℕ → Goldilocks := fun _ _ => 0
  poseidonX4 : ℕ → ℕ → Goldilocks := fun _ _ => 0
  merkleKey : Goldilocks := 0
  merkleBit : Goldilocks := 0
  merkleCurrent : Goldilocks := 0
  merkleSibling : Goldilocks := 0
  merkleRound : Goldilocks := 0
  merkleIsExpand : Goldilocks := 0
  merkleX2 : ℕ → Goldilocks := fun _ => 0
  merkleX4 : ℕ → Goldilocks := fun _ => 0
  merkleDiffInv : Goldilocks := 0
  merkleKeyRem : Goldilocks := 0
  inferenceIsExpand : Goldilocks := 0
  inferenceModelCommit : Goldilocks := 0
  inferenceInputCommit : Goldilocks := 0
  inferenceOutputCommit : Goldilocks := 0
  initRoot : ℕ → Goldilocks := fun _ => 0
  finalRoot : ℕ → Goldilocks := fun _ => 0
  stateWrites : ℕ → Goldilocks := fun _ => 0
  eventDigest : ℕ → Goldilocks := fun _ => 0
  traceLenCtr : Goldilocks := 0
  gasLimit : Goldilocks := 0
  exitCode : Goldilocks := 0
  chainId : Goldilocks := 0
  syscallIs1 : Goldilocks := 0
  syscallIs2 : Goldilocks := 0
  syscallIs3 : Goldilocks := 0
  syscallIs6 : Goldilocks := 0

/-- What `assert_bool` asks to vanish. -/
def isBool (x : Goldilocks) : Goldilocks := x * (x - 1)

lemma isBool_eq_zero {x : Goldilocks} : isBool x = 0 ↔ x = 0 ∨ x = 1 := by
  simp [isBool, sub_eq_zero]

/-- A number in base `2^32`, from two public values. -/
def limbs (pub : ℕ → Goldilocks) (i : ℕ) : Goldilocks := pub i + pub (i + 1) * 2 ^ 32

namespace Row

variable (row : Row)

def anyOf (ops : List Opcode) : Goldilocks := (ops.map row.sel).sum

/-- `is_real_op`: every selector but the one of `Halt`. -/
def isRealOp : Goldilocks := row.anyOf (Opcode.all.filter (· ≠ .halt))

def isCpu : Goldilocks := row.isRealOp + row.sel .halt

def isCmp : Goldilocks := row.anyOf [.lt, .gt, .lte, .gte]

def isCmpOrBw : Goldilocks := row.isCmp + row.sel .and

def eqNeqZ : Goldilocks := (row.rs1Val - row.rs2Val) * row.eqDiffInv

/-- `rs1_idx_z`: 1 where the row names a register other than 0. -/
def rs1IdxZ : Goldilocks := row.rs1Idx * row.rs1IdxInv

def rdIdxZ : Goldilocks := row.rdIdx * row.rdIdxInv

def jnzZ : Goldilocks := row.rs1Val * row.jnzCondInv

def assertZ : Goldilocks := row.rs1Val * row.assertInv

/-- The product that says whether the operand of `Not` is not zero. -/
def notZ : Goldilocks := row.rs1Val * row.invZero

/-! ### Merkle paths -/

/-- `on_original`: a `VerifyMerkle` row that is no expansion row. -/
def onOriginal : Goldilocks := row.sel .verifyMerkle * (1 - row.merkleIsExpand)

/-- The two inputs of a path round, with their round constants. -/
def merkleInput : ℕ → Goldilocks
  | 0 => row.merkleCurrent * (1 - row.merkleBit) + row.merkleSibling * row.merkleBit
      + 0xdd5743e7f2a5a5d9
  | _ => row.merkleSibling * (1 - row.merkleBit) + row.merkleCurrent * row.merkleBit
      + 0xcb3a864e58ada44b

/-- The S-box of an input of a path round, from its witnessed powers. -/
def merkleSbox (i : ℕ) : Goldilocks := row.merkleX4 i * row.merkleX2 i * row.merkleInput i

/-- `poseidon_output` of a path round. -/
def merkleOutput : Goldilocks := row.merkleSbox 0 * 7 + row.merkleSbox 1 * 1

/-- The product that says whether the path's result differs from the root. -/
def merkleProd : Goldilocks := (row.merkleCurrent - row.rs1Val) * row.merkleDiffInv

/-! ### Gas -/

def gasCost : Goldilocks :=
  row.sel .load * 3 + row.sel .store * 3 + row.sel .sRead * 8 + row.sel .sWrite * 12
    + row.sel .poseidon * 10 + row.sel .verifyMerkle * (1 - row.merkleIsExpand) * 10
    + row.sel .privacyCommit * 10 + row.sel .nullifierCheck * 10
    + row.sel .sumConservation * 10 + row.sel .call * 2 + row.sel .ret * 2
    + row.sel .push * 2 + row.sel .pop * 2 + row.sel .syscall * 5
    + (1 - row.sel .load - row.sel .store - row.sel .sRead - row.sel .sWrite
      - row.sel .poseidon - row.sel .verifyMerkle - row.sel .privacyCommit
      - row.sel .nullifierCheck - row.sel .sumConservation - row.sel .call - row.sel .ret
      - row.sel .push - row.sel .pop - row.sel .syscall - row.sel .halt) * 1

/-! ### The event digest -/

def knownSyscall : Goldilocks :=
  row.syscallIs1 + row.syscallIs2 + row.syscallIs3 + row.syscallIs6

/-! ### Memory accesses -/

/-- `is_real_mem_op`: a load without a base register is no access. -/
def isRealMemOp : Goldilocks := (row.sel .load + row.sel .store) * row.rs1IdxZ

def isStackOp : Goldilocks := row.sel .push + row.sel .pop + row.sel .call + row.sel .ret

def isStorageOp : Goldilocks := row.sel .sRead + row.sel .sWrite

def isAnyMemOp : Goldilocks :=
  row.isRealMemOp + row.isStackOp + row.isStorageOp + (row.merkleIsExpand + row.onOriginal)

def stackAddr : Goldilocks :=
  2 ^ 60 + (row.sel .push + row.sel .call) * row.stackPtr
    + (row.sel .pop + row.sel .ret) * (row.stackPtr - 1)

def storageAddr : Goldilocks := 2 * 2 ^ 60 + row.imm

def merkleSiblingAddr : Goldilocks := row.imm + 8 + 8 * row.merkleRound

/-- `final_mem_addr`. -/
def memAddr : Goldilocks :=
  row.isRealMemOp * (row.rs1Val + row.imm) + row.isStackOp * row.stackAddr
    + row.isStorageOp * row.storageAddr + row.merkleIsExpand * row.merkleSiblingAddr
    + row.onOriginal * row.imm

/-- `is_write`, of the memory access. -/
def memWrites : Goldilocks :=
  row.sel .store + row.sel .push + row.sel .call + row.sel .sWrite

/-- `cpu_mem_val`. -/
def memVal : Goldilocks :=
  row.sel .load * row.rdValNew + row.sel .store * row.rs2Val + row.sel .push * row.rs1Val
    + row.sel .pop * row.rdValNew + row.sel .call * (row.pc + 1) + row.sel .ret * row.nextPc
    + row.sel .sRead * row.rdValNew + row.sel .sWrite * row.rs1Val
    + row.merkleIsExpand * row.merkleSibling + row.onOriginal * row.merkleKey

/-! ### The permutation -/

def poseidonGate : Goldilocks := row.anyOf [.poseidon, .privacyCommit, .nullifierCheck, .sWrite]

def poseidonSboxLanes (round : ℕ) : ℕ := if isFullRound round then 8 else 1

def poseidonLane (round i : ℕ) : Goldilocks :=
  row.poseidonState round i + (((poseidonRcFull.getD round []).getD i 0 : ℕ) : Goldilocks)

/-- `sbox_out`. -/
def poseidonSboxOut (round i : ℕ) : Goldilocks :=
  if i < poseidonSboxLanes round then
    row.poseidonX4 round i * row.poseidonX2 round i * row.poseidonLane round i
  else row.poseidonLane round i

/-- One lane of the product with the matrix after a round. -/
def poseidonMdsLane (round i : ℕ) : Goldilocks :=
  ((List.range 8).map fun j =>
    row.poseidonSboxOut round j * (((poseidonMds.getD i []).getD j 0 : ℕ) : Goldilocks)).sum

def poseidonOut : Goldilocks := row.poseidonMdsLane 29 0

/-- `acc_lane`: a limb pair of the running digest of the storage writes. -/
def stateWritesLane (k : ℕ) : Goldilocks :=
  row.stateWrites (2 * k) + row.stateWrites (2 * k + 1) * 2 ^ 32

/-- `expected_s0` to `expected_s5`, and 0 in the last two lanes. -/
def poseidonEntry : ℕ → Goldilocks
  | 0 => row.sel .poseidon * row.rs1Val + row.sel .privacyCommit * row.rs1Val
      + row.sel .nullifierCheck * row.rs2Val + row.sel .sWrite * row.imm
  | 1 => row.sel .poseidon * row.rs2Val + row.sel .privacyCommit * row.rs2Val
      + row.sel .nullifierCheck * (domainNullifier : Goldilocks) + row.sel .sWrite * row.rs1Val
  | 2 => row.sel .privacyCommit * row.imm + row.sel .sWrite * row.stateWritesLane 0
  | 3 => row.sel .sWrite * row.stateWritesLane 1
  | 4 => row.sel .sWrite * row.stateWritesLane 2
  | 5 => row.sel .sWrite * row.stateWritesLane 3
  | _ => 0

/-- The product that says whether the nullifier differs from the one derived. -/
def nullifierZ : Goldilocks := (row.poseidonOut - row.rs1Val) * row.eqDiffInv

end Row

end Budlum.BudZero
