import Budlum.BudZero.Columns
import Budlum.Lib.LogUp

/-!
# The constraints of the execution proof

`BudAir::eval`: what a trace matrix must satisfy to be proved. Constraints are grouped by
what they are about and by where they hold: on every row, on the first or last row, or on
a row and its successor (a transition, which the last row has none of). The columns of the
expansion of an inference are compared with the next row on every row, where the last
row's next is the first.

The three lookups are read as balances of multiplicities over the transition rows, the
rows on which the source accumulates them.
-/

namespace Budlum.BudZero

namespace Air

open FieldBits

/-! ## The instruction -/

/-- One selector is set, and it is the one of the opcode. -/
structure Selectors (cur : Row) : Prop where
  bool : ∀ o ∈ Opcode.all, isBool (cur.sel o) = 0
  exactlyOne : cur.isCpu - 1 = 0
  opcode : (Opcode.all.map fun o => cur.sel o * (cur.opcode - (o.code : Goldilocks))).sum = 0

/-- The clock counts the rows and the program counter follows `NEXT_PC`. -/
@[mk_iff] structure ClockTransition (cur nxt : Row) : Prop where
  clk : cur.isCpu * (nxt.clk - cur.clk - 1) = 0
  pc : cur.isCpu * (nxt.pc - cur.nextPc) = 0

instance (cur nxt : Row) : Decidable (ClockTransition cur nxt) :=
  decidable_of_iff _ (clockTransition_iff cur nxt).symm

@[mk_iff] structure Activity (cur : Row) : Prop where
  bool : isBool cur.cpuActive = 0
  inactive : (1 - cur.cpuActive) * (cur.sel .halt - 1) = 0

instance (cur : Row) : Decidable (Activity cur) :=
  decidable_of_iff _ (activity_iff cur).symm

@[mk_iff] structure ActivityTransition (cur nxt : Row) : Prop where
  stays : nxt.cpuActive * (1 - cur.cpuActive) = 0
  afterHalt : cur.cpuActive * cur.sel .halt * nxt.cpuActive = 0
  halted : cur.sel .halt * (nxt.sel .halt - 1) = 0
  haltedPc : cur.sel .halt * (nxt.pc - cur.pc) = 0
  endsInHalt : cur.cpuActive * (1 - nxt.cpuActive) * (1 - cur.sel .halt) = 0

instance (cur nxt : Row) : Decidable (ActivityTransition cur nxt) :=
  decidable_of_iff _ (activityTransition_iff cur nxt).symm

@[mk_iff] structure Arithmetic (cur : Row) : Prop where
  add : cur.sel .add * (cur.rdValNew - (cur.rs1Val + cur.rs2Val)) = 0
  sub : cur.sel .sub * (cur.rdValNew - (cur.rs1Val - cur.rs2Val)) = 0
  mul : cur.sel .mul * (cur.rdValNew - cur.rs1Val * cur.rs2Val) = 0
  divBool : cur.sel .div * isBool cur.divZero = 0
  divZero : cur.sel .div * (cur.rs2Val * cur.divZero) = 0
  divInv : cur.sel .div * (cur.rs2Val * cur.divInv + cur.divZero - 1) = 0
  div : cur.sel .div * (cur.rdValNew * cur.rs2Val - cur.rs1Val * (1 - cur.divZero)) = 0
  divByZero : cur.sel .div * cur.divZero * cur.rdValNew = 0
  invBool : cur.sel .inv * isBool cur.invZero = 0
  invZero : cur.sel .inv * (cur.rs1Val * cur.invZero) = 0
  inv : cur.sel .inv * (cur.rs1Val * cur.rdValNew + cur.invZero - 1) = 0
  invOfZero : cur.sel .inv * cur.invZero * cur.rdValNew = 0
  eqBool : (cur.sel .eq + cur.sel .neq) * isBool cur.eqNeqZ = 0
  eqDiff : (cur.sel .eq + cur.sel .neq) * ((cur.rs1Val - cur.rs2Val) * (1 - cur.eqNeqZ)) = 0
  eq : cur.sel .eq * (cur.rdValNew - (1 - cur.eqNeqZ)) = 0
  neq : cur.sel .neq * (cur.rdValNew - cur.eqNeqZ) = 0
  notBool : cur.sel .not * isBool cur.notZ = 0
  notZero : cur.sel .not * (cur.rs1Val * (1 - cur.notZ)) = 0
  not : cur.sel .not * (cur.rdValNew - (1 - cur.notZ)) = 0

/-- The bits of an operand and that they spell a number below the prime: a high half of
ones leaves no low half. -/
structure OperandBits (cur : Row) (bits : ℕ → Goldilocks) (hiInv val : Goldilocks) :
    Prop where
  bool : ∀ i < 64, cur.isCmpOrBw * isBool (bits i) = 0
  hiBool : cur.isCmpOrBw * isBool ((bitSum bits 32 32 - 0xFFFFFFFF) * hiInv) = 0
  hi : cur.isCmpOrBw * ((bitSum bits 32 32 - 0xFFFFFFFF)
    * (1 - (bitSum bits 32 32 - 0xFFFFFFFF) * hiInv)) = 0
  lo : cur.isCmpOrBw * ((1 - (bitSum bits 32 32 - 0xFFFFFFFF) * hiInv) * bitSum bits 0 32) = 0
  sum : cur.isCmpOrBw * (bitSum bits 0 64 - val) = 0

/-- `cmp_lt_sum`: the first operand has the smaller bit where the two first differ. -/
def cmpLtSum (cur : Row) : Goldilocks :=
  (1 - cur.cmpRs1 63) * cur.cmpRs2 63
    + ∑ i ∈ Finset.range 63, cur.cmpEq (i + 1) * (1 - cur.cmpRs1 i) * cur.cmpRs2 i

structure Comparisons (cur : Row) : Prop where
  rs1 : OperandBits cur cur.cmpRs1 cur.cmpRs1HiInv cur.rs1Val
  rs2 : OperandBits cur cur.cmpRs2 cur.cmpRs2HiInv cur.rs2Val
  eqBool : ∀ i < 64, cur.isCmp * isBool (cur.cmpEq i) = 0
  and : cur.sel .and
    * (cur.rdValNew - bitSum (fun i => cur.cmpRs1 i * cur.cmpRs2 i) 0 64) = 0
  eqTop : cur.isCmp * (cur.cmpEq 63 - agree (cur.cmpRs1 63) (cur.cmpRs2 63)) = 0
  eqStep : ∀ i < 63,
    cur.isCmp * (cur.cmpEq i - cur.cmpEq (i + 1) * agree (cur.cmpRs1 i) (cur.cmpRs2 i)) = 0
  ltRaw : cur.isCmp * (cur.cmpLtRaw - cmpLtSum cur) = 0
  lt : cur.sel .lt * (cur.rdValNew - cur.cmpLtRaw) = 0
  gt : cur.sel .gt * (cur.rdValNew - (1 - cur.cmpEq 0 - cur.cmpLtRaw)) = 0
  lte : cur.sel .lte * (cur.rdValNew - (cur.cmpEq 0 + cur.cmpLtRaw)) = 0
  gte : cur.sel .gte * (cur.rdValNew - (1 - cur.cmpLtRaw)) = 0

/-- The witnesses that say whether the row names register 0. -/
@[mk_iff] structure Indices (cur : Row) : Prop where
  rs1Bool : isBool cur.rs1IdxZ = 0
  rs1 : cur.rs1Idx * (1 - cur.rs1IdxZ) = 0
  rdBool : isBool cur.rdIdxZ = 0
  rd : cur.rdIdx * (1 - cur.rdIdxZ) = 0
  loadImm : cur.sel .load * (1 - cur.rs1IdxZ) * (cur.rdValNew - cur.imm) = 0

instance (cur : Row) : Decidable (Indices cur) :=
  decidable_of_iff _ (indices_iff cur).symm

@[mk_iff] structure Control (cur : Row) : Prop where
  jmp : (cur.sel .jmp + cur.sel .call) * (cur.nextPc - (cur.pc + cur.imm)) = 0
  jnzBool : cur.sel .jnz * isBool cur.jnzZ = 0
  jnzZero : cur.sel .jnz * (cur.rs1Val * (1 - cur.jnzZ)) = 0
  jnzCond : cur.sel .jnz * (cur.jnzCond - cur.jnzZ) = 0
  jnz : cur.sel .jnz * (cur.nextPc
    - (cur.jnzCond * (cur.pc + cur.imm) + (1 - cur.jnzCond) * (cur.pc + 1))) = 0
  assertBool : cur.sel .assert * isBool cur.assertZ = 0
  assertZero : cur.sel .assert * (cur.rs1Val * (1 - cur.assertZ)) = 0
  assert : cur.sel .assert * (cur.assertZ - 1) = 0
  push : cur.sel .push * (cur.nextPc - (cur.pc + 1)) = 0
  pop : cur.sel .pop * (cur.nextPc - (cur.pc + 1)) = 0
  call : cur.sel .call * (cur.nextPc - (cur.pc + cur.imm)) = 0

instance (cur : Row) : Decidable (Control cur) :=
  decidable_of_iff _ (control_iff cur).symm

@[mk_iff] structure StackTransition (cur nxt : Row) : Prop where
  pointer : cur.sel .push * (nxt.stackPtr - cur.stackPtr - 1)
    + cur.sel .call * (nxt.stackPtr - cur.stackPtr - 1)
    + cur.sel .pop * (nxt.stackPtr - cur.stackPtr + 1)
    + cur.sel .ret * (nxt.stackPtr - cur.stackPtr + 1)
    + (1 - cur.sel .push - cur.sel .pop - cur.sel .call - cur.sel .ret)
      * (nxt.stackPtr - cur.stackPtr) = 0

instance (cur nxt : Row) : Decidable (StackTransition cur nxt) :=
  decidable_of_iff _ (stackTransition_iff cur nxt).symm

/-! ## Merkle paths -/

@[mk_iff] structure Merkle (cur : Row) : Prop where
  opcode : cur.sel .verifyMerkle * (cur.opcode - 0x1E) = 0
  rdBool : cur.sel .verifyMerkle * isBool cur.rdValNew = 0
  expandBool : isBool cur.merkleIsExpand = 0
  bitBool : cur.merkleIsExpand * isBool cur.merkleBit = 0
  x2 : ∀ i < 2, cur.merkleIsExpand
    * (cur.merkleX2 i - cur.merkleInput i * cur.merkleInput i) = 0
  x4 : ∀ i < 2, cur.merkleIsExpand * (cur.merkleX4 i - cur.merkleX2 i * cur.merkleX2 i) = 0
  prodBool : cur.onOriginal * (cur.merkleProd * (1 - cur.merkleProd)) = 0
  diff : cur.onOriginal * ((cur.merkleCurrent - cur.rs1Val) * (1 - cur.merkleProd)) = 0
  result : cur.onOriginal * (cur.rdValNew - (1 - cur.merkleProd)) = 0

instance (cur : Row) : Decidable (Merkle cur) :=
  decidable_of_iff _ (merkle_iff cur).symm

@[mk_iff] structure MerkleTransition (cur nxt : Row) : Prop where
  keyRem : cur.cpuActive * (cur.merkleIsExpand * nxt.merkleIsExpand
    * (cur.merkleKeyRem - 2 * nxt.merkleKeyRem - cur.merkleBit)) = 0
  keyRemLast : cur.cpuActive * (cur.merkleIsExpand * (1 - nxt.merkleIsExpand)
    * (cur.merkleKeyRem - cur.merkleBit)) = 0
  keyRemStart : cur.onOriginal * nxt.merkleIsExpand * (nxt.merkleKeyRem - nxt.merkleKey) = 0
  key : cur.cpuActive * (cur.merkleIsExpand * nxt.merkleIsExpand
    * (cur.merkleKey - nxt.merkleKey)) = 0
  keyStart : cur.cpuActive * (cur.sel .verifyMerkle * nxt.merkleIsExpand
    * (cur.merkleKey - nxt.merkleKey)) = 0
  round : cur.cpuActive * (cur.merkleIsExpand * nxt.merkleIsExpand
    * (nxt.merkleRound - cur.merkleRound - 1)) = 0
  current : cur.merkleIsExpand * nxt.merkleIsExpand
    * (nxt.merkleCurrent - cur.merkleOutput) = 0
  currentStart : cur.onOriginal * nxt.merkleIsExpand * (nxt.merkleCurrent - cur.rs2Val) = 0
  roundStart : cur.onOriginal * nxt.merkleIsExpand * nxt.merkleRound = 0

instance (cur nxt : Row) : Decidable (MerkleTransition cur nxt) :=
  decidable_of_iff _ (merkleTransition_iff cur nxt).symm

/-! ## Gas, digests and public values -/

@[mk_iff] structure GasTransition (cur nxt : Row) : Prop where
  gas : nxt.gasUsed - cur.gasUsed - cur.gasCost = 0

instance (cur nxt : Row) : Decidable (GasTransition cur nxt) :=
  decidable_of_iff _ (gasTransition_iff cur nxt).symm

@[mk_iff] structure FirstRow (pub : ℕ → Goldilocks) (cur : Row) : Prop where
  active : cur.cpuActive - 1 = 0
  stackPtr : cur.stackPtr = 0
  gas : cur.gasUsed = 0
  initRoot : ∀ j < 8, cur.initRoot j - pub (10 + j) = 0
  stateWrites : ∀ j < 8, cur.stateWrites j = 0
  gasLimit : cur.gasLimit - limbs pub 32 = 0
  event : cur.eventDigest 0 - cur.sel .log * cur.rs1Val
    - cur.syscallIs6 * (0x00A100A1 + cur.rs1Val) = 0
  chainId : cur.chainId - pub 0 = 0
  clk : cur.clk = 0
  pc : cur.pc = 0

instance (pub : ℕ → Goldilocks) (cur : Row) : Decidable (FirstRow pub cur) :=
  decidable_of_iff _ (firstRow_iff pub cur).symm

@[mk_iff] structure LastRow (pub : ℕ → Goldilocks) (cur : Row) : Prop where
  gas : cur.gasUsed - limbs pub 34 = 0
  memInit : cur.mem.initAcc - limbs pub 10 = 0
  regInit : cur.reg.initAcc - limbs pub 12 = 0

instance (pub : ℕ → Goldilocks) (cur : Row) : Decidable (LastRow pub cur) :=
  decidable_of_iff _ (lastRow_iff pub cur).symm

@[mk_iff] structure HaltRow (pub : ℕ → Goldilocks) (cur : Row) : Prop where
  finalRoot : ∀ j < 8, cur.sel .halt * cur.cpuActive * (cur.finalRoot j - pub (18 + j)) = 0
  stateWrites : ∀ j < 8,
    cur.sel .halt * cur.cpuActive * (cur.stateWrites j - pub (48 + j)) = 0
  traceLen : cur.sel .halt * cur.cpuActive * (cur.traceLenCtr - limbs pub 38) = 0
  eventDigest : ∀ j < 8,
    cur.sel .halt * cur.cpuActive * (cur.eventDigest j - pub (40 + j)) = 0
  exitCode : cur.sel .halt * cur.cpuActive * (cur.exitCode - limbs pub 36) = 0

instance (pub : ℕ → Goldilocks) (cur : Row) : Decidable (HaltRow pub cur) :=
  decidable_of_iff _ (haltRow_iff pub cur).symm

@[mk_iff] structure DigestTransition (cur nxt : Row) : Prop where
  stateWrites : ∀ j < 8,
    (1 - cur.sel .sWrite) * (nxt.stateWrites j - cur.stateWrites j) = 0
  event : cur.cpuActive * (nxt.eventDigest 0 - cur.eventDigest 0 - nxt.sel .log * nxt.rs1Val
    - nxt.syscallIs6 * (0x00A100A1 + nxt.rs1Val)) = 0
  events : ∀ j < 7, cur.cpuActive * (nxt.eventDigest (j + 1) - cur.eventDigest (j + 1)) = 0

instance (cur nxt : Row) : Decidable (DigestTransition cur nxt) :=
  decidable_of_iff _ (digestTransition_iff cur nxt).symm

structure SyscallFlag (cur : Row) (flag number : Goldilocks) : Prop where
  bool : cur.sel .syscall * isBool (1 - flag) = 0
  off : cur.sel .syscall * ((cur.imm - number) * (1 - (1 - flag))) = 0
  off' : cur.sel .syscall * (flag * (cur.imm - number)) = 0
  idle : (1 - cur.sel .syscall) * flag = 0

structure Syscalls (pub : ℕ → Goldilocks) (cur : Row) : Prop where
  is6 : SyscallFlag cur cur.syscallIs6 6
  is1 : SyscallFlag cur cur.syscallIs1 1
  is2 : SyscallFlag cur cur.syscallIs2 2
  is3 : SyscallFlag cur cur.syscallIs3 3
  sender : cur.sel .syscall * (cur.syscallIs1 * (cur.rdValNew - limbs pub 26)) = 0
  blockHeight : cur.sel .syscall * (cur.syscallIs2 * (cur.rdValNew - limbs pub 30)) = 0
  nonce : cur.sel .syscall * (cur.syscallIs3 * (cur.rdValNew - limbs pub 28)) = 0
  unknown : cur.sel .syscall * ((1 - cur.knownSyscall) * cur.rdValNew) = 0
  inference : cur.sel .syscall
    * (cur.syscallIs6 * (cur.rdValNew - limbs pub 30 - cur.rs1Val)) = 0

/-! ## The tables of accesses -/

@[mk_iff] structure TableRow (cur : EventCols) : Prop where
  same : isBool cur.same = 0
  isInit : isBool cur.isInit = 0
  initReads : cur.isInit * cur.isWrite = 0

instance (cur : EventCols) : Decidable (TableRow cur) :=
  decidable_of_iff _ (tableRow_iff cur).symm

@[mk_iff] structure TableFirst (gamma : Goldilocks) (cur : EventCols) : Prop where
  fresh : cur.active * (1 - cur.isWrite) * (1 - cur.isInit) * cur.val = 0
  initAcc : cur.initAcc - cur.isInit * (cur.idx * gamma + cur.val) = 0

instance (gamma : Goldilocks) (cur : EventCols) : Decidable (TableFirst gamma cur) :=
  decidable_of_iff _ (tableFirst_iff gamma cur).symm

@[mk_iff] structure TableTransition (beta gamma : Goldilocks) (cur nxt : EventCols) : Prop where
  carry : cur.active * nxt.active * cur.same * (1 - nxt.isWrite) * (nxt.val - cur.val) = 0
  sameIdx : cur.active * nxt.active * cur.same * (nxt.idx - cur.idx) = 0
  fresh : cur.active * nxt.active * (1 - cur.same) * (1 - nxt.isWrite) * (1 - nxt.isInit)
    * nxt.val = 0
  initAcc : nxt.initAcc - (cur.initAcc
    + nxt.isInit * (cur.initAcc * beta + nxt.idx * gamma + nxt.val - cur.initAcc)) = 0

instance (beta gamma : Goldilocks) (cur nxt : EventCols) :
    Decidable (TableTransition beta gamma cur nxt) :=
  decidable_of_iff _ (tableTransition_iff beta gamma cur nxt).symm

def regInitBeta : Goldilocks := 0xD1B54A32D192ED03

def regInitGamma : Goldilocks := 0xA24BAED4963EE407

def memInitBeta : Goldilocks := 0x9E3779B97F4A7C15

def memInitGamma : Goldilocks := 0xC2B2AE3D27D4EB4F

def regDiffZ (cur nxt : Row) : Goldilocks := (nxt.reg.idx - cur.reg.idx) * cur.regSameInv

/-- What the register table has and the memory table has not: the flag of a same register is
determined. -/
@[mk_iff] structure RegisterTransition (cur nxt : Row) : Prop where
  bool : cur.reg.active * nxt.reg.active * isBool (regDiffZ cur nxt) = 0
  diff : cur.reg.active * nxt.reg.active
    * ((nxt.reg.idx - cur.reg.idx) * (1 - regDiffZ cur nxt)) = 0
  same : cur.reg.active * nxt.reg.active * (cur.reg.same - (1 - regDiffZ cur nxt)) = 0

instance (cur nxt : Row) : Decidable (RegisterTransition cur nxt) :=
  decidable_of_iff _ (registerTransition_iff cur nxt).symm

/-! ## Inference, hashes and conservation -/

structure Inference (cur nxt : Row) : Prop where
  opcode : cur.sel .verifyInference * (cur.opcode - 0x1F) = 0
  rd : cur.sel .verifyInference * cur.rdValNew = 0
  expandBool : isBool cur.inferenceIsExpand = 0
  expand : cur.inferenceIsExpand * (1 - cur.sel .verifyInference) = 0
  model : cur.inferenceIsExpand * nxt.inferenceIsExpand
    * (cur.inferenceModelCommit - nxt.inferenceModelCommit) = 0
  input : cur.inferenceIsExpand * nxt.inferenceIsExpand
    * (cur.inferenceInputCommit - nxt.inferenceInputCommit) = 0
  output : cur.inferenceIsExpand * nxt.inferenceIsExpand
    * (cur.inferenceOutputCommit - nxt.inferenceOutputCommit) = 0

structure Poseidon (cur : Row) : Prop where
  poseidonOpcode : cur.sel .poseidon * (cur.opcode - 0x19) = 0
  commitOpcode : cur.sel .privacyCommit * (cur.opcode - 0x20) = 0
  nullifierOpcode : cur.sel .nullifierCheck * (cur.opcode - 0x21) = 0
  sWriteOpcode : cur.sel .sWrite * (cur.opcode - 0x1C) = 0
  entry : ∀ i < 8, cur.poseidonGate * (cur.poseidonState 0 i - cur.poseidonEntry i) = 0
  x2 : ∀ r < 30, ∀ i < Row.poseidonSboxLanes r, cur.poseidonGate
    * (cur.poseidonX2 r i - cur.poseidonLane r i * cur.poseidonLane r i) = 0
  x4 : ∀ r < 30, ∀ i < Row.poseidonSboxLanes r, cur.poseidonGate
    * (cur.poseidonX4 r i - cur.poseidonX2 r i * cur.poseidonX2 r i) = 0
  round : ∀ r < 29, ∀ i < 8,
    cur.poseidonGate * (cur.poseidonState (r + 1) i - cur.poseidonMdsLane r i) = 0
  hash : (cur.sel .poseidon + cur.sel .privacyCommit) * (cur.rdValNew - cur.poseidonOut) = 0
  nullifierBool : cur.sel .nullifierCheck * isBool cur.nullifierZ = 0
  nullifierDiff : cur.sel .nullifierCheck
    * ((cur.poseidonOut - cur.rs1Val) * (1 - cur.nullifierZ)) = 0
  nullifier : cur.sel .nullifierCheck * (cur.rdValNew - (1 - cur.nullifierZ)) = 0
  nullifierRd : cur.sel .nullifierCheck * isBool cur.rdValNew = 0

structure StateWritesTransition (cur nxt : Row) : Prop where
  absorb : ∀ k < 4,
    cur.sel .sWrite * (nxt.stateWritesLane k - cur.poseidonMdsLane 29 k) = 0

structure SumConservation (cur : Row) : Prop where
  opcode : cur.sel .sumConservation * (cur.opcode - 0x22) = 0
  bool : cur.sel .sumConservation * isBool cur.eqNeqZ = 0
  diff : cur.sel .sumConservation * ((cur.rs1Val - cur.rs2Val) * (1 - cur.eqNeqZ)) = 0
  result : cur.sel .sumConservation * (cur.rdValNew - (1 - cur.eqNeqZ)) = 0
  rdBool : cur.sel .sumConservation * isBool cur.rdValNew = 0

/-! ## Scopes -/

structure EveryRow (pub : ℕ → Goldilocks) (cur : Row) : Prop where
  selectors : Selectors cur
  activity : Activity cur
  arithmetic : Arithmetic cur
  comparisons : Comparisons cur
  indices : Indices cur
  control : Control cur
  merkle : Merkle cur
  halt : HaltRow pub cur
  syscalls : Syscalls pub cur
  registers : TableRow cur.reg
  memory : TableRow cur.mem
  poseidon : Poseidon cur
  sumConservation : SumConservation cur

structure Transition (cur nxt : Row) : Prop where
  clock : ClockTransition cur nxt
  activity : ActivityTransition cur nxt
  stack : StackTransition cur nxt
  merkle : MerkleTransition cur nxt
  gas : GasTransition cur nxt
  digests : DigestTransition cur nxt
  registers : TableTransition regInitBeta regInitGamma cur.reg nxt.reg
  registerSame : RegisterTransition cur nxt
  memory : TableTransition memInitBeta memInitGamma cur.mem nxt.mem
  stateWrites : StateWritesTransition cur nxt

/-! ## Lookups -/

/-- A tuple of the register or the memory lookup. -/
structure Access where
  clk : Goldilocks
  idx : Goldilocks
  val : Goldilocks
  isWrite : Goldilocks
deriving DecidableEq

/-- A tuple of the program lookup. -/
structure ProgramEntry where
  pc : Goldilocks
  inst : Goldilocks
  opcode : Goldilocks
  rd : Goldilocks
  rs1 : Goldilocks
  rs2 : Goldilocks
  imm : Goldilocks
deriving DecidableEq

end Air

namespace Row

variable (row : Row)

def isRegActive : Goldilocks := row.isRealOp * (1 - row.merkleIsExpand)

def progActive : Goldilocks := row.cpuActive * (1 - row.merkleIsExpand)

/-- `c_rs1`. -/
def rs1Access : Air.Access := ⟨row.clk * 4 + 1, row.rs1Idx, row.rs1Val, 0⟩

/-- `c_rs2`. -/
def rs2Access : Air.Access := ⟨row.clk * 4 + 2, row.rs2Idx, row.rs2Val, 0⟩

/-- `c_rd`: register 0 is written 0. -/
def rdAccess : Air.Access := ⟨row.clk * 4 + 3, row.rdIdx, row.rdValNew * row.rdIdxZ, 1⟩

/-- `c_reg`. -/
def regAccess : Air.Access :=
  ⟨row.reg.clk * 4 + row.regSubClk, row.reg.idx, row.reg.val, row.reg.isWrite⟩

/-- `c_cpu_mem`. -/
def cpuMemAccess : Air.Access := ⟨row.clk, row.memAddr, row.memVal, row.memWrites⟩

/-- `c_mem`. -/
def memAccess : Air.Access := ⟨row.mem.clk, row.mem.idx, row.mem.val, row.mem.isWrite⟩

/-- `term_cpu_prog`. -/
def programEntry : Air.ProgramEntry :=
  ⟨row.pc, row.rawInst, row.opcode, row.rdIdx, row.rs1Idx, row.rs2Idx, row.imm⟩

end Row

structure BudAir where
  numSteps : ℕ
  program : List ℕ

namespace BudAir

open Air

variable (air : BudAir)

def degree : ℕ := max (3 * air.numSteps + 1).nextPowerOfTwo 16

def word (i : ℕ) : ℕ := air.program.getD i 0

/-- The decoded immediate; a word that does not decode has 0. -/
def wordImm (i : ℕ) : ℤ :=
  match Instruction.decodeAny (air.word i) with
  | .ok inst => inst.imm
  | .error _ => 0

/-- `preprocessed_trace`: the tuple of a row. -/
def preprocessed (i : ℕ) : ProgramEntry where
  pc := (i : Goldilocks)
  inst := (air.word i : Goldilocks)
  opcode := ((air.word i % 256 : ℕ) : Goldilocks)
  rd := (((air.word i >>> 8) % 32 : ℕ) : Goldilocks)
  rs1 := (((air.word i >>> 13) % 32 : ℕ) : Goldilocks)
  rs2 := (((air.word i >>> 18) % 32 : ℕ) : Goldilocks)
  imm := (air.wordImm i : Goldilocks)

/-- `preprocessed_trace`: whether the row holds a word of the program. -/
def preActive (i : ℕ) : Goldilocks := if i < air.program.length then 1 else 0

variable (rows : ℕ → Row)

/-- The rows on which the lookups accumulate: all but the last. -/
def lookupRows : List ℕ := List.range (air.degree - 1)

def registerDemand : List (Access × Goldilocks) :=
  air.lookupRows.flatMap fun i =>
    [((rows i).rs1Access, (rows i).isRegActive), ((rows i).rs2Access, (rows i).isRegActive),
     ((rows i).rdAccess, (rows i).isRegActive)]

def registerSupply : List (Access × Goldilocks) :=
  air.lookupRows.map fun i => ((rows i).regAccess, (rows i).reg.active)

def memoryDemand : List (Access × Goldilocks) :=
  air.lookupRows.map fun i => ((rows i).cpuMemAccess, (rows i).isAnyMemOp)

def memorySupply : List (Access × Goldilocks) :=
  air.lookupRows.map fun i => ((rows i).memAccess, (rows i).mem.active)

def programDemand : List (ProgramEntry × Goldilocks) :=
  air.lookupRows.map fun i => ((rows i).programEntry, (rows i).progActive)

def programSupply : List (ProgramEntry × Goldilocks) :=
  air.lookupRows.map fun i => (air.preprocessed i, air.preActive i)

/-- An assignment of the columns and the public values satisfies every constraint. The rows
of a matrix are the points of a subgroup whose order is a power of two, and the field has
none above `2^32`. -/
structure Satisfies (pub : ℕ → Goldilocks) : Prop where
  domain : air.degree ≤ 2 ^ 32
  every : ∀ i < air.degree, EveryRow pub (rows i)
  inference : ∀ i < air.degree, Inference (rows i) (rows ((i + 1) % air.degree))
  first : FirstRow pub (rows 0)
  firstRegister : TableFirst regInitGamma (rows 0).reg
  firstMemory : TableFirst memInitGamma (rows 0).mem
  transition : ∀ i, i + 1 < air.degree → Transition (rows i) (rows (i + 1))
  last : LastRow pub (rows (air.degree - 1))
  registers : LogUp.Balanced (air.registerDemand rows) (air.registerSupply rows)
  memory : LogUp.Balanced (air.memoryDemand rows) (air.memorySupply rows)
  program : LogUp.Balanced (air.programDemand rows) air.programSupply

end BudAir

end Budlum.BudZero
