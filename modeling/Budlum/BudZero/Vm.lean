import Budlum.BudZero.Isa
import Budlum.BudZero.Memory
import Budlum.BudZero.Poseidon
import Budlum.Lib.SortedMap

/-!
# The BudZero machine

The interpreter of `bud-vm`: 32 registers of which register 0 reads 0, a stack, a byte
memory, a storage, and a trace with a row for every executed instruction. A step decodes
the word at the program counter, takes the instruction's gas, performs it and records its
row; the Merkle and inference opcodes record further rows. A step that fails stops the
machine and leaves all else as it was, apart from the gas that was taken.

Words are natural numbers; they are `u64` values by the types of the source.
-/

namespace Budlum.BudZero

open Machine List Function

inductive VmError
  | outOfGas
  | assertionFailed
  | stackUnderflow
  | stackOverflow
  | invalidOpcode (text : String)
  | invalidPc
  | invalidMemoryAccess
deriving DecidableEq, Repr

structure Context where
  sender : ℕ
  nonce : ℕ
  blockHeight : ℕ
  initialStateRoot : Bytes

abbrev Registers : Type := Fin 32 → ℕ

structure Step where
  pc : ℕ
  nextPc : ℕ
  instruction : Instruction
  src1Idx : Fin 32
  src2Idx : Fin 32
  dstIdx : Fin 32
  src1Val : ℕ
  src2Val : ℕ
  dstVal : ℕ
  registers : Registers
  memoryAddr : Option ℕ := none
  memoryVal : Option ℕ := none
  isMemoryWrite : Bool := false
  stackPointer : ℕ
  merkleKey : Option ℕ := none
  merkleCurrent : Option ℕ := none
  merkleSibling : Option ℕ := none
  merkleRound : Option ℕ := none
  merkleIsExpand : Bool := false
  inferenceModelCommitment : Option ℕ := none
  inferenceInputCommitment : Option ℕ := none
  inferenceOutputCommitment : Option ℕ := none
  inferenceProofRound : Option ℕ := none
  inferenceIsExpand : Bool := false

structure Vm where
  registers : Registers
  pc : ℕ
  /-- The last entry is the top. -/
  stack : List ℕ
  memory : Bytes
  storage : SortedMap ℤ ℕ
  events : List ℕ
  context : Context
  trace : List Step
  halted : Bool
  gasUsed : ℕ
  gasLimit : ℕ
  error : Option VmError
  stateWrites : List (ℤ × ℕ)
  mainnetMode : Bool

structure ExecutionReceipt where
  success : Bool
  error : Option VmError
  gasUsed : ℕ
  exitCode : ℕ
  events : List ℕ
  finalPc : ℕ
  traceLen : ℕ
  stateWritesDigest : Bytes
deriving DecidableEq, Repr

/-- `decode_instruction`: the mainnet decodes with the gates of the staged rollout. -/
def decodeInstruction (raw : ℕ) (mainnetMode : Bool) : Except String Instruction :=
  if mainnetMode then
    (Instruction.decodeForMainnet raw .default).mapError DecodeError.text
  else Instruction.decode raw

def gasCost : Opcode → ℕ
  | .halt => 0
  | .load | .store => 3
  | .sRead => 8
  | .sWrite => 12
  | .poseidon | .verifyMerkle | .verifyInference | .privacyCommit | .nullifierCheck
  | .sumConservation => 10
  | .call | .ret | .push | .pop => 2
  | .syscall => 5
  | _ => 1

/-- Whether the `size` bytes from `addr` on lie in memory: the checked bound of the
Merkle and inference windows. -/
def windowFits (memory : Bytes) (addr size : ℕ) : Bool :=
  match checkedAdd u64Max addr size with
  | none => false
  | some last => last ≤ memory.length

/-! ## Merkle paths -/

/-- The sibling of round `i` on the path at `pathAddr`. -/
def pathSibling (memory : Bytes) (pathAddr i : ℕ) : ℕ := readWord memory (pathAddr + 8 + i * 8)

/-- One round of a path: the key's bit says on which side the accumulator stands. -/
def pathRound (memory : Bytes) (pathAddr key current i : ℕ) : ℕ :=
  let sibling := pathSibling memory pathAddr i
  if (key >>> i) % 2 = 0 then merklePoseidonRound current sibling
  else merklePoseidonRound sibling current

/-- The accumulator before round `i`. -/
def pathCurrent (memory : Bytes) (pathAddr key leaf : ℕ) : ℕ → ℕ
  | 0 => leaf
  | i + 1 => pathRound memory pathAddr key (pathCurrent memory pathAddr key leaf i) i

namespace Vm

def withGasLimit (memorySize gasLimit : ℕ) : Vm where
  registers := fun _ => 0
  pc := 0
  stack := []
  memory := replicate memorySize 0
  storage := .empty
  events := []
  context :=
    { sender := 0, nonce := 0, blockHeight := 0, initialStateRoot := replicate 32 0 }
  trace := []
  halted := false
  gasUsed := 0
  gasLimit
  error := none
  stateWrites := []
  mainnetMode := false

/-- `self.registers[0] = 0`. -/
def clearR0 (vm : Vm) : Vm := { vm with registers := update vm.registers 0 0 }

/-- How every failing branch of a step ends: the machine halts with the error. -/
def fail (vm : Vm) (e : VmError) : Vm := { vm with halted := true, error := some e }

def consumeGas (vm : Vm) (amount : ℕ) : Except VmError Unit × Vm :=
  let vm := { vm with gasUsed := satAdd u64Max vm.gasUsed amount }
  if vm.gasLimit < vm.gasUsed then (.error .outOfGas, vm.fail .outOfGas) else (.ok (), vm)

/-- What the arm of an opcode hands to the trace, beside the machine it leaves. -/
structure Performed where
  vm : Vm
  dstVal : ℕ
  nextPc : ℕ
  memoryAddr : Option ℕ := none
  memoryVal : Option ℕ := none
  isMemoryWrite : Bool := false

/-- The end of most arms: the result goes to the destination and the next instruction
follows. -/
def writeBack (vm : Vm) (inst : Instruction) (result : ℕ) : Performed where
  vm := { vm with registers := update vm.registers inst.rd result, pc := vm.pc + 1 }
  dstVal := result
  nextPc := vm.pc + 1

/-- The end of the arms that leave register 0 alone. -/
def writeBackNonzero (vm : Vm) (inst : Instruction) (result : ℕ) : Performed where
  vm :=
    { vm with
      registers :=
        if inst.rd = 0 then vm.registers else update vm.registers inst.rd result
      pc := vm.pc + 1 }
  dstVal := result
  nextPc := vm.pc + 1

/-- The end of the arms without a result. -/
def skip (vm : Vm) : Performed where
  vm := { vm with pc := vm.pc + 1 }
  dstVal := 0
  nextPc := vm.pc + 1

/-- The target of a relative jump, `(cur_pc as i64 + imm as i64) as usize`. -/
def jumpTarget (vm : Vm) (inst : Instruction) : ℕ := asUnsigned 64 (vm.pc + inst.imm)

/-- The end of the jumps. -/
def goTo (vm : Vm) (dstVal target : ℕ) : Performed where
  vm := { vm with pc := target }
  dstVal
  nextPc := target

def boolWord (b : Bool) : ℕ := if b then 1 else 0

/-- A `u64` cast to the `i32` of a storage slot. -/
def slotOfWord (word : ℕ) : ℤ := toI32 (word % 2 ^ 32)

/-- The slot of a storage access; `imm = -1` takes it from `rs2`. -/
def storageSlot (inst : Instruction) (src2 : ℕ) : ℤ :=
  if inst.imm = -1 then slotOfWord src2 else inst.imm

/-- The recipient of a commitment: a negative immediate is the field's negative. -/
def recipientTag (imm : ℤ) : ℕ :=
  if imm < 0 then (goldilocksP + 2 ^ 64 - imm.natAbs) % 2 ^ 64 else imm.toNat

def stackLimit : ℕ := 1024

/-- The arm of an opcode, on the values of its source registers. -/
def perform (vm : Vm) (inst : Instruction) (src1 src2 : ℕ) : Except VmError Performed :=
  match inst.opcode with
  | .halt => .ok { vm := { vm with halted := true }, dstVal := 0, nextPc := vm.pc }
  | .add => .ok (vm.writeBack inst (fieldAdd src1 src2))
  | .sub => .ok (vm.writeBack inst (fieldSub src1 src2))
  | .mul => .ok (vm.writeBack inst (fieldMul src1 src2))
  | .div =>
    .ok (vm.writeBack inst
      (if src2 ≠ 0 then src1 * fieldInverse src2 % goldilocksP else 0))
  | .inv => .ok (vm.writeBack inst (if src1 ≠ 0 then fieldInverse src1 else 0))
  | .and => .ok (vm.writeBack inst (src1 &&& src2))
  | .not => .ok (vm.writeBack inst (boolWord (src1 = 0)))
  | .load =>
    if inst.rs1 = 0 then .ok (vm.writeBack inst (asUnsigned 64 inst.imm))
    else
      match memoryWordAddr src1 inst.imm vm.memory.length with
      | some addr =>
        let val := readWord vm.memory addr
        .ok { vm.writeBack inst val with memoryAddr := some addr, memoryVal := some val }
      | none => .error .invalidMemoryAccess
  | .store =>
    match memoryWordAddr src1 inst.imm vm.memory.length with
    | some addr =>
      let stored := { vm with memory := writeWord vm.memory addr src2 }
      .ok
        { stored.skip with
          memoryAddr := some addr
          memoryVal := some src2
          isMemoryWrite := true }
    | none => .error .invalidMemoryAccess
  | .jmp => .ok (vm.goTo 0 (vm.jumpTarget inst))
  | .jnz => .ok (vm.goTo 0 (if src1 ≠ 0 then vm.jumpTarget inst else vm.pc + 1))
  | .call =>
    if stackLimit ≤ vm.stack.length then .error .stackOverflow
    else
      let pushed := { vm with stack := vm.stack ++ [vm.pc + 1] }
      .ok (pushed.goTo (vm.pc + 1) (vm.jumpTarget inst))
  | .ret =>
    match vm.stack.getLast? with
    | some target =>
      let popped := { vm with stack := vm.stack.dropLast }
      .ok (popped.goTo target target)
    | none => .error .stackUnderflow
  | .push =>
    if stackLimit ≤ vm.stack.length then .error .stackOverflow
    else
      let pushed := { vm with stack := vm.stack ++ [src1] }
      .ok { pushed.skip with dstVal := src1 }
  | .pop =>
    match vm.stack.getLast? with
    | some result =>
      let popped := { vm with stack := vm.stack.dropLast }
      .ok (popped.writeBack inst result)
    | none => .error .stackUnderflow
  | .eq => .ok (vm.writeBack inst (boolWord (src1 = src2)))
  | .neq => .ok (vm.writeBack inst (boolWord (src1 ≠ src2)))
  | .lt => .ok (vm.writeBack inst (boolWord (src1 < src2)))
  | .gt => .ok (vm.writeBack inst (boolWord (src1 > src2)))
  | .lte => .ok (vm.writeBack inst (boolWord (src1 ≤ src2)))
  | .gte => .ok (vm.writeBack inst (boolWord (src1 ≥ src2)))
  | .assert => if src1 = 0 then .error .assertionFailed else .ok vm.skip
  | .sRead =>
    .ok (vm.writeBack inst ((vm.storage.get? (storageSlot inst src2)).getD 0))
  | .sWrite =>
    let slot := storageSlot inst src2
    let written :=
      { vm with
        storage := vm.storage.insert slot src1
        stateWrites := vm.stateWrites ++ [(slot, src1)] }
    .ok written.skip
  | .poseidon => .ok (vm.writeBack inst (poseidon4Hash src1 src2))
  | .log =>
    let logged := { vm with events := vm.events ++ [src1] }
    .ok logged.skip
  | .syscall =>
    if inst.imm = 1 then .ok (vm.writeBack inst vm.context.sender)
    else if inst.imm = 2 then .ok (vm.writeBack inst vm.context.blockHeight)
    else if inst.imm = 3 then .ok (vm.writeBack inst vm.context.nonce)
    else if inst.imm = 6 then
      let logged := { vm with events := vm.events ++ [0x00A100A1, src1] }
      .ok (logged.writeBack inst (satAdd u64Max vm.context.blockHeight src1))
    else .ok (vm.writeBack inst 0)
  | .verifyMerkle =>
    let pathAddr := asUnsigned 64 inst.imm
    if windowFits vm.memory pathAddr (8 * 65) then
      let key := readWord vm.memory pathAddr
      let root := pathCurrent vm.memory pathAddr key src2 64
      .ok
        { vm.writeBack inst (boolWord (root = src1)) with
          memoryAddr := some pathAddr
          memoryVal := some key }
    else .ok (vm.writeBack inst 0)
  | .verifyInference => .ok (vm.writeBackNonzero inst 0)
  | .privacyCommit =>
    .ok (vm.writeBackNonzero inst (poseidon4Hash3 src1 src2 (recipientTag inst.imm)))
  | .nullifierCheck =>
    .ok (vm.writeBackNonzero inst (boolWord (poseidon4Hash src2 domainNullifier = src1)))
  | .sumConservation =>
    .ok (vm.writeBackNonzero inst
      (boolWord (src1 < goldilocksP ∧ src2 < goldilocksP ∧ src1 = src2)))

/-! ## The rows of a step -/

def instructionRow (pc : ℕ) (inst : Instruction) (src1 src2 : ℕ) (out : Performed) : Step where
  pc
  nextPc := out.nextPc
  instruction := inst
  src1Idx := inst.rs1
  src2Idx := inst.rs2
  dstIdx := inst.rd
  src1Val := src1
  src2Val := src2
  dstVal := out.dstVal
  registers := out.vm.registers
  memoryAddr := out.memoryAddr
  memoryVal := out.memoryVal
  isMemoryWrite := out.isMemoryWrite
  stackPointer := out.vm.stack.length

/-- The expansion row of round `i` of a path. All of them stay on the instruction; the
last one hands over to the next. -/
def merkleRow (vm : Vm) (pc : ℕ) (inst : Instruction) (leaf i : ℕ) : Step :=
  let pathAddr := asUnsigned 64 inst.imm
  let key := readWord vm.memory pathAddr
  let sibling := pathSibling vm.memory pathAddr i
  { pc
    nextPc := if i = 63 then pc + 1 else pc
    instruction := { opcode := .verifyMerkle, rd := 0, rs1 := 0, rs2 := 0, imm := inst.imm }
    src1Idx := 0
    src2Idx := 0
    dstIdx := 0
    src1Val := 0
    src2Val := 0
    dstVal := 0
    registers := vm.registers
    memoryAddr := some (pathAddr + 8 + i * 8)
    memoryVal := some sibling
    stackPointer := vm.stack.length
    merkleKey := some key
    merkleCurrent := some (pathCurrent vm.memory pathAddr key leaf i)
    merkleSibling := some sibling
    merkleRound := some i
    merkleIsExpand := true }

def merkleRows (vm : Vm) (pc : ℕ) (inst : Instruction) (leaf : ℕ) (row : Step) : List Step :=
  let pathAddr := asUnsigned 64 inst.imm
  let key := readWord vm.memory pathAddr
  { row with
    merkleKey := some key
    nextPc := pc
    merkleCurrent := some (pathCurrent vm.memory pathAddr key leaf 64) } ::
  (range 64).map (vm.merkleRow pc inst leaf)

def inferenceRow (vm : Vm) (pc : ℕ) (inst : Instruction) (src1 src2 round : ℕ) : Step where
  pc
  nextPc := if round = 7 then pc + 1 else pc
  instruction :=
    { opcode := .verifyInference, rd := 0, rs1 := inst.rs1, rs2 := inst.rs2, imm := round }
  src1Idx := inst.rs1
  src2Idx := inst.rs2
  dstIdx := 0
  src1Val := src1
  src2Val := src2
  dstVal := 0
  registers := vm.registers
  stackPointer := vm.stack.length
  inferenceModelCommitment := some (readWord vm.memory src1)
  inferenceInputCommitment := some (readWord vm.memory (src1 + 8))
  inferenceOutputCommitment := some (readWord vm.memory (src1 + 16))
  inferenceProofRound := some round
  inferenceIsExpand := true

/-- A row that carries the commitments of an inference and stays on the instruction. -/
def withCommitments (vm : Vm) (pc src1 : ℕ) (row : Step) : Step :=
  { row with
    inferenceModelCommitment := some (readWord vm.memory src1)
    inferenceInputCommitment := some (readWord vm.memory (src1 + 8))
    inferenceOutputCommitment := some (readWord vm.memory (src1 + 16))
    nextPc := pc }

/-- `trace.last_mut()` changed by the inference block. -/
def patchLast (vm : Vm) (pc src1 : ℕ) (rows : List Step) : List Step :=
  match rows.getLast? with
  | none => []
  | some row => rows.dropLast ++ [vm.withCommitments pc src1 row]

/-- Whether a step expands a Merkle path: the two opcodes share the block. -/
def hasPath (vm : Vm) (inst : Instruction) : Bool :=
  (inst.opcode == .verifyMerkle || inst.opcode == .verifyInference) &&
    windowFits vm.memory (asUnsigned 64 inst.imm) (8 * 65)

def hasProof (vm : Vm) (inst : Instruction) (src1 : ℕ) : Bool :=
  inst.opcode == .verifyInference && windowFits vm.memory src1 (8 * 4)

def openedRows (vm : Vm) (pc : ℕ) (inst : Instruction) (src2 : ℕ) (row : Step) : List Step :=
  if vm.hasPath inst then vm.merkleRows pc inst src2 row else [row]

/-- The rows a step records: the instruction's own, then those of a Merkle path, then
those of an inference. The inference block patches whatever row is last by then. -/
def rows (vm : Vm) (pc : ℕ) (inst : Instruction) (src1 src2 : ℕ) (row : Step) : List Step :=
  if vm.hasProof inst src1 then
    vm.patchLast pc src1 (vm.openedRows pc inst src2 row) ++
      (range 8).map (vm.inferenceRow pc inst src1 src2)
  else vm.openedRows pc inst src2 row

/-- The end of a step that succeeds: register 0 is cleared and the rows are recorded. -/
def record (vm : Vm) (inst : Instruction) (src1 src2 : ℕ) (out : Performed) : Vm :=
  let done := out.vm.clearR0
  let row := instructionRow vm.pc inst src1 src2 { out with vm := done }
  { done with trace := done.trace ++ done.rows vm.pc inst src1 src2 row }

def step (program : List ℕ) (vm : Vm) : Except VmError Unit × Vm :=
  let vm := vm.clearR0
  if vm.halted then (.ok (), vm)
  else
    match program[vm.pc]? with
    | none => (.error .invalidPc, vm.fail .invalidPc)
    | some raw =>
      match decodeInstruction raw vm.mainnetMode with
      | .error text => (.error (.invalidOpcode text), vm.fail (.invalidOpcode text))
      | .ok inst =>
        match vm.consumeGas (gasCost inst.opcode) with
        | (.error e, vm) => (.error e, vm)
        | (.ok (), vm) =>
          let src1 := vm.registers inst.rs1
          let src2 := vm.registers inst.rs2
          match vm.perform inst src1 src2 with
          | .error e => (.error e, vm.fail e)
          | .ok out => (.ok (), vm.record inst src1 src2 out)

/-! ## Whole runs -/

/-- The loop of `run_receipt`, for at most `turns` steps: the error it ended with and the
machine it left, or nothing if it is still going. -/
def loop (program : List ℕ) : ℕ → Vm → Option (Option VmError × Vm)
  | 0, vm => if vm.halted then some (none, vm) else none
  | turns + 1, vm =>
    if vm.halted then some (none, vm)
    else
      match vm.step program with
      | (.error e, vm) => some (some e, vm)
      | (.ok (), vm) => loop program turns vm

def haltRow (vm : Vm) : Step where
  pc := vm.pc
  nextPc := vm.pc
  instruction := { opcode := .halt, rd := 0, rs1 := 0, rs2 := 0, imm := 0 }
  src1Idx := 0
  src2Idx := 0
  dstIdx := 0
  src1Val := 0
  src2Val := 0
  dstVal := 0
  registers := vm.registers
  stackPointer := vm.stack.length

/-- A terminal row is added to a run that ended with an error, unless it ends with a
`Halt` already. -/
def closeTrace (vm : Vm) (error : Option VmError) : Vm :=
  if error.isSome && (vm.trace.getLast?.map fun row => row.instruction.opcode) != some .halt then
    { vm with trace := vm.trace ++ [vm.haltRow] }
  else vm

/-- The digest over the storage writes in their order: a chain of permutations. -/
def stateWritesDigest (writes : List (ℤ × ℕ)) : Bytes :=
  let acc := writes.foldl
    (fun acc write =>
      poseidonFullState
        ([asUnsigned 64 write.1, write.2] ++ acc.take 4 ++ [0, 0]))
    (replicate 8 0)
  (acc.take 4).flatMap u64LeBytes

def receipt (vm : Vm) (error : Option VmError) : ExecutionReceipt where
  success := error.isNone
  error
  gasUsed := vm.gasUsed
  exitCode := if error.isNone then 0 else 1
  events := vm.events
  finalPc := vm.pc
  traceLen := vm.trace.length
  stateWritesDigest := stateWritesDigest vm.stateWrites

/-- `Vm::run_receipt`, for a loop of at most `turns` steps. -/
def runReceipt (program : List ℕ) (turns : ℕ) (vm : Vm) : Option (ExecutionReceipt × Vm) :=
  (vm.loop program turns).map fun (error, vm) =>
    let closed := vm.closeTrace error
    (closed.receipt error, closed)

end Vm

end Budlum.BudZero
