import Budlum.Chain.Block
import Budlum.Execution.Validation

/-!
# Consensus engines

The three engines a chain can run on. `full_validate` looks at a block, the chain in
front of it and the state at the tip of that chain; `is_better_chain` is the fork
choice; `record_block` is what an engine notes about a block that was taken. Of the
clock `full_validate` gets one reading, `now`.

Validation reads no cache of an engine: the difficulty and the epoch randomness are
replayed from the chain, and the only thing a record of earlier blocks can change is
the last checkpoint of `PoSEngine`.
-/

namespace Budlum

open Machine AccountState List

/-- `MAX_FUTURE_BLOCK_TIME_MS` and `MIN_BLOCK_INTERVAL_MS`. -/
def maxFutureBlockTimeMs : ℕ := 15000
def minBlockIntervalMs : ℕ := 1000

/-- `MAX_BLOCK_SIZE`, in bytes of JSON. -/
def maxBlockSize : ℕ := 1000000

def maxReorgDepth : ℕ := 100

/-- The number that little-endian bytes write (`from_le_bytes`). -/
def leNat (bytes : Bytes) : ℕ := bytes.foldr (fun b n => b.toNat + 256 * n) 0

variable {T : ModuleTypes} (M : ChainModules T)

/-- The head of every `validate_block`: a genesis block is taken by its hash alone, any
other block must name the tip as its parent. -/
def validateParent (block : Block T) (chain : List (Block T)) (next : Except String Unit) :
    Except String Unit :=
  if block.index = 0 then
    refuseIf (block.hash ≠ M.calculateHash block) "Invalid genesis block hash" (.ok ())
  else match chain.getLast? with
    | some prev =>
      refuseIf (block.previousHash ≠ prev.hash)
        s!"Previous hash mismatch. Expected: {prev.hash}, Got: {block.previousHash}" next
    | none => next

/-! ## Proof of work -/

/-- `PoWConfig`. The engine's cached difficulty is only used to mine. -/
structure PoWConfig where
  difficulty : ℕ
  targetBlockTime : ℕ
  adjustmentInterval : ℕ
deriving DecidableEq

namespace PoWConfig

variable (c : PoWConfig)

def u32Max : ℕ := 2 ^ 32 - 1

def u256Max : ℕ := 2 ^ 256 - 1

def pow2 (exponent : ℕ) : ℕ := if 256 ≤ exponent then u256Max else 2 ^ exponent

def adjustedDifficulty (current : ℕ) (first last : Block T) : ℕ :=
  let actualTime := (last.timestamp - first.timestamp) / 1000
  let expectedTime := satMul u64Max c.targetBlockTime c.adjustmentInterval
  let ratioCapped := max 25 (min (expectedTime * 100 / max actualTime 1) 400)
  max 1 (min (current * ratioCapped / 100) 32)

/-- The difficulty after the boundary at the given height. -/
def retarget (chain : List (Block T)) (difficulty boundary : ℕ) : ℕ :=
  match chain[boundary + 1 - c.adjustmentInterval]?, chain[boundary]? with
  | some first, some boundaryBlock =>
    if 0 < boundaryBlock.index ∧ c.adjustmentInterval ∣ boundaryBlock.index then
      c.adjustedDifficulty difficulty first boundaryBlock
    else difficulty
  | _, _ => difficulty

def difficultyForNextBlock (chain : List (Block T)) : ℕ :=
  if c.adjustmentInterval = 0 then c.difficulty
  else
    (range ((chain.length - 1) / c.adjustmentInterval)).foldl
      (fun difficulty k => c.retarget chain difficulty ((k + 1) * c.adjustmentInterval))
      c.difficulty

/-- `accumulated_work`: `16 ^ difficulty` for every block after genesis. -/
def accumulatedWork (chain : List (Block T)) : ℕ :=
  (range (chain.length - 1)).foldl
    (fun score i =>
      let difficulty := c.difficultyForNextBlock (chain.take (i + 1))
      satAdd u256Max score (pow2 (satMul u32Max (min difficulty u32Max) 4)))
    0

def meetsDifficultyAt (hashHex : String) (difficulty : ℕ) : Bool :=
  match M.hexDecode hashHex with
  | none => false
  | some hashBytes =>
    let leadingZeroBits := satMul u64Max difficulty 4
    let fullBytes := leadingZeroBits / 8
    let remainingBits := leadingZeroBits % 8
    let mask : UInt8 := 0xFF <<< UInt8.ofNat (8 - remainingBits)
    decide (fullBytes + (if 0 < remainingBits then 1 else 0) ≤ hashBytes.length) &&
      (hashBytes.take fullBytes).all (· == 0) &&
      (remainingBits == 0 || hashBytes.getD fullBytes 0 &&& mask == 0)

/-- `validate_block` of `PoWEngine`. -/
def validateBlock (block : Block T) (chain : List (Block T)) : Except String Unit :=
  validateParent M block chain <|
  refuseIf (block.hash ≠ M.calculateHash block)
    s!"Invalid block hash. Calculated: {M.calculateHash block}, Existing: {block.hash}" <|
  refuseIf (meetsDifficultyAt M block.hash (c.difficultyForNextBlock chain) = false)
    (s!"Invalid PoW. {c.difficultyForNextBlock chain} leading-zero nibbles required, " ++
      s!"hash: {block.hash}") (.ok ())

end PoWConfig

/-! ## Proof of authority -/

/-- `PoAEngine`, with the set that `active_authorities` reads. -/
structure PoAEngine where
  authorities : List Address
deriving DecidableEq

namespace PoAEngine

variable (e : PoAEngine)

def leaderEntropy (hash : String) : Bytes :=
  match M.hexDecode hash with
  | some bytes => if bytes.length = 32 then bytes else replicate 32 0xFF
  | none => replicate 32 0xFF

def activeAuthorities (s : AccountState T) : List Validator :=
  if e.authorities.isEmpty then s.getActiveValidators
  else s.getActiveValidators.filter fun v => e.authorities.contains v.address

def leaderSlotWithEntropy (blockIndex : ℕ) (active : List Validator) (entropy : Bytes) : ℕ :=
  let digest := M.sha256 (strBytes "BUDLUM_POA_LEADER_V2" ++ u64LeBytes blockIndex ++ entropy ++
    u64LeBytes active.length ++ active.flatMap fun v => v.address.asBytes ++ u64LeBytes v.stake)
  leNat (digest.take 8) % active.length

def expectedProposerWithEntropy (blockIndex : ℕ) (active : List Validator) (entropy : Bytes) :
    Option Validator :=
  active[leaderSlotWithEntropy M blockIndex active entropy]?

/-- `validate_block` of `PoAEngine`. -/
def validateBlock (block : Block T) (chain : List (Block T)) (s : AccountState T) :
    Except String Unit :=
  validateParent M block chain <|
  let active := e.activeAuthorities s
  let entropy := match chain.getLast? with
    | some prev => leaderEntropy M prev.hash
    | none => leaderEntropy M block.previousHash
  refuseIf (active.isEmpty = true) "No active PoA authorities; refusing hash-only PoA block" <|
  requireSome (expectedProposerWithEntropy M block.index active entropy)
    "No proposer for this slot" fun expected =>
  requireSome block.producer "Block has no producer" fun producer =>
  refuseIf (M.verifySignatureWithPubkey block expected.address = false)
    (s!"Block {block.index} is not a valid signature from the expected proposer " ++
      s!"{M.addressText expected.address}, got {M.addressText producer}") (.ok ())

end PoAEngine

/-! ## Proof of stake -/

/-- `PoSConfig`, with the fields that validation reads. An epoch length of zero stops the
node at its first division, so there is none here. -/
structure PoSConfig where
  minStake : ℕ
  epochLength : ℕ
  epochLength_pos : 0 < epochLength
deriving DecidableEq

structure Checkpoint where
  blockIndex : ℕ
  blockHash : String
  timestamp : ℕ
deriving DecidableEq

/-- `PoSEngine`. The cached epoch seed is read by no consensus path. -/
structure PoSEngine (T : ModuleTypes) where
  config : PoSConfig
  seenBlocks : SortedMap (Address ×ₗ ℕ) (BlockHeader T × Bytes)
  slashingEvidence : List (SlashingEvidence T)
  checkpoints : List Checkpoint
deriving DecidableEq

namespace PoSConfig

variable (c : PoSConfig)

def verifyEvidence (evidence : SlashingEvidence T) : Bool :=
  evidence.header1.index == evidence.header2.index &&
    evidence.header1.producer == evidence.header2.producer &&
    evidence.header1.producer.isSome &&
    M.verifyHeaderSignature evidence.header1 evidence.signature1 &&
    M.verifyHeaderSignature evidence.header2 evidence.signature2 &&
    evidence.header1.hash != evidence.header2.hash

/-- What the block at a height adds to the randomness of a later epoch. -/
def vrfContribution (chainId : ℕ) (chain : List (Block T)) (height : ℕ) : Except String Bytes :=
  match chain[height]? with
  | none => .error s!"PoS randomness source block {height} is missing"
  | some source =>
    if source.index ≠ height ∨ source.chainId ≠ chainId then
      .error s!"PoS randomness source block {height} is not canonical"
    else if height = 0 then .ok []
    else match source.producer with
      | none => .error s!"PoS randomness source block {height} has no producer"
      | some producer =>
        if source.vrfOutput.length ≠ 32 ∨ source.vrfProof.isEmpty then
          .error s!"PoS randomness source block {height} has no verified VRF transcript"
        else
          .ok (strBytes "vrf_contribution" ++ u64LeBytes height ++ producer.asBytes ++
            source.vrfOutput)

/-- The transcript that the randomness of an epoch is drawn from: that of two epochs
before, or the genesis alone. -/
def randomnessTranscript (chainId targetEpoch : ℕ) (chain : List (Block T)) :
    Except String Bytes :=
  match checkedSub targetEpoch 2 with
  | none => .ok (strBytes "genesis_bootstrap")
  | some sourceEpoch =>
    match checkedMul u64Max sourceEpoch c.epochLength with
    | none => .error "PoS randomness source epoch overflow"
    | some start =>
      match checkedAdd u64Max start c.epochLength with
      | none => .error "PoS randomness source range overflow"
      | some stop =>
        if chain.length < stop then
          .error s!"PoS randomness source epoch {sourceEpoch} is incomplete"
        else
          ((range' start c.epochLength).mapM (vrfContribution chainId chain)).map
            fun parts => strBytes "source_epoch" ++ u64LeBytes sourceEpoch ++ parts.flatten

def epochRandomnessFromChain (chainId targetEpoch : ℕ) (chain : List (Block T)) :
    Except String Hash32 :=
  match chain.head? with
  | none => .error "PoS randomness requires the genesis anchor"
  | some genesis =>
    if genesis.index ≠ 0 ∨ genesis.chainId ≠ chainId then
      .error "PoS randomness genesis anchor has the wrong height or chain ID"
    else
      (c.randomnessTranscript chainId targetEpoch chain).map fun transcript =>
        M.sha3 (strBytes "BDLM_POS_EPOCH_RANDOMNESS_V3" ++ u64LeBytes chainId ++
          u64LeBytes targetEpoch ++ u64LeBytes c.epochLength ++ strBytes genesis.hash ++
          transcript)

def calculateSeedWithChain (chainId epoch slot : ℕ) (chain : List (Block T)) :
    Except String Hash32 :=
  if slot / c.epochLength ≠ epoch then .error "PoS seed epoch/slot pair is not canonical"
  else
    (c.epochRandomnessFromChain M chainId epoch chain).map fun epochRandomness =>
      M.sha3 (strBytes "BDLM_POS_SLOT_SEED_V3" ++ u64LeBytes chainId ++ u64LeBytes epoch ++
        u64LeBytes slot ++ epochRandomness)

def vrfBaseProb : ℕ := fixedPointScale

def calculateVrfThreshold (stake totalStake : ℕ) : ℕ :=
  if totalStake = 0 ∨ stake = 0 then 0
  else
    let baseThreshold := satMul u128Max stake u64Max / totalStake
    min (satMul u128Max baseThreshold vrfBaseProb / fixedPointScale) u64Max

def checkVrfThreshold (vrfOutput : Bytes) (threshold : ℕ) : Bool :=
  decide (leNat ((M.sha3 vrfOutput).take 8) < threshold)

def validateVrf (block : Block T) (chain : List (Block T)) (validator : Validator)
    (next : Except String Unit) : Except String Unit :=
  refuseIf (validator.vrfPublicKey.isEmpty = true) "Producer has no registered VRF public key" <|
  refuseIf (M.vrfPublicKeyValid validator.vrfPublicKey = false) "Invalid VRF public key format" <|
  match c.calculateSeedWithChain M block.chainId block.epoch block.slot chain with
  | .error e => .error e
  | .ok seed =>
    refuseIf (block.vrfOutput.length ≠ 32) "Invalid VRF output length" <|
    refuseIf (M.vrfOutputValid block.vrfOutput = false) "Invalid VRF output format" <|
    refuseIf (M.vrfProofValid block.vrfProof = false) "Invalid VRF proof format" <|
    refuseIf (M.vrfVerify validator.vrfPublicKey seed block.vrfOutput block.vrfProof = false)
      "VRF proof verification failed" next

/-- The evidence of a block is checked in order. That its headers name a producer is part
of `verify_evidence`. -/
def validateEvidence (block : Block T) : Except String Unit :=
  match block.slashingEvidence with
  | none => .ok ()
  | some evidences =>
    match evidences.findIdx? fun evidence => !verifyEvidence M evidence with
    | some i => .error s!"Invalid slashing evidence #{i}"
    | none => .ok ()

/-- `validate_block` of `PoSEngine` after its checkpoint check. -/
def validateLeader (block : Block T) (chain : List (Block T)) (s : AccountState T) :
    Except String Unit :=
  refuseIf (block.epoch ≠ block.index / c.epochLength)
    s!"PoS epoch mismatch: expected {block.index / c.epochLength}, got {block.epoch}" <|
  refuseIf (block.slot ≠ block.index)
    s!"PoS slot mismatch: expected {block.index}, got {block.slot}" <|
  refuseIf (s.getActiveValidators.isEmpty = true)
    "No active consensus-ready validators; refusing unsigned PoS block" <|
  match s.consensusValidatorSetHash M block.chainId with
  | .error e => .error e
  | .ok expectedSetHash =>
    refuseIf (block.validatorSetHash ≠ expectedSetHash)
      (s!"Validator set hash mismatch: expected {expectedSetHash}, " ++
        s!"got {block.validatorSetHash}") <|
    requireSome block.producer "Block has no producer" fun producer =>
    requireSome (s.getValidator producer) "Unknown block producer" fun validator =>
    refuseIf (validator.active = false ∨ validator.slashed = true ∨
      validator.stake < c.minStake) "Producer is not an active validator" <|
    c.validateVrf M block chain validator <|
    refuseIf (checkVrfThreshold M block.vrfOutput
      (calculateVrfThreshold validator.stake s.getTotalStake) = false)
      "VRF output does not meet leadership threshold" <|
    refuseIf (M.verifyBlockSignature block = false) "Invalid block signature" <|
    validateEvidence M block

end PoSConfig

namespace PoSEngine

variable (e : PoSEngine T)

def IsBeforeCheckpoint (block : Block T) : Prop :=
  ∃ checkpoint ∈ e.checkpoints.getLast?, block.index < checkpoint.blockIndex

instance (block : Block T) : Decidable (e.IsBeforeCheckpoint block) :=
  inferInstanceAs (Decidable (∃ checkpoint ∈ e.checkpoints.getLast?, _))

def chainHonoursCheckpoint (chain : List (Block T)) : Bool :=
  match e.checkpoints.getLast? with
  | none => true
  | some checkpoint => (chain[checkpoint.blockIndex]?).any fun b => b.hash == checkpoint.blockHash

/-- `validate_block` of `PoSEngine`. -/
def validateBlock (block : Block T) (chain : List (Block T)) (s : AccountState T) :
    Except String Unit :=
  validateParent M block chain <|
  refuseIf (e.IsBeforeCheckpoint block)
    "Block is before last checkpoint (possible long-range attack)" <|
  e.config.validateLeader M block chain s

/-- `fork_choice_score` of `PoSEngine`. -/
def forkChoiceScore (chain : List (Block T)) : ℕ :=
  if e.chainHonoursCheckpoint chain then chain.length else 0

/-- `add_checkpoint`. A disk that fails is passed over by the one caller. -/
def addCheckpoint (block : Block T) : PoSEngine T :=
  { e with checkpoints := e.checkpoints ++ [⟨block.index, block.hash, block.timestamp⟩] }

def noteBlock (producer : Address) (block : Block T) : PoSEngine T :=
  let header := M.headerOf block
  let e := { e with
    seenBlocks := e.seenBlocks.insert (toLex (producer, header.index))
      (header, block.signature.getD []) }
  let e := if 0 < block.index ∧ e.config.epochLength ∣ block.index then e.addCheckpoint block
    else e
  let minSlot := (block.index / e.config.epochLength - 2) * e.config.epochLength
  { e with seenBlocks := e.seenBlocks.filter fun entry => decide (minSlot ≤ (ofLex entry.1).2) }

/-- `record_block` of `PoSEngine`. A block without a producer is only logged. -/
def recordBlock (block : Block T) : PoSEngine T :=
  match block.producer with
  | none => e
  | some producer =>
    let header := M.headerOf block
    match e.seenBlocks.get? (toLex (producer, header.index)) with
    | some existing =>
      if existing.1.hash ≠ header.hash then
        { e with slashingEvidence := e.slashingEvidence ++
            [⟨existing.1, header, existing.2, block.signature.getD []⟩] }
      else e
    | none => e.noteBlock M producer block

def pruneSlashingEvidence (minHeight : ℕ) : PoSEngine T :=
  { e with slashingEvidence :=
      e.slashingEvidence.filter fun evidence => decide (minHeight ≤ evidence.header1.index) }

end PoSEngine

/-! ## The engine of a chain -/

inductive Engine (T : ModuleTypes)
  | poW (config : PoWConfig)
  | poA (engine : PoAEngine)
  | poS (engine : PoSEngine T)
deriving DecidableEq

namespace Engine

def validateBlock (block : Block T) (chain : List (Block T)) (s : AccountState T) :
    Engine T → Except String Unit
  | poW config => config.validateBlock M block chain
  | poA engine => engine.validateBlock M block chain s
  | poS engine => engine.validateBlock M block chain s

def validateTimestamp (now : ℕ) (block : Block T) (prevBlock : Option (Block T)) :
    Except String Unit :=
  refuseIf (satAdd u128Max now maxFutureBlockTimeMs < block.timestamp)
    (s!"Block timestamp too far in the future. Now: {now}, Block: {block.timestamp}, " ++
      s!"Max drift: {maxFutureBlockTimeMs} ms") <|
  match prevBlock with
  | none => .ok ()
  | some prev =>
    refuseIf (block.timestamp ≤ prev.timestamp)
      (s!"Block timestamp not monotonic. Prev: {prev.timestamp}, " ++
        s!"Current: {block.timestamp}") <|
    refuseIf (block.timestamp - prev.timestamp < minBlockIntervalMs)
      (s!"Block produced too fast. Min interval: {minBlockIntervalMs} ms, " ++
        s!"Got: {block.timestamp - prev.timestamp} ms") (.ok ())

def validateBlockSize (block : Block T) : Except String Unit :=
  refuseIf (maxTransactionsPerBlock < block.transactions.length)
    (s!"Too many transactions. Max: {maxTransactionsPerBlock}, " ++
      s!"Got: {block.transactions.length}") <|
  match M.blockJson block with
  | .error e => .error s!"Failed to serialize block for size check: {e}"
  | .ok serialized =>
    refuseIf (maxBlockSize < serialized.length)
      (s!"Block too large. Max: {maxBlockSize} bytes, " ++
        s!"Got: {serialized.length} bytes") (.ok ())

def fullValidate (now : ℕ) (block : Block T) (chain : List (Block T)) (s : AccountState T)
    (e : Engine T) : Except String Unit :=
  if block.index = 0 then e.validateBlock M block chain s
  else match validateTimestamp now block chain.getLast? with
    | .error text => .error text
    | .ok () =>
      match validateBlockSize M block with
      | .error text => .error text
      | .ok () => e.validateBlock M block chain s

def errorText (text : String) : String := s!"Consensus error: {text}"

def isBetterChain (current candidate : List (Block T)) : Engine T → Bool
  | poW config => decide (config.accumulatedWork current < config.accumulatedWork candidate)
  | poA _ => decide (current.length < candidate.length)
  | poS engine =>
    engine.chainHonoursCheckpoint candidate &&
      decide (engine.forkChoiceScore current < engine.forkChoiceScore candidate)

def recordBlock (block : Block T) : Engine T → Engine T
  | poS engine => poS (engine.recordBlock M block)
  | e => e

def pruneSlashingEvidence (minHeight : ℕ) : Engine T → Engine T
  | poS engine => poS (engine.pruneSlashingEvidence minHeight)
  | e => e

/-! ## Rules and checkpoints -/

def rules : Engine T → Engine T
  | poS engine => poS { engine with seenBlocks := ∅, slashingEvidence := [], checkpoints := [] }
  | e => e

def lastCheckpoint : Engine T → Option Checkpoint
  | poS engine => engine.checkpoints.getLast?
  | _ => none

def IsBeforeCheckpoint (block : Block T) (e : Engine T) : Prop :=
  ∃ checkpoint ∈ e.lastCheckpoint, block.index < checkpoint.blockIndex

variable {M} {e : Engine T} {block : Block T} {chain : List (Block T)} {s : AccountState T}
  {now : ℕ}

section

variable (hindex : block.index ≠ 0)
include hindex

lemma validateParent_eq_ok {next : Except String Unit} :
    validateParent M block chain next = .ok () ↔
      (∀ prev ∈ chain.getLast?, block.previousHash = prev.hash) ∧ next = .ok () := by
  unfold validateParent
  rw [if_neg hindex]
  cases chain.getLast? with
  | none => simp
  | some prev => simp [refuseIf_ok]

/-- Of its records validation reads the last checkpoint only. -/
lemma validateBlock_eq_ok : e.validateBlock M block chain s = .ok () ↔
      e.rules.validateBlock M block chain s = .ok () ∧ ¬ e.IsBeforeCheckpoint block := by
  cases e with
  | poW config => simp [rules, IsBeforeCheckpoint, lastCheckpoint]
  | poA engine => simp [rules, IsBeforeCheckpoint, lastCheckpoint]
  | poS engine =>
    have hclear : ∀ config seen evidence,
        ¬ PoSEngine.IsBeforeCheckpoint ⟨config, seen, evidence, []⟩ block := by
      rintro config seen evidence ⟨checkpoint, hmem, -⟩
      cases hmem
    simp only [rules, validateBlock, PoSEngine.validateBlock, validateParent_eq_ok hindex,
      refuseIf_ok, hclear, not_false_eq_true, true_and]
    constructor
    · rintro ⟨hparent, hbefore, hleader⟩
      exact ⟨⟨hparent, hleader⟩, hbefore⟩
    · rintro ⟨⟨hparent, hleader⟩, hbefore⟩
      exact ⟨hparent, hbefore, hleader⟩

lemma fullValidate_eq_ok : e.fullValidate M now block chain s = .ok () ↔
      e.rules.fullValidate M now block chain s = .ok () ∧ ¬ e.IsBeforeCheckpoint block := by
  unfold fullValidate
  rw [if_neg hindex, if_neg hindex]
  cases validateTimestamp now block chain.getLast? with
  | error text => simp
  | ok =>
    cases validateBlockSize M block with
    | error text => simp
    | ok => exact validateBlock_eq_ok hindex

lemma previousHash_of_fullValidate (h : e.fullValidate M now block chain s = .ok ()) :
    ∀ prev ∈ chain.getLast?, block.previousHash = prev.hash := by
  unfold fullValidate at h
  rw [if_neg hindex] at h
  split at h
  · cases h
  split at h
  · cases h
  cases e with
  | poW config => exact ((validateParent_eq_ok hindex).mp h).1
  | poA engine => exact ((validateParent_eq_ok hindex).mp h).1
  | poS engine => exact ((validateParent_eq_ok hindex).mp h).1

end

@[simp] lemma rules_recordBlock : (e.recordBlock M block).rules = e.rules := by
  cases e with
  | poW config => rfl
  | poA engine => rfl
  | poS engine =>
    unfold recordBlock PoSEngine.recordBlock
    dsimp only
    split
    · rfl
    split
    · split_ifs <;> rfl
    · unfold PoSEngine.noteBlock
      dsimp only
      split_ifs <;> rfl

@[simp] lemma rules_pruneSlashingEvidence (minHeight : ℕ) :
    (e.pruneSlashingEvidence minHeight).rules = e.rules := by
  cases e <;> rfl

@[simp] lemma lastCheckpoint_pruneSlashingEvidence (minHeight : ℕ) :
    (e.pruneSlashingEvidence minHeight).lastCheckpoint = e.lastCheckpoint := by
  cases e <;> rfl

lemma lastCheckpoint_recordBlock : (e.recordBlock M block).lastCheckpoint = e.lastCheckpoint ∨
      ∃ checkpoint, (e.recordBlock M block).lastCheckpoint = some checkpoint ∧
        checkpoint.blockIndex = block.index := by
  cases e with
  | poW config => exact .inl rfl
  | poA engine => exact .inl rfl
  | poS engine =>
    unfold recordBlock PoSEngine.recordBlock
    dsimp only
    split
    · exact .inl rfl
    split
    · split_ifs <;> exact .inl rfl
    · unfold PoSEngine.noteBlock
      dsimp only
      split_ifs
      · exact .inr ⟨_, getLast?_concat, rfl⟩
      · exact .inl rfl

end Engine

end Budlum
