import Budlum.Chain.BlockEffects
import Budlum.Consensus.Engine
import Budlum.Consensus.Qc
import Budlum.CrossDomain.Domains

/-!
# A node and the chains it takes

`Blockchain` with what chain selection and finality read. A block comes in alone
(`validate_and_add_block`) or as part of a candidate chain that replaces the node's own
(`validate_candidate_chain`, `try_reorg`). Both replay the block with
`apply_block_effects`, derive the committed roots anew and compare the state root.

The disk is asked, never trusted to remember: `Disk` holds its answers during one call.
-/

namespace Budlum

open Machine AccountState GlobalBlockHeader Exec

structure DurableCommitBatch (T : ModuleTypes) where
  block : Block T
  stateRoot : String
  finalityCert : Option FinalityCert
  globalHeaders : List GlobalBlockHeader
  bridgeState : Option BridgeState
  accounts : List (Address × Account)

/-- The writes of finality, whose failure is only logged. -/
inductive LoggedWrite
  | saveQcBlob (height : ℕ) (blob : QcBlob)
  | saveFinalityCert (height : ℕ) (cert : FinalityCert)
  | deleteQcBlob (height : ℕ)
  | deleteFinalityCert (height : ℕ)

/-- What the disk answers to a node that has one. Of the writes whose failure is only
logged, those are left out that nothing here reads back. -/
structure Disk (T : ModuleTypes) where
  completes : LoggedWrite → Bool
  commitDurableBatch : DurableCommitBatch T → Except String Unit
  loadConsensusDomains : Except String (List ConsensusDomain)
  loadDomainCommitments : Except String (List DomainCommitment)
  loadGlobalHeaders : Except String (List GlobalBlockHeader)
  loadBridgeState : Except String (Option BridgeState)
  loadCrossDomainMessages : Except String (List CrossDomainMessage)
  getQcBlob : ℕ → Option QcBlob
  getFinalityCert : ℕ → Option FinalityCert

/-- The fields of `Blockchain` that chain selection and finality use beside the others. -/
structure Node (T : ModuleTypes) extends Blockchain T where
  chainId : ℕ
  genesisConfig : GenesisConfig T
  consensus : Engine T
  disk : Disk T
  finalizedHeight : ℕ
  finalizedHash : String
  verifiedQcBlobs : SortedMap ℕ QcBlob
  maxQcBlobs : ℕ
  validatorSnapshots : SortedMap ℕ ValidatorSetSnapshot
  maxValidatorSnapshots : ℕ
  pendingFinalityCerts : SortedMap ℕ (List FinalityCert)
  maxPendingCerts : ℕ
  globalHeaders : List GlobalBlockHeader
  settlementFinalityHashes : List Hash32

def Disk.write {T : ModuleTypes} (d : Disk T) (w : LoggedWrite) : Disk T :=
  if d.completes w then
    match w with
    | .saveQcBlob height blob =>
      { d with getQcBlob := fun h => if h = height then some blob else d.getQcBlob h }
    | .saveFinalityCert height cert =>
      { d with getFinalityCert := fun h => if h = height then some cert else d.getFinalityCert h }
    | .deleteQcBlob height =>
      { d with getQcBlob := fun h => if h = height then none else d.getQcBlob h }
    | .deleteFinalityCert height =>
      { d with getFinalityCert := fun h => if h = height then none else d.getFinalityCert h }
  else d

variable {T : ModuleTypes} {G₁ G₂ : Type} (M : NodeModules T G₁ G₂)

/-! ## Validator sets -/

def Validator.snapshotEntry (chainId : ℕ) (v : Validator) : Option ValidatorEntry :=
  if v.isConsensusReady && M.verifyPop v.blsPublicKey v.popSignature chainId v.address then
    some ⟨v.address, v.stake, v.blsPublicKey, v.popSignature, v.pqPublicKey⟩
  else none

/-- `build_validator_snapshot_from_state`. No vector is longer than the bound. -/
def AccountState.validatorSnapshot (epoch chainId : ℕ) (s : AccountState T) :
    ValidatorSetSnapshot :=
  .new M.toFinalityDeps epoch
    ((s.getActiveValidators.filterMap (Validator.snapshotEntry M chainId)).take (2 ^ 63 - 1))
    (lt_of_le_of_lt (List.length_take_le _ _) (Nat.sub_lt (Nat.two_pow_pos 63) Nat.one_pos))

/-! ## Replaying a block -/

def AccountState.withCommitments (settlementRoot globalHeaderSummary : Hash32)
    (s : AccountState T) : AccountState T :=
  { s.withDerivedRoots M.toChainModules with settlementRoot, globalHeaderSummary }

def stateRoot : Exec (AccountState T) String String := fun s =>
  let root := s.calculateStateRoot M.toChainModules
  (.ok root.1, root.2)

/-- Apply the effects of a block, derive its roots and compare the state root. -/
def replayBlock (block : Block T) (preceding : List (Block T))
    (settlementRoot globalHeaderSummary : Hash32) (effectsText mismatchText : String → String) :
    Exec (AccountState T) String Unit := do
  mapError effectsText (Blockchain.applyBlockEffects M.toChainModules block preceding)
  modify (AccountState.withCommitments M settlementRoot globalHeaderSummary)
  let computedRoot ← stateRoot M
  failIf (computedRoot ≠ block.stateRoot) (mismatchText computedRoot)

def emptySettlementRoot : Hash32 := merkleRoot M.hashFields []

/-- Replay a block of a chain without settlement headers. -/
def replayPlain (block : Block T) (preceding : List (Block T))
    (effectsText : String → String) (mismatchText : String) : Exec (AccountState T) String Unit :=
  replayBlock M block preceding (emptySettlementRoot M) zeroRoot effectsText
    fun _ => mismatchText

namespace Node

variable (n : Node T)

abbrev Method (T : ModuleTypes) (α : Type) : Type := Exec (Node T) String α

def commitBlockDurable (block : Block T) (committed : AccountState T) : Except String Unit :=
  match n.storage with
  | none => .ok ()
  | some _ =>
    let finalityCert := (n.pendingFinalityCerts.get? block.index).bind List.head?
    match n.disk.commitDurableBatch
        { block
          stateRoot := block.stateRoot
          finalityCert
          globalHeaders := n.globalHeaders
          bridgeState := some committed.bridgeState
          accounts := committed.ledger.accounts.entries } with
    | .error e => .error s!"Failed to commit durable batch: {e}"
    | .ok () => .ok ()

def recordValidatorSnapshot (epoch : ℕ) : Node T :=
  let snapshots := n.validatorSnapshots.insert epoch (n.state.validatorSnapshot M epoch n.chainId)
  { n with validatorSnapshots :=
      snapshots.dropFirst (snapshots.entries.length - max n.maxValidatorSnapshots 1) }

/-! ## One block -/

/-- A domain after a request of governance to unfreeze it. -/
def unfreezeDomain (r : ConsensusDomainRegistry) (request : PendingDomainUnfreeze) :
    ConsensusDomainRegistry :=
  match r.get? request.domainId with
  | none => r
  | some domain =>
    if domain.status ≠ .frozen then r
    else if request.expectedValidatorSetHash ≠ zeroRoot ∧
        domain.validatorSetHash ≠ request.expectedValidatorSetHash then r
    else match ConsensusDomainRegistry.transitionStatusChecked r request.domainId .active with
      | .ok r => r
      | .error _ => r

/-- `apply_pending_domain_unfreezes`: the queue is emptied, whatever came of it. -/
def applyPendingDomainUnfreezes : Node T :=
  { n with
    domainRegistry := n.state.pendingDomainUnfreezes.foldl unfreezeDomain n.domainRegistry
    state := { n.state with pendingDomainUnfreezes := [] } }

def pruneConsensusEvidenceAfterCommit (blockIndex : ℕ) : Node T :=
  if 0 < blockIndex ∧ epochLenForChainId n.chainId ∣ blockIndex then
    { n with consensus := n.consensus.pruneSlashingEvidence (blockIndex - 1000) }
  else n

/-- A block at or below the finalized height must be the one the chain has there. -/
def finalizedConflict (block : Block T) : Option String :=
  if block.index ≤ n.finalizedHeight ∧ block.hash ≠ n.finalizedHash then
    match n.chain[block.index]? with
    | some finalizedPathBlock =>
      if finalizedPathBlock.hash ≠ block.hash then
        some s!"Block at height {block.index} conflicts with finalized checkpoint"
      else none
    | none =>
      some (s!"Block at height {block.index} is below finalized height " ++
        toString n.finalizedHeight)
  else none

/-- The checks of `validate_and_add_block` up to those of the engine. -/
def checkBlock (now : ℕ) (block : Block T) : Except String Unit :=
  match n.finalizedConflict block with
  | some e => .error e
  | none =>
    refuseIf (block.index ≠ n.chain.length)
      s!"Block height discontinuity: expected {n.chain.length}, got {block.index}" <|
    refuseIf (block.chainId ≠ n.chainId)
      s!"Invalid Chain ID: expected {n.chainId}, got {block.chainId}" <|
    refuseIf (block.txRoot ≠ M.calculateTxRoot block)
      s!"tx_root mismatch: expected {M.calculateTxRoot block}, got {block.txRoot}" <|
    refuseIf (block.hash ≠ M.calculateHash block)
      s!"block hash mismatch: expected {M.calculateHash block}, got {block.hash}" <|
    refuseIf (0 < block.index ∧ block.stateRoot = "") "Block missing state_root" <|
    match n.consensus.fullValidate M.toChainModules now block n.chain n.state with
    | .error e => .error s!"Consensus validation failed: {Engine.errorText e}"
    | .ok () => .ok ()

def settlementRoot : Hash32 := merkleRoot M.hashFields n.settlementFinalityHashes

/-- The hash of the last global header, zeros without one. -/
def globalHeaderSummary : Hash32 :=
  ((n.globalHeaders.getLast?).map (calculateHashBytes M.hashFields)).getD
    zeroRoot

def commitState (block : Block T) : Except String (AccountState T) :=
  if 0 < block.index then
    (replayBlock M block n.chain (n.settlementRoot M) (n.globalHeaderSummary M) id
      fun computedRoot =>
        s!"State root mismatch: expected {block.stateRoot}, got {computedRoot}").outcome n.state
  else (Blockchain.applyBlockEffects M.toChainModules block n.chain).outcome n.state

/-- The node once a block is durable. -/
def withBlock (block : Block T) (commitState : AccountState T) : Node T :=
  let n := { n with state := commitState }.applyPendingDomainUnfreezes
  let n := n.recordValidatorSnapshot M n.state.epochIndex
  let n := { n with
    chain := n.chain ++ [block]
    consensus := n.consensus.recordBlock M.toChainModules block }
  n.pruneConsensusEvidenceAfterCommit block.index

/-- `validate_and_add_block`: the content ids of the tokens that the block burned. -/
def validateAndAddBlock (now : ℕ) (block : Block T) : Method T (List Hash32) := do
  let n ← read id
  ofExcept id (n.checkBlock M now block)
  let prospective := { n.state with currentBlockHeight := block.index }
  ofExcept id ((Blockchain.admitTransactions M.toChainModules block 0
    block.transactions).run prospective).1
  let commitState ← ofExcept id (n.commitState M block)
  ofExcept (fun e => s!"Failed to commit block {block.index} durably: {e}")
    (n.commitBlockDurable block commitState)
  modify fun n => n.withBlock M block commitState
  pure (Blockchain.collectNftBurnCids M.toChainModules n.state block)

/-! ## Candidate chains -/

/-- One turn of the transaction loop of `validate_candidate_chain`. -/
def projectTransaction (block : Block T) (i : ℕ) (tx : Transaction T) :
    Exec (AccountState T) String Unit := do
  failIf (tx.chainId ≠ n.chainId)
    s!"Candidate transaction {i} at block {block.index} has wrong chain ID"
  let verdict ← read fun s => s.validateTransaction M.toModules tx
  ofExcept (fun e => s!"Candidate transaction {i} at block {block.index} is invalid: {e}")
    verdict
  mapError (fun e =>
      s!"Candidate transaction {i} at block {block.index} cannot execute: {M.errorText e}")
    (Executor.applyTransactionChecked M.toModules tx)

/-- The transaction loop of `validate_candidate_chain`, from index `i` on. -/
def projectTransactions (block : Block T) : ℕ → List (Transaction T) →
    Exec (AccountState T) String Unit
  | _, [] => pure ()
  | i, tx :: rest => do
      n.projectTransaction M block i tx
      projectTransactions block (i + 1) rest

/-- The checks of a candidate block in front of its transactions. -/
def checkCandidate (now : ℕ) (preceding : List (Block T)) (block : Block T)
    (s : AccountState T) : Except String Unit :=
  refuseIf (block.index ≠ preceding.length ∨
      ∃ parent ∈ preceding.getLast?, block.previousHash ≠ parent.hash)
    s!"Candidate chain discontinuity at height {block.index}" <|
  refuseIf (block.chainId ≠ n.chainId)
    (s!"Candidate block {block.index} has chain ID {block.chainId}, expected " ++
      toString n.chainId) <|
  refuseIf (block.txRoot ≠ M.calculateTxRoot block ∨ block.hash ≠ M.calculateHash block)
    s!"Candidate block {block.index} has invalid transaction root or hash" <|
  match n.consensus.fullValidate M.toChainModules now block preceding s with
  | .error e =>
    .error (s!"Candidate consensus validation failed at block {block.index}: " ++
      Engine.errorText e)
  | .ok () => .ok ()

/-- One turn of the loop of `validate_candidate_chain`. The transactions are tried on a
copy of the state. -/
def validateCandidateBlock (now : ℕ) (preceding : List (Block T)) (block : Block T) :
    Exec (AccountState T) String Unit := do
  let s ← read id
  ofExcept id (n.checkCandidate M now preceding block s)
  ofExcept id ((n.projectTransactions M block 0 block.transactions).run
    { s with currentBlockHeight := block.index }).1
  replayPlain M block preceding id s!"Candidate state root mismatch at block {block.index}"

/-- The loop of `validate_candidate_chain`. -/
def validateCandidateBlocks (now : ℕ) : List (Block T) → List (Block T) →
    Exec (AccountState T) String Unit
  | _, [] => pure ()
  | preceding, block :: rest => do
      n.validateCandidateBlock M now preceding block
      validateCandidateBlocks now (preceding ++ [block]) rest

def validateCandidateChain (now : ℕ) (chain : List (Block T)) : Except String (AccountState T) :=
  match chain with
  | [] => .error "Candidate chain is empty"
  | genesis :: rest =>
    if genesis ≠ n.genesisConfig.buildGenesisBlock M.toChainModules then
      .error "Candidate genesis does not match configured genesis"
    else (n.validateCandidateBlocks M now [genesis] rest).outcome n.genesisConfig.buildState

end Node

/-! ## Replaying a chain -/

/-- The loop of `rebuild_state`. -/
def rebuildBlocks : List (Block T) → List (Block T) → Exec (AccountState T) String Unit
  | _, [] => pure ()
  | preceding, block :: rest => do
      replayPlain M block preceding
        (fun e => s!"Failed to rebuild state at block {block.index}: {e}")
        s!"Failed to rebuild state root at block {block.index}"
      rebuildBlocks (preceding ++ [block]) rest

def rebuildState (chain : List (Block T)) (genesisConfig : GenesisConfig T) :
    Except String (AccountState T) :=
  match chain with
  | [] => .error "Cannot rebuild empty chain"
  | genesis :: rest =>
    if genesis.hash ≠ (genesisConfig.buildGenesisBlock M.toChainModules).hash ∨
        genesis.chainId ≠ genesisConfig.chainId then
      .error "Candidate chain genesis does not match configured genesis"
    else (rebuildBlocks M [genesis] rest).outcome genesisConfig.buildState

def findForkPoint (ours theirs : List (Block T)) : Option ℕ :=
  match (ours.zip theirs).findIdx? fun p => p.1.hash != p.2.hash with
  | some index => some index
  | none => if ours.length ≠ theirs.length then some (min ours.length theirs.length) else none

namespace Node

variable (n : Node T)

/-! ## Reorganisation -/

/-- A nonce of a domain's commitment, taken if it is ahead of the account's. -/
def raiseNonce (s : AccountState T) (update : Address × ℕ) : AccountState T :=
  if s.getNonce update.1 < update.2 then
    s.setAccount update.1 { s.account update.1 with nonce := update.2 }
  else s

/-- Take in a stored commitment and the nonces it carries. -/
def reloadCommitment (domains : ConsensusDomainRegistry)
    (acc : DomainCommitmentRegistry × AccountState T) (c : DomainCommitment) :
    DomainCommitmentRegistry × AccountState T :=
  match domains.validateCommitment c with
  | .error _ => acc
  | .ok () =>
    match acc.1.insertCommitment c with
    | .error _ => acc
    | .ok registry => (registry, c.stateUpdates.entries.foldl raiseNonce acc.2)

/-- The registry of the messages on the disk, each inserted if it passes its checks. -/
def reloadMessages (messages : List CrossDomainMessage) : SortedMap Id32 CrossDomainMessage :=
  messages.foldl
    (fun registry message =>
      if message.verifyId M.hashFields = false ∨ registry.contains message.messageId then registry
      else registry.insert message.messageId message)
    ∅

/-- The global headers on the disk, as far as they form a chain. -/
def storedGlobalHeaders : List GlobalBlockHeader :=
  match n.disk.loadGlobalHeaders with
  | .ok headers => validatedGlobalHeaderPrefix M.hashFields headers n.chainId
  | .error _ => []

def storedDomains : ConsensusDomainRegistry :=
  match n.disk.loadConsensusDomains with
  | .ok domains => ConsensusDomainRegistry.reload domains
  | .error _ => ∅

def storedCommitments : List DomainCommitment :=
  match n.disk.loadDomainCommitments with
  | .ok commitments => commitments
  | .error _ => []

/-- Reload what the reorganisation cleared from the disk. What the disk holds of the
nonces, the bridge and the messages is taken into the state. -/
def reload : Node T :=
  let loaded := n.storedCommitments.foldl (reloadCommitment n.storedDomains) (∅, n.state)
  let bridgeState := match n.disk.loadBridgeState with
    | .ok (some bridgeState) => bridgeState
    | _ => n.state.bridgeState
  let messageRegistry := match n.disk.loadCrossDomainMessages with
    | .ok messages => reloadMessages M messages
    | .error _ => n.state.messageRegistry
  { n with
    domainRegistry := n.storedDomains
    domainCommitmentRegistry := loaded.1
    globalHeaders := n.storedGlobalHeaders M
    state := { loaded.2 with bridgeState, messageRegistry } }

/-- The node with a new chain and its state, and everything of the old chain cleared. -/
def switchChain (newChain : List (Block T)) (newState : AccountState T) (forkPoint : ℕ) : Node T :=
  { n with
    verifiedQcBlobs := (n.chain.drop forkPoint).foldl
      (fun blobs (block : Block T) => blobs.erase block.index) n.verifiedQcBlobs
    chain := newChain
    state := newState
    domainRegistry := ∅
    domainCommitmentRegistry := ∅
    globalHeaders := []
    pendingFinalityCerts := ∅
    settlementFinalityHashes := []
    universalRelayer := UniversalRelayer.new
    validatorSnapshots := ∅ }

/-- Switch to a new chain, reload from the disk if there is one, and take a snapshot of
the validators. -/
def adoptChain (newChain : List (Block T)) (newState : AccountState T) (forkPoint : ℕ) : Node T :=
  let m := match n.storage with
    | none => n.switchChain newChain newState forkPoint
    | some _ => (n.switchChain newChain newState forkPoint).reload M
  m.recordValidatorSnapshot M m.state.epochIndex

/-- The loop of `try_reorg` that replays the new blocks and writes them to the disk. -/
def persistBlocks : List (Block T) → Exec (AccountState T) String Unit
  | [] => pure ()
  | block :: rest => do
      replayPlain M block (n.chain.take block.index) id
        s!"Reorg persistence state root mismatch at block {block.index}"
      let s ← read id
      ofExcept id (n.commitBlockDurable block s)
      persistBlocks rest

def persistReorg (forkPoint : ℕ) : Except String Unit :=
  match n.storage with
  | none => .ok ()
  | some _ =>
    match rebuildState M (n.chain.take forkPoint) n.genesisConfig with
    | .error e => .error e
    | .ok s => ((n.persistBlocks M (n.chain.drop forkPoint)).run s).1

/-- The checks of `try_reorg`: nothing to do, or a fork point and the new state. -/
def reorgPlan (now : ℕ) (newChain : List (Block T)) :
    Except String (Option (ℕ × AccountState T)) :=
  if n.consensus.isBetterChain n.chain newChain = false then .ok none
  else match findForkPoint n.chain newChain with
    | none => .ok none
    | some forkPoint =>
      if forkPoint = 0 then .error "Candidate chain attempts to replace configured genesis"
      else if maxReorgDepth < n.chain.length - forkPoint then
        .error s!"Reorg depth {n.chain.length - forkPoint} exceeds max {maxReorgDepth}"
      else if forkPoint ≤ n.finalizedHeight then
        .error (s!"Cannot reorg fork point {forkPoint} at or below finalized height " ++
          toString n.finalizedHeight)
      else match newChain[n.finalizedHeight]? with
        | none => .error "Candidate chain omits finalized checkpoint"
        | some candidateFinalized =>
          if candidateFinalized.hash ≠ n.finalizedHash then
            .error "Candidate chain conflicts with finalized checkpoint hash"
          else match n.validateCandidateChain M now newChain with
            | .error e => .error e
            | .ok newState => .ok (some (forkPoint, newState))

def tryReorg (now : ℕ) (newChain : List (Block T)) : Method T Bool := do
  let n ← read id
  match (← ofExcept id (n.reorgPlan M now newChain)) with
  | none => pure false
  | some (forkPoint, newState) => do
      modify fun n => n.adoptChain M newChain newState forkPoint
      let n ← read id
      ofExcept id (n.persistReorg M forkPoint)
      pure true

end Node

/-! ## A small node -/

/-- Modules whose hashes have one text and whose post-quantum signatures all verify. -/
def NodeModules.refusing : NodeModules ModuleTypes.point (ZMod 101) (ZMod 101) where
  toChainModules := { ChainModules.refusing with hexEncode := fun _ => "00" }
  toFinalityDeps := smallDeps
  pqVerify _ _ _ := .ok ()
  addressFromHex _ := .error "refused"
  maliciousRatio _ := 0

/-- A disk with nothing on it that takes every write. -/
def Disk.empty : Disk .point where
  completes _ := true
  commitDurableBatch _ := .ok ()
  loadConsensusDomains := .ok []
  loadDomainCommitments := .ok []
  loadGlobalHeaders := .ok []
  loadBridgeState := .ok none
  loadCrossDomainMessages := .ok []
  getQcBlob _ := none
  getFinalityCert _ := none

/-- A genesis without accounts or validators. -/
def GenesisConfig.point : GenesisConfig .point := ⟨1, 0, AccountState.point, rfl⟩

/-- An empty block without proof of work. -/
def Block.plain (index timestamp : ℕ) (previousHash : String) : Block .point :=
  { index, timestamp, previousHash
    hash := s!"{index}/{timestamp}"
    transactions := []
    nonce := 0
    producer := none
    signature := none
    producerPublicKey := []
    chainId := 1
    slashingEvidence := none
    stateRoot := "00"
    txRoot := "txs"
    epoch := 0
    slot := 0
    vrfOutput := []
    vrfProof := []
    validatorSetHash := ""
    storageRoot := none }

/-- A node at its genesis, under proof of work of difficulty zero. -/
def Node.plain (disk : Disk .point) : Node .point where
  chain := [GenesisConfig.point.buildGenesisBlock NodeModules.refusing.toChainModules]
  storage := some ⟨fun _ => .ok (), fun _ => .ok (), fun _ _ => .ok ()⟩
  state := AccountState.point.withDerivedRoots NodeModules.refusing.toChainModules
  domainRegistry := ∅
  domainCommitmentRegistry := ∅
  universalRelayer := UniversalRelayer.new
  chainId := 1
  genesisConfig := .point
  consensus := .poW ⟨0, 10, 0⟩
  disk := disk
  finalizedHeight := 0
  finalizedHash := "0/0"
  verifiedQcBlobs := ∅
  maxQcBlobs := 1000
  validatorSnapshots := ∅
  maxValidatorSnapshots := 100
  pendingFinalityCerts := ∅
  maxPendingCerts := 100
  globalHeaders := []
  settlementFinalityHashes := []

end Budlum
