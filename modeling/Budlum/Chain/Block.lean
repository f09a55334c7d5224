import Budlum.Chain.ValidatorSet
import Budlum.Core.Epoch
import Budlum.CrossDomain.EventTree

/-!
# Blocks and the state root

`Block`, what the chain calls outside of this tree, the genesis of a chain, and
`calculate_state_root`. The root covers an account state but for its queue of domain
unfreezes; of the bridge and of the messages it takes the roots that were last derived.
-/

namespace Budlum

open Machine ValidatorSetSnapshot

def maxTransactionsPerBlock : ℕ := 5000

structure BlockHeader (T : ModuleTypes) where
  index : ℕ
  producer : Option Address
  hash : String
  rest : T.BlockRest
deriving DecidableEq

structure SlashingEvidence (T : ModuleTypes) where
  header1 : BlockHeader T
  header2 : BlockHeader T
  signature1 : Bytes
  signature2 : Bytes
deriving DecidableEq

structure Block (T : ModuleTypes) where
  index : ℕ
  timestamp : ℕ
  previousHash : String
  hash : String
  transactions : List (Transaction T)
  nonce : ℕ
  producer : Option Address
  signature : Option Bytes
  producerPublicKey : Bytes
  chainId : ℕ
  slashingEvidence : Option (List (SlashingEvidence T))
  stateRoot : String
  txRoot : String
  epoch : ℕ
  slot : ℕ
  vrfOutput : Bytes
  vrfProof : Bytes
  validatorSetHash : String
  storageRoot : Option Hash32
deriving DecidableEq

structure LivenessReport (T : ModuleTypes) where
  offender : Address
  rest : T.Rest

/-- The encodings and registry roots that the state root is made of. The root of a
registry that may be left out is `none` when it is. -/
structure StateEncoding (T : ModuleTypes) where
  tokenomics : TokenomicsParams → Bytes
  timedBurn : TimedBurnState → Bytes
  burnReserve : Option Address → Bytes
  teamVesting : Option (Address × VestingSchedule) → Bytes
  externalRoots : SortedMap ℕ Hash32 → Bytes
  ai : T.AiRegistry → Option Hash32
  notes : T.NoteRegistry → Option Hash32
  storage : T.StorageRegistry → Option Hash32
  proofMarket : T.ProofMarket → Option Hash32
  bns : BnsRegistry → Option Hash32
  nft : NftRegistry → Option Hash32
  marketplace : MarketplaceRegistry → Hash32
  hub : T.HubRegistry → Option Hash32
  registry : T.Registry → Option Hash32
  liveness : T.Liveness → Option Hash32
  invalidVotes : T.InvalidVotes → Option Hash32
  governance : T.Governance → Option Hash32

/-- What the chain calls outside of this tree. -/
structure ChainModules (T : ModuleTypes) extends EpochModules T where
  -- blocks and transactions
  calculateTxRoot : Block T → String
  calculateHash : Block T → String
  verifyBlockSignature : Block T → Bool
  verifySignatureWithPubkey : Block T → Address → Bool
  headerOf : Block T → BlockHeader T
  verifyHeaderSignature : BlockHeader T → Bytes → Bool
  blockJson : Block T → Except String Bytes
  genesisTransaction : Transaction T
  errorText : BudlumError → String
  -- hashes and keys
  sha3 : Bytes → Hash32
  hexDecode : String → Option Bytes
  vrfPublicKeyValid : Bytes → Bool
  vrfOutputValid : Bytes → Bool
  vrfProofValid : Bytes → Bool
  vrfVerify : Bytes → Bytes → Bytes → Bytes → Bool
  pqPublicKeyValid : Bytes → Bool
  -- registries
  encoding : StateEncoding T
  doubleSignRatio : T.Registry → ℕ
  livenessSlashingEnabled : T.Registry → Bool
  livenessJailEpochs : ℕ
  recordEpoch : ℕ → List Address → (Address → Bool) → T.Registry → T.Liveness →
    List (LivenessReport T) × T.Liveness
  slashFromReport : LivenessReport T → T.Registry → T.Registry
  pruneContent : Hash32 → ℕ → T.StorageRegistry → T.StorageRegistry
  /-- The active deals: the operator and the fee of one epoch. -/
  activeDeals : T.StorageRegistry → List (Address × ℕ)

/-- The modules of `refusing`, with empty registry roots. A block's hash tells its height
and its time. -/
def ChainModules.refusing : ChainModules .point where
  toEpochModules := .refusing
  calculateTxRoot _ := "txs"
  calculateHash block := s!"{block.index}/{block.timestamp}"
  verifyBlockSignature _ := true
  verifySignatureWithPubkey _ _ := true
  headerOf block := ⟨block.index, block.producer, block.hash, ()⟩
  verifyHeaderSignature _ _ := true
  blockJson _ := .ok []
  genesisTransaction :=
    { hash := "genesis", sender := .zero, recipient := .zero, amount := 0, fee := 0
      maxFee := 0, priorityFee := 0, nonce := 0, data := [], chainId := 1, txType := .transfer }
  errorText _ := "refused"
  sha3 bytes := bytes
  hexDecode _ := some []
  vrfPublicKeyValid _ := true
  vrfOutputValid _ := true
  vrfProofValid _ := true
  vrfVerify _ _ _ _ := true
  pqPublicKeyValid _ := true
  encoding :=
    { tokenomics := fun _ => [], timedBurn := fun _ => [], burnReserve := fun _ => []
      teamVesting := fun _ => [], externalRoots := fun _ => [], ai := fun _ => none
      notes := fun _ => none, storage := fun _ => none, proofMarket := fun _ => none
      bns := fun _ => none, nft := fun _ => none, marketplace := fun _ => []
      hub := fun _ => none, registry := fun _ => none, liveness := fun _ => none
      invalidVotes := fun _ => none, governance := fun _ => none }
  doubleSignRatio _ := 0
  livenessSlashingEnabled _ := false
  livenessJailEpochs := 0
  recordEpoch _ _ _ _ liveness := ([], liveness)
  slashFromReport _ registry := registry
  pruneContent _ _ registry := registry
  activeDeals _ := []

/-! ## Roots -/

/-- `status_bytes`. -/
def BridgeStatus.bytes : BridgeStatus → Bytes
  | .active domain => strBytes "active" ++ u32LeBytes domain
  | .locked domain => strBytes "locked" ++ u32LeBytes domain
  | .minted domain => strBytes "minted" ++ u32LeBytes domain
  | .burned domain => strBytes "burned" ++ u32LeBytes domain
  | .unlocked domain => strBytes "unlocked" ++ u32LeBytes domain

section

variable (hashFields : List Bytes → Hash32)

def BridgeState.root (b : BridgeState) : Hash32 :=
  let assets := b.assetLocations.entries.map fun e =>
    hashFields [strBytes "BDLM_BRIDGE_ASSET_LEAF_V1", e.1.bytes, e.2.bytes]
  let transfers := b.transfers.entries.map fun e =>
    hashFields [strBytes "BDLM_BRIDGE_TRANSFER_V1", e.1.bytes, e.2.assetId.bytes,
      u32LeBytes e.2.sourceDomain, u32LeBytes e.2.targetDomain, e.2.owner.asBytes,
      e.2.recipient.asBytes, u128LeBytes e.2.amount, e.2.status.bytes, e.2.sourceEventHash,
      u64LeBytes e.2.expiryHeight]
  merkleRoot hashFields (assets ++ transfers)

/-- `CrossDomainMessageRegistry::root`. -/
def messageRegistryRoot (messages : SortedMap Id32 CrossDomainMessage) : Hash32 :=
  merkleRoot hashFields (messages.values.map fun m =>
    hashFields [strBytes "BDLM_MESSAGE_LEAF_V1", m.messageId.bytes, u32LeBytes m.sourceDomain,
      u32LeBytes m.targetDomain, u64LeBytes m.nonce, m.kind.asBytes])

end

namespace AccountState

variable {T : ModuleTypes} (M : ChainModules T) (s : AccountState T)

/-- The four key fields, each after its length (`update_consensus_keys_sha2`). -/
def consensusKeyBytes (v : Validator) : Bytes :=
  updateWithLength v.vrfPublicKey ++
    updateWithLength v.blsPublicKey ++
    updateWithLength v.popSignature ++
    updateWithLength v.pqPublicKey

def boolByte (b : Bool) : Bytes := [if b then 1 else 0]

/-- A validator's leaf. The last proposed block is never recorded and hashes as 0. -/
def validatorLeaf (a : Address) (v : Validator) : Hash32 :=
  M.sha256 (a.asBytes ++ u64LeBytes v.stake ++ boolByte v.active ++ boolByte v.slashed ++
    boolByte v.jailed ++ u64LeBytes v.jailUntil ++ u64LeBytes 0 ++ u64LeBytes v.votesFor ++
    u64LeBytes v.votesAgainst ++ consensusKeyBytes v)

/-- The hash over a list of leaves, zero for none. -/
def combinedRoot (leaves : List Hash32) : Hash32 :=
  if leaves.isEmpty then List.replicate 32 0 else M.sha256 leaves.flatten

def validatorsRoot : Hash32 :=
  combinedRoot M (s.validators.entries.map fun e => validatorLeaf M e.1 e.2)

def unbondingRoot : Hash32 :=
  let sorted := s.unbondingQueue.insertionSort fun a b =>
    a.address < b.address ∨ a.address = b.address ∧ a.releaseEpoch ≤ b.releaseEpoch
  combinedRoot M (sorted.map fun e =>
    M.sha256 (e.address.asBytes ++ u64LeBytes e.amount ++ u64LeBytes e.releaseEpoch))

/-- The section of a registry: its tag and its root, or nothing. -/
def tagged (tag : String) : Option Hash32 → Bytes
  | some root => strBytes tag ++ root
  | none => []

def registrySections : Bytes :=
  tagged "ai_v1" (M.encoding.ai s.aiRegistry) ++
    tagged "note_v1" (M.encoding.notes s.noteRegistry) ++
    tagged "storage_v1" (M.encoding.storage s.storageRegistry) ++
    tagged "proof_market_v1" (M.encoding.proofMarket s.proofMarket) ++
    tagged "bns_v1" (M.encoding.bns s.bnsRegistry) ++
    tagged "socialfi_v1" (M.encoding.nft s.nftRegistry) ++
    tagged "pollen_v1" (some (M.encoding.marketplace s.marketplace)) ++
    tagged "hub_v1" (M.encoding.hub s.budlumxyz) ++
    tagged "registry_v1" (M.encoding.registry s.registry) ++
    tagged "liveness_v1" (M.encoding.liveness s.liveness) ++
    tagged "invalid_votes_v1" (M.encoding.invalidVotes s.invalidVotes) ++
    tagged "external_roots_v1"
      (if s.externalRoots.entries.isEmpty then none
        else some (M.encoding.externalRoots s.externalRoots)) ++
    tagged "governance_v1" (M.encoding.governance s.governance)

/-- What `calculate_state_root` hashes, given the root of the accounts. -/
def rootPreimage (accountsRoot : Hash32) : Bytes :=
  strBytes "v2" ++ u64LeBytes s.epochIndex ++ accountsRoot ++ s.validatorsRoot M ++
    s.unbondingRoot M ++ u64LeBytes s.baseFee ++ u64LeBytes s.tokenomics.blockReward ++
    strBytes "tokenomics_v1" ++ M.encoding.tokenomics s.tokenomics ++
    strBytes "timed_burn_v1" ++ M.encoding.timedBurn s.timedBurn ++
    strBytes "burn_reserve_v1" ++ M.encoding.burnReserve s.burnReserveAddress ++
    strBytes "team_vesting_v1" ++ M.encoding.teamVesting s.teamVesting ++
    s.bridgeRoot ++ s.messageRoot ++ s.settlementRoot ++ s.registrySections M ++
    s.globalHeaderSummary ++ strBytes "gov_disabled"

/-- `calculate_state_root`: the root, and the state with its account tree up to date. -/
def calculateStateRoot : String × AccountState T :=
  let accounts := s.calculateAccountsRoot M.toModules
  (M.hexEncode (M.sha256 (s.rootPreimage M accounts.1)), accounts.2)

def withDerivedRoots : AccountState T :=
  { s with
    bridgeRoot := s.bridgeState.root M.hashFields
    messageRoot := messageRegistryRoot M.hashFields s.messageRegistry }

/-- `get_active_validators`. The map is in address order already. -/
def getActiveValidators : List Validator :=
  s.validators.values.filter fun v => v.active && !v.slashed

def keysValid (chainId : ℕ) (v : Validator) : Bool :=
  v.isConsensusReady && v.verifyPopIsValid M.toModules chainId &&
    M.vrfPublicKeyValid v.vrfPublicKey && M.pqPublicKeyValid v.pqPublicKey

def consensusValidatorSetHash (chainId : ℕ) : Except String String :=
  let validators := s.getActiveValidators
  match validators.find? fun v => !keysValid M chainId v with
  | some v =>
    .error s!"Active validator {M.addressText v.address} has incomplete or invalid consensus keys"
  | none =>
    .ok (M.hexEncode (M.sha3 (strBytes "BDLM_CONSENSUS_VALIDATOR_SET_V1" ++ u64LeBytes chainId ++
      u64LeBytes validators.length ++ validators.flatMap fun v =>
        v.address.asBytes ++ u64LeBytes v.stake ++ consensusKeyBytes v)))

end AccountState

/-! ## Genesis -/

/-- `GenesisConfig`: what `build_state` builds from the allocations, the validators and
the tokenomics, starting at `AccountState::new`, and what the genesis block adds to it. -/
structure GenesisConfig (T : ModuleTypes) where
  chainId : ℕ
  timestamp : ℕ
  buildState : AccountState T
  no_unfreezes : buildState.pendingDomainUnfreezes = []

namespace GenesisConfig

variable {T : ModuleTypes} (M : ChainModules T) (g : GenesisConfig T)

def zeroHash : String := String.ofList (List.replicate 64 '0')

/-- The genesis block before its roots are computed. -/
def bareGenesisBlock : Block T where
  index := 0
  timestamp := g.timestamp
  previousHash := zeroHash
  hash := ""
  transactions := [M.genesisTransaction]
  nonce := 0
  producer := none
  signature := none
  producerPublicKey := []
  chainId := g.chainId
  slashingEvidence := none
  stateRoot := (g.buildState.calculateStateRoot M).1
  txRoot := zeroHash
  epoch := 0
  slot := 0
  vrfOutput := []
  vrfProof := []
  validatorSetHash := match g.buildState.consensusValidatorSetHash M g.chainId with
    | .ok hash => hash
    | .error _ => "INVALID_CONSENSUS_VALIDATOR_SET"
  storageRoot := none

def buildGenesisBlock : Block T :=
  let block := g.bareGenesisBlock M
  let block := { block with txRoot := M.calculateTxRoot block }
  { block with hash := M.calculateHash block }

end GenesisConfig

end Budlum
