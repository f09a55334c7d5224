import Budlum.Chain.Block
import Budlum.Chain.FinalityCert
import Budlum.Lib.Delimited

/-!
# State snapshots

`StateSnapshotV2` is what a node writes of its state and what another node restores.
`from_state` takes a snapshot, `from_snapshot_v2` restores one, and `calculate_digest` hashes
one: the sections in front are written by hand, one after the other, and the registries behind
them are serialized, each after its length.

The validators have fields here that execution reads nothing of and `AccountState` leaves
out; a `FullState` has them.
-/

namespace Budlum

open Machine AccountState ValidatorSetSnapshot SortedMap

structure ValidatorRecord extends Validator where
  lastProposedBlock : Option ℕ
  roles : List RoleId
deriving DecidableEq

structure TokenomicsBurnSnapshot where
  timedBurn : TimedBurnState
  burnReserveAddress : Option Address
  teamVesting : Option (Address × VestingSchedule)
deriving DecidableEq

inductive SnapshotTrustPolicy
  | allowUnsigned
  | requireSigned
deriving DecidableEq

structure StateSnapshotV2 (T : ModuleTypes) where
  schemaVersion : ℕ
  height : ℕ
  blockHash : String
  genesisHash : String
  chainId : ℕ
  createdAt : ℕ
  balances : SortedMap Address ℕ
  nonces : SortedMap Address ℕ
  finalizedHeight : ℕ
  finalizedHash : String
  validators : SortedMap Address ValidatorRecord
  unbondingQueue : List UnbondingEntry
  finalityCertificates : List FinalityCert
  epochIndex : ℕ
  lastEpochTime : ℕ
  baseFee : ℕ
  blockReward : ℕ
  bridgeRoot : Hash32
  messageRoot : Hash32
  settlementRoot : Hash32
  globalHeaderSummary : Hash32
  tokenomics : TokenomicsParams
  tokenomicsBurn : Option TokenomicsBurnSnapshot
  registry : Option T.Registry
  liveness : Option T.Liveness
  invalidVotes : Option T.InvalidVotes
  bnsRegistry : Option BnsRegistry
  nftRegistry : Option NftRegistry
  marketplace : Option MarketplaceRegistry
  budlumxyz : Option T.HubRegistry
  governance : Option T.Governance
  storageRegistry : Option T.StorageRegistry
  aiRegistry : Option T.AiRegistry
  noteRegistry : Option T.NoteRegistry
  bridgeState : Option BridgeState
  messageRegistry : Option (SortedMap Id32 CrossDomainMessage)
  externalRoots : Option (SortedMap ℕ Hash32)
  proofMarket : Option T.ProofMarket
  manifestSigner : Option Hash32
  manifestSignature : Option Bytes
  trustPolicy : SnapshotTrustPolicy
  snapshotHash : String

structure StateSnapshotV2Params where
  height : ℕ
  blockHash : String
  genesisHash : String
  chainId : ℕ
  finalizedHeight : ℕ
  finalizedHash : String
  finalityCertificates : List FinalityCert

/-- What snapshots call outside of this tree: `bincode::serialize` of each field and the
`Default` of each registry. -/
structure SnapshotModules (T : ModuleTypes) where
  tokenomics : TokenomicsParams → Bytes
  tokenomicsBurn : TokenomicsBurnSnapshot → Bytes
  registry : T.Registry → Bytes
  liveness : T.Liveness → Bytes
  invalidVotes : T.InvalidVotes → Bytes
  bnsRegistry : BnsRegistry → Bytes
  nftRegistry : NftRegistry → Bytes
  marketplace : MarketplaceRegistry → Bytes
  budlumxyz : T.HubRegistry → Bytes
  governance : T.Governance → Bytes
  storageRegistry : T.StorageRegistry → Bytes
  aiRegistry : T.AiRegistry → Bytes
  noteRegistry : T.NoteRegistry → Bytes
  trustPolicy : SnapshotTrustPolicy → Bytes
  bridgeState : BridgeState → Bytes
  messageRegistry : SortedMap Id32 CrossDomainMessage → Bytes
  externalRoots : SortedMap ℕ Hash32 → Bytes
  proofMarket : T.ProofMarket → Bytes
  finalityCertificates : List FinalityCert → Bytes
  defaultRegistry : T.Registry
  defaultLiveness : T.Liveness
  defaultInvalidVotes : T.InvalidVotes
  defaultHub : T.HubRegistry
  defaultGovernance : T.Governance
  defaultStorage : T.StorageRegistry
  defaultAi : T.AiRegistry
  defaultNotes : T.NoteRegistry
  defaultMarket : T.ProofMarket

/-- An `AccountState` with the fields that execution leaves alone. -/
structure FullState (T : ModuleTypes) where
  state : AccountState T
  /-- The last proposed block and the roles of each validator. -/
  record : Address → Option ℕ × List RoleId

variable {T : ModuleTypes} (M : ChainModules T) (S : SnapshotModules T)

namespace StateSnapshotV2

variable (s : StateSnapshotV2 T)

def hashSerializable (bytes : Bytes) : Bytes := u64LeBytes bytes.length ++ bytes

def hashOptSerializable {α : Type} (serialize : α → Bytes) : Option α → Bytes
  | none => [0]
  | some value => [1] ++ hashSerializable (serialize value)

def balanceBytes (e : Address × ℕ) : Bytes := e.1.asBytes ++ u64LeBytes e.2

/-- What one validator adds to the digest. -/
def validatorBytes (e : Address × ValidatorRecord) : Bytes :=
  e.1.asBytes ++ u64LeBytes e.2.stake ++ boolByte e.2.active ++ boolByte e.2.slashed ++
    boolByte e.2.jailed ++ u64LeBytes e.2.jailUntil ++
    updateWithLength e.2.blsPublicKey ++
    updateWithLength e.2.popSignature ++
    updateWithLength e.2.pqPublicKey

def unbondingBytes (e : UnbondingEntry) : Bytes :=
  e.address.asBytes ++ u64LeBytes e.amount ++ u64LeBytes e.releaseEpoch

/-- The serialized sections of schema 4. -/
def serialized : Bytes :=
  hashSerializable (S.tokenomics s.tokenomics) ++
    hashOptSerializable S.tokenomicsBurn s.tokenomicsBurn ++
    hashOptSerializable S.registry s.registry ++
    hashOptSerializable S.liveness s.liveness ++
    hashOptSerializable S.invalidVotes s.invalidVotes ++
    hashOptSerializable S.bnsRegistry s.bnsRegistry ++
    hashOptSerializable S.nftRegistry s.nftRegistry ++
    hashOptSerializable S.marketplace s.marketplace ++
    hashOptSerializable S.budlumxyz s.budlumxyz ++
    hashOptSerializable S.governance s.governance ++
    hashOptSerializable S.storageRegistry s.storageRegistry ++
    hashOptSerializable S.aiRegistry s.aiRegistry ++
    hashOptSerializable S.noteRegistry s.noteRegistry ++
    hashSerializable (S.trustPolicy s.trustPolicy) ++
    hashOptSerializable S.bridgeState s.bridgeState ++
    hashOptSerializable S.messageRegistry s.messageRegistry ++
    hashOptSerializable S.externalRoots s.externalRoots ++
    hashOptSerializable S.proofMarket s.proofMarket ++
    hashSerializable (S.finalityCertificates s.finalityCertificates) ++
    u128LeBytes s.createdAt

def handWritten : Bytes :=
  (if 4 ≤ s.schemaVersion then strBytes "budlum.snapshot.v4" else []) ++
    u32LeBytes s.schemaVersion ++ u64LeBytes s.height ++
    hashSerializable (strBytes s.blockHash) ++ hashSerializable (strBytes s.genesisHash) ++
    u64LeBytes s.chainId ++
    s.balances.entries.flatMap balanceBytes ++ s.nonces.entries.flatMap balanceBytes ++
    s.validators.entries.flatMap validatorBytes ++ s.unbondingQueue.flatMap unbondingBytes ++
    u64LeBytes s.finalizedHeight ++ strBytes s.finalizedHash ++
    u64LeBytes s.epochIndex ++ u64LeBytes s.lastEpochTime ++ u64LeBytes s.baseFee ++
    u64LeBytes s.blockReward ++ s.bridgeRoot ++ s.messageRoot ++ s.settlementRoot ++
    s.globalHeaderSummary

def digestPreimage : Bytes :=
  s.handWritten ++ (if 4 ≤ s.schemaVersion then s.serialized S else [])

def calculateDigest : Hash32 := M.sha3 (s.digestPreimage S)

def calculateHash : String := M.hexEncode (s.calculateDigest M S)

/-- `CURRENT_STATE_SNAPSHOT_SCHEMA_VERSION`. -/
def currentSchemaVersion : ℕ := 4

def unsealed (f : FullState T) (now : ℕ) (params : StateSnapshotV2Params) :
    StateSnapshotV2 T :=
  { schemaVersion := currentSchemaVersion
    height := params.height
    blockHash := params.blockHash
    genesisHash := params.genesisHash
    chainId := params.chainId
    createdAt := now
    balances := f.state.ledger.accounts.mapValues fun _ account => account.balance
    nonces := f.state.ledger.accounts.mapValues fun _ account => account.nonce
    finalizedHeight := params.finalizedHeight
    finalizedHash := params.finalizedHash
    validators := f.state.validators.mapValues fun a v => ⟨v, (f.record a).1, (f.record a).2⟩
    unbondingQueue := f.state.unbondingQueue
    finalityCertificates := params.finalityCertificates
    epochIndex := f.state.epochIndex
    lastEpochTime := f.state.lastEpochTime
    baseFee := f.state.baseFee
    blockReward := f.state.tokenomics.blockReward
    bridgeRoot := f.state.bridgeRoot
    messageRoot := f.state.messageRoot
    settlementRoot := f.state.settlementRoot
    globalHeaderSummary := f.state.globalHeaderSummary
    tokenomics := f.state.tokenomics
    tokenomicsBurn := some ⟨f.state.timedBurn, f.state.burnReserveAddress, f.state.teamVesting⟩
    registry := some f.state.registry
    liveness := some f.state.liveness
    invalidVotes := some f.state.invalidVotes
    bnsRegistry := some f.state.bnsRegistry
    nftRegistry := some f.state.nftRegistry
    marketplace := some f.state.marketplace
    budlumxyz := some f.state.budlumxyz
    governance := some f.state.governance
    storageRegistry := some f.state.storageRegistry
    aiRegistry := some f.state.aiRegistry
    noteRegistry := some f.state.noteRegistry
    bridgeState := some f.state.bridgeState
    messageRegistry := some f.state.messageRegistry
    externalRoots := some f.state.externalRoots
    proofMarket := some f.state.proofMarket
    manifestSigner := none
    manifestSignature := none
    trustPolicy := .allowUnsigned
    snapshotHash := "" }

/-- `StateSnapshotV2::from_state`, at a reading of the clock. -/
def fromState (f : FullState T) (now : ℕ) (params : StateSnapshotV2Params) :
    StateSnapshotV2 T :=
  { unsealed f now params with snapshotHash := (unsealed f now params).calculateHash M S }

end StateSnapshotV2

namespace FullState

def validatorRecords (f : FullState T) : SortedMap Address ValidatorRecord :=
  f.state.validators.mapValues fun a v => ⟨v, (f.record a).1, (f.record a).2⟩

/-- The accounts that `from_snapshot_v2` rebuilds. A nonce without a balance is dropped. -/
def restoredAccounts (s : StateSnapshotV2 T) : SortedMap Address Account :=
  s.balances.mapValues fun a balance => ⟨a, balance, (s.nonces.get? a).getD 0⟩

def fromSnapshotV2 (s : StateSnapshotV2 T) : FullState T where
  state :=
    { ledger := AccountLedger.new (restoredAccounts s)
      validators := s.validators.mapValues fun _ v => v.toValidator
      tokenomics := { s.tokenomics with blockReward := s.blockReward }
      timedBurn := (s.tokenomicsBurn.map TokenomicsBurnSnapshot.timedBurn).getD ⟨0, 0⟩
      bnsRegistry := s.bnsRegistry.getD BnsRegistry.new
      nftRegistry := s.nftRegistry.getD NftRegistry.new
      marketplace := s.marketplace.getD MarketplaceRegistry.new
      budlumxyz := s.budlumxyz.getD S.defaultHub
      aiRegistry := s.aiRegistry.getD S.defaultAi
      noteRegistry := s.noteRegistry.getD S.defaultNotes
      bridgeState := s.bridgeState.getD BridgeState.new
      messageRegistry := s.messageRegistry.getD ∅
      externalRoots := s.externalRoots.getD ∅
      burnReserveAddress := s.tokenomicsBurn.bind TokenomicsBurnSnapshot.burnReserveAddress
      teamVesting := s.tokenomicsBurn.bind TokenomicsBurnSnapshot.teamVesting
      unbondingQueue := s.unbondingQueue
      epochIndex := s.epochIndex
      currentBlockHeight := s.height
      governance := s.governance.getD S.defaultGovernance
      baseFee := s.baseFee
      registry := s.registry.getD S.defaultRegistry
      pendingBudBoostShare := 0
      pendingDomainUnfreezes := []
      storageRegistry := s.storageRegistry.getD S.defaultStorage
      liveness := s.liveness.getD S.defaultLiveness
      invalidVotes := s.invalidVotes.getD S.defaultInvalidVotes
      proofMarket := s.proofMarket.getD S.defaultMarket
      lastEpochTime := s.lastEpochTime
      bridgeRoot := s.bridgeRoot
      messageRoot := s.messageRoot
      settlementRoot := s.settlementRoot
      globalHeaderSummary := s.globalHeaderSummary }
  record a := ((s.validators.get? a).bind ValidatorRecord.lastProposedBlock,
    ((s.validators.get? a).map ValidatorRecord.roles).getD [])

lemma validatorRecords_fromSnapshotV2 (s : StateSnapshotV2 T) :
    (fromSnapshotV2 S s).validatorRecords = s.validators := by
  apply ext_get?
  intro a
  rw [validatorRecords]
  rcases h : s.validators.get? a with _ | v
  · simp [fromSnapshotV2, get?_mapValues, h]
  · simp [fromSnapshotV2, get?_mapValues, h]

end FullState

def SnapshotModules.point : SnapshotModules .point where
  tokenomics _ := []
  tokenomicsBurn _ := []
  registry _ := []
  liveness _ := []
  invalidVotes _ := []
  bnsRegistry _ := []
  nftRegistry _ := []
  marketplace _ := []
  budlumxyz _ := []
  governance _ := []
  storageRegistry _ := []
  aiRegistry _ := []
  noteRegistry _ := []
  trustPolicy _ := []
  bridgeState _ := []
  messageRegistry _ := []
  externalRoots _ := []
  proofMarket _ := []
  finalityCertificates _ := []
  defaultRegistry := ()
  defaultLiveness := ()
  defaultInvalidVotes := ()
  defaultHub := ()
  defaultGovernance := ()
  defaultStorage := ()
  defaultAi := ()
  defaultNotes := ()
  defaultMarket := ()

end Budlum
