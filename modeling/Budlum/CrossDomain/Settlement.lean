import Budlum.Execution.Executor

/-!
# Domains and the events they commit to

The consensus domains a node knows, the commitments it has accepted from them, and
`SettlementProofVerifier`: an event counts as verified when a Merkle proof leads
from it to the event root of a commitment.
-/

namespace Budlum

structure StorageDomainParams where
  chunkSize : ℕ
  maxCommittedChunks : ℕ
  challengeInterval : ℕ
  minOperatorBond : ℕ
deriving DecidableEq

inductive ConsensusKind
  | poW
  | poS
  | poA
  | bft
  | zk
  | custom (name : String)
  | storageAttestation (params : StorageDomainParams)
  | aiInference
deriving DecidableEq

inductive DomainStatus
  | active
  | frozen
  | retired
deriving DecidableEq

structure PoWDomainParameters where
  minDifficultyBits : ℕ
  maxDifficultyBits : ℕ
  minCumulativeWork : ℕ
  maxHeaders : ℕ
deriving DecidableEq

/-- `ConsensusDomain`, without its hash schemes and the hash of its configuration. -/
structure ConsensusDomain where
  id : ℕ
  kind : ConsensusKind
  status : DomainStatus
  domainChainId : ℕ
  operator : Option Address
  operatorBond : ℕ
  validatorSetHash : Hash32
  finalityAdapter : String
  minConfirmations : ℕ
  bridgeEnabled : Bool
  lastCommittedHeight : ℕ
  lastCommittedHash : Hash32
  powParameters : Option PoWDomainParameters
deriving DecidableEq

def ConsensusDomain.isActive (d : ConsensusDomain) : Bool := d.status == .active

def powHeaderChainAdapter : String := "pow-header-chain-v1"

/-- `DomainCommitment`, with the fields that its acceptance, event proofs and reloads read. -/
structure DomainCommitment where
  domainId : ℕ
  domainHeight : ℕ
  domainBlockHash : Hash32
  parentDomainBlockHash : Hash32
  eventRoot : Hash32
  consensusKind : ConsensusKind
  validatorSetHash : Hash32
  sequence : ℕ
  stateUpdates : SortedMap Address ℕ
deriving DecidableEq

/-- `DomainCommitmentRegistry`, keyed by domain, height and sequence. -/
abbrev DomainCommitmentRegistry : Type := SortedMap (ℕ ×ₗ ℕ ×ₗ ℕ) DomainCommitment

namespace DomainCommitmentRegistry

/-- `get`. -/
def commitment (r : DomainCommitmentRegistry) (domainId domainHeight sequence : ℕ) :
    Option DomainCommitment :=
  r.get? (toLex (domainId, toLex (domainHeight, sequence)))

/-- `find_by_height`: the first commitment in key order. -/
def findByHeight (r : DomainCommitmentRegistry) (domainId height : ℕ) : Option DomainCommitment :=
  (r.entries.map Prod.snd).find? fun c => c.domainId = domainId ∧ c.domainHeight = height

end DomainCommitmentRegistry

structure VerifiedDomainEvent where
  commitment : DomainCommitment
  event : DomainEvent
deriving DecidableEq

inductive ProofVerificationError
  | missingCommitment (domainId domainHeight sequence : ℕ)
  | eventDomainMismatch
  | eventHeightMismatch
  | eventIndexMismatch
  | eventLeafMismatch
  | invalidMerkleProof
  | commitmentBlockHashMismatch
deriving DecidableEq

def ProofVerificationError.text : ProofVerificationError → String
  | .missingCommitment domainId domainHeight sequence =>
    s!"Missing commitment for domain={domainId}, height={domainHeight}, sequence={sequence}"
  | .eventDomainMismatch => "Event domain does not match commitment domain"
  | .eventHeightMismatch => "Event height does not match commitment height"
  | .eventIndexMismatch => "Event index does not match Merkle proof index"
  | .eventLeafMismatch => "Event leaf hash does not match Merkle proof leaf"
  | .invalidMerkleProof => "Invalid event Merkle proof"
  | .commitmentBlockHashMismatch => "Commitment block hash does not match expected block hash"

namespace SettlementProofVerifier

variable {T : ModuleTypes} (M : Modules T)

def verifyEventAgainstCommitment (commitment : DomainCommitment) (event : DomainEvent)
    (proof : MerkleProof) : Except ProofVerificationError VerifiedDomainEvent :=
  if event.domainId ≠ commitment.domainId then .error .eventDomainMismatch
  else if event.domainHeight ≠ commitment.domainHeight then .error .eventHeightMismatch
  else if event.eventIndex ≠ proof.index then .error .eventIndexMismatch
  else if event.leafHash M.hashFields ≠ proof.leaf then .error .eventLeafMismatch
  else if Executor.verifyMerkleProof M proof commitment.eventRoot = false then
    .error .invalidMerkleProof
  else .ok ⟨commitment, event⟩

def verifyEventFromRegistry (registry : DomainCommitmentRegistry)
    (domainId domainHeight sequence : ℕ) (expectedBlockHash : Option Hash32)
    (event : DomainEvent) (proof : MerkleProof) :
    Except ProofVerificationError VerifiedDomainEvent :=
  match registry.commitment domainId domainHeight sequence with
  | none => .error (.missingCommitment domainId domainHeight sequence)
  | some commitment =>
    match expectedBlockHash with
    | some expected =>
      if commitment.domainBlockHash ≠ expected then .error .commitmentBlockHashMismatch
      else verifyEventAgainstCommitment M commitment event proof
    | none => verifyEventAgainstCommitment M commitment event proof

end SettlementProofVerifier

end Budlum
