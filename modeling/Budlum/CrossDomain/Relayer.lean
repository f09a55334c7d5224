import Budlum.Execution.Executor

/-!
# The universal relayer

Relays that wait for a proof, and the ledger of those that were made. A message is
handed on at most once.
-/

namespace Budlum

open Exec

open Machine

inductive RelayerError
  | alreadyRelayed (messageId : Id32)
  | invalidProof (reason : String)
  | expired (messageId : Id32) (expiry currentHeight : ℕ)
  | other (message : String)
deriving DecidableEq

structure RelayRecord where
  relayer : Address
  relayHeight : ℕ
  proofHash : Hash32
deriving DecidableEq

structure PendingRelay where
  messageId : Id32
  sourceDomain : ℕ
  targetDomain : ℕ
  sourceEvent : DomainEvent
  createdHeight : ℕ
  expiryHeight : ℕ
deriving DecidableEq

/-- `UniversalRelayer`, its ledger being `relayed`. -/
structure UniversalRelayer where
  relayed : SortedMap Id32 RelayRecord
  pending : SortedMap Id32 PendingRelay
deriving DecidableEq

namespace UniversalRelayer

def new : UniversalRelayer := ⟨∅, ∅⟩

def enqueueRelay (u : UniversalRelayer) (sourceEvent : DomainEvent)
    (message : CrossDomainMessage) (createdHeight : ℕ) : UniversalRelayer :=
  let relay : PendingRelay :=
    { messageId := message.messageId, sourceDomain := message.sourceDomain,
      targetDomain := message.targetDomain, sourceEvent, createdHeight,
      expiryHeight := message.expiryHeight }
  { u with pending := u.pending.insert message.messageId relay }

variable {T : ModuleTypes} (M : Modules T)

def errorText : RelayerError → String
  | .alreadyRelayed id => s!"message {M.hexEncode id.bytes} already relayed"
  | .invalidProof reason => s!"invalid relay proof: {reason}"
  | .expired id expiry currentHeight =>
    s!"relay expired: message {M.hexEncode id.bytes}, expiry={expiry}, current={currentHeight}"
  | .other message => s!"relay error: {message}"

def record (messageId : Id32) (relayer : Address) (relayHeight : ℕ) (proofHash : Hash32) :
    Exec UniversalRelayer RelayerError Unit := do
  failIf ((← read fun u => u.relayed.contains messageId) = true)
    (.alreadyRelayed messageId)
  modify fun u =>
    { u with relayed := u.relayed.insert messageId ⟨relayer, relayHeight, proofHash⟩ }

/-- `process_relay`. The relay is in the ledger before its message is looked at. -/
def processRelay (messageId : Id32) (relayer : Address) (proof : MerkleProof)
    (eventTreeRoot : Hash32) (currentHeight : ℕ) :
    Exec UniversalRelayer RelayerError CrossDomainMessage := do
  failIf ((← read fun u => u.relayed.contains messageId) = true)
    (.alreadyRelayed messageId)
  let pending ← ofOption
    (.other s!"no pending relay for message {M.hexEncode messageId.bytes}")
    (← read fun u => u.pending.get? messageId)
  failIf (pending.expiryHeight > 0 ∧ currentHeight > pending.expiryHeight)
    (.expired messageId pending.expiryHeight currentHeight)
  failIf (Executor.verifyMerkleProof M proof eventTreeRoot = false)
    (.invalidProof "Merkle proof does not verify against event tree root")
  failIf (proof.leaf ≠ pending.sourceEvent.leafHash M.hashFields)
    (.invalidProof "proof leaf does not match source event hash")
  let proofBytes ← ofExcept (fun e => .other s!"proof serialization failed: {e}")
    (M.encodeMerkleProof proof)
  record messageId relayer currentHeight
    (M.hashFields [strBytes "BDLM_RELAY_PROOF_HASH_V1", proofBytes])
  let message ← ofOption (.other "source event has no cross-domain message")
    pending.sourceEvent.message
  failIf (message.verifyId M.hashFields = false)
    (.invalidProof "Relayed message ID does not match computed ID (tamper check)")
  modify fun u => { u with pending := u.pending.erase messageId }
  pure message

end UniversalRelayer

end Budlum
