import Budlum.Core.Address
import Budlum.Lib.Exec
import Budlum.Lib.Machine
import Budlum.Lib.SortedMap

/-!
# The bridge

Cross-domain messages and `BridgeState`: where each asset is, every transfer with
its status, the queue of lock expiries, and the replay store. `hashFields` is the
node's field hash.

A transfer goes `Locked → Minted → Burned → Unlocked`, or `Locked → Active` when
its lock expires.
-/

namespace Budlum

open Machine Exec

inductive MessageKind
  | bridgeLock
  | bridgeMint
  | bridgeBurn
  | bridgeUnlock
  | custom (bytes : Bytes)
deriving DecidableEq

def MessageKind.asBytes : MessageKind → Bytes
  | .bridgeLock => strBytes "bridge-lock"
  | .bridgeMint => strBytes "bridge-mint"
  | .bridgeBurn => strBytes "bridge-burn"
  | .bridgeUnlock => strBytes "bridge-unlock"
  | .custom bytes => strBytes "custom:" ++ bytes

structure CrossDomainMessage where
  messageId : Id32
  correlationId : Option Id32
  sourceDomain : ℕ
  targetDomain : ℕ
  sourceHeight : ℕ
  eventIndex : ℕ
  nonce : ℕ
  sender : Address
  recipient : Address
  payloadHash : Hash32
  kind : MessageKind
  expiryHeight : ℕ
deriving DecidableEq

inductive DomainEventKind
  | bridgeLocked
  | bridgeMinted
  | bridgeBurned
  | bridgeUnlocked
  | messageEmitted
  | custom (bytes : Bytes)
deriving DecidableEq

def DomainEventKind.asBytes : DomainEventKind → Bytes
  | .bridgeLocked => strBytes "bridge-locked"
  | .bridgeMinted => strBytes "bridge-minted"
  | .bridgeBurned => strBytes "bridge-burned"
  | .bridgeUnlocked => strBytes "bridge-unlocked"
  | .messageEmitted => strBytes "message-emitted"
  | .custom bytes => strBytes "custom:" ++ bytes

structure DomainEvent where
  domainId : ℕ
  domainHeight : ℕ
  eventIndex : ℕ
  kind : DomainEventKind
  emitter : Address
  message : Option CrossDomainMessage
  payloadHash : Hash32
deriving DecidableEq

section

variable (hashFields : List Bytes → Hash32)

namespace CrossDomainMessage

def calculateMessageId (m : CrossDomainMessage) : Id32 :=
  ⟨hashFields [strBytes "BDLM_CROSS_DOMAIN_MESSAGE_V2", (m.correlationId.getD .zero).bytes,
    u32LeBytes m.sourceDomain, u32LeBytes m.targetDomain, u64LeBytes m.sourceHeight,
    u32LeBytes m.eventIndex, u64LeBytes m.nonce, m.sender.asBytes, m.recipient.asBytes,
    m.payloadHash, m.kind.asBytes, u64LeBytes m.expiryHeight]⟩

def verifyId (m : CrossDomainMessage) : Bool := m.messageId == m.calculateMessageId hashFields

/-- `CrossDomainMessage::new` and `new_correlated`: the id is computed last. -/
def withId (m : CrossDomainMessage) : CrossDomainMessage :=
  { m with messageId := m.calculateMessageId hashFields }

end CrossDomainMessage

def DomainEvent.leafHash (e : DomainEvent) : Hash32 :=
  hashFields [strBytes "BDLM_DOMAIN_EVENT_V1", u32LeBytes e.domainId, u64LeBytes e.domainHeight,
    u32LeBytes e.eventIndex, e.kind.asBytes, e.emitter.asBytes,
    ((e.message.map CrossDomainMessage.messageId).getD .zero).bytes, e.payloadHash]

def bridgePayloadHash (assetId : Id32) (amount : ℕ) : Hash32 :=
  hashFields [strBytes "BDLM_BRIDGE_PAYLOAD_V1", assetId.bytes, u128LeBytes amount]

end

inductive BridgeStatus
  | active (domain : ℕ)
  | locked (domain : ℕ)
  | minted (domain : ℕ)
  | burned (domain : ℕ)
  | unlocked (domain : ℕ)
deriving DecidableEq

structure BridgeTransfer where
  messageId : Id32
  assetId : Id32
  sourceDomain : ℕ
  targetDomain : ℕ
  owner : Address
  recipient : Address
  amount : ℕ
  status : BridgeStatus
  sourceEventHash : Hash32
  expiryHeight : ℕ
deriving DecidableEq

structure ReplayNonceStore where
  outboundNonces : SortedMap (ℕ ×ₗ ℕ ×ₗ Address) ℕ
  processedMessages : SortedMap Id32 Unit
  /-- The height of a message that was marked with one. -/
  processedAtHeight : SortedMap Id32 ℕ
deriving DecidableEq

namespace ReplayNonceStore

def new : ReplayNonceStore := ⟨∅, ∅, ∅⟩

/-- `next_nonce`: the nonce to use, and the store with the one after it. -/
def nextNonce (r : ReplayNonceStore) (sourceDomain targetDomain : ℕ) (sender : Address) :
    ℕ × ReplayNonceStore :=
  let key := toLex (sourceDomain, toLex (targetDomain, sender))
  let nonce := (r.outboundNonces.get? key).getD 0
  (nonce, { r with outboundNonces := r.outboundNonces.insert key (satAdd u64Max nonce 1) })

def isProcessed (r : ReplayNonceStore) (id : Id32) : Bool := r.processedMessages.contains id

def markProcessed (r : ReplayNonceStore) (id : Id32) : Except String ReplayNonceStore :=
  if r.processedMessages.contains id then .error "Cross-domain message was already processed"
  else .ok { r with processedMessages := r.processedMessages.insert id () }

end ReplayNonceStore

/-- `split_bridge_fee`: the recipient's share and the relayer's. -/
def splitBridgeFee (amount feePpm minFee : ℕ) : Except String (ℕ × ℕ) :=
  if amount ≤ minFee then
    .error s!"bridge amount {amount} does not cover the minimum relayer fee {minFee}"
  else
    let proportional := satMul u128Max amount feePpm / 1000000
    let fee := max proportional minFee
    .ok (amount - fee, fee)

structure BridgeState where
  assetLocations : SortedMap Id32 BridgeStatus
  transfers : SortedMap Id32 BridgeTransfer
  expiryQueue : SortedMap ℕ (List Id32)
  replay : ReplayNonceStore
deriving DecidableEq

namespace BridgeState

def new : BridgeState := ⟨∅, ∅, ∅, ReplayNonceStore.new⟩

def getTransfer (b : BridgeState) (id : Id32) : Option BridgeTransfer := b.transfers.get? id

/-- Give a transfer a status and its asset a location. -/
def setStatus (b : BridgeState) (id : Id32) (transfer : BridgeTransfer)
    (status location : BridgeStatus) : BridgeState :=
  { b with
    transfers := b.transfers.insert id { transfer with status }
    assetLocations := b.assetLocations.insert transfer.assetId location }

/-- `expiry_queue.entry(height).or_default().push(id)`. -/
def queueExpiry (b : BridgeState) (height : ℕ) (id : Id32) : BridgeState :=
  let ids := (b.expiryQueue.get? height).getD [] ++ [id]
  { b with expiryQueue := b.expiryQueue.insert height ids }

def registerAsset (assetId : Id32) (domain : ℕ) : Exec BridgeState String Unit := do
  failIf ((← read fun b => b.assetLocations.contains assetId) = true)
    "Asset is already registered"
  modify fun b =>
    { b with assetLocations := b.assetLocations.insert assetId (.active domain) }

def requireAssetStatus (assetId : Id32) (expected : BridgeStatus) :
    Exec BridgeState String Unit := do
  let current ← ofOption "Unknown asset"
    (← read fun b => b.assetLocations.get? assetId)
  failIf (current ≠ expected) "Asset is not active in the source domain"

section

variable (hashFields : List Bytes → Hash32)

def lockMessage (sourceDomain targetDomain sourceHeight eventIndex nonce : ℕ) (assetId : Id32)
    (owner recipient : Address) (amount expiryHeight : ℕ) : CrossDomainMessage :=
  CrossDomainMessage.withId hashFields
    { messageId := .zero, correlationId := none, sourceDomain, targetDomain, sourceHeight,
      eventIndex, nonce, sender := owner, recipient,
      payloadHash := bridgePayloadHash hashFields assetId amount, kind := .bridgeLock,
      expiryHeight }

def lock (sourceDomain targetDomain sourceHeight eventIndex : ℕ) (assetId : Id32)
    (owner recipient : Address) (amount expiryHeight : ℕ) :
    Exec BridgeState String (BridgeTransfer × DomainEvent) := do
  requireAssetStatus assetId (.active sourceDomain)
  let next ← read fun b => b.replay.nextNonce sourceDomain targetDomain owner
  modify fun b => { b with replay := next.2 }
  let message := lockMessage hashFields sourceDomain targetDomain sourceHeight eventIndex next.1
    assetId owner recipient amount expiryHeight
  let event : DomainEvent :=
    { domainId := sourceDomain, domainHeight := sourceHeight, eventIndex, kind := .bridgeLocked,
      emitter := owner, message := some message, payloadHash := message.payloadHash }
  let transfer : BridgeTransfer :=
    { messageId := message.messageId, assetId, sourceDomain, targetDomain, owner, recipient,
      amount, status := .locked sourceDomain, sourceEventHash := event.leafHash hashFields,
      expiryHeight }
  modify fun b =>
    b.setStatus transfer.messageId transfer (.locked sourceDomain) (.locked sourceDomain)
  if expiryHeight > 0 then
    modify fun b => b.queueExpiry expiryHeight transfer.messageId
  else pure ()
  pure (transfer, event)

def mint (message : CrossDomainMessage) : Exec BridgeState String Unit := do
  failIf (message.verifyId hashFields = false) "Invalid cross-domain message id"
  let transfer ← ofOption "Unknown bridge transfer"
    (← read fun b => b.transfers.get? message.messageId)
  let expectedPayload := bridgePayloadHash hashFields transfer.assetId transfer.amount
  failIf (message.payloadHash ≠ expectedPayload)
    (s!"B2: payload_hash mismatch - message claims {message.payloadHash}, " ++
      s!"transfer binds {expectedPayload}")
  failIf ((← read fun b => b.replay.isProcessed message.messageId) = true)
    "Cross-domain message was already processed"
  failIf (transfer.status ≠ .locked message.sourceDomain)
    "Transfer is not locked on source domain"
  let replay ← ofExcept id
    (← read fun b => b.replay.markProcessed message.messageId)
  modify fun b =>
    ({ b with replay }).setStatus message.messageId transfer (.minted message.targetDomain)
      (.minted message.targetDomain)

def burnWithEvent (messageId : Id32) (domain domainHeight eventIndex expiryHeight : ℕ) :
    Exec BridgeState String DomainEvent := do
  let transfer ← ofOption "Unknown bridge transfer"
    (← read fun b => b.transfers.get? messageId)
  failIf (transfer.status ≠ .minted domain) "Transfer is not minted on burn domain"
  let next ← read fun b =>
    b.replay.nextNonce domain transfer.sourceDomain transfer.recipient
  modify fun b => { b with replay := next.2 }
  let payloadHash := bridgePayloadHash hashFields transfer.assetId transfer.amount
  let message := CrossDomainMessage.withId hashFields
    { messageId := .zero, correlationId := some messageId, sourceDomain := domain,
      targetDomain := transfer.sourceDomain, sourceHeight := domainHeight, eventIndex,
      nonce := next.1, sender := transfer.recipient, recipient := transfer.owner, payloadHash,
      kind := .bridgeBurn, expiryHeight }
  modify fun b =>
    b.setStatus messageId transfer (.burned domain) (.burned domain)
  pure { domainId := domain, domainHeight, eventIndex, kind := .bridgeBurned,
         emitter := transfer.recipient, message := some message, payloadHash }

end

def unlock (messageId : Id32) (sourceDomain : ℕ) : Exec BridgeState String Unit := do
  let transfer ← ofOption "Unknown bridge transfer"
    (← read fun b => b.transfers.get? messageId)
  failIf (transfer.status ≠ .burned transfer.targetDomain)
    "Transfer is not burned on target domain"
  failIf (transfer.targetDomain ≠ sourceDomain)
    "Unlock must originate from the burn (target) domain"
  modify fun b =>
    b.setStatus messageId transfer (.unlocked transfer.sourceDomain)
      (.active transfer.sourceDomain)

/-- One queued lock of `sweep_expired_locks`: released if it is still locked. -/
def releaseLock (acc : List (Address × ℕ) × BridgeState) (id : Id32) :
    List (Address × ℕ) × BridgeState :=
  match acc.2.transfers.get? id with
  | some transfer =>
    match transfer.status with
    | .locked domain =>
      (acc.1 ++ [(transfer.owner, transfer.amount)],
        acc.2.setStatus id transfer (.active domain) (.active domain))
    | _ => acc
  | none => acc

/-- One height of `sweep_expired_locks`: its queue is removed and worked off. -/
def sweepHeight (acc : List (Address × ℕ) × BridgeState) (height : ℕ) :
    List (Address × ℕ) × BridgeState :=
  match acc.2.expiryQueue.get? height with
  | some ids =>
    ids.foldl releaseLock
      (acc.1, { acc.2 with expiryQueue := acc.2.expiryQueue.erase height })
  | none => acc

/-- `sweep_expired_locks`: the refunds, and the state after. -/
def sweepExpiredLocks (b : BridgeState) (currentHeight : ℕ) :
    List (Address × ℕ) × BridgeState :=
  (b.expiryQueue.keys.filter (· ≤ currentHeight)).foldl sweepHeight ([], b)

/-! ## Refusals change nothing -/

section

variable {hashFields : List Bytes → Hash32}

lemma atomic_mint (message : CrossDomainMessage) : Atomic (mint hashFields message) := by
  intro b
  simp [mint]

lemma atomic_unlock (messageId : Id32) (sourceDomain : ℕ) :
    Atomic (unlock messageId sourceDomain) := by
  intro b
  simp [unlock]

end

end BridgeState

end Budlum
