import Budlum.Chain.Block
import Budlum.CrossDomain.Relayer

/-!
# The bridge of a blockchain

`Blockchain` and its bridge entry points: lock, mint from a verified event, burn,
unlock from a verified event, relayed proofs, and the sweep of expired locks. As
everywhere, what was written before an entry point failed stays written.
-/

namespace Budlum

open Machine Exec AccountState BridgeState

/-- What the disk answers. A failed write is reported, never undone. -/
structure Storage where
  saveBridgeState : BridgeState → Except String Unit
  saveCrossDomainMessage : CrossDomainMessage → Except String Unit
  saveDomainCommitmentBatch : DomainCommitment → List ConsensusDomain → Except String Unit

/-- `Blockchain`, with the fields its modelled methods use. -/
structure Blockchain (T : ModuleTypes) where
  chain : List (Block T)
  storage : Option Storage
  state : AccountState T
  domainRegistry : SortedMap ℕ ConsensusDomain
  domainCommitmentRegistry : DomainCommitmentRegistry
  universalRelayer : UniversalRelayer

namespace Blockchain

variable {T : ModuleTypes} (M : Modules T)

/-- A method of `Blockchain` on `&mut self`. -/
abbrev Method (T : ModuleTypes) (α : Type) : Type := Exec (Blockchain T) String α

def onState {ε α : Type} (text : ε → String) (x : Exec (AccountState T) ε α) : Method T α :=
  zoom Blockchain.state (fun c state => { c with state }) text x.run

def bridgeErrorText (e : String) : String := s!"Bridge error: {e}"

def onBridgeState {α : Type} (x : Exec BridgeState String α) : Method T α :=
  onState bridgeErrorText
    (zoom bridgeState (fun s bridgeState => { s with bridgeState }) id x.run)

def persist (text : String) (save : Storage → Except String Unit) : Method T Unit := do
  match (← read fun c => c.storage) with
  | some store =>
    ofExcept (fun e => s!"{text}: {e}") (save store)
  | none => pure ()

def persistBridgeState : Method T Unit := do
  let bridgeState ← read fun c => c.state.bridgeState
  persist "Failed to persist bridge state" fun store => store.saveBridgeState bridgeState

def persistMessage (message : CrossDomainMessage) : Method T Unit :=
  persist "Failed to persist cross-domain message" fun store =>
    store.saveCrossDomainMessage message

/-! ## Messages -/

/-- `CrossDomainMessageRegistry::insert`. -/
def insertMessage (message : CrossDomainMessage) : Exec (AccountState T) String Unit := do
  failIf (message.verifyId M.hashFields = false) "Invalid message id"
  failIf
    ((← read fun s => s.messageRegistry.contains message.messageId) = true)
    s!"Message {M.hexEncode message.messageId.bytes} already registered"
  modify fun s =>
    { s with messageRegistry := s.messageRegistry.insert message.messageId message }

def submitCrossDomainMessage (message : CrossDomainMessage) : Method T Unit := do
  failIf (message.verifyId M.hashFields = false)
    "Cross-domain message ID does not match canonical preimage (potential forgery)"
  failIf (message.sourceDomain = message.targetDomain)
    s!"Cross-domain message source and target domains must differ (both={message.sourceDomain})"
  let currentHeight ← read fun c => c.chain.length
  failIf (message.expiryHeight > 0 ∧ currentHeight > message.expiryHeight)
    (s!"Cross-domain message expired (expiry={message.expiryHeight}, " ++
      s!"current={currentHeight})")
  onState id (insertMessage M message)
  persistMessage message

/-- `enqueue_bridge_relay`. A disk that fails is only logged. -/
def enqueueBridgeRelay (event : DomainEvent) (message : CrossDomainMessage) : Method T Unit :=
  modify fun c =>
    { c with universalRelayer := c.universalRelayer.enqueueRelay event message c.chain.length }

/-- Register the message of an event and queue its relay. -/
def emitEvent (event : DomainEvent) : Method T Unit :=
  match event.message with
  | some message => do
      submitCrossDomainMessage M message
      enqueueBridgeRelay event message
  | none => pure ()

/-! ## Lock -/

def requireBridgeDomain (domainId : ℕ) : Method T Unit := do
  let domain ← ofOption s!"Domain {domainId} not found"
    (← read fun c => c.domainRegistry.get? domainId)
  failIf (domain.isActive = false ∨ domain.bridgeEnabled = false)
    s!"Domain {domainId} is not bridge-enabled"

/-- Take a locked amount off its owner, out of the whole balance. -/
def debitOwner (owner : Address) (amount : ℕ) : Method T Unit := do
  let ownerBalance ← read fun c => c.state.getBalance owner
  failIf (ownerBalance < amount)
    s!"Insufficient balance for bridge lock: owner has {ownerBalance}, needed {amount}"
  let account ← onState id (getOrCreate owner)
  onState id (writeAccount owner { account with balance := account.balance - amount })

/-- The arguments of `lock_bridge_transfer`. -/
structure LockRequest where
  sourceDomain : ℕ
  targetDomain : ℕ
  sourceHeight : ℕ
  eventIndex : ℕ
  assetId : Id32
  owner : Address
  recipient : Address
  amount : ℕ
  expiryHeight : ℕ
deriving DecidableEq

/-- `lock_bridge_transfer`. The transfer is in the bridge state before its owner is
found able to pay. -/
def lockBridgeTransfer (req : LockRequest) : Method T (BridgeTransfer × DomainEvent) := do
  requireBridgeDomain req.sourceDomain
  requireBridgeDomain req.targetDomain
  failIf (req.sourceDomain = req.targetDomain) "Bridge source and target domains must differ"
  failIf (req.amount = 0) "Bridge transfer amount must be non-zero"
  failIf (req.expiryHeight ≤ req.sourceHeight)
    "Bridge transfer expiry must be after source height"
  let result ← onBridgeState (lock M.hashFields req.sourceDomain req.targetDomain
    req.sourceHeight req.eventIndex req.assetId req.owner req.recipient req.amount
    req.expiryHeight)
  failIf (u64Max < req.amount)
    "Bridge transfer amount exceeds maximum representable balance (u64 overflow)"
  debitOwner req.owner req.amount
  persistBridgeState
  emitEvent M result.2
  pure result

/-! ## Mint, burn and unlock -/

structure PayoutTexts where
  amountTooLarge : ℕ → String
  feeTooLarge : ℕ → String
  beneficiary : String
  relayer : String

/-- Split an amount into its beneficiary's share and the relayer's, and credit both. -/
def paySplit (texts : PayoutTexts) (amount : ℕ) (beneficiary relayer : Address) :
    Method T Unit := do
  let c ← read id
  let split ← ofExcept bridgeErrorText (Executor.splitFee M c.state amount)
  failIf (u64Max < split.1) (texts.amountTooLarge split.1)
  failIf (u64Max < split.2) (texts.feeTooLarge split.2)
  onState (fun e => s!"{texts.beneficiary}: {e}") (tryAddBalance beneficiary split.1)
  onState (fun e => s!"{texts.relayer}: {e}") (tryAddBalance relayer split.2)

/-- Mint the transfer of a message, and pay its recipient and the relayer. -/
def mintMessage (texts : PayoutTexts) (message : CrossDomainMessage) (relayer : Address) :
    Method T Unit := do
  onBridgeState (mint M.hashFields message)
  let transfer ← ofOption "Failed to retrieve transfer after mint"
    (← read fun c => c.state.bridgeState.getTransfer message.messageId)
  paySplit M texts transfer.amount transfer.recipient relayer

def mintTexts : PayoutTexts where
  amountTooLarge _ := "Bridge amount exceeds maximum representable balance (u64 overflow)"
  feeTooLarge _ := "Bridge fee exceeds maximum representable balance (u64 overflow)"
  beneficiary := "Bridge mint overflow (recipient)"
  relayer := "Bridge mint fee overflow (relayer)"

structure EventProof where
  domain : ℕ
  height : ℕ
  sequence : ℕ
  expectedBlockHash : Option Hash32
  event : DomainEvent
  proof : MerkleProof
deriving DecidableEq

/-- `verify_domain_event_proof`, with the expected block hash given. -/
def verifyDomainEventProof (p : EventProof) (expectedBlockHash : Hash32) :
    Method T VerifiedDomainEvent := do
  ofExcept ProofVerificationError.text
    (← read fun c =>
      SettlementProofVerifier.verifyEventFromRegistry M c.domainCommitmentRegistry p.domain
        p.height p.sequence (some expectedBlockHash) p.event p.proof)

def checkMintDomain (sourceDomain sourceHeight : ℕ) : Method T Unit := do
  let domain ← ofOption s!"Unknown bridge source domain {sourceDomain}"
    (← read fun c => c.domainRegistry.get? sourceDomain)
  failIf (domain.kind = .poW ∧ domain.finalityAdapter ≠ powHeaderChainAdapter)
    "Bridge mint from PoW domains requires pow-header-chain-v1 finality"
  failIf (domain.bridgeEnabled = false) s!"Bridge mint disabled for domain {sourceDomain}"
  failIf (sourceHeight > domain.lastCommittedHeight)
    (s!"Bridge source commitment at height {sourceHeight} is not on the applied domain chain " ++
      s!"(tip {domain.lastCommittedHeight})")

def lockMessageOf (event : DomainEvent) : Method T CrossDomainMessage := do
  failIf (event.kind ≠ .bridgeLocked) "Verified event is not a bridge lock event"
  let message ← ofOption "Verified bridge lock event is missing message" event.message
  failIf (message.kind ≠ .bridgeLock) "Verified event message is not a bridge lock message"
  failIf (event.payloadHash ≠ message.payloadHash)
    "Verified bridge event payload hash mismatch"
  let expected ← read fun c =>
    (c.state.bridgeState.getTransfer message.messageId).map BridgeTransfer.sourceEventHash
  failIf (expected.isSome = true ∧ expected ≠ some (event.leafHash M.hashFields))
    "Verified bridge source event hash mismatch"
  pure message

def mintBridgeTransferFromVerifiedEvent (p : EventProof) (relayer : Address) :
    Method T Unit := do
  let expectedBlockHash ← ofOption
    "Bridge mint requires explicit expected_block_hash (forgery gate)" p.expectedBlockHash
  checkMintDomain p.domain p.height
  let verified ← verifyDomainEventProof M p expectedBlockHash
  let message ← lockMessageOf M verified.event
  mintMessage M mintTexts message relayer
  persistBridgeState

/-- `burn_bridge_transfer_with_event`. No balance is touched. -/
def burnBridgeTransferWithEvent (messageId : Id32)
    (domain domainHeight eventIndex expiryHeight : ℕ) : Method T DomainEvent := do
  let event ← onBridgeState (burnWithEvent M.hashFields messageId domain domainHeight
    eventIndex expiryHeight)
  persistBridgeState
  emitEvent M event
  pure event

def burnMessageOf (event : DomainEvent) : Method T CrossDomainMessage := do
  failIf (event.kind ≠ .bridgeBurned) "Verified event is not a bridge burn event"
  let message ← ofOption "Verified bridge burn event is missing message" event.message
  failIf (message.kind ≠ .bridgeBurn) "Verified event message is not a bridge burn message"
  failIf (message.verifyId M.hashFields = false) "Verified bridge burn message id is invalid"
  failIf (event.payloadHash ≠ message.payloadHash)
    "Verified bridge burn event payload hash mismatch"
  pure message

def checkBurnMatches (message : CrossDomainMessage) (transfer : BridgeTransfer) :
    Method T Unit := do
  failIf (transfer.targetDomain ≠ message.sourceDomain)
    "Verified bridge burn source domain mismatch"
  failIf (transfer.sourceDomain ≠ message.targetDomain)
    "Verified bridge burn target domain mismatch"
  failIf (transfer.recipient ≠ message.sender) "Verified bridge burn sender mismatch"
  failIf (transfer.owner ≠ message.recipient) "Verified bridge burn recipient mismatch"
  failIf
    (message.payloadHash ≠ bridgePayloadHash M.hashFields transfer.assetId transfer.amount)
    "Verified bridge burn payload does not match transfer"

/-- `unlock_bridge_transfer_from_verified_event`. No balance is touched. -/
def unlockBridgeTransferFromVerifiedEvent (p : EventProof) : Method T Unit := do
  let expectedBlockHash ← ofOption
    "Bridge unlock requires explicit expected_block_hash (forgery gate)" p.expectedBlockHash
  let verified ← verifyDomainEventProof M p expectedBlockHash
  let message ← burnMessageOf M verified.event
  let transferId ← ofOption "Verified bridge burn message is missing correlation id"
    message.correlationId
  let transfer ← ofOption "Unknown bridge transfer"
    (← read fun c => c.state.bridgeState.getTransfer transferId)
  checkBurnMatches M message transfer
  onBridgeState (unlock transferId message.sourceDomain)
  persistBridgeState

/-! ## Relayed proofs -/

def relayMintTexts : PayoutTexts where
  amountTooLarge amount := s!"Bridge amount {amount} exceeds maximum representable balance"
  feeTooLarge fee := s!"Bridge fee {fee} exceeds maximum representable balance"
  beneficiary := "Bridge relay mint overflow (recipient)"
  relayer := "Bridge relay mint fee overflow (relayer)"

def relayUnlockTexts : PayoutTexts where
  amountTooLarge amount := s!"Unlock amount {amount} exceeds maximum balance"
  feeTooLarge fee := s!"Unlock fee {fee} exceeds maximum balance"
  beneficiary := "Bridge relay unlock overflow (owner)"
  relayer := "Bridge relay unlock fee overflow (relayer)"

/-- Unlock the transfer a burn message names, and pay its owner and the relayer. -/
def unlockMessage (message : CrossDomainMessage) (relayer : Address) : Method T Unit := do
  let transferId ← ofOption
    ("Bridge burn message missing correlation_id (required to identify the original lock " ++
      "transfer)") message.correlationId
  let locked ← ofOption "Unknown bridge transfer"
    (← read fun c => c.state.bridgeState.getTransfer transferId)
  failIf (locked.sourceDomain ≠ message.targetDomain)
    "Relayed burn target domain does not match lock source"
  onBridgeState (unlock transferId message.sourceDomain)
  let transfer ← ofOption "Failed to retrieve transfer after unlock"
    (← read fun c => c.state.bridgeState.getTransfer transferId)
  paySplit M relayUnlockTexts transfer.amount transfer.owner relayer

def kindText : MessageKind → String
  | .bridgeLock => "BridgeLock"
  | .bridgeMint => "BridgeMint"
  | .bridgeBurn => "BridgeBurn"
  | .bridgeUnlock => "BridgeUnlock"
  | .custom bytes => s!"Custom({bytes})"

def settleRelay (message : CrossDomainMessage) (relayer : Address) : Method T Unit :=
  match message.kind with
  | .bridgeLock => mintMessage M relayMintTexts message relayer
  | .bridgeBurn => unlockMessage M message relayer
  | kind => fail s!"Unsupported relay message kind: {kindText kind}"

/-- `submit_relay_proof`. A disk that fails is only logged. -/
def submitRelayProof (messageId : Id32) (relayer : Address) (proof : MerkleProof)
    (sourceDomain : ℕ) : Method T CrossDomainMessage := do
  let c ← read id
  ofExcept id (M.ensureActiveRelayer c.state.registry relayer)
  let pending ← ofOption s!"no pending relay for message {M.hexEncode messageId.bytes}"
    (c.universalRelayer.pending.get? messageId)
  let sourceHeight := pending.sourceEvent.domainHeight
  let commitment ← ofOption
    s!"No committed event root for domain {sourceDomain} at height {sourceHeight}"
    (c.domainCommitmentRegistry.findByHeight sourceDomain sourceHeight)
  let message ← zoom Blockchain.universalRelayer
    (fun c universalRelayer => { c with universalRelayer }) (UniversalRelayer.errorText M)
    (UniversalRelayer.processRelay M messageId relayer proof commitment.eventRoot
      c.chain.length).run
  settleRelay M message relayer
  pure message

/-! ## The sweep of expired locks -/

/-- Refund the owners of released locks, in order. -/
def refundReleased : List (Address × ℕ) → Exec (AccountState T) String Unit
  | [] => pure ()
  | (owner, amount) :: rest => do
      failIf (u64Max < amount)
        s!"Bridge sweep refund for {M.addressText owner} exceeds u64::MAX: {amount}"
      mapError (fun e => s!"Bridge sweep refund overflow for {M.addressText owner}: {e}")
        (tryAddBalance owner amount)
      refundReleased rest

def applyBridgeSweepToState (currentHeight : ℕ) :
    Exec (AccountState T) String (List (Address × ℕ)) := do
  let swept ← read fun s => s.bridgeState.sweepExpiredLocks currentHeight
  modify fun s => { s with bridgeState := swept.2 }
  refundReleased M swept.1
  pure swept.1

/-! ## Checks only look -/

section

variable {M}

lemma readOnly_persist (text : String) (save : Storage → Except String Unit) :
    ReadOnly (persist text save : Method T Unit) := by
  refine .bind .read fun store => ?_
  cases store with
  | some store => exact .ofExcept
  | none => exact .pure

lemma readOnly_persistBridgeState : ReadOnly (persistBridgeState : Method T Unit) :=
  .bind .read fun _ => readOnly_persist _ _

lemma readOnly_requireBridgeDomain (domainId : ℕ) :
    ReadOnly (requireBridgeDomain domainId : Method T Unit) :=
  .bind .read fun _ => .bind .ofOption fun _ => .failIf

lemma readOnly_verifyDomainEventProof (p : EventProof) (expected : Hash32) :
    ReadOnly (verifyDomainEventProof M p expected) :=
  .bind .read fun _ => .ofExcept

lemma readOnly_burnMessageOf (event : DomainEvent) : ReadOnly (burnMessageOf M event) :=
  .bind .failIf fun _ => .bind .ofOption fun _ => .bind .failIf fun _ =>
    .bind .failIf fun _ => .bind .failIf fun _ => .pure

lemma readOnly_checkBurnMatches (message : CrossDomainMessage) (transfer : BridgeTransfer) :
    ReadOnly (checkBurnMatches M message transfer) :=
  .bind .failIf fun _ => .bind .failIf fun _ => .bind .failIf fun _ =>
    .bind .failIf fun _ => .failIf

lemma readOnly_checkMintDomain (sourceDomain sourceHeight : ℕ) :
    ReadOnly (checkMintDomain sourceDomain sourceHeight : Method T Unit) :=
  .bind .read fun _ => .bind .ofOption fun _ => .bind .failIf fun _ =>
    .bind .failIf fun _ => .failIf

lemma readOnly_lockMessageOf (event : DomainEvent) : ReadOnly (lockMessageOf M event) :=
  .bind .failIf fun _ => .bind .ofOption fun _ => .bind .failIf fun _ =>
    .bind .failIf fun _ => .bind .read fun _ => .bind .failIf fun _ => .pure

end

end Blockchain

end Budlum
