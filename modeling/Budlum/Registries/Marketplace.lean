import Budlum.Core.Address
import Budlum.Lib.Exec
import Budlum.Lib.Machine
import Budlum.Lib.SortedMap

/-!
# The data marketplace

`MarketplaceRegistry` as transactions reach it: seller offers, data assets, sale
authorizations and access grants, and the gate through which an inference request
reads granted data. A refused call changes nothing (`atomic_createOffer` and its
companions), and a grant the gate let pass can be consumed.
-/

namespace Budlum

open Machine Exec

structure DataOffer where
  id : ℕ
  seller : Address
  cid : Hash32
  price : ℕ
  active : Bool
deriving DecidableEq

structure EncryptionPolicy where
  version : ℕ
  hpkeSuiteId : ℕ
  minPublicKeyBytes : ℕ
  maxGrantDurationBlocks : ℕ
  deprecatedAfterBlock : Option ℕ
  active : Bool
deriving DecidableEq

structure SaleAuthorization where
  authorizationId : Id32
  assetId : Id32
  seller : Address
  unitPrice : ℕ
  validFromBlock : ℕ
  expiresAtBlock : ℕ
  maxGrants : ℕ
  grantsIssued : ℕ
  termsHash : Hash32
  sellerSignature : Bytes
deriving DecidableEq

inductive DataAssetStatus
  | active
  | revoked
deriving DecidableEq, Repr

structure DataAsset where
  assetId : Id32
  owner : Address
  manifestId : Hash32
  metadataCommitment : Hash32
  encrypted : Bool
  status : DataAssetStatus
deriving DecidableEq

inductive AccessGrantStatus
  | active
  | revoked
deriving DecidableEq, Repr

structure AccessGrant where
  grantId : Id32
  assetId : Id32
  owner : Address
  grantee : Address
  payer : Address
  pricePaid : ℕ
  issuedAtBlock : ℕ
  expiresAtBlock : ℕ
  maxReads : ℕ
  readsUsed : ℕ
  purposeHash : Hash32
  status : AccessGrantStatus
  ownerSignature : Bytes
deriving DecidableEq

/-- `Signature64::SENTINEL`. -/
def signatureSentinel : Bytes := List.replicate 64 0

/-- The checks of a validation, in order: the first that fails names its error. -/
def firstFailure : List (Bool × String) → Except String Unit
  | [] => .ok ()
  | (failed, message) :: rest => if failed then .error message else firstFailure rest

def EncryptionPolicy.validate (p : EncryptionPolicy) : Except String Unit :=
  firstFailure [
    (p.version == 0, "EncryptionPolicy version must be >= 1"),
    (p.hpkeSuiteId == 0, "EncryptionPolicy hpke_suite_id must be non-zero"),
    (p.minPublicKeyBytes < 32, "EncryptionPolicy min_public_key_bytes must be >= 32"),
    (p.maxGrantDurationBlocks == 0, "EncryptionPolicy max_grant_duration_blocks must be >= 1"),
    (p.deprecatedAfterBlock == some 0,
      "EncryptionPolicy deprecated_after_block cannot be zero")]

section

variable (sha256 : Bytes → Hash32)

def SaleAuthorization.deriveId (a : SaleAuthorization) : Id32 :=
  Id32.mk (sha256 (strBytes "BDLM_POLLEN_SALE_AUTHORIZATION_V1" ++ a.assetId.bytes ++
    a.seller.asBytes ++ u64LeBytes a.unitPrice ++ u64LeBytes a.validFromBlock ++
    u64LeBytes a.expiresAtBlock ++ u32LeBytes a.maxGrants ++ a.termsHash))

def SaleAuthorization.signingHash (a : SaleAuthorization) : Hash32 :=
  sha256 (strBytes "BDLM_POLLEN_SALE_AUTHORIZATION_SIGNING_V1" ++ a.authorizationId.bytes ++
    a.assetId.bytes ++ a.seller.asBytes ++ u64LeBytes a.unitPrice ++
    u64LeBytes a.validFromBlock ++ u64LeBytes a.expiresAtBlock ++ u32LeBytes a.maxGrants ++
    a.termsHash)

def SaleAuthorization.validateShape (a : SaleAuthorization) : Except String Unit :=
  firstFailure [
    (a.authorizationId == .zero, "SaleAuthorization authorization_id cannot be zero"),
    (a.assetId == .zero, "SaleAuthorization asset_id cannot be zero"),
    (a.seller == .zero, "SaleAuthorization seller cannot be zero"),
    (a.unitPrice == 0, "SaleAuthorization unit_price must be >= 1"),
    (a.expiresAtBlock ≤ a.validFromBlock,
      "SaleAuthorization expires_at_block must be after valid_from_block"),
    (a.maxGrants == 0, "SaleAuthorization max_grants must be >= 1"),
    (a.grantsIssued > a.maxGrants, "SaleAuthorization grants_issued exceeds max_grants"),
    (a.sellerSignature == signatureSentinel,
      "SaleAuthorization seller_signature sentinel is invalid"),
    (a.authorizationId != a.deriveId sha256,
      "SaleAuthorization id does not match canonical preimage")]

def DataAsset.deriveId (owner : Address) (manifestId metadataCommitment : Hash32) : Id32 :=
  Id32.mk (sha256 (strBytes "BDLM_POLLEN_DATA_ASSET_V1" ++ owner.asBytes ++ manifestId ++
    metadataCommitment))

def DataAsset.new (owner : Address) (manifestId metadataCommitment : Hash32) (encrypted : Bool) :
    DataAsset :=
  { assetId := DataAsset.deriveId sha256 owner manifestId metadataCommitment
    owner, manifestId, metadataCommitment, encrypted, status := .active }

def DataAsset.validate (a : DataAsset) : Except String Unit :=
  firstFailure [
    (a.assetId == .zero, "DataAsset asset_id cannot be zero"),
    (a.owner == .zero, "DataAsset owner cannot be zero"),
    (a.assetId != DataAsset.deriveId sha256 a.owner a.manifestId a.metadataCommitment,
      "DataAsset asset_id does not match canonical preimage")]

def AccessGrant.deriveId (g : AccessGrant) : Id32 :=
  Id32.mk (sha256 (strBytes "BDLM_POLLEN_ACCESS_GRANT_V1" ++ g.assetId.bytes ++
    g.owner.asBytes ++ g.grantee.asBytes ++ g.payer.asBytes ++ u64LeBytes g.pricePaid ++
    u64LeBytes g.issuedAtBlock ++ u64LeBytes g.expiresAtBlock ++ u32LeBytes g.maxReads ++
    g.purposeHash))

def AccessGrant.signingHash (g : AccessGrant) : Hash32 :=
  sha256 (strBytes "BDLM_POLLEN_ACCESS_GRANT_SIGNING_V1" ++ g.grantId.bytes ++
    g.assetId.bytes ++ g.owner.asBytes ++ g.grantee.asBytes ++ g.payer.asBytes ++
    u64LeBytes g.pricePaid ++ u64LeBytes g.issuedAtBlock ++ u64LeBytes g.expiresAtBlock ++
    u32LeBytes g.maxReads ++ g.purposeHash)

def AccessGrant.validateShape (g : AccessGrant) : Except String Unit :=
  firstFailure [
    (g.grantId == .zero, "AccessGrant grant_id cannot be zero"),
    (g.assetId == .zero, "AccessGrant asset_id cannot be zero"),
    (g.owner == .zero || g.grantee == .zero || g.payer == .zero,
      "AccessGrant addresses cannot be zero"),
    (g.expiresAtBlock ≤ g.issuedAtBlock,
      "AccessGrant expires_at_block must be after issued_at_block"),
    (g.maxReads == 0, "AccessGrant max_reads must be >= 1"),
    (g.ownerSignature == signatureSentinel, "AccessGrant owner_signature sentinel is invalid"),
    (g.grantId != g.deriveId sha256, "AccessGrant grant_id does not match canonical preimage")]

end

def AccessGrant.isActiveFor (g : AccessGrant) (grantee : Address) (currentBlock : ℕ) : Bool :=
  g.status == .active && g.grantee == grantee && decide (g.issuedAtBlock ≤ currentBlock) &&
    decide (currentBlock ≤ g.expiresAtBlock) && decide (g.readsUsed < g.maxReads)

structure AiDataInputRef where
  assetId : Id32
  grantId : Id32
deriving DecidableEq

namespace AiDataInputRef

def refMarker : Bytes := strBytes "BDLM_POLLEN_AI_INPUT_REF_V1"

def encodedLen : ℕ := refMarker.length + 32 + 32

/-- `AiDataInputRef::decode`: `none` for bytes that are no data reference. -/
def decode (bytes : Bytes) : Except String (Option AiDataInputRef) :=
  if ¬ refMarker.isPrefixOf bytes then .ok none
  else if bytes.length ≠ encodedLen then
    .error s!"Malformed Pollen AI input_ref: expected {encodedLen} bytes, got {bytes.length}"
  else
    let body := bytes.drop refMarker.length
    .ok (some ⟨⟨body.take 32⟩, ⟨body.drop 32⟩⟩)

end AiDataInputRef

/-- `MarketplaceRegistry`, without the receipts and the content gate, which no
transaction reaches. -/
structure MarketplaceRegistry where
  offers : SortedMap ℕ DataOffer
  nextOfferId : ℕ
  dataAssets : SortedMap Id32 DataAsset
  accessGrants : SortedMap Id32 AccessGrant
  saleAuthorizations : SortedMap Id32 SaleAuthorization
  encryptionPolicies : SortedMap ℕ EncryptionPolicy
deriving DecidableEq

namespace MarketplaceRegistry

def new : MarketplaceRegistry := ⟨∅, 0, ∅, ∅, ∅, ∅⟩

def getOffer (m : MarketplaceRegistry) (id : ℕ) : Option DataOffer := m.offers.get? id

def createOffer (seller : Address) (cid : Hash32) (price : ℕ) :
    Exec MarketplaceRegistry String ℕ := do
  failIf (price = 0) "Price must be greater than zero"
  let id ← read MarketplaceRegistry.nextOfferId
  failIf ((← read fun m => m.offers.contains id) = true)
    (s!"offer id {id} is already live: the registry's counter is behind " ++
      "its own contents, and minting over it would hand one seller's listing to another")
  modify fun m =>
    { m with offers := m.offers.insert id ⟨id, seller, cid, price, true⟩
             nextOfferId := id + 1 }
  pure id

def closeOffer (id : ℕ) (caller : Address) : Exec MarketplaceRegistry String Unit := do
  let offer ← ofOption "Offer not found"
    (← read fun m => m.offers.get? id)
  failIf (offer.seller ≠ caller) "Not the seller"
  modify fun m =>
    { m with offers := m.offers.insert id { offer with active := false } }

def revokeDataAsset (assetId : Id32) (caller : Address) :
    Exec MarketplaceRegistry String Unit := do
  let asset ← ofOption "DataAsset not found"
    (← read fun m => m.dataAssets.get? assetId)
  failIf (asset.owner ≠ caller) "Only DataAsset owner can revoke"
  modify fun m =>
    { m with dataAssets := m.dataAssets.insert assetId { asset with status := .revoked } }

def revokeAccessGrant (grantId : Id32) (caller : Address) :
    Exec MarketplaceRegistry String Unit := do
  let grant ← ofOption "AccessGrant not found"
    (← read fun m => m.accessGrants.get? grantId)
  failIf (grant.owner ≠ caller) "Only AccessGrant owner can revoke"
  modify fun m =>
    { m with accessGrants := m.accessGrants.insert grantId { grant with status := .revoked } }

def setEncryptionPolicy (policy : EncryptionPolicy) : Exec MarketplaceRegistry String Unit := do
  ofExcept id policy.validate
  modify fun m =>
    { m with encryptionPolicies := m.encryptionPolicies.insert policy.version policy }

section

variable (sha256 : Bytes → Hash32) (verifySignature : Bytes → Bytes → Bytes → Except String Unit)

def registerDataAsset (asset : DataAsset) : Exec MarketplaceRegistry String Id32 := do
  ofExcept id (asset.validate sha256)
  failIf
    ((← read fun m => m.dataAssets.contains asset.assetId) = true)
    "DataAsset already registered"
  modify fun m =>
    { m with dataAssets := m.dataAssets.insert asset.assetId asset }
  pure asset.assetId

def createAccessGrant (grant : AccessGrant) : Exec MarketplaceRegistry String Id32 := do
  ofExcept id (grant.validateShape sha256)
  let asset ← ofOption "AccessGrant references unknown DataAsset"
    (← read fun m => m.dataAssets.get? grant.assetId)
  failIf (asset.status ≠ .active) "AccessGrant references inactive DataAsset"
  failIf (grant.owner ≠ asset.owner) "AccessGrant owner must match DataAsset owner"
  ofExcept (fun e => s!"AccessGrant owner signature invalid: {e}")
    (verifySignature (grant.signingHash sha256) grant.ownerSignature grant.owner.asBytes)
  failIf
    ((← read fun m => m.accessGrants.contains grant.grantId) = true)
    "AccessGrant already registered"
  modify fun m =>
    { m with accessGrants := m.accessGrants.insert grant.grantId grant }
  pure grant.grantId

def createSaleAuthorization (authorization : SaleAuthorization) :
    Exec MarketplaceRegistry String Id32 := do
  ofExcept id (authorization.validateShape sha256)
  let asset ← ofOption "SaleAuthorization references unknown DataAsset"
    (← read fun m => m.dataAssets.get? authorization.assetId)
  failIf (asset.status ≠ .active) "SaleAuthorization references inactive DataAsset"
  failIf (authorization.seller ≠ asset.owner)
    "SaleAuthorization seller must match DataAsset owner"
  ofExcept (fun e => s!"SaleAuthorization seller signature invalid: {e}")
    (verifySignature (authorization.signingHash sha256) authorization.sellerSignature
      authorization.seller.asBytes)
  failIf
    ((← read fun m =>
      m.saleAuthorizations.contains authorization.authorizationId) = true)
    "SaleAuthorization already registered"
  modify fun m =>
    { m with saleAuthorizations :=
        m.saleAuthorizations.insert authorization.authorizationId authorization }
  pure authorization.authorizationId

end

/-- `validate_ai_read_ref`: the grant a data reference needs, `none` for bytes
that are no data reference. -/
def validateAiReadRef (inputRef : Bytes) (requester : Address) (currentBlock : ℕ) :
    Exec MarketplaceRegistry String (Option Id32) := do
  match (← ofExcept id (AiDataInputRef.decode inputRef)) with
  | none => pure none
  | some reference => do
      let asset ← ofOption "AI data read denied: DataAsset not found"
        (← read fun m => m.dataAssets.get? reference.assetId)
      failIf (asset.status ≠ .active) "AI data read denied: DataAsset inactive"
      let grant ← ofOption "AI data read denied: AccessGrant not found"
        (← read fun m => m.accessGrants.get? reference.grantId)
      failIf (grant.assetId ≠ reference.assetId) "AI data read denied: grant/asset mismatch"
      failIf (grant.owner ≠ asset.owner) "AI data read denied: grant owner mismatch"
      failIf (grant.isActiveFor requester currentBlock = false)
        "AI data read denied: AccessGrant inactive, expired, exhausted, or wrong grantee"
      pure (some reference.grantId)

/-- `consume_ai_read_grant`, with `AccessGrant::record_read`. -/
def consumeAiReadGrant (grantId : Id32) (requester : Address) (currentBlock : ℕ) :
    Exec MarketplaceRegistry String Unit := do
  let grant ← ofOption "AccessGrant not found"
    (← read fun m => m.accessGrants.get? grantId)
  failIf (grant.isActiveFor requester currentBlock = false) "AccessGrant cannot be consumed"
  failIf (grant.readsUsed ≥ grant.maxReads) "AccessGrant read limit exhausted"
  modify fun m =>
    { m with accessGrants :=
        m.accessGrants.insert grantId { grant with readsUsed := satAdd (2 ^ 32 - 1) grant.readsUsed 1 } }

/-! ## Refusals change nothing -/

lemma atomic_createOffer (seller : Address) (cid : Hash32) (price : ℕ) :
    Atomic (createOffer seller cid price) := by
  intro m
  simp [createOffer]

lemma atomic_revokeDataAsset (assetId : Id32) (caller : Address) :
    Atomic (revokeDataAsset assetId caller) := by
  intro m
  simp [revokeDataAsset]

lemma atomic_revokeAccessGrant (grantId : Id32) (caller : Address) :
    Atomic (revokeAccessGrant grantId caller) := by
  intro m
  simp [revokeAccessGrant]

lemma atomic_registerDataAsset (sha256 : Bytes → Hash32) (asset : DataAsset) :
    Atomic (registerDataAsset sha256 asset) := by
  intro m
  simp [registerDataAsset]

lemma atomic_createAccessGrant (sha256 : Bytes → Hash32)
    (verifySignature : Bytes → Bytes → Bytes → Except String Unit) (grant : AccessGrant) :
    Atomic (createAccessGrant sha256 verifySignature grant) := by
  intro m
  simp [createAccessGrant]

lemma atomic_createSaleAuthorization (sha256 : Bytes → Hash32)
    (verifySignature : Bytes → Bytes → Bytes → Except String Unit)
    (authorization : SaleAuthorization) :
    Atomic (createSaleAuthorization sha256 verifySignature authorization) := by
  intro m
  simp [createSaleAuthorization]

/-! ## The read gate -/

variable {E : String → MarketplaceRegistry → Prop} {m : MarketplaceRegistry}

lemma wp_validateAiReadRef {inputRef : Bytes} {requester : Address} {currentBlock : ℕ}
    {Q : Option Id32 → MarketplaceRegistry → Prop} (hE : ∀ e, E e m) (hnone : Q none m)
    (hsome : ∀ grantId grant, m.accessGrants.get? grantId = some grant →
      grant.isActiveFor requester currentBlock = true → Q (some grantId) m) :
    wp (validateAiReadRef inputRef requester currentBlock) Q E m := by
  simp only [validateAiReadRef, wp_bind, wp_ofExcept]
  refine ⟨fun reference _ => ?_, fun e _ => hE _⟩
  cases reference with
  | none => exact hnone
  | some reference =>
    simp only [wp_rules]
    refine ⟨fun asset _ => ⟨fun _ => hE _, fun _ => ⟨fun grant hgrant => ?_, fun _ => hE _⟩⟩,
      fun _ => hE _⟩
    refine ⟨fun _ => hE _, fun _ => ⟨fun _ => hE _, fun _ => ⟨fun _ => hE _, fun hactive => ?_⟩⟩⟩
    exact hsome _ grant hgrant (by simpa using hactive)

lemma wp_consumeAiReadGrant {grantId : Id32} {requester : Address} {currentBlock : ℕ}
    {grant : AccessGrant} {Q : Unit → MarketplaceRegistry → Prop}
    (hget : m.accessGrants.get? grantId = some grant)
    (hactive : grant.isActiveFor requester currentBlock = true)
    (hQ : ∀ m', Q () m') : wp (consumeAiReadGrant grantId requester currentBlock) Q E m := by
  have hreads : grant.readsUsed < grant.maxReads := by
    simp only [AccessGrant.isActiveFor, Bool.and_eq_true, decide_eq_true_eq] at hactive
    exact hactive.2
  simp [consumeAiReadGrant, hget, hactive, hreads, hQ]

end MarketplaceRegistry

end Budlum
