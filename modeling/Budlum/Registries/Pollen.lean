import Budlum.Registries.Marketplace

/-!
# Sold content

`MarketplaceRegistry` with the two tables that no transaction reaches: the receipts of
purchases and the contents that are sold. A buyer gets a grant from a sale authorization
(`issue_grant_from_sale_authorization`), the owner of an asset puts content behind it
(`bind_content_to_asset`), and the storage layer asks whether a reader may read it
(`authorize_content_read`).
-/

namespace Budlum

open Machine Exec

structure PollenPurchaseReceipt where
  receiptId : Id32
  authorizationId : Id32
  assetId : Id32
  seller : Address
  buyer : Address
  grantee : Address
  pricePaid : ℕ
  grantId : Id32
  purchasedAtBlock : ℕ
  grantExpiresAtBlock : ℕ
  maxReads : ℕ
  termsHash : Hash32
  paymentCommitment : Hash32
deriving DecidableEq

namespace PollenPurchaseReceipt

variable (sha256 : Bytes → Hash32) (r : PollenPurchaseReceipt)

def deriveId : Id32 :=
  Id32.mk (sha256 (strBytes "BDLM_POLLEN_PURCHASE_RECEIPT_V1" ++ r.authorizationId.bytes ++
    r.assetId.bytes ++ r.seller.asBytes ++ r.buyer.asBytes ++ r.grantee.asBytes ++
    u64LeBytes r.pricePaid ++ r.grantId.bytes ++ u64LeBytes r.purchasedAtBlock ++
    u64LeBytes r.grantExpiresAtBlock ++ u32LeBytes r.maxReads ++ r.termsHash ++
    r.paymentCommitment))

/-- `PollenPurchaseReceipt::new`, over a record whose id is not derived yet. -/
def new : PollenPurchaseReceipt := { r with receiptId := r.deriveId sha256 }

def validateShape : Except String Unit :=
  firstFailure [
    (r.receiptId == .zero, "PollenPurchaseReceipt receipt_id cannot be zero"),
    (r.authorizationId == .zero, "PollenPurchaseReceipt authorization_id cannot be zero"),
    (r.assetId == .zero || r.grantId == .zero,
      "PollenPurchaseReceipt asset/grant id cannot be zero"),
    (r.seller == .zero || r.buyer == .zero || r.grantee == .zero,
      "PollenPurchaseReceipt addresses cannot be zero"),
    (r.pricePaid == 0, "PollenPurchaseReceipt price_paid must be >= 1"),
    (r.grantExpiresAtBlock ≤ r.purchasedAtBlock,
      "PollenPurchaseReceipt grant expiry must be after purchase"),
    (r.maxReads == 0, "PollenPurchaseReceipt max_reads must be >= 1"),
    (r.paymentCommitment == List.replicate 32 0,
      "PollenPurchaseReceipt payment_commitment cannot be zero"),
    (r.receiptId != r.deriveId sha256,
      "PollenPurchaseReceipt id does not match canonical preimage")]

end PollenPurchaseReceipt

namespace SaleAuthorization

variable (a : SaleAuthorization)

def canIssue (currentBlock : ℕ) : Bool :=
  decide (a.validFromBlock ≤ currentBlock) && decide (currentBlock ≤ a.expiresAtBlock) &&
    decide (a.grantsIssued < a.maxGrants)

def recordIssuedGrant : Except String SaleAuthorization :=
  if a.maxGrants ≤ a.grantsIssued then .error "SaleAuthorization grant limit exhausted"
  else .ok { a with grantsIssued := satAdd (2 ^ 32 - 1) a.grantsIssued 1 }

end SaleAuthorization

def AccessGrant.newUnsigned (sha256 : Bytes → Hash32) (assetId : Id32)
    (owner grantee payer : Address) (pricePaid issuedAtBlock expiresAtBlock maxReads : ℕ)
    (purposeHash : Hash32) : AccessGrant :=
  let grant : AccessGrant :=
    { grantId := .zero, assetId, owner, grantee, payer, pricePaid, issuedAtBlock,
      expiresAtBlock, maxReads, readsUsed := 0, purposeHash, status := .active
      ownerSignature := signatureSentinel }
  { grant with grantId := grant.deriveId sha256 }

/-- What the marketplace calls outside of it. -/
structure PollenDeps where
  sha256 : Bytes → Hash32
  verifySignature : Bytes → Bytes → Bytes → Except String Unit
  hexEncode : Bytes → String
  addressText : Address → String

/-! ## The content gate -/

/-- The errors of `ProtectedContent::bind`. -/
inductive ContentGateError
  | alreadyBound (manifestId : Id32) (boundTo : Id32)
  | notTheAssetOwner (expected provided : Address)
deriving DecidableEq

def ContentGateError.text (D : PollenDeps) : ContentGateError → String
  | .alreadyBound manifestId boundTo =>
    s!"content {D.hexEncode manifestId.bytes} is already sold as asset " ++
      D.hexEncode boundTo.bytes
  | .notTheAssetOwner expected provided =>
    s!"asset is owned by {D.addressText expected} but the binding was signed by " ++
      D.addressText provided

/-- `ProtectedContent`: the asset under which a content is sold. -/
structure ProtectedContent where
  bindings : SortedMap Id32 Id32
deriving DecidableEq

namespace ProtectedContent

def assetFor (p : ProtectedContent) (manifestId : Id32) : Option Id32 := p.bindings.get? manifestId

def bind (p : ProtectedContent) (manifestId assetId : Id32) (assetOwner caller : Address) :
    Except ContentGateError ProtectedContent :=
  if assetOwner ≠ caller then .error (.notTheAssetOwner assetOwner caller)
  else match p.bindings.get? manifestId with
    | some existing =>
      if existing = assetId then .ok p else .error (.alreadyBound manifestId existing)
    | none => .ok ⟨p.bindings.insert manifestId assetId⟩

end ProtectedContent

/-! ## The registry -/

/-- `MarketplaceRegistry` with all its tables. -/
structure PollenRegistry extends MarketplaceRegistry where
  purchaseReceipts : SortedMap Id32 PollenPurchaseReceipt
  protectedContent : ProtectedContent
deriving DecidableEq

namespace PollenRegistry

def new : PollenRegistry := ⟨MarketplaceRegistry.new, ∅, ⟨∅⟩⟩

/-- A call that leaves receipts and content alone. -/
def onMarketplace {α : Type} (x : Exec MarketplaceRegistry String α) :
    Exec PollenRegistry String α :=
  zoom PollenRegistry.toMarketplaceRegistry
    (fun p m => { p with toMarketplaceRegistry := m }) id x.run

variable (D : PollenDeps)

def purchaseSigningHash (authorization : SaleAuthorization) (buyer grantee : Address)
    (currentBlock grantDurationBlocks maxReads : ℕ) (paymentCommitment : Hash32) :
    Except String Hash32 :=
  match checkedAdd u64Max currentBlock grantDurationBlocks with
  | none => .error "Pollen purchase grant expiry overflow"
  | some grantExpiresAtBlock =>
    if authorization.expiresAtBlock < grantExpiresAtBlock then
      .error "Pollen purchase grant expiry exceeds SaleAuthorization expiry"
    else .ok (D.sha256 (strBytes "BDLM_POLLEN_PURCHASE_V1" ++
      authorization.authorizationId.bytes ++ authorization.assetId.bytes ++
      authorization.seller.asBytes ++ buyer.asBytes ++ grantee.asBytes ++
      u64LeBytes authorization.unitPrice ++ u64LeBytes grantDurationBlocks ++
      u32LeBytes maxReads ++ paymentCommitment ++ u64LeBytes grantExpiresAtBlock))

structure Purchase where
  authorizationId : Id32
  buyer : Address
  grantee : Address
  currentBlock : ℕ
  grantDurationBlocks : ℕ
  maxReads : ℕ
  paymentCommitment : Hash32
  buyerSignature : Bytes

namespace Purchase

variable (p : Purchase) (authorization : SaleAuthorization) (grantExpiresAtBlock : ℕ)

/-- The checks of a purchase in front of its authorization. -/
def validate : Except String Unit :=
  firstFailure [
    (p.buyer == .zero || p.grantee == .zero,
      "Pollen purchase buyer/grantee cannot be zero"),
    (p.grantDurationBlocks == 0, "Pollen purchase grant_duration_blocks must be >= 1"),
    (p.maxReads == 0, "Pollen purchase max_reads must be >= 1"),
    (p.paymentCommitment == List.replicate 32 0,
      "Pollen purchase payment_commitment cannot be zero"),
    (p.buyerSignature == signatureSentinel, "Pollen purchase buyer_signature sentinel is invalid")]

/-- The grant of a purchase, with the signature of the authorization. -/
def grant : AccessGrant :=
  { AccessGrant.newUnsigned D.sha256 authorization.assetId authorization.seller p.grantee p.buyer
      authorization.unitPrice p.currentBlock grantExpiresAtBlock p.maxReads
      authorization.termsHash with
    ownerSignature := authorization.sellerSignature }

def receipt : PollenPurchaseReceipt :=
  PollenPurchaseReceipt.new D.sha256
    { receiptId := .zero
      authorizationId := authorization.authorizationId
      assetId := authorization.assetId
      seller := authorization.seller
      buyer := p.buyer
      grantee := p.grantee
      pricePaid := authorization.unitPrice
      grantId := (p.grant D authorization grantExpiresAtBlock).grantId
      purchasedAtBlock := p.currentBlock
      grantExpiresAtBlock
      maxReads := p.maxReads
      termsHash := authorization.termsHash
      paymentCommitment := p.paymentCommitment }

end Purchase

/-- The checks of a purchase against its authorization and the asset. -/
def checkSale (p : Purchase) (authorization : SaleAuthorization) :
    Exec PollenRegistry String Unit := do
  ofExcept id (authorization.validateShape D.sha256)
  failIf (authorization.canIssue p.currentBlock = false)
    "SaleAuthorization inactive, expired, or grant limit exhausted"
  let asset ← ofOption "SaleAuthorization references unknown DataAsset"
    (← read fun m => m.dataAssets.get? authorization.assetId)
  failIf (asset.status ≠ .active) "SaleAuthorization references inactive DataAsset"
  failIf (asset.owner ≠ authorization.seller)
    "SaleAuthorization seller must match DataAsset owner"
  let preimage ← ofExcept id (purchaseSigningHash D authorization p.buyer p.grantee
    p.currentBlock p.grantDurationBlocks p.maxReads p.paymentCommitment)
  ofExcept (fun e => s!"Pollen purchase buyer signature invalid: {e}")
    (D.verifySignature preimage p.buyerSignature p.buyer.asBytes)

def issueGrantFromSaleAuthorization (p : Purchase) :
    Exec PollenRegistry String (Id32 × PollenPurchaseReceipt) := do
  ofExcept id p.validate
  let authorization ← ofOption "SaleAuthorization not found"
    (← read fun m => m.saleAuthorizations.get? p.authorizationId)
  checkSale D p authorization
  let grantExpiresAtBlock ← ofOption "Pollen purchase grant expiry overflow"
    (checkedAdd u64Max p.currentBlock p.grantDurationBlocks)
  failIf (authorization.expiresAtBlock < grantExpiresAtBlock)
    "Pollen purchase grant expiry exceeds SaleAuthorization expiry"
  let grant := p.grant D authorization grantExpiresAtBlock
  ofExcept id (grant.validateShape D.sha256)
  failIf ((← read fun m => m.accessGrants.contains grant.grantId) = true)
    "AccessGrant already registered"
  let receipt := p.receipt D authorization grantExpiresAtBlock
  ofExcept id (receipt.validateShape D.sha256)
  failIf
    ((← read fun m => m.purchaseReceipts.contains receipt.receiptId) = true)
    "PollenPurchaseReceipt already registered"
  let issued ← ofExcept id authorization.recordIssuedGrant
  modify fun m => { m with
    saleAuthorizations := m.saleAuthorizations.insert p.authorizationId issued
    accessGrants := m.accessGrants.insert grant.grantId grant
    purchaseReceipts := m.purchaseReceipts.insert receipt.receiptId receipt }
  pure (grant.grantId, receipt)

def bindContentToAsset (manifestId assetId : Id32) (caller : Address) :
    Exec PollenRegistry String Unit := do
  let asset ← ofOption "cannot sell content under an asset that does not exist"
    (← read fun m => m.dataAssets.get? assetId)
  failIf (asset.status ≠ .active) "cannot sell content under a revoked asset"
  failIf (asset.manifestId ≠ manifestId.bytes)
    "cannot bind content that does not match the asset's registered manifest"
  let bound ← read fun m =>
    m.protectedContent.bind manifestId assetId asset.owner caller
  let protectedContent ← ofExcept (ContentGateError.text D) bound
  modify fun m => { m with protectedContent }

def authorizeContentRead (m : PollenRegistry) (manifestId : Id32) (reader : Address)
    (grantId : Option Id32) (currentBlock : ℕ) : Except String Unit :=
  match m.protectedContent.assetFor manifestId with
  | none => .ok ()
  | some required =>
    match grantId with
    | none => .error (s!"content {D.hexEncode manifestId.bytes} is sold as Pollen asset " ++
        s!"{D.hexEncode required.bytes} and needs an access grant")
    | some grantId =>
      match m.accessGrants.get? grantId with
      | none => .error "access denied: AccessGrant not found"
      | some grant =>
        if grant.assetId ≠ required then
          .error (s!"access denied: grant covers asset {D.hexEncode grant.assetId.bytes} " ++
            s!"but the content belongs to {D.hexEncode required.bytes}")
        else match m.dataAssets.get? required with
          | none => .error "access denied: DataAsset not found"
          | some asset => firstFailure [
              (asset.status != .active, "access denied: DataAsset revoked"),
              (grant.owner != asset.owner, "access denied: grant owner mismatch"),
              (!grant.isActiveFor reader currentBlock,
                "access denied: AccessGrant inactive, expired, exhausted, or wrong grantee")]

end PollenRegistry

end Budlum
