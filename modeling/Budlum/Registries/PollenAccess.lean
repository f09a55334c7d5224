import Budlum.Lib.Meter
import Budlum.Registries.Pollen

/-!
# Who may read paid content

A run of marketplace calls keeps three things. Every grant has the consent of the owner it
names: their signature on the grant, or on the sale authorization it was issued from
(`Consented`). No grant is consumed beyond its reads and no authorization issues beyond its
grants, which are two cases of `Metered`. `Effect` says what a call can do to the grants and
the authorizations, and the three are read off it.
-/

namespace Budlum

open Machine Exec SaleAuthorization SortedMap List

namespace PollenRegistry

abbrev u32Max : ℕ := 2 ^ 32 - 1

/-- What the limits of the marketplace are about. -/
inductive Event
  | issued (authorizationId grantId : Id32)
  | consumed (grantId : Id32)
deriving DecidableEq

/-- The calls that write. A limit on reads or grants is a `u32`. -/
inductive Call
  | createOffer (seller : Address) (cid : Hash32) (price : ℕ)
  | closeOffer (id : ℕ) (caller : Address)
  | registerDataAsset (asset : DataAsset)
  | revokeDataAsset (assetId : Id32) (caller : Address)
  | createAccessGrant (grant : AccessGrant) (hreads : grant.maxReads ≤ u32Max)
  | revokeAccessGrant (grantId : Id32) (caller : Address)
  | setEncryptionPolicy (policy : EncryptionPolicy)
  | createSaleAuthorization (authorization : SaleAuthorization)
      (hgrants : authorization.maxGrants ≤ u32Max)
  | issueGrantFromSaleAuthorization (purchase : Purchase) (hreads : purchase.maxReads ≤ u32Max)
  | bindContentToAsset (manifestId assetId : Id32) (caller : Address)
  | consumeAiReadGrant (grantId : Id32) (requester : Address) (currentBlock : ℕ)

/-- A call that neither issues nor consumes. -/
def quietly {α : Type} (x : Exec PollenRegistry String α) :
    Exec PollenRegistry String (List Event) := do
  let _ ← x
  pure []

variable (D : PollenDeps)

def Call.exec : Call → Exec PollenRegistry String (List Event)
  | .createOffer seller cid price =>
    quietly (onMarketplace (MarketplaceRegistry.createOffer seller cid price))
  | .closeOffer id caller => quietly (onMarketplace (MarketplaceRegistry.closeOffer id caller))
  | .registerDataAsset asset =>
    quietly (onMarketplace (MarketplaceRegistry.registerDataAsset D.sha256 asset))
  | .revokeDataAsset assetId caller =>
    quietly (onMarketplace (MarketplaceRegistry.revokeDataAsset assetId caller))
  | .createAccessGrant grant _ => quietly (onMarketplace
      (MarketplaceRegistry.createAccessGrant D.sha256 D.verifySignature grant))
  | .revokeAccessGrant grantId caller =>
    quietly (onMarketplace (MarketplaceRegistry.revokeAccessGrant grantId caller))
  | .setEncryptionPolicy policy =>
    quietly (onMarketplace (MarketplaceRegistry.setEncryptionPolicy policy))
  | .createSaleAuthorization authorization _ => quietly (onMarketplace
      (MarketplaceRegistry.createSaleAuthorization D.sha256 D.verifySignature authorization))
  | .issueGrantFromSaleAuthorization purchase _ => do
      let (grantId, _) ← PollenRegistry.issueGrantFromSaleAuthorization D purchase
      pure [.issued purchase.authorizationId grantId]
  | .bindContentToAsset manifestId assetId caller =>
    quietly (PollenRegistry.bindContentToAsset D manifestId assetId caller)
  | .consumeAiReadGrant grantId requester currentBlock => do
      onMarketplace (MarketplaceRegistry.consumeAiReadGrant grantId requester currentBlock)
      pure [.consumed grantId]

/-- The registry after some calls, and what happened on the way. -/
structure Run where
  registry : PollenRegistry
  events : List Event

def Run.call (run : Run) (c : Call) : Run :=
  match (c.exec D).run run.registry with
  | (.ok events, registry) => ⟨registry, run.events ++ events⟩
  | (.error _, registry) => ⟨registry, run.events⟩

/-- The calls in order, from an empty registry. -/
def runCalls (calls : List Call) : Run := calls.foldl (Run.call D) ⟨new, []⟩

/-! ## Consent -/

def GrantSigned (grant : AccessGrant) : Prop :=
  D.verifySignature (grant.signingHash D.sha256) grant.ownerSignature grant.owner.asBytes = .ok ()

def SaleSigned (authorization : SaleAuthorization) : Prop :=
  D.verifySignature (authorization.signingHash D.sha256) authorization.sellerSignature
    authorization.seller.asBytes = .ok ()

/-- The grant is one that the authorization sells. -/
structure SoldUnder (authorization : SaleAuthorization) (grant : AccessGrant) : Prop where
  asset : grant.assetId = authorization.assetId
  owner : grant.owner = authorization.seller
  price : grant.pricePaid = authorization.unitPrice
  terms : grant.purposeHash = authorization.termsHash
  start : authorization.validFromBlock ≤ grant.issuedAtBlock
  stop : grant.expiresAtBlock ≤ authorization.expiresAtBlock

/-- The owner named by a grant signed it, or signed the authorization it was issued from. -/
def Consented (authorizations : SortedMap Id32 SaleAuthorization) (events : List Event)
    (grantId : Id32) (grant : AccessGrant) : Prop :=
  GrantSigned D grant ∨ ∃ authorizationId authorization,
    authorizations.get? authorizationId = some authorization ∧ SaleSigned D authorization ∧
      SoldUnder authorization grant ∧ .issued authorizationId grantId ∈ events

/-! ## One call -/

/-- What a call can do to the grants and the authorizations, and the events of it. -/
inductive Effect (m m' : PollenRegistry) : List Event → Prop
  | quiet (hgrants : m'.accessGrants = m.accessGrants)
      (hsales : m'.saleAuthorizations = m.saleAuthorizations) : Effect m m' []
  | grant (grant : AccessGrant) (hnew : m.accessGrants.get? grant.grantId = none)
      (hsigned : GrantSigned D grant) (hreads : grant.maxReads ≤ u32Max)
      (hgrants : m'.accessGrants = m.accessGrants.insert grant.grantId grant)
      (hsales : m'.saleAuthorizations = m.saleAuthorizations) : Effect m m' []
  | revoke (grantId : Id32) (grant : AccessGrant)
      (hget : m.accessGrants.get? grantId = some grant)
      (hgrants : m'.accessGrants =
        m.accessGrants.insert grantId { grant with status := .revoked })
      (hsales : m'.saleAuthorizations = m.saleAuthorizations) : Effect m m' []
  | consume (grantId : Id32) (grant : AccessGrant)
      (hget : m.accessGrants.get? grantId = some grant)
      (hleft : grant.readsUsed < grant.maxReads)
      (hgrants : m'.accessGrants = m.accessGrants.insert grantId
        { grant with readsUsed := satAdd u32Max grant.readsUsed 1 })
      (hsales : m'.saleAuthorizations = m.saleAuthorizations) : Effect m m' [.consumed grantId]
  | authorize (authorization : SaleAuthorization)
      (hnew : m.saleAuthorizations.get? authorization.authorizationId = none)
      (hsigned : SaleSigned D authorization) (hlimit : authorization.maxGrants ≤ u32Max)
      (hgrants : m'.accessGrants = m.accessGrants)
      (hsales : m'.saleAuthorizations =
        m.saleAuthorizations.insert authorization.authorizationId authorization) : Effect m m' []
  | issue (authorizationId : Id32) (authorization : SaleAuthorization) (grant : AccessGrant)
      (hget : m.saleAuthorizations.get? authorizationId = some authorization)
      (hleft : authorization.grantsIssued < authorization.maxGrants)
      (hnew : m.accessGrants.get? grant.grantId = none) (hreads : grant.maxReads ≤ u32Max)
      (hsold : SoldUnder authorization grant)
      (hgrants : m'.accessGrants = m.accessGrants.insert grant.grantId grant)
      (hsales : m'.saleAuthorizations = m.saleAuthorizations.insert authorizationId
        { authorization with grantsIssued := satAdd u32Max authorization.grantsIssued 1 }) :
      Effect m m' [.issued authorizationId grant.grantId]

def Yields (x : Exec PollenRegistry String (List Event)) : Prop :=
  ∀ m, wp x (fun events m' => Effect D m m' events) (fun _ m' => m' = m) m

variable {D}

lemma yields_quietly {α : Type} {x : Exec PollenRegistry String α}
    (h : ∀ m, wp x (fun _ m' => Effect D m m' []) (fun _ m' => m' = m) m) :
    Yields D (quietly x) := by
  intro m
  simp only [quietly, wp_bind]
  exact h m

lemma yields_onMarketplace {α : Type} {x : Exec MarketplaceRegistry String α}
    (h : ∀ m : PollenRegistry, wp x
      (fun _ r => Effect D m { m with toMarketplaceRegistry := r } [])
      (fun _ r => r = m.toMarketplaceRegistry) m.toMarketplaceRegistry) :
    Yields D (quietly (onMarketplace x)) := by
  refine yields_quietly fun m => ?_
  rw [onMarketplace, wp_zoom_run]
  exact wp_mono (h m) (fun _ _ h => h) fun _ r hr => by rw [hr]

lemma get?_eq_none_of_contains {K V : Type} [LinearOrder K] {table : SortedMap K V} {k : K}
    (h : ¬ table.contains k = true) : table.get? k = none := by
  rwa [SortedMap.contains, Option.isSome_iff_ne_none, not_not] at h

/-! ### A purchase -/

variable {authorization : SaleAuthorization}

/-- What a sale that passed its checks lets the rest of the purchase rely on. -/
lemma wp_checkSale {p : Purchase} {m : PollenRegistry} : wp (checkSale D p authorization)
      (fun _ m' => m' = m ∧ authorization.canIssue p.currentBlock = true)
      (fun _ m' => m' = m) m := by
  simp only [checkSale, wp_steps]
  intro _ _ hissue asset _ _ _ preimage _ _ _
  exact Bool.not_eq_false _ ▸ hissue

lemma SoldUnder.grant {p : Purchase} {expiry : ℕ}
    (hissue : authorization.canIssue p.currentBlock = true)
    (hexpiry : expiry ≤ authorization.expiresAtBlock) :
    SoldUnder authorization (p.grant D authorization expiry) := by
  simp only [canIssue, Bool.and_eq_true, decide_eq_true_eq] at hissue
  exact ⟨rfl, rfl, rfl, rfl, hissue.1.1, hexpiry⟩

lemma recordIssuedGrant_eq_ok {a issued : SaleAuthorization}
    (h : a.recordIssuedGrant = .ok issued) : a.grantsIssued < a.maxGrants ∧
      issued = { a with grantsIssued := satAdd u32Max a.grantsIssued 1 } := by
  unfold recordIssuedGrant at h
  split_ifs at h with hfull
  cases h
  exact ⟨not_le.mp hfull, rfl⟩

lemma yields_issueGrantFromSaleAuthorization (p : Purchase) (hreads : p.maxReads ≤ u32Max) :
    Yields D (Call.exec D (.issueGrantFromSaleAuthorization p hreads)) := by
  intro m
  simp only [Call.exec, PollenRegistry.issueGrantFromSaleAuthorization, wp_steps]
  intro _ _ authorization hget
  refine wp_imp wp_checkSale ?_
  rintro _ _ ⟨rfl, hissue⟩
  simp only [wp_steps]
  intro expiry _ hexpiry _ _ hnew _ _ _ issued hissued
  obtain ⟨hleft, rfl⟩ := recordIssuedGrant_eq_ok hissued
  exact .issue p.authorizationId authorization (p.grant D authorization expiry) hget hleft
    (get?_eq_none_of_contains hnew) hreads (.grant hissue (not_lt.mp hexpiry)) rfl rfl

lemma yields_exec (c : Call) : Yields D (c.exec D) := by
  cases c with
  | createOffer | closeOffer | registerDataAsset | revokeDataAsset | setEncryptionPolicy =>
    -- offers, assets and policies are tables of their own
    refine yields_onMarketplace fun m => ?_
    simp only [MarketplaceRegistry.createOffer, MarketplaceRegistry.closeOffer,
      MarketplaceRegistry.registerDataAsset, MarketplaceRegistry.revokeDataAsset,
      MarketplaceRegistry.setEncryptionPolicy, wp_steps]
    intros
    exact .quiet rfl rfl
  | createAccessGrant grant hreads =>
    refine yields_onMarketplace fun m => ?_
    simp only [MarketplaceRegistry.createAccessGrant, wp_steps]
    intro _ _ asset _ _ _ _ hsigned hnew
    exact .grant grant (get?_eq_none_of_contains hnew) hsigned hreads rfl rfl
  | revokeAccessGrant grantId =>
    refine yields_onMarketplace fun m => ?_
    simp only [MarketplaceRegistry.revokeAccessGrant, wp_steps]
    intro grant hget _
    exact .revoke grantId grant hget rfl rfl
  | createSaleAuthorization authorization hgrants =>
    refine yields_onMarketplace fun m => ?_
    simp only [MarketplaceRegistry.createSaleAuthorization, wp_steps]
    intro _ _ asset _ _ _ _ hsigned hnew
    exact .authorize authorization (get?_eq_none_of_contains hnew) hsigned hgrants rfl rfl
  | issueGrantFromSaleAuthorization purchase hreads =>
    exact yields_issueGrantFromSaleAuthorization purchase hreads
  | bindContentToAsset =>
    refine yields_quietly fun m => ?_
    simp only [PollenRegistry.bindContentToAsset, wp_steps]
    intro asset _ _ _ bound _
    exact .quiet rfl rfl
  | consumeAiReadGrant grantId =>
    intro m
    simp only [Call.exec, onMarketplace, wp_steps, wp_zoom_run,
      MarketplaceRegistry.consumeAiReadGrant]
    intro grant hget _ hleft
    exact .consume grantId grant hget (not_le.mp hleft) rfl rfl

/-! ## Runs -/

def reads (events : List Event) (grantId : Id32) : ℕ := events.count (.consumed grantId)

/-- The event is a grant issued from the authorization. -/
def Event.sells (authorizationId : Id32) : Event → Bool
  | .issued a _ => a == authorizationId
  | .consumed _ => false

def grantsSold (events : List Event) (authorizationId : Id32) : ℕ :=
  events.countP (Event.sells authorizationId)

structure Kept (D : PollenDeps) (m : PollenRegistry) (events : List Event) : Prop where
  consented : ∀ grantId grant, m.accessGrants.get? grantId = some grant →
    Consented D m.saleAuthorizations events grantId grant
  salesSigned : ∀ authorizationId authorization,
    m.saleAuthorizations.get? authorizationId = some authorization → SaleSigned D authorization
  reads : Metered AccessGrant.readsUsed AccessGrant.maxReads u32Max m.accessGrants (reads events)
  sales : Metered grantsIssued maxGrants u32Max
    m.saleAuthorizations (grantsSold events)

section

variable {m m' : PollenRegistry} {events es : List Event} {grantId : Id32} {grant : AccessGrant}
  {sales sales' : SortedMap Id32 SaleAuthorization}

/-- Authorizations only ever change in the number of grants they issued, which is not among
the terms that were signed. -/
lemma Consented.mono (h : Consented D sales events grantId grant)
    (hsales : ∀ id a, sales.get? id = some a →
      ∃ n, sales'.get? id = some { a with grantsIssued := n }) :
    Consented D sales' (events ++ es) grantId grant := by
  rcases h with hsigned | ⟨id, a, hget, hsigned, hsold, hissued⟩
  · exact .inl hsigned
  · obtain ⟨n, hget'⟩ := hsales id a hget
    refine .inr ⟨id, _, hget', hsigned, ?_, mem_append_left es hissued⟩
    exact { hsold with }

lemma Consented.written (h : Consented D sales events grantId grant)
    (status : AccessGrantStatus) (readsUsed : ℕ) :
    Consented D sales events grantId { grant with status, readsUsed } := by
  rcases h with hsigned | ⟨id, a, hget, hsigned, hsold, hissued⟩
  · exact .inl hsigned
  · refine .inr ⟨id, a, hget, hsigned, ?_, hissued⟩
    exact { hsold with }

lemma consented_insert {table : SortedMap Id32 AccessGrant} {k : Id32} {g : AccessGrant}
    (h : ∀ id grant, table.get? id = some grant → Consented D sales events id grant)
    (hg : Consented D sales events k g) :
    ∀ id grant, (table.insert k g).get? id = some grant → Consented D sales events id grant := by
  intro id grant hget
  rcases get?_insert_eq_some.mp hget with ⟨rfl, rfl⟩ | ⟨-, hold⟩
  · exact hg
  · exact h id grant hold

lemma Effect.sales_kept (h : Effect D m m' es) :
    ∀ id a, m.saleAuthorizations.get? id = some a →
      ∃ n, m'.saleAuthorizations.get? id = some { a with grantsIssued := n } := by
  intro id a hget
  have hsame : m'.saleAuthorizations = m.saleAuthorizations →
      ∃ n, m'.saleAuthorizations.get? id = some { a with grantsIssued := n } := by
    intro hsales
    rw [hsales]
    exact ⟨a.grantsIssued, hget⟩
  cases h with
  | quiet _ hsales => exact hsame hsales
  | grant _ _ _ _ _ hsales => exact hsame hsales
  | revoke _ _ _ _ hsales => exact hsame hsales
  | consume _ _ _ _ _ hsales => exact hsame hsales
  | authorize authorization hnew _ _ _ hsales =>
    have hother : id ≠ authorization.authorizationId := by
      rintro rfl
      rw [hnew] at hget
      cases hget
    rw [hsales, get?_insert, if_neg hother]
    exact ⟨a.grantsIssued, hget⟩
  | issue authorizationId authorization _ hfound _ _ _ _ _ hsales =>
    rw [hsales, get?_insert]
    split_ifs with hid
    · subst hid
      cases hfound.symm.trans hget
      exact ⟨_, rfl⟩
    · exact ⟨a.grantsIssued, hget⟩

lemma Kept.consented_step (h : Kept D m events) (heffect : Effect D m m' es) :
    ∀ id grant, m'.accessGrants.get? id = some grant →
      Consented D m'.saleAuthorizations (events ++ es) id grant := by
  have hold : ∀ id grant, m.accessGrants.get? id = some grant →
      Consented D m'.saleAuthorizations (events ++ es) id grant := fun id grant hget =>
    (h.consented id grant hget).mono heffect.sales_kept
  cases heffect with
  | quiet hgrants => rwa [hgrants]
  | grant _ _ hsigned _ hgrants =>
    rw [hgrants]
    exact consented_insert hold (.inl hsigned)
  | revoke grantId grant hget hgrants =>
    rw [hgrants]
    exact consented_insert hold ((hold grantId grant hget).written .revoked grant.readsUsed)
  | consume grantId grant hget _ hgrants =>
    rw [hgrants]
    exact consented_insert hold ((hold grantId grant hget).written grant.status _)
  | authorize _ _ _ _ hgrants => rwa [hgrants]
  | issue authorizationId authorization grant hget _ _ _ hsold hgrants hsales =>
    have hissued : Consented D m'.saleAuthorizations
        (events ++ [.issued authorizationId grant.grantId]) grant.grantId grant := by
      refine .inr ⟨authorizationId,
        { authorization with grantsIssued := satAdd u32Max authorization.grantsIssued 1 },
        ?_, h.salesSigned authorizationId authorization hget, ?_, by simp⟩
      · rw [hsales, get?_insert_self]
      · exact { hsold with }
    rw [hgrants]
    exact consented_insert hold hissued

lemma Kept.salesSigned_step (h : Kept D m events) (heffect : Effect D m m' es) :
    ∀ id a, m'.saleAuthorizations.get? id = some a → SaleSigned D a := by
  cases heffect with
  | quiet _ hsales => rw [hsales]; exact h.salesSigned
  | grant _ _ _ _ _ hsales => rw [hsales]; exact h.salesSigned
  | revoke _ _ _ _ hsales => rw [hsales]; exact h.salesSigned
  | consume _ _ _ _ _ hsales => rw [hsales]; exact h.salesSigned
  | authorize authorization _ hsigned _ _ hsales =>
    intro id a hget
    rw [hsales] at hget
    rcases get?_insert_eq_some.mp hget with ⟨-, rfl⟩ | ⟨-, hold⟩
    · exact hsigned
    · exact h.salesSigned id a hold
  | issue authorizationId authorization _ hfound _ _ _ _ _ hsales =>
    intro id a hget
    rw [hsales] at hget
    rcases get?_insert_eq_some.mp hget with ⟨-, rfl⟩ | ⟨-, hold⟩
    · exact h.salesSigned authorizationId authorization hfound
    · exact h.salesSigned id a hold

lemma reads_append (grantId : Id32) :
    reads (events ++ es) grantId = reads events grantId + reads es grantId := count_append

lemma grantsSold_append (authorizationId : Id32) : grantsSold (events ++ es) authorizationId =
      grantsSold events authorizationId + grantsSold es authorizationId := countP_append

section

variable (h : Kept D m events) (heffect : Effect D m m' es)
include h heffect

lemma Kept.reads_step : Metered AccessGrant.readsUsed AccessGrant.maxReads u32Max m'.accessGrants
      (PollenRegistry.reads (events ++ es)) := by
  cases heffect with
  | quiet hgrants => rw [hgrants, append_nil]; exact h.reads
  | grant _ hnew _ hreads hgrants =>
    rw [hgrants, append_nil]
    exact h.reads.insert hnew hreads
  | revoke _ _ hget hgrants =>
    rw [hgrants, append_nil]
    exact h.reads.replace hget rfl rfl
  | consume grantId grant hget hleft hgrants =>
    rw [hgrants]
    refine h.reads.use hget hleft rfl rfl ?_ ?_
    · rw [reads_append]
      simp [PollenRegistry.reads]
    · intro id hid
      rw [reads_append]
      simp [PollenRegistry.reads, Ne.symm hid]
  | authorize _ _ _ _ hgrants => rw [hgrants, append_nil]; exact h.reads
  | issue authorizationId _ grant _ _ hnew hreads _ hgrants =>
    have hsame : PollenRegistry.reads (events ++ [.issued authorizationId grant.grantId]) =
        PollenRegistry.reads events := by
      funext id
      rw [reads_append]
      simp [PollenRegistry.reads]
    rw [hgrants, hsame]
    exact h.reads.insert hnew hreads

lemma Kept.sales_step : Metered grantsIssued maxGrants u32Max
      m'.saleAuthorizations (grantsSold (events ++ es)) := by
  cases heffect with
  | quiet _ hsales => rw [hsales, append_nil]; exact h.sales
  | grant _ _ _ _ _ hsales => rw [hsales, append_nil]; exact h.sales
  | revoke _ _ _ _ hsales => rw [hsales, append_nil]; exact h.sales
  | consume grantId _ _ _ _ hsales =>
    have hsame : grantsSold (events ++ [.consumed grantId]) = grantsSold events := by
      funext id
      rw [grantsSold_append]
      simp [grantsSold, Event.sells]
    rw [hsales, hsame]
    exact h.sales
  | authorize _ hnew _ hlimit _ hsales =>
    rw [hsales, append_nil]
    exact h.sales.insert hnew hlimit
  | issue authorizationId _ _ hget hleft _ _ _ _ hsales =>
    rw [hsales]
    refine h.sales.use hget hleft rfl rfl ?_ ?_
    · rw [grantsSold_append]
      simp [grantsSold, Event.sells]
    · intro id hid
      rw [grantsSold_append]
      simp [grantsSold, Event.sells, Ne.symm hid]

lemma Kept.step : Kept D m' (events ++ es) :=
  ⟨h.consented_step heffect, h.salesSigned_step heffect, h.reads_step heffect,
    h.sales_step heffect⟩

end

end

lemma kept_new : Kept D new [] where
  consented _ _ h := nomatch h
  salesSigned _ _ h := nomatch h
  reads := .empty
  sales := .empty

lemma Kept.call {run : Run} (h : Kept D run.registry run.events) (c : Call) :
    Kept D (run.call D c).registry (run.call D c).events := by
  have hyields := wp_iff.mp (yields_exec (D := D) c run.registry)
  unfold Run.call
  rcases hrun : (c.exec D).run run.registry with ⟨e | es, m'⟩
  · show Kept D m' run.events
    rw [hyields.2 e m' hrun]
    exact h
  · exact h.step (hyields.1 es m' hrun)

lemma kept_runCalls (calls : List Call) :
    Kept D (runCalls D calls).registry (runCalls D calls).events := by
  suffices hfold : ∀ run : Run, Kept D run.registry run.events →
      Kept D (calls.foldl (Run.call D) run).registry (calls.foldl (Run.call D) run).events from
    hfold ⟨new, []⟩ kept_new
  induction calls with
  | nil => exact fun _ h => h
  | cons c rest ih => exact fun run h => ih (run.call D c) (h.call c)

/-! ## Reading -/

lemma firstFailure_eq_ok {checks : List (Bool × String)} :
    firstFailure checks = .ok () ↔ ∀ check ∈ checks, check.1 = false := by
  induction checks with
  | nil => simp [firstFailure]
  | cons check rest ih =>
    obtain ⟨failed, message⟩ := check
    cases failed
    · simpa [firstFailure] using ih
    · simp [firstFailure]

lemma authorizeContentRead_eq_ok {m : PollenRegistry} {manifestId required : Id32}
    {reader : Address} {grantId : Option Id32} {currentBlock : ℕ}
    (hbound : m.protectedContent.assetFor manifestId = some required)
    (hread : m.authorizeContentRead D manifestId reader grantId currentBlock = .ok ()) :
    ∃ id grant asset, grantId = some id ∧ m.accessGrants.get? id = some grant ∧
      m.dataAssets.get? required = some asset ∧ grant.assetId = required ∧
      asset.status = .active ∧ grant.owner = asset.owner ∧
      grant.isActiveFor reader currentBlock = true := by
  unfold authorizeContentRead at hread
  rw [hbound] at hread
  rcases grantId with _ | id
  · cases hread
  rcases hgrant : m.accessGrants.get? id with _ | grant
  · simp [hgrant] at hread
  rcases hasset : m.dataAssets.get? required with _ | asset
  · simp only [hgrant, hasset] at hread
    split_ifs at hread
  simp only [hgrant, hasset] at hread
  split_ifs at hread with hid
  have hchecks := firstFailure_eq_ok.mp hread
  simp only [mem_cons, not_mem_nil, or_false, forall_eq_or_imp, forall_eq,
    bne_eq_false_iff_eq, Bool.not_eq_false'] at hchecks
  obtain ⟨hactive, howner, hlive⟩ := hchecks
  exact ⟨id, grant, asset, rfl, hgrant, rfl, not_not.mp hid, hactive, howner, hlive⟩

lemma isActiveFor_iff {grant : AccessGrant} {reader : Address} {currentBlock : ℕ} :
    grant.isActiveFor reader currentBlock = true ↔
      grant.status = .active ∧ grant.grantee = reader ∧ grant.issuedAtBlock ≤ currentBlock ∧
        currentBlock ≤ grant.expiresAtBlock ∧ grant.readsUsed < grant.maxReads := by
  unfold AccessGrant.isActiveFor
  simp only [Bool.and_eq_true, beq_iff_eq, decide_eq_true_eq]
  tauto

/-- The grant is one under which the reader may read the asset in this block, and its owner
consented to it. -/
structure Admits (D : PollenDeps) (run : Run) (assetId : Id32) (asset : DataAsset)
    (grantId : Id32) (grant : AccessGrant) (reader : Address) (currentBlock : ℕ) : Prop where
  registered : run.registry.accessGrants.get? grantId = some grant
  covers : grant.assetId = assetId
  owner : grant.owner = asset.owner
  grantee : grant.grantee = reader
  status : grant.status = .active
  start : grant.issuedAtBlock ≤ currentBlock
  stop : currentBlock ≤ grant.expiresAtBlock
  consent : Consented D run.registry.saleAuthorizations run.events grantId grant

/-- After any calls: sold content is read under a grant that its owner consented to, a grant
is consumed at most as often as it says, and so is a sale authorization. Ids need not even be
free of collisions: a second grant under a taken id is refused. -/
theorem paid_content_is_granted (D : PollenDeps) (calls : List Call) :
    (∀ manifestId assetId reader grantId currentBlock,
      (runCalls D calls).registry.protectedContent.assetFor manifestId = some assetId →
      (runCalls D calls).registry.authorizeContentRead D manifestId reader grantId currentBlock =
        .ok () →
      ∃ asset id grant, (runCalls D calls).registry.dataAssets.get? assetId = some asset ∧
        asset.status = .active ∧ grantId = some id ∧
        Admits D (runCalls D calls) assetId asset id grant reader currentBlock) ∧
    (∀ grantId, reads (runCalls D calls).events grantId = 0 ∨
      ∃ grant, (runCalls D calls).registry.accessGrants.get? grantId = some grant ∧
        reads (runCalls D calls).events grantId ≤ grant.maxReads) ∧
    (∀ authorizationId, grantsSold (runCalls D calls).events authorizationId = 0 ∨ ∃ authorization,
        (runCalls D calls).registry.saleAuthorizations.get? authorizationId = some authorization ∧
        grantsSold (runCalls D calls).events authorizationId ≤ authorization.maxGrants) := by
  have hkept : Kept D (runCalls D calls).registry (runCalls D calls).events := kept_runCalls calls
  refine ⟨?_, ?_, ?_⟩
  · intro manifestId assetId reader grantId currentBlock hbound hread
    obtain ⟨id, grant, asset, hid, hgrant, hasset, hassetId, hactive, howner, hlive⟩ :=
      authorizeContentRead_eq_ok hbound hread
    obtain ⟨hstatus, hgrantee, hstart, hstop, -⟩ := isActiveFor_iff.mp hlive
    have hconsent := hkept.consented id grant hgrant
    exact ⟨asset, id, grant, hasset, hactive, hid,
      ⟨hgrant, hassetId, howner, hgrantee, hstatus, hstart, hstop, hconsent⟩⟩
  · intro grantId
    rcases hget : (runCalls D calls).registry.accessGrants.get? grantId with _ | grant
    · exact .inl (hkept.reads.absent grantId hget)
    · exact .inr ⟨grant, rfl, hkept.reads.limited grantId grant hget⟩
  · intro authorizationId
    rcases hget : (runCalls D calls).registry.saleAuthorizations.get? authorizationId with _ | a
    · exact .inl (hkept.sales.absent authorizationId hget)
    · exact .inr ⟨a, rfl, hkept.sales.limited authorizationId a hget⟩

section

/-- Hashes are their preimages and every signature is good. -/
def plainDeps : PollenDeps where
  sha256 := id
  verifySignature _ _ _ := .ok ()
  hexEncode _ := ""
  addressText _ := ""

def soldAsset : DataAsset := DataAsset.new id ⟨1⟩ [7] [8] true

def sale : SaleAuthorization :=
  let unsigned : SaleAuthorization :=
    { authorizationId := .zero, assetId := soldAsset.assetId, seller := ⟨1⟩, unitPrice := 42
      validFromBlock := 10, expiresAtBlock := 20, maxGrants := 1, grantsIssued := 0
      termsHash := [9], sellerSignature := [1] }
  { unsigned with authorizationId := unsigned.deriveId id }

def purchase : Purchase :=
  { authorizationId := sale.authorizationId, buyer := ⟨2⟩, grantee := ⟨3⟩, currentBlock := 11
    grantDurationBlocks := 5, maxReads := 1, paymentCommitment := [5], buyerSignature := [2] }

/-- The owner lists content and signs a sale of one grant, which is bought. -/
def saleCalls : List Call := [
  .registerDataAsset soldAsset, .bindContentToAsset ⟨[7]⟩ soldAsset.assetId ⟨1⟩,
  .createSaleAuthorization sale (by decide),
  .issueGrantFromSaleAuthorization purchase (by decide)]

def soldGrantId : Id32 := (purchase.grant plainDeps sale 16).grantId

/-- A buyer reads what was bought, by the consent the owner gave to the sale. -/
theorem paid_content_is_granted_sale :
    (runCalls plainDeps saleCalls).registry.authorizeContentRead plainDeps ⟨[7]⟩ ⟨3⟩
      (some soldGrantId) 12 = .ok () ∧ ∃ asset id grant,
      (runCalls plainDeps saleCalls).registry.dataAssets.get? soldAsset.assetId = some asset ∧
        asset.status = .active ∧ some soldGrantId = some id ∧
        Admits plainDeps (runCalls plainDeps saleCalls) soldAsset.assetId asset id grant ⟨3⟩ 12 := by
  have hbound : (runCalls plainDeps saleCalls).registry.protectedContent.assetFor ⟨[7]⟩ =
      some soldAsset.assetId := by decide +kernel
  have hread : (runCalls plainDeps saleCalls).registry.authorizeContentRead plainDeps ⟨[7]⟩ ⟨3⟩
      (some soldGrantId) 12 = .ok () := by decide +kernel
  exact ⟨hread, (paid_content_is_granted plainDeps saleCalls).1 _ _ _ _ _ hbound hread⟩

end

end PollenRegistry

end Budlum
