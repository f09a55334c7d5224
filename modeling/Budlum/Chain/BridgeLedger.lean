import Budlum.Chain.Blockchain
import Budlum.CrossDomain.Custody
import Budlum.Execution.Spending

/-!
# Value over the bridge of one chain

The sum of all balances and of what the bridge holds, along runs of bridge steps. Most
steps move balances together with the transfer whose status they change, so the sum
stays. A burn and an unlock on a verified event touch no balance, so it does not.
-/

namespace Budlum

open Machine Exec BridgeTransfer BridgeState List Option

/-! ## Balances and custody -/

namespace AccountState

variable {T : ModuleTypes} {M : Modules T} {α β ε : Type}

/-- What accounts and transfers in custody hold together. -/
def bridgeValue (s : AccountState T) : ℕ := s.circulatingSupply + s.bridgeState.custody

/-- The rate of the relayer's fee is below a hundred percent, as
`RegistryParams::validate` asks before parameters are set. -/
def FeeRateBelowOne (M : Modules T) (s : AccountState T) : Prop :=
  (M.registryParams s.registry).bridgeRelayerFeePpm < 1000000

/-- What every bridge step finds: a fee rate that passed its validation, and transfers
of a positive `u64` whose messages are registered. -/
structure BridgeSound (M : Modules T) (s : AccountState T) : Prop where
  rate : FeeRateBelowOne M s
  transfer : ∀ id t, s.bridgeState.transfers.get? id = some t →
    0 < t.amount ∧ t.amount ≤ u64Max ∧ s.messageRegistry.contains id = true

def Kept (M : Modules T) (s s' : AccountState T) : Prop :=
  s.BridgeSound M → s'.BridgeSound M ∧ s'.bridgeValue = s.bridgeValue

/-- Accounts gained `n` from `s` to `s'`, and the bridge is as it was. -/
structure Gained (n : ℕ) (s s' : AccountState T) : Prop where
  supply : s'.circulatingSupply = s.circulatingSupply + n
  bridge : s'.bridgeState = s.bridgeState
  messages : s'.messageRegistry = s.messageRegistry
  registry : s'.registry = s.registry

variable {m n : ℕ} {s s' s'' : AccountState T}

lemma Gained.refl (s : AccountState T) : Gained 0 s s := ⟨rfl, rfl, rfl, rfl⟩

lemma Gained.trans (h : Gained m s s') (h' : Gained n s' s'') : Gained (m + n) s s'' where
  supply := by rw [h'.supply, h.supply, add_assoc]
  bridge := h'.bridge.trans h.bridge
  messages := h'.messages.trans h.messages
  registry := h'.registry.trans h.registry

lemma Kept.refl (s : AccountState T) : Kept M s s := fun h => ⟨h, rfl⟩

lemma Kept.trans (h : Kept M s s') (h' : Kept M s' s'') : Kept M s s'' := by
  intro hs
  obtain ⟨hs', hvalue⟩ := h hs
  obtain ⟨hs'', hvalue'⟩ := h' hs'
  exact ⟨hs'', hvalue'.trans hvalue⟩

lemma BridgeSound.of_empty (hrate : FeeRateBelowOne M s) (h : s.bridgeState.transfers = ∅) :
    s.BridgeSound M := by
  refine ⟨hrate, fun id t ht => ?_⟩
  rw [h] at ht
  cases ht

lemma BridgeSound.restated (hs : s.BridgeSound M) (hregistry : s'.registry = s.registry)
    (hrestated : BridgeState.Restated s.bridgeState s'.bridgeState)
    (hmessages : ∀ id, s.messageRegistry.contains id = true →
      s'.messageRegistry.contains id = true) : s'.BridgeSound M := by
  refine ⟨by rw [FeeRateBelowOne, hregistry]; exact hs.rate, fun id t' ht' => ?_⟩
  obtain ⟨t, ht, hamount⟩ := hrestated id t' ht'
  obtain ⟨hpos, hmax, hmem⟩ := hs.transfer id t ht
  exact ⟨hamount ▸ hpos, hamount ▸ hmax, hmessages id hmem⟩

lemma gained_tryAddBalance (a : Address) (amount : ℕ) :
    Ensures (Gained amount) (tryAddBalance a amount : Exec (AccountState T) String Unit) := by
  intro s
  rw [wp_tryAddBalance]
  refine ⟨fun _ => ⟨?_, rfl, rfl, rfl⟩, fun _ => trivial⟩
  refine Nat.add_right_cancel ((s.circulatingSupply_setAccount a _).trans ?_)
  change _ + (s.getBalance a + amount) = _
  omega

lemma splitFee_ok (hrate : FeeRateBelowOne M s) {amount : ℕ} {split : ℕ × ℕ}
    (h : Executor.splitFee M s amount = .ok split) : split.1 + split.2 = amount := by
  have hppm : (M.registryParams s.registry).bridgeRelayerFeePpm < 1000000 := hrate
  unfold Executor.splitFee splitBridgeFee at h
  dsimp only at h
  split_ifs at h with hmin
  cases h
  have hfee : satMul u128Max amount (M.registryParams s.registry).bridgeRelayerFeePpm / 1000000 <
      amount := by
    have hle : satMul u128Max amount (M.registryParams s.registry).bridgeRelayerFeePpm ≤
        amount * (M.registryParams s.registry).bridgeRelayerFeePpm := min_le_left _ _
    refine Nat.div_lt_of_lt_mul (hle.trans_lt ?_)
    rw [mul_comm 1000000]
    exact Nat.mul_lt_mul_of_pos_left hppm (by omega)
  dsimp only
  omega

lemma Kept.of_release {id : Id32} {t : BridgeTransfer} {status : BridgeStatus} {b : BridgeState}
    (hmoved : BridgeState.Moved id t status s.bridgeState b) (hheld : t.held = t.amount)
    (hfree : held { t with status } = 0)
    (hgained : Gained t.amount { s with bridgeState := b } s') : Kept M s s' := by
  intro hs
  constructor
  · refine hs.restated hgained.registry (hgained.bridge ▸ hmoved.restated) fun _ h => ?_
    rwa [hgained.messages]
  · have hcustody := hmoved.custody
    have hsupply : s'.circulatingSupply = s.circulatingSupply + t.amount := hgained.supply
    have hbridge : s'.bridgeState = b := hgained.bridge
    rw [bridgeValue, bridgeValue, hsupply, hbridge]
    omega

end AccountState

/-! ## Steps that keep the value -/

namespace Blockchain

open AccountState Executor

variable {T : ModuleTypes} {M : Modules T} {α β : Type}

/-- A success of `x` keeps the value of balances and custody. -/
abbrev Keeps (M : Modules T) (x : Method T α) : Prop :=
  Ensures (fun c c' => Kept M c.state c'.state) x

variable {x : Method T α}

lemma Keeps.of_readOnly (hx : ReadOnly x) : Keeps M x :=
  Ensures.of_readOnly hx fun c => Kept.refl c.state

lemma Keeps.bind {f : α → Method T β} (hx : Keeps M x)
    (hf : ∀ a, Keeps M (f a)) : Keeps M (x >>= f) :=
  Ensures.bind hx hf fun _ _ _ h h' => h.trans h'

lemma gained_paySplit (texts : PayoutTexts) (amount : ℕ) (beneficiary relayer : Address) :
    Ensures (fun c c' => FeeRateBelowOne M c.state → Gained amount c.state c'.state)
      (paySplit M texts amount beneficiary relayer) := by
  intro c
  unfold paySplit onState
  simp only [wp_steps, wp_zoom_run, id]
  intro split hsplit _ _
  refine wp_imp (gained_tryAddBalance _ _ _) (fun _ s h => ?_)
  refine wp_imp (gained_tryAddBalance _ _ _) (fun _ _ h' hrate => ?_)
  rw [← splitFee_ok hrate hsplit]
  exact h.trans h'

lemma keeps_mintMessage (texts : PayoutTexts) (message : CrossDomainMessage)
    (relayer : Address) : Keeps M (mintMessage M texts message relayer) := by
  intro c
  unfold mintMessage onBridgeState onState
  rw [wp_bind, wp_zoom_run, wp_zoom_run]
  refine wp_imp (moved_mint message _) ?_
  rintro - b ⟨t, hstatus, hmoved⟩
  simp only [wp_steps, hmoved.after, some.injEq, forall_eq']
  refine wp_imp (gained_paySplit _ _ _ _ _) (fun _ c' hgained hs => ?_)
  exact Kept.of_release hmoved (held_of_locked hstatus) rfl (hgained hs.rate) hs

lemma keeps_unlockMessage (message : CrossDomainMessage) (relayer : Address) :
    Keeps M (unlockMessage M message relayer) := by
  refine .check .ofOption fun transferId => .check .read fun _ => ?_
  refine .check .ofOption fun _ => .guard ?_
  intro c
  unfold onBridgeState onState
  rw [wp_bind, wp_zoom_run, wp_zoom_run]
  refine wp_imp (moved_unlock transferId _ _) ?_
  rintro - b ⟨t, hstatus, hmoved⟩
  simp only [wp_steps, hmoved.after, some.injEq, forall_eq']
  refine wp_imp (gained_paySplit _ _ _ _ _) (fun _ c' hgained hs => ?_)
  exact Kept.of_release hmoved (held_of_burned hstatus) rfl (hgained hs.rate) hs

/-! ## The executor's two transitions -/

section

variable {tx : Transaction T}

lemma gained_creditBridge (a : Address) (amount : ℕ) (code : String) :
    Ensures (Gained amount) (creditBridge a amount code : Effect T Unit) :=
  Ensures.mapError (gained_tryAddBalance a amount) _

lemma gained_creditIf (a : Address) (amount : ℕ) (code : String) :
    Ensures (Gained amount)
      (if amount > 0 then creditBridge a amount code else pure () : Effect T Unit) := by
  split_ifs with hpos
  · exact gained_creditBridge a amount code
  · obtain rfl : amount = 0 := by omega
    exact .of_readOnly .pure Gained.refl

lemma kept_relayMint (msg : CrossDomainMessage) : Ensures (Kept M) (relayMint M tx msg) := by
  intro s
  unfold relayMint onBridge
  rw [wp_bind, wp_zoom_run]
  refine wp_imp (moved_mint msg _) ?_
  rintro - b ⟨t, hstatus, hmoved⟩
  simp only [wp_steps, id, hmoved.after, some.injEq, forall_eq']
  intro split hsplit _ _
  refine wp_imp (gained_creditBridge _ _ _ _) (fun _ _ h => ?_)
  refine wp_imp (gained_creditIf _ _ _ _) (fun _ _ h' hs => ?_)
  have hgained := h.trans h'
  rw [splitFee_ok hs.rate hsplit] at hgained
  exact Kept.of_release hmoved (held_of_locked hstatus) rfl hgained hs

lemma kept_relayUnlock (msg : CrossDomainMessage) : Ensures (Kept M) (relayUnlock M tx msg) := by
  intro s
  unfold relayUnlock onBridge
  simp only [wp_steps, id, wp_zoom_run]
  intro transferId _ transfer htransfer
  refine wp_imp (moved_unlock transferId _ _) ?_
  rintro - b ⟨t, hstatus, hmoved⟩ split hsplit _
  obtain rfl : transfer = t := some.inj (htransfer.symm.trans hmoved.before)
  by_cases hs : s.BridgeSound M
  · have hsum := splitFee_ok hs.rate hsplit
    -- the amount is a u64, so the cast of the fee does not truncate
    obtain ⟨-, hmax, -⟩ := hs.transfer transferId transfer hmoved.before
    rw [Nat.mod_eq_of_lt (by omega : split.2 < u64Max + 1)]
    refine wp_imp (gained_creditBridge _ _ _ _) (fun _ _ h => ?_)
    refine wp_imp (gained_creditIf _ _ _ _) (fun _ _ h' => ?_)
    have hgained := h.trans h'
    rw [hsum] at hgained
    exact Kept.of_release hmoved (held_of_burned hstatus) rfl hgained
  · refine wp_imp (gained_creditBridge _ _ _ _) (fun _ u _ => ?_)
    rw [wp_ite]
    refine ⟨fun _ => ?_, fun _ h => absurd h hs⟩
    exact wp_imp (gained_creditBridge _ _ _ u) (fun _ _ _ h => absurd h hs)

lemma kept_settleMessage (res : RelayerExternalResult) :
    Ensures (Kept M) (settleMessage M tx res) := by
  have hnone : Ensures (Kept M) (pure () : Effect T Unit) :=
    Ensures.of_readOnly .pure Kept.refl
  unfold settleMessage
  split
  · split_ifs
    · split
      · exact kept_relayMint _
      · exact kept_relayUnlock _
      · exact hnone
    · exact hnone
  · exact hnone

end

/-! ## The sweep -/

lemma gained_refundReleased (released : List (Address × ℕ)) :
    Ensures (Gained (released.map Prod.snd).sum)
      (refundReleased M released : Exec (AccountState T) String Unit) := by
  induction released with
  | nil => exact .of_readOnly .pure Gained.refl
  | cons entry rest ih =>
    obtain ⟨owner, amount⟩ := entry
    have hcheck : Ensures (Gained 0) (failIf (u64Max < amount)
        s!"Bridge sweep refund for {M.addressText owner} exceeds u64::MAX: {amount}" :
        Exec (AccountState T) String Unit) :=
      Ensures.of_readOnly .failIf Gained.refl
    rw [map_cons, sum_cons, ← zero_add (amount + _)]
    refine .bind hcheck (fun _ => ?_) fun _ _ _ h h' => h.trans h'
    exact .bind (Ensures.mapError (gained_tryAddBalance owner amount) _)
      (fun _ => ih) fun _ _ _ h h' => h.trans h'

lemma kept_applyBridgeSweepToState (currentHeight : ℕ) :
    Ensures (Kept M) (applyBridgeSweepToState M currentHeight :
      Exec (AccountState T) String (List (Address × ℕ))) := by
  intro s
  obtain ⟨hsum, hrestated⟩ := s.bridgeState.swept_sweepExpiredLocks currentHeight
  simp only [applyBridgeSweepToState, wp_rules]
  refine wp_imp (gained_refundReleased _ _) (fun _ s' hgained hs => ?_)
  have hbridge : s'.bridgeState = (s.bridgeState.sweepExpiredLocks currentHeight).2 :=
    hgained.bridge
  constructor
  · refine hs.restated hgained.registry (hbridge ▸ hrestated) fun _ h => ?_
    rwa [hgained.messages]
  · have hsupply : s'.circulatingSupply = s.circulatingSupply +
      ((s.bridgeState.sweepExpiredLocks currentHeight).1.map Prod.snd).sum := hgained.supply
    simp only [map_nil, sum_nil, zero_add] at hsum
    rw [bridgeValue, bridgeValue, hsupply, hbridge]
    omega

/-! ## Locks -/

/-- The message of an event is registered, and was not before. -/
structure Registered (m : CrossDomainMessage) (s s' : AccountState T) : Prop where
  ledger : s'.ledger = s.ledger
  bridge : s'.bridgeState = s.bridgeState
  registry : s'.registry = s.registry
  fresh : s.messageRegistry.contains m.messageId = false
  messages : s'.messageRegistry = s.messageRegistry.insert m.messageId m

lemma registered_insertMessage (m : CrossDomainMessage) :
    Ensures (Registered m) (insertMessage M m : Exec (AccountState T) String Unit) := by
  intro s
  simp only [insertMessage, wp_steps]
  intro _ hfresh
  exact ⟨rfl, rfl, rfl, by simpa using hfresh, rfl⟩

lemma registered_emitEvent {event : DomainEvent} {m : CrossDomainMessage}
    (hmessage : event.message = some m) :
    Ensures (fun c c' => Registered m c.state c'.state) (emitEvent M event) := by
  intro c
  simp only [emitEvent, hmessage, submitCrossDomainMessage, onState, enqueueBridgeRelay, wp_steps,
    wp_zoom_run]
  intro _ _ _
  refine wp_imp (registered_insertMessage m _) (fun _ s hs => ?_)
  refine wp_mono (readOnly_persist _ _ _) (fun _ c' hc' => ?_) fun _ _ _ => trivial
  rw [hc', wp_modify]
  exact hs

lemma Registered.contains {m : CrossDomainMessage} {s s' : AccountState T}
    (h : Registered m s s') {id : Id32} (hid : s.messageRegistry.contains id = true) :
    s'.messageRegistry.contains id = true := by
  rw [SortedMap.contains] at hid ⊢
  rw [h.messages, SortedMap.get?_insert]
  split_ifs
  · rfl
  · exact hid

lemma wp_debitOwner {owner : Address} {amount : ℕ} :
    Ensures (fun c c' => c'.state.circulatingSupply + amount = c.state.circulatingSupply ∧
        c'.state.bridgeState = c.state.bridgeState ∧
        c'.state.messageRegistry = c.state.messageRegistry ∧ c'.state.registry = c.state.registry)
      (debitOwner owner amount : Method T Unit) := by
  intro c
  simp only [debitOwner, onState, wp_steps, wp_zoom_run, wp_accounts, Nat.not_lt]
  intro hle
  have hmoves : ∀ supply' supply balance, supply' + balance = supply + (balance - amount) →
      amount ≤ balance → supply' + amount = supply := by omega
  exact ⟨hmoves _ _ _ (c.state.circulatingSupply_setAccount owner _) hle, rfl, rfl, rfl⟩

lemma keeps_lockBridgeTransfer (req : LockRequest) : Keeps M (lockBridgeTransfer M req) := by
  refine .check (readOnly_requireBridgeDomain _) fun _ => ?_
  refine .check (readOnly_requireBridgeDomain _) fun _ => .guard ?_
  intro c
  simp only [onBridgeState, onState, wp_bind, wp_failIf, wp_zoom_run, implies_true, true_and]
  intro hpos _
  refine wp_imp wp_lock (fun result b hlocked => ?_)
  refine fun hmax => wp_imp (wp_debitOwner _) (fun _ d hd => ?_)
  have hsupply : d.state.circulatingSupply + req.amount = c.state.circulatingSupply := hd.1
  have hbridge : d.state.bridgeState = b := hd.2.1
  have hmessages : d.state.messageRegistry = c.state.messageRegistry := hd.2.2.1
  have hregistry : d.state.registry = c.state.registry := hd.2.2.2
  rw [wp_bind]
  refine wp_mono (readOnly_persistBridgeState d) (fun _ d' hd' => ?_) fun _ _ _ => trivial
  subst hd'
  obtain ⟨m, hm, hid⟩ := hlocked.message
  rw [wp_bind]
  refine wp_imp (registered_emitEvent hm _) (fun _ c' hreg => ?_)
  intro hs
  -- the id was not registered, so no transfer had it
  have hfresh : c.state.bridgeState.transfers.get? result.1.messageId = none := by
    by_contra hsome
    obtain ⟨t, ht⟩ := ne_none_iff_exists'.mp hsome
    have hold := (hs.transfer _ t ht).2.2
    have hnew := hreg.fresh
    rw [hmessages, hid] at hnew
    exact Bool.noConfusion (hold.symm.trans hnew)
  refine ⟨⟨?_, fun id t ht => ?_⟩, ?_⟩
  · rw [FeeRateBelowOne, hreg.registry, hregistry]
    exact hs.rate
  · rw [hreg.bridge, hbridge, hlocked.transfers] at ht
    split_ifs at ht with heq
    · cases ht
      rw [hlocked.amount_eq, hreg.messages, hmessages, heq, ← hid]
      refine ⟨by omega, by omega, ?_⟩
      rw [SortedMap.contains, SortedMap.get?_insert_self]
      rfl
    · obtain ⟨htpos, htmax, hmem⟩ := hs.transfer id t ht
      exact ⟨htpos, htmax, hreg.contains (by rwa [hmessages])⟩
  · have hcustody := hlocked.custody hfresh
    have hledger : c'.state.circulatingSupply = d'.state.circulatingSupply := by
      rw [circulatingSupply, circulatingSupply, hreg.ledger]
    rw [bridgeValue, bridgeValue, hledger, hreg.bridge, hbridge]
    omega

/-! ## Steps that touch no balance -/

/-- Announcing an event leaves accounts and transfers alone, and forgets no message. -/
structure Announced (s s' : AccountState T) : Prop where
  ledger : s'.ledger = s.ledger
  bridge : s'.bridgeState = s.bridgeState
  registry : s'.registry = s.registry
  messages : ∀ id, s.messageRegistry.contains id = true → s'.messageRegistry.contains id = true

lemma announced_emitEvent (event : DomainEvent) :
    Ensures (fun c c' => Announced c.state c'.state) (emitEvent M event) := by
  cases hmessage : event.message with
  | none =>
    rw [emitEvent, hmessage]
    exact .of_readOnly .pure fun _ => ⟨rfl, rfl, rfl, fun _ h => h⟩
  | some m =>
    refine .mono (registered_emitEvent hmessage) fun c c' h => ?_
    exact ⟨h.ledger, h.bridge, h.registry, fun _ => h.contains⟩

lemma sound_of_moved {s s' : AccountState T} {b : BridgeState} {id : Id32}
    {t : BridgeTransfer} {status : BridgeStatus} (hs : s.BridgeSound M)
    (hmoved : BridgeState.Moved id t status s.bridgeState b)
    (h : Announced { s with bridgeState := b } s') :
    s'.BridgeSound M ∧ 0 < t.amount ∧
      s'.bridgeValue + t.held = s.bridgeValue + held { t with status } := by
  have hbridge : s'.bridgeState = b := h.bridge
  have hledger : s'.ledger = s.ledger := h.ledger
  refine ⟨hs.restated h.registry (hbridge ▸ hmoved.restated) h.messages,
    (hs.transfer id t hmoved.before).1, ?_⟩
  have hcustody := hmoved.custody
  rw [bridgeValue, bridgeValue, hbridge, circulatingSupply, circulatingSupply, hledger]
  omega

/-- A burn adds its amount to the value: nobody pays it. -/
lemma raised_burnBridgeTransferWithEvent (messageId : Id32)
    (domain domainHeight eventIndex expiryHeight : ℕ) : Ensures (fun c c' => c.state.BridgeSound M →
        c'.state.BridgeSound M ∧ c.state.bridgeValue < c'.state.bridgeValue)
      (burnBridgeTransferWithEvent M messageId domain domainHeight eventIndex expiryHeight) := by
  intro c
  unfold burnBridgeTransferWithEvent onBridgeState onState
  rw [wp_bind, wp_zoom_run, wp_zoom_run]
  refine wp_imp (moved_burnWithEvent _ _ _ _ _ _) ?_
  rintro event b ⟨t, hstatus, hmoved⟩
  rw [wp_bind]
  refine wp_mono (readOnly_persistBridgeState _) (fun _ d hd => ?_) fun _ _ _ => trivial
  rw [hd, wp_bind]
  refine wp_imp (announced_emitEvent event _) (fun _ c' h hs => ?_)
  obtain ⟨hsound, hpos, hvalue⟩ := sound_of_moved hs hmoved h
  simp only [held, hstatus] at hvalue
  exact ⟨hsound, by omega⟩

/-- An unlock on a verified event takes its amount off the value: nobody gets it. -/
lemma lowered_unlockBridgeTransferFromVerifiedEvent (p : EventProof) :
    Ensures (fun c c' => c.state.BridgeSound M →
        c'.state.BridgeSound M ∧ c'.state.bridgeValue < c.state.bridgeValue)
      (unlockBridgeTransferFromVerifiedEvent M p) := by
  refine .check .ofOption fun _ => ?_
  refine .check (readOnly_verifyDomainEventProof _ _) fun _ => ?_
  refine .check (readOnly_burnMessageOf _) fun message => ?_
  refine .check .ofOption fun transferId => ?_
  refine .check .read fun _ => .check .ofOption fun transfer => ?_
  refine .check (readOnly_checkBurnMatches _ _) fun _ => ?_
  intro c
  unfold onBridgeState onState
  rw [wp_bind, wp_zoom_run, wp_zoom_run]
  refine wp_imp (moved_unlock _ _ _) ?_
  rintro - b ⟨t, hstatus, hmoved⟩
  refine wp_mono (readOnly_persistBridgeState _) (fun _ d hd hs => ?_) fun _ _ _ => trivial
  have hquiet : Announced { c.state with bridgeState := b } d.state := by
    rw [hd]
    exact ⟨rfl, rfl, rfl, fun _ h => h⟩
  obtain ⟨hsound, hpos, hvalue⟩ := sound_of_moved hs hmoved hquiet
  simp only [held, hstatus] at hvalue
  exact ⟨hsound, by omega⟩

/-! ## Runs -/

lemma keeps_settleRelay (message : CrossDomainMessage) (relayer : Address) :
    Keeps M (settleRelay M message relayer) := by
  unfold settleRelay
  split
  · exact keeps_mintMessage _ _ _
  · exact keeps_unlockMessage _ _
  · exact fun _ => trivial

inductive BridgeStep (T : ModuleTypes)
  | lock (req : LockRequest)
  | mint (p : EventProof) (relayer : Address)
  | burn (messageId : Id32) (domain domainHeight eventIndex expiryHeight : ℕ)
  | unlock (p : EventProof)
  | relayProof (messageId : Id32) (relayer : Address) (proof : MerkleProof) (sourceDomain : ℕ)
  | relayerResult (tx : Transaction T) (res : RelayerExternalResult)
  | sweep (currentHeight : ℕ)

/-- Run a step. Of a `RelayerResult` transaction it is the settlement alone: the fee
leaves the sender like that of any other transaction. -/
def BridgeStep.exec (M : Modules T) : BridgeStep T → Method T Unit
  | .lock req => do
      let _ ← lockBridgeTransfer M req
      pure ()
  | .mint p relayer => mintBridgeTransferFromVerifiedEvent M p relayer
  | .burn messageId domain domainHeight eventIndex expiryHeight => do
      let _ ← burnBridgeTransferWithEvent M messageId domain domainHeight eventIndex expiryHeight
      pure ()
  | .unlock p => unlockBridgeTransferFromVerifiedEvent M p
  | .relayProof messageId relayer proof sourceDomain => do
      let _ ← submitRelayProof M messageId relayer proof sourceDomain
      pure ()
  | .relayerResult tx res => onState BudlumError.message do
      checkReceipt M res
      settleMessage M tx res
  | .sweep currentHeight => do
      let _ ← onState id (applyBridgeSweepToState M currentHeight)
      pure ()

/-- The step moves balances along with the transfer whose status it changes. -/
def BridgeStep.Balanced : BridgeStep T → Prop
  | .burn .. => False
  | .unlock .. => False
  | _ => True

lemma keeps_onState {ε : Type} {text : ε → String} {x : Exec (AccountState T) ε α}
    (hx : Ensures (Kept M) x) : Keeps M (onState text x) := by
  intro c
  rw [onState, wp_zoom_run]
  exact wp_mono (hx c.state) (fun _ _ h => h) fun _ _ h => h

lemma Keeps.discard (hx : Keeps M x) : Keeps M (do let _ ← x; pure ()) :=
  Keeps.bind hx fun _ => .of_readOnly .pure

lemma BridgeStep.keeps_of_balanced {step : BridgeStep T} (h : step.Balanced) :
    Keeps M (step.exec M) := by
  cases step with
  | lock req => exact (keeps_lockBridgeTransfer req).discard
  | mint =>
    refine .check .ofOption fun _ => ?_
    refine .check (readOnly_checkMintDomain _ _) fun _ => ?_
    refine .check (readOnly_verifyDomainEventProof _ _) fun _ => ?_
    refine .check (readOnly_lockMessageOf _) fun message => ?_
    exact Keeps.bind (keeps_mintMessage _ _ _) fun _ => .of_readOnly readOnly_persistBridgeState
  | burn => exact h.elim
  | unlock => exact h.elim
  | relayProof =>
    refine Keeps.discard (.check .read fun c => .check .ofExcept fun _ => ?_)
    refine .check .ofOption fun _ => .check .ofOption fun _ => ?_
    -- the relayer's books are not part of the account state
    refine Keeps.bind (Ensures.zoom fun c _ => Kept.refl c.state) fun _ => ?_
    exact Keeps.bind (keeps_settleRelay _ _) fun _ => .of_readOnly .pure
  | relayerResult tx res =>
    exact keeps_onState (Ensures.check (readOnly_checkReceipt res) fun _ => kept_settleMessage res)
  | sweep currentHeight =>
    exact (keeps_onState (kept_applyBridgeSweepToState currentHeight)).discard

lemma BridgeStep.value_iff {step : BridgeStep T} {c c' : Blockchain T}
    (hrun : (step.exec M).run c = (.ok (), c')) (hs : c.state.BridgeSound M) :
    c'.state.BridgeSound M ∧ (c'.state.bridgeValue = c.state.bridgeValue ↔ step.Balanced) := by
  by_cases hbalanced : step.Balanced
  · obtain ⟨hs', hvalue⟩ := (keeps_of_balanced hbalanced).of_run hrun hs
    exact ⟨hs', iff_of_true hvalue hbalanced⟩
  cases step with
  | burn messageId domain domainHeight eventIndex expiryHeight =>
    have hraised : Ensures _ (exec M (.burn _ _ _ _ _)) :=
      Ensures.bind (raised_burnBridgeTransferWithEvent messageId domain domainHeight
        eventIndex expiryHeight) (fun _ => .of_readOnly .pure fun c => rfl)
        fun _ _ _ h h' => h' ▸ h
    obtain ⟨hs', hlt⟩ := hraised.of_run hrun hs
    exact ⟨hs', iff_of_false hlt.ne' hbalanced⟩
  | unlock p =>
    obtain ⟨hs', hlt⟩ := (lowered_unlockBridgeTransferFromVerifiedEvent p).of_run hrun hs
    exact ⟨hs', iff_of_false hlt.ne hbalanced⟩
  | _ => exact absurd trivial hbalanced

inductive BridgeRun (M : Modules T) : Blockchain T → List (BridgeStep T) → Blockchain T → Prop
  | nil (c : Blockchain T) : BridgeRun M c [] c
  | cons {c d c' : Blockchain T} {step : BridgeStep T} {steps : List (BridgeStep T)}
      (head : (step.exec M).run c = (.ok (), d)) (tail : BridgeRun M d steps c') :
      BridgeRun M c (step :: steps) c'

/-- Along a run the value is that of its start in every state reached exactly when all
steps are balanced. -/
theorem bridge_value_constant_iff {c c' : Blockchain T} {steps : List (BridgeStep T)}
    (hsound : c.state.BridgeSound M) (hrun : BridgeRun M c steps c') :
    (∀ reached d, reached <+: steps → BridgeRun M c reached d →
      d.state.bridgeValue = c.state.bridgeValue) ↔ ∀ step ∈ steps, step.Balanced := by
  induction hrun with
  | nil c =>
    refine iff_of_true (fun reached d hreached hd => ?_) fun _ h => by cases h
    obtain rfl := prefix_nil.mp hreached
    cases hd
    rfl
  | @cons c d c' step steps head tail ih =>
    obtain ⟨hsound', hstep⟩ := BridgeStep.value_iff head hsound
    rw [forall_mem_cons, ← hstep]
    constructor
    · intro h
      have hvalue := h [step] d (by simp) (.cons head (.nil d))
      refine ⟨hvalue, (ih hsound').mp fun reached e hreached he => ?_⟩
      rw [hvalue]
      exact h (step :: reached) e (cons_prefix_cons.mpr ⟨rfl, hreached⟩) (.cons head he)
    · rintro ⟨hvalue, htail⟩ reached e hreached he
      cases he with
      | nil => rfl
      | cons head' tail' =>
        obtain ⟨rfl, hrest⟩ := cons_prefix_cons.mp hreached
        -- a step has one outcome
        obtain rfl : d = _ := congrArg Prod.snd (head.symm.trans head')
        rw [← hvalue]
        exact (ih hsound').mpr htail _ e hrest tail'

lemma BridgeRun.step {c c' : Blockchain T} {step : BridgeStep T} {steps : List (BridgeStep T)}
    (head : ((step.exec M).run c).1.isOk = true)
    (tail : BridgeRun M ((step.exec M).run c).2 steps c') : BridgeRun M c (step :: steps) c' := by
  refine .cons (Prod.ext ?_ rfl) tail
  cases hres : ((step.exec M).run c).1 with
  | ok => rfl
  | error e =>
    rw [hres] at head
    cases head

def crossing : LockRequest where
  sourceDomain := 1
  targetDomain := 2
  sourceHeight := 1
  eventIndex := 0
  assetId := ⟨[7]⟩
  owner := ⟨1⟩
  recipient := ⟨2⟩
  amount := 40
  expiryHeight := 100

def crossingMessage : CrossDomainMessage :=
  lockMessage flatten 1 2 1 0 0 ⟨[7]⟩ ⟨1⟩ ⟨2⟩ 40 100

def crossingEvent : DomainEvent where
  domainId := 1
  domainHeight := 1
  eventIndex := 0
  kind := .bridgeLocked
  emitter := ⟨1⟩
  message := some crossingMessage
  payloadHash := crossingMessage.payloadHash

def crossingProof : EventProof where
  domain := 1
  height := 1
  sequence := 0
  expectedBlockHash := some []
  event := crossingEvent
  proof := ⟨crossingEvent.leafHash flatten, 0, []⟩

def bridgeDomain (id : ℕ) : ConsensusDomain where
  id := id
  kind := .poS
  status := .active
  domainChainId := id
  operator := some ⟨1⟩
  operatorBond := 10000
  validatorSetHash := []
  finalityAdapter := "pos-qc-finality"
  minConfirmations := 1
  bridgeEnabled := true
  lastCommittedHeight := 1
  lastCommittedHash := []
  powParameters := none

/-- Two bridge domains, an owner of a hundred units, and domain 1's commitment to the
event of the crossing. -/
def bridgeChain : Blockchain .point where
  chain := []
  storage := none
  state :=
    { point.setAccount ⟨1⟩ (Account.withBalance ⟨1⟩ 100) with
      bridgeState := { BridgeState.new with
        assetLocations := (∅ : SortedMap Id32 BridgeStatus).insert ⟨[7]⟩ (.active 1) } }
  domainRegistry := ((∅ : SortedMap ℕ ConsensusDomain).insert 1 (bridgeDomain 1)).insert 2
    (bridgeDomain 2)
  domainCommitmentRegistry := (∅ : DomainCommitmentRegistry).insert (toLex (1, toLex (1, 0)))
    ⟨1, 1, [], [], crossingEvent.leafHash flatten, .poS, [], 0, ∅⟩
  universalRelayer := UniversalRelayer.new

lemma bridgeChain_sound : bridgeChain.state.BridgeSound .refusing :=
  .of_empty (by change 0 < 1000000; decide) rfl

def crossingSteps : List (BridgeStep .point) :=
  [.lock crossing, .mint crossingProof ⟨3⟩, .burn crossingMessage.messageId 2 1 0 0]

/-- The lock and the mint are balanced. -/
theorem bridge_value_constant_iff_crossing : ∃ c',
    BridgeRun .refusing bridgeChain (crossingSteps.take 2) c' ∧
      ((∀ reached d, reached <+: crossingSteps.take 2 → BridgeRun .refusing bridgeChain reached d →
          d.state.bridgeValue = bridgeChain.state.bridgeValue) ↔
        ∀ step ∈ crossingSteps.take 2, step.Balanced) := by
  obtain ⟨c', hrun⟩ : ∃ c', BridgeRun .refusing bridgeChain (crossingSteps.take 2) c' :=
    ⟨_, .step (by decide +kernel) (.step (by decide +kernel) (.nil _))⟩
  exact ⟨c', hrun, bridge_value_constant_iff bridgeChain_sound hrun⟩

/-- The burn takes nothing from the account that the mint has paid. -/
theorem burn_raises_bridge_value : ∃ c', BridgeRun .refusing bridgeChain crossingSteps c' ∧
      bridgeChain.state.bridgeValue = 100 ∧ c'.state.bridgeValue = 140 :=
  ⟨_, .step (by decide +kernel) (.step (by decide +kernel) (.step (by decide +kernel) (.nil _))),
    by decide +kernel, by decide +kernel⟩

end Blockchain

end Budlum
