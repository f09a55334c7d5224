import Budlum.Chain.BridgeLedger
import Budlum.Execution.ErrorAtomicity

/-!
# Three ways to complete a burned transfer

An unlock on a verified event, a relayed proof and a `RelayerResult` transaction all
take a burned transfer to unlocked. What each of them pays is worked out here, for any
aliasing of owner and relayer, and with it when two of them agree.
-/

namespace Budlum.Blockchain

open Machine AccountState Executor Exec SettlementProofVerifier BridgeState Option

variable {T : ModuleTypes} {M : Modules T}

/-! ## Payments -/

/-- Every account `a` gained `gain a` from `s` to `s'`, and the bridge is as it was. -/
structure Paid (gain : Address → ℕ) (s s' : AccountState T) : Prop where
  balance : ∀ a, s'.getBalance a = s.getBalance a + gain a
  bridge : s'.bridgeState = s.bridgeState

def only (owner : Address) (amount : ℕ) (a : Address) : ℕ := if a = owner then amount else 0

@[simp] lemma only_zero (owner a : Address) : only owner 0 a = 0 := ite_self 0

section

variable {s s' s'' : AccountState T} {gain gain' : Address → ℕ}

lemma Paid.trans (h : Paid gain s s') (h' : Paid gain' s' s'') :
    Paid (fun a => gain a + gain' a) s s'' := by
  refine ⟨fun a => ?_, h'.bridge.trans h.bridge⟩
  rw [h'.balance, h.balance, add_assoc]

lemma paid_tryAddBalance (a : Address) (amount : ℕ) : Ensures (Paid (only a amount))
      (tryAddBalance a amount : Exec (AccountState T) String Unit) := by
  intro s
  rw [wp_tryAddBalance]
  refine ⟨fun _ => ⟨fun b => ?_, rfl⟩, fun _ => trivial⟩
  rw [getBalance_setAccount, only]
  split_ifs with heq
  · rw [heq]
  · rfl

/-- The shares of owner and relayer in the payout of an amount. The relayer's is cast to
a `u64`. -/
def shares (M : Modules T) (s : AccountState T) (amount : ℕ) : ℕ × ℕ :=
  match splitFee M s amount with
  | .ok split => (split.1, split.2 % (u64Max + 1))
  | .error _ => (0, 0)

def payout (M : Modules T) (s : AccountState T) (amount : ℕ) (owner relayer a : Address) : ℕ :=
  only owner (shares M s amount).1 a + only relayer (shares M s amount).2 a

lemma paid_paySplit (texts : PayoutTexts) (amount : ℕ) (owner relayer : Address) :
    Ensures (fun c c' => Paid (payout M c.state amount owner relayer) c.state c'.state)
      (paySplit M texts amount owner relayer) := by
  intro c
  unfold paySplit onState
  simp only [wp_steps, wp_zoom_run, id, Nat.not_lt]
  intro split hsplit _ hfee
  have hshares : shares M c.state amount = split := by
    rw [shares, hsplit]
    exact Prod.ext rfl (Nat.mod_eq_of_lt (Nat.lt_succ_of_le hfee))
  refine wp_imp (paid_tryAddBalance _ _ _) (fun _ s h => ?_)
  refine wp_imp (paid_tryAddBalance _ _ _) (fun _ _ h' => ?_)
  have hpayout : payout M c.state amount owner relayer =
      fun a => only owner split.1 a + only relayer split.2 a := by
    funext a
    rw [payout, hshares]
  rw [hpayout]
  exact h.trans h'

end

/-! ## What a completion does -/

inductive Completion (T : ModuleTypes)
  | verifiedEvent (p : EventProof)
  | relayProof (messageId : Id32) (proof : MerkleProof) (sourceDomain : ℕ)
  | relayerResult (tx : Transaction T) (res : RelayerExternalResult)

namespace Completion

def pays : Completion T → Bool
  | .verifiedEvent _ => false
  | _ => true

def fee : Completion T → ℕ
  | .relayerResult tx _ => tx.fee
  | _ => 0

/-- The completion succeeds for the transfer `transferId` with the given relayer, from `c` to
`c'`. A transaction of the zero address does nothing, so it completes none. -/
def Completes (M : Modules T) (w : Completion T) (transferId : Id32) (relayer : Address)
    (c c' : Blockchain T) : Prop :=
  match w with
  | .verifiedEvent p =>
    (p.event.message.bind CrossDomainMessage.correlationId) = some transferId ∧
      (unlockBridgeTransferFromVerifiedEvent M p).run c = (.ok (), c')
  | .relayProof messageId proof sourceDomain =>
    ∃ message, message.kind = .bridgeBurn ∧ message.correlationId = some transferId ∧
      (submitRelayProof M messageId relayer proof sourceDomain).run c = (.ok message, c')
  | .relayerResult tx res =>
    tx.txType = .relayerResult res ∧ tx.sender = relayer ∧ relayer ≠ .zero ∧
      res.success = true ∧
      (∃ message, res.message = some message ∧ message.kind = .bridgeBurn ∧
        message.correlationId = some transferId) ∧
      ∃ state, (applyTransactionChecked M tx).run c.state = (.ok (), state) ∧
        c' = { c with state }

end Completion

/-- The transfer `t` went from burned to unlocked, the accounts gained `gain`, and the
relayer paid `fee`. -/
structure Completed (transferId : Id32) (t : BridgeTransfer) (relayer : Address) (gain : Address → ℕ)
    (fee : ℕ) (s s' : AccountState T) : Prop where
  before : s.bridgeState.getTransfer transferId = some t
  after : s'.bridgeState.getTransfer transferId = some { t with status := .unlocked t.sourceDomain }
  balance : ∀ a, s'.getBalance a + only relayer fee a = s.getBalance a + gain a

variable {transferId : Id32} {relayer : Address} {c c' : Blockchain T}

variable {event : DomainEvent} {proof : MerkleProof}

lemma verifyEventFromRegistry_event {registry : DomainCommitmentRegistry}
    {domainId domainHeight sequence : ℕ} {expected : Option Hash32} {verified : VerifiedDomainEvent}
    (h : verifyEventFromRegistry M registry domainId domainHeight sequence
      expected event proof = .ok verified) : verified.event = event := by
  have hagainst : ∀ {commitment : DomainCommitment},
      verifyEventAgainstCommitment M commitment event proof =
        .ok verified → verified.event = event := by
    intro commitment h
    unfold verifyEventAgainstCommitment at h
    split_ifs at h
    cases h
    rfl
  unfold verifyEventFromRegistry at h
  split at h
  · cases h
  · split at h
    · split_ifs at h
      exact hagainst h
    · exact hagainst h

lemma message_of_burnMessageOf (c : Blockchain T) :
    wp (burnMessageOf M event) (fun message c' => c' = c ∧ event.message = some message)
      (fun _ _ => True) c := by
  simp only [burnMessageOf, wp_steps]
  exact fun _ message hmessage _ _ _ => hmessage

lemma completed_verifiedEvent {p : EventProof}
    (h : (Completion.verifiedEvent p).Completes M transferId relayer c c') :
    ∃ t, Completed transferId t relayer (fun _ => 0) 0 c.state c'.state := by
  obtain ⟨hid, hrun⟩ := h
  have hwp : wp (unlockBridgeTransferFromVerifiedEvent M p)
      (fun _ c' => ∃ t, Completed transferId t relayer (fun _ => 0) 0 c.state c'.state)
      (fun _ _ => True) c := by
    simp only [unlockBridgeTransferFromVerifiedEvent, verifyDomainEventProof, wp_steps]
    intro _ _ verified hverified
    rw [verifyEventFromRegistry_event hverified]
    refine wp_imp (message_of_burnMessageOf c) (fun message d hd => ?_)
    obtain ⟨rfl, hmessage⟩ := hd
    rw [hmessage, bind_some] at hid
    simp only [hid, wp_steps, some.injEq, forall_eq', reduceCtorEq]
    intro transfer _
    refine wp_mono (readOnly_checkBurnMatches _ _ _) (fun _ d hd => ?_) fun _ _ _ => trivial
    subst hd
    unfold onBridgeState onState
    rw [wp_bind, wp_zoom_run, wp_zoom_run]
    refine wp_imp (moved_unlock _ _ _) ?_
    rintro - b ⟨t, -, hmoved⟩
    refine wp_mono (readOnly_persistBridgeState _) (fun _ e he => ?_) fun _ _ _ => trivial
    rw [he]
    exact ⟨t, hmoved.before, hmoved.after, fun a => by rw [only_zero]; rfl⟩
  exact (wp_iff.mp hwp).1 _ _ hrun

lemma completed_unlockMessage (message : CrossDomainMessage)
    (hid : message.correlationId = some transferId) :
    wp (unlockMessage M message relayer) (fun _ c' => ∃ t,
      Completed transferId t relayer (payout M c.state t.amount t.owner relayer) 0 c.state c'.state)
      (fun _ _ => True) c := by
  simp only [unlockMessage, onBridgeState, onState, hid, wp_steps, wp_zoom_run, some.injEq,
    forall_eq', reduceCtorEq]
  intro _ _ _
  refine wp_imp (moved_unlock transferId _ _) ?_
  rintro - b ⟨t, -, hmoved⟩
  simp only [hmoved.after, some.injEq, forall_eq']
  refine wp_imp (paid_paySplit _ _ _ _ _) (fun _ c' hpaid => ⟨t, hmoved.before, ?_, ?_⟩)
  · rw [hpaid.bridge]
    exact hmoved.after
  · intro a
    rw [only_zero]
    exact hpaid.balance a

lemma completed_relayProof {messageId : Id32} {sourceDomain : ℕ}
    (h : (Completion.relayProof messageId proof sourceDomain).Completes M transferId relayer c c') :
    ∃ t, Completed transferId t relayer (payout M c.state t.amount t.owner relayer) 0 c.state c'.state := by
  obtain ⟨message, hkind, hid, hrun⟩ := h
  have hwp : wp (submitRelayProof M messageId relayer proof sourceDomain)
      (fun result c' => result = message → ∃ t,
        Completed transferId t relayer (payout M c.state t.amount t.owner relayer) 0 c.state c'.state)
      (fun _ _ => True) c := by
    unfold submitRelayProof
    simp only [wp_steps, wp_zoom, id]
    intro _ _ _ _ _ _ result relayerState _
    by_cases heq : result = message
    · subst heq
      rw [settleRelay, hkind]
      exact wp_imp (completed_unlockMessage result hid) (fun _ _ h _ => h)
    · exact wp_iff.mpr ⟨fun _ _ _ h => absurd h heq, fun _ _ _ => trivial⟩
  exact (wp_iff.mp hwp).1 _ _ hrun rfl

section

variable {tx : Transaction T}

lemma paid_creditBridge (a : Address) (amount : ℕ) (code : String) :
    Ensures (Paid (only a amount)) (creditBridge a amount code : Effect T Unit) :=
  Ensures.mapError (paid_tryAddBalance a amount) _

lemma completed_relayUnlock {message : CrossDomainMessage}
    (hid : message.correlationId = some transferId) (s : AccountState T) :
    wp (relayUnlock M tx message) (fun _ s' => ∃ t,
      Completed transferId t tx.sender (payout M s t.amount t.owner tx.sender) 0 s s')
      (fun _ _ => True) s := by
  simp only [relayUnlock, onBridge, hid, wp_steps, wp_zoom_run, some.injEq, forall_eq',
    reduceCtorEq, id]
  intro transfer htransfer
  refine wp_imp (moved_unlock transferId _ _) ?_
  rintro - b ⟨t, -, hmoved⟩ split hsplit _
  obtain rfl : transfer = t := some.inj (htransfer.symm.trans hmoved.before)
  have hsplit' : splitFee M s transfer.amount = .ok split := hsplit
  have hpayout : payout M s transfer.amount transfer.owner tx.sender =
      fun a => only transfer.owner split.1 a + only tx.sender (split.2 % (u64Max + 1)) a := by
    funext a
    rw [payout, shares, hsplit']
  have hdone : ∀ u : AccountState T, Paid (fun a => only transfer.owner split.1 a +
      only tx.sender (split.2 % (u64Max + 1)) a) { s with bridgeState := b } u → ∃ t,
        Completed transferId t tx.sender (payout M s t.amount t.owner tx.sender) 0 s u := by
    intro u hpaid
    refine ⟨transfer, hmoved.before, ?_, fun a => ?_⟩
    · rw [hpaid.bridge]
      exact hmoved.after
    · rw [only_zero, hpayout]
      exact hpaid.balance a
  refine wp_imp (paid_creditBridge _ _ _ _) (fun _ u h => ?_)
  rw [wp_ite]
  refine ⟨fun _ => ?_, fun hfree => hdone u ?_⟩
  · exact wp_imp (paid_creditBridge _ _ _ _) (fun _ v h' => hdone v (h.trans h'))
  · have hzero : split.2 = 0 := by omega
    simp only [hzero, Nat.zero_mod, only_zero]
    exact h

lemma completed_relayerResult {res : RelayerExternalResult}
    (h : (Completion.relayerResult tx res).Completes M transferId relayer c c') :
    ∃ t, Completed transferId t relayer (payout M c.state t.amount t.owner relayer) tx.fee
      c.state c'.state := by
  obtain ⟨htype, rfl, hzero, hsuccess, ⟨message, hmessage, hkind, hid⟩, state, hrun, rfl⟩ := h
  refine (wp_iff.mp (wp_applyTransactionChecked (Q := fun _ s' => ∃ t,
    Completed transferId t tx.sender (payout M c.state t.amount t.owner tx.sender) tx.fee
      c.state s') (fun h => absurd h hzero) fun _ => ?_)).1 _ _ hrun
  have hsettle : settleMessage M tx res = relayUnlock M tx message := by
    rw [settleMessage, hmessage]
    simp only [hsuccess, if_true, hkind]
  rw [applyArm, htype]
  change wp (applyRelayerResult M tx res) _ _ _
  rw [applyRelayerResult, wp_bind]
  refine wp_mono (readOnly_checkReceipt res _) (fun _ t ht => ?_) fun _ _ _ => trivial
  subst ht
  rw [wp_bind, hsettle]
  refine wp_imp (completed_relayUnlock hid _) ?_
  rintro - u ⟨t, hbefore, hafter, hbalance⟩
  rw [chargeFee, wp_debit]
  refine ⟨fun hle => ⟨t, hbefore, hafter, fun a => ?_⟩, fun _ => trivial⟩
  have hgain := hbalance a
  rw [only_zero, getBalance_touch] at hgain
  rw [getBalance_setAccount, only]
  split_ifs with heq
  · subst heq
    change u.getBalance tx.sender - tx.fee + tx.fee = _
    rw [Nat.sub_add_cancel hle]
    exact hgain
  · exact hgain

end

/-! ## When two completions agree -/

namespace Completion

def gain (w : Completion T) (M : Modules T) (s : AccountState T) (t : BridgeTransfer)
    (relayer a : Address) : ℕ :=
  if w.pays then payout M s t.amount t.owner relayer a else 0

/-- A payout less a fee leaves owner and relayer with nothing: the owner has no share and
the fee eats the relayer's, or they are one account and the fee eats both. -/
def PaysNothing (M : Modules T) (s : AccountState T) (t : BridgeTransfer) (relayer : Address)
    (fee : ℕ) : Prop :=
  if t.owner = relayer then (shares M s t.amount).1 + (shares M s t.amount).2 = fee
  else (shares M s t.amount).1 = 0 ∧ (shares M s t.amount).2 = fee

/-- Two completions give owner and relayer the same: both pay, for the same fee; neither
does; or the one that does pays nothing. -/
def Concord (M : Modules T) (s : AccountState T) (t : BridgeTransfer) (relayer : Address)
    (w w' : Completion T) : Prop :=
  match w.pays, w'.pays with
  | true, true => w.fee = w'.fee
  | true, false => PaysNothing M s t relayer w.fee
  | false, true => PaysNothing M s t relayer w'.fee
  | false, false => True

lemma fee_of_not_pays {w : Completion T} (h : w.pays = false) : w.fee = 0 := by
  cases w with
  | verifiedEvent p => rfl
  | relayProof | relayerResult => cases h

lemma completed {w : Completion T} (h : w.Completes M transferId relayer c c') :
    ∃ t, Completed transferId t relayer (w.gain M c.state t relayer) w.fee c.state c'.state := by
  cases w with
  | verifiedEvent p => exact completed_verifiedEvent h
  | relayProof messageId proof sourceDomain => exact completed_relayProof h
  | relayerResult tx res => exact completed_relayerResult h

lemma balance_agrees_iff {t : BridgeTransfer} {gain gain' : Address → ℕ} {fee fee' : ℕ}
    {s s₁ s₂ : AccountState T} (h : Completed transferId t relayer gain fee s s₁)
    (h' : Completed transferId t relayer gain' fee' s s₂) (a : Address) :
    s₁.getBalance a = s₂.getBalance a ↔
      gain a + only relayer fee' a = gain' a + only relayer fee a := by
  have hleft := h.balance a
  have hright := h'.balance a
  omega

lemma concord_iff (w w' : Completion T) (s : AccountState T) (t : BridgeTransfer) :
    (∀ a, a = t.owner ∨ a = relayer → w.gain M s t relayer a + only relayer w'.fee a =
      w'.gain M s t relayer a + only relayer w.fee a) ↔ Concord M s t relayer w w' := by
  simp only [forall_eq_or_imp, forall_eq, gain, payout, only, Concord, PaysNothing]
  by_cases howner : t.owner = relayer
  · cases hw : w.pays <;> cases hw' : w'.pays <;>
      simp [howner, fee_of_not_pays, hw, hw', eq_comm]
  · have hrelayer : ¬ relayer = t.owner := fun h => howner h.symm
    cases hw : w.pays <;> cases hw' : w'.pays <;>
      simp [howner, hrelayer, fee_of_not_pays, hw, hw', eq_comm]

end Completion

/-- Two completions of a transfer from the same state, with the same relayer, agree on the
owner's balance, the relayer's and the transfer exactly in case of `Concord`. -/
theorem completions_agree_iff {w w' : Completion T} {c₁ c₂ : Blockchain T} {t : BridgeTransfer}
    (htransfer : c.state.bridgeState.getTransfer transferId = some t)
    (h : w.Completes M transferId relayer c c₁) (h' : w'.Completes M transferId relayer c c₂) :
    (c₁.state.getBalance t.owner = c₂.state.getBalance t.owner ∧
      c₁.state.getBalance relayer = c₂.state.getBalance relayer ∧
      c₁.state.bridgeState.getTransfer transferId = c₂.state.bridgeState.getTransfer transferId) ↔
    Completion.Concord M c.state t relayer w w' := by
  obtain ⟨t₁, hdone⟩ := Completion.completed h
  obtain ⟨t₂, hdone'⟩ := Completion.completed h'
  obtain rfl : t = t₁ := some.inj (htransfer.symm.trans hdone.before)
  obtain rfl : t = t₂ := some.inj (htransfer.symm.trans hdone'.before)
  have hstatus : c₁.state.bridgeState.getTransfer transferId =
      c₂.state.bridgeState.getTransfer transferId := hdone.after.trans hdone'.after.symm
  rw [← Completion.concord_iff, forall_eq_or_imp, forall_eq,
    ← Completion.balance_agrees_iff hdone hdone', ← Completion.balance_agrees_iff hdone hdone']
  exact and_congr_right fun _ => and_iff_left hstatus

/-- The way back of the crossing. -/
def returnMessage : CrossDomainMessage :=
  .withId List.flatten
    { messageId := .zero, correlationId := some crossingMessage.messageId, sourceDomain := 2
      targetDomain := 1, sourceHeight := 1, eventIndex := 0, nonce := 0, sender := ⟨2⟩
      recipient := ⟨1⟩, payloadHash := crossingMessage.payloadHash, kind := .bridgeBurn
      expiryHeight := 0 }

def returnProof : EventProof :=
  let event : DomainEvent := ⟨2, 1, 0, .bridgeBurned, ⟨2⟩, some returnMessage,
    returnMessage.payloadHash⟩
  ⟨2, 1, 0, some [], event, ⟨event.leafHash List.flatten, 0, []⟩⟩

/-- The crossing after its burn, and domain 2's commitment to it. -/
def burnedChain : Blockchain .point :=
  let c := crossingSteps.foldl (fun c step => ((step.exec .refusing).run c).2) bridgeChain
  let domainCommitmentRegistry := c.domainCommitmentRegistry.insert (toLex (2, toLex (1, 0)))
    ⟨2, 1, [], [], returnProof.proof.leaf, .poS, [], 0, ∅⟩
  { c with domainCommitmentRegistry }

def returnByEvent : Completion .point := .verifiedEvent returnProof

def returnByRelay : Completion .point :=
  .relayProof returnMessage.messageId returnProof.proof 2

def unlockedByEvent : Except String Unit × Blockchain .point :=
  (unlockBridgeTransferFromVerifiedEvent .refusing returnProof).run burnedChain

def unlockedByRelay : Except String CrossDomainMessage × Blockchain .point :=
  (submitRelayProof .refusing returnMessage.messageId ⟨3⟩ returnProof.proof 2).run burnedChain

lemma burnedChain_runs : unlockedByEvent.1 = .ok () ∧ unlockedByRelay.1 = .ok returnMessage ∧
    (burnedChain.state.bridgeState.getTransfer crossingMessage.messageId).isSome = true ∧
    unlockedByEvent.2.state.getBalance ⟨1⟩ = 60 ∧ unlockedByRelay.2.state.getBalance ⟨1⟩ = 100 := by
  decide +kernel

/-- An outcome is its result and its state. Stated for a variable, so that the kernel does
not run the chain to see it. -/
lemma run_eq_of_fst {α β : Type} {x : α × β} {a : α} (h : x.1 = a) : x = (a, x.2) := by
  rw [← h]

lemma returnByEvent_completes : returnByEvent.Completes .refusing
    crossingMessage.messageId ⟨3⟩ burnedChain unlockedByEvent.2 :=
  ⟨rfl, run_eq_of_fst burnedChain_runs.1⟩

lemma returnByRelay_completes : returnByRelay.Completes .refusing
    crossingMessage.messageId ⟨3⟩ burnedChain unlockedByRelay.2 :=
  ⟨returnMessage, rfl, rfl, run_eq_of_fst burnedChain_runs.2.1⟩

theorem completions_agree_iff_return : ∃ (t : BridgeTransfer) (c₁ c₂ : Blockchain .point),
    burnedChain.state.bridgeState.getTransfer crossingMessage.messageId = some t ∧
      ((c₁.state.getBalance t.owner = c₂.state.getBalance t.owner ∧
        c₁.state.getBalance ⟨3⟩ = c₂.state.getBalance ⟨3⟩ ∧
        c₁.state.bridgeState.getTransfer crossingMessage.messageId =
          c₂.state.bridgeState.getTransfer crossingMessage.messageId) ↔
      Completion.Concord .refusing burnedChain.state t ⟨3⟩ returnByEvent returnByRelay) := by
  obtain ⟨t, ht⟩ := isSome_iff_exists.mp burnedChain_runs.2.2.1
  exact ⟨t, _, _, ht, completions_agree_iff ht returnByEvent_completes returnByRelay_completes⟩

/-- The owner's forty units come back with the relayed proof, and are lost with the
verified event. -/
theorem verified_unlock_pays_nobody : ∃ c₁ c₂,
    returnByEvent.Completes .refusing crossingMessage.messageId ⟨3⟩ burnedChain c₁ ∧
    returnByRelay.Completes .refusing crossingMessage.messageId ⟨3⟩ burnedChain c₂ ∧
    c₁.state.getBalance ⟨1⟩ = 60 ∧ c₂.state.getBalance ⟨1⟩ = 100 :=
  ⟨_, _, returnByEvent_completes, returnByRelay_completes, burnedChain_runs.2.2.2⟩

end Budlum.Blockchain
