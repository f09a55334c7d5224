import Budlum.Execution.LateSettlement

/-!
# Which failures leave a trace

The arms of the executor put together. A transaction that fails leaves the state as
it was, the entry of the sender aside, exactly when it is not a `LateFailure`: one
that passes the checks of its arm, writes, and then fails.
-/

namespace Budlum.Executor

open Machine AccountState Exec MarketplaceRegistry

variable {T : ModuleTypes} (M : Modules T) (s : AccountState T) (tx : Transaction T)

def LateArm : Prop :=
  match tx.txType with
  | .transfer => LateTransfer s tx
  | .stake => LateStake s tx
  | .lubotOperatorBond => LateOperatorBond M s tx
  | .vote => LateVote M s tx
  | .contractCall => LateContractCall M s tx
  | .bnsRegister => LateBnsRegister M s tx
  | .nftBoost nftId amount => LateBoost s tx nftId amount
  | .relayerResult res => LateRelay M s tx res
  | .aiPurchaseData offerId => LatePurchase s tx offerId
  | .budlumxyzRegisterApp app => LateRegisterApp M s tx app
  | .aiModelRegister spec => LateModelRegister M s tx spec
  | .aiInferenceResult res => LateResult M s tx res
  | .aiFeeReclaim requestId => LateFeeReclaim M s tx requestId
  | .aiRequestCancel requestId => LateRequestCancel M s tx requestId
  | .aiDisputeSlash requestId verifier => LateDisputeSlash M s requestId verifier
  | .aiAgentPayment payment => LateAgentPayment M s tx payment
  | .aiAgentPaymentRelease paymentId => LatePaymentRelease M s paymentId
  | .aiAgentPaymentReclaim paymentId => LatePaymentReclaim M s tx paymentId
  | _ => False

/-- An unstake moves something, and an unstake or a vote pays a fee. -/
def CostFloor : Prop :=
  match tx.txType with
  | .unstake => 0 < tx.amount ∧ 0 < tx.fee
  | .vote => 0 < tx.fee
  | _ => True

/-- The transaction reaches its arm, and the arm fails after it has written. -/
def LateFailure : Prop :=
  tx.sender ≠ .zero ∧ s.burnReserveAddress ≠ some tx.sender ∧ CostFloor tx ∧
    liquidCost tx ≤ s.getBalance tx.sender ∧ LateArm M s tx

variable {M s tx}

lemma fee_le_liquidCost (ht : tx.InRange) : tx.fee ≤ liquidCost tx := by
  unfold liquidCost
  split
  · exact le_rfl
  · exact le_rfl
  · exact ht.fee_le_totalCost

lemma traceless_applyArm_iff (hM : M.Refusals) (hs : s.InRange) (ht : tx.InRange)
    (hreserve : s.burnReserveAddress ≠ some tx.sender)
    (hfloor : CostFloor tx) (hcost : liquidCost tx ≤ s.getBalance tx.sender) :
    Traceless s (applyArm M tx) ↔ ¬ LateArm M s tx := by
  have hfee : tx.fee ≤ s.getBalance tx.sender := (fee_le_liquidCost ht).trans hcost
  have hclean : ∀ {x : Effect T Unit}, Clean tx x → (Traceless s x ↔ ¬ False) :=
    fun hx => iff_of_true (hx.traceless hfee) id
  unfold applyArm LateArm
  cases htype : tx.txType with
  | transfer => exact traceless_transfer_iff hs ht
  | stake =>
    refine traceless_stake_iff hs ht ?_
    simpa [liquidCost, htype] using hcost
  | registerConsensusKeys registration => exact hclean (clean_registerConsensusKeys registration)
  | lubotOperatorBond => exact traceless_lubotOperatorBond_iff hM ht
  | lubotOperatorUnbond => exact hclean (clean_lubotOperatorUnbond hM)
  | lubotOperatorWithdraw => exact hclean (clean_lubotOperatorWithdraw hM)
  | unstake => exact hclean clean_unstake
  | vote =>
    refine traceless_vote_iff ?_ hfee
    simpa [CostFloor, htype] using hfloor
  | contractCall => exact traceless_contractCall_iff hfee
  | bnsRegister => exact traceless_bnsRegister_iff hfee
  | bnsSetContent | bnsRegisterSubdomain | nftTransfer | nftBurn =>
    refine hclean (.check .ofExcept fun _ => .call_fee ?_ fun _ _ => ⟨rfl, rfl⟩)
    first
      | exact BnsRegistry.atomic_setContent _ _ _
      | exact BnsRegistry.atomic_registerSubdomain _ _ _ _
      | exact NftRegistry.atomic_transfer _ _ _
      | exact NftRegistry.atomic_burn _ _
  | bnsSetStorage | nftMint =>
    refine hclean (.check .ofExcept fun _ => .check .read fun _ => ?_)
    refine .call_fee ?_ fun _ _ => ⟨rfl, rfl⟩
    first
      | exact BnsRegistry.atomic_setStorage _ _ _ _ _
      | exact NftRegistry.atomic_mint _ _ _ _
  | nftUpdateLight =>
    refine hclean (.check .read fun _ => .check .ofOption fun _ => ?_)
    refine .check .failIf fun _ => ?_
    exact .call_fee (NftRegistry.atomic_updateLuminance _ _) fun _ _ => ⟨rfl, rfl⟩
  | aiOfferData | budlumxyzAttestApp | aiModelDeactivate | aiModelReactivate | pollenRevokeGrant
  | pollenRevokeDataAsset =>
    refine hclean (.call_fee ?_ fun _ _ => ⟨rfl, rfl⟩)
    first
      | exact atomic_createOffer _ _ _
      | exact hM.attestAppAsDeveloper _ _
      | exact hM.deactivateModel _ _
      | exact hM.reactivateModel _ _
      | exact atomic_revokeAccessGrant _ _
      | exact atomic_revokeDataAsset _ _
  | pollenRegisterDataAsset | pollenAuthorizeSale | pollenGrantAccess | privacyNoteInsert =>
    refine hclean (.check .failIf fun _ => .call_fee ?_ fun _ _ => ⟨rfl, rfl⟩)
    first
      | exact atomic_registerDataAsset _ _
      | exact atomic_createSaleAuthorization _ _ _
      | exact atomic_createAccessGrant _ _ _
      | exact hM.insertNote _
  | nftBoost nftId amount => exact traceless_nftBoost_iff hs hreserve nftId amount
  | nftTag => exact hclean (Clean.of_settles Settles.fee)
  | universalRelay => exact hclean (Clean.of_settles Settles.fee)
  | relayerResult res => exact traceless_relayerResult_iff hfee res
  | aiPurchaseData offerId => exact traceless_aiPurchaseData_iff hs
  | budlumxyzRegisterApp app => exact traceless_budlumxyzRegisterApp_iff hM app
  | aiModelRegister spec => exact traceless_aiModelRegister_iff hM spec
  | aiInferenceRequest req => exact iff_of_true (traceless_aiInferenceRequest hM req) id
  | aiInferenceResult res => exact traceless_aiInferenceResult_iff hM hs hfee res
  | aiFeeReclaim requestId => exact traceless_aiFeeReclaim_iff hM requestId hfee
  | aiRequestCancel requestId => exact traceless_aiRequestCancel_iff hM requestId hfee
  | aiDisputeSlash requestId verifier =>
    exact traceless_aiDisputeSlash_iff hM requestId verifier hfee
  | aiAgentPayment payment => exact traceless_aiAgentPayment_iff hM hs
  | aiAgentPaymentRelease paymentId =>
    exact traceless_aiAgentPaymentRelease_iff hM paymentId hfee
  | aiAgentPaymentReclaim paymentId =>
    exact traceless_aiAgentPaymentReclaim_iff hM paymentId hfee
  | privateTransferSubmit sub => exact hclean (clean_privateTransferSubmit hM sub)
  | aiAttachExecutionProof requestId proof =>
    exact hclean (clean_aiAttachExecutionProof hM requestId proof)

lemma lateArm_touch {a : Address} : LateArm M (s.touch a) tx ↔ LateArm M s tx := by
  have hbal : (s.touch a).getBalance = s.getBalance := funext fun b => getBalance_touch s a b
  have hnonce : (s.touch a).getNonce = s.getNonce := by
    funext b
    rw [getNonce_eq, getNonce_eq, account_touch]
  have hspend : (s.touch a).spendableBalance = s.spendableBalance :=
    funext fun b => spendableBalance_touch s a b
  unfold LateArm
  cases tx.txType <;>
    simp only [LateTransfer, LateStake, LateOperatorBond, LateVote, LateContractCall,
      LateBnsRegister, LateBoost, ShareOverflow, LateRelay, LateMint, LateUnlock, CreditsOverflow,
      LatePurchase, LateRegisterApp, LateModelRegister, LateResult, LateFeeReclaim,
      LateRequestCancel, LateRefund, LateDisputeSlash, LateAgentPayment, PaymentSeen,
      LatePaymentRelease, LatePaymentReclaim, hbal, hnonce, hspend] <;> rfl

variable {Q : Unit → AccountState T → Prop}

lemma wp_checkCostFloor {E : BudlumError → AccountState T → Prop} (hE : ∀ e, E e s) :
    wp (checkCostFloor tx) Q E s ↔ (CostFloor tx → Q () s) := by
  unfold checkCostFloor CostFloor
  cases tx.txType <;>
    simp only [wp_steps, hE, Nat.pos_iff_ne_zero, and_imp, forall_const, ne_eq]

/-- An accepted transaction succeeds through its arm, the zero address apart. -/
lemma wp_applyTransactionChecked (hzero : tx.sender = .zero → Q () s)
    (harm : tx.sender ≠ .zero → wp (applyArm M tx) Q (fun _ _ => True) (s.touch tx.sender)) :
    wp (applyTransactionChecked M tx) Q (fun _ _ => True) s := by
  unfold applyTransactionChecked
  by_cases hsender : tx.sender = .zero
  · rw [if_pos hsender, wp_failIf]
    exact ⟨fun _ => trivial, fun _ => hzero hsender⟩
  · rw [if_neg hsender]
    simp only [wp_steps, wp_getOrCreate,
      wp_checkCostFloor (s := s) (E := fun _ _ => True) fun _ => trivial]
    exact fun _ _ _ => harm hsender

lemma traceless_applyTransactionChecked_iff (hM : M.Refusals) (hs : s.InRange)
    (ht : tx.InRange) : Traceless s (applyTransactionChecked M tx) ↔ ¬ LateFailure M s tx := by
  have hsame : ∀ _e : BudlumError, Same s s := fun _ => Same.refl s
  unfold applyTransactionChecked Traceless LateFailure
  by_cases hzero : tx.sender = .zero
  · -- the zero address only has its signature checked
    rw [if_pos hzero, wp_failIf]
    exact iff_of_true ⟨fun _ => Same.refl s, fun _ => trivial⟩ fun h => h.1 hzero
  rw [if_neg hzero]
  simp only [wp_rules, wp_checkCostFloor hsame, wp_getOrCreate]
  have harm : s.burnReserveAddress ≠ some tx.sender → CostFloor tx →
      liquidCost tx ≤ s.getBalance tx.sender →
      (wp (applyArm M tx) (fun _ _ => True) (fun _ s' => Same s s') (s.touch tx.sender) ↔
        ¬ LateArm M s tx) := by
    intro hreserve hfloor hcost
    have htouch := traceless_applyArm_iff hM (hs.touch tx.sender) ht hreserve hfloor
      (hcost.trans_eq (getBalance_touch s _ _).symm)
    rw [lateArm_touch] at htouch
    rw [← htouch, Traceless]
    simp only [Same.touch_left_iff]
  constructor
  · rintro ⟨-, h⟩ ⟨-, hreserve, hfloor, hcost, hlate⟩
    exact (harm hreserve hfloor hcost).mp ((h hreserve hfloor).2 hcost.not_gt) hlate
  · intro hlate
    refine ⟨fun _ => Same.refl s, fun hreserve hfloor => ⟨fun _ => Same.touch s _, fun hcost => ?_⟩⟩
    have hcost := not_lt.mp hcost
    exact (harm hreserve hfloor hcost).mpr fun h => hlate ⟨hzero, hreserve, hfloor, hcost, h⟩

/-- A transaction that fails leaves balances, nonces, validators, the unbonding queue
and every registry as they were, exactly when its failure is not a late one. -/
theorem error_leaves_state_iff (hM : M.Refusals) (hs : s.InRange) (ht : tx.InRange) :
    (∀ e s', (applyTransactionChecked M tx).run s = (.error e, s') → Same s s') ↔
      ¬ LateFailure M s tx := by
  rw [← traceless_applyTransactionChecked_iff hM hs ht, Traceless, wp_iff]
  exact ⟨fun h => ⟨fun _ _ _ => trivial, h⟩, And.right⟩

/-- An account with ten units, and an offer that asks for a hundred. -/
def poorBuyer : AccountState .point :=
  { point.setAccount ⟨1⟩ (Account.withBalance ⟨1⟩ 10) with
    marketplace := { MarketplaceRegistry.new with
      offers := (∅ : SortedMap ℕ DataOffer).insert 0 ⟨0, ⟨2⟩, [], 100, true⟩ } }

def unpayablePurchase : Transaction .point :=
  { hash := "", sender := ⟨1⟩, recipient := .zero, amount := 0, fee := 1, maxFee := 1
    priorityFee := 0, nonce := 0, data := [], chainId := 1, txType := .aiPurchaseData 0 }

lemma poorBuyer_inRange : poorBuyer.InRange where
  balance a := by
    change (point.setAccount ⟨1⟩ (Account.withBalance ⟨1⟩ 10)).getBalance a ≤ u64Max
    rw [getBalance_setAccount]
    split_ifs
    · decide
    · exact Nat.zero_le _
  stake _ _ h := by cases h
  pendingBudBoostShare := Nat.zero_le _

theorem error_leaves_state_iff_poorBuyer :
    (∀ e s', (applyTransactionChecked .refusing unpayablePurchase).run poorBuyer =
        (.error e, s') → Same poorBuyer s') ↔ ¬ LateFailure .refusing poorBuyer unpayablePurchase :=
  error_leaves_state_iff Modules.refusing_refusals poorBuyer_inRange ⟨by decide, by decide⟩

/-- The purchase fails for lack of funds, and the offer is closed all the same. -/
theorem failed_purchase_closes_offer :
    ∃ e s', (applyTransactionChecked .refusing unpayablePurchase).run poorBuyer =
        (.error e, s') ∧ (poorBuyer.marketplace.getOffer 0).map DataOffer.active = some true ∧
      (s'.marketplace.getOffer 0).map DataOffer.active = some false ∧ ¬ Same poorBuyer s' := by
  refine ⟨_, _, rfl, by decide +kernel, by decide +kernel, fun h => ?_⟩
  have hoffer := h.of_rest (fun s => s.marketplace.getOffer 0) fun _ _ => rfl
  revert hoffer
  decide +kernel

end Budlum.Executor
