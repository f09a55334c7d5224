import Budlum.Execution.LateFailure

/-!
# What a transaction takes from an account

Nobody but the sender loses anything to a transaction that succeeds, and most arms
take at most the amount and the fee from the sender.
-/

namespace Budlum.Executor

open Machine AccountState Exec Nat Ensures

variable {T : ModuleTypes} {M : Modules T} {α β ε ρ ε' : Type} {get : AccountState T → ρ}
  {put : AccountState T → ρ → AccountState T}

/-- From `s` to `s'` the account `a` lost at most `n`, and no other lost anything. -/
def Spent (a : Address) (n : ℕ) (s s' : AccountState T) : Prop :=
  ∀ b, s.getBalance b ≤ s'.getBalance b + if b = a then n else 0

abbrev Spends (a : Address) (n : ℕ) (x : Exec (AccountState T) ε α) : Prop :=
  Ensures (Spent a n) x

variable {a : Address} {m n : ℕ} {s t u : AccountState T}

lemma Spent.of_ledger (h : t.ledger = s.ledger) : Spent a n s t := by
  intro b
  rw [getBalance_of_ledger h]
  exact le_add_right _ _

lemma Spent.trans (h₁ : Spent a m s t) (h₂ : Spent a n t u) : Spent a (m + n) s u := by
  intro b
  have hb₁ := h₁ b
  have hb₂ := h₂ b
  split_ifs at * <;> omega

lemma Spent.mono (h : Spent a m s t) (hle : m ≤ n) : Spent a n s t := by
  intro b
  have hb := h b
  split_ifs at * <;> omega

namespace Spends

variable {x : Exec (AccountState T) ε α} {f : α → Exec (AccountState T) ε β}

lemma bind (hx : Spends a 0 x) (hf : ∀ v, Spends a n (f v)) : Spends a n (x >>= f) :=
  Ensures.bind hx hf fun _ _ _ h₁ h₂ => (h₁.trans h₂).mono (zero_add n).le

lemma add (hx : Spends a m x) (hf : ∀ v, Spends a n (f v)) : Spends a (m + n) (x >>= f) :=
  Ensures.bind hx hf fun _ _ _ h₁ h₂ => h₁.trans h₂

lemma mono (hx : Spends a m x) (hle : m ≤ n) : Spends a n x :=
  Ensures.mono hx fun _ _ h => h.mono hle

lemma check (hx : ReadOnly x) (hf : ∀ v, Spends a n (f v)) : Spends a n (x >>= f) :=
  Ensures.check hx hf

lemma guard {p : Prop} [Decidable p] {e : ε} (hx : Spends a n x) :
    Spends a n (failIf p e >>= fun _ => x) := Ensures.guard hx

lemma pure {v : α} : Spends a n (Pure.pure v : Exec (AccountState T) ε α) :=
  of_readOnly .pure fun _ => Spent.of_ledger rfl

lemma modify {f : AccountState T → AccountState T} (h : ∀ s, (f s).ledger = s.ledger) :
    Spends a n (modify f : Exec (AccountState T) ε Unit) := fun s => Spent.of_ledger (h s)

lemma zoom {f : ε' → ε} {x : ρ → Except ε' α × ρ} (h : ∀ s r, (put s r).ledger = s.ledger) :
    Spends a n (zoom get put f x) :=
  Ensures.zoom fun s r => Spent.of_ledger (h s r)

lemma attempt_zoom {f : ε' → ε} {x : ρ → Except ε' α × ρ}
    (h : ∀ s r, (put s r).ledger = s.ledger) :
    Spends a n (Exec.attempt (Exec.zoom get put f x : Exec (AccountState T) ε α) :
      Exec (AccountState T) ε (Except ε α)) :=
  Ensures.attempt_zoom fun s r => Spent.of_ledger (h s r)

end Spends

lemma spent_setAccount {acc : Account} (h : s.getBalance a ≤ acc.balance + n) :
    Spent a n s (s.setAccount a acc) := by
  intro b
  rw [getBalance_setAccount]
  split_ifs with hb
  · exact hb ▸ h
  · exact le_refl _

variable {b : Address}

lemma spent_credited {acc : Account} (h : s.getBalance b ≤ acc.balance) :
    Spent a 0 s (s.setAccount b acc) := by
  intro c
  rw [getBalance_setAccount, ite_self, add_zero]
  split_ifs with hc
  · exact hc ▸ h
  · exact le_refl _

section

variable {amount : ℕ} {message : String} {error : BudlumError} {tx : Transaction T}

lemma spends_debit : Spends a amount (debit a amount message : Effect T Unit) := by
  intro s
  rw [wp_debit]
  refine ⟨fun h => spent_setAccount ?_, fun _ => trivial⟩
  have hacc : (debited (s.account a) amount).balance = s.getBalance a - amount := rfl
  omega

lemma spends_credit : Spends a 0 (credit b amount error : Effect T Unit) := by
  intro s
  rw [wp_credit]
  exact ⟨fun _ => spent_credited (le_add_right _ _), fun _ => trivial⟩

lemma spends_tryAddBalance :
    Spends a 0 (tryAddBalance b amount : Exec (AccountState T) String Unit) := by
  intro s
  rw [wp_tryAddBalance]
  exact ⟨fun _ => spent_credited (le_add_right _ _), fun _ => trivial⟩

lemma spends_fee : Spends tx.sender tx.fee (chargeFee tx message) := spends_debit

lemma spends_call_fee {f : ε' → BudlumError} {x : ρ → Except ε' α × ρ}
    (h : ∀ s r, (put s r).ledger = s.ledger) :
    Spends tx.sender tx.fee (zoom get put f x >>= fun _ => chargeFee tx message) :=
  Spends.bind (Spends.zoom h) fun _ => spends_fee

end

/-! ## The arms that take the amount and the fee at most -/

section

variable {tx : Transaction T}

lemma totalCost_le (tx : Transaction T) : tx.totalCost ≤ tx.amount + tx.fee := min_le_left _ _

lemma spends_bondStake (current : Option Validator) :
    Spends tx.sender 0 (bondStake M tx current) := by
  cases current with
  | some v => exact .check .ofOption fun _ => .modify fun _ => rfl
  | none =>
    -- a new validator only marks the cached keys stale
    refine .bind (fun s => ?_) fun _ => .modify fun _ => rfl
    intro b
    exact le_add_right _ _

lemma spends_bondLubotOperator {amount chainId : ℕ} :
    Spends a amount (bondLubotOperator M a amount chainId) := by
  refine .check .read fun _ => .guard ?_
  refine .bind (Spends.zoom fun _ _ => rfl) fun _ s => ?_
  simp only [wp_bind, wp_accounts, wp_pure]
  refine spent_setAccount ?_
  change s.getBalance a ≤ s.getBalance a - amount + amount
  omega

lemma spends_lubotOperatorWithdraw :
    Spends tx.sender tx.fee (applyLubotOperatorWithdraw M tx) := by
  refine .check .failIf fun _ s => ?_
  simp only [withdrawLubotOperator, onRegistry, wp_mapError, wp_steps, wp_zoom, wp_accounts, id]
  intro registration _ final hfinal _ r _
  obtain ⟨b, hadd, hsub⟩ := Option.bind_eq_some_iff.mp hfinal
  obtain ⟨-, rfl⟩ := checkedAdd_eq_some.mp hadd
  obtain ⟨-, rfl⟩ := checkedSub_eq_some.mp hsub
  refine spent_setAccount (s := { s with registry := r }) ?_
  change s.getBalance tx.sender ≤ s.getBalance tx.sender + registration.stake - tx.fee + tx.fee
  omega

lemma spends_castVote : Spends tx.sender 0 (castVote M tx) := by
  unfold castVote
  split_ifs
  · refine .check .read fun v => ?_
    cases v with
    | some v => exact .modify fun _ => rfl
    | none => exact .pure
  · exact .pure
  · refine .check .read fun _ => .guard ?_
    exact .ite (Spends.zoom fun _ _ => rfl) Spends.pure
  · refine .check .read fun _ => .check .ofExcept fun _ => ?_
    exact .guard <| .zoom fun _ _ => rfl

lemma spends_bnsRegister : Spends tx.sender (tx.amount + tx.fee) (applyBnsRegister M tx) := by
  refine .check .ofExcept fun args => ?_
  intro s
  simp only [onBns, wp_steps, wp_zoom, wp_accounts, checkedSub_eq_some, id, not_lt]
  rintro hcost _ r _ _ ⟨hfee, rfl⟩ _ ⟨hafter, rfl⟩
  refine spent_setAccount (s := { s with bnsRegistry := r }) ?_
  change s.getBalance tx.sender ≤
    s.getBalance tx.sender - tx.fee - s.bnsRegistry.calculateCost args.1 args.2 +
      (tx.amount + tx.fee)
  omega

lemma spends_budlumxyzRegisterApp (app : T.HubApp) :
    Spends tx.sender (tx.amount + tx.fee) (applyBudlumxyzRegisterApp M tx app) := by
  intro s
  simp only [applyBudlumxyzRegisterApp, onHub, wp_steps, wp_zoom, wp_accounts, checkedAdd_eq_some,
    not_lt]
  rintro hmin _ r _ _ ⟨-, rfl⟩ hcovers
  refine spent_setAccount (s := { s with budlumxyz := r }) ?_
  change s.getBalance tx.sender ≤
    s.getBalance tx.sender - tx.fee - M.hubRegisterMinFee + (tx.amount + tx.fee)
  omega

lemma spends_aiModelRegister (spec : AiModelSpec T) :
    Spends tx.sender (tx.amount + tx.fee) (applyAiModelRegister M tx spec) := by
  intro s
  simp only [applyAiModelRegister, onAi, wp_steps, wp_zoom, wp_accounts, checkedAdd_eq_some, id,
    not_lt]
  rintro hregFee _ r _ _ ⟨-, rfl⟩ hcovers
  refine spent_setAccount (s := { s with aiRegistry := r }) ?_
  change s.getBalance tx.sender ≤ s.getBalance tx.sender -
    (tx.fee + (M.registryParams s.registry).aiModelRegisterFee) + (tx.amount + tx.fee)
  omega

lemma spends_creditBridge {amount : ℕ} {code : String} :
    Spends a 0 (creditBridge b amount code : Effect T Unit) :=
  mapError spends_tryAddBalance _

lemma spends_relayMint (msg : CrossDomainMessage) : Spends a 0 (relayMint M tx msg) := by
  refine .bind (Spends.zoom fun _ _ => rfl) fun _ => .check .read fun _ => ?_
  refine .check .ofOption fun _ => .check .ofExcept fun _ => ?_
  refine .guard <| .guard ?_
  exact .bind spends_creditBridge fun _ => ite spends_creditBridge Spends.pure

lemma spends_relayUnlock (msg : CrossDomainMessage) : Spends a 0 (relayUnlock M tx msg) := by
  refine .check .ofOption fun _ => .check .read fun _ => ?_
  refine .check .ofOption fun _ => .bind (Spends.zoom fun _ _ => rfl) fun _ => ?_
  refine .check .read fun _ => .check .ofExcept fun _ => ?_
  refine .guard ?_
  exact .bind spends_creditBridge fun _ => ite spends_creditBridge Spends.pure

lemma spends_settleMessage (res : RelayerExternalResult) :
    Spends a 0 (settleMessage M tx res) := by
  unfold settleMessage
  split
  · split_ifs
    · split
      · exact spends_relayMint _
      · exact spends_relayUnlock _
      · exact .pure
    · exact .pure
  · exact .pure

lemma readOnly_checkReceipt (res : RelayerExternalResult) : ReadOnly (checkReceipt M res) := by
  refine .bind .failIf fun _ => .bind .failIf fun _ => .bind .read fun _ => ?_
  refine .bind .failIf fun _ => .bind .ofExcept fun _ => ?_
  exact .bind .failIf fun _ => .failIf

lemma spends_payVerifiers (maxFee count : ℕ) (verifiers : List Address) :
    ∀ i, Spends a 0 (payVerifiers maxFee count i verifiers : Effect T Unit) := by
  induction verifiers with
  | nil => exact fun _ => .pure
  | cons verifier rest ih => exact fun i => .bind spends_credit fun _ => ih (i + 1)

lemma spends_publishOutput (requester : Address) (res : AiInferenceResult T) :
    Spends a 0 (publishOutput M requester res) := by
  refine .check .read fun _ => .bind (Spends.attempt_zoom fun _ _ => rfl) fun _ => ?_
  exact .bind (Spends.attempt_zoom fun _ _ => rfl) fun _ => .pure

lemma spends_settleOutcome (res : AiInferenceResult T) (outcome : Option AiOutcome) :
    Spends a 0 (settleOutcome M res outcome) := by
  refine .check .read fun s => ?_
  split
  · split
    · exact .bind (spends_payVerifiers _ _ _ 0) fun _ => spends_publishOutput _ _
    · exact .pure
  · exact .pure

lemma spends_submitResult (res : AiInferenceResult T) (currentBlock : ℕ) :
    Spends a 0 (submitResult M res currentBlock) := by
  refine .bind (Spends.attempt_zoom fun _ _ => rfl) fun outcome => ?_
  cases outcome with
  | ok outcome => exact .pure
  | error e => exact .ite Spends.pure fun _ => trivial

lemma spends_aiAgentPaymentReclaim (paymentId : Id32) :
    Spends tx.sender tx.fee (applyAiAgentPaymentReclaim M tx paymentId) := by
  refine .check .read fun _ => .bind (Spends.zoom fun _ _ => rfl) fun amount => ?_
  intro s
  simp only [wp_steps, wp_accounts, checkedAdd_eq_some, not_lt]
  rintro _ ⟨-, rfl⟩ hfee
  refine spent_setAccount ?_
  change s.getBalance tx.sender ≤ s.getBalance tx.sender + amount - tx.fee + tx.fee
  omega

/-- `x` takes no more from the sender than is spendable. -/
def Covered (tx : Transaction T) (s : AccountState T) (x : Effect T α) : Prop :=
  wp x (fun _ s' => ∃ n, n ≤ s.spendableBalance tx.sender ∧ Spent tx.sender n s s')
    (fun _ _ => True) s

lemma Covered.of_spends {x : Effect T α} (hx : Spends tx.sender n x)
    (hle : n ≤ s.spendableBalance tx.sender) : Covered tx s x :=
  wp_imp (hx s) (fun _ _ h => ⟨n, hle, h⟩)

lemma covered_aiPurchaseData (offerId : ℕ) : Covered tx s (applyAiPurchaseData tx offerId) := by
  unfold Covered applyAiPurchaseData onMarketplace
  simp only [wp_steps, wp_zoom, not_lt]
  intro offer _ _ _ r _ cost _ hspend
  have hpay : Spends tx.sender cost (debit tx.sender cost "balance underflow" >>= fun _ =>
      credit offer.seller offer.price
        (validation "balance_overflow" "Marketplace sale credit overflow") : Effect T Unit) :=
    spends_debit.add fun _ => spends_credit
  have hrun := hpay { s with marketplace := r }
  rw [wp_bind] at hrun
  refine wp_imp hrun (fun _ t ht => ?_)
  exact wp_imp ht (fun _ u hu => ⟨cost, hspend, hu⟩)

lemma spends_admitRequest (req : AiInferenceRequest T) : Spends a 0 (admitRequest M tx req) :=
  Spends.check .read fun _ => .check .ofExcept fun _ => .zoom fun _ _ => rfl

lemma spends_consumeGrant (grant : Option Id32) (currentBlock : ℕ) :
    Spends a 0 (consumeGrant tx grant currentBlock) := by
  cases grant with
  | some grantId => exact .zoom fun _ _ => rfl
  | none => exact .pure

lemma covered_aiInferenceRequest (req : AiInferenceRequest T) :
    Covered tx s (applyAiInferenceRequest M tx req) := by
  unfold Covered applyAiInferenceRequest
  rw [wp_bind, wp_read, wp_bind, wp_ofOption]
  refine ⟨fun cost hcost => ?_, fun _ => trivial⟩
  obtain ⟨-, rfl⟩ := checkedAdd_eq_some.mp hcost
  rw [wp_bind, wp_failIf]
  refine ⟨fun _ => trivial, fun hspend => ?_⟩
  refine Covered.of_spends ?_ (not_lt.mp hspend)
  -- the escrow and the fee leave the account in one assignment
  refine .bind (spends_admitRequest _) fun _ => ?_
  refine .bind (Spends.zoom fun _ _ => rfl) fun _ => ?_
  refine .bind (spends_consumeGrant _ _) fun _ => .check .ofOption fun _ => ?_
  refine .check .read fun _ => .guard ?_
  intro t
  simp only [wp_bind, wp_accounts, wp_ofOption, checkedSub_eq_some, implies_true, and_true]
  rintro _ ⟨hfee, rfl⟩ _ ⟨hmax, rfl⟩
  refine spent_setAccount ?_
  change t.getBalance tx.sender ≤
    t.getBalance tx.sender - tx.fee - req.maxFee + (req.maxFee + tx.fee)
  omega

lemma covered_aiAgentPayment (payment : AgentPayment T) :
    Covered tx s (applyAiAgentPayment M tx payment) := by
  unfold Covered applyAiAgentPayment
  rw [wp_bind, wp_read, wp_bind, wp_failIf]
  refine ⟨fun _ => trivial, fun _ => ?_⟩
  rw [wp_bind, wp_ofOption]
  refine ⟨fun cost _ => ?_, fun _ => trivial⟩
  rw [wp_bind, wp_failIf]
  refine ⟨fun _ => trivial, fun hspend => ?_⟩
  refine Covered.of_spends ?_ (not_lt.mp hspend)
  refine .bind (Spends.zoom fun _ _ => rfl) fun _ => ?_
  refine spends_debit.add (n := 0) fun _ => .ite Spends.pure ?_
  exact Spends.bind spends_credit fun _ => .zoom fun _ _ => rfl

/-- The two types whose debit is decided after validation and is not held against
the spendable balance as a whole. -/
def DebitsLate (tx : Transaction T) : Prop :=
  match tx.txType with
  | .nftBoost _ _ => True
  | .contractCall => True
  | _ => False

lemma covered_applyArm (htype : ¬ DebitsLate tx)
    (hcost : tx.amount + tx.fee ≤ s.spendableBalance tx.sender) : Covered tx s (applyArm M tx) := by
  have hfee : tx.fee ≤ s.spendableBalance tx.sender := (le_add_left _ _).trans hcost
  have hpay : ∀ {x : Effect T Unit}, Spends tx.sender tx.fee x → Covered tx s x :=
    fun hx => Covered.of_spends hx hfee
  unfold applyArm
  unfold DebitsLate at htype
  cases h : tx.txType with
  | transfer =>
    refine Covered.of_spends (.check .read fun _ => .guard ?_) hcost
    exact (spends_debit.add fun _ => spends_credit).mono (totalCost_le tx)
  | stake =>
    refine Covered.of_spends (.mono (m := tx.totalCost + 0) (spends_debit.add fun _ => ?_)
      (totalCost_le tx)) hcost
    refine .check .read fun _ => ?_
    exact .bind (spends_bondStake _) fun _ => .modify fun _ => rfl
  | registerConsensusKeys =>
    refine hpay (.guard <| .check .ofExcept fun _ => ?_)
    refine .check .read fun _ => .check .ofOption fun _ => ?_
    refine .guard ?_
    exact .bind (Spends.modify fun _ => rfl) fun _ => spends_fee
  | lubotOperatorBond =>
    refine Covered.of_spends (.check .read fun _ => .guard ?_) hcost
    refine .guard <| .guard ?_
    refine .add (mapError spends_bondLubotOperator _) fun _ => ?_
    exact .bind (Spends.attempt_zoom fun _ _ => rfl) fun _ => spends_fee
  | lubotOperatorUnbond =>
    refine hpay (.guard <| .bind (.mapError ?_ _) fun _ => spends_fee)
    refine .check .read fun _ => .guard ?_
    exact Spends.zoom fun _ _ => rfl
  | lubotOperatorWithdraw => exact hpay spends_lubotOperatorWithdraw
  | unstake =>
    refine hpay (.check .read fun _ => .check .ofOption fun _ => ?_)
    refine .guard <| .bind (Spends.modify fun _ => rfl) fun _ => ?_
    refine .check .ofOption fun _ => .bind (Spends.modify fun _ => rfl) fun _ => ?_
    refine .bind (Spends.modify fun _ => rfl) fun _ => ?_
    exact .bind (Spends.modify fun _ => rfl) fun _ => spends_fee
  | vote =>
    refine hpay (.check .read fun _ => .guard ?_)
    exact spends_debit.add fun _ => spends_castVote
  | contractCall | nftBoost => simp [h] at htype
  | bnsRegister => exact Covered.of_spends spends_bnsRegister hcost
  | bnsSetContent | bnsRegisterSubdomain | nftTransfer | nftBurn =>
    exact hpay (.check .ofExcept fun _ => spends_call_fee fun _ _ => rfl)
  | bnsSetStorage | nftMint =>
    refine hpay (.check .ofExcept fun _ => ?_)
    exact .check .read fun _ => spends_call_fee fun _ _ => rfl
  | nftUpdateLight nftId deltaMcd =>
    refine hpay (.check .read fun _ => .check .ofOption fun _ => ?_)
    exact .guard <| spends_call_fee fun _ _ => rfl
  | nftTag | universalRelay => exact hpay spends_fee
  | relayerResult res =>
    refine hpay (.check (readOnly_checkReceipt res) fun _ => ?_)
    exact .bind (spends_settleMessage res) fun _ => spends_fee
  | aiPurchaseData offerId => exact covered_aiPurchaseData offerId
  | budlumxyzRegisterApp app => exact Covered.of_spends (spends_budlumxyzRegisterApp app) hcost
  | aiOfferData | budlumxyzAttestApp | aiModelDeactivate | aiModelReactivate | pollenRevokeGrant
  | pollenRevokeDataAsset => exact hpay (spends_call_fee fun _ _ => rfl)
  | aiModelRegister spec => exact Covered.of_spends (spends_aiModelRegister spec) hcost
  | aiInferenceRequest req => exact covered_aiInferenceRequest req
  | aiInferenceResult =>
    refine hpay (.check .read fun _ => .guard ?_)
    refine .bind (spends_submitResult _ _) fun _ => ?_
    exact .bind (spends_settleOutcome _ _) fun _ => spends_fee
  | aiFeeReclaim =>
    refine hpay (.check .read fun _ => .bind (Spends.zoom fun _ _ => rfl) fun refund => ?_)
    intro s
    rw [wp_bind, wp_failIf]
    refine ⟨fun _ => trivial, fun howner => ?_⟩
    rw [not_not.mp howner]
    exact Spends.bind spends_credit (fun _ => spends_debit) s
  | aiRequestCancel =>
    refine hpay (.check .read fun _ => .bind (Spends.zoom fun _ _ => rfl) fun _ => ?_)
    exact .bind spends_credit fun _ => spends_fee
  | pollenRegisterDataAsset | pollenAuthorizeSale | pollenGrantAccess | privacyNoteInsert =>
    exact hpay (.guard <| spends_call_fee fun _ _ => rfl)
  | aiDisputeSlash =>
    refine hpay (.check .read fun _ => .guard ?_)
    exact .bind (Spends.zoom fun _ _ => rfl) fun _ => spends_call_fee fun _ _ => rfl
  | aiAgentPayment payment => exact covered_aiAgentPayment payment
  | aiAgentPaymentRelease =>
    refine hpay (.check .read fun _ => .check .ofOption fun _ => ?_)
    refine .bind (Spends.zoom fun _ _ => rfl) fun _ => ?_
    exact .bind spends_credit fun _ => spends_fee
  | aiAgentPaymentReclaim paymentId => exact hpay (spends_aiAgentPaymentReclaim paymentId)
  | privateTransferSubmit sub =>
    refine hpay (.guard <| .check .ofExcept fun _ => ?_)
    refine .guard <| .check .ofExcept fun _ => ?_
    exact spends_call_fee fun _ _ => rfl
  | aiAttachExecutionProof requestId proof =>
    refine hpay (.check (readOnly_checkExecutionProof requestId proof) fun _ => ?_)
    refine .bind (Spends.zoom fun _ _ => rfl) fun _ => ?_
    exact .bind (Spends.attempt_zoom fun _ _ => rfl) fun _ => spends_fee

end

end Budlum.Executor
