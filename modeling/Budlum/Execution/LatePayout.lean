import Budlum.Execution.LateFailure

/-!
# Late failures of the arms that pay out

Names, operator bonds, purchases, agent payments, boosts, rewards and relays:
each records or debits first and may then fail on a credit or on the fee.
-/

namespace Budlum.Executor

open Machine AccountState Exec Nat

variable {T : ModuleTypes} {M : Modules T} {α β : Type}

/-! ## Names and bonds -/

section

variable (M) (s : AccountState T) (tx : Transaction T)

/-- A name is recorded and its price is not covered beside the fee. -/
def LateBnsRegister : Prop :=
  ∃ args, M.decodeBnsRegister tx.data = .ok args ∧
    s.bnsRegistry.calculateCost args.1 args.2 ≤ tx.amount ∧
    (∃ r, (BnsRegistry.register args.1 tx.sender s.epochIndex args.2).run s.bnsRegistry =
      (.ok (), r) ∧ r ≠ s.bnsRegistry) ∧
    s.getBalance tx.sender < tx.fee + s.bnsRegistry.calculateCost args.1 args.2

/-- A bond is taken and the fee is not covered beside it. -/
def LateOperatorBond : Prop :=
  s.requiredLubotBond M tx.chainId ≤ tx.amount ∧
    tx.recipient = Address.zero ∧ tx.data = [] ∧
    tx.totalCost ≤ s.spendableBalance tx.sender ∧
    ¬ Fails (M.registerLubotOperator tx.sender tx.amount s.epochIndex) s.registry ∧
    s.getBalance tx.sender < tx.amount + tx.fee

variable {M s tx}

lemma same_bnsRegistry_iff {r : BnsRegistry} :
    Same s { s with bnsRegistry := r } ↔ r = s.bnsRegistry := by
  constructor
  · intro h
    exact h.of_rest bnsRegistry fun _ _ => rfl
  · rintro rfl
    exact Same.refl s

variable {k : α → Effect T β}

lemma traceless_ofExcept_iff {ε' : Type} {f : ε' → BudlumError} {x : Except ε' α} :
    Traceless s (ofExcept f x >>= k) ↔ ∀ a, x = .ok a → Traceless s (k a) := by
  unfold Traceless
  rw [wp_bind, wp_ofExcept]
  exact and_iff_left fun _ _ => Same.refl s

lemma traceless_ofOption_iff {e : BudlumError} {x : Option α} :
    Traceless s (ofOption e x >>= k) ↔ ∀ a, x = some a → Traceless s (k a) := by
  unfold Traceless
  rw [wp_bind, wp_ofOption]
  exact and_iff_left fun _ => Same.refl s

lemma traceless_bnsRegister_iff (hfee : tx.fee ≤ s.getBalance tx.sender) :
    Traceless s (applyBnsRegister M tx) ↔ ¬ LateBnsRegister M s tx := by
  unfold applyBnsRegister LateBnsRegister
  rw [traceless_ofExcept_iff]
  push Not
  refine forall_congr' fun args => imp_congr_right fun _ => ?_
  rw [traceless_read_iff, traceless_guard_iff, not_lt]
  refine imp_congr_right fun _ => ?_
  simp only [onBns, id]
  rw [traceless_call_iff (BnsRegistry.atomic_register _ _ _ _) rfl]
  have hacc : ∀ r, (({ s with bnsRegistry := r } : AccountState T).account tx.sender).balance =
    s.getBalance tx.sender := fun _ => rfl
  simp only [wp_bind, wp_getOrCreate, wp_ofOption, wp_writeAccount, checkedSub_eq_some,
    checkedSub_eq_none, Same.touch_right_iff, same_bnsRegistry_iff, hacc, implies_true, true_and]
  constructor
  · rintro h ⟨r, hrun, hne⟩
    by_contra hshort
    refine hne (((h () r hrun).1 _ ⟨hfee, rfl⟩) ?_)
    omega
  · intro hlate _ r hrun
    refine ⟨?_, fun hno => absurd hfee hno.not_ge⟩
    rintro afterFee ⟨-, rfl⟩ hshort
    by_contra hne
    have hcovers := hlate ⟨r, hrun, hne⟩
    omega

/-- The state after a bond: the registry's new record, and the amount taken. -/
def bonded (s : AccountState T) (a : Address) (amount : ℕ) (registry : T.Registry) :
    AccountState T :=
  setAccount { s with registry } a
    { s.account a with balance := s.getBalance a - amount }

lemma getBalance_bonded {a : Address} {amount : ℕ} {registry : T.Registry} :
    (bonded s a amount registry).getBalance a = s.getBalance a - amount := by
  rw [bonded, getBalance_setAccount, if_pos rfl]

lemma wp_bondLubotOperator {a : Address} {amount chainId : ℕ}
    {Q : ℕ → AccountState T → Prop} {E : T.RegistryError → AccountState T → Prop}
    (hfloor : s.requiredLubotBond M chainId ≤ amount) (havail : amount ≤ s.spendableBalance a) :
    wp (bondLubotOperator M a amount chainId) Q E s ↔
      (∀ r, (M.registerLubotOperator a amount s.epochIndex).run s.registry = (.ok (), r) →
        Q amount (bonded s a amount r)) ∧
      (∀ e r, (M.registerLubotOperator a amount s.epochIndex).run s.registry = (.error e, r) →
        E e { s with registry := r }) := by
  have hpass : ¬ (amount < s.requiredLubotBond M chainId ∨ s.spendableBalance a < amount) := by
    omega
  simp only [bondLubotOperator, onRegistry, wp_rules, id, wp_zoom, wp_accounts, hpass,
    false_implies, not_false_eq_true, true_and, forall_const]
  exact and_congr_left fun _ => ⟨fun h r => h () r, fun h _ r => h r⟩

lemma wp_quiet_then_fee {x : Effect T α} {message : String} {s' : AccountState T} (hx : Quiet x)
    (hlate : ∀ t, t.ledger = s'.ledger → ¬ Same s t) :
    wp (x >>= fun _ => chargeFee tx message) (fun _ _ => True) (fun _ t => Same s t) s' ↔
      tx.fee ≤ s'.getBalance tx.sender := by
  obtain ⟨a, t, hrun, hledger⟩ := exists_run_of_wp (hx s')
  rw [wp_bind_of_run hrun, chargeFee, wp_debit, getBalance_of_ledger hledger, Same.touch_right_iff]
  have hseen := hlate t hledger
  simp only [implies_true, true_and, hseen, imp_false, not_lt]

lemma traceless_lubotOperatorBond_iff (hM : M.Refusals) (ht : tx.InRange) :
    Traceless s (applyLubotOperatorBond M tx) ↔ ¬ LateOperatorBond M s tx := by
  have hspend := s.spendableBalance_le tx.sender
  have hamount := ht.amount_le_totalCost
  have hfeeCost := ht.fee_le_totalCost
  unfold applyLubotOperatorBond LateOperatorBond
  rw [traceless_read_iff, traceless_guard_iff, traceless_guard_iff, traceless_guard_iff]
  simp only [id, not_lt, not_or, not_not, ne_eq, not_and, and_imp, fails_iff]
  refine imp_congr_right fun hfloor => imp_congr_right fun _ => imp_congr_right fun _ =>
    imp_congr_right fun hcost => ?_
  unfold Traceless
  rw [wp_bind, wp_mapError, wp_bondLubotOperator hfloor (hamount.trans hcost)]
  have hrefused : ∀ e r,
      (M.registerLubotOperator tx.sender tx.amount s.epochIndex).run s.registry = (.error e, r) →
      Same s { s with registry := r } := by
    intro e r hrun
    rw [(hM.registerLubotOperator _ _ _).error hrun]
    exact Same.refl s
  rw [and_iff_left hrefused]
  have hlock : Quiet (attempt (onAi "" (M.lockVerifierStake tx.sender M.minVerifierStake)) :
    Effect T (Except BudlumError Unit)) := Quiet.attempt_zoom fun _ _ => rfl
  by_cases hzero : tx.amount = 0
  · -- an empty bond takes nothing, so the fee is still covered
    refine iff_of_true (fun r _ => ?_) (fun _ => by omega)
    refine wp_mono (Settles.bind hlock (fun _ => Settles.fee) _ ?_) (fun _ _ h => h)
      (fun _ _ h => h.elim)
    rw [getBalance_bonded]
    omega
  · have hfee : ∀ r, _ ↔ _ := fun r =>
      @wp_quiet_then_fee T _ s tx _ "Lubot bond fee underflow"
        (bonded s tx.sender tx.amount r) hlock (by
          intro t hledger
          refine not_same_of_getBalance (a := tx.sender) ?_
          rw [getBalance_of_ledger hledger, getBalance_bonded]
          omega)
    simp only [hfee, getBalance_bonded]
    rcases hrun : (M.registerLubotOperator tx.sender tx.amount s.epochIndex).run s.registry with
      ⟨e | ⟨⟩, r⟩
    · simp
    · simp only [Prod.mk.injEq, true_and, forall_eq', reduceCtorEq, false_and, exists_false,
        not_false_eq_true, forall_const]
      omega

end

/-! ## Purchases -/

section

variable (s : AccountState T) (tx : Transaction T)

/-- The offer is closed and the sale then falls through. -/
def LatePurchase (offerId : ℕ) : Prop :=
  ∃ offer, s.marketplace.getOffer offerId = some offer ∧ offer.active = true ∧
    (u64Max < offer.price + tx.fee ∨
      s.spendableBalance tx.sender < offer.price + tx.fee ∨
      (offer.seller ≠ tx.sender ∧ u64Max < s.getBalance offer.seller + offer.price))

def offerClosed (offerId : ℕ) (offer : DataOffer) : AccountState T :=
  { s with marketplace := { s.marketplace with
      offers := s.marketplace.offers.insert offerId { offer with active := false } } }

variable {s tx} {offerId : ℕ} {offer : DataOffer}

lemma wp_closeOffer {code : String} {Q : Unit → AccountState T → Prop}
    {E : BudlumError → AccountState T → Prop} (hget : s.marketplace.getOffer offerId = some offer) :
    wp (onMarketplace code (MarketplaceRegistry.closeOffer offerId offer.seller)) Q E s ↔
      Q () (offerClosed s offerId offer) := by
  have hget' : s.marketplace.offers.get? offerId = some offer := hget
  have hrun : (MarketplaceRegistry.closeOffer offerId offer.seller).run s.marketplace =
      (.ok (), (offerClosed s offerId offer).marketplace) := by
    apply run_eq_ok
    simp [MarketplaceRegistry.closeOffer, hget', offerClosed]
  exact wp_zoom_of_ok hrun

lemma not_same_offerClosed (hget : s.marketplace.getOffer offerId = some offer)
    (hactive : offer.active = true) {t : AccountState T}
    (hmarket : t.marketplace = (offerClosed s offerId offer).marketplace) : ¬ Same s t := by
  intro hsame
  have hsameMarket := hsame.of_rest marketplace fun _ _ => rfl
  have hget' : s.marketplace.offers.get? offerId = some offer := hget
  rw [← hsameMarket, hmarket] at hget'
  simp only [offerClosed, SortedMap.get?_insert, if_true, Option.some.injEq] at hget'
  rw [← hget'] at hactive
  exact Bool.noConfusion hactive

lemma traceless_aiPurchaseData_iff (hs : s.InRange) :
    Traceless s (applyAiPurchaseData tx offerId) ↔ ¬ LatePurchase s tx offerId := by
  have hspend := s.spendableBalance_le tx.sender
  have hsender := hs.balance tx.sender
  unfold applyAiPurchaseData LatePurchase
  rw [traceless_read_iff, traceless_ofOption_iff]
  push Not
  refine forall_congr' fun offer => imp_congr_right fun hget => ?_
  rw [traceless_guard_iff, Bool.not_eq_false]
  refine imp_congr_right fun hactive => ?_
  unfold Traceless
  rw [wp_bind, wp_closeOffer hget]
  -- from here on every failure is seen
  have hclosed : ∀ t : AccountState T,
      t.marketplace = (offerClosed s offerId offer).marketplace → (Same s t ↔ False) :=
    fun t ht => iff_false_intro (not_same_offerClosed hget hactive ht)
  have hspendClosed : (offerClosed s offerId offer).spendableBalance tx.sender =
    s.spendableBalance tx.sender := rfl
  have hbalClosed : ∀ a, (offerClosed s offerId offer).getBalance a = s.getBalance a :=
    fun _ => rfl
  simp only [wp_rules, checkedAdd_eq_some, checkedAdd_eq_none, hspendClosed, hclosed _ rfl,
    imp_false, not_lt]
  constructor
  · rintro ⟨hrest, hfits⟩
    obtain ⟨hfunds, hpay⟩ := hrest _ ⟨hfits, rfl⟩
    refine ⟨hfits, hfunds, fun hne => ?_⟩
    have hcovered : offer.price + tx.fee ≤ (offerClosed s offerId offer).getBalance tx.sender :=
      hfunds.trans hspend
    have hcredit := (wp_debit_of_le hcovered).mp (hpay hfunds)
    rw [wp_credit, getBalance_setAccount, if_neg hne, hbalClosed] at hcredit
    refine not_lt.mp fun hover => not_same_offerClosed hget hactive ?_ (hcredit.2 hover)
    rfl
  · rintro ⟨hfits, hfunds, hseller⟩
    refine ⟨?_, hfits⟩
    rintro cost ⟨-, rfl⟩
    refine ⟨hfunds, fun _ => ?_⟩
    rw [wp_debit_of_le (by exact hfunds.trans hspend), wp_credit]
    refine ⟨fun _ => trivial, fun hover => absurd hover (not_lt.mpr ?_)⟩
    rw [getBalance_setAccount]
    split_ifs with heq
    · -- a sale to oneself puts back less than it took
      have hdef : (debited ((offerClosed s offerId offer).account tx.sender)
        (offer.price + tx.fee)).balance = s.getBalance tx.sender - (offer.price + tx.fee) := rfl
      omega
    · exact hseller heq

end

/-! ## Agent payments -/

section

variable (M) (s : AccountState T) (tx : Transaction T) (payment : AgentPayment T)

/-- A settled payment moves something: a nonce, a fee or an amount. -/
def PaymentSeen : Prop :=
  satAdd u64Max (s.getNonce tx.sender) 1 ≠ s.getNonce tx.sender ∨ 0 < tx.fee ∨
    (payment.toAgent ≠ tx.sender ∧ 0 < payment.amount)

/-- An unescrowed payment is recorded and debited, and its credit overflows or its
settlement is refused. -/
def LateAgentPayment : Prop :=
  payment.fromAgent = tx.sender ∧ payment.amount + tx.fee ≤ u64Max ∧
    payment.amount + tx.fee ≤ s.spendableBalance tx.sender ∧ M.isEscrowed payment = false ∧
    ∃ r, (M.submitAgentPayment payment s.currentBlockHeight).run s.aiRegistry = (.ok (), r) ∧
      ((payment.toAgent ≠ tx.sender ∧ u64Max < s.getBalance payment.toAgent + payment.amount) ∨
        (Fails (M.settleAgentPaymentImmediate payment.paymentId s.currentBlockHeight) r ∧
          (r ≠ s.aiRegistry ∨ PaymentSeen s tx payment)))

def paymentDebited (r : T.AiRegistry) : AccountState T :=
  setAccount { s with aiRegistry := r } tx.sender
    (debited (s.account tx.sender) (payment.amount + tx.fee))

def paymentCredited (r : T.AiRegistry) : AccountState T :=
  (paymentDebited s tx payment r).setAccount payment.toAgent
    (credited ((paymentDebited s tx payment r).account payment.toAgent) payment.amount)

variable {M s tx payment}

variable {r : T.AiRegistry}

lemma account_paymentDebited {a : Address} : (paymentDebited s tx payment r).account a =
      if a = tx.sender then debited (s.account tx.sender) (payment.amount + tx.fee)
      else s.account a :=
  account_setAccount _ _ _ _

lemma account_paymentCredited {a : Address} : (paymentCredited s tx payment r).account a =
      if a = payment.toAgent then
        credited ((paymentDebited s tx payment r).account payment.toAgent) payment.amount
      else (paymentDebited s tx payment r).account a :=
  account_setAccount _ _ _ _

section

variable (hcost : payment.amount + tx.fee ≤ s.getBalance tx.sender)
include hcost

lemma same_paymentCredited_iff :
    Same s (paymentCredited s tx payment r) ↔ r = s.aiRegistry ∧ ¬ PaymentSeen s tx payment := by
  have hbal : s.getBalance tx.sender = (s.account tx.sender).balance := rfl
  have hnonce : s.getNonce tx.sender = (s.account tx.sender).nonce := rfl
  unfold PaymentSeen
  push Not
  constructor
  · intro hsame
    have hsender := hsame.1 tx.sender
    rw [account_paymentCredited] at hsender
    refine ⟨hsame.of_rest aiRegistry fun _ _ => rfl, ?_⟩
    split_ifs at hsender with heq
    · rw [account_paymentDebited, if_pos heq.symm] at hsender
      have hn := congrArg Account.nonce hsender
      have hb := congrArg Account.balance hsender
      simp only [credited, debited] at hn hb
      refine ⟨by rw [hnonce]; exact hn, by omega, fun hne => absurd heq.symm hne⟩
    · rw [account_paymentDebited, if_pos rfl] at hsender
      have hn := congrArg Account.nonce hsender
      have hb := congrArg Account.balance hsender
      simp only [debited] at hn hb
      exact ⟨by rw [hnonce]; exact hn, by omega, fun _ => by omega⟩
  · rintro ⟨rfl, hn, hfee, hamount⟩
    refine ⟨fun a => ?_, rfl⟩
    have hfee0 : tx.fee = 0 := by omega
    rw [hnonce] at hn
    rw [account_paymentCredited]
    by_cases hself : payment.toAgent = tx.sender
    · split_ifs with ha
      · rw [account_paymentDebited, if_pos hself, ha, hself]
        simp only [credited, debited, hn, hfee0, add_zero]
        rw [Nat.sub_add_cancel (by omega)]
      · rw [account_paymentDebited, if_neg fun h => ha (h.trans hself.symm)]
    · have hamount0 : payment.amount = 0 := by
        have := hamount hself
        omega
      split_ifs with ha
      · rw [account_paymentDebited, if_neg hself, ha]
        simp [credited, hamount0]
      · rw [account_paymentDebited]
        split_ifs with hs
        · rw [hs]
          simp [debited, hn, hfee0, hamount0]
        · rfl

lemma not_same_paymentDebited (hpos : 0 < payment.amount) :
    ¬ Same s (paymentDebited s tx payment r) := by
  refine not_same_of_getBalance (a := tx.sender) ?_
  have hdef : (debited (s.account tx.sender) (payment.amount + tx.fee)).balance =
    s.getBalance tx.sender - (payment.amount + tx.fee) := rfl
  rw [getBalance_eq, account_paymentDebited, if_pos rfl]
  omega

lemma overflow_paymentDebited_iff (hs : s.InRange) :
    u64Max < (paymentDebited s tx payment r).getBalance payment.toAgent + payment.amount ↔
      payment.toAgent ≠ tx.sender ∧ u64Max < s.getBalance payment.toAgent + payment.amount := by
  have hsender := hs.balance tx.sender
  have hdef : (debited (s.account tx.sender) (payment.amount + tx.fee)).balance =
    s.getBalance tx.sender - (payment.amount + tx.fee) := rfl
  rw [getBalance_eq, account_paymentDebited]
  split_ifs with hself
  · simp only [hself, ne_eq, not_true_eq_false, false_and, iff_false]
    omega
  · simp [hself, getBalance_eq]

end

lemma traceless_aiAgentPayment_iff (hM : M.Refusals) (hs : s.InRange) :
    Traceless s (applyAiAgentPayment M tx payment) ↔ ¬ LateAgentPayment M s tx payment := by
  have hspend := s.spendableBalance_le tx.sender
  unfold applyAiAgentPayment LateAgentPayment
  rw [traceless_read_iff, traceless_guard_iff, traceless_ofOption_iff]
  simp only [id, ne_eq, not_not, not_and, checkedAdd_eq_some]
  refine imp_congr_right fun _ => ?_
  constructor
  · rintro h hfits hfunds hopen ⟨r, hrun, hlate⟩
    have hcost := hfunds.trans hspend
    have harm := h _ ⟨hfits, rfl⟩
    rw [traceless_guard_iff] at harm
    have hcall := harm hfunds.not_gt
    simp only [onAi] at hcall
    rw [traceless_call_iff (hM.submitAgentPayment _ _) rfl] at hcall
    have hafter := hcall () r hrun
    rw [wp_bind, wp_debit_of_le (by exact hcost), hopen, if_neg (by simp), wp_bind,
      wp_credit] at hafter
    rcases hlate with hover | ⟨hfails, hseen⟩
    · -- the credit overflows on the debited state
      have hrecipient := hs.balance payment.toAgent
      have hsame := hafter.2 ((overflow_paymentDebited_iff hcost hs).mpr hover)
      exact not_same_paymentDebited hcost (by omega) (Same.touch_right_iff.mp hsame)
    · -- the settlement is refused on the credited state
      by_cases hover : u64Max <
          (paymentDebited s tx payment r).getBalance payment.toAgent + payment.amount
      · have hother := (overflow_paymentDebited_iff hcost hs).mp hover
        have hrecipient := hs.balance payment.toAgent
        exact not_same_paymentDebited hcost (by omega)
          (Same.touch_right_iff.mp (hafter.2 hover))
      · obtain ⟨e, r', hsettle⟩ := fails_iff.mp hfails
        have hsettled := hafter.1 (not_lt.mp hover)
        rw [wp_zoom] at hsettled
        have hsame := hsettled.2 e r' hsettle
        rw [(hM.settleAgentPaymentImmediate _ _).error hsettle] at hsame
        obtain ⟨hr, hnot⟩ := (same_paymentCredited_iff hcost).mp hsame
        rcases hseen with hne | hmoves
        · exact hne hr
        · exact hnot hmoves
  · rintro hlate cost ⟨hfits, rfl⟩
    rw [traceless_guard_iff, not_lt]
    intro hfunds
    have hcost := hfunds.trans hspend
    simp only [onAi]
    rw [traceless_call_iff (hM.submitAgentPayment _ _) rfl]
    intro _ r hrun
    rw [wp_bind, wp_debit_of_le (by exact hcost)]
    split_ifs with hescrow
    · trivial
    · have hopen : M.isEscrowed payment = false := by simpa using hescrow
      have hno := hlate hfits hfunds hopen
      rw [wp_bind, wp_credit]
      refine ⟨fun _ => ?_, fun hover => ?_⟩
      · rw [wp_zoom]
        refine ⟨fun _ _ _ => trivial, fun e r' hsettle => ?_⟩
        rw [(hM.settleAgentPaymentImmediate _ _).error hsettle]
        refine (same_paymentCredited_iff hcost).mpr ⟨?_, fun hseen => ?_⟩
        · by_contra hne
          exact hno ⟨r, hrun, Or.inr ⟨fails_iff.mpr ⟨e, r', hsettle⟩, Or.inl hne⟩⟩
        · exact hno ⟨r, hrun, Or.inr ⟨fails_iff.mpr ⟨e, r', hsettle⟩, Or.inr hseen⟩⟩
      · exact absurd ⟨r, hrun, Or.inl ((overflow_paymentDebited_iff hcost hs).mp hover)⟩ hno

end

/-! ## Boosts -/

section

variable (s : AccountState T) (tx : Transaction T)

/-- One of the three shares of a boost of a token of `owner` overflows. -/
def ShareOverflow (owner : Address) (amount : ℕ) : Prop :=
  (owner ≠ tx.sender ∧ u64Max < s.getBalance owner + creatorShare amount) ∨
    u64Max < s.pendingBudBoostShare + budShare amount ∨
    ∃ treasury, s.burnReserveAddress = some treasury ∧ 0 < protocolShare amount ∧
      u64Max < s.getBalance treasury + (if treasury = owner then creatorShare amount else 0) +
        protocolShare amount

/-- A share overflows after the booster was debited. -/
def LateBoost (nftId amount : ℕ) : Prop :=
  amount ≤ u64Max / 100 ∧ amount + tx.fee ≤ u64Max ∧
    amount + tx.fee ≤ s.getBalance tx.sender ∧
    ∃ nft, s.nftRegistry.getNft nftId = some nft ∧ ShareOverflow s tx nft.owner amount

def boostDebited (amount : ℕ) : AccountState T :=
  s.setAccount tx.sender
    { s.account tx.sender with
      balance := (s.account tx.sender).balance - amount - tx.fee,
      nonce := satAdd u64Max (s.account tx.sender).nonce 1 }

def boostCredited (owner : Address) (amount : ℕ) : AccountState T :=
  (boostDebited s tx amount).setAccount owner
    (credited ((boostDebited s tx amount).account owner) (creatorShare amount))

variable {s tx} {owner : Address} {amount : ℕ}

lemma getBalance_boostDebited {a : Address} :
    (boostDebited s tx amount).getBalance a =
      if a = tx.sender then s.getBalance tx.sender - amount - tx.fee else s.getBalance a :=
  getBalance_setAccount _ _ _

lemma getBalance_boostCredited {a : Address} :
    (boostCredited s tx owner amount).getBalance a =
      (boostDebited s tx amount).getBalance a + if a = owner then creatorShare amount else 0 := by
  rw [boostCredited, getBalance_setAccount]
  split_ifs with heq
  · rw [heq]
    rfl
  · rfl

lemma creatorShare_lt (hpos : 0 < amount) : creatorShare amount < amount := by
  unfold creatorShare
  omega

section

variable (hcost : amount + tx.fee ≤ s.getBalance tx.sender)
include hcost

lemma not_same_boostDebited (hpos : 0 < amount) : ¬ Same s (boostDebited s tx amount) := by
  refine not_same_of_getBalance (a := tx.sender) ?_
  rw [getBalance_boostDebited, if_pos rfl]
  omega

lemma not_same_boostCredited (hpos : 0 < amount) {t : AccountState T}
    (hledger : t.ledger = (boostCredited s tx owner amount).ledger) : ¬ Same s t := by
  have hshare := creatorShare_lt hpos
  refine not_same_of_getBalance (a := tx.sender) ?_
  rw [getBalance_of_ledger hledger, getBalance_boostCredited, getBalance_boostDebited, if_pos rfl]
  split_ifs <;> omega

lemma overflow_boostDebited_iff (hs : s.InRange) :
    u64Max < (boostDebited s tx amount).getBalance owner + creatorShare amount ↔
      owner ≠ tx.sender ∧ u64Max < s.getBalance owner + creatorShare amount := by
  have hsender := hs.balance tx.sender
  have hshare : creatorShare amount ≤ amount := by
    unfold creatorShare
    omega
  rw [getBalance_boostDebited]
  split_ifs with hself
  · simp only [hself, ne_eq, not_true_eq_false, false_and, iff_false]
    omega
  · simp [hself]

lemma wp_creditTreasury_late (hreserve : s.burnReserveAddress ≠ some tx.sender) {t : AccountState T}
    (hledger : t.ledger = (boostCredited s tx owner amount).ledger)
    (ht : t.burnReserveAddress = s.burnReserveAddress) :
    wp (creditTreasury amount) (fun _ _ => True) (fun _ t' => Same s t') t ↔
      ¬ ∃ treasury, s.burnReserveAddress = some treasury ∧ 0 < protocolShare amount ∧
        u64Max < s.getBalance treasury + (if treasury = owner then creatorShare amount else 0) +
          protocolShare amount := by
  unfold creditTreasury
  rw [wp_bind, wp_read, ht]
  cases hres : s.burnReserveAddress with
  | none => simp
  | some treasury =>
    have hne : treasury ≠ tx.sender := fun h => hreserve (by rw [hres, h])
    simp only [Option.some.injEq, exists_eq_left', gt_iff_lt]
    by_cases hshare : 0 < protocolShare amount
    · have hpos : 0 < amount := by
        unfold protocolShare at hshare
        omega
      rw [if_pos hshare, wp_credit, getBalance_of_ledger hledger, getBalance_boostCredited,
        getBalance_boostDebited, if_neg hne, Same.touch_right_iff]
      have hseen : ¬ Same s t := not_same_boostCredited hcost hpos hledger
      simp only [hseen, implies_true, true_and, imp_false, hshare]
    · rw [if_neg hshare]
      exact iff_of_true trivial fun h => hshare h.1

lemma wp_payBoostShares (hs : s.InRange) (hreserve : s.burnReserveAddress ≠ some tx.sender) :
    wp (payBoostShares owner amount) (fun _ _ => True) (fun _ t => Same s t)
        (boostDebited s tx amount) ↔ ¬ ShareOverflow s tx owner amount := by
  have hpending := hs.pendingBudBoostShare
  have howner := hs.balance owner
  unfold payBoostShares ShareOverflow
  rw [wp_bind, wp_credit, overflow_boostDebited_iff hcost hs, not_or, not_or, Same.touch_right_iff]
  by_cases hcreator : owner ≠ tx.sender ∧ u64Max < s.getBalance owner + creatorShare amount
  · have hpos : 0 < amount := by
      have hshare : 0 < creatorShare amount := by omega
      unfold creatorShare at hshare
      omega
    have hseen : ¬ Same s (boostDebited s tx amount) := not_same_boostDebited hcost hpos
    simp [hcreator, hseen]
  · have hfits : (boostDebited s tx amount).getBalance owner + creatorShare amount ≤ u64Max :=
      not_lt.mp fun h => hcreator ((overflow_boostDebited_iff hcost hs).mp h)
    have hread : (boostCredited s tx owner amount).pendingBudBoostShare =
      s.pendingBudBoostShare := rfl
    simp only [hcreator, hfits, forall_const, false_implies, and_true, not_false_eq_true, true_and]
    change wp _ _ _ (boostCredited s tx owner amount) ↔ _
    simp only [wp_rules, checkedAdd_eq_some, checkedAdd_eq_none, hread]
    by_cases hover : u64Max < s.pendingBudBoostShare + budShare amount
    · have hpos : 0 < amount := by
        have hshare : 0 < budShare amount := by omega
        unfold budShare at hshare
        omega
      have hseen : ¬ Same s (boostCredited s tx owner amount) :=
        not_same_boostCredited hcost hpos rfl
      simp [hover, hseen]
    · simp only [hover, false_implies, and_true, not_false_eq_true, true_and]
      constructor
      · intro h
        have hlast := h _ ⟨not_lt.mp hover, rfl⟩
        exact (wp_creditTreasury_late hcost hreserve (by rfl) (by rfl)).mp hlast
      · rintro h pending -
        exact (wp_creditTreasury_late hcost hreserve (by rfl) (by rfl)).mpr h

end

lemma traceless_nftBoost_iff (hs : s.InRange) (hreserve : s.burnReserveAddress ≠ some tx.sender)
    (nftId amount : ℕ) :
    Traceless s (applyNftBoost tx nftId amount) ↔ ¬ LateBoost s tx nftId amount := by
  unfold applyNftBoost LateBoost
  rw [traceless_guard_iff, traceless_read_iff, traceless_ofOption_iff]
  simp only [not_lt, not_and, not_exists]
  refine imp_congr_right fun _ => ?_
  unfold Traceless
  simp only [wp_steps, wp_accounts, checkedAdd_eq_some, checkedAdd_eq_none, Same.touch_right_iff,
    Same.refl]
  constructor
  · intro h hfits hcost nft hnft
    exact (wp_payBoostShares hcost hs hreserve).mp
      (h nft hnft _ ⟨hfits, rfl⟩ hcost.not_gt)
  · rintro h nft hnft cost ⟨hfits, rfl⟩ hcovered
    have hcost : amount + tx.fee ≤ s.getBalance tx.sender := not_lt.mp hcovered
    exact (wp_payBoostShares hcost hs hreserve).mpr (h hfits hcost nft hnft)

end

end Budlum.Executor
