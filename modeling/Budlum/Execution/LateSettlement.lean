import Budlum.CrossDomain.Custody
import Budlum.Execution.LatePayout

/-!
# Late failures around inference and relays

Contract calls that escrow a request, direct requests, results that pay their
verifiers, and relayed bridge messages.
-/

namespace Budlum.Executor

open Machine AccountState Exec BridgeState MarketplaceRegistry Function Nat

variable {T : ModuleTypes} {M : Modules T} {α β : Type}

/-! ## Admission -/

section

variable (M) (s : AccountState T) (tx : Transaction T)

/-- The request passes the gates in front of the registry. -/
def Admitted (req : AiInferenceRequest T) : Prop :=
  M.admitInferenceRequest s.aiRegistry req = .ok () ∧
    ¬ Fails (validateAiReadRef req.inputRef tx.sender
      s.currentBlockHeight) s.marketplace

/-- The grant a request was admitted under can be consumed. -/
def GrantReady (grant : Option Id32) : Prop :=
  ∀ grantId, grant = some grantId → ∃ g, s.marketplace.accessGrants.get? grantId = some g ∧
    g.isActiveFor tx.sender s.currentBlockHeight = true

variable {M s tx}

lemma wp_readGate (s : AccountState T) (tx : Transaction T) (inputRef : Bytes) :
    wp (validateAiReadRef inputRef tx.sender s.currentBlockHeight)
      (fun grant m => m = s.marketplace ∧ GrantReady s tx grant) (fun _ m => m = s.marketplace)
      s.marketplace := by
  refine wp_validateAiReadRef (fun _ => rfl) ⟨rfl, nofun⟩ ?_
  intro grantId grant hget hactive
  refine ⟨rfl, fun id hid => ?_⟩
  cases hid
  exact ⟨grant, hget, hactive⟩

lemma exists_grant (M : Modules T) (s : AccountState T) (tx : Transaction T)
    (req : AiInferenceRequest T) :
    ∃ grant, GrantReady s tx grant ∧ ∀ {Q : Option Id32 → AccountState T → Prop}
      {E : BudlumError → AccountState T → Prop}, (∀ e, E e s) →
      (wp (admitRequest M tx req) Q E s ↔ (Admitted M s tx req → Q grant s)) := by
  have hgate := wp_iff.mp (wp_readGate s tx req.inputRef)
  by_cases hadmitted : Admitted M s tx req
  · obtain ⟨grant, m, hrun⟩ := exists_run_of_not_fails hadmitted.2
    obtain ⟨rfl, hready⟩ := hgate.1 grant m hrun
    refine ⟨grant, hready, fun _ => ?_⟩
    rw [admitRequest, wp_bind, wp_read, wp_bind]
    simp only [id, hadmitted.1, Exec.ofExcept, wp_pure, hadmitted, forall_const]
    rw [onMarketplace, wp_zoom_of_ok hrun]
  · refine ⟨none, fun _ h => (by cases h), fun hE => iff_of_true ?_ fun h => absurd h hadmitted⟩
    rw [admitRequest, wp_bind, wp_read, wp_bind, wp_ofExcept]
    refine ⟨fun _ hok => ?_, fun e _ => hE _⟩
    rw [onMarketplace, wp_zoom]
    refine ⟨fun grant m hrun => (hadmitted ⟨hok, fun hfails => ?_⟩).elim, fun e m hrun => ?_⟩
    · obtain ⟨e, m', herr⟩ := fails_iff.mp hfails
      cases herr.symm.trans hrun
    · rw [hgate.2 e m hrun]
      exact hE _

lemma wp_consumeGrant {grant : Option Id32} {s' : AccountState T}
    (hready : GrantReady s tx grant) (hmarket : s'.marketplace = s.marketplace) :
    wp (consumeGrant tx grant s.currentBlockHeight)
      (fun _ t => t.ledger = s'.ledger ∧ t.teamVesting = s'.teamVesting ∧
        t.epochIndex = s'.epochIndex ∧ t.burnReserveAddress = s'.burnReserveAddress)
      (fun _ _ => False) s' := by
  cases grant with
  | none => exact ⟨rfl, rfl, rfl, rfl⟩
  | some grantId =>
    obtain ⟨g, hget, hactive⟩ := hready grantId rfl
    have hconsume := wp_consumeAiReadGrant (Q := fun _ _ => True) (E := fun _ _ => False)
      (m := s'.marketplace) (by rw [hmarket]; exact hget) hactive (fun _ => trivial)
    rw [consumeGrant, onMarketplace, wp_zoom]
    exact ⟨fun _ _ _ => ⟨rfl, rfl, rfl, rfl⟩, fun e m hrun => (wp_iff.mp hconsume).2 e m hrun⟩

end

/-! ## Contract calls -/

section

variable (M) (s : AccountState T) (tx : Transaction T)

/-- A contract's request is escrowed and the fee is not covered beside it. -/
def LateContractCall : Prop :=
  ∃ modelWord maxFee blocks rest,
    M.executeBytecode tx.data = .ok (0x00A100A1 :: modelWord :: maxFee :: blocks :: rest) ∧
    Admitted M s tx (contractRequest M tx s modelWord maxFee blocks) ∧
    maxFee ≤ s.spendableBalance tx.sender ∧
    ¬ Fails (M.submitRequest (contractRequest M tx s modelWord maxFee blocks)
      s.currentBlockHeight) s.aiRegistry ∧
    s.getBalance tx.sender < maxFee + tx.fee

variable {M s tx}

lemma wp_takeEscrow_then_fee {grant : Option Id32} {maxFee : ℕ} {message : String}
    {r : T.AiRegistry} (hready : GrantReady s tx grant) (hfee : tx.fee ≤ s.getBalance tx.sender)
    (hfunds : maxFee ≤ s.getBalance tx.sender) :
    wp (takeEscrow tx grant maxFee s.currentBlockHeight >>= fun _ => chargeFee tx message)
        (fun _ _ => True) (fun _ t => Same s t) { s with aiRegistry := r } ↔
      maxFee + tx.fee ≤ s.getBalance tx.sender := by
  obtain ⟨_, t, hrun, hledger, -⟩ := exists_run_of_wp
    (@wp_consumeGrant T s tx grant { s with aiRegistry := r } hready rfl)
  have hbal : (t.account tx.sender).balance = s.getBalance tx.sender :=
    getBalance_of_ledger hledger tx.sender
  rw [takeEscrow, wp_bind, wp_bind_of_run hrun]
  simp only [wp_bind, wp_accounts, wp_ofOption, checkedSub_eq_some, checkedSub_eq_none, hbal,
    chargeFee, wp_debit, getBalance_setAccount, if_true, implies_true, true_and,
    Same.touch_right_iff]
  constructor
  · rintro ⟨hrest, -⟩
    by_contra hshort
    have hsame := hrest _ ⟨hfunds, rfl⟩ (by omega)
    have hsender := hsame.getBalance tx.sender
    rw [getBalance_setAccount, if_pos rfl] at hsender
    change s.getBalance tx.sender - maxFee = _ at hsender
    omega
  · intro hcovers
    refine ⟨?_, fun hno => absurd hfunds hno.not_ge⟩
    rintro balance ⟨-, rfl⟩ hshort
    omega

lemma traceless_escrow_iff (hfee : tx.fee ≤ s.getBalance tx.sender)
    (modelWord maxFee blocks : ℕ) :
    Traceless s (escrowRequest M tx modelWord maxFee blocks >>= fun _ =>
        chargeFee tx "balance underflow") ↔
      (Admitted M s tx (contractRequest M tx s modelWord maxFee blocks) →
        maxFee ≤ s.spendableBalance tx.sender →
        ¬ Fails (M.submitRequest (contractRequest M tx s modelWord maxFee blocks)
          s.currentBlockHeight) s.aiRegistry → maxFee + tx.fee ≤ s.getBalance tx.sender) := by
  have hspend := s.spendableBalance_le tx.sender
  obtain ⟨grant, hready, hadmit⟩ :=
    exists_grant M s tx (contractRequest M tx s modelWord maxFee blocks)
  unfold Traceless
  rw [wp_bind, escrowRequest, wp_bind, wp_read, wp_bind, id, hadmit fun _ => Same.refl s]
  refine imp_congr_right fun hadmitted => ?_
  simp only [wp_steps, Same.refl, not_lt, wp_attempt]
  refine imp_congr_right fun hfunds => ?_
  rw [onAi, wp_zoom]
  rcases hsubmit : (M.submitRequest (contractRequest M tx s modelWord maxFee blocks)
    s.currentBlockHeight).run s.aiRegistry with ⟨e | ⟨⟩, r⟩
  · -- the registry refuses: nothing is escrowed and the fee is covered
    have hrefused : Fails (M.submitRequest (contractRequest M tx s modelWord maxFee blocks)
      s.currentBlockHeight) s.aiRegistry := fails_iff.mpr ⟨e, r, hsubmit⟩
    refine iff_of_true ⟨fun _ _ hok => (by cases hok), fun e' r' herr => ?_⟩
      (fun hno => absurd hrefused hno)
    exact (wp_debit_of_le (by exact hfee)).mpr trivial
  · have haccepted : ¬ Fails (M.submitRequest (contractRequest M tx s modelWord maxFee blocks)
        s.currentBlockHeight) s.aiRegistry := by
      rw [fails_iff]
      rintro ⟨e, r', herr⟩
      rw [hsubmit] at herr
      cases herr
    simp only [Prod.mk.injEq, reduceCtorEq, false_and, false_implies,
      implies_true, and_true, true_and, forall_eq', haccepted, not_false_eq_true, forall_const]
    have hescrow := @wp_takeEscrow_then_fee T s tx grant maxFee "balance underflow" r hready hfee
      (hfunds.trans hspend)
    rw [wp_bind] at hescrow
    exact hescrow

lemma traceless_contractCall_iff (hfee : tx.fee ≤ s.getBalance tx.sender) :
    Traceless s (applyContractCall M tx) ↔ ¬ LateContractCall M s tx := by
  unfold applyContractCall LateContractCall
  rw [traceless_ofExcept_iff]
  have hquiet : Traceless s ((pure () : Effect T Unit) >>= fun _ =>
    chargeFee tx "balance underflow") := (wp_debit_of_le hfee).mpr trivial
  cases hexec : M.executeBytecode tx.data with
  | error e => simp
  | ok events =>
    simp only [Except.ok.injEq, forall_eq']
    unfold handleEvents
    split
    · rename_i tag modelWord maxFee blocks rest
      by_cases htag : tag = 0x00A100A1
      · subst htag
        rw [if_pos rfl, traceless_escrow_iff hfee]
        constructor
        · rintro h ⟨_, _, _, _, heq, hadmitted, hfunds, haccepted, hshort⟩
          cases heq
          exact absurd (h hadmitted hfunds haccepted) hshort.not_ge
        · intro h hadmitted hfunds haccepted
          by_contra hshort
          exact h ⟨_, _, _, _, rfl, hadmitted, hfunds, haccepted, not_le.mp hshort⟩
      · rw [if_neg htag]
        refine iff_of_true hquiet ?_
        rintro ⟨_, _, _, _, heq, -⟩
        cases heq
        exact htag rfl
    · rename_i hshape
      refine iff_of_true hquiet ?_
      rintro ⟨modelWord, maxFee, blocks, rest, heq, -⟩
      exact hshape _ _ _ _ _ heq

end

/-! ## Direct requests -/

variable {s : AccountState T}

lemma spendableBalance_congr {s' : AccountState T} {a : Address}
    (hledger : s'.ledger = s.ledger) (hvesting : s'.teamVesting = s.teamVesting)
    (hepoch : s'.epochIndex = s.epochIndex)
    (hreserve : s'.burnReserveAddress = s.burnReserveAddress) :
    s'.spendableBalance a = s.spendableBalance a := by
  unfold spendableBalance lockedBalance
  rw [getBalance_of_ledger hledger, hvesting, hepoch, hreserve]

/-- The cost of a direct request is secured before the request is recorded. -/
lemma traceless_aiInferenceRequest {tx : Transaction T} (hM : M.Refusals)
    (req : AiInferenceRequest T) : Traceless s (applyAiInferenceRequest M tx req) := by
  have hspend := s.spendableBalance_le tx.sender
  unfold applyAiInferenceRequest
  rw [traceless_read_iff, traceless_ofOption_iff]
  intro cost hcost
  obtain ⟨hfits, rfl⟩ := checkedAdd_eq_some.mp hcost
  change req.maxFee + tx.fee ≤ u64Max at hfits
  rw [traceless_guard_iff, not_lt]
  intro hfunds
  change req.maxFee + tx.fee ≤ s.spendableBalance tx.sender at hfunds
  obtain ⟨grant, hready, hadmit⟩ := exists_grant M s tx { req with requester := tx.sender }
  unfold Traceless
  rw [wp_bind, hadmit fun _ => Same.refl s]
  intro _
  rw [wp_bind, onAi, wp_zoom]
  refine ⟨fun _ r _ => ?_, fun e r herr => ?_⟩
  · obtain ⟨_, t, hconsumed, hledger, hvesting, hepoch, hreserve⟩ := exists_run_of_wp
      (@wp_consumeGrant T s tx grant { s with aiRegistry := r } hready rfl)
    have hbal : (t.account tx.sender).balance = s.getBalance tx.sender :=
      getBalance_of_ledger hledger tx.sender
    have hsame : t.spendableBalance tx.sender = s.spendableBalance tx.sender :=
      spendableBalance_congr hledger hvesting hepoch hreserve
    simp only [id_eq]
    rw [wp_bind_of_run hconsumed]
    simp only [wp_steps, wp_getOrCreate, wp_writeAccount, checkedAdd_eq_some, checkedAdd_eq_none,
      checkedSub_eq_some, checkedSub_eq_none, hbal, hsame]
    -- each check asks again for what the first one has secured
    refine ⟨?_, fun hover => absurd hfits (by omega)⟩
    rintro total ⟨-, rfl⟩
    refine ⟨fun hshort => absurd hfunds (by omega), fun _ => ⟨?_, fun hno => absurd hfunds (by omega)⟩⟩
    rintro afterFee ⟨-, rfl⟩ hno
    exact absurd hfunds (by omega)
  · rw [(hM.submitRequest _ _).error herr]
    exact Same.refl s

/-! ## Rewards -/

section

/-- The reward loop overflows some verifier, `balance` being what each holds. -/
def RewardOverflow (maxFee count : ℕ) : (Address → ℕ) → ℕ → List Address → Prop
  | _, _, [] => False
  | balance, i, verifier :: rest =>
    u64Max < balance verifier + verifierReward maxFee count i ∨
      RewardOverflow maxFee count
        (update balance verifier (balance verifier + verifierReward maxFee count i))
        (i + 1) rest

variable {maxFee count : ℕ}

lemma getBalance_credited {a : Address} {amount : ℕ} :
    (s.setAccount a (credited (s.account a) amount)).getBalance =
      update s.getBalance a (s.getBalance a + amount) := by
  funext b
  rw [getBalance_setAccount]
  by_cases hb : b = a
  · rw [if_pos hb, hb, update_self]
    rfl
  · rw [if_neg hb, update_of_ne hb]

lemma fails_payVerifiers_iff (verifiers : List Address) : ∀ (i : ℕ) (s : AccountState T),
    Fails (payVerifiers maxFee count i verifiers : Effect T Unit) s ↔
      RewardOverflow maxFee count s.getBalance i verifiers := by
  induction verifiers with
  | nil =>
    intro i s
    exact Iff.rfl
  | cons verifier rest ih =>
    intro i s
    unfold Fails payVerifiers RewardOverflow
    rw [wp_bind, wp_credit]
    by_cases hover : u64Max < s.getBalance verifier + verifierReward maxFee count i
    · simp [hover, hover.not_ge]
    · have hfits := not_lt.mp hover
      simp only [hfits, hover, forall_const, false_implies, and_true, false_or]
      rw [← getBalance_credited]
      exact ih (i + 1) _

/-- Every balance of `s` is still there in `t`, and so is the inference registry. -/
def Grows (s t : AccountState T) : Prop :=
  (∀ a, s.getBalance a ≤ t.getBalance a) ∧ t.aiRegistry = s.aiRegistry

lemma Grows.refl (s : AccountState T) : Grows s s := ⟨fun _ => le_rfl, rfl⟩

lemma Grows.trans {t u : AccountState T} (h : Grows s t) (h' : Grows t u) : Grows s u :=
  ⟨fun a => (h.1 a).trans (h'.1 a), h'.2.trans h.2⟩

lemma grows_credited {a : Address} {amount : ℕ} :
    Grows s (s.setAccount a (credited (s.account a) amount)) := by
  refine ⟨fun b => ?_, rfl⟩
  rw [getBalance_setAccount]
  split_ifs with hb
  · rw [hb]
    exact le_add_right _ _
  · exact le_rfl

lemma grows_payVerifiers (verifiers : List Address) : ∀ (i : ℕ) (s : AccountState T),
    wp (payVerifiers maxFee count i verifiers : Effect T Unit)
      (fun _ t => Grows s t) (fun _ t => Grows s t) s := by
  induction verifiers with
  | nil => exact fun i s => Grows.refl s
  | cons verifier rest ih =>
    intro i s
    unfold payVerifiers
    rw [wp_bind, wp_credit]
    refine ⟨fun _ => ?_, fun _ => ?_⟩
    · exact wp_mono (ih (i + 1) _) (fun _ _ h => grows_credited.trans h)
        (fun _ _ h => grows_credited.trans h)
    · exact ⟨fun a => (getBalance_touch s verifier a).ge, rfl⟩

lemma verifierReward_le_first (i : ℕ) :
    verifierReward maxFee count i ≤ verifierReward maxFee count 0 := by
  unfold verifierReward
  split_ifs <;> omega

lemma reward_pos_of_overflow (verifiers : List Address) : ∀ (balance : Address → ℕ) (i : ℕ),
    (∀ a, balance a ≤ u64Max) → RewardOverflow maxFee count balance i verifiers →
    0 < verifierReward maxFee count 0 := by
  induction verifiers with
  | nil => exact fun _ _ _ h => h.elim
  | cons verifier rest ih =>
    intro balance i hrange hover
    have hfirst := @verifierReward_le_first maxFee count i
    have hbal := hrange verifier
    by_cases hhere : u64Max < balance verifier + verifierReward maxFee count i
    · omega
    · rcases hover with h | hlater
      · exact absurd h hhere
      · refine ih _ (i + 1) (fun a => ?_) hlater
        by_cases ha : a = verifier
        · rw [ha, update_self]
          exact not_lt.mp hhere
        · rw [update_of_ne ha]
          exact hrange a

end

/-! ## Results -/

section

variable (M) (s : AccountState T) (tx : Transaction T)

def stampedResult (res : AiInferenceResult T) : AiInferenceResult T :=
  { res with verifier := tx.sender, submittedAtBlock := s.currentBlockHeight }

/-- A result is recorded and reaches its threshold, and a reward then overflows. The
overflow is seen through the registry or through a reward already paid. -/
def LateResult (res : AiInferenceResult T) : Prop :=
  M.isActive s.registry tx.sender .lubotOperator = true ∧
    ∃ finalized r req,
      (M.submitResult (stampedResult s tx res) s.currentBlockHeight).run s.aiRegistry =
        (.ok (some finalized), r) ∧
      M.getRequest r finalized.requestId = some req ∧
      RewardOverflow req.maxFee finalized.agreeingVerifiers.length s.getBalance 0
        finalized.agreeingVerifiers ∧
      (r ≠ s.aiRegistry ∨ ∃ first, finalized.agreeingVerifiers.head? = some first ∧
        s.getBalance first +
          verifierReward req.maxFee finalized.agreeingVerifiers.length 0 ≤ u64Max)

variable {M s tx} {maxFee count : ℕ}

lemma wp_payVerifiers_late_iff (hs : s.InRange) {r : T.AiRegistry} {verifiers : List Address}
    (hover : RewardOverflow maxFee count s.getBalance 0 verifiers) :
    wp (payVerifiers maxFee count 0 verifiers : Effect T Unit) (fun _ _ => True)
        (fun _ t => Same s t) { s with aiRegistry := r } ↔
      ¬ (r ≠ s.aiRegistry ∨ ∃ first, verifiers.head? = some first ∧
        s.getBalance first + verifierReward maxFee count 0 ≤ u64Max) := by
  have hpos := reward_pos_of_overflow verifiers s.getBalance 0 hs.balance hover
  cases verifiers with
  | nil => exact hover.elim
  | cons first rest =>
    have hbal : ∀ a, ({ s with aiRegistry := r } : AccountState T).getBalance a =
      s.getBalance a := fun _ => rfl
    simp only [List.head?_cons, Option.some.injEq, exists_eq_left']
    unfold payVerifiers
    rw [wp_bind, wp_credit, hbal, Same.touch_right_iff, same_aiRegistry_iff]
    by_cases hfirst : u64Max < s.getBalance first + verifierReward maxFee count 0
    · simp [hfirst, hfirst.not_ge]
    · have hfits := not_lt.mp hfirst
      simp only [hfits, hfirst, forall_const, false_implies, and_true, or_true,
        not_true_eq_false, iff_false]
      intro h
      -- the rest of the loop fails, and the first reward stays paid
      have hrest : RewardOverflow maxFee count
          (({ s with aiRegistry := r } : AccountState T).setAccount first
            (credited (s.account first) (verifierReward maxFee count 0))).getBalance 1 rest := by
        rcases hover with hno | hlater
        · exact absurd hno hfirst
        · have hupdate := @getBalance_credited T { s with aiRegistry := r } first
            (verifierReward maxFee count 0)
          exact hupdate ▸ hlater
      obtain ⟨e, t, hrun⟩ := fails_iff.mp ((fails_payVerifiers_iff rest 1 _).mpr hrest)
      have hsame := (wp_iff.mp h).2 e t hrun
      have hgrows := (wp_iff.mp (grows_payVerifiers rest 1 _)).2 e t hrun
      have hraised := hgrows.1 first
      rw [getBalance_setAccount, if_pos rfl, hsame.getBalance first] at hraised
      have hdef : (credited (s.account first) (verifierReward maxFee count 0)).balance =
        s.getBalance first + verifierReward maxFee count 0 := rfl
      omega

variable {E : BudlumError → AccountState T → Prop}

lemma wp_submitResult {res : AiInferenceResult T} {block : ℕ}
    {Q : Option AiOutcome → AccountState T → Prop} :
    wp (submitResult M res block) Q E s ↔
      (∀ outcome r, (M.submitResult res block).run s.aiRegistry = (.ok outcome, r) →
        Q outcome { s with aiRegistry := r }) ∧
      (∀ e r, (M.submitResult res block).run s.aiRegistry = (.error e, r) →
        (M.isEquivocationError e = true → Q none { s with aiRegistry := r }) ∧
        (M.isEquivocationError e = false →
          E (validation "ai_result_failed" e) { s with aiRegistry := r })) := by
  rw [submitResult, wp_bind, wp_attempt, onAi, wp_zoom]
  refine and_congr Iff.rfl (forall_congr' fun e => forall_congr' fun r => imp_congr_right fun _ => ?_)
  cases hequiv : M.isEquivocationError e <;> simp [validation, hequiv]

lemma quiet_publishOutput (requester : Address) (res : AiInferenceResult T) :
    Quiet (publishOutput M requester res) := by
  intro s
  -- whatever the two registries answer, only they are written
  simp only [publishOutput, onNft, onMarketplace, wp_rules, wp_attempt, wp_zoom, implies_true,
    and_self]

lemma settles_rewards (hfee : tx.fee ≤ s.getBalance tx.sender) {r : T.AiRegistry}
    {verifiers : List Address} (hfits : ¬ RewardOverflow maxFee count s.getBalance 0 verifiers)
    {requester : Address} {res : AiInferenceResult T} {message : String} :
    wp (payVerifiers maxFee count 0 verifiers >>= fun _ => publishOutput M requester res)
      (fun _ => wp (chargeFee tx message) (fun _ _ => True) E) E
      { s with aiRegistry := r } := by
  have hpaid : ¬ Fails (payVerifiers maxFee count 0 verifiers : Effect T Unit)
      { s with aiRegistry := r } := by
    intro h
    have hover := (fails_payVerifiers_iff verifiers 0
      ({ s with aiRegistry := r } : AccountState T)).mp h
    exact hfits hover
  obtain ⟨_, t, hrun⟩ := exists_run_of_not_fails hpaid
  have hgrows := (wp_iff.mp (grows_payVerifiers verifiers 0 _)).1 _ t hrun
  rw [wp_bind_of_run hrun]
  refine wp_mono (quiet_publishOutput requester res t) (fun _ u hu => ?_) (fun _ _ h => h.elim)
  rw [chargeFee, wp_debit_of_le]
  · trivial
  · rw [getBalance_of_ledger hu]
    exact hfee.trans (hgrows.1 tx.sender)

lemma traceless_aiInferenceResult_iff (hM : M.Refusals) (hs : s.InRange)
    (hfee : tx.fee ≤ s.getBalance tx.sender) (res : AiInferenceResult T) :
    Traceless s (applyAiInferenceResult M tx res) ↔ ¬ LateResult M s tx res := by
  unfold applyAiInferenceResult LateResult
  rw [traceless_read_iff, traceless_guard_iff, Bool.not_eq_false, not_and]
  refine imp_congr_right fun _ => ?_
  unfold Traceless
  rw [wp_bind, wp_submitResult]
  have hcovered : ∀ r, wp (chargeFee tx "balance underflow") (fun _ _ => True)
      (fun _ t => Same s t) { s with aiRegistry := r } :=
    fun r => (wp_debit_of_le (by exact hfee)).mpr trivial
  have hrefused : ∀ e r, (M.submitResult (stampedResult s tx res) s.currentBlockHeight).run
      s.aiRegistry = (.error e, r) → M.isEquivocationError e = false →
      Same s { s with aiRegistry := r } := by
    intro e r hrun hother
    rcases (wp_iff.mp (hM.submitResult _ _ s.aiRegistry)).2 e r hrun with h | h
    · rw [hother] at h
      cases h
    · exact same_aiRegistry_iff.mpr h
  constructor
  · rintro ⟨hok, -⟩ ⟨finalized, r, req, hrun, hreq, hover, hseen⟩
    have hrest := hok (some finalized) r hrun
    have hfails := (fails_payVerifiers_iff finalized.agreeingVerifiers 0
      ({ s with aiRegistry := r } : AccountState T)).mpr hover
    rw [wp_bind, settleOutcome, wp_bind, wp_read] at hrest
    simp only [id_eq, hreq] at hrest
    rw [wp_bind, wp_congr_of_fails hfails] at hrest
    exact (wp_payVerifiers_late_iff hs hover).mp hrest hseen
  · intro hlate
    refine ⟨fun outcome r hrun => ?_, fun e r hrun => ⟨fun _ => ?_, hrefused e r hrun⟩⟩
    · rw [wp_bind, settleOutcome, wp_bind, wp_read]
      cases outcome with
      | none => exact hcovered r
      | some finalized =>
        cases hreq : M.getRequest r finalized.requestId with
        | none =>
          simp only [id_eq, hreq]
          exact hcovered r
        | some req =>
          simp only [id_eq, hreq]
          by_cases hover : RewardOverflow req.maxFee finalized.agreeingVerifiers.length
              s.getBalance 0 finalized.agreeingVerifiers
          · have hfails := (fails_payVerifiers_iff finalized.agreeingVerifiers 0
              ({ s with aiRegistry := r } : AccountState T)).mpr hover
            rw [wp_bind, wp_congr_of_fails hfails]
            refine (wp_payVerifiers_late_iff hs hover).mpr fun hseen => ?_
            exact hlate ⟨finalized, r, req, hrun, hreq, hover, hseen⟩
          · exact settles_rewards hfee hover
    · exact hcovered r

end

/-! ## Relays -/

section

variable (M) (s : AccountState T) (tx : Transaction T)

/-- The receipt is anchored in a finalized external root. -/
def ReceiptAccepted (res : RelayerExternalResult) : Prop :=
  res.receiptProof ≠ [] ∧ res.externalStateRoot ≠ List.replicate 32 0 ∧
    s.externalRoots.get? res.domainId = some res.externalStateRoot ∧
    ∃ proof, M.decodeMerkleProof res.receiptProof = .ok proof ∧ proof.leaf = M.resultLeaf res ∧
      verifyMerkleProof M proof res.externalStateRoot = true

/-- The two credits of a settled transfer, to `a` and then to the relayer, do not
both fit. -/
def CreditsOverflow (a : Address) (net fee relayed : ℕ) : Prop :=
  u64Max < s.getBalance a + net ∨
    (0 < fee ∧ u64Max < s.getBalance tx.sender + (if tx.sender = a then net else 0) + relayed)

/-- A mint is recorded and its payout is refused. -/
def LateMint (msg : CrossDomainMessage) : Prop :=
  ∃ transfer b, s.bridgeState.getTransfer msg.messageId = some transfer ∧
    (mint M.hashFields msg).run s.bridgeState = (.ok (), b) ∧
    ∀ net fee, splitFee M s transfer.amount = .ok (net, fee) →
      u64Max < net ∨ u64Max < fee ∨ CreditsOverflow s tx transfer.recipient net fee fee

/-- An unlock is recorded and its payout is refused. -/
def LateUnlock (msg : CrossDomainMessage) : Prop :=
  ∃ transferId transfer b, msg.correlationId = some transferId ∧
    s.bridgeState.getTransfer transferId = some transfer ∧
    (unlock transferId msg.sourceDomain).run s.bridgeState = (.ok (), b) ∧
    ∀ net fee, splitFee M s transfer.amount = .ok (net, fee) →
      u64Max < net ∨ CreditsOverflow s tx transfer.owner net fee (fee % (u64Max + 1))

/-- The bridge has moved on and the relayed transfer is not paid. -/
def LateRelay (res : RelayerExternalResult) : Prop :=
  ReceiptAccepted M s res ∧ res.success = true ∧ ∃ msg, res.message = some msg ∧
    ((msg.kind = .bridgeLock ∧ LateMint M s tx msg) ∨
      (msg.kind = .bridgeBurn ∧ LateUnlock M s tx msg))

variable {M s tx} {Q : Unit → AccountState T → Prop}

lemma wp_checkReceipt {res : RelayerExternalResult}
    {E : BudlumError → AccountState T → Prop} (hE : ∀ e, E e s) :
    wp (checkReceipt M res) Q E s ↔ (ReceiptAccepted M s res → Q () s) := by
  unfold checkReceipt ReceiptAccepted
  simp only [wp_steps, hE, not_not, ne_eq, and_imp, forall_exists_index, Bool.not_eq_false]

lemma not_same_of_bridge {t : AccountState T} {b : BridgeState} (hb : b ≠ s.bridgeState)
    (ht : t.bridgeState = b) : ¬ Same s t := by
  intro hsame
  exact hb (ht.symm.trans (hsame.of_rest bridgeState fun _ _ => rfl))

lemma wp_creditBridge_late {t : AccountState T} {b : BridgeState} (hb : b ≠ s.bridgeState)
    (ht : t.bridgeState = b) {a : Address} {amount : ℕ} {code : String} :
    wp (creditBridge a amount code) Q (fun _ u => Same s u) t ↔
      t.getBalance a + amount ≤ u64Max ∧ Q () (t.setAccount a (credited (t.account a) amount)) := by
  rw [creditBridge, wp_mapError, wp_tryAddBalance]
  have hunseen : ¬ Same s (t.touch a) := not_same_of_bridge hb ht
  simp only [hunseen, imp_false, not_lt]
  constructor
  · rintro ⟨hok, hfits⟩
    exact ⟨hfits, hok hfits⟩
  · rintro ⟨hfits, hok⟩
    exact ⟨fun _ => hok, hfits⟩

lemma wp_payout_late {b : BridgeState} (hb : b ≠ s.bridgeState)
    (hfee : tx.fee ≤ s.getBalance tx.sender) {a : Address} {net fee relayed : ℕ}
    {code code' message : String} :
    wp (creditBridge a net code >>= fun _ =>
        if fee > 0 then creditBridge tx.sender relayed code' else pure ())
        (fun _ => wp (chargeFee tx message) (fun _ _ => True) (fun _ t => Same s t))
        (fun _ t => Same s t) { s with bridgeState := b } ↔
      ¬ CreditsOverflow s tx a net fee relayed := by
  have hbal : ∀ c, ({ s with bridgeState := b } : AccountState T).getBalance c = s.getBalance c :=
    fun _ => rfl
  -- what the sender holds once the first credit is paid
  have hsender : (({ s with bridgeState := b } : AccountState T).setAccount a
      (credited (s.account a) net)).getBalance tx.sender =
        s.getBalance tx.sender + if tx.sender = a then net else 0 := by
    rw [getBalance_setAccount]
    split_ifs with heq
    · rw [heq]
      rfl
    · rfl
  unfold CreditsOverflow
  rw [wp_bind, wp_creditBridge_late hb rfl, hbal, not_or, not_lt]
  refine and_congr_right fun _ => ?_
  change wp _ _ _ (({ s with bridgeState := b } : AccountState T).setAccount a
    (credited (s.account a) net)) ↔ _
  by_cases hpos : fee > 0
  · rw [if_pos hpos, wp_creditBridge_late hb (by rfl), hsender, not_and, not_lt,
      forall_prop_of_true hpos]
    refine and_iff_left ?_
    rw [chargeFee, wp_debit_of_le]
    · trivial
    · rw [getBalance_setAccount, if_pos rfl]
      change _ ≤ getBalance _ tx.sender + relayed
      rw [hsender]
      omega
  · rw [if_neg hpos]
    refine iff_of_true ?_ fun h => hpos h.1
    rw [wp_pure, chargeFee, wp_debit_of_le]
    · trivial
    · rw [hsender]
      omega

lemma same_of_refused {x : Exec BridgeState String Unit} (hx : Atomic x) (e : String)
    (b : BridgeState) (hrun : x.run s.bridgeState = (.error e, b)) :
    Same s { s with bridgeState := b } := by
  rw [hx.error hrun]
  exact Same.refl s

lemma forall_split_iff {ε : Type} {split : ℕ × ℕ} {p : ℕ → ℕ → Prop} :
    (∀ net fee, (.ok split : Except ε (ℕ × ℕ)) = .ok (net, fee) → p net fee) ↔ p split.1 split.2 := by
  obtain ⟨net, fee⟩ := split
  simp

section

variable (hfee : tx.fee ≤ s.getBalance tx.sender)
include hfee

lemma wp_relayMint_iff {msg : CrossDomainMessage} {message : String} : wp (relayMint M tx msg)
        (fun _ => wp (chargeFee tx message) (fun _ _ => True) (fun _ t => Same s t))
        (fun _ t => Same s t) s ↔ ¬ LateMint M s tx msg := by
  unfold relayMint
  rw [wp_bind, onBridge, wp_zoom]
  rw [and_iff_left (same_of_refused (atomic_mint msg))]
  rcases hmint : (mint M.hashFields msg).run s.bridgeState with ⟨e | ⟨⟩, b⟩
  · exact iff_of_true (fun _ _ hok => by cases hok) (by simp [LateMint, hmint])
  · obtain ⟨transfer, hstatus, hmoved⟩ := (moved_mint msg).of_run hmint
    have hb := hmoved.ne (by simp [hstatus])
    have hget := hmoved.before
    have hminted := hmoved.after
    have hlate : LateMint M s tx msg ↔ ∀ net fee, splitFee M s transfer.amount = .ok (net, fee) →
        u64Max < net ∨ u64Max < fee ∨ CreditsOverflow s tx transfer.recipient net fee fee := by
      simp [LateMint, hget, hmint]
    rw [hlate]
    have hseen : ¬ Same s { s with bridgeState := b } := not_same_of_bridge hb rfl
    have hsplit : splitFee M { s with bridgeState := b } transfer.amount =
      splitFee M s transfer.amount := rfl
    simp only [Prod.mk.injEq, true_and, forall_eq', wp_rules, id_eq, hminted, ofOption, hsplit,
      hseen, imp_false, not_lt, forall_const]
    cases hshares : splitFee M s transfer.amount with
    | error e => simp
    | ok split =>
      have hpay := @wp_payout_late T s tx b hb hfee transfer.recipient split.1 split.2 split.2
        "bridge_mint_overflow" "bridge_fee_overflow" message
      rw [wp_bind] at hpay
      rw [forall_split_iff, not_or, not_or, not_lt, not_lt]
      simp only [Except.ok.injEq, forall_eq', reduceCtorEq, not_false_eq_true, implies_true,
        and_true, creditRelayer, hpay]
      exact and_congr_right fun hnet => by
        rw [imp_iff_right hnet]
        exact and_congr_right fun hfees => imp_iff_right hfees

lemma wp_relayUnlock_iff {msg : CrossDomainMessage} {message : String} : wp (relayUnlock M tx msg)
        (fun _ => wp (chargeFee tx message) (fun _ _ => True) (fun _ t => Same s t))
        (fun _ t => Same s t) s ↔ ¬ LateUnlock M s tx msg := by
  unfold relayUnlock
  cases hid : msg.correlationId with
  | none => simp [LateUnlock, hid, ofOption, Same.refl]
  | some transferId =>
    cases hget : s.bridgeState.getTransfer transferId with
    | none => simp [LateUnlock, hid, ofOption, hget, Same.refl]
    | some transfer =>
      simp only [ofOption, wp_rules, hget, onBridge, wp_zoom]
      rw [and_iff_left (same_of_refused (atomic_unlock transferId msg.sourceDomain))]
      rcases hunlock : (unlock transferId msg.sourceDomain).run s.bridgeState with
        ⟨e | ⟨⟩, b⟩
      · exact iff_of_true (fun _ _ hok => by cases hok) (by simp [LateUnlock, hid, hunlock])
      · obtain ⟨moved, hstatus, hmoved⟩ :=
          (moved_unlock transferId msg.sourceDomain).of_run hunlock
        have hb := hmoved.ne (by simp [hstatus])
        have hlate : LateUnlock M s tx msg ↔
            ∀ net fee, splitFee M s transfer.amount = .ok (net, fee) → u64Max < net ∨
              CreditsOverflow s tx transfer.owner net fee (fee % (u64Max + 1)) := by
          simp [LateUnlock, hid, hget, hunlock]
        rw [hlate]
        have hseen : ¬ Same s { s with bridgeState := b } := not_same_of_bridge hb rfl
        have hsplit : splitFee M { s with bridgeState := b } transfer.amount =
          splitFee M s transfer.amount := rfl
        simp only [Prod.mk.injEq, true_and, forall_eq', id_eq, hsplit, hseen, imp_false,
          not_lt, forall_const]
        cases hshares : splitFee M s transfer.amount with
        | error e => simp
        | ok split =>
          have hpay := @wp_payout_late T s tx b hb hfee transfer.owner split.1 split.2
            (split.2 % (u64Max + 1)) "bridge_unlock_overflow" "bridge_unlock_fee_overflow"
            message
          rw [wp_bind] at hpay
          rw [forall_split_iff, not_or, not_lt]
          simp only [Except.ok.injEq, forall_eq', reduceCtorEq, not_false_eq_true,
            implies_true, and_true, hpay]
          exact and_congr_right fun hnet => imp_iff_right hnet

lemma traceless_relayerResult_iff (res : RelayerExternalResult) :
    Traceless s (applyRelayerResult M tx res) ↔ ¬ LateRelay M s tx res := by
  have hcovered : wp (chargeFee tx "balance underflow") (fun _ _ => True)
    (fun _ t => Same s t) s := (wp_debit_of_le hfee).mpr trivial
  unfold Traceless applyRelayerResult LateRelay
  rw [wp_bind, wp_checkReceipt fun _ => Same.refl s, not_and]
  refine imp_congr_right fun _ => ?_
  rw [wp_bind]
  unfold settleMessage
  cases hmsg : res.message with
  | none => exact iff_of_true hcovered fun h => by simp at h
  | some msg =>
    by_cases hsuccess : res.success = true
    · simp only [hsuccess, if_true, true_and, Option.some.injEq, exists_eq_left']
      cases hkind : msg.kind with
      | bridgeLock =>
        simp only [true_and, reduceCtorEq, false_and, or_false]
        exact wp_relayMint_iff hfee
      | bridgeBurn =>
        simp only [true_and, reduceCtorEq, false_and, false_or]
        exact wp_relayUnlock_iff hfee
      | _ => exact iff_of_true hcovered fun h => by simp at h
    · refine iff_of_true ?_ fun h => hsuccess h.1
      simp only [if_neg hsuccess]
      exact hcovered

end

end

end Budlum.Executor
