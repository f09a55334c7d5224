import Budlum.Chain.Blockchain
import Budlum.Execution.ErrorAtomicity
import Budlum.Execution.Spending
import Budlum.Execution.Validation

/-!
# The vesting lock

A validated transaction takes from its sender at most what is spendable, so the
locked part of a balance stays. Three paths ask for the whole balance instead: a
boost of an NFT, the escrow of a contract call beside its fee, and a bridge lock.
For these the exact balance after the step is worked out.
-/

namespace Budlum.Executor

open Machine AccountState Exec Nat

variable {T : ModuleTypes} {M : Modules T} {α β ε : Type}

/-! ## Exact debits -/

/-- From `s` to `t` the account `a` lost exactly `n`, and no other balance changed. -/
def Took (a : Address) (n : ℕ) (s t : AccountState T) : Prop :=
  ∀ b, t.getBalance b + (if b = a then n else 0) = s.getBalance b

variable {a : Address} {m n : ℕ} {s t u : AccountState T}

lemma Took.of_ledger (h : t.ledger = s.ledger) : Took a 0 s t := by
  intro b
  rw [getBalance_of_ledger h, ite_self, add_zero]

lemma Took.trans (h₁ : Took a m s t) (h₂ : Took a n t u) : Took a (m + n) s u := by
  intro b
  have hb₁ := h₁ b
  have hb₂ := h₂ b
  split_ifs at * <;> omega

lemma took_setAccount {acc : Account} (h : acc.balance + n = s.getBalance a) :
    Took a n s (s.setAccount a acc) := by
  intro b
  rw [getBalance_setAccount]
  split_ifs with hb
  · rw [hb, h]
  · rfl

/-! ## The escrow of a contract call -/

section

variable (M s) (tx : Transaction T)

/-- What the events of a contract call escrow: the maximum fee of the request they
open with, if the registry takes the request. -/
def escrowOf (events : List ℕ) : ℕ :=
  match events with
  | tag :: modelWord :: maxFee :: blocks :: _ =>
    let req := contractRequest M tx s modelWord maxFee blocks
    let submitted := (M.submitRequest req s.currentBlockHeight).run s.aiRegistry
    if tag = 0x00A100A1 ∧ submitted.1.isOk = true then maxFee else 0
  | _ => 0

def contractEscrow : ℕ :=
  match M.executeBytecode tx.data with
  | .ok events => escrowOf M s tx events
  | .error _ => 0

variable {M s tx}

lemma took_takeEscrow {grant : Option Id32} {maxFee block : ℕ} :
    Ensures (Took tx.sender maxFee) (takeEscrow tx grant maxFee block : Effect T Unit) := by
  have hgrant : Ensures (Took tx.sender 0) (consumeGrant tx grant block : Effect T Unit) := by
    cases grant with
    | some grantId => exact Ensures.zoom fun _ _ => Took.of_ledger rfl
    | none => exact Ensures.of_readOnly .pure fun _ => Took.of_ledger rfl
  refine Ensures.bind hgrant (fun _ t => ?_) fun _ _ _ h₁ h₂ => zero_add maxFee ▸ h₁.trans h₂
  simp only [wp_bind, wp_accounts, wp_ofOption, checkedSub_eq_some, implies_true,
    and_true]
  rintro _ ⟨hle, rfl⟩
  exact took_setAccount (Nat.sub_add_cancel hle)

lemma wp_escrowRequest {modelWord maxFee blocks : ℕ} :
    wp (escrowRequest M tx modelWord maxFee blocks)
      (fun _ t => Took tx.sender
        (if ((M.submitRequest (contractRequest M tx s modelWord maxFee blocks)
          s.currentBlockHeight).run s.aiRegistry).1.isOk = true then maxFee else 0) s t)
      (fun _ _ => True) s := by
  unfold escrowRequest admitRequest onMarketplace onAi
  simp only [wp_steps, wp_zoom, wp_attempt, id]
  intro _ _ grant r _ _
  constructor
  · rintro ⟨⟩ registry hrun
    rw [hrun]
    exact took_takeEscrow _
  · intro e registry hrun
    rw [hrun]
    exact Took.of_ledger rfl

lemma wp_handleEvents (events : List ℕ) :
    wp (handleEvents M tx events) (fun _ t => Took tx.sender (escrowOf M s tx events) s t)
      (fun _ _ => True) s := by
  unfold handleEvents escrowOf
  -- fewer than four words open no request
  rcases events with _ | ⟨tag, _ | ⟨modelWord, _ | ⟨maxFee, _ | ⟨blocks, rest⟩⟩⟩⟩
  iterate 4 exact Took.of_ledger rfl
  by_cases htag : tag = 0x00A100A1
  · simp only [htag, if_true, true_and]
    exact wp_escrowRequest
  · simp only [htag, if_false, false_and]
    exact Took.of_ledger rfl

lemma took_contractCall : wp (applyContractCall M tx)
      (fun _ t => Took tx.sender (contractEscrow M s tx + tx.fee) s t) (fun _ _ => True) s := by
  unfold applyContractCall contractEscrow
  rw [wp_bind, wp_ofExcept]
  refine ⟨fun events hevents => ?_, fun _ _ => trivial⟩
  rw [wp_bind, hevents]
  refine wp_imp (wp_handleEvents events) (fun _ t ht => ?_)
  rw [chargeFee, wp_debit]
  refine ⟨fun hfee => ht.trans (took_setAccount ?_), fun _ => trivial⟩
  exact Nat.sub_add_cancel hfee

end

/-! ## Boosts -/

section

variable {tx : Transaction T} {nftId amount : ℕ}

/-- A credit beside the sender. -/
def GrewBeside (a : Address) (s t : AccountState T) : Prop :=
  t.getBalance a = s.getBalance a ∧ ∀ b, s.getBalance b ≤ t.getBalance b

lemma grewBeside_creditTreasury (hreserve : s.burnReserveAddress ≠ some a) :
    wp (creditTreasury amount) (fun _ t => GrewBeside a s t) (fun _ _ => True) s := by
  unfold creditTreasury
  rw [wp_bind, wp_read]
  cases hres : s.burnReserveAddress with
  | none => exact ⟨rfl, fun _ => le_rfl⟩
  | some treasury =>
    have hne : a ≠ treasury := fun h => hreserve (by rw [hres, h])
    dsimp only
    rw [wp_ite]
    refine ⟨fun _ => ?_, fun _ => ⟨rfl, fun _ => le_rfl⟩⟩
    rw [wp_credit]
    refine ⟨fun _ => ⟨?_, fun b => ?_⟩, fun _ => trivial⟩
    · rw [getBalance_setAccount, if_neg hne]
    · rw [getBalance_setAccount]
      split_ifs with hb
      · exact hb ▸ le_add_right _ _
      · exact le_rfl

lemma wp_nftBoost (hreserve : s.burnReserveAddress ≠ some tx.sender) :
    wp (applyNftBoost tx nftId amount)
      (fun _ t => ∃ nft, s.nftRegistry.getNft nftId = some nft ∧
        amount + tx.fee ≤ s.getBalance tx.sender ∧
        t.getBalance tx.sender = (boostCredited s tx nft.owner amount).getBalance tx.sender ∧
        ∀ b, b ≠ tx.sender → s.getBalance b ≤ t.getBalance b) (fun _ _ => True) s := by
  unfold applyNftBoost payBoostShares
  simp only [wp_steps, wp_accounts, checkedAdd_eq_some, not_lt]
  rintro - nft hnft _ ⟨-, rfl⟩ hcost
  rw [wp_credit]
  refine ⟨fun _ => ?_, fun _ => trivial⟩
  change wp _ _ _ (boostCredited s tx nft.owner amount)
  simp only [wp_steps]
  intro pending _
  refine wp_imp (grewBeside_creditTreasury (a := tx.sender) (by exact hreserve)) ?_
  rintro - t ⟨hsender, hgrew⟩
  refine ⟨nft, hnft, hcost, hsender, fun b hb => ?_⟩
  have hcredited : s.getBalance b ≤ (boostCredited s tx nft.owner amount).getBalance b := by
    rw [getBalance_boostCredited, getBalance_boostDebited, if_neg hb]
    exact le_add_right _ _
  exact hcredited.trans (hgrew b)

end

end Budlum.Executor

namespace Budlum.Blockchain

open Machine AccountState Executor

variable {T : ModuleTypes} {M : Modules T} {α : Type}

/-! ## Bridge locks -/

abbrev Silent (x : Method T α) : Prop :=
  Exec.Ensures (fun c c' => c'.state.ledger = c.state.ledger) x

variable {x : Method T α}

lemma Silent.of_readOnly (hx : Exec.ReadOnly x) : Silent x :=
  Exec.Ensures.of_readOnly hx fun _ => rfl

lemma Silent.bind {β : Type} {f : α → Method T β} (hx : Silent x)
    (hf : ∀ a, Silent (f a)) : Silent (x >>= f) :=
  Exec.Ensures.bind hx hf fun _ _ _ h₁ h₂ => h₂.trans h₁

lemma silent_onState {ε : Type} {text : ε → String} {x : Exec (AccountState T) ε α}
    (hx : Exec.Ensures (fun s s' => s'.ledger = s.ledger) x) : Silent (onState text x) := by
  intro c
  rw [onState, Exec.wp_zoom]
  exact ⟨fun a s' hrun => hx.of_run hrun, fun _ _ _ => trivial⟩

lemma silent_onBridgeState {x : Exec BridgeState String α} :
    Silent (onBridgeState x : Method T α) :=
  silent_onState (Exec.Ensures.zoom fun _ _ => rfl)

lemma silent_submitCrossDomainMessage (message : CrossDomainMessage) :
    Silent (submitCrossDomainMessage M message) := by
  refine Silent.bind (.of_readOnly .failIf) fun _ => ?_
  refine Silent.bind (.of_readOnly .failIf) fun _ => ?_
  refine Silent.bind (.of_readOnly .read) fun _ => ?_
  refine Silent.bind (.of_readOnly .failIf) fun _ => ?_
  refine Silent.bind (silent_onState ?_) fun _ => .of_readOnly (readOnly_persist _ _)
  intro s
  simp [insertMessage]

lemma silent_emitEvent (event : DomainEvent) : Silent (emitEvent M event) := by
  unfold emitEvent
  split
  · exact Silent.bind (silent_submitCrossDomainMessage _) fun _ _ => rfl
  · exact .of_readOnly .pure

/-- The account `owner` lost exactly `amount` to a success of `x`. -/
abbrev Takes (owner : Address) (amount : ℕ) (x : Method T α) : Prop :=
  Exec.Ensures (fun c c' => Took owner amount c.state c'.state) x

section

variable {β : Type} {owner : Address} {amount : ℕ}

variable {f : α → Method T β}

lemma Takes.after (hx : Silent x)
    (hf : ∀ a, Takes owner amount (f a)) : Takes owner amount (x >>= f) :=
  Exec.Ensures.bind hx hf fun _ _ _ h₁ h₂ =>
    zero_add amount ▸ (Took.of_ledger h₁).trans h₂

lemma Takes.before (hx : Takes owner amount x)
    (hf : ∀ a, Silent (f a)) : Takes owner amount (x >>= f) :=
  Exec.Ensures.bind hx hf fun _ _ _ h₁ h₂ => h₁.trans (Took.of_ledger h₂)

lemma takes_debitOwner : Takes owner amount (debitOwner owner amount : Method T Unit) := by
  intro c
  simp only [debitOwner, onState, Exec.wp_steps, Exec.wp_zoom_run, wp_accounts, Nat.not_lt]
  exact fun hle => took_setAccount (Nat.sub_add_cancel hle)

/-- A lock takes the amount from its owner, whatever part of the balance is vested. -/
lemma takes_lockBridgeTransfer (req : LockRequest) :
    Takes req.owner req.amount (lockBridgeTransfer M req) := by
  refine .after (.of_readOnly (readOnly_requireBridgeDomain _)) fun _ => ?_
  refine .after (.of_readOnly (readOnly_requireBridgeDomain _)) fun _ => ?_
  refine .after (.of_readOnly .failIf) fun _ => ?_
  refine .after (.of_readOnly .failIf) fun _ => ?_
  refine .after (.of_readOnly .failIf) fun _ => ?_
  refine .after silent_onBridgeState fun result => .after (.of_readOnly .failIf) fun _ => ?_
  refine .before takes_debitOwner fun _ => ?_
  refine Silent.bind (.of_readOnly readOnly_persistBridgeState) fun _ => ?_
  exact Silent.bind (silent_emitEvent _) fun _ => .of_readOnly .pure

end

/-! ## The lock and its exceptions -/

/-- What may spend from an account: a transaction, or a bridge lock. -/
inductive Spending (T : ModuleTypes)
  | transaction (tx : Transaction T)
  | bridgeLock (req : LockRequest)

/-- The spending goes through, from `c` to `c'`: a transaction is validated and
applied, a lock is made. -/
def Succeeds (M : Modules T) (c : Blockchain T) (spending : Spending T) (c' : Blockchain T) : Prop :=
  match spending with
  | .transaction tx => c.state.validateTransaction M tx = .ok () ∧
      ∃ state, (applyTransactionChecked M tx).run c.state = (.ok (), state) ∧ c' = { c with state }
  | .bridgeLock req => ∃ result, (lockBridgeTransfer M req).run c = (.ok result, c')

/-- The part of a boost that comes back to the booster, as the token's owner. -/
def boostReturn (s : AccountState T) (tx : Transaction T) (nftId amount : ℕ) : ℕ :=
  match s.nftRegistry.getNft nftId with
  | some nft => if nft.owner = tx.sender then creatorShare amount else 0
  | none => 0

/-- The spending takes from `team` more than the balance holds above `locked`. -/
def Overdraws (M : Modules T) (s : AccountState T) (team : Address) (locked : ℕ) :
    Spending T → Prop
  | .transaction tx => tx.sender = team ∧ tx.sender ≠ .zero ∧
      match tx.txType with
      | .nftBoost nftId amount =>
        s.getBalance team + boostReturn s tx nftId amount < locked + amount + tx.fee
      | .contractCall => s.getBalance team < locked + contractEscrow M s tx + tx.fee
      | _ => False
  | .bridgeLock req => req.owner = team ∧ s.getBalance team < locked + req.amount

section

variable {s s' : AccountState T} {team : Address} {locked : ℕ} {tx : Transaction T}

lemma locked_le_of_spent {n : ℕ} {sender : Address} (hspend : n ≤ s.spendableBalance sender)
    (hspent : Spent sender n s s') (hlocked : sender = team → s.spendableBalance team ≤
      s.getBalance team - locked) (hbefore : locked ≤ s.getBalance team) :
    locked ≤ s'.getBalance team := by
  have hteam := hspent team
  split_ifs at hteam with heq
  · subst heq
    have hle := hlocked rfl
    omega
  · exact hbefore.trans hteam

lemma locked_contractCall_iff (htype : tx.txType = .contractCall)
    (hzero : tx.sender ≠ .zero) (hbefore : locked ≤ s.getBalance team)
    (htook : Took tx.sender (contractEscrow M s tx + tx.fee) s s') :
    locked ≤ s'.getBalance team ↔ ¬ Overdraws M s team locked (.transaction tx) := by
  have hteam := htook team
  simp only [Overdraws, htype, ne_eq, hzero, not_false_eq_true, true_and, not_and, not_lt]
  split_ifs at hteam with heq
  · subst heq
    simp only [forall_const]
    omega
  · simp only [Ne.symm heq, false_implies, iff_true]
    omega

lemma locked_nftBoost_iff {nftId amount : ℕ} {nft : Nft} (htype : tx.txType = .nftBoost nftId amount)
    (hzero : tx.sender ≠ .zero) (hbefore : locked ≤ s.getBalance team)
    (hnft : s.nftRegistry.getNft nftId = some nft)
    (hcost : amount + tx.fee ≤ s.getBalance tx.sender) (hsender : s'.getBalance tx.sender =
      (boostCredited s tx nft.owner amount).getBalance tx.sender)
    (hother : ∀ b, b ≠ tx.sender → s.getBalance b ≤ s'.getBalance b) :
    locked ≤ s'.getBalance team ↔ ¬ Overdraws M s team locked (.transaction tx) := by
  simp only [Overdraws, htype, ne_eq, hzero, not_false_eq_true, true_and, not_and, not_lt,
    boostReturn, hnft]
  by_cases heq : tx.sender = team
  · subst heq
    rw [getBalance_boostCredited, getBalance_boostDebited, if_pos rfl] at hsender
    simp only [forall_const, @eq_comm _ nft.owner]
    split_ifs at * <;> omega
  · have hle := hother team (Ne.symm heq)
    simp only [heq, false_implies, iff_true]
    omega

lemma overdraws_touch {a : Address} {spending : Spending T} :
    Overdraws M (s.touch a) team locked spending ↔ Overdraws M s team locked spending := by
  cases spending with
  | transaction tx =>
    unfold Overdraws
    simp only [getBalance_touch]
    rfl
  | bridgeLock req => simp only [Overdraws, getBalance_touch]

lemma debitsLate_of_overdraws (h : Overdraws M s team locked (.transaction tx)) :
    DebitsLate tx := by
  obtain ⟨-, -, h⟩ := h
  unfold DebitsLate
  cases htype : tx.txType <;> simp_all

lemma locked_transaction_iff {schedule : VestingSchedule}
    (hteam : s.teamVesting = some (team, schedule))
    (hbefore : schedule.lockedAt s.epochIndex ≤ s.getBalance team)
    (hvalid : s.validateTransaction M tx = .ok ())
    (hrun : (applyTransactionChecked M tx).run s = (.ok (), s')) :
    schedule.lockedAt s.epochIndex ≤ s'.getBalance team ↔
      ¬ Overdraws M s team (schedule.lockedAt s.epochIndex) (.transaction tx) := by
  refine (Exec.wp_iff.mp (wp_applyTransactionChecked (Q := fun _ s' =>
    schedule.lockedAt s.epochIndex ≤ s'.getBalance team ↔
      ¬ Overdraws M s team (schedule.lockedAt s.epochIndex) (.transaction tx)) ?_ ?_)).1 _ _ hrun
  · -- the zero address moves nothing
    intro hzero
    exact iff_of_true hbefore fun h => h.2.1 hzero
  intro hzero
  obtain ⟨hreserve, -, -, hcost, -⟩ := validateTransaction_ok hzero hvalid
  have hbefore' : schedule.lockedAt s.epochIndex ≤ (s.touch tx.sender).getBalance team := by
    rwa [getBalance_touch]
  by_cases hlate : DebitsLate tx
  · rw [← overdraws_touch (a := tx.sender)]
    unfold applyArm
    unfold DebitsLate at hlate
    split at hlate
    · next nftId amount htype =>
      rw [htype]
      refine Exec.wp_imp (wp_nftBoost (by exact hreserve)) ?_
      rintro - t ⟨nft, hnft, hafford, hsender, hother⟩
      exact locked_nftBoost_iff htype hzero hbefore' hnft hafford hsender hother
    · next htype =>
      rw [htype]
      refine Exec.wp_imp took_contractCall ?_
      exact fun _ t htook => locked_contractCall_iff htype hzero hbefore' htook
    · exact hlate.elim
  · have hspendable : tx.amount + tx.fee ≤ (s.touch tx.sender).spendableBalance tx.sender := by
      rwa [spendableBalance_touch]
    refine Exec.wp_imp (covered_applyArm hlate hspendable) ?_
    rintro - t ⟨n, hn, hspent⟩
    refine iff_of_true (locked_le_of_spent hn hspent (fun heq => ?_) hbefore') fun h => ?_
    · rw [← heq, spendableBalance_touch, getBalance_touch, spendableBalance, if_neg hreserve,
        lockedBalance, hteam, heq]
      simp
    · exact hlate (debitsLate_of_overdraws h)

end

/-- A spending that goes through leaves the team's balance at or above the locked
amount exactly when it does not overdraw. -/
theorem vesting_lock_kept_iff {c c' : Blockchain T} {spending : Spending T} {team : Address}
    {schedule : VestingSchedule} (hteam : c.state.teamVesting = some (team, schedule))
    (hbefore : schedule.lockedAt c.state.epochIndex ≤ c.state.getBalance team)
    (hsucceeds : Succeeds M c spending c') :
    schedule.lockedAt c.state.epochIndex ≤ c'.state.getBalance team ↔
      ¬ Overdraws M c.state team (schedule.lockedAt c.state.epochIndex) spending := by
  cases spending with
  | transaction tx =>
    obtain ⟨hvalid, state, hrun, rfl⟩ := hsucceeds
    exact locked_transaction_iff hteam hbefore hvalid hrun
  | bridgeLock req =>
    obtain ⟨result, hrun⟩ := hsucceeds
    have htook := (takes_lockBridgeTransfer req).of_run hrun team
    simp only [Overdraws, not_and, not_lt]
    split_ifs at htook with heq
    · subst heq
      simp only [forall_const]
      omega
    · simp only [Ne.symm heq, false_implies, iff_true]
      omega

/-- A team account with a hundred units locked and ten more, and a token of another
account. -/
def teamChain : Blockchain .point where
  chain := []
  storage := none
  state :=
    { point.setAccount ⟨1⟩ (Account.withBalance ⟨1⟩ 110) with
      teamVesting := some (⟨1⟩, ⟨100, 0, 10, 20⟩)
      nftRegistry := { NftRegistry.new with
        nfts := (∅ : SortedMap ℕ Nft).insert 0 ⟨0, ⟨2⟩, [], 0, none, 0, []⟩ } }
  domainRegistry := ∅
  domainCommitmentRegistry := ∅
  universalRelayer := UniversalRelayer.new

/-- A transaction of the team account that carries nothing but its type. -/
def teamTransaction (txType : TransactionType .point) :
    Transaction .point :=
  { hash := "", sender := ⟨1⟩, recipient := .zero, amount := 0, fee := 1, maxFee := 1
    priorityFee := 0, nonce := 0, data := [], chainId := 1, txType }

/-- The team account pays a fee out of its unlocked part. -/
theorem vesting_lock_kept_iff_team_fee :
    100 ≤ (((applyTransactionChecked .refusing (teamTransaction .nftTag)).run
        teamChain.state).2).getBalance ⟨1⟩ ↔
      ¬ Overdraws .refusing teamChain.state ⟨1⟩ 100 (.transaction (teamTransaction .nftTag)) :=
  @vesting_lock_kept_iff _ .refusing teamChain
    { teamChain with state := ((applyTransactionChecked .refusing
      (teamTransaction .nftTag)).run teamChain.state).2 }
    (.transaction (teamTransaction .nftTag)) ⟨1⟩ ⟨100, 0, 10, 20⟩ rfl (by decide +kernel)
    ⟨by decide +kernel, _, rfl, rfl⟩

/-- The team account boosts a token with fifty locked units. -/
theorem boost_spends_locked_balance :
    ∃ c', Succeeds .refusing teamChain (.transaction (teamTransaction (.nftBoost 0 50))) c' ∧
      teamChain.state.teamVesting = some (⟨1⟩, ⟨100, 0, 10, 20⟩) ∧
      VestingSchedule.lockedAt ⟨100, 0, 10, 20⟩ teamChain.state.epochIndex = 100 ∧
      teamChain.state.getBalance ⟨1⟩ = 110 ∧ c'.state.getBalance ⟨1⟩ = 59 :=
  ⟨_, ⟨by decide +kernel, _, rfl, rfl⟩, rfl, by decide +kernel, by decide +kernel,
    by decide +kernel⟩

end Budlum.Blockchain
