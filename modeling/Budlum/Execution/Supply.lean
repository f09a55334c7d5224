import Budlum.Execution.ErrorAtomicity

/-!
# The supply over a block

Value sits in balances, in validator stake, in the unbonding queue and in the role
bonds of the registry. The transactions that only move value between these take
their fee out of the sum, and the producer puts it back less the metabolic burn.
-/

namespace Budlum

open Machine Exec List

namespace AccountState

variable {T : ModuleTypes} {M : Modules T}

/-- The sum that `total_bud_committed` clamps to a `u128`. -/
def committed (M : Modules T) (s : AccountState T) : ℕ :=
  s.circulatingSupply + s.totalStakedSupply + s.totalUnbondingSupply +
    M.totalBondedStakeExcluding s.registry .validator

lemma totalBudCommitted_of_le {s : AccountState T} (h : s.committed M ≤ u128Max) :
    s.totalBudCommitted M = s.committed M := by
  unfold committed at h
  have hliquid : satAdd u128Max s.circulatingSupply s.totalStakedSupply =
      s.circulatingSupply + s.totalStakedSupply := satAdd_of_le (by omega)
  have hqueued : satAdd u128Max (s.circulatingSupply + s.totalStakedSupply)
      s.totalUnbondingSupply = s.circulatingSupply + s.totalStakedSupply +
        s.totalUnbondingSupply := satAdd_of_le (by omega)
  rw [totalBudCommitted, hliquid, hqueued, satAdd_of_le h, committed]

/-- The validator stake that the registry mirrors is not among the role bonds: writing
it moves no other bond. -/
def MirrorExcluded (M : Modules T) : Prop :=
  ∀ registry a stake epoch,
    M.totalBondedStakeExcluding (M.upsertStake registry a .validator stake epoch) .validator =
      M.totalBondedStakeExcluding registry .validator

/-- From `s` to `s'` the sum lost `out` and gained `into`, under the same parameters. -/
structure Flows (M : Modules T) (out into : ℕ) (s s' : AccountState T) : Prop where
  committed : s'.committed M + out = s.committed M + into
  tokenomics : s'.tokenomics = s.tokenomics

variable {s s' s'' : AccountState T} {a : Address} {out into out' into' : ℕ}

lemma Flows.refl (s : AccountState T) : Flows M 0 0 s s := ⟨rfl, rfl⟩

lemma Flows.trans (h : Flows M out into s s') (h' : Flows M out' into' s' s'') :
    Flows M (out + out') (into + into') s s'' := by
  refine ⟨?_, h'.tokenomics.trans h.tokenomics⟩
  have hfirst := h.committed
  have hsecond := h'.committed
  omega

lemma Flows.shift (h : Flows M out into s s') (heq : out + into' = out' + into) :
    Flows M out' into' s s' := by
  refine ⟨?_, h.tokenomics⟩
  have hcommitted := h.committed
  omega

lemma flows_setAccount (acc : Account) :
    Flows M (s.getBalance a) acc.balance s (s.setAccount a acc) := by
  refine ⟨?_, rfl⟩
  have hsupply := s.circulatingSupply_setAccount a acc
  have hrest : (s.setAccount a acc).committed M = (s.setAccount a acc).circulatingSupply +
    s.totalStakedSupply + s.totalUnbondingSupply +
      M.totalBondedStakeExcluding s.registry .validator := rfl
  rw [hrest, committed]
  omega

lemma flows_setValidator (v : Validator) :
    Flows M (((s.getValidator a).map Validator.stake).getD 0) v.stake s
      { s with validators := s.validators.insert a v } := by
  refine ⟨?_, rfl⟩
  have hstake := s.validators.sumBy_insert Validator.stake a v
  simp only [committed, circulatingSupply, totalStakedSupply, totalUnbondingSupply, getValidator]
  omega

lemma flows_syncValidatorRegistration (hM : MirrorExcluded M) :
    Flows M 0 0 s (s.syncValidatorRegistration M a) := by
  refine ⟨?_, rfl⟩
  have hbonds := hM s.registry a (((s.validators.get? a).map Validator.stake).getD 0) s.epochIndex
  simp only [committed, syncValidatorRegistration, hbonds]
  rfl

lemma flows_queue {entry : UnbondingEntry} {amount : ℕ} (h : entry.amount = amount) :
    Flows M 0 amount s { s with unbondingQueue := s.unbondingQueue ++ [entry] } := by
  refine ⟨?_, rfl⟩
  simp only [← h, committed, circulatingSupply, totalStakedSupply, totalUnbondingSupply,
    map_append, map_cons, map_nil, sum_append, sum_cons, sum_nil]
  omega

lemma flows_touch : Flows M 0 0 s (s.touch a) := by
  refine ⟨?_, rfl⟩
  simp only [committed, circulatingSupply_touch]
  rfl

end AccountState

namespace Executor

open AccountState

variable {T : ModuleTypes} {M : Modules T} {tx : Transaction T}

/-! ## Transactions -/

lemma flows_bind {α β : Type} {x : Effect T α} {f : α → Effect T β}
    {out into out' into' out'' into'' : ℕ} (hx : Ensures (Flows M out into) x)
    (hf : ∀ a, Ensures (Flows M out' into') (f a))
    (heq : out + out' + into'' = out'' + (into + into')) :
    Ensures (Flows M out'' into'') (x >>= f) :=
  Ensures.bind hx hf fun _ _ _ h h' => (h.trans h').shift heq

lemma flows_step {α : Type} {x : Effect T α} {s t : AccountState T}
    {out into out' into' out'' into'' : ℕ} (h : Flows M out into s t)
    (hx : Ensures (Flows M out' into') x) (heq : out + out' + into'' = out'' + (into + into')) :
    wp x (fun _ u => Flows M out'' into'' s u) (fun _ _ => True) t :=
  wp_imp (hx t) (fun _ _ h' => (h.trans h').shift heq)

lemma flows_modify {f : AccountState T → AccountState T} {out into : ℕ}
    (hf : ∀ s, Flows M out into s (f s)) :
    Ensures (Flows M out into) (modify f : Effect T Unit) := hf

lemma flows_debit (a : Address) (amount : ℕ) (message : String) :
    Ensures (Flows M amount 0) (debit a amount message : Effect T Unit) := by
  intro s
  rw [wp_debit]
  refine ⟨fun hle => (flows_setAccount _).shift ?_, fun _ => trivial⟩
  change s.getBalance a + 0 = amount + (s.getBalance a - amount)
  omega

lemma flows_credit (a : Address) (amount : ℕ) (error : BudlumError) :
    Ensures (Flows M 0 amount) (credit a amount error : Effect T Unit) := by
  intro s
  rw [wp_credit]
  refine ⟨fun _ => (flows_setAccount _).shift ?_, fun _ => trivial⟩
  change s.getBalance a + amount = 0 + (s.getBalance a + amount)
  omega

lemma flows_applyTransfer : Ensures (Flows M tx.totalCost tx.amount) (applyTransfer tx) := by
  refine .check .read fun _ => .guard ?_
  exact flows_bind (flows_debit _ _ _) (fun _ => flows_credit _ _ _) (by omega)

lemma flows_bondStake (hM : MirrorExcluded M) (s : AccountState T) :
    wp (bondStake M tx (s.getValidator tx.sender)) (fun _ s' => Flows M 0 tx.amount s s')
      (fun _ _ => True) s := by
  cases hget : s.getValidator tx.sender with
  | some v =>
    simp only [bondStake, setValidator, wp_steps, checkedAdd_eq_some, and_imp]
    rintro stake - rfl
    refine (flows_setValidator _).shift ?_
    rw [hget]
    change v.stake + tx.amount = 0 + (v.stake + tx.amount)
    omega
  | none =>
    simp only [bondStake, setValidator, wp_bind, wp_modify]
    -- the new validator is written with its stake, and then once more
    have hnew : Flows M 0 tx.amount s
        { s with validators := s.validators.insert tx.sender (Validator.new tx.sender tx.amount) } := by
      refine (flows_setValidator _).shift ?_
      rw [hget]
      rfl
    have hsync : Flows M 0 tx.amount s (s.addValidator M tx.sender tx.amount) := by
      have hmirrored := hnew.trans (flows_syncValidatorRegistration (a := tx.sender) hM)
      exact ⟨hmirrored.committed, rfl⟩
    refine (hsync.trans (flows_setValidator _)).shift ?_
    have hstake : ((s.addValidator M tx.sender tx.amount).getValidator tx.sender) =
        some (Validator.new tx.sender tx.amount) := SortedMap.get?_insert_self _ _ _
    rw [hstake]
    change 0 + tx.amount + tx.amount = 0 + (tx.amount + tx.amount)
    omega

lemma flows_applyStake (hM : MirrorExcluded M) :
    Ensures (Flows M tx.totalCost tx.amount) (applyStake M tx) := by
  refine flows_bind (flows_debit _ _ _) (fun _ => ?_) (by omega : tx.totalCost + 0 + tx.amount =
    tx.totalCost + (0 + tx.amount))
  intro s
  simp only [wp_bind, wp_read]
  refine wp_imp (flows_bondStake hM s) (fun _ t h => ?_)
  exact h.trans (flows_syncValidatorRegistration hM)

lemma flows_applyRegisterConsensusKeys (registration : ConsensusKeyRegistration) :
    Ensures (Flows M tx.fee 0) (applyRegisterConsensusKeys M tx registration) := by
  refine .guard <| .check .ofExcept fun _ => ?_
  intro s
  simp only [setValidator, wp_steps]
  intro v hget _
  refine flows_step ((flows_setValidator _).shift ?_) (flows_debit _ _ _)
    (by omega : 0 + tx.fee + 0 = tx.fee + (0 + 0))
  rw [hget]
  change v.stake + 0 = 0 + v.stake
  omega

lemma flows_applyUnstake (hM : MirrorExcluded M) :
    Ensures (Flows M tx.fee 0) (applyUnstake M tx) := by
  intro s
  unfold applyUnstake setValidator
  rw [wp_bind, wp_read, wp_bind, wp_ofOption]
  refine ⟨fun v hget => ?_, fun _ => trivial⟩
  rw [wp_bind, wp_failIf]
  refine ⟨fun _ => trivial, fun _ => ?_⟩
  rw [wp_bind, wp_modify, wp_bind, wp_ofOption]
  refine ⟨fun stake hstake => ?_, fun _ => trivial⟩
  obtain ⟨hle, rfl⟩ := checkedSub_eq_some.mp hstake
  rw [wp_bind, wp_modify]
  have hstake : Flows M tx.amount 0 s
      { s with validators := s.validators.insert tx.sender
                { v with stake := v.stake - tx.amount, active := v.active && v.stake - tx.amount != 0 } } := by
    refine (flows_setValidator _).shift ?_
    rw [hget]
    change v.stake + 0 = tx.amount + (v.stake - tx.amount)
    omega
  -- the votes that were reduced before are no part of the sum
  refine flows_step ⟨hstake.committed, rfl⟩ ?_
    (by omega : tx.amount + tx.fee + 0 = tx.fee + (0 + tx.amount))
  refine flows_bind (flows_modify fun t => flows_queue rfl) (fun _ => ?_)
    (by omega : 0 + tx.fee + tx.amount = tx.fee + (tx.amount + 0))
  exact flows_bind (flows_modify fun t => flows_syncValidatorRegistration hM)
    (fun _ => flows_debit _ _ _) (by omega)

lemma flows_castVote : Ensures (Flows M 0 0) (castVote M tx) := by
  have hgovernance : ∀ (code : String) (x : Exec T.Governance String Unit),
      Ensures (Flows M 0 0) (onGovernance code x : Effect T Unit) :=
    fun _ _ => .zoom fun _ _ => ⟨rfl, rfl⟩
  have hnone : Ensures (Flows M 0 0) (pure () : Effect T Unit) :=
    Ensures.of_readOnly .pure Flows.refl
  unfold castVote
  refine .ite ?_ (.ite hnone (.ite ?_ ?_))
  · intro s
    rw [wp_bind, wp_read]
    cases hget : s.getValidator tx.recipient with
    | some v =>
      refine (flows_setValidator _).shift ?_
      have hsame : (countVote tx v).stake = v.stake := by
        unfold countVote
        split_ifs <;> rfl
      rw [hget, hsame]
      exact (zero_add _).symm
    | none => exact Flows.refl s
  · refine .check .read fun s => .guard ?_
    exact .ite (hgovernance _ _) hnone
  · refine .check .read fun s => .check .ofExcept fun _ => ?_
    exact .guard <| hgovernance _ _

lemma flows_applyVote : Ensures (Flows M tx.fee 0) (applyVote M tx) := by
  refine .check .read fun _ => .guard ?_
  exact flows_bind (flows_debit _ _ _) (fun _ => flows_castVote) rfl

/-- The transaction types that only move value between balances, stake and queue. -/
def MovesValue (tx : Transaction T) : Prop :=
  match tx.txType with
  | .transfer | .stake | .unstake | .vote | .registerConsensusKeys _ => True
  | _ => False

/-- What `validate_transaction` guards: the amount and the fee add up in a `u64`. The
genesis transaction, the only one of the zero address, has no fee. -/
def PaysInFull (tx : Transaction T) : Prop :=
  tx.amount + tx.fee ≤ u64Max ∧ (tx.sender = .zero → tx.fee = 0)

lemma flows_applyTransactionChecked (hM : MirrorExcluded M) (htype : MovesValue tx)
    (hpays : PaysInFull tx) : Ensures (Flows M tx.fee 0) (applyTransactionChecked M tx) := by
  obtain ⟨hsum, hzero⟩ := hpays
  have hcost : tx.totalCost = tx.amount + tx.fee := satAdd_of_le hsum
  have hshift : ∀ s s', Flows M tx.totalCost tx.amount s s' → Flows M tx.fee 0 s s' :=
    fun _ _ h => h.shift (by omega)
  have harm : Ensures (Flows M tx.fee 0) (applyArm M tx) := by
    unfold applyArm
    unfold MovesValue at htype
    split at htype
    · next h => rw [h]; exact flows_applyTransfer.mono hshift
    · next h => rw [h]; exact (flows_applyStake hM).mono hshift
    · next h => rw [h]; exact flows_applyUnstake hM
    · next h => rw [h]; exact flows_applyVote
    · next h => rw [h]; exact flows_applyRegisterConsensusKeys _
    · exact htype.elim
  intro s
  refine wp_applyTransactionChecked (fun h => ?_) fun _ => ?_
  · rw [hzero h]
    exact Flows.refl s
  · exact flows_step flows_touch harm (by omega : 0 + tx.fee + 0 = tx.fee + (0 + 0))

/-! ## Blocks -/

lemma flows_applyAll (hM : MirrorExcluded M) (txs : List (Transaction T))
    (htypes : ∀ tx ∈ txs, MovesValue tx) (hpays : ∀ tx ∈ txs, PaysInFull tx) :
    Ensures (Flows M (txs.map Transaction.fee).sum 0) (applyAll M txs) := by
  induction txs with
  | nil => exact .of_readOnly .pure Flows.refl
  | cons tx txs ih =>
    obtain ⟨htype, htypes⟩ := forall_mem_cons.mp htypes
    obtain ⟨hpay, hpays⟩ := forall_mem_cons.mp hpays
    rw [map_cons, sum_cons]
    exact flows_bind (flows_applyTransactionChecked hM htype hpay)
      (fun _ => ih htypes hpays) rfl

lemma flows_creditProducer (producer : Address) (fee : ℕ) :
    Ensures (Flows M 0 fee) (creditProducer producer fee : Effect T Unit) := by
  intro s
  unfold creditProducer
  split_ifs with hpos
  · rw [wp_mapError, wp_tryAddBalance]
    refine ⟨fun _ => (flows_setAccount _).shift ?_, fun _ => trivial⟩
    change s.getBalance producer + fee = 0 + (s.getBalance producer + fee)
    omega
  · obtain rfl : fee = 0 := by omega
    exact Flows.refl s

def totalBurn (p : TokenomicsParams) (txs : List (Transaction T)) : ℕ :=
  (txs.map fun tx => p.metabolicBurn tx.fee).sum

lemma flows_payProducer (producer : Address) (txs : List (Transaction T)) : Ensures (fun s s' =>
      Flows M (totalBurn s.tokenomics txs) (txs.map Transaction.fee).sum s s')
      (payProducer producer txs : Effect T Unit) := by
  induction txs with
  | nil => exact .of_readOnly .pure Flows.refl
  | cons tx txs ih =>
    intro s
    simp only [payProducer, wp_steps, checkedSub_eq_some, and_imp]
    rintro fee hle rfl
    refine wp_imp (flows_creditProducer (M := M) producer _ s) (fun _ t h => ?_)
    refine wp_imp (ih t) (fun _ u h' => ?_)
    have hrest : Flows M (totalBurn t.tokenomics txs) (txs.map Transaction.fee).sum t u := h'
    rw [h.tokenomics] at hrest
    refine (h.trans hrest).shift ?_
    simp only [totalBurn, map_cons, sum_cons]
    omega

lemma flows_applyAction (action : GovernanceAction T) :
    Ensures (Flows M 0 0) (applyAction M action) := by
  cases action with
  | verifyHubApp => exact fun _ => trivial
  | setEncryptionPolicy => exact .zoom fun _ _ => ⟨rfl, rfl⟩
  | setConstitutionParameter => exact .zoom fun _ _ => ⟨rfl, rfl⟩
  | _ => exact fun _ => ⟨rfl, rfl⟩

lemma flows_applyActions (actions : List (GovernanceAction T)) :
    Ensures (Flows M 0 0) (applyActions M actions) := by
  induction actions with
  | nil => exact .of_readOnly .pure Flows.refl
  | cons action actions ih => exact flows_bind (flows_applyAction action) (fun _ => ih) rfl

lemma flows_governance : Ensures (Flows M 0 0) (do
    let actions ← takePassedActions M
    applyActions M actions) := by
  have htake : Ensures (Flows M 0 0) (takePassedActions M) := fun _ => ⟨rfl, rfl⟩
  exact flows_bind htake (fun _ => flows_applyActions _) rfl

/-- A block of transactions that move value and pay in full takes its burns out of the
sum, once its fees are with the producer. -/
lemma flows_applyBlockChecked (hM : MirrorExcluded M) {txs : List (Transaction T)}
    (htypes : ∀ tx ∈ txs, MovesValue tx) (hpays : ∀ tx ∈ txs, PaysInFull tx) (producer : Address) :
    Ensures (fun s s' => Flows M (totalBurn s.tokenomics txs) 0 s s')
      (applyBlockChecked M txs (some producer)) := by
  intro s
  unfold applyBlockChecked
  rw [wp_bind]
  refine wp_imp (flows_applyAll hM txs htypes hpays s) (fun _ t h => ?_)
  rw [wp_bind]
  refine wp_imp (flows_payProducer (M := M) producer txs t) (fun _ u h' => ?_)
  have hpaid : Flows M (totalBurn t.tokenomics txs) (txs.map Transaction.fee).sum t u := h'
  rw [h.tokenomics] at hpaid
  exact flows_step (h.trans hpaid) flows_governance (by omega)

/-- A block of transactions that move value and pay in full, accepted with a producer
set, lowers the committed total by its metabolic burns and by nothing else. -/
theorem committed_after_block {s s' : AccountState T} {txs : List (Transaction T)}
    {producer : Address} (hM : MirrorExcluded M) (hfits : s.committed M ≤ u128Max)
    (htypes : ∀ tx ∈ txs, MovesValue tx) (hpays : ∀ tx ∈ txs, PaysInFull tx)
    (hrun : (applyBlockChecked M txs (some producer)).run s = (.ok (), s')) :
    s'.totalBudCommitted M + totalBurn s.tokenomics txs = s.totalBudCommitted M := by
  have hflow := ((flows_applyBlockChecked hM htypes hpays producer).of_run hrun).committed
  have hle : s'.committed M ≤ s.committed M := by omega
  rw [totalBudCommitted_of_le hfits, totalBudCommitted_of_le (hle.trans hfits)]
  exact hflow

def funded (balance : ℕ) : AccountState .point :=
  point.setAccount ⟨1⟩ (Account.withBalance ⟨1⟩ balance)

def payment (amount fee : ℕ) : Transaction .point :=
  { hash := "", sender := ⟨1⟩, recipient := ⟨2⟩, amount, fee, maxFee := fee, priorityFee := 0,
    nonce := 0, data := [], chainId := 1, txType := .transfer }

/-- Two of two hundred units of fee are burned. -/
theorem committed_after_block_payment :
    (((applyBlockChecked .refusing [payment 10 200] (some ⟨3⟩)).run
      (funded 1000)).2).totalBudCommitted .refusing + 2 = 1000 :=
  @committed_after_block _ .refusing (funded 1000) _ [payment 10 200] ⟨3⟩
    (fun _ _ _ _ => rfl) (by decide +kernel) (forall_mem_singleton.mpr trivial)
    (forall_mem_singleton.mpr ⟨by decide, fun h => by cases h⟩) rfl

/-- The sum of amount and fee is clamped, so the sender does not pay the fee that the
producer is paid. -/
theorem clamped_cost_mints_fee : ∃ s',
    (applyBlockChecked .refusing [payment u64Max 1] (some ⟨3⟩)).run (funded u64Max) =
        (.ok (), s') ∧ (funded u64Max).totalBudCommitted .refusing = u64Max ∧
      totalBurn (funded u64Max).tokenomics [payment u64Max 1] = 0 ∧
      s'.totalBudCommitted .refusing = u64Max + 1 :=
  ⟨_, rfl, by decide +kernel, by decide +kernel, by decide +kernel⟩

end Executor

end Budlum
