import Budlum.Core.Epoch
import Budlum.Execution.ErrorAtomicity
import Budlum.Execution.Frame
import Budlum.Execution.Validation

/-!
# The life of a validator

Transactions, slashes, governance and the end of an epoch write validators. `Update`
lists what a transaction writes, and `Sustained` is what a property of single validators
needs to hold along every run of these steps.

Two such properties are settled here. A slashed or jailed validator stays inactive as
long as it neither adds stake nor registers keys: both recompute the flag from stake and
keys alone. An active validator holds the minimum stake as long as no active validator
takes out a part of its stake that leaves less.
-/

namespace Budlum

open Machine AccountState Exec SortedMap Bool

variable {T : ModuleTypes}

/-! ## What a transaction writes -/

namespace Executor

variable {M : Modules T} {tx : Transaction T}

def unstaked (v : Validator) (amount : ℕ) : Validator :=
  { v with stake := v.stake - amount, active := v.active && v.stake - amount != 0 }

/-- The validator that a transaction writes over `validators`, and the address it writes
it at. -/
inductive Update (M : Modules T) (tx : Transaction T) (validators : SortedMap Address Validator) :
    Address → Validator → Prop
  | bonded {v : Validator} (htype : tx.txType = .stake)
      (hget : validators.get? tx.sender = some v) :
      Update M tx validators tx.sender (restaked tx v (v.stake + tx.amount))
  | joined (htype : tx.txType = .stake) (hget : validators.get? tx.sender = none) :
      Update M tx validators tx.sender (restaked tx (Validator.new tx.sender tx.amount) tx.amount)
  | keyed {v : Validator} {registration : ConsensusKeyRegistration}
      (htype : tx.txType = .registerConsensusKeys registration)
      (hget : validators.get? tx.sender = some v) (hidle : v.active = false) :
      Update M tx validators tx.sender (rekeyed M tx v registration)
  | unbonded {v : Validator} (htype : tx.txType = .unstake)
      (hget : validators.get? tx.sender = some v) (hle : tx.amount ≤ v.stake) :
      Update M tx validators tx.sender (unstaked v tx.amount)
  | voted {v : Validator} (htype : tx.txType = .vote)
      (hget : validators.get? tx.recipient = some v) :
      Update M tx validators tx.recipient (countVote tx v)

def roster (s : AccountState T) : SortedMap Address Validator × ℕ := (s.validators, s.epochIndex)

lemma leaves_roster {ε α : Type} {x : Exec (AccountState T) ε α}
    (hx : Leaves standing x) : Leaves roster x :=
  hx.map fun p => (p.validators, p.epochIndex)

/-- At most one validator is written, as `Update` says. -/
def Updated (M : Modules T) (tx : Transaction T) (s s' : AccountState T) : Prop :=
  roster s' = roster s ∨
    ∃ a v, Update M tx s.validators a v ∧ roster s' = (s.validators.insert a v, s.epochIndex)

lemma Updated.then_leaves {α : Type} {x : Effect T α} {s t : AccountState T}
    (h : Updated M tx s t) (hx : Leaves standing x) :
    wp x (fun _ u => Updated M tx s u) (fun _ _ => True) t := by
  refine wp_imp ((leaves_roster hx).ensures t) (fun _ u hu => ?_)
  unfold Updated
  rw [hu]
  exact h

lemma updated_applyStake (htype : tx.txType = .stake) :
    Ensures (Updated M tx) (applyStake M tx) := by
  intro s
  unfold applyStake
  rw [wp_bind]
  refine wp_imp ((leaves_roster (leaves_debit _ _ _)).ensures s) (fun _ t ht => ?_)
  obtain ⟨hvalidators, hepoch⟩ := Prod.mk.inj ht
  have hget : t.getValidator tx.sender = s.getValidator tx.sender := by
    rw [getValidator, getValidator, hvalidators]
  rw [wp_bind, wp_read, hget, wp_bind]
  cases hold : s.getValidator tx.sender with
  | some v =>
    simp only [bondStake, setValidator, wp_steps, checkedAdd_eq_some, and_imp]
    rintro stake - rfl
    refine .inr ⟨_, _, .bonded htype hold, ?_⟩
    change (t.validators.insert _ _, t.epochIndex) = _
    rw [hvalidators, hepoch]
  | none =>
    simp only [bondStake, setValidator, wp_bind, wp_modify]
    refine .inr ⟨_, _, .joined htype hold, ?_⟩
    -- the new validator is written with its stake, and then once more
    change ((t.validators.insert _ _).insert _ _, t.epochIndex) = _
    rw [insert_insert, hvalidators, hepoch]

lemma updated_applyRegisterConsensusKeys {registration : ConsensusKeyRegistration}
    (htype : tx.txType = .registerConsensusKeys registration) :
    Ensures (Updated M tx) (applyRegisterConsensusKeys M tx registration) := by
  refine Ensures.guard <| Ensures.check .ofExcept fun _ => ?_
  intro s
  simp only [setValidator, wp_steps, not_eq_true]
  intro v hget hidle
  exact Updated.then_leaves (.inr ⟨_, _, .keyed htype hget hidle, rfl⟩) (leaves_debit _ _ _)

lemma updated_applyUnstake (htype : tx.txType = .unstake) :
    Ensures (Updated M tx) (applyUnstake M tx) := by
  intro s
  simp only [applyUnstake, setValidator, wp_steps, checkedSub_eq_some, and_imp]
  rintro v hget - stake hle rfl
  exact Updated.then_leaves (.inr ⟨_, _, .unbonded htype hget hle, rfl⟩) (leaves_debit _ _ _)

lemma updated_applyVote (htype : tx.txType = .vote) :
    Ensures (Updated M tx) (applyVote M tx) := by
  refine Ensures.check .read fun _ => Ensures.guard ?_
  intro s
  rw [wp_bind]
  refine wp_imp ((leaves_roster (leaves_debit _ _ _)).ensures s) (fun _ t ht => ?_)
  obtain ⟨hvalidators, hepoch⟩ := Prod.mk.inj ht
  unfold castVote
  rw [wp_ite]
  refine ⟨fun _ => ?_, fun _ => ?_⟩
  · rw [wp_bind, wp_read]
    cases hget : t.getValidator tx.recipient with
    | none => exact .inl ht
    | some v =>
      have hget' : s.getValidator tx.recipient = some v := by
        rw [getValidator, ← hvalidators]
        exact hget
      refine .inr ⟨_, _, .voted htype hget', ?_⟩
      change (t.validators.insert _ _, t.epochIndex) = _
      rw [hvalidators, hepoch]
  · have hgovernance : ∀ (code : String) (x : Exec T.Governance String Unit),
        Leaves standing (onGovernance code x : Effect T Unit) :=
      fun _ _ => .zoom fun _ _ => rfl
    refine Updated.then_leaves (.inl ht) (.ite .pure (.ite ?_ ?_))
    · exact .bind .read fun _ => .bind .failIf fun _ => .ite (hgovernance _ _) .pure
    · exact .bind .read fun _ => .bind .ofExcept fun _ => .bind .failIf fun _ => hgovernance _ _

lemma updated_applyTransactionChecked :
    Ensures (Updated M tx) (applyTransactionChecked M tx) := by
  intro s
  refine wp_applyTransactionChecked (fun _ => .inl rfl) fun _ => ?_
  -- the arm starts from a state in which the sender's account exists
  change wp (applyArm M tx) (fun _ u => Updated M tx (s.touch tx.sender) u) _ _
  by_cases hwrites : WritesValidators tx
  · unfold WritesValidators at hwrites
    unfold applyArm
    split at hwrites
    · next h => rw [h]; exact updated_applyStake h _
    · next h => rw [h]; exact updated_applyRegisterConsensusKeys h _
    · next h => rw [h]; exact updated_applyUnstake h _
    · next h => rw [h]; exact updated_applyVote h _
    · exact hwrites.elim
  · exact Updated.then_leaves (.inl rfl) (leaves_applyArm hwrites)

end Executor

/-! ## Steps and runs -/

open Executor

variable {M : EpochModules T}

inductive ValidatorStep (T : ModuleTypes)
  | transaction (tx : Transaction T)
  | slash (address : Address) (slashRatioFixed : ℕ)
  | governanceSlash (address : Address) (evidenceHash : Bytes)
  | advanceEpoch (currentTimestamp : ℕ)

/-- The step succeeds on the chain `chainId`, from `s` to `s'`. -/
def ValidatorStep.Takes (M : EpochModules T) (chainId : ℕ) (s s' : AccountState T) :
    ValidatorStep T → Prop
  | .transaction tx => tx.chainId = chainId ∧
      (applyTransactionChecked M.toModules tx).run s = (.ok (), s')
  | .slash address slashRatioFixed => s' = (s.slashValidator M address slashRatioFixed).2
  | .governanceSlash address evidenceHash => s' = s.governanceSlash M address evidenceHash
  | .advanceEpoch currentTimestamp => s' = s.advanceEpoch M currentTimestamp chainId

/-- A step of the chain that is `allowed` in the state it is taken from. -/
def Advances (M : EpochModules T) (chainId : ℕ)
    (allowed : AccountState T → ValidatorStep T → Prop) (s s' : AccountState T) : Prop :=
  ∃ step, allowed s step ∧ step.Takes M chainId s s'

abbrev ValidatorRun (M : EpochModules T) (chainId : ℕ)
    (allowed : AccountState T → ValidatorStep T → Prop) : AccountState T → AccountState T → Prop :=
  Relation.ReflTransGen (Advances M chainId allowed)

def Everyone (I : ℕ → Validator → Prop) (s : AccountState T) : Prop :=
  ∀ a v, s.validators.get? a = some v → I s.epochIndex v

/-- A property of single validators that no step breaks: a validator that is written has
it again, if it had it before. -/
structure Sustained (M : EpochModules T) (chainId : ℕ)
    (allowed : AccountState T → ValidatorStep T → Prop) (I : ℕ → Validator → Prop) : Prop where
  updated : ∀ (s : AccountState T) tx a v', tx.chainId = chainId → allowed s (.transaction tx) →
    Update M.toModules tx s.validators a v' →
    (∀ v, s.validators.get? a = some v → I s.epochIndex v) → I s.epochIndex v'
  slashed : ∀ (s : AccountState T) v slashRatioFixed, I s.epochIndex v →
    I s.epochIndex (s.slashed v slashRatioFixed)
  stripped : ∀ epoch v, I epoch v → I epoch (stripped v)
  released : ∀ epoch v, I epoch v →
    I (satAdd u64Max epoch 1) (releasedFromJail M chainId (satAdd u64Max epoch 1) v)

section

variable {chainId : ℕ} {allowed : AccountState T → ValidatorStep T → Prop}
  {I : ℕ → Validator → Prop} {s s' : AccountState T}

lemma Everyone.of_roster (hs : Everyone I s) (h : roster s' = roster s) : Everyone I s' := by
  obtain ⟨hvalidators, hepoch⟩ := Prod.mk.inj h
  intro a v hget
  rw [hepoch]
  exact hs a v (hvalidators ▸ hget)

lemma Everyone.insert {a : Address} {v : Validator} (hs : Everyone I s)
    (h : roster s' = (s.validators.insert a v, s.epochIndex)) (hv : I s.epochIndex v) :
    Everyone I s' := by
  obtain ⟨hvalidators, hepoch⟩ := Prod.mk.inj h
  intro b w hget
  rw [hepoch]
  rw [hvalidators, get?_insert] at hget
  split_ifs at hget
  · exact Option.some.inj hget ▸ hv
  · exact hs b w hget

lemma Everyone.transaction {tx : Transaction T} (hI : Sustained M chainId allowed I)
    (hs : Everyone I s) (hchain : tx.chainId = chainId) (hallowed : allowed s (.transaction tx))
    (hrun : (applyTransactionChecked M.toModules tx).run s = (.ok (), s')) : Everyone I s' := by
  rcases updated_applyTransactionChecked.of_run hrun with hsame | ⟨a, v, hupdate, hwritten⟩
  · exact hs.of_roster hsame
  · exact hs.insert hwritten (hI.updated s tx a v hchain hallowed hupdate fun w hw => hs a w hw)

lemma Everyone.slash (hI : Sustained M chainId allowed I) (hs : Everyone I s) (a : Address)
    (slashRatioFixed : ℕ) : Everyone I (s.slashValidator M a slashRatioFixed).2 := by
  unfold slashValidator
  cases hget : s.getValidator a with
  | none => exact hs
  | some v =>
    dsimp only
    split_ifs
    · exact hs
    · exact hs.insert rfl (hI.slashed s v slashRatioFixed (hs a v hget))

/-- Governance leaves the roster alone, or strips one validator. -/
def Stripped (s s' : AccountState T) : Prop :=
  roster s' = roster s ∨ ∃ a v, s.validators.get? a = some v ∧
    roster s' = (s.validators.insert a (stripped v), s.epochIndex)

lemma Everyone.of_stripped (hI : Sustained M chainId allowed I) (hs : Everyone I s)
    (h : Stripped s s') : Everyone I s' := by
  rcases h with hsame | ⟨a, v, hget, hwritten⟩
  · exact hs.of_roster hsame
  · exact hs.insert hwritten (hI.stripped s.epochIndex v (hs a v hget))

lemma stripped_governanceSlash (a : Address) (evidenceHash : Bytes) :
    Stripped s (s.governanceSlash M a evidenceHash) := by
  unfold governanceSlash
  split_ifs
  · cases hget : s.getValidator a with
    | none => exact .inl rfl
    | some v => exact .inr ⟨a, v, hget, rfl⟩
  · exact .inl rfl

lemma stripped_runProposal (p : Proposal T) : Stripped s (s.runProposal M p) := by
  suffices hexec : Stripped s (s.executeProposal M p.kind) from hexec
  cases p.kind with
  | slashValidator address evidenceHash => exact stripped_governanceSlash address evidenceHash
  | changeBaseFee fee =>
    rw [executeProposal]
    split_ifs <;> exact .inl rfl
  | changeBlockReward reward =>
    rw [executeProposal]
    split_ifs <;> exact .inl rfl
  | parameterUpdate key value =>
    rw [executeProposal]
    split <;> exact .inl rfl
  | _ => exact .inl rfl

lemma Everyone.runProposals (hI : Sustained M chainId allowed I) (hs : Everyone I s)
    (proposals : List (Proposal T)) : Everyone I (proposals.foldl (runProposal M) s) := by
  induction proposals generalizing s with
  | nil => exact hs
  | cons p rest ih => exact ih (hs.of_stripped hI (stripped_runProposal p))

variable {ε : Type}

lemma leaves_releaseEntries (entries : List UnbondingEntry) :
    Leaves roster (releaseEntries entries : Exec (AccountState T) ε Unit) := by
  induction entries with
  | nil => exact .pure
  | cons entry rest ih =>
    refine .bind (.bind (.attempt (leaves_roster (leaves_tryAddBalance _ _))) ?_) fun _ => ih
    rintro (_ | _)
    · exact .modify fun _ => rfl
    · exact .pure

lemma leaves_processUnbonding : Leaves roster (processUnbonding : Exec (AccountState T) ε Unit) :=
  .bind .read fun _ => .bind (.modify fun _ => rfl) fun _ => leaves_releaseEntries _

lemma leaves_burnYears (reserve : Address) (perYear outstanding total : ℕ) : Leaves roster
      (burnYears reserve perYear outstanding total : Exec (AccountState T) ε ℕ) := by
  induction outstanding generalizing total with
  | zero => exact .pure
  | succ outstanding ih =>
    have hburn : Leaves roster (burnFrom reserve perYear : Exec (AccountState T) ε ℕ) :=
      .ite .pure (.bind (leaves_roster (leaves_getOrCreate _)) fun _ =>
        .bind (leaves_roster (leaves_writeAccount _ _)) fun _ => .pure)
    exact .bind hburn fun _ => .ite .pure (.bind (.modify fun _ => rfl) fun _ => ih _)

lemma roster_burnReserve : roster s.burnReserve = roster s := by
  unfold burnReserve
  cases s.burnReserveAddress with
  | none => rfl
  | some reserve =>
    refine Leaves.run (.bind .read fun _ => .bind .read fun _ => .ite .pure ?_) s
    exact .bind (leaves_burnYears _ _ _ _) fun _ => .bind (.modify fun _ => rfl) fun _ => .pure

lemma roster_advanceEpoch (M : EpochModules T) (s : AccountState T)
    (currentTimestamp chainId : ℕ) : roster (s.advanceEpoch M currentTimestamp chainId) =
      ((s.closeEpochVotes M).validators.mapValues fun _ => releasedFromJail M chainId
          (satAdd u64Max (s.closeEpochVotes M).epochIndex 1),
        satAdd u64Max (s.closeEpochVotes M).epochIndex 1) := by
  refine roster_burnReserve.trans ?_
  obtain ⟨hvalidators, hepoch⟩ := Prod.mk.inj
    (Leaves.run (leaves_processUnbonding (ε := String)) _)
  change (mapValues _ fun _ => releasedFromJail M chainId _, _) = _
  rw [hvalidators, hepoch]

section

variable (hI : Sustained M chainId allowed I) (hs : Everyone I s)
include hI hs

lemma Everyone.advanceEpoch
    (currentTimestamp : ℕ) : Everyone I (s.advanceEpoch M currentTimestamp chainId) := by
  let closed := M.closeVoting s.getTotalStake 33 s.epochIndex s.governance
  have hclosed : Everyone I (s.closeEpochVotes M) :=
    Everyone.runProposals (s := { s with governance := closed.2 }) hI hs closed.1
  obtain ⟨hvalidators, hepoch⟩ :=
    Prod.mk.inj (roster_advanceEpoch M s currentTimestamp chainId)
  intro a v hget
  rw [hvalidators] at hget
  obtain ⟨w, hw, rfl⟩ := get?_mapValues_eq_some.mp hget
  rw [hepoch]
  exact hI.released _ w (hclosed a w hw)

lemma Everyone.step {step : ValidatorStep T}
    (hallowed : allowed s step) (hstep : step.Takes M chainId s s') : Everyone I s' := by
  cases step with
  | transaction tx => exact hs.transaction hI hstep.1 hallowed hstep.2
  | slash address slashRatioFixed => exact hstep ▸ hs.slash hI address slashRatioFixed
  | governanceSlash address evidenceHash =>
    exact hstep ▸ hs.of_stripped hI (stripped_governanceSlash address evidenceHash)
  | advanceEpoch currentTimestamp => exact hstep ▸ hs.advanceEpoch hI currentTimestamp

lemma Sustained.run (hrun : ValidatorRun M chainId allowed s s') : Everyone I s' := by
  induction hrun with
  | refl => exact hs
  | tail _ hlast ih =>
    obtain ⟨step, hallowed, hstep⟩ := hlast
    exact ih.step hI hallowed hstep

end

end

/-! ## Slashed and jailed validators -/

/-- Slashed, or in jail for a later epoch still. -/
def Barred (epoch : ℕ) (v : Validator) : Prop :=
  v.slashed = true ∨ v.jailed = true ∧ epoch < v.jailUntil

/-- A barred validator is inactive, and the end of its term is a 64-bit number. -/
def Grounded (epoch : ℕ) (v : Validator) : Prop :=
  v.jailUntil ≤ u64Max ∧ (Barred epoch v → v.active = false)

/-- A barred validator with consensus keys stakes up to the floor, or one at the floor
registers keys. -/
def Reinstates (s : AccountState T) : ValidatorStep T → Prop
  | .transaction tx => ∃ v, s.getValidator tx.sender = some v ∧ Barred s.epochIndex v ∧
      match tx.txType with
      | .stake => minStake tx ≤ v.stake + tx.amount ∧ v.isConsensusReady = true
      | .registerConsensusKeys _ => minStake tx ≤ v.stake
      | _ => False
  | _ => False

variable {epoch chainId : ℕ} {v w : Validator}

lemma Grounded.of_same (h : Grounded epoch v)
    (hslashed : w.slashed = v.slashed) (hjailed : w.jailed = v.jailed)
    (huntil : w.jailUntil = v.jailUntil)
    (hactive : Barred epoch v → v.active = false → w.active = false) : Grounded epoch w := by
  refine ⟨huntil ▸ h.1, fun hbarred => ?_⟩
  have hv : Barred epoch v := by
    unfold Barred at hbarred ⊢
    rwa [hslashed, hjailed, huntil] at hbarred
  exact hactive hv (h.2 hv)

variable {a : Address} {tx : Transaction T} {s : AccountState T}

lemma grounded_update
    (hallowed : ¬ Reinstates s (.transaction tx)) (hupdate : Update M.toModules tx s.validators a w)
    (hold : ∀ v, s.validators.get? a = some v → Grounded s.epochIndex v) :
    Grounded s.epochIndex w := by
  cases hupdate with
  | bonded htype hget =>
    refine (hold _ hget).of_same rfl rfl rfl fun hbarred _ => ?_
    -- active again only with keys and the floor, which the step is not allowed
    rw [restaked, Bool.and_eq_false_iff, decide_eq_false_iff_not, ← Bool.not_eq_true, ← not_and_or]
    intro hready
    exact hallowed ⟨_, hget, hbarred, by rw [htype]; exact hready⟩
  | joined htype hget =>
    refine ⟨Nat.zero_le _, fun hbarred => ?_⟩
    rcases hbarred with hslashed | ⟨hjailed, _⟩
    · cases hslashed
    · cases hjailed
  | keyed htype hget hidle =>
    refine (hold _ hget).of_same rfl rfl rfl fun hbarred _ => ?_
    have hfloor : ¬ minStake tx ≤ Validator.stake _ := fun hfloor =>
      hallowed ⟨_, hget, hbarred, by rw [htype]; exact hfloor⟩
    simp only [rekeyed, hfloor, decide_false, Bool.false_and]
  | unbonded htype hget hle =>
    refine (hold _ hget).of_same rfl rfl rfl fun _ hinactive => ?_
    rw [unstaked, hinactive, Bool.false_and]
  | voted htype hget =>
    unfold countVote
    split_ifs <;> exact (hold _ hget).of_same rfl rfl rfl fun _ hinactive => hinactive

lemma grounded_released (h : Grounded epoch v) : Grounded (satAdd u64Max epoch 1)
      (releasedFromJail M chainId (satAdd u64Max epoch 1) v) := by
  unfold releasedFromJail
  split_ifs with hdue
  · refine ⟨h.1, fun hbarred => ?_⟩
    rcases hbarred with hslashed | ⟨hjailed, _⟩
    · change (_ && !v.slashed && _ && _) = false
      rw [show v.slashed = true from hslashed]
      simp
    · cases hjailed
  · refine ⟨h.1, fun hbarred => h.2 ?_⟩
    rcases hbarred with hslashed | ⟨hjailed, hterm⟩
    · exact .inl hslashed
    · -- the term ends within the 64-bit range, so the epoch is not saturated yet
      have hrange := h.1
      unfold satAdd at hterm
      exact .inr ⟨hjailed, by omega⟩

lemma sustained_grounded (chainId : ℕ) :
    Sustained M chainId (fun s step => ¬ Reinstates s step) Grounded where
  updated _ _ _ _ _ hallowed hupdate hold := grounded_update hallowed hupdate hold
  slashed _ _ _ _ := ⟨min_le_right _ _, fun _ => rfl⟩
  stripped _ _ h := ⟨h.1, fun _ => rfl⟩
  released _ _ h := grounded_released h

/-- From a state in which every slashed or jailed validator is inactive, no run in which
none of them is reinstated by its own stake or keys makes one active. -/
theorem barred_validators_stay_inactive {chainId : ℕ} {s s' : AccountState T}
    (hrange : ∀ a v, s.getValidator a = some v → v.jailUntil ≤ u64Max)
    (hstart : ∀ a v, s.getValidator a = some v → Barred s.epochIndex v → v.active = false)
    (hrun : ValidatorRun M chainId (fun s step => ¬ Reinstates s step) s s') :
    ∀ a v, s'.getValidator a = some v → Barred s'.epochIndex v → v.active = false := by
  intro a v hget
  have hend : Everyone Grounded s' := (sustained_grounded chainId).run
    (fun a v hget => ⟨hrange a v hget, hstart a v hget⟩) hrun
  exact (hend a v hget).2

/-- A validator with consensus keys at the floor of the development network, and funds to
stake more. -/
def bondedState : AccountState .point :=
  { point.setAccount ⟨1⟩ (Account.withBalance ⟨1⟩ 5000) with
    validators := (∅ : SortedMap Address Validator).insert ⟨1⟩
      { Validator.new ⟨1⟩ 1000 with
        vrfPublicKey := [1], blsPublicKey := [1], popSignature := [1], pqPublicKey := [1] } }

def bondedTransaction (txType : TransactionType .point) (amount : ℕ) :
    Transaction .point :=
  { hash := "", sender := ⟨1⟩, recipient := .zero, amount, fee := 1, maxFee := 1
    priorityFee := 0, nonce := 0, data := [], chainId := 45262, txType }

lemma bondedState_validator (h : bondedState.getValidator a = some v) :
    v.slashed = false ∧ v.jailed = false ∧ v.jailUntil = 0 ∧ v.stake = 1000 := by
  rcases get?_insert_eq_some.mp h with ⟨_, rfl⟩ | ⟨_, hnone⟩
  · exact ⟨rfl, rfl, rfl, rfl⟩
  · cases hnone

lemma bondedState_not_barred
    (h : bondedState.getValidator a = some v) : ¬ Barred bondedState.epochIndex v := by
  obtain ⟨hslashed, hjailed, _, _⟩ := bondedState_validator h
  simp [Barred, hslashed, hjailed]

/-- The validator adds stake before it is slashed. -/
theorem barred_validators_stay_inactive_bonded :
    ∃ s', ValidatorRun .refusing 45262 (fun s step => ¬ Reinstates s step)
        bondedState s' ∧ (∃ v, s'.getValidator ⟨1⟩ = some v ∧ v.slashed = true) ∧
      ∀ a v, s'.getValidator a = some v → Barred s'.epochIndex v → v.active = false := by
  have hrun : ValidatorRun .refusing 45262 (fun s step => ¬ Reinstates s step)
      bondedState
      (((applyTransactionChecked .refusing (bondedTransaction .stake 10)).run
        bondedState).2.slashValidator .refusing ⟨1⟩ 50000).2 := by
    refine .tail (.single ⟨.transaction (bondedTransaction .stake 10), ?_, rfl, by rfl⟩)
      ⟨.slash ⟨1⟩ 50000, id, rfl⟩
    rintro ⟨v, hget, hbarred, _⟩
    exact bondedState_not_barred hget hbarred
  refine ⟨_, hrun, ⟨_, rfl, by decide +kernel⟩, ?_⟩
  exact barred_validators_stay_inactive
    (fun a v hget => by rw [(bondedState_validator hget).2.2.1]; exact Nat.zero_le _)
    (fun a v hget hbarred => absurd hbarred (bondedState_not_barred hget)) hrun

/-- The validator is slashed, stakes the penalty again and is active. -/
theorem slashed_validator_stakes_and_is_active :
    ∃ s₁ s₂, (∀ a v, bondedState.getValidator a = some v → ¬ Barred bondedState.epochIndex v) ∧
      (ValidatorStep.slash ⟨1⟩ 50000).Takes EpochModules.refusing 45262 bondedState s₁ ∧
      s₁.validateTransaction Modules.refusing (bondedTransaction .stake 100) = .ok () ∧
      (ValidatorStep.transaction (bondedTransaction .stake 100)).Takes EpochModules.refusing
        45262 s₁ s₂ ∧
      (s₂.getValidator ⟨1⟩).map (fun v => (v.slashed, v.jailed, v.jailUntil, v.active)) =
        some (true, true, 7, true) ∧ s₂.epochIndex = 0 := by
  refine ⟨_, _, fun _ _ => bondedState_not_barred, rfl, ?_, ⟨rfl, rfl⟩, ?_, ?_⟩
  all_goals decide +kernel

/-! ## The floor of the stake -/

/-- The minimum stake of a chain. It is a constant of the network, so it is also the one
in force at the last change of any stake. -/
def stakeFloor (chainId : ℕ) : ℕ := ((Network.fromChainId chainId).map Network.minStake).getD 1

/-- An active validator has the minimum stake, and nobody is jailed without a slash. -/
def Funded (chainId : ℕ) (_epoch : ℕ) (v : Validator) : Prop :=
  (v.active = true → stakeFloor chainId ≤ v.stake) ∧ (v.jailed = true → v.slashed = true)

/-- An active validator takes out a part of its stake and leaves less than the floor. -/
def Undercuts (chainId : ℕ) (s : AccountState T) : ValidatorStep T → Prop
  | .transaction tx => tx.txType = .unstake ∧ ∃ v, s.getValidator tx.sender = some v ∧
      v.active = true ∧ tx.amount < v.stake ∧ v.stake - tx.amount < stakeFloor chainId
  | _ => False

lemma funded_update (hchain : tx.chainId = chainId)
    (hallowed : ¬ Undercuts chainId s (.transaction tx))
    (hupdate : Update M.toModules tx s.validators a w)
    (hold : ∀ v, s.validators.get? a = some v → Funded chainId s.epochIndex v) :
    Funded chainId s.epochIndex w := by
  subst hchain
  cases hupdate with
  | bonded htype hget =>
    refine ⟨fun hactive => ?_, (hold _ hget).2⟩
    exact of_decide_eq_true (and_eq_true_iff.mp hactive).1
  | joined htype hget =>
    refine ⟨fun hactive => ?_, fun hjailed => absurd hjailed false_ne_true⟩
    exact of_decide_eq_true (and_eq_true_iff.mp hactive).1
  | keyed htype hget hidle =>
    refine ⟨fun hactive => ?_, (hold _ hget).2⟩
    exact of_decide_eq_true (and_eq_true_iff.mp (and_eq_true_iff.mp hactive).1).1
  | @unbonded v htype hget hle =>
    refine ⟨fun hactive => ?_, (hold _ hget).2⟩
    obtain ⟨hwas, hleft⟩ := and_eq_true_iff.mp hactive
    have hpart : v.stake - tx.amount ≠ 0 := by simpa using hleft
    by_contra hless
    exact hallowed ⟨htype, v, hget, hwas, by omega, not_le.mp hless⟩
  | voted htype hget =>
    have hsame := hold _ hget
    unfold countVote
    split_ifs <;> exact hsame

lemma funded_released {epoch' : ℕ} (h : Funded chainId epoch v) :
    Funded chainId epoch' (releasedFromJail M chainId epoch' v) := by
  unfold releasedFromJail
  split_ifs with hdue
  · -- whoever leaves the jail was slashed, and is not active again
    have hslashed : v.slashed = true := h.2 (and_eq_true_iff.mp hdue).1
    refine ⟨fun hactive => ?_, fun hjailed => absurd hjailed false_ne_true⟩
    change (_ && !v.slashed && _ && _) = true at hactive
    rw [hslashed] at hactive
    simp at hactive
  · exact h

lemma sustained_funded (chainId : ℕ) :
    Sustained M chainId (fun s step => ¬ Undercuts chainId s step) (Funded chainId) where
  updated _ _ _ _ hchain hallowed hupdate hold := funded_update hchain hallowed hupdate hold
  slashed _ _ _ _ := ⟨fun hactive => absurd hactive false_ne_true, fun _ => rfl⟩
  stripped _ _ _ := ⟨fun hactive => absurd hactive false_ne_true, fun _ => rfl⟩
  released _ _ h := funded_released h

/-- From a genesis whose active validators have the minimum stake, and with nobody in jail
but for a slash, no run in which no active validator undercuts the floor leaves one
below it. -/
theorem active_validators_hold_minimum_stake {chainId : ℕ} {s s' : AccountState T}
    (hjail : ∀ a v, s.getValidator a = some v → v.jailed = true → v.slashed = true)
    (hstart : ∀ a v, s.getValidator a = some v → v.active = true → stakeFloor chainId ≤ v.stake)
    (hrun : ValidatorRun M chainId (fun s step => ¬ Undercuts chainId s step) s s') :
    ∀ a v, s'.getValidator a = some v → v.active = true → stakeFloor chainId ≤ v.stake := by
  intro a v hget
  have hend : Everyone (Funded chainId) s' := (sustained_funded chainId).run
    (fun a v hget => ⟨hstart a v hget, hjail a v hget⟩) hrun
  exact (hend a v hget).1

/-- The validator takes out all of its stake. -/
theorem active_validators_hold_minimum_stake_unbonded :
    ∃ s', ValidatorRun .refusing 45262 (fun s step => ¬ Undercuts 45262 s step) bondedState s' ∧
      (s'.getValidator ⟨1⟩).map (fun v => (v.stake, v.active)) = some (0, false) ∧
      ∀ a v, s'.getValidator a = some v → v.active = true → stakeFloor 45262 ≤ v.stake := by
  have hrun : ValidatorRun .refusing 45262 (fun s step => ¬ Undercuts 45262 s step)
      bondedState
      ((applyTransactionChecked .refusing (bondedTransaction .unstake 1000)).run
        bondedState).2 := by
    refine .single ⟨.transaction (bondedTransaction .unstake 1000), ?_, rfl, by rfl⟩
    rintro ⟨_, v, hget, _, hpart, _⟩
    rw [(bondedState_validator hget).2.2.2] at hpart
    exact absurd hpart (lt_irrefl _)
  refine ⟨_, hrun, by decide +kernel, ?_⟩
  exact active_validators_hold_minimum_stake
    (fun a v hget hjailed => by rw [(bondedState_validator hget).2.1] at hjailed; cases hjailed)
    (fun a v hget _ => by rw [(bondedState_validator hget).2.2.2]; decide) hrun

/-- The validator takes out all but one unit and stays active. -/
theorem partial_unstake_keeps_validator_active : ∃ s', (∀ a v, bondedState.getValidator a = some v →
        v.jailed = false ∧ stakeFloor 45262 ≤ v.stake) ∧
      bondedState.validateTransaction Modules.refusing (bondedTransaction .unstake 999) = .ok () ∧
      (ValidatorStep.transaction (bondedTransaction .unstake 999)).Takes EpochModules.refusing
        45262 bondedState s' ∧
      (s'.getValidator ⟨1⟩).map (fun v => (v.stake, v.active)) = some (1, true) ∧
      stakeFloor 45262 = 1000 := by
  refine ⟨_, fun a v hget => ?_, ?_, ⟨rfl, rfl⟩, ?_, ?_⟩
  · obtain ⟨_, hjailed, _, hstake⟩ := bondedState_validator hget
    exact ⟨hjailed, hstake ▸ by decide⟩
  all_goals decide +kernel

end Budlum
