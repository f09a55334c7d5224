import Budlum.Domain.BondSettlement
import Budlum.Execution.Effects

/-!
# Storage deals on the ledger

The methods of `Blockchain` that move balances for storage deals: the opening with its
escrow, the accrual of rewards, and the two sweeps that slash and return bonds. The
registry of `domain/storage_deal.rs` only records; what a record costs is decided here.

Counters of a sweep are `u32`, and an increment at the largest value aborts the process.
-/

namespace Budlum

open Machine AccountState Exec StorageRegistry

/-- Module types whose storage registry is the one of `domain/storage_deal.rs`. -/
abbrev ModuleTypes.storing (T : ModuleTypes) : ModuleTypes :=
  { T with StorageRegistry := Budlum.StorageRegistry }

inductive StorageEconomicsEventKind
  | operatorRewardAccrued
  | operatorBondSlashed
  | operatorBondReturned
deriving DecidableEq

structure StorageEconomicsEvent where
  epoch : ℕ
  dealId : ℕ
  operator : Address
  amount : ℕ
  balanceEffect : ℕ
  kind : StorageEconomicsEventKind
deriving DecidableEq

structure StorageEconomicsStateSnapshot where
  slashedBondTotal : ℕ
  burnedBondTotal : ℕ
  operatorRewards : SortedMap Address ℕ
  lastRewardEpoch : SortedMap ℕ ℕ
  economicsEvents : List StorageEconomicsEvent

structure StorageDisk where
  saveStorageRegistry : StorageRegistry → Except String Unit
  saveStorageEconomicsState : StorageEconomicsStateSnapshot → Except String Unit

structure StorageTexts where
  address : Address → String
  contentId : ContentId → String
  storageError : StorageError → String

/-- The fields of `Blockchain` that its storage methods use. Of the last block that is the
timestamp. -/
structure StorageChain (T : ModuleTypes) where
  lastTimestamp : ℕ
  storage : Option StorageDisk
  state : AccountState T.storing
  storageSlashedBondTotal : ℕ
  storageBurnedBondTotal : ℕ
  storageOperatorRewards : SortedMap Address ℕ
  storageLastRewardEpoch : SortedMap ℕ ℕ
  storageEconomicsEvents : List StorageEconomicsEvent

/-- The debits of `open_storage_deal_with_escrow`. -/
def AccountState.debitBalance {T : ModuleTypes} {ε : Type} (a : Address) (amount : ℕ) :
    Exec (AccountState T) ε Unit := do
  let account ← getOrCreate a
  writeAccount a { account with balance := account.balance - amount }

namespace StorageChain

variable {T : ModuleTypes}

abbrev Method (T : ModuleTypes) (α : Type) : Type := Exec (StorageChain T) (Stop String) α

variable (c : StorageChain T)

def registry : StorageRegistry := c.state.storageRegistry

def balance (a : Address) : ℕ := c.state.getBalance a

def currentUnixSecs : ℕ := min (c.lastTimestamp / 1000) u64Max

def storageEconomicsSnapshot : StorageEconomicsStateSnapshot :=
  ⟨c.storageSlashedBondTotal, c.storageBurnedBondTotal, c.storageOperatorRewards,
    c.storageLastRewardEpoch, c.storageEconomicsEvents⟩

@[simps] def withRegistry (r : StorageRegistry) : StorageChain T :=
  { c with state := { c.state with storageRegistry := r } }

@[simps] def withState (state : AccountState T.storing) : StorageChain T := { c with state }

@[simps] def pushEvent (event : StorageEconomicsEvent) : StorageChain T :=
  { c with storageEconomicsEvents := c.storageEconomicsEvents ++ [event] }

/-! ## Calls on a part -/

def onAccounts {α : Type} (text : String → String) (x : Exec (AccountState T.storing) String α) :
    Method T α :=
  zoom state withState (fun e => .err (text e)) x.run

def onRegistry {α : Type} (x : StorageRegistry.Method α) : Method T (Except StorageError α) :=
  fun c =>
    match x.run c.registry with
    | (.ok a, r) => (.ok (.ok a), c.withRegistry r)
    | (.error (.err e), r) => (.ok (.error e), c.withRegistry r)
    | (.error .abort, r) => (.error .abort, c.withRegistry r)

def persist (text : String) (save : StorageDisk → Except String Unit) : Method T Unit := do
  match (← read fun c => c.storage) with
  | some store => ofExcept (fun e => .err s!"{text}: {e}") (save store)
  | none => pure ()

def persistStorageRegistry : Method T Unit := do
  let r ← read registry
  persist "Failed to persist storage registry" fun store => store.saveStorageRegistry r

def persistStorageEconomicsState : Method T Unit := do
  let snapshot ← read storageEconomicsSnapshot
  persist "Failed to persist storage economics state" fun store =>
    store.saveStorageEconomicsState snapshot

/-- `+= 1` on a `u32`. -/
def increment (count : ℕ) : Method T ℕ := do
  failIf (2 ^ 32 - 1 ≤ count) .abort
  pure (count + 1)

/-! ## Opening a deal -/

variable (M : StorageModules) (W : StorageTexts)

def isDuplicate (req : DealRequest) : Bool :=
  (c.registry.dealsForShard req.manifest.manifestId req.shardId).any fun d =>
    d.isActive && d.operator = req.operator && d.replicaIndex = req.replicaIndex &&
      d.dealStartEpoch = req.startEpoch && d.dealEndEpoch = req.endEpoch

def escrowFee (req : DealRequest) : ℕ :=
  match req.manifest.shard req.shardId with
  | some shard => req.economics.totalFee shard.size (req.endEpoch - req.startEpoch)
  | none => 0

def checkOpening (req : DealRequest) : Except String Unit := do
  match c.registry.operatorCooldownUntil req.operator c.currentUnixSecs with
  | some untilSecs =>
    .error (s!"operator {W.address req.operator} missed a challenge and cannot take" ++
      s!"                  storage work until unix {untilSecs} " ++
      s!"({untilSecs - c.currentUnixSecs} seconds left)")
  | none => pure ()
  if req.endEpoch - req.startEpoch = 0 then .error "Deal duration must be > 0"
  if (req.manifest.shard req.shardId).isNone then
    .error (s!"shard {W.contentId req.shardId} is not part of manifest " ++
      s!"{W.contentId req.manifest.manifestId}")
  if c.isDuplicate req then
    .error (s!"an active deal already covers shard {W.contentId req.shardId} for operator " ++
      s!"{W.address req.operator} at replica {req.replicaIndex} over epochs " ++
      s!"{req.startEpoch}..{req.endEpoch}; refusing a replayed open")

def escrow (req : DealRequest) (payer : Address) : Method T Unit := do
  let totalFee := escrowFee req
  onlyIf (0 < totalFee) do
    let funds ← read fun c => c.balance payer
    failIf (funds < totalFee) (.err s!"Insufficient payer balance for deal fee {totalFee}")
    onAccounts id (debitBalance payer totalFee)

/-- Debit the bond from the operator, or give the fee back. -/
def lockBond (req : DealRequest) (payer : Address) : Method T Unit := do
  let bond := req.economics.operatorBond
  onlyIf (0 < bond) do
    let funds ← read fun c => c.balance req.operator
    onlyIf (funds < bond) do
      onlyIf (0 < escrowFee req)
        (onAccounts (fun e => s!"fee refund overflow: {e}")
          (tryAddBalance payer (escrowFee req)))
      fail (.err s!"Insufficient operator balance for bond {bond}")
    onAccounts id (debitBalance req.operator bond)

def refund (req : DealRequest) (payer : Address) : Method T Unit := do
  onlyIf (0 < escrowFee req)
    (onAccounts (fun e => s!"deal fee refund overflow: {e}")
      (tryAddBalance payer (escrowFee req)))
  onlyIf (0 < req.economics.operatorBond)
    (onAccounts (fun e => s!"deal bond refund overflow: {e}")
      (tryAddBalance req.operator req.economics.operatorBond))

def openStorageDealWithEscrow (req : DealRequest) (payer : Address) : Method T ℕ := do
  let c ← read id
  ofExcept .err (c.checkOpening W req)
  escrow req payer
  lockBond req payer
  match (← onRegistry (openDeal M req)) with
  | .ok dealId =>
    persistStorageRegistry
    pure dealId
  | .error e =>
    refund req payer
    fail (.err s!"open_deal failed: {W.storageError e}")

/-! ## Rewards -/

def paidThrough (deal : StorageDeal) : ℕ :=
  (c.storageLastRewardEpoch.get? deal.dealId).getD deal.dealStartEpoch

/-- What is owed for a deal up to an epoch: the difference of two totals. -/
def amountOwed (deal : StorageDeal) (rewardUntil : ℕ) : ℕ :=
  deal.totalFee (rewardUntil - deal.dealStartEpoch) -
    deal.totalFee (c.paidThrough deal - deal.dealStartEpoch)

@[simps] def withCursor (dealId epoch : ℕ) : StorageChain T :=
  { c with storageLastRewardEpoch := c.storageLastRewardEpoch.insert dealId epoch }

@[simps] def addReward (operator : Address) (amount : ℕ) : StorageChain T :=
  let entry := (c.storageOperatorRewards.get? operator).getD 0
  { c with
    storageOperatorRewards :=
      c.storageOperatorRewards.insert operator (satAdd u64Max entry amount) }

/-- One turn of the loop of `accrue_storage_operator_rewards`: the number of deals and the
total so far. -/
def accrueDeal (currentEpoch : ℕ) (acc : ℕ × ℕ) (deal : StorageDeal) : Method T (ℕ × ℕ) := do
  let c ← read id
  let rewardUntil := min currentEpoch deal.dealEndEpoch
  if rewardUntil ≤ c.paidThrough deal ∨ deal.economics.feePerByteEpoch = 0 then
    -- `entry(deal_id).or_insert(last_epoch)`
    modify fun c => c.withCursor deal.dealId (c.paidThrough deal)
    pure acc
  else if c.amountOwed deal rewardUntil = 0 then pure acc
  else
    let amount := c.amountOwed deal rewardUntil
    match (← attempt (onAccounts id (tryAddBalance deal.operator amount))) with
    | .error _ => pure acc
    | .ok () =>
      modify fun c =>
        ((c.addReward deal.operator amount).withCursor deal.dealId rewardUntil).pushEvent
          { epoch := currentEpoch, dealId := deal.dealId, operator := deal.operator, amount
            balanceEffect := amount, kind := .operatorRewardAccrued }
      let rewarded ← increment acc.1
      pure (rewarded, satAdd u64Max acc.2 amount)

def activeDeals : List StorageDeal := c.registry.deals.values.filter StorageDeal.isActive

def accrueStorageOperatorRewards (currentEpoch : ℕ) : Method T (ℕ × ℕ) := do
  modify fun c =>
    c.withRegistry (c.registry.pruneExpiredCooldowns c.currentUnixSecs)
  let deals ← read activeDeals
  let acc ← deals.foldlM (accrueDeal currentEpoch) (0, 0)
  onlyIf (0 < acc.1) persistStorageEconomicsState
  pure acc

/-! ## Slashes -/

/-- Count a slash, and begin the cooldown of the operator. -/
@[simps] def countSlash (operator : Address) (slashedBond : ℕ) : StorageChain T :=
  { c.withRegistry (c.registry.beginOperatorCooldown operator c.currentUnixSecs) with
    storageSlashedBondTotal := satAdd u64Max c.storageSlashedBondTotal slashedBond }

@[simps] def countBurn (burned : ℕ) : StorageChain T :=
  { c with storageBurnedBondTotal := satAdd u64Max c.storageBurnedBondTotal burned }

/-- `apply_storage_bond_slash`: the bond is burned from the balance of the operator. -/
def applyStorageBondSlash (epoch dealId : ℕ) (operator : Address) (slashedBond : ℕ) :
    Method T ℕ := do
  modify fun c => c.countSlash operator slashedBond
  let burned ← onAccounts id (burnFrom operator slashedBond)
  modify fun c => (c.countBurn burned).pushEvent
    { epoch, dealId, operator, amount := slashedBond, balanceEffect := burned
      kind := .operatorBondSlashed }
  persistStorageEconomicsState
  pure burned

/-- The challenges without a result whose deadline has come, with their deals. -/
def pendingChallenges (currentEpoch : ℕ) : List (ℕ × ℕ) :=
  (c.registry.challenges.values.filter fun challenge =>
    challenge.deadlineEpoch ≤ currentEpoch && c.registry.isOpen challenge).map
      fun challenge => (challenge.challengeId, challenge.dealId)

def operatorOf (dealId : ℕ) : Address :=
  ((c.registry.deals.get? dealId).map StorageDeal.operator).getD Address.zero

/-- One turn of the loop of `finalize_missed_storage_challenges`: the number of challenges
and the total slashed so far. -/
def finalizeMissed (currentEpoch : ℕ) (acc : ℕ × ℕ) (pending : ℕ × ℕ) : Method T (ℕ × ℕ) := do
  let operator ← read fun c => c.operatorOf pending.2
  match (← onRegistry (finalizeMissedChallenge pending.1 currentEpoch)) with
  | .error _ => pure acc
  | .ok result =>
    if result.outcome = .missed then
      let _burned ← applyStorageBondSlash currentEpoch pending.2 operator result.slashedBond
      let finalized ← increment acc.1
      pure (finalized, satAdd u64Max acc.2 result.slashedBond)
    else
      let finalized ← increment acc.1
      pure (finalized, acc.2)

def finalizeMissedStorageChallenges (currentEpoch : ℕ) : Method T (ℕ × ℕ) := do
  let pending ← read fun c => c.pendingChallenges currentEpoch
  let acc ← pending.foldlM (finalizeMissed currentEpoch) (0, 0)
  onlyIf (0 < acc.1) do
    persistStorageRegistry
    persistStorageEconomicsState
  pure acc

/-- The write that ends `ChainCommand::AnswerStorageChallenge`. -/
def saveStorageRegistry : Method T Unit := do
  let c ← read id
  ofExcept .err (c.storage.elim (.ok ()) fun store => store.saveStorageRegistry c.registry)

/-- `ChainCommand::AnswerStorageChallenge`: the answer, and the slash of one that does not
verify. -/
def answerStorageChallenge (answer : ChallengeAnswer) : Method T ChallengeResult := do
  match (← onRegistry (answerChallengeWithChainId M answer)) with
  | .error e => fail (.err (W.storageError e))
  | .ok result =>
    onlyIf (result.outcome = .mismatched) do
      let _burned ← applyStorageBondSlash answer.responseEpoch result.dealId answer.responder
        result.slashedBond
    saveStorageRegistry
    pure result

/-! ## The end of a deal -/

def maturedDeals (currentEpoch : ℕ) : List (ℕ × Address) :=
  (c.registry.deals.values.filter fun deal =>
    deal.isActive && deal.dealEndEpoch ≤ currentEpoch).map fun deal => (deal.dealId, deal.operator)

/-- Open a ticket for the slot of a deal whose term is over. -/
@[simps!] def openExpiryReallocation (dealId currentEpoch : ℕ) : StorageChain T :=
  c.withRegistry (c.registry.openExpiryReallocation dealId currentEpoch)

/-- One turn of the loop of `finalize_expired_storage_deals`: the number of deals and the
total returned so far. -/
def finalizeExpired (currentEpoch : ℕ) (acc : ℕ × ℕ) (matured : ℕ × Address) :
    Method T (ℕ × ℕ) := do
  match (← onRegistry (expireDeal matured.1 currentEpoch)) with
  | .error (.expiryWouldStrandContent ..) =>
    -- `hold_expiry_that_would_strand`: the deal stays active
    modify fun c => c.openExpiryReallocation matured.1 currentEpoch
    pure acc
  | .error _ => pure acc
  | .ok bond =>
    let expired ← increment acc.1
    modify fun c => c.openExpiryReallocation matured.1 currentEpoch
    if bond = 0 then pure (expired, acc.2)
    else
      onAccounts (fun e => s!"storage bond return overflow for {W.address matured.2}: {e}")
        (tryAddBalance matured.2 bond)
      modify fun c => c.pushEvent
        { epoch := currentEpoch, dealId := matured.1, operator := matured.2, amount := bond
          balanceEffect := bond, kind := .operatorBondReturned }
      pure (expired, satAdd u64Max acc.2 bond)

def finalizeExpiredStorageDeals (currentEpoch : ℕ) : Method T (ℕ × ℕ) := do
  let matured ← read fun c => c.maturedDeals currentEpoch
  let acc ← matured.foldlM (finalizeExpired W currentEpoch) (0, 0)
  onlyIf (0 < acc.1) do
    persistStorageRegistry
    persistStorageEconomicsState
  pure acc

end StorageChain

end Budlum
