import Budlum.Core.Ledger
import Budlum.Core.Modules
import Budlum.Core.Params
import Budlum.Registries.Names
import Budlum.Registries.Nft

/-!
# The account state

`AccountState` and the methods of it that move value: balances, bonds, validator
stake, the unbonding queue and the burns. A method on `&mut self` that can fail is
an `Exec`, so that what it wrote before it failed stays written.
-/

namespace Budlum

open Machine Exec

structure UnbondingEntry where
  address : Address
  amount : ℕ
  releaseEpoch : ℕ
deriving DecidableEq, Repr

structure PendingDomainUnfreeze where
  domainId : ℕ
  expectedValidatorSetHash : Hash32
  justificationHash : Hash32
deriving DecidableEq

structure Validator where
  address : Address
  stake : ℕ
  active : Bool
  slashed : Bool
  jailed : Bool
  jailUntil : ℕ
  votesFor : ℕ
  votesAgainst : ℕ
  vrfPublicKey : Bytes
  blsPublicKey : Bytes
  popSignature : Bytes
  pqPublicKey : Bytes
deriving DecidableEq

namespace Validator

def new (address : Address) (stake : ℕ) : Validator :=
  { address, stake, active := true, slashed := false, jailed := false, jailUntil := 0,
    votesFor := 0, votesAgainst := 0, vrfPublicKey := [], blsPublicKey := [], popSignature := [],
    pqPublicKey := [] }

def hasConsensusKeys (v : Validator) : Bool :=
  !v.vrfPublicKey.isEmpty && !v.blsPublicKey.isEmpty && !v.pqPublicKey.isEmpty

def isConsensusReady (v : Validator) : Bool := v.hasConsensusKeys && !v.popSignature.isEmpty

def verifyPopIsValid {T : ModuleTypes} (M : Modules T) (v : Validator) (chainId : ℕ) : Bool :=
  !v.popSignature.isEmpty && !v.blsPublicKey.isEmpty &&
    M.verifyPop v.blsPublicKey v.popSignature chainId v.address

end Validator

/-- `AccountState`, its account map and the caches over it being `ledger`. Fields
that no modelled method reads are left out. -/
structure AccountState (T : ModuleTypes) where
  ledger : AccountLedger
  validators : SortedMap Address Validator
  tokenomics : TokenomicsParams
  timedBurn : TimedBurnState
  bnsRegistry : BnsRegistry
  nftRegistry : NftRegistry
  marketplace : MarketplaceRegistry
  budlumxyz : T.HubRegistry
  aiRegistry : T.AiRegistry
  noteRegistry : T.NoteRegistry
  bridgeState : BridgeState
  messageRegistry : SortedMap Id32 CrossDomainMessage
  externalRoots : SortedMap ℕ Hash32
  burnReserveAddress : Option Address
  teamVesting : Option (Address × VestingSchedule)
  unbondingQueue : List UnbondingEntry
  epochIndex : ℕ
  currentBlockHeight : ℕ
  governance : T.Governance
  baseFee : ℕ
  registry : T.Registry
  pendingBudBoostShare : ℕ
  pendingDomainUnfreezes : List PendingDomainUnfreeze
  storageRegistry : T.StorageRegistry
  liveness : T.Liveness
  invalidVotes : T.InvalidVotes
  proofMarket : T.ProofMarket
  lastEpochTime : ℕ
  bridgeRoot : Hash32
  messageRoot : Hash32
  settlementRoot : Hash32
  globalHeaderSummary : Hash32

namespace AccountState

def genesisBalance : ℕ := 1000000000

def minTxFee : ℕ := 1

/-- `AccountState::new`, given the new registries of the other modules. -/
def new {T : ModuleTypes} (budlumxyz : T.HubRegistry) (aiRegistry : T.AiRegistry)
    (noteRegistry : T.NoteRegistry) (governance : T.Governance) (registry : T.Registry)
    (storageRegistry : T.StorageRegistry) (liveness : T.Liveness)
    (invalidVotes : T.InvalidVotes) (proofMarket : T.ProofMarket) : AccountState T :=
  { ledger := AccountLedger.new ∅
    validators := ∅
    tokenomics := TokenomicsParams.default
    timedBurn := ⟨0, 0⟩
    bnsRegistry := BnsRegistry.new
    nftRegistry := NftRegistry.new
    marketplace := MarketplaceRegistry.new
    budlumxyz, aiRegistry, noteRegistry
    bridgeState := BridgeState.new
    messageRegistry := ∅
    externalRoots := ∅
    burnReserveAddress := none
    teamVesting := none
    unbondingQueue := []
    epochIndex := 0
    currentBlockHeight := 0
    governance
    baseFee := minTxFee
    registry
    pendingBudBoostShare := 0
    pendingDomainUnfreezes := []
    storageRegistry, liveness, invalidVotes, proofMarket
    lastEpochTime := 0
    bridgeRoot := List.replicate 32 0
    messageRoot := List.replicate 32 0
    settlementRoot := List.replicate 32 0
    globalHeaderSummary := List.replicate 32 0 }

/-- A new state over one-point registries. -/
def point : AccountState .point := new (T := .point) () () () () () () () () ()

variable {T : ModuleTypes} {ε : Type} (M : Modules T) (s : AccountState T)

/-! ## Reading -/

def getBalance (a : Address) : ℕ := s.ledger.getBalance a

def getNonce (a : Address) : ℕ := s.ledger.getNonce a

def getValidator (a : Address) : Option Validator := s.validators.get? a

/-- The part of the balance of `a` that vesting keeps locked. -/
def lockedBalance (a : Address) : ℕ :=
  match s.teamVesting with
  | some (team, schedule) => if team = a then schedule.lockedAt s.epochIndex else 0
  | none => 0

def spendableBalance (a : Address) : ℕ :=
  if s.burnReserveAddress = some a then 0 else s.getBalance a - s.lockedBalance a

def requiredLubotBond (chainId : ℕ) : ℕ :=
  let registryFloor := (M.registryParams s.registry).minStake
  match Network.fromChainId chainId with
  | some network => max network.minStake registryFloor
  | none => registryFloor

def requiredGovernanceProposalFee (proposer : Address) : ℕ :=
  satMul u64Max s.baseFee (M.proposalFeeMultiplier s.governance proposer s.epochIndex)

/-- `circulating_supply`, `total_staked_supply` and `total_unbonding_supply`. The
sums are `u128`, which no number of `u64` entries that fits in memory exceeds. -/
def circulatingSupply : ℕ := s.ledger.accounts.sumBy Account.balance
def totalStakedSupply : ℕ := s.validators.sumBy Validator.stake
def totalUnbondingSupply : ℕ := (s.unbondingQueue.map UnbondingEntry.amount).sum

def totalBudCommitted : ℕ :=
  satAdd u128Max
    (satAdd u128Max (satAdd u128Max s.circulatingSupply s.totalStakedSupply)
      s.totalUnbondingSupply)
    (M.totalBondedStakeExcluding s.registry .validator)

/-! ## Balances -/

/-- The state after `get_or_create` alone. -/
@[simps] def touch (a : Address) : AccountState T := { s with ledger := s.ledger.getOrCreate a }

/-- The state after `get_or_create` and an assignment through the reference. -/
@[simps] def setAccount (a : Address) (account : Account) : AccountState T :=
  { s with ledger := s.ledger.write a account }

/-- `get_or_create`: the account reached through the reference it returns. -/
def getOrCreate (a : Address) : Exec (AccountState T) ε Account := do
  modify fun s => s.touch a
  read fun s => s.ledger.account a

/-- An assignment through the reference of `get_or_create`. -/
def writeAccount (a : Address) (account : Account) : Exec (AccountState T) ε Unit :=
  modify fun s => s.setAccount a account

def markDirty (a : Address) : AccountState T := { s with ledger := s.ledger.markDirty a }

def markAllAccountsDirty : AccountState T := { s with ledger := s.ledger.markAllAccountsDirty }

def initGenesis (a : Address) : AccountState T :=
  { s with ledger := s.ledger.insertGenesis a (Account.withBalance a genesisBalance) }

/-- What `load_from_storage` does with the accounts it read. -/
def loadAccounts (accounts : SortedMap Address Account) : AccountState T :=
  { s with ledger := { s.ledger with accounts, keysDirty := true } }

def addBalance (a : Address) (amount : ℕ) : Exec (AccountState T) ε Unit := do
  let account ← getOrCreate a
  writeAccount a { account with balance := satAdd u64Max account.balance amount }

def tryAddBalance (a : Address) (amount : ℕ) : Exec (AccountState T) String Unit := do
  let account ← getOrCreate a
  let balance ← ofOption
    s!"balance overflow: {account.balance} + {amount} > u64::MAX"
    (checkedAdd u64Max account.balance amount)
  writeAccount a { account with balance }

/-- `burn_from`: the amount burned, at most the balance. -/
def burnFrom (a : Address) (amount : ℕ) : Exec (AccountState T) ε ℕ := do
  if amount = 0 then pure 0
  else
    let account ← getOrCreate a
    let burned := min amount account.balance
    writeAccount a { account with balance := account.balance - burned }
    pure burned

/-! ## Validators and bonds -/

def syncValidatorRegistration (a : Address) : AccountState T :=
  let stake := ((s.validators.get? a).map Validator.stake).getD 0
  { s with registry := M.upsertStake s.registry a .validator stake s.epochIndex }

def addValidator (a : Address) (stake : ℕ) : AccountState T :=
  let s := syncValidatorRegistration M
    { s with validators := s.validators.insert a (Validator.new a stake) } a
  { s with ledger := { s.ledger with keysDirty := true } }

/-- The common body of the three bonds that are debited from the balance. -/
def bondRole (role : RoleId) (a : Address) (amount : ℕ) :
    Exec (AccountState T) T.RegistryError ℕ := do
  failIf (amount = 0) (M.insufficientStake 1 0)
  let account ← getOrCreate a
  failIf (account.balance < amount) (M.insufficientStake amount account.balance)
  writeAccount a { account with balance := account.balance - amount }
  modify fun s =>
    { s with registry := M.upsertStake s.registry a role amount s.epochIndex }
  pure amount

def bondRelayer := bondRole M .relayer

def bondProver := bondRole M .prover

def bondStorageOperator := bondRole M .storageOperator

/-- Call the registry, translating its error. -/
def onRegistry {ε' α : Type} (f : ε' → ε) (x : Exec T.Registry ε' α) :
    Exec (AccountState T) ε α :=
  zoom registry (fun s registry => { s with registry }) f x.run

def ensureWithdrawableRole (role : RoleId) : Except String Unit :=
  match role with
  | .relayer | .prover | .storageOperator => .ok ()
  | .validator =>
    .error "validator stake unwinds through Unstake and the unbonding queue, not this path"
  | .lubotOperator =>
    .error ("the RoleId(8) bond unwinds through " ++
      "begin_lubot_operator_unbonding/withdraw_lubot_operator")
  | .other id => .error s!"role {M.roleText (.other id)} has no independently debited bond"

def withdrawRoleBond (a : Address) (role : RoleId) : Exec (AccountState T) String ℕ := do
  ofExcept id (ensureWithdrawableRole M role)
  let s ← read id
  let registration ← ofOption
    s!"no {M.roleText role} bond registered for {M.addressText a}"
    (M.getRegistration s.registry a role)
  let finalBalance ← ofOption "role bond withdrawal would overflow the account balance"
    (checkedAdd u64Max (s.getBalance a) registration.stake)
  let withdrawn ← onRegistry M.registryErrorText (M.withdraw a role s.epochIndex)
  let account ← getOrCreate a
  writeAccount a { account with balance := finalBalance }
  pure withdrawn

/-- `bond_lubot_operator`: the registry decides before the balance is debited. -/
def bondLubotOperator (a : Address) (amount chainId : ℕ) :
    Exec (AccountState T) T.RegistryError ℕ := do
  let s ← read id
  let required := s.requiredLubotBond M chainId
  let available := s.spendableBalance a
  failIf (amount < required ∨ available < amount)
    (M.insufficientStake required (min amount available))
  onRegistry id (M.registerLubotOperator a amount s.epochIndex)
  let account ← getOrCreate a
  writeAccount a { account with balance := account.balance - amount }
  pure amount

def beginLubotOperatorUnbonding (a : Address) : Exec (AccountState T) String ℕ := do
  let s ← read id
  failIf (M.operatorHasOpenObligations s.aiRegistry a s.currentBlockHeight = true)
    "Lubot operator has open inference or dispute obligations"
  onRegistry M.registryErrorText (M.beginUnbonding a .lubotOperator s.epochIndex)

/-- `withdraw_lubot_operator`: the bond comes back and the fee is taken in one
assignment. -/
def withdrawLubotOperator (a : Address) (fee : ℕ) : Exec (AccountState T) String ℕ := do
  let s ← read id
  let registration ← ofOption "Lubot operator is not registered"
    (M.getRegistration s.registry a .lubotOperator)
  let finalBalance ← ofOption "Lubot withdrawal balance overflow/fee underflow"
    ((checkedAdd u64Max (s.getBalance a) registration.stake).bind fun b => checkedSub b fee)
  let withdrawn ← onRegistry M.registryErrorText (M.withdraw a .lubotOperator s.epochIndex)
  let account ← getOrCreate a
  writeAccount a
    { account with balance := finalBalance, nonce := satAdd u64Max account.nonce 1 }
  pure withdrawn

/-! ## Epoch effects -/

/-- One matured entry of `process_unbonding`, queued again if its credit fails. -/
def releaseEntry (entry : UnbondingEntry) : Exec (AccountState T) ε Unit := do
  match (← attempt (tryAddBalance entry.address entry.amount)) with
  | .ok () => pure ()
  | .error _ =>
    modify fun s =>
      { s with unbondingQueue := s.unbondingQueue ++
          [{ entry with releaseEpoch := s.epochIndex }] }

def releaseEntries : List UnbondingEntry → Exec (AccountState T) ε Unit
  | [] => pure ()
  | entry :: rest => do
      releaseEntry entry
      releaseEntries rest

/-- `process_unbonding`. Entries whose release would overflow are deferred to the
end of the queue; the balances checked are those before any release. -/
def processUnbonding : Exec (AccountState T) ε Unit := do
  let s ← read id
  let due := s.unbondingQueue.filter (·.releaseEpoch ≤ s.epochIndex)
  let fits := fun e => decide (s.getBalance e.address + e.amount ≤ u64Max)
  modify fun s =>
    { s with unbondingQueue :=
        s.unbondingQueue.filter (fun e => decide (s.epochIndex < e.releaseEpoch)) ++
          due.filter fun e => !fits e }
  releaseEntries (due.filter fits)

/-- The loop of `process_due_timed_burn`: it stops when the reserve is empty. -/
def burnYears (reserve : Address) (perYear : ℕ) : ℕ → ℕ → Exec (AccountState T) ε ℕ
  | 0, total => pure total
  | outstanding + 1, total => do
      let burned ← burnFrom reserve perYear
      if burned = 0 then pure total
      else
        modify fun s =>
          { s with timedBurn := { s.timedBurn with
              totalBurned := satAdd u64Max s.timedBurn.totalBurned burned } }
        burnYears reserve perYear outstanding (satAdd u64Max total burned)

def processDueTimedBurn (due : ℕ) (reserve : Address) : Exec (AccountState T) ε ℕ := do
  let s ← read id
  if due ≤ s.timedBurn.yearsBurned then pure 0
  else
    let total ← burnYears reserve s.tokenomics.annualBurnAmount (due - s.timedBurn.yearsBurned) 0
    modify fun s =>
      { s with timedBurn := { s.timedBurn with yearsBurned := due } }
    pure total

def processTimedBurn (genesisEpoch : ℕ) (reserve : Address) : Exec (AccountState T) ε ℕ := do
  let s ← read id
  processDueTimedBurn
    (TimedBurnState.dueYears genesisEpoch s.epochIndex s.tokenomics.epochsPerYear) reserve

def processTimedBurnAtTime (genesisSecs currentSecs : ℕ) (reserve : Address) :
    Exec (AccountState T) ε ℕ := do
  let s ← read id
  processDueTimedBurn
    (TimedBurnState.dueYears genesisSecs currentSecs s.tokenomics.secondsPerYear) reserve

/-- The accounts root of `calculate_state_root`, and the state it leaves. -/
def calculateAccountsRoot : Hash32 × AccountState T :=
  let ledger := s.ledger.refresh M.sha256
  (ledger.accountsRoot, { s with ledger })

end AccountState

end Budlum
