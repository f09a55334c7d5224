import Budlum.Core.AccountState

/-!
# The incremental accounts root

`calculate_state_root` keeps the account tree between calls and rehashes only the
paths above dirty addresses. Every method of `AccountState` that writes accounts
keeps the cache coherent, so at any point of any run the root it reports is the
root rebuilt from the current accounts.
-/

namespace Budlum.AccountState

open Exec AccountLedger Preserves

variable {T : ModuleTypes} {ε : Type} {M : Modules T}

def CacheCoherent (M : Modules T) (s : AccountState T) : Prop := s.ledger.Coherent M.sha256

/-! ## One call -/

variable {s : AccountState T}

lemma cacheCoherent_of_ledger {s' : AccountState T} (h : CacheCoherent M s)
    (hledger : s'.ledger = s.ledger) : CacheCoherent M s' := by
  unfold CacheCoherent
  rw [hledger]
  exact h

lemma preserves_frame {f : AccountState T → AccountState T}
    (hledger : ∀ s, (f s).ledger = s.ledger) :
    Preserves (CacheCoherent M) (modify f : Exec _ ε Unit) :=
  modify fun s h => cacheCoherent_of_ledger h (hledger s)

variable (a : Address)

lemma preserves_getOrCreate :
    Preserves (CacheCoherent M) (getOrCreate a : Exec (AccountState T) ε Account) := by
  refine .bind (modify fun s h => ?_) fun _ => .read
  exact coherent_getOrCreate a h

lemma preserves_writeAccount (account : Account) :
    Preserves (CacheCoherent M) (writeAccount a account : Exec (AccountState T) ε Unit) :=
  modify fun _ h => coherent_write a h account

lemma preserves_onRegistry {ε' α : Type} (f : ε' → ε) (x : Exec T.Registry ε' α) :
    Preserves (CacheCoherent M) (onRegistry f x : Exec (AccountState T) ε α) := by
  intro s h
  rw [onRegistry, wp_zoom]
  exact ⟨fun _ _ _ => cacheCoherent_of_ledger h rfl, fun _ _ _ => cacheCoherent_of_ledger h rfl⟩

lemma preserves_tryAddBalance (amount : ℕ) :
    Preserves (CacheCoherent M) (tryAddBalance a amount : Exec (AccountState T) _ Unit) :=
  (preserves_getOrCreate a).bind fun _ =>
    ofOption.bind fun _ => preserves_writeAccount a _

lemma preserves_burnFrom (amount : ℕ) :
    Preserves (CacheCoherent M) (burnFrom a amount : Exec (AccountState T) ε ℕ) :=
  ite pure <|
    (preserves_getOrCreate a).bind fun _ =>
      (preserves_writeAccount a _).bind fun _ => .pure

lemma preserves_bondRole (role : RoleId) (a : Address) (amount : ℕ) :
    Preserves (CacheCoherent M) (bondRole M role a amount) := by
  refine .bind failIf fun _ => ?_
  refine .bind (preserves_getOrCreate a) fun account => ?_
  refine .bind failIf fun _ => ?_
  refine .bind (preserves_writeAccount a _) fun _ => ?_
  exact .bind (preserves_frame fun _ => rfl) fun _ => .pure

lemma preserves_releaseEntries (entries : List UnbondingEntry) :
    Preserves (CacheCoherent M) (releaseEntries entries : Exec (AccountState T) ε Unit) := by
  induction entries with
  | nil => exact .pure
  | cons entry entries ih =>
    refine .bind ((attempt (preserves_tryAddBalance _ _)).bind fun outcome => ?_) fun _ =>
      ih
    cases outcome with
    | ok _ => exact .pure
    | error _ => exact preserves_frame fun _ => rfl

lemma preserves_burnYears (reserve : Address) (perYear outstanding total : ℕ) :
    Preserves (CacheCoherent M)
      (burnYears reserve perYear outstanding total : Exec (AccountState T) ε ℕ) := by
  induction outstanding generalizing total with
  | zero => exact .pure
  | succ outstanding ih =>
    refine .bind (preserves_burnFrom reserve perYear) fun burned => ?_
    refine .ite pure ?_
    exact .bind (preserves_frame fun _ => rfl) fun _ => ih _

lemma preserves_processDueTimedBurn (due : ℕ) (reserve : Address) : Preserves (CacheCoherent M)
      (processDueTimedBurn due reserve : Exec (AccountState T) ε ℕ) := by
  refine .bind read fun s => ?_
  refine .ite pure ?_
  refine .bind (preserves_burnYears _ _ _ _) fun total => ?_
  exact .bind (preserves_frame fun _ => rfl) fun _ => .pure

/-! ## Runs -/

/-- The calls that write accounts, a call of `calculate_state_root`, and any
change of the rest of the state. A call that fails is part of the run: what it
wrote before it failed stays. `clear_dirty` is left out: it empties the dirty set
with no leaf computed, and breaks the coherence that the others keep. -/
inductive AccountCall (T : ModuleTypes)
  | write (a : Address) (f : Account → Account)
  | addBalance (a : Address) (amount : ℕ)
  | tryAddBalance (a : Address) (amount : ℕ)
  | burnFrom (a : Address) (amount : ℕ)
  | initGenesis (a : Address)
  | loadAccounts (accounts : SortedMap Address Account)
  | markDirty (a : Address)
  | markAllAccountsDirty
  | addValidator (a : Address) (stake : ℕ)
  | bondRelayer (a : Address) (amount : ℕ)
  | bondProver (a : Address) (amount : ℕ)
  | bondStorageOperator (a : Address) (amount : ℕ)
  | withdrawRoleBond (a : Address) (role : RoleId)
  | bondLubotOperator (a : Address) (amount chainId : ℕ)
  | withdrawLubotOperator (a : Address) (fee : ℕ)
  | processUnbonding
  | processTimedBurn (genesisEpoch : ℕ) (reserve : Address)
  | processTimedBurnAtTime (genesisSecs currentSecs : ℕ) (reserve : Address)
  | calculateStateRoot
  | elsewhere (f : AccountState T → AccountState T) (hf : ∀ s, (f s).ledger = s.ledger)

/-- `get_or_create` and an assignment through the reference it returns. -/
def updateAccount (a : Address) (f : Account → Account) : Exec (AccountState T) ε Unit := do
  let account ← getOrCreate a
  writeAccount a (f account)

def AccountCall.apply (M : Modules T) (s : AccountState T) : AccountCall T → AccountState T
  | .write a f => ((updateAccount a f : Exec _ Empty Unit).run s).2
  | .addBalance a amount => ((AccountState.addBalance a amount : Exec _ Empty Unit).run s).2
  | .tryAddBalance a amount => ((AccountState.tryAddBalance a amount).run s).2
  | .burnFrom a amount => ((AccountState.burnFrom a amount : Exec _ Empty ℕ).run s).2
  | .initGenesis a => s.initGenesis a
  | .loadAccounts accounts => s.loadAccounts accounts
  | .markDirty a => s.markDirty a
  | .markAllAccountsDirty => s.markAllAccountsDirty
  | .addValidator a stake => s.addValidator M a stake
  | .bondRelayer a amount => ((AccountState.bondRelayer M a amount).run s).2
  | .bondProver a amount => ((AccountState.bondProver M a amount).run s).2
  | .bondStorageOperator a amount => ((AccountState.bondStorageOperator M a amount).run s).2
  | .withdrawRoleBond a role => ((AccountState.withdrawRoleBond M a role).run s).2
  | .bondLubotOperator a amount chainId =>
    ((AccountState.bondLubotOperator M a amount chainId).run s).2
  | .withdrawLubotOperator a fee => ((AccountState.withdrawLubotOperator M a fee).run s).2
  | .processUnbonding => ((AccountState.processUnbonding : Exec _ Empty Unit).run s).2
  | .processTimedBurn genesisEpoch reserve =>
    ((AccountState.processTimedBurn genesisEpoch reserve : Exec _ Empty ℕ).run s).2
  | .processTimedBurnAtTime genesisSecs currentSecs reserve =>
    ((AccountState.processTimedBurnAtTime genesisSecs currentSecs reserve :
      Exec _ Empty ℕ).run s).2
  | .calculateStateRoot => (s.calculateAccountsRoot M).2
  | .elsewhere f _ => f s

def runCalls (M : Modules T) (s : AccountState T) (calls : List (AccountCall T)) :
    AccountState T :=
  calls.foldl (AccountCall.apply M) s

lemma runCalls_snoc (s : AccountState T) (calls : List (AccountCall T)) (c : AccountCall T) :
    runCalls M s (calls ++ [c]) = c.apply M (runCalls M s calls) := by
  unfold runCalls
  rw [List.foldl_append]
  rfl

lemma cacheCoherent_apply (h : CacheCoherent M s) (c : AccountCall T) :
    CacheCoherent M (c.apply M s) := by
  cases c with
  | write a _ | addBalance a _ =>
    exact ((preserves_getOrCreate a).bind fun _ => preserves_writeAccount a _).run h
  | tryAddBalance a amount => exact (preserves_tryAddBalance a amount).run h
  | burnFrom a amount => exact (preserves_burnFrom a amount).run h
  | initGenesis a => exact coherent_insertGenesis a _
  | loadAccounts accounts => exact coherent_of_keysDirty rfl
  | markDirty a => exact coherent_markDirty a h
  | markAllAccountsDirty => exact coherent_markAllAccountsDirty h
  | addValidator a stake => exact coherent_of_keysDirty rfl
  | bondRelayer a amount => exact (preserves_bondRole .relayer a amount).run h
  | bondProver a amount => exact (preserves_bondRole .prover a amount).run h
  | bondStorageOperator a amount => exact (preserves_bondRole .storageOperator a amount).run h
  | withdrawRoleBond a role =>
    refine run ?_ h
    refine .bind ofExcept fun _ => ?_
    refine .bind read fun s => ?_
    refine .bind ofOption fun registration => ?_
    refine .bind ofOption fun finalBalance => ?_
    refine .bind (preserves_onRegistry _ _) fun withdrawn => ?_
    refine .bind (preserves_getOrCreate a) fun account => ?_
    exact .bind (preserves_writeAccount a _) fun _ => .pure
  | bondLubotOperator a amount chainId =>
    refine run ?_ h
    refine .bind read fun s => ?_
    refine .bind failIf fun _ => ?_
    refine .bind (preserves_onRegistry _ _) fun _ => ?_
    refine .bind (preserves_getOrCreate a) fun account => ?_
    exact .bind (preserves_writeAccount a _) fun _ => .pure
  | withdrawLubotOperator a fee =>
    refine run ?_ h
    refine .bind read fun s => ?_
    refine .bind ofOption fun registration => ?_
    refine .bind ofOption fun finalBalance => ?_
    refine .bind (preserves_onRegistry _ _) fun withdrawn => ?_
    refine .bind (preserves_getOrCreate a) fun account => ?_
    exact .bind (preserves_writeAccount a _) fun _ => .pure
  | processUnbonding =>
    refine run ?_ h
    refine .bind read fun s => ?_
    exact .bind (preserves_frame fun _ => rfl) fun _ => preserves_releaseEntries _
  | processTimedBurn genesisEpoch reserve =>
    exact (read.bind fun _ => preserves_processDueTimedBurn _ reserve).run h
  | processTimedBurnAtTime genesisSecs currentSecs reserve =>
    exact (read.bind fun _ => preserves_processDueTimedBurn _ reserve).run h
  | calculateStateRoot => exact coherent_refresh h
  | elsewhere f hf => exact cacheCoherent_of_ledger h (hf s)

lemma cacheCoherent_runCalls (h : CacheCoherent M s)
    (calls : List (AccountCall T)) : CacheCoherent M (runCalls M s calls) := by
  induction calls using List.reverseRecOn with
  | nil => exact h
  | append_singleton calls c ih =>
    rw [runCalls_snoc]
    exact cacheCoherent_apply ih c

/-- At any point of any run from a state no root was taken of yet, the root that
the dirty set and the cached tree give is the root of the accounts then held. -/
theorem accounts_root_rebuilt (M : Modules T) (s : AccountState T)
    (accounts : SortedMap Address Account) (calls : List (AccountCall T)) :
    ((runCalls M { s with ledger := AccountLedger.new accounts } calls).calculateAccountsRoot M).1 =
      (runCalls M { s with ledger := AccountLedger.new accounts } calls).ledger.rootFromScratch
        M.sha256 := by
  have hstart : CacheCoherent M { s with ledger := AccountLedger.new accounts } :=
    coherent_of_keysDirty rfl
  exact accountsRoot_refresh (cacheCoherent_runCalls hstart calls)

end Budlum.AccountState
