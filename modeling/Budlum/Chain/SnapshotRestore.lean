import Budlum.Chain.Agreement
import Budlum.Chain.Snapshot

/-!
# Restoring a snapshot and going on

What `from_snapshot_v2` gives back is not the state that `from_state` took: the cached account
tree is gone, the accounts are made anew from balances and nonces, the queue of domain
unfreezes is empty, the pending boost share is zero and the height is the one of the snapshot.
None of that is seen by a block. The restored state `Continues` the old one, and a block that
is validated and added on two such states has the same verdict on both and leaves two such
states again.

For the accounts and the boost share this needs that the state was reached by executing
blocks (`Executed`): every account stands under its own key, and a block leaves no share.
-/

namespace Budlum

open Machine AccountState Executor Exec StateSnapshotV2 Blockchain FullState SortedMap Node Matches
open AccountLedger

variable {T : ModuleTypes} {G₁ G₂ : Type} {M : NodeModules T G₁ G₂}

/-! ## Account maps that differ in their cache -/

/-- Every account stands under its own key. -/
def AccountLedger.Keyed (l : AccountLedger) : Prop :=
  ∀ a account, l.accounts.get? a = some account → account.publicKey = a

/-- The same accounts, with two caches of which none is stale. -/
structure SameMap (sha256 : Bytes → Hash32) (l l' : AccountLedger) : Prop where
  accounts : l'.accounts = l.accounts
  keyed : l.Keyed
  coherent : l.Coherent sha256
  coherent_right : l'.Coherent sha256

namespace SameMap

variable {sha256 : Bytes → Hash32} {l l' : AccountLedger}

lemma accounts_getOrCreate (h : l'.accounts = l.accounts) (a : Address) :
    (l'.getOrCreate a).accounts = (l.getOrCreate a).accounts := by
  unfold AccountLedger.getOrCreate AccountLedger.markDirty
  rw [h]
  split_ifs
  · exact h
  · rfl

lemma keyed_insert {m : SortedMap Address Account}
    (h : ∀ a account, m.get? a = some account → account.publicKey = a) {a : Address}
    {account : Account} (hkey : account.publicKey = a) (b : Address) (found : Account)
    (hfound : (m.insert a account).get? b = some found) : found.publicKey = b := by
  rw [get?_insert] at hfound
  split_ifs at hfound with hb
  · cases hfound
    exact hkey.trans hb.symm
  · exact h b found hfound

lemma keyed_getOrCreate (h : l.Keyed) (a : Address) : (l.getOrCreate a).Keyed := by
  unfold AccountLedger.getOrCreate AccountLedger.markDirty
  split_ifs
  · exact h
  · exact keyed_insert h rfl

lemma rel : LedgerRel (SameMap sha256) fun a account => account.publicKey = a where
  account h a := by
    unfold AccountLedger.account
    rw [h.accounts]
  getOrCreate h a :=
    ⟨accounts_getOrCreate h.accounts a, keyed_getOrCreate h.keyed a,
      AccountLedger.coherent_getOrCreate a h.coherent,
      AccountLedger.coherent_getOrCreate a h.coherent_right⟩
  write h a account hkey :=
    ⟨congrArg (fun m => m.insert a account) (accounts_getOrCreate h.accounts a),
      keyed_insert (keyed_getOrCreate h.keyed a) hkey,
      AccountLedger.coherent_write a h.coherent account,
      AccountLedger.coherent_write a h.coherent_right account⟩
  flagKeys h :=
    ⟨h.accounts, h.keyed, AccountLedger.coherent_of_keysDirty rfl,
      AccountLedger.coherent_of_keysDirty rfl⟩
  read {l _} h a := by
    unfold AccountLedger.account
    rcases hget : l.accounts.get? a with _ | account
    · rfl
    · exact h.keyed a account hget
  update h _ _ := h

lemma refresh (h : SameMap sha256 l l') : SameMap sha256 (l.refresh sha256) (l'.refresh sha256) where
  accounts := by rw [accounts_refresh, accounts_refresh, h.accounts]
  keyed a account hget := by
    rw [accounts_refresh] at hget
    exact h.keyed a account hget
  coherent := coherent_refresh h.coherent
  coherent_right := coherent_refresh h.coherent_right

lemma accountsRoot_refresh (h : SameMap sha256 l l') :
    (l'.refresh sha256).accountsRoot = (l.refresh sha256).accountsRoot := by
  rw [AccountLedger.accountsRoot_refresh h.coherent, AccountLedger.accountsRoot_refresh
    h.coherent_right]
  unfold AccountLedger.rootFromScratch AccountLedger.leaves
  rw [h.accounts]

end SameMap

/-! ## States that continue alike -/

/-- Equal but for the cache of the account map, the queue of domain unfreezes and the height
of the last block. -/
inductive Continues (M : NodeModules T G₁ G₂) : AccountState T → AccountState T → Prop
  | mk (s : AccountState T) {l : AccountLedger} (unfreezes : List PendingDomainUnfreeze)
      (height : ℕ) (hl : SameMap M.sha256 s.ledger l) :
      Continues M s { s with
        ledger := l, pendingDomainUnfreezes := unfreezes, currentBlockHeight := height }

namespace Continues

variable {s t : AccountState T}

lemma atHeight (h : Continues M s t) (height : ℕ) :
    Like (SameMap M.sha256) { s with currentBlockHeight := height }
      { t with currentBlockHeight := height } := by
  obtain ⟨unfreezes, _, hl⟩ := h
  exact .mk { s with currentBlockHeight := height }
    ⟨unfreezes, s.bridgeRoot, s.messageRoot, s.settlementRoot, s.globalHeaderSummary⟩ hl

lemma withCommitments (h : Like (SameMap M.sha256) s t) (settlementRoot summary : Hash32) :
    Continues M (s.withCommitments M settlementRoot summary)
      (t.withCommitments M settlementRoot summary) := by
  obtain ⟨h, hl⟩ := h
  exact .mk (s.withCommitments M settlementRoot summary) h.pendingDomainUnfreezes
    s.currentBlockHeight hl

lemma calculateStateRoot (h : Continues M s t) :
    (t.calculateStateRoot M.toChainModules).1 = (s.calculateStateRoot M.toChainModules).1 := by
  obtain ⟨unfreezes, height, hl⟩ := h
  have hroot := hl.accountsRoot_refresh
  unfold calculateStateRoot calculateAccountsRoot
  dsimp only
  rw [hroot]
  rfl

lemma getBalance (h : Continues M s t) (a : Address) : t.getBalance a = s.getBalance a := by
  have hlike := h.atHeight 0
  exact congrFun (SameMap.rel.steps.getBalance hlike) a

lemma collectNftBurnCids (h : Continues M s t) (block : Block T) :
    collectNftBurnCids M.toChainModules s block = collectNftBurnCids M.toChainModules t block := by
  obtain ⟨_, _, hl⟩ := h
  rfl

lemma fullValidate (h : Continues M s t) (e : Engine T) (now : ℕ) (block : Block T)
    (chain : List (Block T)) : e.fullValidate M.toChainModules now block chain t =
      e.fullValidate M.toChainModules now block chain s := by
  obtain ⟨_, _, hl⟩ := h
  cases e <;> rfl

end Continues

/-! ## One block -/

lemma Blockchain.applyBlockEffects_atHeight {M : ChainModules T} (block : Block T)
    (preceding : List (Block T)) (text : String → String) (s : AccountState T) (height : ℕ) :
    (mapError text (applyBlockEffects M block preceding)).outcome
        { s with currentBlockHeight := height } =
      (mapError text (applyBlockEffects M block preceding)).outcome s := by
  have heffects : applyBlockEffects M block preceding
      { s with currentBlockHeight := height } =
        applyBlockEffects M block preceding s := rfl
  unfold outcome mapError
  rw [heffects]

variable {L : AccountLedger → AccountLedger → Prop}

lemma Blockchain.respects_admitTransactions {M : ChainModules T} {W : Address → Account → Prop}
    (hL : LedgerRel L W) (block : Block T) (i : ℕ) (txs : List (Transaction T)) :
    Respects (Like L) (admitTransactions M block i txs) := by
  induction txs generalizing i with
  | nil => exact .pure
  | cons tx rest ih =>
    have hchecked : Respects (Like L) (applyTransactionChecked M.toModules tx) :=
      respects_applyTransactionChecked hL
    have happly := hchecked.mapError
      fun e => s!"Failed to apply transaction at index {i}: {M.errorText e}"
    refine .bind (.bind .failIf fun _ => .bind .failIf fun _ => ?_) fun _ => ih (i + 1)
    split_ifs
    · refine .bind (.read fun s t hst => ?_) fun _ => .bind .ofExcept fun _ => happly
      exact (hst.validateTransaction hL _ _).symm
    · exact happly

lemma respects_stateRoot : Respects (Continues M) (stateRoot M) := by
  intro s t hst
  refine ⟨congrArg Except.ok hst.calculateStateRoot.symm, ?_⟩
  obtain ⟨unfreezes, height, hl⟩ := hst
  exact .mk (s.calculateStateRoot M.toChainModules).2 unfreezes height hl.refresh

lemma Continues.replayBlock {s t : AccountState T} (h : Continues M s t) (block : Block T)
    (preceding : List (Block T)) (settlementRoot summary : Hash32)
    (effectsText mismatchText : String → String) : Agrees (Continues M)
      ((Budlum.replayBlock M block preceding settlementRoot summary effectsText
        mismatchText).outcome s)
      ((Budlum.replayBlock M block preceding settlementRoot summary effectsText
        mismatchText).outcome t) := by
  have heffects := ((respects_applyBlockEffects (M := M.toChainModules) SameMap.rel block
    preceding).mapError effectsText).outcome (h.atHeight block.index)
  rw [applyBlockEffects_atHeight block preceding effectsText s block.index,
    applyBlockEffects_atHeight block preceding effectsText t block.index] at heffects
  unfold Budlum.replayBlock
  rw [outcome_bind, outcome_bind]
  refine heffects.bind fun u v huv => ?_
  have hrest : Respects (Continues M) (stateRoot M >>= fun computedRoot =>
      failIf (computedRoot ≠ block.stateRoot) (mismatchText computedRoot)) :=
    .bind respects_stateRoot fun _ => .failIf
  rw [outcome_modify_bind, outcome_modify_bind]
  exact hrest.outcome (.withCommitments huv settlementRoot summary)

namespace Node

/-- A node with its state and its domains replaced, where the states continue alike. Every
node holds at least its genesis. -/
inductive Twin (M : NodeModules T G₁ G₂) : Node T → Node T → Prop
  | mk (n : Node T) {t : AccountState T} (domains : ConsensusDomainRegistry)
      (hchain : n.chain ≠ []) (h : Continues M n.state t) :
      Twin M n { n with state := t, domainRegistry := domains }

variable {n m : Node T} {now : ℕ} {block : Block T} {c c' : AccountState T}

lemma index_of_checkBlock (h : n.checkBlock M now block = .ok ()) :
    block.index = n.chain.length := by
  unfold checkBlock at h
  split at h
  · cases h
  · simp only [refuseIf_ok, not_not] at h
    exact h.1

namespace Twin

lemma state (h : Twin M n m) : Continues M n.state m.state := by
  obtain ⟨_, _, hstate⟩ := h
  exact hstate

lemma checkBlock (h : Twin M n m) : m.checkBlock M now block = n.checkBlock M now block := by
  obtain ⟨domains, _, hstate⟩ := h
  have hengine := hstate.fullValidate n.consensus now block n.chain
  unfold checkBlock
  dsimp only
  rw [hengine]
  rfl

lemma commitState (h : Twin M n m) (hindex : block.index = n.chain.length) :
    Agrees (Continues M) (n.commitState M block) (m.commitState M block) := by
  obtain ⟨domains, hchain, hstate⟩ := h
  have hpos : 0 < block.index := hindex ▸ List.length_pos_iff.mpr hchain
  unfold commitState
  rw [if_pos hpos, if_pos hpos]
  exact hstate.replayBlock block n.chain _ _ _ _

lemma commitBlockDurable (h : Twin M n m) (hc : Continues M c c') :
    m.commitBlockDurable block c' = n.commitBlockDurable block c := by
  obtain ⟨domains, -, -⟩ := h
  obtain ⟨_, _, hl⟩ := hc
  have haccounts := hl.accounts
  unfold commitBlockDurable
  dsimp only
  rw [haccounts]

lemma withBlock (h : Twin M n m) (hc : Continues M c c') :
    Twin M (n.withBlock M block c) (m.withBlock M block c') := by
  obtain ⟨domains, hchain, -⟩ := h
  obtain ⟨unfreezes, height, hl⟩ := hc
  -- what is pruned from the engine depends on the height of the block only
  have hprune : ∀ (n : Node T) {t : AccountState T} (domains : ConsensusDomainRegistry),
      n.chain ≠ [] → Continues M n.state t →
      Twin M (n.pruneConsensusEvidenceAfterCommit block.index)
        ({ n with state := t, domainRegistry := domains }.pruneConsensusEvidenceAfterCommit
          block.index) := by
    intro n t domains hchain h
    unfold pruneConsensusEvidenceAfterCommit
    split_ifs
    · exact .mk { n with consensus := _ } domains hchain h
    · exact .mk n domains hchain h
  exact hprune _ _ (List.append_ne_nil_of_left_ne_nil hchain [block]) (.mk c.drained [] height hl)

end Twin

lemma respects_validateAndAddBlock (now : ℕ) (block : Block T) :
    Respects (Twin M) (validateAndAddBlock M now block) := by
  intro n m h
  have hadmit : ((admitTransactions M.toChainModules block 0 block.transactions).run
      { n.state with currentBlockHeight := block.index }).1 =
      ((admitTransactions M.toChainModules block 0 block.transactions).run
        { m.state with currentBlockHeight := block.index }).1 :=
    (respects_admitTransactions SameMap.rel block 0 _ _ _
      (h.state.atHeight block.index)).1
  change Matches (Twin M) (validateAndAddBlock M now block) (validateAndAddBlock M now block) n m
  unfold validateAndAddBlock
  apply read_bind
  apply ofExcept_bind h (.of_eq h.checkBlock.symm)
  intro _ _ hcheck _
  apply ofExcept_bind h (.of_eq hadmit)
  intro _ _ _ _
  apply ofExcept_bind h (h.commitState (index_of_checkBlock hcheck))
  intro c c' _ hc
  apply ofExcept_bind h (.of_eq (h.commitBlockDurable hc).symm)
  intro _ _ _ _
  exact ⟨congrArg Except.ok (h.state.collectNftBurnCids block), h.withBlock hc⟩

end Node

/-! ## States that executing blocks leads to -/

/-- The states that executing blocks leads to. A run starts at a new state or at a restored
snapshot; the genesis adds its allocations. A block then has its effects, commits to roots,
computes the state root and has its domain unfreezes taken out of the queue. -/
inductive Executed (M : NodeModules T G₁ G₂) (S : SnapshotModules T) : AccountState T → Prop
  | new {s : AccountState T} (hledger : s.ledger = new ∅)
      (hshare : s.pendingBudBoostShare = 0) : Executed M S s
  | restored (snapshot : StateSnapshotV2 T) :
      Executed M S (fromSnapshotV2 S snapshot).state
  | allocated {s : AccountState T} (hs : Executed M S s) (a : Address) (amount : ℕ) :
      Executed M S ((addBalance a amount : Exec (AccountState T) Empty Unit).run s).2
  | effects {s s' : AccountState T} (hs : Executed M S s) {block : Block T}
      {preceding : List (Block T)}
      (hrun : (applyBlockEffects M.toChainModules block preceding).run s = (.ok (), s')) :
      Executed M S s'
  | commitments {s : AccountState T} (hs : Executed M S s) (settlementRoot summary : Hash32) :
      Executed M S (s.withCommitments M settlementRoot summary)
  | root {s : AccountState T} (hs : Executed M S s) :
      Executed M S (s.calculateStateRoot M.toChainModules).2
  | drained {s : AccountState T} (hs : Executed M S s) : Executed M S s.drained

section

variable {S : SnapshotModules T} {s s' : AccountState T} {preceding : List (Block T)}

variable {block : Block T}

lemma Executed.blockReplays (hs : Executed M S s) {settlementRoot summary : Hash32}
    (h : BlockReplays M settlementRoot summary preceding block s s') : Executed M S s' := by
  obtain ⟨t, hrun, hroot⟩ := h
  have hleft := ((hs.effects hrun).commitments settlementRoot summary).root
  rw [hroot] at hleft
  exact hleft

lemma Node.preserves_executed (now : ℕ) (block : Block T) : Preserves
    (fun n : Node T => Executed M S n.state) (validateAndAddBlock M now block) := by
  intro n hs
  simp only [Node.validateAndAddBlock, wp_rules]
  refine ⟨fun _ _ => ⟨fun _ _ => ⟨fun c hcommit => ⟨fun _ _ => ?_, fun _ _ => hs⟩,
    fun _ _ => hs⟩, fun _ _ => hs⟩, fun _ _ => hs⟩
  rw [state_withBlock]
  apply Executed.drained
  unfold commitState at hcommit
  split_ifs at hcommit
  · obtain ⟨_, hreplay⟩ := outcome_eq_ok.mp hcommit
    exact hs.blockReplays (replayBlock_eq_ok.mp hreplay)
  · obtain ⟨_, heffects⟩ := outcome_eq_ok.mp hcommit
    exact hs.effects heffects

structure Settled (M : NodeModules T G₁ G₂) (s : AccountState T) : Prop where
  ledger : SameMap M.sha256 s.ledger s.ledger
  share : s.pendingBudBoostShare = 0

lemma AccountState.Like.ledger (h : Like L s s') : L s.ledger s'.ledger := by
  obtain ⟨_, hl⟩ := h
  exact hl

lemma SameMap.of_respects {ε α : Type} {x : Exec (AccountState T) ε α} {r : Except ε α}
    (hx : Respects (Like (SameMap M.sha256)) x) (h : SameMap M.sha256 s.ledger s.ledger)
    (hrun : x.run s = (r, s')) : SameMap M.sha256 s'.ledger s'.ledger := by
  have hlike : Like (SameMap M.sha256) s s := .mk s ⟨_, _, _, _, _⟩ h
  have hleft := (hx s s hlike).2.ledger
  change x s = _ at hrun
  rw [hrun] at hleft
  exact hleft

lemma SameMap.new {accounts : SortedMap Address Account} {sha256 : Bytes → Hash32}
    (h : (new accounts).Keyed) :
    SameMap sha256 (new accounts) (new accounts) :=
  ⟨rfl, h, coherent_of_keysDirty rfl, coherent_of_keysDirty rfl⟩

namespace Blockchain

lemma pendingBudBoostShare_distribute {M : ChainModules T} {u : Unit}
    (h : (distributeBudBoostShareInState M s.pendingBudBoostShare).run s = (.ok u, s')) :
    s'.pendingBudBoostShare = 0 := by
  unfold distributeBudBoostShareInState at h
  split_ifs at h with hzero
  · obtain ⟨-, rfl⟩ := run_pure_eq_ok.mp h
    exact hzero
  · obtain ⟨deals, t, -, h⟩ := run_bind_eq_ok.mp h
    dsimp only at h
    split_ifs at h
    · have hleft := run_modify_eq_ok.mp h
      rw [← hleft]
    · obtain ⟨_, t₁, -, h⟩ := run_bind_eq_ok.mp h
      obtain ⟨_, t₂, -, h⟩ := run_bind_eq_ok.mp h
      have hleft := run_modify_eq_ok.mp h
      rw [← hleft]

lemma pendingBudBoostShare_applyBlockEffects {M : ChainModules T} {u : Unit}
    (h : (applyBlockEffects M block preceding).run s = (.ok u, s')) :
    s'.pendingBudBoostShare = 0 := by
  unfold applyBlockEffects at h
  simp only [run_bind_eq_ok, run_read_eq_ok] at h
  obtain ⟨_, _, -, _, _, -, _, _, -, _, _, -, _, _, -, _, _, -, _, _, -, _, _, ⟨rfl, rfl⟩, h⟩ := h
  exact pendingBudBoostShare_distribute h

end Blockchain

lemma Executed.settled (h : Executed M S s) : Settled M s := by
  induction h with
  | new hledger hshare =>
    refine ⟨?_, hshare⟩
    rw [hledger]
    exact .new fun a account hget => by simp [AccountLedger.new] at hget
  | restored snapshot =>
    refine ⟨.new fun a account hget => ?_, rfl⟩
    obtain ⟨balance, -, rfl⟩ := get?_mapValues_eq_some.mp hget
    rfl
  | allocated _ a amount ih =>
    have hadd : Respects (Like (SameMap M.sha256))
        (addBalance a amount : Exec (AccountState T) Empty Unit) :=
      SameMap.rel.steps.getOrCreate_bind fun _ hw => SameMap.rel.steps.writeAccount hw
    exact ⟨.of_respects hadd ih.ledger rfl, ih.share⟩
  | effects _ hrun ih =>
    exact ⟨.of_respects (respects_applyBlockEffects SameMap.rel _ _) ih.ledger hrun,
      pendingBudBoostShare_applyBlockEffects hrun⟩
  | commitments _ settlementRoot summary ih => exact ⟨ih.ledger, ih.share⟩
  | root _ ih => exact ⟨ih.ledger.refresh, ih.share⟩
  | drained _ ih => exact ⟨ih.ledger, ih.share⟩

lemma Settled.continues (h : Settled M s) (record : Address → Option ℕ × List RoleId)
    (now : ℕ) (params : StateSnapshotV2Params) :
    Continues M s (fromSnapshotV2 S (fromState M.toChainModules S
      ⟨s, record⟩ now params)).state := by
  have haccounts : restoredAccounts (fromState M.toChainModules S
      ⟨s, record⟩ now params) = s.ledger.accounts := by
    apply ext_get?
    intro a
    simp only [restoredAccounts, fromState, unsealed, get?_mapValues]
    rcases hget : s.ledger.accounts.get? a with _ | ⟨key, balance, nonce⟩
    · rfl
    · have hkey : key = a := h.ledger.keyed a _ hget
      rw [hkey]
      rfl
  have hvalidators : (s.validators.mapValues fun a v =>
      (⟨v, (record a).1, (record a).2⟩ : ValidatorRecord)).mapValues
        (fun _ v => v.toValidator) = s.validators := by
    apply ext_get?
    intro a
    rw [get?_mapValues, get?_mapValues]
    rcases s.validators.get? a with _ | v
    · rfl
    · rfl
  have hledger : SameMap M.sha256 s.ledger (new (restoredAccounts
      (fromState M.toChainModules S ⟨s, record⟩ now params))) :=
    ⟨haccounts, h.ledger.keyed, h.ledger.coherent, coherent_of_keysDirty rfl⟩
  have hcontinues := Continues.mk s [] params.height hledger
  have hrestored : (fromSnapshotV2 S (fromState M.toChainModules S
      ⟨s, record⟩ now params)).state = { s with
        ledger := new (restoredAccounts (fromState
          M.toChainModules S ⟨s, record⟩ now params))
        pendingDomainUnfreezes := []
        currentBlockHeight := params.height
        pendingBudBoostShare := 0
        validators := (s.validators.mapValues fun a v =>
          (⟨v, (record a).1, (record a).2⟩ : ValidatorRecord)).mapValues
            (fun _ v => v.toValidator) } := rfl
  rw [hrestored, hvalidators, ← h.share]
  exact hcontinues

end

/-! ## Runs -/

/-- A block that is executed, with all of the node that executes it but its state. -/
structure BlockCall (T : ModuleTypes) where
  around : Node T
  started : around.chain ≠ []
  now : ℕ
  block : Block T

def BlockCall.execute (M : NodeModules T G₁ G₂) (c : BlockCall T) :
    Exec (AccountState T) String (List Hash32) := fun s =>
  let left := (validateAndAddBlock M c.now c.block).run { c.around with state := s }
  (left.1, left.2.state)

/-- Execute blocks one after the other and keep their verdicts. A refused block leaves the
state as it is. -/
def executeBlocks (M : NodeModules T G₁ G₂) (calls : List (BlockCall T)) :
    Exec (AccountState T) String (List (Except String (List Hash32))) :=
  attemptAll (calls.map (BlockCall.execute M))

lemma respects_execute (c : BlockCall T) : Respects (Continues M) (c.execute M) := by
  intro s t hst
  have htwin : Node.Twin M { c.around with state := s } { c.around with state := t } :=
    .mk { c.around with state := s } c.around.domainRegistry c.started hst
  obtain ⟨hverdict, hleft⟩ := respects_validateAndAddBlock c.now c.block _ _ htwin
  exact ⟨hverdict, hleft.state⟩

lemma respects_executeBlocks (calls : List (BlockCall T)) :
    Respects (Continues M) (executeBlocks M calls) := by
  apply Respects.attemptAll
  intro x hx
  obtain ⟨c, -, rfl⟩ := List.mem_map.mp hx
  exact respects_execute c

/-- A state that executing blocks led to and the state restored from its snapshot take the
same blocks, and have the same balances and the same root after them. -/
theorem restored_state_goes_on (S : SnapshotModules T) {s : AccountState T}
    (hs : Executed M S s) (record : Address → Option ℕ × List RoleId) (now : ℕ)
    (params : StateSnapshotV2Params) (calls : List (BlockCall T)) :
    let snapshot := fromState M.toChainModules S ⟨s, record⟩ now params
    let old := (executeBlocks M calls).run s
    let restored := (executeBlocks M calls).run (fromSnapshotV2 S snapshot).state
    restored.1 = old.1 ∧ (∀ a, restored.2.getBalance a = old.2.getBalance a) ∧
      (restored.2.calculateStateRoot M.toChainModules).1 =
        (old.2.calculateStateRoot M.toChainModules).1 := by
  have hcontinues := hs.settled.continues (S := S) record now params
  obtain ⟨hverdicts, hleft⟩ := respects_executeBlocks calls _ _ hcontinues
  exact ⟨hverdicts.symm, hleft.getBalance, hleft.calculateStateRoot⟩

/-- An account of the genesis, a snapshot at the first block, and the block after it. -/
theorem restored_state_goes_on_block :
    let s := ((addBalance ⟨7⟩ 100 : Exec _ Empty Unit).run point).2
    let snapshot := fromState NodeModules.refusing.toChainModules
      .point ⟨s, fun _ => (none, [])⟩ 0 ⟨0, "0/0", "0/0", 1, 0, "0/0", []⟩
    let calls := [⟨Node.plain .empty, by simp [Node.plain], 10000, Block.plain 1 1000 "0/0"⟩]
    let old := (executeBlocks .refusing calls).run s
    let restored := (executeBlocks .refusing calls).run
      (fromSnapshotV2 .point snapshot).state
    (old.1 = .ok [.ok []] ∧ old.2.getBalance ⟨7⟩ = 100) ∧
      restored.1 = old.1 ∧ (∀ a, restored.2.getBalance a = old.2.getBalance a) ∧
      (restored.2.calculateStateRoot NodeModules.refusing.toChainModules).1 =
        (old.2.calculateStateRoot NodeModules.refusing.toChainModules).1 :=
  ⟨by decide +kernel, restored_state_goes_on .point
    (.allocated (.new rfl rfl) ⟨7⟩ 100) _ 0 _ _⟩

/-! ## A node that is offered blocks -/

/-- Offer blocks to a node one after the other, each at its reading of the clock. -/
def Node.offerBlocks (M : NodeModules T G₁ G₂) (offers : List (ℕ × Block T)) :
    Method T (List (Except String (List Hash32))) :=
  attemptAll (offers.map fun offer => validateAndAddBlock M offer.1 offer.2)

/-- Whatever blocks a node is offered and whichever of them it refuses, its accounts stand under
their own keys, no boost share waits, and the cached tree has the root of all accounts. -/
theorem Node.imported_state_settled (S : SnapshotModules T) {n : Node T}
    (hs : Executed M S n.state) (offers : List (ℕ × Block T)) :
    let s := ((offerBlocks M offers).run n).2.state
    s.ledger.Keyed ∧ s.pendingBudBoostShare = 0 ∧
      (s.ledger.refresh M.sha256).accountsRoot = s.ledger.rootFromScratch M.sha256 := by
  have hall : Preserves (fun n : Node T => Executed M S n.state) (offerBlocks M offers) := by
    apply Preserves.attemptAll
    intro x hx
    obtain ⟨offer, -, rfl⟩ := List.mem_map.mp hx
    exact preserves_executed offer.1 offer.2
  have hleft := (hall.run hs).settled
  exact ⟨hleft.ledger.keyed, hleft.share, accountsRoot_refresh hleft.ledger.coherent⟩

/-- A node with an account refuses a block on another chain, and takes one later. -/
theorem Node.imported_state_settled_refusal :
    let n := { plain .empty with state := ((addBalance ⟨7⟩ 100 : Exec _ Empty Unit).run point).2 }
    let left := (offerBlocks .refusing [(10000, Block.plain 1 1000 "other"),
      (20000, Block.plain 1 1000 "0/0")]).run n
    (∃ e, left.1 = .ok [.error e, .ok []]) ∧ left.2.state.getBalance ⟨7⟩ = 100 ∧
      left.2.state.ledger.Keyed ∧ left.2.state.pendingBudBoostShare = 0 ∧
      (left.2.state.ledger.refresh NodeModules.refusing.sha256).accountsRoot =
        left.2.state.ledger.rootFromScratch NodeModules.refusing.sha256 :=
  ⟨⟨_, rfl⟩, by decide +kernel,
    imported_state_settled .point (.allocated (.new rfl rfl) ⟨7⟩ 100) _⟩

end Budlum
