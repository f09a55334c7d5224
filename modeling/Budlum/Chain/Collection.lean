import Budlum.Chain.BlockEffects
import Budlum.Execution.ErrorAtomicity
import Budlum.Execution.Likeness
import Budlum.Execution.Ranges

/-!
# The transactions of a produced block

`collect_block_transactions` tries the pool's transactions on a scratch state, round
after round, until a round takes none. The scratch state is kept when a transaction
fails, so it may hold what the failed transaction wrote, while a validator replays the
taken transactions alone. Where failures leave no trace the two states stay alike, and
the validator accepts what the producer took.
-/

namespace Budlum.Blockchain

open Machine AccountState Exec Executor List

variable {T : ModuleTypes} (M : Modules T)

/-- What the loop of `collect_block_transactions` carries. -/
structure Collection (T : ModuleTypes) where
  validTxs : List (Transaction T)
  included : List String
  tempState : AccountState T
  progress : Bool

namespace Collection

/-- One turn of the inner loop. The source leaves the round when the block is full; here
a full block passes over what is left. -/
def visit (k : Collection T) (tx : Transaction T) : Collection T :=
  if maxTransactionsPerBlock ≤ k.validTxs.length then k
  else if tx.hash ∈ k.included then k
  else match k.tempState.validateTransaction M tx with
    | .error _ => k
    | .ok () =>
      match (applyTransactionChecked M tx).run k.tempState with
      | (.ok (), tempState) =>
        { validTxs := k.validTxs ++ [tx], included := tx.hash :: k.included, tempState,
          progress := true }
      | (.error _, tempState) => { k with tempState }

def round (pending : List (Transaction T)) (k : Collection T) : Collection T :=
  pending.foldl (visit M) { k with progress := false }

def Continues (k : Collection T) : Prop :=
  k.progress = true ∧ k.validTxs.length < maxTransactionsPerBlock

instance (k : Collection T) : Decidable k.Continues := inferInstanceAs (Decidable (_ ∧ _))

/-- The outer loop, for at most `n` rounds. -/
def rounds (pending : List (Transaction T)) : ℕ → Collection T → Collection T
  | 0, k => k
  | n + 1, k => if k.Continues then rounds pending n (round M pending k) else k

end Collection

/-- The state that the next block is tried on: the current one at the next height. -/
def prospectiveState (c : Blockchain T) : AccountState T :=
  { c.state with currentBlockHeight := c.chain.length }

def emptyCollection (c : Blockchain T) : Collection T :=
  { validTxs := [], included := [], tempState := c.prospectiveState, progress := true }

/-- The loop of `collect_block_transactions` on the transactions that the pool gives.
Every round but the last takes a transaction, so this many rounds are enough. -/
def collection (pending : List (Transaction T)) (c : Blockchain T) : Collection T :=
  Collection.rounds M pending (maxTransactionsPerBlock + 1) c.emptyCollection

def collectBlockTransactions (pending : List (Transaction T)) (c : Blockchain T) :
    List (Transaction T) :=
  (collection M pending c).validTxs

/-! ## The loop ends -/

namespace Collection

variable {M} {pending : List (Transaction T)} {k : Collection T}

lemma length_lt_round (hprogress : (round M pending k).progress = true) :
    k.validTxs.length < (round M pending k).validTxs.length := by
  have hturns : ∀ (txs : List (Transaction T)) (j : Collection T),
      k.validTxs.length ≤ j.validTxs.length →
        (j.progress = true → k.validTxs.length < j.validTxs.length) →
        (txs.foldl (visit M) j).progress = true →
          k.validTxs.length < (txs.foldl (visit M) j).validTxs.length := by
    intro txs
    induction txs with
    | nil => exact fun j _ hj hdone => hj hdone
    | cons tx rest ih =>
      intro j hle hj
      refine ih (visit M j tx) ?_ ?_
      all_goals
        unfold visit
        split_ifs
        · assumption
        · assumption
        · split
          · assumption
          · split
            · simp
              omega
            · assumption
  exact hturns pending _ le_rfl (by simp) hprogress

lemma rounds_ended {n : ℕ} (hn : maxTransactionsPerBlock < k.validTxs.length + n) :
    ¬ (rounds M pending n k).Continues := by
  induction n generalizing k with
  | zero =>
    intro h
    have := h.2
    unfold rounds at this
    omega
  | succ n ih =>
    unfold rounds
    split_ifs with hgo
    · by_cases hprogress : (round M pending k).progress = true
      · have hmore := length_lt_round hprogress
        exact ih (by omega)
      · cases n with
        | zero => exact fun h => hprogress h.1
        | succ n =>
          unfold rounds
          rw [if_neg fun h => hprogress h.1]
          exact fun h => hprogress h.1
    · exact hgo

end Collection

/-- The rounds that are run are all that the source runs: the last one left the loop. -/
theorem collection_ended (pending : List (Transaction T)) (c : Blockchain T) :
    ¬ (collection M pending c).Continues :=
  Collection.rounds_ended (by simp [emptyCollection])

/-! ## Replaying what was taken -/

/-- Each transaction is valid and applies, in order. -/
inductive Replays : AccountState T → List (Transaction T) → AccountState T → Prop
  | nil (s : AccountState T) : Replays s [] s
  | cons {s s' s'' : AccountState T} {tx : Transaction T} {rest : List (Transaction T)}
      (hvalid : s.validateTransaction M tx = .ok ())
      (happly : (applyTransactionChecked M tx).run s = (.ok (), s'))
      (hrest : Replays s' rest s'') : Replays s (tx :: rest) s''

variable {M}

variable {s s' : AccountState T} {txs : List (Transaction T)}

lemma Replays.snoc {s'' : AccountState T} {tx : Transaction T}
    (h : Replays M s txs s') (hvalid : s'.validateTransaction M tx = .ok ())
    (happly : (applyTransactionChecked M tx).run s' = (.ok (), s'')) :
    Replays M s (txs ++ [tx]) s'' := by
  induction h with
  | nil s => exact .cons hvalid happly (.nil _)
  | cons hvalid' happly' _ ih => exact .cons hvalid' happly' (ih hvalid happly)

lemma Replays.unique {s'' : AccountState T} (h : Replays M s txs s') (h' : Replays M s txs s'') :
    s' = s'' := by
  induction h with
  | nil s => cases h'; rfl
  | cons _ happly _ ih =>
    cases h' with
    | cons _ happly' hrest' =>
      obtain rfl := (Prod.ext_iff.mp (happly.symm.trans happly')).2
      exact ih hrest'

namespace Collection

variable (M)

/-- The transaction is tried: the block has room, does not hold it yet, and it is valid. -/
def Tries (k : Collection T) (tx : Transaction T) : Prop :=
  k.validTxs.length < maxTransactionsPerBlock ∧ tx.hash ∉ k.included ∧
    k.tempState.validateTransaction M tx = .ok ()

/-- The turns of a round, each with what the loop carries before it. -/
def turns : List (Transaction T) → Collection T → List (Collection T × Transaction T)
  | [], _ => []
  | tx :: rest, k => (k, tx) :: turns rest (k.visit M tx)

/-- The turns of at most `n` rounds. -/
def allTurns (pending : List (Transaction T)) : ℕ → Collection T →
    List (Collection T × Transaction T)
  | 0, _ => []
  | n + 1, k =>
    if k.Continues then
      turns M pending { k with progress := false } ++ allTurns pending n (k.round M pending)
    else []

/-- What was taken replays from `s`, to the scratch state but for its caches. -/
def Replayed (s : AccountState T) (k : Collection T) : Prop :=
  ∃ s', Replays M s k.validTxs s' ∧ Same s' k.tempState

variable {M}

/-- What holds of the loop whatever fails: transactions of the pool, and a state in range. -/
structure Sound (pending : List (Transaction T)) (k : Collection T) : Prop where
  mem : ∀ tx ∈ k.validTxs, tx ∈ pending
  inRange : k.tempState.InRange

variable {pending txs : List (Transaction T)} {s : AccountState T} {k : Collection T}
  {tx : Transaction T}

lemma Sound.visit (h : k.Sound pending) (htx : tx ∈ pending) (ht : tx.InRange) :
    (k.visit M tx).Sound pending := by
  have hrange := (ranged_applyTransactionChecked (M := M) ht).run h.inRange
  unfold Collection.visit
  split_ifs
  · exact h
  · exact h
  · split
    · exact h
    · split
      · rename_i hrun
        rw [hrun] at hrange
        refine ⟨fun tx' hmem => ?_, hrange⟩
        rcases mem_append.mp hmem with hmem | hmem
        · exact h.mem tx' hmem
        · rwa [mem_singleton.mp hmem]
      · rename_i hrun
        rw [hrun] at hrange
        exact ⟨h.mem, hrange⟩

section

variable (hM : M.Refusals)
include hM

/-- A turn keeps the replay and the scratch state together exactly if it does not fail late. -/
lemma Replayed.visit_iff (h : k.Replayed M s) (hrange : k.tempState.InRange) (ht : tx.InRange) :
    (k.visit M tx).Replayed M s ↔ (k.Tries M tx → ¬ LateFailure M k.tempState tx) := by
  obtain ⟨s', hreplays, hsame⟩ := h
  rw [← traceless_applyTransactionChecked_iff hM hrange ht]
  unfold Collection.visit Tries
  split_ifs with hfull hincluded
  · exact iff_of_true ⟨s', hreplays, hsame⟩ fun h => absurd h.1 hfull.not_gt
  · exact iff_of_true ⟨s', hreplays, hsame⟩ fun h => absurd hincluded h.2.1
  rcases hvalid : k.tempState.validateTransaction M tx with _ | _
  · exact iff_of_true ⟨s', hreplays, hsame⟩ nofun
  rcases hrun : (applyTransactionChecked M tx).run k.tempState with ⟨_ | _, t⟩
  · -- nothing was taken, so the replay stands where it stood
    have htraceless : Traceless k.tempState (applyTransactionChecked M tx) ↔
        Same k.tempState t := by
      have hx : applyTransactionChecked M tx k.tempState = _ := hrun
      rw [Traceless, wp, hx]
    rw [htraceless]
    constructor
    · rintro ⟨s'', hreplays', hsame'⟩ -
      rw [← hreplays.unique hreplays'] at hsame'
      exact hsame.symm.trans hsame'
    · intro h
      exact ⟨s', hreplays, hsame.trans (h ⟨not_le.mp hfull, hincluded, rfl⟩)⟩
  · have hrespects : Respects Same (applyTransactionChecked M tx) :=
      Same.steps.applyTransactionChecked trivial
    obtain ⟨s'', hrun', hsame'⟩ := hrespects.run_eq_left hsame hrun
    have hvalid' : s'.validateTransaction M tx = .ok () := by
      rw [← hsame.validateTransaction, hvalid]
    exact iff_of_true ⟨s'', hreplays.snoc hvalid' hrun', hsame'⟩ fun _ =>
      (wp_iff_of_run hrun).mpr trivial

end

section

variable (hpool : ∀ tx ∈ pending, tx.InRange)
include hpool

lemma Sound.foldl_visit (hk : k.Sound pending) (htxs : ∀ tx ∈ txs, tx ∈ pending) :
    (txs.foldl (Collection.visit M) k).Sound pending := by
  induction txs generalizing k with
  | nil => exact hk
  | cons tx rest ih =>
    obtain ⟨htx, hrest⟩ := forall_mem_cons.mp htxs
    exact ih (hk.visit htx (hpool tx htx)) hrest

lemma Sound.round (hk : k.Sound pending) : (k.round M pending).Sound pending :=
  Sound.foldl_visit hpool ⟨hk.mem, hk.inRange⟩ fun _ htx => htx

lemma Sound.rounds (hk : k.Sound pending) (n : ℕ) : (k.rounds M pending n).Sound pending := by
  induction n generalizing k with
  | zero => exact hk
  | succ n ih =>
    unfold Collection.rounds
    split_ifs
    · exact ih (hk.round hpool)
    · exact hk

variable (hM : M.Refusals)
include hM

lemma Replayed.turns_iff (h : k.Replayed M s) (hk : k.Sound pending)
    (htxs : ∀ tx ∈ txs, tx ∈ pending) :
    (∀ turn ∈ turns M txs k, (turn.1.visit M turn.2).Replayed M s) ↔
      ∀ turn ∈ turns M txs k, turn.1.Tries M turn.2 → ¬ LateFailure M turn.1.tempState turn.2 := by
  induction txs generalizing k with
  | nil => simp [turns]
  | cons tx rest ih =>
    obtain ⟨htx, hrest⟩ := forall_mem_cons.mp htxs
    have hrange := hpool tx htx
    rw [turns, forall_mem_cons, forall_mem_cons, ← h.visit_iff hM hk.inRange hrange]
    exact and_congr_right fun hvisit => ih hvisit (hk.visit htx hrange) hrest

omit hpool hM in
lemma Replayed.foldl_visit (h : k.Replayed M s)
    (hturns : ∀ turn ∈ turns M txs k, (turn.1.visit M turn.2).Replayed M s) :
    (txs.foldl (visit M) k).Replayed M s := by
  induction txs generalizing k with
  | nil => exact h
  | cons tx rest ih =>
    obtain ⟨hvisit, hrest⟩ := forall_mem_cons.mp hturns
    exact ih hvisit hrest

lemma Replayed.allTurns_iff (h : k.Replayed M s) (hk : k.Sound pending) (n : ℕ) :
    (∀ turn ∈ allTurns M pending n k, (turn.1.visit M turn.2).Replayed M s) ↔
      ∀ turn ∈ allTurns M pending n k,
        turn.1.Tries M turn.2 → ¬ LateFailure M turn.1.tempState turn.2 := by
  induction n generalizing k with
  | zero => simp [allTurns]
  | succ n ih =>
    unfold allTurns
    split_ifs
    · -- a round that keeps together hands a collection on that does
      have hround : Replayed M s { k with progress := false } := h
      rw [forall_mem_append, forall_mem_append,
        ← hround.turns_iff hpool hM ⟨hk.mem, hk.inRange⟩ fun _ htx => htx]
      exact and_congr_right fun hturns => ih (hround.foldl_visit hturns) (hk.round hpool)
    · simp

omit hpool hM in
lemma mem_of_mem_turns {turn : Collection T × Transaction T} (h : turn ∈ turns M txs k) :
    turn.2 ∈ txs := by
  induction txs generalizing k with
  | nil => cases h
  | cons tx rest ih =>
    rcases mem_cons.mp h with rfl | h
    · exact mem_cons_self
    · exact mem_cons_of_mem _ (ih h)

omit hpool hM in
lemma mem_of_mem_allTurns {turn : Collection T × Transaction T} {n : ℕ}
    (h : turn ∈ allTurns M pending n k) : turn.2 ∈ pending := by
  induction n generalizing k with
  | zero => cases h
  | succ n ih =>
    unfold allTurns at h
    split_ifs at h
    · rcases mem_append.mp h with h | h
      · exact mem_of_mem_turns h
      · exact ih h
    · cases h

omit hpool hM in
lemma Replayed.rounds (h : k.Replayed M s) (n : ℕ)
    (hturns : ∀ turn ∈ allTurns M pending n k, (turn.1.visit M turn.2).Replayed M s) :
    (k.rounds M pending n).Replayed M s := by
  induction n generalizing k with
  | zero => exact h
  | succ n ih =>
    unfold allTurns at hturns
    unfold Collection.rounds
    split_ifs at hturns ⊢
    · obtain ⟨hround, hrest⟩ := forall_mem_append.mp hturns
      have hstart : Replayed M s { k with progress := false } := h
      exact ih (hstart.foldl_visit hround) hrest
    · exact h

end

end Collection

lemma Replays.admitTransactions {M : ChainModules T} {block : Block T}
    (h : Replays M.toModules s txs s')
    (hown : ∀ tx ∈ txs, tx.chainId = block.chainId ∧ tx.sender ≠ .zero) (i : ℕ) :
    (admitTransactions M block i txs).run s = (.ok (), s') := by
  induction h generalizing i with
  | nil s => rfl
  | @cons s s' _ tx rest hvalid happly _ ih =>
    obtain ⟨hchain, hsender⟩ := hown tx (by simp)
    have hrest := ih (fun tx' hmem => hown tx' (by simp [hmem])) (i + 1)
    have hadmit : (admitTransaction M block i tx).run s = (.ok (), s') := by
      apply run_eq_ok
      unfold admitTransaction
      split_ifs <;>
        simp only [wp_rules, wp_mapError, hvalid]
      · exact ⟨fun h => h hchain, fun _ => ⟨fun h => hsender h.2, fun _ =>
          ⟨fun _ _ => (wp_iff_of_run happly).mpr ⟨trivial, rfl⟩, fun _ h => by cases h⟩⟩⟩
      · exact ⟨fun h => h hchain, fun _ => ⟨fun h => hsender h.2, fun _ =>
          (wp_iff_of_run happly).mpr ⟨trivial, rfl⟩⟩⟩
    apply run_eq_ok
    unfold Blockchain.admitTransactions
    rw [wp_bind_of_run hadmit]
    exact (wp_iff_of_run hrest).mpr ⟨rfl, rfl⟩

def collectionTurns (M : Modules T) (pending : List (Transaction T)) (c : Blockchain T) :
    List (Collection T × Transaction T) :=
  Collection.allTurns M pending (maxTransactionsPerBlock + 1) c.emptyCollection

/-- No transaction that the collector tries fails after it has written. -/
def NoLateFailure (M : Modules T) (pending : List (Transaction T)) (c : Blockchain T) : Prop :=
  ∀ turn ∈ collectionTurns M pending c,
    turn.1.Tries M turn.2 → ¬ LateFailure M turn.1.tempState turn.2

/-- After every turn what was taken replays to the scratch state exactly if none fails late. Then
a validator accepts what is collected: it replays from the current state, and the transaction
loop of the block takes it. -/
theorem collected_transactions_replay {M : ChainModules T} (hM : M.Refusals)
    {pending : List (Transaction T)} {c : Blockchain T} (hs : c.state.InRange)
    (ht : ∀ tx ∈ pending, tx.InRange) :
    ((∀ turn ∈ collectionTurns M.toModules pending c,
        (turn.1.visit M.toModules turn.2).Replayed M.toModules c.prospectiveState) ↔
      NoLateFailure M.toModules pending c) ∧
    (NoLateFailure M.toModules pending c →
      ∃ s, Replays M.toModules c.prospectiveState
          (collectBlockTransactions M.toModules pending c) s ∧
        ∀ block : Block T, (∀ tx ∈ pending, tx.chainId = block.chainId ∧ tx.sender ≠ .zero) →
          (admitTransactions M block 0 (collectBlockTransactions M.toModules pending c)).run
            c.prospectiveState = (.ok (), s)) := by
  have hstart : c.emptyCollection.Replayed M.toModules c.prospectiveState :=
    ⟨_, .nil _, .refl _⟩
  have hsound : c.emptyCollection.Sound pending :=
    ⟨by simp [emptyCollection], ⟨hs.balance, hs.stake, hs.pendingBudBoostShare⟩⟩
  have hiff := hstart.allTurns_iff ht hM hsound (maxTransactionsPerBlock + 1)
  refine ⟨hiff, fun hlate => ?_⟩
  obtain ⟨s, hreplays, -⟩ := hstart.rounds _ (hiff.mpr hlate)
  have hend := hsound.rounds (M := M.toModules) ht (maxTransactionsPerBlock + 1)
  exact ⟨s, hreplays, fun block hown =>
    hreplays.admitTransactions (fun tx hmem => hown tx (hend.mem tx hmem)) 0⟩

/-- A chain whose one validator holds a thousand units. -/
def voterChain : Blockchain .point where
  chain := []
  storage := none
  state :=
    { point.setAccount ⟨1⟩ (Account.withBalance ⟨1⟩ 1000) with
      validators := (∅ : SortedMap Address Validator).insert ⟨1⟩ (Validator.new ⟨1⟩ 5) }
  domainRegistry := ∅
  domainCommitmentRegistry := ∅
  universalRelayer := UniversalRelayer.new

/-- A transaction of that validator with a fee of ten. -/
def voterTransaction (hash : String) (nonce : ℕ) (recipient : Address) (data : Bytes)
    (txType : TransactionType .point) : Transaction .point :=
  { hash, sender := ⟨1⟩, recipient, amount := 0, fee := 10, maxFee := 10, priorityFee := 0, nonce
    data, chainId := 1, txType }

lemma voterChain_inRange : voterChain.state.InRange where
  balance a := by
    change (point.setAccount ⟨1⟩ (Account.withBalance ⟨1⟩ 1000)).getBalance a ≤ u64Max
    rw [getBalance_setAccount]
    split_ifs
    · decide
    · exact Nat.zero_le _
  stake a v h := by
    change (SortedMap.insert ∅ ⟨1⟩ (Validator.new ⟨1⟩ 5)).get? a = some v at h
    rw [SortedMap.get?_insert] at h
    split_ifs at h with ha
    · cases h
      decide
    · cases h
  pendingBudBoostShare := Nat.zero_le _

/-- Two tags, the first of which has to wait a round for its nonce. -/
def waitingPool : List (Transaction .point) :=
  [voterTransaction "second" 1 ⟨2⟩ [] .nftTag, voterTransaction "first" 0 ⟨2⟩ [] .nftTag]

theorem collected_transactions_replay_waiting :
    collectBlockTransactions .refusing waitingPool voterChain = waitingPool.reverse ∧
      ∃ s, Replays .refusing voterChain.prospectiveState
        (collectBlockTransactions .refusing waitingPool voterChain) s := by
  refine ⟨by decide +kernel, ?_⟩
  have hrange : ∀ tx ∈ waitingPool, tx.InRange := by
    simp only [waitingPool, forall_mem_cons]
    exact ⟨⟨by decide, by decide⟩, ⟨by decide, by decide⟩, nofun⟩
  have hlate : ∀ s, ∀ tx ∈ waitingPool, ¬ LateFailure .refusing s tx := by
    simp only [waitingPool, forall_mem_cons]
    exact fun s => ⟨fun h => h.2.2.2.2, fun h => h.2.2.2.2, nofun⟩
  obtain ⟨s, hs, -⟩ := (@collected_transactions_replay _ .refusing Modules.refusing_refusals
    waitingPool voterChain voterChain_inRange hrange).2
      fun turn hturn _ => hlate _ turn.2 (Collection.mem_of_mem_allTurns hturn)
  exact ⟨s, hs⟩

/-- A proposal that does not decode fails after it has paid and spent its nonce. The
collector then takes the transfer with the next nonce alone, and no validator does. -/
theorem collected_transfer_refused :
    let vote := voterTransaction "vote" 0 .zero (replicate 10 0) .vote
    let transfer := voterTransaction "transfer" 1 ⟨2⟩ [] .transfer
    collectBlockTransactions .refusing [vote, transfer] voterChain = [transfer] ∧
      voterChain.prospectiveState.validateTransaction .refusing transfer =
        .error "Invalid nonce: expected 0, got 1" ∧
      ¬ ∃ s, Replays .refusing voterChain.prospectiveState
        (collectBlockTransactions .refusing [vote, transfer] voterChain) s := by
  intro vote transfer
  have htaken : collectBlockTransactions .refusing [vote, transfer] voterChain =
      [transfer] := by decide +kernel
  have hrefused : voterChain.prospectiveState.validateTransaction .refusing transfer =
      .error "Invalid nonce: expected 0, got 1" := by decide +kernel
  refine ⟨htaken, hrefused, ?_⟩
  rintro ⟨s, hreplays⟩
  rw [htaken] at hreplays
  cases hreplays with
  | cons hvalid _ _ => exact nomatch hrefused.symm.trans hvalid

end Budlum.Blockchain
