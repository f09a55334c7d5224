import Budlum.Chain.Node

/-!
# What a reorganisation leaves behind

`validate_candidate_chain`, `rebuild_state` and the loop at the end of `try_reorg` replay
the same blocks on the same states. So once a candidate is validated nothing can fail
but the disk, and what is adopted is the replayed state with what the disk adds to it.

* `try_reorg` replaces chain and state before it writes to the disk. When the disk
  refuses, it reports an error and keeps the new chain.
* The adopted state is the replayed one exactly when the disk holds no higher nonce, no
  other bridge state and no other messages.
-/

namespace Budlum

open Machine AccountState Exec List Nat

variable {T : ModuleTypes} {G₁ G₂ : Type} {M : NodeModules T G₁ G₂}

/-! ## Replays -/

/-- A block leads from `s` to `s'`: its effects apply and its state root is the one
that follows. -/
def BlockReplays (M : NodeModules T G₁ G₂) (settlementRoot globalHeaderSummary : Hash32)
    (preceding : List (Block T)) (block : Block T) (s s' : AccountState T) : Prop :=
  ∃ t, (Blockchain.applyBlockEffects M.toChainModules block preceding).run s = (.ok (), t) ∧
    (t.withCommitments M settlementRoot globalHeaderSummary).calculateStateRoot M.toChainModules =
      (block.stateRoot, s')

variable {preceding rest : List (Block T)} {settlementRoot globalHeaderSummary : Hash32}
  {s s' t t' : AccountState T}

variable {u : Unit} {block : Block T}

lemma replayBlock_eq_ok {effectsText mismatchText : String → String} :
    (replayBlock M block preceding settlementRoot globalHeaderSummary effectsText
        mismatchText).run s = (.ok u, s') ↔
      BlockReplays M settlementRoot globalHeaderSummary preceding block s s' := by
  unfold replayBlock BlockReplays
  simp only [run_bind_eq_ok, run_mapError_eq_ok, run_modify_eq_ok, run_failIf_eq_ok, not_not]
  constructor
  · rintro ⟨_, t, hrun, _, _, rfl, root, t', hroot, hmatch, rfl⟩
    refine ⟨t, hrun, ?_⟩
    cases hroot
    exact Prod.ext hmatch rfl
  · rintro ⟨t, hrun, hroot⟩
    refine ⟨(), t, hrun, (), _, rfl, block.stateRoot, s', ?_, rfl, rfl⟩
    exact congrArg (fun r : String × AccountState T => (Except.ok r.1, r.2)) hroot

/-- A block of a chain without settlement headers leads from `s` to `s'`. -/
abbrev PlainReplays (M : NodeModules T G₁ G₂) (preceding : List (Block T)) (block : Block T)
    (s s' : AccountState T) : Prop :=
  BlockReplays M (emptySettlementRoot M) GlobalBlockHeader.zeroRoot preceding block s s'

lemma BlockReplays.unique
    (h : BlockReplays M settlementRoot globalHeaderSummary preceding block s t)
    (h' : BlockReplays M settlementRoot globalHeaderSummary preceding block s t') : t = t' := by
  obtain ⟨u, hrun, hroot⟩ := h
  obtain ⟨u', hrun', hroot'⟩ := h'
  obtain rfl : u = u' := (Prod.mk.inj (hrun.symm.trans hrun')).2
  exact (Prod.mk.inj (hroot.symm.trans hroot')).2

/-- The blocks `rest` after `preceding` lead from `s` to `s'`. -/
inductive ChainReplays (M : NodeModules T G₁ G₂) :
    List (Block T) → List (Block T) → AccountState T → AccountState T → Prop
  | nil (preceding : List (Block T)) (s : AccountState T) : ChainReplays M preceding [] s s
  | cons {preceding : List (Block T)} {block : Block T} {rest : List (Block T)}
      {s t s' : AccountState T} (hblock : PlainReplays M preceding block s t)
      (hrest : ChainReplays M (preceding ++ [block]) rest t s') :
      ChainReplays M preceding (block :: rest) s s'

lemma ChainReplays.unique
    (h : ChainReplays M preceding rest s t) (h' : ChainReplays M preceding rest s t') : t = t' := by
  induction h with
  | nil => cases h'; rfl
  | cons hblock _ ih =>
    cases h' with
    | cons hblock' hrest' =>
      cases hblock.unique hblock'
      exact ih hrest'

lemma chainReplays_append {xs ys : List (Block T)} : ChainReplays M preceding (xs ++ ys) s s' ↔
      ∃ t, ChainReplays M preceding xs s t ∧ ChainReplays M (preceding ++ xs) ys t s' := by
  induction xs generalizing preceding s with
  | nil =>
    constructor
    · intro h
      exact ⟨s, .nil _ _, by simpa using h⟩
    · rintro ⟨t, hnil, h⟩
      cases hnil
      simpa using h
  | cons block xs ih =>
    constructor
    · rintro (_ | ⟨hblock, hrest⟩)
      obtain ⟨t, hxs, hys⟩ := ih.mp hrest
      exact ⟨t, .cons hblock hxs, by simpa using hys⟩
    · rintro ⟨t, _ | ⟨hblock, hxs⟩, hys⟩
      exact .cons hblock (ih.mpr ⟨t, hxs, by simpa using hys⟩)

lemma rebuildBlocks_eq_ok :
    (rebuildBlocks M preceding rest).run s = (.ok u, s') ↔ ChainReplays M preceding rest s s' := by
  induction rest generalizing preceding s with
  | nil =>
    rw [rebuildBlocks, run_pure_eq_ok]
    constructor
    · rintro ⟨-, rfl⟩
      exact .nil _ _
    · rintro ⟨⟩
      exact ⟨rfl, rfl⟩
  | cons block rest ih =>
    rw [rebuildBlocks, run_bind_eq_ok]
    constructor
    · rintro ⟨_, t, hblock, hrest⟩
      exact .cons (replayBlock_eq_ok.mp hblock) (ih.mp hrest)
    · rintro (_ | ⟨hblock, hrest⟩)
      exact ⟨(), _, replayBlock_eq_ok.mpr hblock, ih.mpr hrest⟩

namespace Node

variable {n : Node T} {now : ℕ}

variable {preceding rest chain newChain : List (Block T)} {s s' t newState : AccountState T}

lemma validateCandidateBlock_replays
    (h : (n.validateCandidateBlock M now preceding block).run s = (.ok u, s')) :
    block.index = preceding.length ∧ PlainReplays M preceding block s s' := by
  unfold validateCandidateBlock at h
  simp only [run_bind_eq_ok, run_read_eq_ok, run_ofExcept_eq_ok] at h
  obtain ⟨_, _, ⟨rfl, rfl⟩, _, _, ⟨hcheck, rfl⟩, _, _, ⟨-, rfl⟩, hreplay⟩ := h
  refine ⟨?_, replayBlock_eq_ok.mp hreplay⟩
  unfold checkCandidate at hcheck
  by_contra hne
  rw [refuseIf, if_pos (.inl hne)] at hcheck
  cases hcheck

lemma validateCandidateBlocks_replays
    (h : (n.validateCandidateBlocks M now preceding rest).run s = (.ok u, s')) :
    ChainReplays M preceding rest s s' ∧
      ∀ i block, rest[i]? = some block → block.index = preceding.length + i := by
  induction rest generalizing preceding s with
  | nil =>
    rw [validateCandidateBlocks, run_pure_eq_ok] at h
    obtain ⟨-, rfl⟩ := h
    exact ⟨.nil _ _, by simp⟩
  | cons block rest ih =>
    rw [validateCandidateBlocks, run_bind_eq_ok] at h
    obtain ⟨_, t, hblock, hrest⟩ := h
    obtain ⟨hindex, hblock⟩ := validateCandidateBlock_replays hblock
    obtain ⟨hrest, hindices⟩ := ih hrest
    refine ⟨.cons hblock hrest, ?_⟩
    rintro (_ | i) b hb
    · cases hb
      exact hindex
    · have := hindices i b (by simpa using hb)
      simp only [length_append, length_singleton] at this
      omega

/-- A candidate that was validated replays from the genesis of the node. -/
structure Validated (M : NodeModules T G₁ G₂) (n : Node T) (chain : List (Block T))
    (s : AccountState T) : Prop where
  genesis : chain.head? = some (n.genesisConfig.buildGenesisBlock M.toChainModules)
  replays : ChainReplays M (chain.take 1) (chain.drop 1) n.genesisConfig.buildState s
  index : ∀ i block, 0 < i → chain[i]? = some block → block.index = i

lemma validated_of_validateCandidateChain
    (h : n.validateCandidateChain M now chain = .ok s) : n.Validated M chain s := by
  unfold validateCandidateChain at h
  cases chain with
  | nil => cases h
  | cons genesis rest =>
    simp only at h
    split_ifs at h with hgenesis
    obtain ⟨u, hrun⟩ := outcome_eq_ok.mp h
    obtain ⟨hreplays, hindices⟩ := validateCandidateBlocks_replays hrun
    refine ⟨by simpa using hgenesis, hreplays, ?_⟩
    rintro (_ | i) block hi hblock
    · omega
    · have := hindices i block (by simpa using hblock)
      simp only [length_singleton] at this
      omega

section

variable (h : n.Validated M chain s)
include h

lemma Validated.rebuildState_eq_ok (k : ℕ) :
    rebuildState M (chain.take (k + 1)) n.genesisConfig = .ok t ↔
      ChainReplays M (chain.take 1) ((chain.drop 1).take k) n.genesisConfig.buildState t := by
  obtain ⟨hgenesis, -, -⟩ := h
  cases chain with
  | nil => cases hgenesis
  | cons genesis rest =>
    obtain rfl : genesis = n.genesisConfig.buildGenesisBlock M.toChainModules := by
      simpa using hgenesis
    have hchain : (n.genesisConfig.buildGenesisBlock M.toChainModules).chainId =
        n.genesisConfig.chainId := rfl
    simp only [take_succ_cons, rebuildState, hchain, ne_eq, not_true_eq_false, or_self,
      if_false, take_zero, drop_succ_cons, drop_zero]
    rw [outcome_eq_ok]
    constructor
    · rintro ⟨u, hrun⟩
      exact rebuildBlocks_eq_ok.mp hrun
    · intro hreplays
      exact ⟨(), rebuildBlocks_eq_ok.mpr hreplays⟩

lemma Validated.rebuildState_chain : rebuildState M chain n.genesisConfig = .ok s := by
  have hlast : chain.take (chain.length + 1) = chain := take_of_length_le (by omega)
  have hrest : (chain.drop 1).take chain.length = chain.drop 1 :=
    take_of_length_le (by rw [length_drop]; omega)
  have hstate := h.rebuildState_eq_ok (t := s) chain.length
  rw [hlast, hrest] at hstate
  exact hstate.mpr h.replays

lemma Validated.rebuildState_after {u : AccountState T} {k : ℕ}
    (ht : rebuildState M (chain.take (k + 1)) n.genesisConfig = .ok t) (j : ℕ) :
    rebuildState M (chain.take (k + j + 1)) n.genesisConfig = .ok u ↔
      ChainReplays M (chain.take (k + 1)) ((chain.drop (k + 1)).take j) t u := by
  have hhead : (chain.drop 1).take (k + j) =
      (chain.drop 1).take k ++ (chain.drop (k + 1)).take j := by
    rw [take_add, drop_drop, add_comm 1 k]
  have htake : chain.take 1 ++ (chain.drop 1).take k = chain.take (k + 1) := by
    rw [add_comm k 1, take_add]
  rw [h.rebuildState_eq_ok, hhead, chainReplays_append, htake]
  constructor
  · rintro ⟨t', ht', hrest⟩
    cases ht'.unique ((h.rebuildState_eq_ok k).mp ht)
    exact hrest
  · intro hrest
    exact ⟨t, (h.rebuildState_eq_ok k).mp ht, hrest⟩

lemma Validated.exists_rebuildState (k : ℕ) :
    ∃ t, rebuildState M (chain.take (k + 1)) n.genesisConfig = .ok t ∧
      ChainReplays M (chain.take (k + 1)) (chain.drop (k + 1)) t s := by
  have hsplit := h.replays
  rw [← take_append_drop k (chain.drop 1), chainReplays_append] at hsplit
  obtain ⟨t, ht, hrest⟩ := hsplit
  refine ⟨t, (h.rebuildState_eq_ok k).mpr ht, ?_⟩
  rwa [drop_drop, ← take_add, add_comm 1 k] at hrest

end

/-! ## Adoption -/

/-- The candidate passes every check of `try_reorg`. -/
structure Adopts (M : NodeModules T G₁ G₂) (now : ℕ) (newChain : List (Block T)) (n : Node T)
    (forkPoint : ℕ) (newState : AccountState T) : Prop where
  better : n.consensus.isBetterChain n.chain newChain = true
  fork : findForkPoint n.chain newChain = some forkPoint
  forkPoint_pos : 0 < forkPoint
  depth : n.chain.length - forkPoint ≤ maxReorgDepth
  unfinalized : n.finalizedHeight < forkPoint
  checkpoint : ∃ block, newChain[n.finalizedHeight]? = some block ∧ block.hash = n.finalizedHash
  valid : n.validateCandidateChain M now newChain = .ok newState

variable {forkPoint : ℕ}

lemma reorgPlan_eq_some_iff : n.reorgPlan M now newChain = .ok (some (forkPoint, newState)) ↔
      Adopts M now newChain n forkPoint newState := by
  constructor
  · intro h
    unfold reorgPlan at h
    split_ifs at h with hbetter
    · cases h
    rcases hfork : findForkPoint n.chain newChain with _ | f
    · rw [hfork] at h
      cases h
    simp only [hfork] at h
    split_ifs at h with hzero hdepth hfinal
    rcases hblock : newChain[n.finalizedHeight]? with _ | block
    · rw [hblock] at h
      cases h
    simp only [hblock] at h
    split_ifs at h with hhash
    rcases hvalid : n.validateCandidateChain M now newChain with _ | s
    · rw [hvalid] at h
      cases h
    simp only [hvalid, Except.ok.injEq, Option.some.injEq, Prod.mk.injEq] at h
    obtain ⟨rfl, rfl⟩ := h
    exact ⟨by simpa using hbetter, hfork, pos_of_ne_zero hzero, not_lt.mp hdepth,
      not_le.mp hfinal, ⟨block, hblock, not_not.mp hhash⟩, hvalid⟩
  · rintro ⟨hbetter, hfork, hpos, hdepth, hfinal, ⟨block, hblock, hhash⟩, hvalid⟩
    unfold reorgPlan
    simp [hbetter, hfork, pos_iff_ne_zero.mp hpos, hdepth.not_gt,
      hfinal.not_ge, hblock, hhash, hvalid]

/-- Every way `try_reorg` can end. -/
lemma tryReorg_run (M : NodeModules T G₁ G₂) (now : ℕ) (newChain : List (Block T))
    (n : Node T) :
    (tryReorg M now newChain).run n =
      match n.reorgPlan M now newChain with
      | .error e => (.error e, n)
      | .ok none => (.ok false, n)
      | .ok (some (forkPoint, newState)) =>
        match (n.adoptChain M newChain newState forkPoint).persistReorg M forkPoint with
        | .error e => (.error e, n.adoptChain M newChain newState forkPoint)
        | .ok () => (.ok true, n.adoptChain M newChain newState forkPoint) := by
  change (ofExcept id (n.reorgPlan M now newChain) >>= _) n = _
  rcases n.reorgPlan M now newChain with e | _ | ⟨forkPoint, newState⟩
  · rfl
  · rfl
  · change (ofExcept id ((n.adoptChain M newChain newState forkPoint).persistReorg M
      forkPoint) >>= _) (n.adoptChain M newChain newState forkPoint) = _
    dsimp only
    rcases (n.adoptChain M newChain newState forkPoint).persistReorg M forkPoint with e | _
    · rfl
    · rfl

lemma ne_of_findForkPoint {ours theirs : List (Block T)}
    (h : findForkPoint ours theirs = some forkPoint) : ours ≠ theirs := by
  rintro rfl
  have hnone : ((ours.zip ours).findIdx? fun p => p.1.hash != p.2.hash) = none := by
    rw [findIdx?_eq_none_iff]
    intro p hp
    have hsame : p.1 = p.2 := by
      obtain ⟨i, hi, hget⟩ := getElem_of_mem hp
      rw [← hget, getElem_zip]
    simp [hsame]
  rw [findForkPoint, hnone] at h
  simp at h

section

variable (newChain : List (Block T)) (newState : AccountState T) (forkPoint : ℕ)

@[simp] lemma adoptChain_chain : (n.adoptChain M newChain newState forkPoint).chain = newChain := by
  unfold adoptChain
  dsimp only
  split <;> rfl

@[simp] lemma adoptChain_storage :
    (n.adoptChain M newChain newState forkPoint).storage = n.storage := by
  unfold adoptChain
  dsimp only
  split <;> rfl

@[simp] lemma adoptChain_genesisConfig :
    (n.adoptChain M newChain newState forkPoint).genesisConfig = n.genesisConfig := by
  unfold adoptChain
  dsimp only
  split <;> rfl

lemma adoptChain_finalized :
    (n.adoptChain M newChain newState forkPoint).finalizedHeight = n.finalizedHeight ∧
      (n.adoptChain M newChain newState forkPoint).finalizedHash = n.finalizedHash := by
  unfold adoptChain
  dsimp only
  split <;> exact ⟨rfl, rfl⟩

/-- What the disk is asked to store for a block of the new chain. No certificate is
pending any more, and the global headers are those of the disk. -/
def reorgBatch (M : NodeModules T G₁ G₂) (n : Node T) (block : Block T) (s : AccountState T) :
    DurableCommitBatch T where
  block := block
  stateRoot := block.stateRoot
  finalityCert := none
  globalHeaders := n.storedGlobalHeaders M
  bridgeState := some s.bridgeState
  accounts := s.ledger.accounts.entries

lemma adoptChain_commitBlockDurable (hstorage : n.storage.isSome = true) (block : Block T)
    (s : AccountState T) :
    (n.adoptChain M newChain newState forkPoint).commitBlockDurable block s = .ok () ↔
      n.disk.commitDurableBatch (n.reorgBatch M block s) = .ok () := by
  obtain ⟨store, hstore⟩ := Option.isSome_iff_exists.mp hstorage
  have hcommit : (n.adoptChain M newChain newState forkPoint).commitBlockDurable block s =
      match n.disk.commitDurableBatch (n.reorgBatch M block s) with
      | .error e => .error s!"Failed to commit durable batch: {e}"
      | .ok () => .ok () := by
    unfold commitBlockDurable
    rw [adoptChain_storage]
    simp only [hstore, adoptChain]
    rfl
  rw [hcommit]
  rcases n.disk.commitDurableBatch (n.reorgBatch M block s) with e | ⟨⟩ <;> simp

end

/-! ## The disk -/

/-- The disk refuses a block of the new chain, with the state the chain has there. -/
def DiskRefuses (M : NodeModules T G₁ G₂) (n : Node T) (newChain : List (Block T))
    (forkPoint : ℕ) : Prop :=
  n.storage.isSome = true ∧ ∃ i block s, forkPoint ≤ i ∧ newChain[i]? = some block ∧
    rebuildState M (newChain.take (i + 1)) n.genesisConfig = .ok s ∧
    n.disk.commitDurableBatch (n.reorgBatch M block s) ≠ .ok ()

lemma persistBlocks_ok_iff
    (hchain : n.chain = preceding ++ rest) (hreplays : ChainReplays M preceding rest s s')
    (hindex : ∀ i block, rest[i]? = some block → block.index = preceding.length + i) :
    (∃ s'', (n.persistBlocks M rest).run s = (.ok (), s'')) ↔
      ∀ i block t, rest[i]? = some block → ChainReplays M preceding (rest.take (i + 1)) s t →
        n.commitBlockDurable block t = .ok () := by
  induction hreplays with
  | nil preceding s => simp [persistBlocks, run_pure_eq_ok]
  | @cons preceding block rest s t s' hblock hrest ih =>
    have hpreceding : n.chain.take block.index = preceding := by
      have := hindex 0 block rfl
      rw [hchain, this, add_zero, take_left]
    have htail := ih (by simp [hchain]) fun i b hb => by
      have := hindex (i + 1) b hb
      simp only [length_append, length_singleton]
      omega
    rw [persistBlocks]
    simp only [run_bind_eq_ok, run_read_eq_ok, run_ofExcept_eq_ok, hpreceding]
    constructor
    · rintro ⟨s'', _, t', hrun, _, _, ⟨rfl, rfl⟩, _, _, ⟨hcommit, rfl⟩, hpersist⟩
      obtain rfl : t' = t := (replayBlock_eq_ok.mp hrun).unique hblock
      rintro (_ | i) b u hb hreplay
      · cases hb
        obtain rfl : t' = u := (ChainReplays.cons hblock (.nil _ _)).unique hreplay
        exact hcommit
      · cases hreplay with
        | cons hblock' hreplay =>
          cases hblock.unique hblock'
          exact htail.mp ⟨s'', hpersist⟩ i b u hb hreplay
    · intro h
      obtain ⟨s'', hpersist⟩ := htail.mpr fun i b u hb hreplay =>
        h (i + 1) b u hb (.cons hblock hreplay)
      exact ⟨s'', (), t, replayBlock_eq_ok.mpr hblock, t, t, ⟨rfl, rfl⟩, (), t,
        ⟨h 0 block t rfl (.cons hblock (.nil _ _)), rfl⟩, hpersist⟩

lemma Adopts.persistReorg_ok_iff (h : Adopts M now newChain n forkPoint newState) :
    (n.adoptChain M newChain newState forkPoint).persistReorg M forkPoint = .ok () ↔
      ¬ DiskRefuses M n newChain forkPoint := by
  unfold persistReorg
  rw [adoptChain_storage]
  rcases hstorage : n.storage with _ | store
  · simp [DiskRefuses, hstorage]
  have hvalid := validated_of_validateCandidateChain h.valid
  obtain ⟨k, rfl⟩ := Nat.exists_eq_succ_of_ne_zero (Nat.pos_iff_ne_zero.mp h.forkPoint_pos)
  obtain ⟨t, ht, hrest⟩ := hvalid.exists_rebuildState k
  have hindex : ∀ i block, (newChain.drop (k + 1))[i]? = some block →
      block.index = (newChain.take (k + 1)).length + i := by
    intro i block hblock
    rw [List.getElem?_drop] at hblock
    have hlength := (List.getElem?_eq_some_iff.mp hblock).1
    rw [hvalid.index _ block (by omega) hblock, length_take]
    omega
  have hloop := persistBlocks_ok_iff (n := n.adoptChain M newChain newState (k + 1))
    (by rw [adoptChain_chain, take_append_drop]) hrest hindex
  simp only [adoptChain_chain, adoptChain_genesisConfig, Nat.succ_eq_add_one, ht]
  have hrun : ∀ {x : Exec (AccountState T) String Unit} {s : AccountState T},
      (x.run s).1 = .ok () ↔ ∃ s', x.run s = (.ok (), s') := fun {x s} =>
    ⟨fun hok => ⟨(x.run s).2, Prod.ext hok rfl⟩, fun ⟨s', hok⟩ => by rw [hok]⟩
  have hcommit := fun block s => adoptChain_commitBlockDurable (M := M) newChain newState (k + 1)
    (by rw [hstorage]; rfl) block s
  rw [hrun, hloop]
  constructor
  · rintro hall ⟨-, i, block, s, hi, hblock, hstate, hrefused⟩
    obtain ⟨j, rfl⟩ := Nat.exists_eq_add_of_le hi
    refine hrefused ((hcommit block s).mp (hall j block s ?_ ?_))
    · rwa [List.getElem?_drop]
    · refine (hvalid.rebuildState_after ht (j + 1)).mp ?_
      rwa [show k + (j + 1) + 1 = k + 1 + j + 1 by omega]
  · intro hdisk j block s hblock hstate
    rw [List.getElem?_drop] at hblock
    by_contra hrefused
    refine hdisk ⟨by rw [hstorage]; rfl, k + 1 + j, block, s, by omega, hblock, ?_, ?_⟩
    · have := (hvalid.rebuildState_after ht (j + 1)).mpr hstate
      rwa [show k + (j + 1) + 1 = k + 1 + j + 1 by omega] at this
    · exact fun hok => hrefused ((hcommit block s).mpr hok)

/-- A reorganisation that is not reported as done leaves chain, state and finality as
they were, unless the candidate was adopted and the disk then refused one of its
blocks. -/
theorem failed_reorg_leaves_chain_iff (M : NodeModules T G₁ G₂) (now : ℕ)
    (newChain : List (Block T)) (n : Node T) :
    (∀ r n', (tryReorg M now newChain).run n = (r, n') → r ≠ .ok true →
        n'.chain = n.chain ∧ n'.state = n.state ∧ n'.finalizedHeight = n.finalizedHeight ∧
          n'.finalizedHash = n.finalizedHash) ↔
      ¬ ∃ forkPoint newState, Adopts M now newChain n forkPoint newState ∧
        DiskRefuses M n newChain forkPoint := by
  rw [tryReorg_run]
  constructor
  · rintro hkept ⟨forkPoint, newState, hadopts, hrefuses⟩
    rw [reorgPlan_eq_some_iff.mpr hadopts] at hkept
    rcases hpersist : (n.adoptChain M newChain newState forkPoint).persistReorg M forkPoint
      with e | ⟨⟩
    · -- the error comes after the chain was replaced
      simp only [hpersist] at hkept
      obtain ⟨hchain, -⟩ := hkept _ _ rfl nofun
      rw [adoptChain_chain] at hchain
      exact ne_of_findForkPoint hadopts.fork hchain.symm
    · exact hadopts.persistReorg_ok_iff.mp hpersist hrefuses
  · intro hdisk r n' hrun hr
    rcases hplan : n.reorgPlan M now newChain with e | _ | ⟨forkPoint, newState⟩
    · rw [hplan] at hrun
      cases hrun
      exact ⟨rfl, rfl, rfl, rfl⟩
    · rw [hplan] at hrun
      cases hrun
      exact ⟨rfl, rfl, rfl, rfl⟩
    · have hadopts := reorgPlan_eq_some_iff.mp hplan
      have hpersist := hadopts.persistReorg_ok_iff.mpr fun hrefuses =>
        hdisk ⟨forkPoint, newState, hadopts, hrefuses⟩
      simp only [hplan, hpersist] at hrun
      cases hrun
      exact absurd rfl hr

def forked (disk : Disk .point) : Node .point :=
  { ((validateAndAddBlock .refusing 10000 (Block.plain 1 1000 "0/0")).run
      (Node.plain .empty)).2 with disk }

/-- A chain of two blocks that parts from that node's at the genesis. -/
def rivalChain : List (Block .point) :=
  [GenesisConfig.point.buildGenesisBlock NodeModules.refusing.toChainModules,
    Block.plain 1 2000 "0/0", Block.plain 2 3000 "1/2000"]

/-- The disk is full: the error is reported, and the new chain stays. -/
theorem refused_write_keeps_new_chain :
    let n := forked { Disk.empty with commitDurableBatch := fun _ => .error "disk full" }
    let after := (tryReorg NodeModules.refusing 10000 rivalChain).run n
    after.1 = .error "Failed to commit durable batch: disk full" ∧
      n.chain.map Block.hash = ["0/0", "1/1000"] ∧
      after.2.chain.map Block.hash = ["0/0", "1/2000", "2/3000"] := by
  decide +kernel

/-! ## What the disk adds to the state -/

def acceptedCommitments (domains : ConsensusDomainRegistry) :
    DomainCommitmentRegistry → List DomainCommitment → List DomainCommitment
  | _, [] => []
  | registry, c :: rest =>
    match domains.validateCommitment c with
    | .error _ => acceptedCommitments domains registry rest
    | .ok () =>
      match registry.insertCommitment c with
      | .error _ => acceptedCommitments domains registry rest
      | .ok registry => c :: acceptedCommitments domains registry rest

lemma foldl_reloadCommitment (domains : ConsensusDomainRegistry)
    (commitments : List DomainCommitment) (registry : DomainCommitmentRegistry)
    (s : AccountState T) : (commitments.foldl (reloadCommitment domains) (registry, s)).2 =
      ((acceptedCommitments domains registry commitments).flatMap
        fun c => c.stateUpdates.entries).foldl raiseNonce s := by
  induction commitments generalizing registry s with
  | nil => rfl
  | cons c rest ih =>
    rw [foldl_cons, acceptedCommitments, reloadCommitment]
    rcases domains.validateCommitment c with _ | ⟨⟩
    · exact ih registry s
    · rcases registry.insertCommitment c with _ | registry'
      · exact ih registry s
      · simp only [flatMap_cons, foldl_append]
        exact ih registry' _

lemma getNonce_raiseNonce (s : AccountState T) (u : Address × ℕ) (a : Address) :
    (raiseNonce s u).getNonce a = if a = u.1 then max (s.getNonce a) u.2 else s.getNonce a := by
  unfold raiseNonce
  split_ifs with hlt ha ha
  · subst ha
    rw [getNonce_eq, account_setAccount_self]
    exact (max_eq_right hlt.le).symm
  · rw [getNonce_eq, account_setAccount, if_neg ha, getNonce_eq]
  · subst ha
    exact (max_eq_left (not_lt.mp hlt)).symm
  · rfl

lemma getNonce_le_foldl_raiseNonce (updates : List (Address × ℕ)) (s : AccountState T)
    (a : Address) : s.getNonce a ≤ (updates.foldl raiseNonce s).getNonce a := by
  induction updates generalizing s with
  | nil => exact le_rfl
  | cons u rest ih =>
    refine le_trans ?_ (ih (raiseNonce s u))
    rw [getNonce_raiseNonce]
    split_ifs
    · exact le_max_left _ _
    · exact le_rfl

variable {updates : List (Address × ℕ)}

lemma le_getNonce_foldl_raiseNonce {u : Address × ℕ} (hu : u ∈ updates) (s : AccountState T) :
    u.2 ≤ (updates.foldl raiseNonce s).getNonce u.1 := by
  induction updates generalizing s with
  | nil => cases hu
  | cons v rest ih =>
    rcases mem_cons.mp hu with rfl | hu
    · refine le_trans ?_ (getNonce_le_foldl_raiseNonce rest (raiseNonce s u) u.1)
      rw [getNonce_raiseNonce, if_pos rfl]
      exact le_max_right _ _
    · exact ih hu (raiseNonce s v)

lemma foldl_raiseNonce_eq_self
    (h : ∀ u ∈ updates, u.2 ≤ s.getNonce u.1) : updates.foldl raiseNonce s = s := by
  induction updates with
  | nil => rfl
  | cons u rest ih =>
    have hself : raiseNonce s u = s := by
      rw [raiseNonce, if_neg (not_lt.mpr (h u (by simp)))]
    rw [foldl_cons, hself]
    exact ih fun v hv => h v (by simp [hv])

/-- The disk holds nothing that differs from a replayed state. -/
structure DiskAgrees (M : NodeModules T G₁ G₂) (n : Node T) (s : AccountState T) : Prop where
  nonces : ∀ c ∈ acceptedCommitments n.storedDomains ∅ n.storedCommitments,
    ∀ u ∈ c.stateUpdates.entries, u.2 ≤ s.getNonce u.1
  bridge : ∀ bridgeState, n.disk.loadBridgeState = .ok (some bridgeState) →
    bridgeState = s.bridgeState
  messages : ∀ messages, n.disk.loadCrossDomainMessages = .ok messages →
    reloadMessages M messages = s.messageRegistry

lemma adoptChain_state_none (hstorage : n.storage = none) (newChain : List (Block T))
    (newState : AccountState T) (forkPoint : ℕ) :
    (n.adoptChain M newChain newState forkPoint).state = newState := by
  simp only [adoptChain, hstorage]
  rfl

lemma reload_state_eq_iff : (n.reload M).state = n.state ↔ DiskAgrees M n n.state := by
  have hstate : (n.reload M).state =
      { ((acceptedCommitments n.storedDomains ∅ n.storedCommitments).flatMap
          fun c => c.stateUpdates.entries).foldl raiseNonce n.state with
        bridgeState := (n.reload M).state.bridgeState
        messageRegistry := (n.reload M).state.messageRegistry } := by
    rw [← foldl_reloadCommitment]
    rfl
  constructor
  · intro hsame
    refine ⟨fun c hc u hu => ?_, fun bridgeState hload => ?_, fun messages hload => ?_⟩
    · have hnonce : (n.reload M).state.getNonce u.1 = n.state.getNonce u.1 := by rw [hsame]
      rw [← hnonce, hstate]
      exact le_getNonce_foldl_raiseNonce (mem_flatMap.mpr ⟨c, hc, hu⟩) n.state
    · rw [← hsame, reload, hload]
    · rw [← hsame, reload, hload]
  · rintro ⟨hnonces, hb, hm⟩
    have hsameBridge : (n.reload M).state.bridgeState = n.state.bridgeState := by
      unfold reload
      dsimp only
      split
      · next bridgeState hload => exact hb bridgeState hload
      · rfl
    have hsameMessages : (n.reload M).state.messageRegistry = n.state.messageRegistry := by
      unfold reload
      dsimp only
      split
      · next messages hload => exact hm messages hload
      · rfl
    rw [hstate, hsameBridge, hsameMessages, foldl_raiseNonce_eq_self]
    intro u hu
    obtain ⟨c, hc, hu⟩ := mem_flatMap.mp hu
    exact hnonces c hc u hu

/-- After a reorganisation the state is the one that replaying the new chain gives,
exactly if the disk holds no nonce ahead of it and no other bridge state or messages. -/
theorem reorg_state_is_replayed_iff {newChain : List (Block T)} {n' : Node T}
    (hrun : (tryReorg M now newChain).run n = (.ok true, n')) :
    ∃ s, rebuildState M newChain n.genesisConfig = .ok s ∧
      (n'.state = s ↔ (n.storage.isSome = true → DiskAgrees M n s)) := by
  rw [tryReorg_run] at hrun
  rcases hplan : n.reorgPlan M now newChain with e | _ | ⟨forkPoint, newState⟩
  · rw [hplan] at hrun
    cases hrun
  · rw [hplan] at hrun
    cases hrun
  have hvalid := validated_of_validateCandidateChain (reorgPlan_eq_some_iff.mp hplan).valid
  obtain rfl : n.adoptChain M newChain newState forkPoint = n' := by
    simp only [hplan] at hrun
    rcases hpersist : (n.adoptChain M newChain newState forkPoint).persistReorg M forkPoint
      with e | ⟨⟩
    · rw [hpersist] at hrun
      cases hrun
    · rw [hpersist] at hrun
      exact (Prod.mk.inj hrun).2
  refine ⟨newState, hvalid.rebuildState_chain, ?_⟩
  rcases hstorage : n.storage with _ | store
  · simp [adoptChain_state_none hstorage]
  · have hadopted : (n.adoptChain M newChain newState forkPoint).state =
        ((n.switchChain newChain newState forkPoint).reload M).state := by
      simp only [adoptChain, hstorage]
      rfl
    rw [hadopted]
    exact reload_state_eq_iff.trans ⟨fun h _ => ⟨h.nonces, h.bridge, h.messages⟩, fun h => by
      obtain ⟨hnonces, hbridge, hmessages⟩ := h rfl
      exact ⟨hnonces, hbridge, hmessages⟩⟩

/-- An empty disk adds nothing: the two blocks of the rival chain are replayed. -/
theorem reorg_state_is_replayed_rivalChain :
    ∃ n', (tryReorg .refusing 10000 rivalChain).run (forked .empty) = (.ok true, n') ∧
      ∃ s, rebuildState .refusing rivalChain (forked .empty).genesisConfig = .ok s ∧
        (n'.state = s ↔ ((forked .empty).storage.isSome = true →
          DiskAgrees .refusing (forked .empty) s)) :=
  have hrun : (tryReorg .refusing 10000 rivalChain).run (forked .empty) =
      (.ok true, ((tryReorg .refusing 10000 rivalChain).run (forked .empty)).2) :=
    Prod.ext (by decide +kernel) rfl
  ⟨_, hrun, reorg_state_is_replayed_iff hrun⟩

def oneAsset : BridgeState :=
  ((BridgeState.registerAsset .zero 1).run BridgeState.new).2

/-- The asset was registered next to the abandoned branch, no block of the new chain
knows of it, and the bridge of the adopted state has it. -/
theorem reorg_keeps_stored_bridge :
    let disk := { Disk.empty with loadBridgeState := .ok (some oneAsset) }
    let n := { forked disk with state.bridgeState := oneAsset }
    let after := (tryReorg NodeModules.refusing 10000 rivalChain).run n
    after.1 = .ok true ∧ after.2.chain.map Block.hash = ["0/0", "1/2000", "2/3000"] ∧
      after.2.state.bridgeState.assetLocations.contains Id32.zero = true ∧
      ∀ s, rebuildState NodeModules.refusing after.2.chain n.genesisConfig = .ok s →
        s.bridgeState.assetLocations.contains Id32.zero = false := by
  refine ⟨by decide +kernel, by decide +kernel, by decide +kernel, fun s hs => ?_⟩
  have hreplayed : (rebuildState NodeModules.refusing rivalChain GenesisConfig.point).map
      (fun s => s.bridgeState.assetLocations.contains Id32.zero) = .ok false := by decide +kernel
  have hchain : rebuildState NodeModules.refusing rivalChain GenesisConfig.point = .ok s := hs
  rw [hchain] at hreplayed
  exact Except.ok.inj hreplayed

end Node

end Budlum
