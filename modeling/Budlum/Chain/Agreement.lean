import Budlum.Chain.BlockLikeness
import Budlum.Chain.Collection
import Budlum.Chain.Reorg

/-!
# One block at a time, or a whole chain

`validate_and_add_block` and `validate_candidate_chain` are two validators of the same
blocks. `BlockValid` is what they have in common, and each is shown to ask for that and
for something of its own:

* a candidate block must not lie before the last checkpoint of the node that is asked;
* a single block must not hold a transaction of the zero address, must name a state root
  and must be stored by the disk; its node then empties the queue of domain unfreezes.

A node that starts at its genesis and takes the blocks one by one has derived the bridge
and message roots already, while a candidate is replayed on the bare state of the
genesis. The first block makes up for that.
-/

namespace Budlum

open Machine AccountState Exec List Blockchain LedgerLike Node

variable {T : ModuleTypes} {G₁ G₂ : Type} {M : NodeModules T G₁ G₂}

/-! ## A block on like states -/

namespace AccountState

def drained (s : AccountState T) : AccountState T := { s with pendingDomainUnfreezes := [] }

variable {s t : AccountState T}

lemma Like.eq_symm (h : Like Eq s t) : Like Eq t s := by
  obtain ⟨h, rfl⟩ := h
  exact .mk (s.recast s.ledger h) ⟨s.pendingDomainUnfreezes, s.bridgeRoot, s.messageRoot,
    s.settlementRoot, s.globalHeaderSummary⟩ rfl

lemma Like.withCommitments (h : Like Eq s t) (settlementRoot globalHeaderSummary : Hash32) :
    t.withCommitments M settlementRoot globalHeaderSummary =
      { s.withCommitments M settlementRoot globalHeaderSummary with
        pendingDomainUnfreezes := t.pendingDomainUnfreezes } := by
  obtain ⟨h, rfl⟩ := h
  rfl

lemma Like.withHeight (h : Like Eq s t) (height : ℕ) :
    Like Eq { s with currentBlockHeight := height } { t with currentBlockHeight := height } :=
  Blind.like (f := fun s => { s with currentBlockHeight := height })
    ⟨fun _ _ _ => rfl, fun _ => rfl⟩ h

lemma Like.fullValidate (h : Like Eq s t) (e : Engine T) (now : ℕ)
    (block : Block T) (chain : List (Block T)) : e.fullValidate M.toChainModules now block chain t =
      e.fullValidate M.toChainModules now block chain s := by
  obtain ⟨h, rfl⟩ := h
  cases e <;> rfl

end AccountState

lemma BlockReplays.like {settlementRoot globalHeaderSummary : Hash32}
    {preceding : List (Block T)} {block : Block T} {s s' t : AccountState T} (hst : Like Eq s t)
    (h : BlockReplays M settlementRoot globalHeaderSummary preceding block s s') :
    ∃ t', BlockReplays M settlementRoot globalHeaderSummary preceding block t t' ∧
      t'.drained = s'.drained := by
  obtain ⟨u, hrun, hroot⟩ := h
  obtain ⟨u', hrun', hlike⟩ :=
    (respects_applyBlockEffects eq.rel block preceding).run_eq hst hrun
  refine ⟨{ s' with pendingDomainUnfreezes := u'.pendingDomainUnfreezes }, ⟨u', hrun', ?_⟩, rfl⟩
  rw [hlike.withCommitments]
  exact congrArg (fun r : String × AccountState T =>
    (r.1, { r.2 with pendingDomainUnfreezes := u'.pendingDomainUnfreezes })) hroot

namespace Blockchain

variable {s s' : AccountState T} {txs : List (Transaction T)}

lemma Replays.like {M : Modules T} {t : AccountState T}
    (h : Replays M s txs s') (hst : Like Eq s t) : ∃ t', Replays M t txs t' := by
  induction h generalizing t with
  | nil s => exact ⟨t, .nil t⟩
  | cons hvalid happly _ ih =>
    obtain ⟨u, hrun, hlike⟩ :=
      (Executor.respects_applyTransactionChecked eq.rel).run_eq hst happly
    obtain ⟨t', hrest⟩ := ih hlike
    exact ⟨t', .cons ((hst.validateTransaction eq.rel _ _).trans hvalid) hrun hrest⟩

/-! ## The transaction loops -/

lemma loop_eq_ok_iff {M : ChainModules T} {own : Transaction T → Prop}
    {loop : ℕ → List (Transaction T) → Exec (AccountState T) String Unit}
    {turn : ℕ → Transaction T → Exec (AccountState T) String Unit} (hnil : ∀ i, loop i [] = pure ())
    (hcons : ∀ i tx rest, loop i (tx :: rest) = turn i tx >>= fun _ => loop (i + 1) rest)
    (hturn : ∀ i tx s s' u, (turn i tx).run s = (.ok u, s') ↔
      own tx ∧ (∃ v, s.validateTransaction M.toModules tx = .ok v) ∧
        (Executor.applyTransactionChecked M.toModules tx).run s = (.ok u, s')) {i : ℕ} {u : Unit} :
    (loop i txs).run s = (.ok u, s') ↔ (∀ tx ∈ txs, own tx) ∧ Replays M.toModules s txs s' := by
  induction txs generalizing i s with
  | nil =>
    rw [hnil, run_pure_eq_ok]
    constructor
    · rintro ⟨-, rfl⟩
      exact ⟨by simp, .nil _⟩
    · rintro ⟨-, ⟨⟩⟩
      exact ⟨rfl, rfl⟩
  | cons tx rest ih =>
    simp only [hcons, run_bind_eq_ok, hturn, ih, forall_mem_cons]
    constructor
    · rintro ⟨_, t, ⟨hown, ⟨_, hvalid⟩, happly⟩, howns, hrest⟩
      exact ⟨⟨hown, howns⟩, .cons hvalid happly hrest⟩
    · rintro ⟨⟨hown, howns⟩, _ | ⟨hvalid, happly, hrest⟩⟩
      exact ⟨(), _, ⟨hown, ⟨(), hvalid⟩, happly⟩, howns, hrest⟩

lemma admitTransactions_eq_ok {M : ChainModules T} {block : Block T} (hindex : 0 < block.index)
    {i : ℕ} {u : Unit} : (admitTransactions M block i txs).run s = (.ok u, s') ↔
      (∀ tx ∈ txs, tx.chainId = block.chainId ∧ tx.sender ≠ .zero) ∧
        Replays M.toModules s txs s' := by
  refine loop_eq_ok_iff (fun _ => rfl) (fun _ _ _ => rfl) fun i tx s s' u => ?_
  simp [admitTransaction, hindex, run_bind_eq_ok, run_failIf_eq_ok,
    run_read_eq_ok, run_ofExcept_eq_ok, run_mapError_eq_ok, and_assoc]

end Blockchain

namespace Node

variable {n m : Node T}

lemma projectTransactions_eq_ok {block : Block T} {txs : List (Transaction T)} {i : ℕ}
    {s s' : AccountState T} {u : Unit} : (m.projectTransactions M block i txs).run s = (.ok u, s') ↔
      (∀ tx ∈ txs, tx.chainId = m.chainId) ∧ Blockchain.Replays M.toModules s txs s' := by
  refine loop_eq_ok_iff (fun _ => rfl) (fun _ _ _ => rfl) fun i tx s s' u => ?_
  simp [projectTransaction, run_bind_eq_ok, run_failIf_eq_ok, run_read_eq_ok,
    run_ofExcept_eq_ok, run_mapError_eq_ok]

end Node

/-! ## Valid blocks -/

/-- What both validators ask of a block on the chain `preceding` with the state `s`, and
the state `s'` it leads to. -/
structure BlockValid (M : NodeModules T G₁ G₂) (rules : Engine T) (chainId now : ℕ)
    (preceding : List (Block T)) (block : Block T) (s s' : AccountState T) : Prop where
  index : block.index = preceding.length
  chain : block.chainId = chainId
  txRoot : block.txRoot = M.calculateTxRoot block
  hash : block.hash = M.calculateHash block
  engine : rules.fullValidate M.toChainModules now block preceding s = .ok ()
  ownChain : ∀ tx ∈ block.transactions, tx.chainId = chainId
  transactions : ∃ t, Blockchain.Replays M.toModules { s with currentBlockHeight := block.index }
    block.transactions t
  replays : PlainReplays M preceding block s s'

/-- Blocks that are valid one after the other, of which each with the state it leads to
meets `extra` as well. -/
inductive ChainTaken (M : NodeModules T G₁ G₂) (rules : Engine T) (chainId now : ℕ)
    (extra : Block T → AccountState T → Prop) :
    List (Block T) → List (Block T) → AccountState T → AccountState T → Prop
  | nil (preceding : List (Block T)) (s : AccountState T) :
      ChainTaken M rules chainId now extra preceding [] s s
  | cons {preceding rest : List (Block T)} {block : Block T} {s t s' : AccountState T}
      (hblock : BlockValid M rules chainId now preceding block s t) (hextra : extra block t)
      (hrest : ChainTaken M rules chainId now extra (preceding ++ [block]) rest t s') :
      ChainTaken M rules chainId now extra preceding (block :: rest) s s'

abbrev ChainValid (M : NodeModules T G₁ G₂) (rules : Engine T) (chainId now : ℕ) :
    List (Block T) → List (Block T) → AccountState T → AccountState T → Prop :=
  ChainTaken M rules chainId now fun _ _ => True

/-- Each block of a replay meets `extra` with the state it leads to. -/
def EveryBlock (M : NodeModules T G₁ G₂) (extra : Block T → AccountState T → Prop) :
    List (Block T) → List (Block T) → AccountState T → Prop
  | _, [], _ => True
  | preceding, block :: rest, s => ∀ t, PlainReplays M preceding block s t →
      extra block t ∧ EveryBlock M extra (preceding ++ [block]) rest t

section

variable {rules : Engine T} {chainId now : ℕ} {extra : Block T → AccountState T → Prop}
  {preceding blocks : List (Block T)} {s s' : AccountState T}

lemma chainTaken_iff : ChainTaken M rules chainId now extra preceding blocks s s' ↔
      ChainValid M rules chainId now preceding blocks s s' ∧
        EveryBlock M extra preceding blocks s := by
  constructor
  · intro h
    induction h with
    | nil preceding s => exact ⟨.nil preceding s, trivial⟩
    | cons hblock hextra _ ih =>
      refine ⟨.cons hblock trivial ih.1, fun t ht => ?_⟩
      cases hblock.replays.unique ht
      exact ⟨hextra, ih.2⟩
  · rintro ⟨hvalid, hevery⟩
    induction hvalid with
    | nil preceding s => exact .nil preceding s
    | cons hblock _ _ ih =>
      obtain ⟨hextra, hrest⟩ := hevery _ hblock.replays
      exact .cons hblock hextra (ih hrest)

lemma ChainTaken.unique {t t' : AccountState T}
    (h : ChainTaken M rules chainId now extra preceding blocks s t)
    {extra' : Block T → AccountState T → Prop}
    (h' : ChainTaken M rules chainId now extra' preceding blocks s t') : t = t' := by
  induction h with
  | nil => cases h'; rfl
  | cons hblock _ _ ih =>
    cases h' with
    | cons hblock' _ hrest' =>
      cases hblock.replays.unique hblock'.replays
      exact ih hrest'

variable {p : Block T → Prop}

lemma everyBlock_of_forall (h : ∀ block ∈ blocks, p block) :
    EveryBlock M (fun block _ => p block) preceding blocks s := by
  induction blocks generalizing preceding s with
  | nil => trivial
  | cons block rest ih =>
    exact fun t _ => ⟨h block (by simp), ih fun b hb => h b (by simp [hb])⟩

lemma ChainTaken.forall_mem
    (h : ChainTaken M rules chainId now (fun block _ => p block) preceding blocks s s') :
    ∀ block ∈ blocks, p block := by
  induction h with
  | nil => simp
  | cons hblock hextra _ ih =>
    rintro b (_ | ⟨_, hmem⟩)
    · exact hextra
    · exact ih b hmem

end

/-! ## A candidate chain -/

namespace Node

variable {m : Node T} {now : ℕ}

lemma relabel_eq_ok {x : Except String Unit} {text : String → String} :
    (match x with
      | .error e => Except.error (text e)
      | .ok () => .ok ()) = .ok () ↔ x = .ok () := by
  cases x <;> simp

variable {preceding blocks : List (Block T)}

lemma checkCandidate_eq_ok (hpreceding : preceding ≠ []) :
    m.checkCandidate M now preceding block s = .ok () ↔
      block.index = preceding.length ∧ block.chainId = m.chainId ∧
        block.txRoot = M.calculateTxRoot block ∧ block.hash = M.calculateHash block ∧
        m.consensus.rules.fullValidate M.toChainModules now block preceding s = .ok () ∧
        ¬ m.consensus.IsBeforeCheckpoint block := by
  have hlength := length_pos_iff.mpr hpreceding
  unfold checkCandidate
  simp only [refuseIf_ok, not_or, not_not]
  constructor
  · rintro ⟨⟨hindex, -⟩, hchain, ⟨htx, hhash⟩, hvalid⟩
    obtain ⟨hrules, hbefore⟩ :=
      (Engine.fullValidate_eq_ok (by omega)).mp (relabel_eq_ok.mp hvalid)
    exact ⟨hindex, hchain, htx, hhash, hrules, hbefore⟩
  · rintro ⟨hindex, hchain, htx, hhash, hrules, hbefore⟩
    have hvalid := (Engine.fullValidate_eq_ok (by omega)).mpr ⟨hrules, hbefore⟩
    refine ⟨⟨hindex, ?_⟩, hchain, ⟨htx, hhash⟩, relabel_eq_ok.mpr hvalid⟩
    rintro ⟨parent, hparent, hne⟩
    exact hne (Engine.previousHash_of_fullValidate (by omega) hvalid parent hparent)

variable {s' c : AccountState T}

lemma validateCandidateBlock_eq_ok {u : Unit} (hpreceding : preceding ≠ []) :
    (m.validateCandidateBlock M now preceding block).run s = (.ok u, s') ↔
      BlockValid M m.consensus.rules m.chainId now preceding block s s' ∧
        ¬ m.consensus.IsBeforeCheckpoint block := by
  unfold validateCandidateBlock replayPlain
  simp only [run_bind_eq_ok, run_read_eq_ok, run_ofExcept_eq_ok, replayBlock_eq_ok]
  constructor
  · rintro ⟨_, _, ⟨rfl, rfl⟩, _, _, ⟨hcheck, rfl⟩, _, _, ⟨hproject, rfl⟩, hreplays⟩
    obtain ⟨hindex, hchain, htx, hhash, hengine, hbefore⟩ := (checkCandidate_eq_ok hpreceding).mp hcheck
    obtain ⟨hown, htransactions⟩ := projectTransactions_eq_ok.mp (Prod.ext hproject rfl)
    exact ⟨⟨hindex, hchain, htx, hhash, hengine, hown, ⟨_, htransactions⟩, hreplays⟩, hbefore⟩
  · rintro ⟨⟨hindex, hchain, htx, hhash, hengine, hown, ⟨t, htransactions⟩, hreplays⟩, hbefore⟩
    have hproject : (m.projectTransactions M block 0 block.transactions).run
        { s with currentBlockHeight := block.index } = (.ok (), t) :=
      projectTransactions_eq_ok.mpr ⟨hown, htransactions⟩
    exact ⟨s, s, ⟨rfl, rfl⟩, (), s, ⟨(checkCandidate_eq_ok hpreceding).mpr
      ⟨hindex, hchain, htx, hhash, hengine, hbefore⟩, rfl⟩, (), s,
      ⟨congrArg Prod.fst hproject, rfl⟩, hreplays⟩

lemma validateCandidateBlocks_eq_ok {u : Unit} (hpreceding : preceding ≠ []) :
    (m.validateCandidateBlocks M now preceding blocks).run s = (.ok u, s') ↔
      ChainTaken M m.consensus.rules m.chainId now
        (fun block _ => ¬ m.consensus.IsBeforeCheckpoint block) preceding blocks s s' := by
  induction blocks generalizing preceding s with
  | nil =>
    rw [validateCandidateBlocks, run_pure_eq_ok]
    constructor
    · rintro ⟨-, rfl⟩
      exact .nil _ _
    · rintro ⟨⟩
      exact ⟨rfl, rfl⟩
  | cons block rest ih =>
    rw [validateCandidateBlocks, run_bind_eq_ok]
    simp only [validateCandidateBlock_eq_ok hpreceding,
      ih (append_ne_nil_of_left_ne_nil hpreceding [block])]
    constructor
    · rintro ⟨_, t, ⟨hblock, hbefore⟩, hrest⟩
      exact .cons hblock hbefore hrest
    · rintro (_ | ⟨hblock, hbefore, hrest⟩)
      exact ⟨(), _, ⟨hblock, hbefore⟩, hrest⟩

lemma validateCandidateChain_eq_ok : m.validateCandidateChain M now
        (m.genesisConfig.buildGenesisBlock M.toChainModules :: blocks) = .ok s ↔
      ChainValid M m.consensus.rules m.chainId now
          [m.genesisConfig.buildGenesisBlock M.toChainModules] blocks m.genesisConfig.buildState s ∧
        ∀ block ∈ blocks, ¬ m.consensus.IsBeforeCheckpoint block := by
  rw [validateCandidateChain, if_neg (not_not.mpr rfl), outcome_eq_ok]
  simp only [validateCandidateBlocks_eq_ok (cons_ne_nil _ [])]
  constructor
  · rintro ⟨-, htaken⟩
    exact ⟨(chainTaken_iff.mp htaken).1, htaken.forall_mem⟩
  · rintro ⟨hvalid, hclear⟩
    exact ⟨(), chainTaken_iff.mpr ⟨hvalid, everyBlock_of_forall hclear⟩⟩

/-! ## Blocks one by one -/

def importBlocks (M : NodeModules T G₁ G₂) (now : ℕ) : List (Block T) → Method T Unit
  | [] => pure ()
  | block :: rest => do
      let _ ← validateAndAddBlock M now block
      importBlocks M now rest

/-- What `validate_and_add_block` asks of a valid block that leads to the state `s'`. -/
structure Admits (n : Node T) (block : Block T) (s' : AccountState T) : Prop where
  checkpoint : ¬ n.consensus.IsBeforeCheckpoint block
  stateRoot : block.stateRoot ≠ ""
  senders : ∀ tx ∈ block.transactions, tx.sender ≠ .zero
  stored : n.commitBlockDurable block s' = .ok ()

/-- What the taking of blocks reads and never changes. -/
def settings (n : Node T) :=
  (n.chainId, n.storage, n.disk, n.pendingFinalityCerts, n.globalHeaders,
    n.settlementFinalityHashes, n.finalizedHeight)

/-- A node without settlement headers and nothing final above its genesis. -/
structure Plain (n : Node T) : Prop where
  globalHeaders : n.globalHeaders = []
  settlementFinalityHashes : n.settlementFinalityHashes = []
  finalizedHeight : n.finalizedHeight = 0

/-- The node `n` is `n₀` grown to the chain `chain`, whose replay has led to `s`. -/
structure Grown (n₀ : Node T) (chain : List (Block T)) (s : AccountState T) (n : Node T) :
    Prop where
  chain_eq : n.chain = chain
  like : Like Eq s n.state
  settings_eq : n.settings = n₀.settings
  rules_eq : n.consensus.rules = n₀.consensus.rules
  checkpoint : n.consensus.lastCheckpoint = n₀.consensus.lastCheckpoint ∨
    (∀ c ∈ n.consensus.lastCheckpoint, c.blockIndex < chain.length) ∧
      ∀ c ∈ n₀.consensus.lastCheckpoint, c.blockIndex < chain.length

variable {n n₀ n' : Node T} {chain : List (Block T)} {block : Block T} {s : AccountState T}

lemma validateAndAddBlock_eq_ok {burned : List Hash32} :
    (validateAndAddBlock M now block).run n = (.ok burned, n') ↔
      n.checkBlock M now block = .ok () ∧
      ((admitTransactions M.toChainModules block 0 block.transactions).run
        { n.state with currentBlockHeight := block.index }).1 = .ok () ∧
      ∃ c, n.commitState M block = .ok c ∧ n.commitBlockDurable block c = .ok () ∧
        burned = collectNftBurnCids M.toChainModules n.state block ∧
        n' = n.withBlock M block c := by
  unfold validateAndAddBlock
  simp only [run_bind_eq_ok, run_read_eq_ok, run_ofExcept_eq_ok, run_modify_eq_ok, run_pure_eq_ok]
  constructor
  · rintro ⟨_, _, ⟨rfl, rfl⟩, _, _, ⟨hcheck, rfl⟩, _, _, ⟨hadmitted, rfl⟩, c, _, ⟨hcommit, rfl⟩,
      _, _, ⟨hstored, rfl⟩, _, _, rfl, hburned, rfl⟩
    exact ⟨hcheck, hadmitted, c, hcommit, hstored, hburned.symm, rfl⟩
  · rintro ⟨hcheck, hadmitted, c, hcommit, hstored, rfl, rfl⟩
    exact ⟨n, n, ⟨rfl, rfl⟩, (), n, ⟨hcheck, rfl⟩, (), n, ⟨hadmitted, rfl⟩, c, n, ⟨hcommit, rfl⟩,
      (), n, ⟨hstored, rfl⟩, (), _, rfl, rfl, rfl⟩

lemma checkBlock_eq_ok (hfinalized : n.finalizedHeight = 0) (hchain : n.chain ≠ []) :
    n.checkBlock M now block = .ok () ↔ block.index = n.chain.length ∧ block.chainId = n.chainId ∧
        block.txRoot = M.calculateTxRoot block ∧ block.hash = M.calculateHash block ∧
        block.stateRoot ≠ "" ∧
        n.consensus.fullValidate M.toChainModules now block n.chain n.state = .ok () := by
  have hlength := length_pos_iff.mpr hchain
  unfold checkBlock
  constructor
  · intro h
    split at h
    · cases h
    simp only [refuseIf_ok, not_and, not_not] at h
    obtain ⟨hindex, hchainId, htx, hhash, hroot, hvalid⟩ := h
    exact ⟨hindex, hchainId, htx, hhash, hroot (by omega), relabel_eq_ok.mp hvalid⟩
  · rintro ⟨hindex, hchainId, htx, hhash, hroot, hvalid⟩
    have hclear : n.finalizedConflict block = none := by
      unfold finalizedConflict
      rw [if_neg (by omega)]
    rw [hclear]
    simp only [refuseIf_ok, not_and, not_not]
    exact ⟨hindex, hchainId, htx, hhash, fun _ => hroot, relabel_eq_ok.mpr hvalid⟩

lemma commitState_eq_ok (hn : n.Plain) (hindex : 0 < block.index) :
    n.commitState M block = .ok c ↔ PlainReplays M n.chain block n.state c := by
  have hroot : n.settlementRoot M = emptySettlementRoot M := by
    rw [settlementRoot, hn.settlementFinalityHashes]
    rfl
  have hsummary : n.globalHeaderSummary M = GlobalBlockHeader.zeroRoot := by
    rw [globalHeaderSummary, hn.globalHeaders]
    rfl
  rw [commitState, if_pos hindex, outcome_eq_ok, hroot, hsummary]
  simp only [replayBlock_eq_ok, exists_const]

lemma state_withBlock : (n.withBlock M block c).state = c.drained := by
  unfold withBlock pruneConsensusEvidenceAfterCommit
  dsimp only
  split_ifs <;> rfl

section

variable (hg : Grown n₀ chain s n)
include hg

lemma Grown.plain (hplain : n₀.Plain) : n.Plain := by
  have hsettings := hg.settings_eq
  simp only [settings, Prod.mk.injEq] at hsettings
  obtain ⟨-, -, -, -, hheaders, hhashes, hheight⟩ := hsettings
  exact ⟨hheaders.trans hplain.globalHeaders, hhashes.trans hplain.settlementFinalityHashes,
    hheight.trans hplain.finalizedHeight⟩

lemma Grown.isBeforeCheckpoint (hindex : block.index = chain.length) :
    n.consensus.IsBeforeCheckpoint block ↔ n₀.consensus.IsBeforeCheckpoint block := by
  unfold Engine.IsBeforeCheckpoint
  rcases hg.checkpoint with hsame | ⟨hlast, hfirst⟩
  · rw [hsame]
  · constructor
    · rintro ⟨c, hc, hlt⟩
      exact absurd (hlast c hc) (by omega)
    · rintro ⟨c, hc, hlt⟩
      exact absurd (hfirst c hc) (by omega)

variable {c t : AccountState T}

lemma Grown.commitBlockDurable (hsame : c.drained = t.drained) :
    n.commitBlockDurable block c = n₀.commitBlockDurable block t := by
  have hsettings := hg.settings_eq
  simp only [settings, Prod.mk.injEq] at hsettings
  obtain ⟨-, hstorage, hdisk, hpending, hheaders, -, -⟩ := hsettings
  have hbridge : c.drained.bridgeState = t.drained.bridgeState := by rw [hsame]
  have hledger : c.drained.ledger = t.drained.ledger := by rw [hsame]
  change c.bridgeState = t.bridgeState at hbridge
  change c.ledger = t.ledger at hledger
  unfold Node.commitBlockDurable
  rw [hstorage, hdisk, hpending, hheaders, hbridge, hledger]

lemma Grown.withBlock (hindex : block.index = chain.length)
    (hclear : ¬ n₀.consensus.IsBeforeCheckpoint block) (hsame : c.drained = t.drained) :
    Grown n₀ (chain ++ [block]) t (n.withBlock M block c) ∧
      (n.withBlock M block c).state = t.drained := by
  have hstate : (n.withBlock M block c).state = c.drained := state_withBlock
  have hengine : (n.withBlock M block c).consensus.rules = n.consensus.rules ∧
      (n.withBlock M block c).consensus.lastCheckpoint =
        (n.consensus.recordBlock M.toChainModules block).lastCheckpoint := by
    unfold Node.withBlock pruneConsensusEvidenceAfterCommit
    dsimp only
    split_ifs
    · exact ⟨(Engine.rules_pruneSlashingEvidence _).trans Engine.rules_recordBlock,
        Engine.lastCheckpoint_pruneSlashingEvidence _⟩
    · exact ⟨Engine.rules_recordBlock, rfl⟩
  refine ⟨⟨?_, ?_, ?_, hengine.1.trans hg.rules_eq, ?_⟩, hstate.trans hsame⟩
  · rw [← hg.chain_eq]
    unfold Node.withBlock pruneConsensusEvidenceAfterCommit
    dsimp only
    split_ifs <;> rfl
  · rw [hstate, hsame]
    exact .mk t ⟨[], t.bridgeRoot, t.messageRoot, t.settlementRoot, t.globalHeaderSummary⟩ rfl
  · rw [← hg.settings_eq]
    unfold Node.withBlock pruneConsensusEvidenceAfterCommit
    dsimp only
    split_ifs <;> rfl
  · have hfirst : ∀ c ∈ n₀.consensus.lastCheckpoint, c.blockIndex < (chain ++ [block]).length := by
      intro c hc
      have hle : ¬ block.index < c.blockIndex := fun hlt => hclear ⟨c, hc, hlt⟩
      rw [length_append, length_singleton]
      omega
    rw [hengine.2]
    have hrecorded : (n.consensus.recordBlock M.toChainModules block).lastCheckpoint =
        n.consensus.lastCheckpoint ∨ _ := Engine.lastCheckpoint_recordBlock
    rcases hrecorded with hkept | ⟨checkpoint, hnew, hheight⟩
    · rw [hkept]
      refine hg.checkpoint.imp id fun hlast => ⟨fun c hc => ?_, hfirst⟩
      have := hlast.1 c hc
      rw [length_append]
      omega
    · refine .inr ⟨fun c hc => ?_, hfirst⟩
      rw [hnew] at hc
      cases hc
      rw [length_append, length_singleton]
      omega

lemma Grown.fullValidate_eq_ok (hchain : chain ≠ []) (hindex : block.index = chain.length) :
    n.consensus.fullValidate M.toChainModules now block n.chain n.state = .ok () ↔
      n₀.consensus.rules.fullValidate M.toChainModules now block chain s = .ok () ∧
        ¬ n₀.consensus.IsBeforeCheckpoint block := by
  have hlength := length_pos_iff.mpr hchain
  rw [Engine.fullValidate_eq_ok (by omega), hg.isBeforeCheckpoint hindex, hg.rules_eq, hg.chain_eq,
    hg.like.fullValidate]

/-- A grown node takes a block exactly if the block is valid and admitted from the
start, and has then grown by it. -/
lemma Grown.of_validateAndAddBlock (hplain : n₀.Plain) (hchain : chain ≠ [])
    {burned : List Hash32} (hrun : (validateAndAddBlock M now block).run n = (.ok burned, n')) :
    ∃ t, BlockValid M n₀.consensus.rules n₀.chainId now chain block s t ∧ n₀.Admits block t ∧
      Grown n₀ (chain ++ [block]) t n' ∧ n'.state = t.drained := by
  have hn := hg.plain hplain
  have hlength := length_pos_iff.mpr hchain
  obtain ⟨hcheck, hadmitted, c, hcommit, hstored, -, rfl⟩ := validateAndAddBlock_eq_ok.mp hrun
  obtain ⟨hindex, hchainId, htx, hhash, hroot, hvalid⟩ :=
    (checkBlock_eq_ok hn.finalizedHeight (by rwa [hg.chain_eq])).mp hcheck
  have hid : n.chainId = n₀.chainId := congrArg Prod.fst hg.settings_eq
  rw [hg.chain_eq] at hindex
  have hpositive : 0 < block.index := by omega
  obtain ⟨hengine, hclear⟩ := (hg.fullValidate_eq_ok hchain hindex).mp hvalid
  obtain ⟨hown, htransactions⟩ :=
    (admitTransactions_eq_ok hpositive).mp (Prod.ext hadmitted rfl)
  have hreplays := (commitState_eq_ok hn hpositive).mp hcommit
  rw [hg.chain_eq] at hreplays
  obtain ⟨t, ht, hsame⟩ := hreplays.like hg.like.eq_symm
  obtain ⟨hgrown, hstate⟩ := hg.withBlock (M := M) hindex hclear hsame.symm
  refine ⟨t, ⟨hindex, hchainId.trans hid, htx, hhash, hengine, fun tx hmem => ?_,
    htransactions.like (hg.like.withHeight block.index).eq_symm, ht⟩,
    ⟨hclear, hroot, fun tx hmem => (hown tx hmem).2, ?_⟩, hgrown, hstate⟩
  · rw [(hown tx hmem).1, hchainId, hid]
  · rw [← hg.commitBlockDurable hsame.symm]
    exact hstored

lemma Grown.validateAndAddBlock_of (hplain : n₀.Plain) (hchain : chain ≠ [])
    (hblock : BlockValid M n₀.consensus.rules n₀.chainId now chain block s t)
    (hadmits : n₀.Admits block t) :
    ∃ burned n', (validateAndAddBlock M now block).run n = (.ok burned, n') := by
  have hn := hg.plain hplain
  have hlength := length_pos_iff.mpr hchain
  have hid : n.chainId = n₀.chainId := congrArg Prod.fst hg.settings_eq
  have hindex := hblock.index
  have hpositive : 0 < block.index := by omega
  have hvalid := (hg.fullValidate_eq_ok hchain hindex).mpr ⟨hblock.engine, hadmits.checkpoint⟩
  obtain ⟨t', htransactions⟩ := hblock.transactions
  obtain ⟨u, htransactions⟩ := htransactions.like (hg.like.withHeight block.index)
  obtain ⟨c, hreplays, hsame⟩ := hblock.replays.like hg.like
  have hown : ∀ tx ∈ block.transactions, tx.chainId = block.chainId ∧ tx.sender ≠ .zero :=
    fun tx hmem => ⟨(hblock.ownChain tx hmem).trans hblock.chain.symm, hadmits.senders tx hmem⟩
  have hadmitted := (admitTransactions_eq_ok (i := 0) (u := ()) hpositive).mpr
    ⟨hown, htransactions⟩
  rw [← hg.chain_eq] at hreplays
  refine ⟨_, _, validateAndAddBlock_eq_ok.mpr ⟨(checkBlock_eq_ok hn.finalizedHeight ?_).mpr ⟨?_,
    hblock.chain.trans hid.symm, hblock.txRoot, hblock.hash, hadmits.stateRoot, hvalid⟩,
    congrArg Prod.fst hadmitted, c, (commitState_eq_ok hn hpositive).mpr hreplays, ?_, rfl, rfl⟩⟩
  · rwa [hg.chain_eq]
  · rw [hg.chain_eq, hindex]
  · rw [hg.commitBlockDurable hsame]
    exact hadmits.stored

end

/-- Blocks are taken one by one exactly if they are valid and each is admitted, and the
node is then left with the replayed state and an empty queue. -/
lemma Grown.of_importBlocks (hplain : n₀.Plain) (hg : Grown n₀ chain s n) (hchain : chain ≠ [])
    (hrun : (importBlocks M now blocks).run n = (.ok (), n')) :
    ∃ t, ChainTaken M n₀.consensus.rules n₀.chainId now n₀.Admits chain blocks s t ∧
      n'.state = if blocks = [] then n.state else t.drained := by
  induction blocks generalizing chain s n with
  | nil =>
    obtain ⟨-, rfl⟩ := run_pure_eq_ok.mp hrun
    exact ⟨s, .nil _ _, rfl⟩
  | cons block rest ih =>
    obtain ⟨burned, m, hblock, hrest⟩ := run_bind_eq_ok.mp hrun
    obtain ⟨t, hvalid, hadmits, hgrown, hstate⟩ := hg.of_validateAndAddBlock hplain hchain hblock
    obtain ⟨t', htaken, hstate'⟩ := ih hgrown (by simp) hrest
    refine ⟨t', .cons hvalid hadmits htaken, ?_⟩
    rw [if_neg (by simp)]
    split_ifs at hstate' with hnil
    · subst hnil
      cases htaken
      exact hstate'.trans hstate
    · exact hstate'

lemma Grown.importBlocks_of (hplain : n₀.Plain) {t : AccountState T}
    (hg : Grown n₀ chain s n) (hchain : chain ≠ [])
    (htaken : ChainTaken M n₀.consensus.rules n₀.chainId now n₀.Admits chain blocks s t) :
    ∃ n', (importBlocks M now blocks).run n = (.ok (), n') := by
  induction htaken generalizing n with
  | nil preceding s => exact ⟨n, rfl⟩
  | cons hvalid hadmits _ ih =>
    obtain ⟨burned, m, hblock⟩ := hg.validateAndAddBlock_of hplain hchain hvalid hadmits
    obtain ⟨t', hvalid', -, hgrown, -⟩ := hg.of_validateAndAddBlock hplain hchain hblock
    cases hvalid.replays.unique hvalid'.replays
    obtain ⟨n', hrest⟩ := ih hgrown (by simp)
    exact ⟨n', run_bind_eq_ok.mpr ⟨burned, m, hblock, hrest⟩⟩

/-! ## Agreement -/

/-- A node as it starts at its genesis, with no settlement headers. -/
structure AtGenesis (M : NodeModules T G₁ G₂) (n : Node T) : Prop extends Plain n where
  chain : n.chain = [n.genesisConfig.buildGenesisBlock M.toChainModules]
  state : n.state = n.genesisConfig.buildState.withDerivedRoots M.toChainModules

lemma AtGenesis.grown (h : n.AtGenesis M) :
    Grown n n.chain n.genesisConfig.buildState n where
  chain_eq := rfl
  like := by
    rw [h.state]
    exact .mk n.genesisConfig.buildState ⟨n.genesisConfig.buildState.pendingDomainUnfreezes, _, _,
      n.genesisConfig.buildState.settlementRoot,
      n.genesisConfig.buildState.globalHeaderSummary⟩ rfl
  settings_eq := rfl
  rules_eq := rfl
  checkpoint := .inl rfl

lemma AtGenesis.importBlocks_iff (h : n.AtGenesis M) :
    (∃ n', (importBlocks M now blocks).run n = (.ok (), n')) ↔
      ∃ s, ChainValid M n.consensus.rules n.chainId now n.chain blocks
          n.genesisConfig.buildState s ∧
        EveryBlock M n.Admits n.chain blocks n.genesisConfig.buildState := by
  have hchain : n.chain ≠ [] := by simp [h.chain]
  constructor
  · rintro ⟨n', hrun⟩
    obtain ⟨s, htaken, -⟩ := h.grown.of_importBlocks h.toPlain hchain hrun
    exact ⟨s, chainTaken_iff.mp htaken⟩
  · rintro ⟨s, htaken⟩
    exact h.grown.importBlocks_of h.toPlain hchain (chainTaken_iff.mpr htaken)

lemma drained_eq_self_iff : s.drained = s ↔ s.pendingDomainUnfreezes = [] := by
  constructor
  · intro hsame
    rw [← hsame]
    rfl
  · intro hnil
    rw [drained, ← hnil]

/-- The blocks of a chain are taken one by one by a node at its genesis exactly when
another node of the same network takes the chain as a whole, and the states are the same,
if and only if for every valid chain: it lies behind the checkpoint of the one exactly
when the other admits each of its blocks, and in that case it leaves no request to
unfreeze a domain (a chain of the genesis alone: the bare state has the derived roots). -/
theorem single_and_candidate_agree_iff {m : Node T} (hn : n.AtGenesis M)
    (hid : m.chainId = n.chainId) (hgenesis : m.genesisConfig = n.genesisConfig)
    (hrules : m.consensus.rules = n.consensus.rules) (blocks : List (Block T)) :
    (((∃ n', (importBlocks M now blocks).run n = (.ok (), n')) ↔
          ∃ s, m.validateCandidateChain M now (n.chain ++ blocks) = .ok s) ∧
        ∀ n' s, (importBlocks M now blocks).run n = (.ok (), n') →
          m.validateCandidateChain M now (n.chain ++ blocks) = .ok s → n'.state = s) ↔
      ∀ s, ChainValid M n.consensus.rules n.chainId now n.chain blocks
          n.genesisConfig.buildState s →
        ((∀ block ∈ blocks, ¬ m.consensus.IsBeforeCheckpoint block) ↔
          EveryBlock M n.Admits n.chain blocks n.genesisConfig.buildState) ∧
        (EveryBlock M n.Admits n.chain blocks n.genesisConfig.buildState →
          if blocks = [] then n.genesisConfig.buildState.withDerivedRoots M.toChainModules =
            n.genesisConfig.buildState
          else s.pendingDomainUnfreezes = []) := by
  have hchain : n.chain ≠ [] := by simp [hn.chain]
  have hcandidate : ∀ s, m.validateCandidateChain M now (n.chain ++ blocks) = .ok s ↔
      ChainValid M n.consensus.rules n.chainId now n.chain blocks n.genesisConfig.buildState s ∧
        ∀ block ∈ blocks, ¬ m.consensus.IsBeforeCheckpoint block := by
    intro s
    rw [hn.chain, ← hgenesis, ← hid, ← hrules]
    exact validateCandidateChain_eq_ok
  -- the state that the single blocks leave, for a chain with the replayed state `s`
  have hstate : ∀ n' s, (importBlocks M now blocks).run n = (.ok (), n') →
      ChainValid M n.consensus.rules n.chainId now n.chain blocks n.genesisConfig.buildState s →
      (n'.state = s ↔
        if blocks = [] then n.genesisConfig.buildState.withDerivedRoots M.toChainModules =
          n.genesisConfig.buildState
        else s.pendingDomainUnfreezes = []) := by
    intro n' s hrun hvalid
    obtain ⟨t, htaken, hleft⟩ := hn.grown.of_importBlocks hn.toPlain hchain hrun
    cases htaken.unique hvalid
    rw [hleft]
    split_ifs with hnil
    · subst hnil
      cases hvalid
      rw [hn.state]
    · exact drained_eq_self_iff
  rw [hn.importBlocks_iff]
  simp only [hcandidate]
  constructor
  · rintro ⟨haccept, hsame⟩ s hvalid
    refine ⟨⟨fun hclear => ?_, fun hevery => ?_⟩, fun hevery => ?_⟩
    · exact (haccept.mpr ⟨s, hvalid, hclear⟩).choose_spec.2
    · exact (haccept.mp ⟨s, hvalid, hevery⟩).choose_spec.2
    · obtain ⟨n', hrun⟩ := hn.importBlocks_iff.mpr ⟨s, hvalid, hevery⟩
      obtain ⟨-, -, hclear⟩ := haccept.mp ⟨s, hvalid, hevery⟩
      exact (hstate n' s hrun hvalid).mp (hsame n' s hrun ⟨hvalid, hclear⟩)
  · intro hcondition
    refine ⟨⟨?_, ?_⟩, ?_⟩
    · rintro ⟨s, hvalid, hevery⟩
      exact ⟨s, hvalid, (hcondition s hvalid).1.mpr hevery⟩
    · rintro ⟨s, hvalid, hclear⟩
      exact ⟨s, hvalid, (hcondition s hvalid).1.mp hclear⟩
    · rintro n' s hrun ⟨hvalid, hclear⟩
      obtain ⟨hiff, hunfrozen⟩ := hcondition s hvalid
      exact (hstate n' s hrun hvalid).mpr (hunfrozen (hiff.mp hclear))

/-- A node whose genesis gives the one validator its balance. -/
def voterNode : Node .point :=
  let genesis : GenesisConfig .point := ⟨1, 0, Blockchain.voterChain.state, rfl⟩
  { plain .empty with
    genesisConfig := genesis
    chain := [genesis.buildGenesisBlock NodeModules.refusing.toChainModules]
    state := genesis.buildState.withDerivedRoots NodeModules.refusing.toChainModules }

/-- The node takes a block with a transaction, and another node that is a block ahead takes
the chain. -/
theorem single_and_candidate_agree_tag :
    let n := voterNode
    let m := { n with chain := n.chain ++ [Block.plain 1 1000 "0/0"] }
    let blocks := [{ Block.plain 1 1000 "0/0" with
      transactions := [Blockchain.voterTransaction "tag" 0 ⟨2⟩ [] .nftTag] }]
    (∃ n', (importBlocks .refusing 10000 blocks).run n = (.ok (), n')) ∧
      (∃ s, m.validateCandidateChain .refusing 10000 (n.chain ++ blocks) = .ok s) ∧
      ((((∃ n', (importBlocks .refusing 10000 blocks).run n = (.ok (), n')) ↔
            ∃ s, m.validateCandidateChain .refusing 10000 (n.chain ++ blocks) = .ok s) ∧
          ∀ n' s, (importBlocks .refusing 10000 blocks).run n = (.ok (), n') →
            m.validateCandidateChain .refusing 10000 (n.chain ++ blocks) = .ok s →
            n'.state = s) ↔
        ∀ s, ChainValid .refusing n.consensus.rules n.chainId 10000 n.chain blocks
            n.genesisConfig.buildState s →
          ((∀ block ∈ blocks, ¬ m.consensus.IsBeforeCheckpoint block) ↔
            EveryBlock .refusing n.Admits n.chain blocks n.genesisConfig.buildState) ∧
          (EveryBlock .refusing n.Admits n.chain blocks n.genesisConfig.buildState →
            if blocks = [] then n.genesisConfig.buildState.withDerivedRoots
              NodeModules.refusing.toChainModules = n.genesisConfig.buildState
            else s.pendingDomainUnfreezes = [])) := by
  intro n m blocks
  have hgenesis : n.AtGenesis .refusing := ⟨⟨rfl, rfl, rfl⟩, rfl, rfl⟩
  have htaken : ((importBlocks .refusing 10000 blocks).run n).1 = .ok () := by decide +kernel
  have hchain : (m.validateCandidateChain .refusing 10000 (n.chain ++ blocks)).toOption.isSome :=
    by decide +kernel
  refine ⟨⟨_, Prod.ext htaken rfl⟩, ?_, single_and_candidate_agree_iff hgenesis rfl rfl rfl _⟩
  cases hrun : m.validateCandidateChain .refusing 10000 (n.chain ++ blocks) with
  | error e => rw [hrun] at hchain; cases hchain
  | ok s => exact ⟨s, rfl⟩

/-- A block that repeats the genesis transaction is taken in a candidate chain and
refused alone. -/
theorem genesis_transaction_splits_validators :
    let block : Block .point :=
      { Block.plain 1 1000 "0/0" with transactions := [NodeModules.refusing.genesisTransaction] }
    ((importBlocks .refusing 10000 [block]).run (plain .empty)).1 =
        .error ("Invalid transaction at index 0: " ++
          "'genesis' transactions only allowed in genesis block") ∧
      ((plain .empty).validateCandidateChain .refusing 10000
        ((plain .empty).chain ++ [block])).toOption.isSome = true := by
  decide +kernel

end Node

end Budlum
