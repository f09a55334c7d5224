import Budlum.Consensus.Engine

/-!
# The evidence pool of the proof-of-stake engine

`record_block` puts evidence of a double signature into the engine's pool. A block that is
made takes the whole pool with it: `preview_common` moves the pool into the block first and
asks afterwards whether this node is the leader of the slot. When it is not, the block is
given up, and the evidence with it.

The book of an engine notes beside it what evidence was created, what was drained or pruned,
and which blocks were handed back with `Ok`. `evidence_kept_iff` says which calls lose nothing.
-/

namespace Budlum

open Machine AccountState PoSEngine Multiset

variable {T : ModuleTypes} (M : ChainModules T)

/-! ## Making a block -/

/-- What signing writes into a block. -/
structure BlockStamp where
  hash : String
  producer : Option Address
  signature : Bytes
  producerPublicKey : Bytes
deriving DecidableEq

/-- `ValidatorKeys`, as they answer at one call: a VRF proof is randomised. -/
structure ValidatorKeys (T : ModuleTypes) where
  /-- The address of the signing key. -/
  address : Address
  /-- `vrf_sign`: the output and its proof. -/
  vrfSign : Hash32 → Bytes × Bytes
  /-- `Block::sign`. -/
  sign : Block T → BlockStamp

/-- The keys of an engine and what its signer answers, if it has one. -/
structure SigningBackend (T : ModuleTypes) where
  validatorKeys : Option (ValidatorKeys T)
  signer : Option (Except String BlockStamp)

inductive Stage
  | preview
  | prepare
deriving DecidableEq

structure Making (T : ModuleTypes) where
  engine : PoSEngine T
  block : Block T
  result : Except String Unit

namespace BlockStamp

def write (stamp : BlockStamp) (block : Block T) : Block T :=
  { block with
    hash := stamp.hash
    producer := stamp.producer
    signature := some stamp.signature
    producerPublicKey := stamp.producerPublicKey }

end BlockStamp

namespace PoSConfig

variable (c : PoSConfig)

def notSelected : String := "Not selected as VRF leader for this slot"

/-- The part of `preview_common` after the pool: the block with its VRF transcript and its
producer, if this node leads the slot. -/
def lead (keys : Option (ValidatorKeys T)) (block : Block T) (s : AccountState T)
    (chain : List (Block T)) : Except String (Block T) :=
  if s.getActiveValidators.isEmpty then
    .error ("No active validators - PoS block production requires at least one" ++
      "                  consensus-ready validator. Bootstrap via genesis validator set or" ++
      "                  RegisterConsensusKeys transaction.")
  else match keys with
    | none => .error notSelected
    | some keys =>
      match s.getValidator keys.address with
      | none => .error notSelected
      | some validator =>
        if validator.active = true ∧ validator.slashed = false ∧
            c.minStake ≤ validator.stake then
          if block.vrfOutput.isEmpty ∨ block.vrfProof.isEmpty then
            match c.calculateSeedWithChain M block.chainId block.epoch block.slot chain with
            | .error e => .error e
            | .ok seed =>
              let vrf := keys.vrfSign seed
              if checkVrfThreshold M vrf.1
                  (calculateVrfThreshold validator.stake s.getTotalStake) = false then
                .error notSelected
              else
                .ok { block with
                  vrfOutput := vrf.1
                  vrfProof := vrf.2
                  producer := some keys.address }
          else .ok { block with producer := some keys.address }
        else .error notSelected

/-- This node leads the slot of the block: it is an active validator with enough stake, and
the block has a VRF transcript or the node's output for the slot is below its threshold. -/
def Elected (keys : Option (ValidatorKeys T)) (block : Block T) (s : AccountState T)
    (chain : List (Block T)) : Prop :=
  s.getActiveValidators ≠ [] ∧ ∃ own ∈ keys, ∃ validator ∈ s.getValidator own.address,
    (validator.active = true ∧ validator.slashed = false ∧ c.minStake ≤ validator.stake) ∧
    ((block.vrfOutput ≠ [] ∧ block.vrfProof ≠ []) ∨
      ∃ seed, c.calculateSeedWithChain M block.chainId (block.index / c.epochLength) block.index
          chain = .ok seed ∧
        checkVrfThreshold M (own.vrfSign seed).1
          (calculateVrfThreshold validator.stake s.getTotalStake) = true)

end PoSConfig

namespace SigningBackend

variable (b : SigningBackend T)

/-- The part of `prepare_block_with_chain` after the preview. -/
def sign (block : Block T) : Except String (Block T) :=
  match b.signer with
  | some (.error e) => .error s!"HSM block signing failed: {e}"
  | some (.ok stamp) => .ok (stamp.write block)
  | none =>
    match b.validatorKeys with
    | some keys =>
      if block.producer = some keys.address then .ok ((keys.sign block).write block)
      else .error "Selected PoS validator has no usable block-signing backend"
    | none => .error "Selected PoS validator has no usable block-signing backend"

def Signs : Prop := ∀ answer ∈ b.signer, ∃ stamp, answer = .ok stamp

end SigningBackend

namespace PoSEngine

variable (e : PoSEngine T)

/-- A block without evidence gets the pool, and the pool is cleared. -/
def takeEvidence (block : Block T) : PoSEngine T × Block T :=
  if block.slashingEvidence = none ∧ e.slashingEvidence ≠ [] then
    ({ e with slashingEvidence := [] },
      { block with slashingEvidence := some e.slashingEvidence })
  else (e, block)

/-- The head of `preview_common`: the slot of the block is set and the pool taken. -/
def opened (block : Block T) : PoSEngine T × Block T :=
  e.takeEvidence { block with epoch := block.index / e.config.epochLength, slot := block.index }

/-- `preview_common`. The pool is gone before anything can fail. -/
def previewCommon (keys : Option (ValidatorKeys T)) (block : Block T) (s : AccountState T)
    (chain : List (Block T)) : Making T :=
  let opened := e.opened block
  match e.config.lead M keys opened.2 s chain with
  | .error text => ⟨opened.1, opened.2, .error text⟩
  | .ok block => ⟨opened.1, block, .ok ()⟩

/-- `preview_block_with_chain` and `prepare_block_with_chain`. -/
def make (stage : Stage) (b : SigningBackend T) (block : Block T) (s : AccountState T)
    (chain : List (Block T)) : Making T :=
  let previewed := e.previewCommon M b.validatorKeys block s chain
  match stage, previewed.result with
  | .prepare, .ok () =>
    match b.sign previewed.block with
    | .error text => { previewed with result := .error text }
    | .ok block => { previewed with block }
  | _, _ => previewed

def drainSlashingEvidence : PoSEngine T := { e with slashingEvidence := [] }

/-- The evidence that `record_block` creates: the producer was seen at this height with
another hash. -/
def doubleSign (block : Block T) : Option (SlashingEvidence T) :=
  block.producer.bind fun producer =>
    let header := M.headerOf block
    (e.seenBlocks.get? (toLex (producer, header.index))).bind fun existing =>
      if existing.1.hash ≠ header.hash then
        some ⟨existing.1, header, existing.2, block.signature.getD []⟩
      else none

end PoSEngine

/-! ## The book of an engine -/

inductive EngineCall (T : ModuleTypes)
  | record (block : Block T)
  | make (stage : Stage) (b : SigningBackend T) (block : Block T) (s : AccountState T)
      (chain : List (Block T))
  | drain
  | prune (minHeight : ℕ)

/-- An engine with what became of its evidence. -/
structure EvidenceBook (T : ModuleTypes) where
  engine : PoSEngine T
  created : Multiset (SlashingEvidence T)
  /-- Drained, or pruned by height. -/
  removed : Multiset (SlashingEvidence T)
  /-- The blocks that were handed back with `Ok`. -/
  returned : List (Stage × Block T)

def Block.evidence (block : Block T) : Multiset (SlashingEvidence T) :=
  (block.slashingEvidence.getD [] : List _)

namespace EvidenceBook

variable (book : EvidenceBook T)

/-- An engine whose calls are noted from now on. -/
def start (e : PoSEngine T) : EvidenceBook T := ⟨e, 0, 0, []⟩

def pool : Multiset (SlashingEvidence T) := (book.engine.slashingEvidence : List _)

/-- The evidence inside the blocks of the given stages that were handed back with `Ok`. -/
def inside (counts : Stage → Bool) : Multiset (SlashingEvidence T) :=
  ((book.returned.filter fun r => counts r.1).map fun r => r.2.evidence).sum

def step : EngineCall T → EvidenceBook T
  | .record block =>
    { book with
      engine := book.engine.recordBlock M block
      created := book.created + ((book.engine.doubleSign M block).toList : List _) }
  | .make stage b block s chain =>
    let making := book.engine.make M stage b block s chain
    { book with
      engine := making.engine
      returned := match making.result with
        | .ok () => book.returned ++ [(stage, making.block)]
        | .error _ => book.returned }
  | .drain =>
    { book with
      engine := book.engine.drainSlashingEvidence
      removed := book.removed + book.pool }
  | .prune minHeight =>
    { book with
      engine := book.engine.pruneSlashingEvidence minHeight
      removed := book.removed +
        ((book.engine.slashingEvidence.filter fun evidence =>
          decide (evidence.header1.index < minHeight) : List _) : Multiset _) }

def run (calls : List (EngineCall T)) : EvidenceBook T := calls.foldl (step M) book

/-- The evidence that is in the pool, was drained or pruned, or is inside a block handed back
with `Ok` at a stage that counts. -/
def held (counts : Stage → Bool) : Multiset (SlashingEvidence T) :=
  book.pool + book.removed + book.inside counts

/-- No evidence that was created is lost. -/
def Kept (counts : Stage → Bool) : Prop := book.created ≤ book.held counts

end EvidenceBook

namespace PoSEngine

variable (e : PoSEngine T)

/-- Nothing fails: the node leads the slot and, if the block is to be signed, it is. -/
def Succeeds (stage : Stage) (b : SigningBackend T) (block : Block T) (s : AccountState T)
    (chain : List (Block T)) : Prop :=
  e.config.Elected M b.validatorKeys block s chain ∧ (stage = .prepare → b.Signs)

/-- The call takes no evidence, or hands it back in a block: it makes the block at a stage
that counts, and nothing fails. -/
def Spares (counts : Stage → Bool) : EngineCall T → Prop
  | .make stage b block s chain =>
    e.slashingEvidence = [] ∨ block.slashingEvidence ≠ none ∨
      (counts stage = true ∧ e.Succeeds M stage b block s chain)
  | _ => True

end PoSEngine

/-- Every call of a run spares the evidence, in the state it is made in. -/
def EvidenceBook.SparesFrom (counts : Stage → Bool) (book : EvidenceBook T) :
    List (EngineCall T) → Prop
  | [] => True
  | call :: calls =>
    book.engine.Spares M counts call ∧ SparesFrom counts (book.step M call) calls

/-! ## What making a block does to the evidence -/

variable {M}

namespace PoSConfig

variable {c : PoSConfig} {keys : Option (ValidatorKeys T)} {block block' : Block T}
  {s : AccountState T} {chain : List (Block T)}

lemma exists_lead_eq_ok (keys : Option (ValidatorKeys T)) (s : AccountState T)
    (chain : List (Block T)) (hepoch : block.epoch = block.index / c.epochLength)
    (hslot : block.slot = block.index) :
    (∃ block', c.lead M keys block s chain = .ok block') ↔ c.Elected M keys block s chain := by
  unfold lead Elected
  rw [hepoch, hslot]
  by_cases hactive : s.getActiveValidators = []
  · simp [hactive]
  rcases keys with _ | keys
  · simp [hactive]
  cases hvalidator : s.getValidator keys.address with
  | none => simp [hactive, hvalidator]
  | some validator =>
    by_cases hstake : validator.active = true ∧ validator.slashed = false ∧
        c.minStake ≤ validator.stake
    · by_cases hvrf : block.vrfOutput ≠ [] ∧ block.vrfProof ≠ []
      · simp [hactive, hvalidator, hstake, hvrf]
      · have hempty : block.vrfOutput = [] ∨ block.vrfProof = [] := by tauto
        cases hseed : c.calculateSeedWithChain M block.chainId (block.index / c.epochLength)
            block.index chain with
        | error text => simp [hactive, hvalidator, hstake, hvrf, hempty]
        | ok seed =>
          cases hcheck : checkVrfThreshold M (keys.vrfSign seed).1
              (calculateVrfThreshold validator.stake s.getTotalStake) <;>
            simp [hactive, hvalidator, hstake, hvrf, hempty, hcheck]
    · simp [hactive, hvalidator, hstake]

lemma lead_eq_ok (h : c.lead M keys block s chain = .ok block') :
    block'.slashingEvidence = block.slashingEvidence ∧
      ∃ keys' ∈ keys, block'.producer = some keys'.address := by
  unfold lead at h
  split at h
  · cases h
  rcases keys with _ | keys
  · cases h
  refine ⟨?_, keys, rfl, ?_⟩
  all_goals
    dsimp only at h
    split at h
    · cases h
    · split_ifs at h
      · split at h
        · cases h
        · split_ifs at h
          cases h
          rfl
      · cases h
        rfl

end PoSConfig

namespace SigningBackend

variable {b : SigningBackend T} {block block' : Block T}

lemma sign_eq_ok (h : b.sign block = .ok block') :
    block'.slashingEvidence = block.slashingEvidence := by
  unfold sign at h
  split at h
  · cases h
  · cases h
    rfl
  · split at h
    · split_ifs at h
      cases h
      rfl
    · cases h

lemma exists_sign_eq_ok {keys : ValidatorKeys T} (hkeys : keys ∈ b.validatorKeys)
    (hproducer : block.producer = some keys.address) :
    (∃ block', b.sign block = .ok block') ↔ b.Signs := by
  unfold sign Signs
  rcases b.signer with _ | _ | stamp
  · rw [Option.mem_def.mp hkeys]
    simp [hproducer]
  · simp
  · simp

end SigningBackend

namespace PoSEngine

variable {e : PoSEngine T} {b : SigningBackend T} {block : Block T} {s : AccountState T}
  {chain : List (Block T)} {stage : Stage} {counts : Stage → Bool}

lemma opened_of_spared (h : e.slashingEvidence = [] ∨ block.slashingEvidence ≠ none) :
    (e.opened block).1 = e := by
  unfold opened takeEvidence
  rw [if_neg]
  rintro ⟨hnone, hpool⟩
  exact h.elim hpool fun hsome => hsome hnone

lemma opened_of_taken (hnone : block.slashingEvidence = none) (hpool : e.slashingEvidence ≠ []) :
    (e.opened block).1 = { e with slashingEvidence := [] } ∧
      (e.opened block).2.slashingEvidence = some e.slashingEvidence := by
  unfold opened takeEvidence
  rw [if_pos ⟨hnone, hpool⟩]
  exact ⟨rfl, rfl⟩

lemma elected_opened (keys : Option (ValidatorKeys T)) :
    e.config.Elected M keys (e.opened block).2 s chain ↔ e.config.Elected M keys block s chain := by
  unfold opened takeEvidence
  split_ifs <;> rfl

lemma opened_slot (e : PoSEngine T) (block : Block T) :
    (e.opened block).2.epoch = (e.opened block).2.index / e.config.epochLength ∧
      (e.opened block).2.slot = (e.opened block).2.index := by
  unfold opened takeEvidence
  split_ifs <;> exact ⟨rfl, rfl⟩

lemma previewCommon_cases (keys : Option (ValidatorKeys T)) :
    (e.config.Elected M keys block s chain ∧ ∃ block', ∃ own ∈ keys,
        block'.producer = some own.address ∧
        block'.slashingEvidence = (e.opened block).2.slashingEvidence ∧
        e.previewCommon M keys block s chain = ⟨(e.opened block).1, block', .ok ()⟩) ∨
      (¬ e.config.Elected M keys block s chain ∧ ∃ text, e.previewCommon M keys block s chain =
          ⟨(e.opened block).1, (e.opened block).2, .error text⟩) := by
  obtain ⟨hepoch, hslot⟩ := opened_slot e block
  have hlead := PoSConfig.exists_lead_eq_ok (M := M) keys s chain hepoch hslot
  rw [elected_opened] at hlead
  unfold previewCommon
  dsimp only
  rcases h : e.config.lead M keys (e.opened block).2 s chain with text | block'
  · refine .inr ⟨fun helected => ?_, text, rfl⟩
    obtain ⟨block', hok⟩ := hlead.mpr helected
    rw [h] at hok
    cases hok
  · obtain ⟨hevidence, own, hown, hproducer⟩ := PoSConfig.lead_eq_ok h
    exact .inl ⟨hlead.mp ⟨block', h⟩, block', own, hown, hproducer, hevidence, rfl⟩

/-- Whatever becomes of the block, the engine is the one that opened it. The block handed back
with `Ok` has the evidence it was opened with. -/
lemma make_cases (stage : Stage) (b : SigningBackend T) (block : Block T) (s : AccountState T)
    (chain : List (Block T)) : (e.make M stage b block s chain).engine = (e.opened block).1 ∧
      ((e.Succeeds M stage b block s chain ∧ (e.make M stage b block s chain).result = .ok () ∧
          (e.make M stage b block s chain).block.slashingEvidence =
            (e.opened block).2.slashingEvidence) ∨ (¬ e.Succeeds M stage b block s chain ∧
          ∃ text, (e.make M stage b block s chain).result = .error text)) := by
  unfold make Succeeds
  rcases previewCommon_cases (M := M) (e := e) b.validatorKeys with
    ⟨helected, block', own, hown, hproducer, hevidence, heq⟩ | ⟨helected, text, heq⟩
  · rw [heq]
    cases stage with
    | preview => exact ⟨rfl, .inl ⟨⟨helected, nofun⟩, rfl, hevidence⟩⟩
    | prepare =>
      have hsign := SigningBackend.exists_sign_eq_ok hown hproducer
      dsimp only
      rcases h : b.sign block' with text | signed
      · refine ⟨rfl, .inr ⟨fun hsucceeds => ?_, text, rfl⟩⟩
        obtain ⟨signed, hok⟩ := hsign.mpr (hsucceeds.2 rfl)
        rw [h] at hok
        cases hok
      · refine ⟨rfl, .inl ⟨⟨helected, fun _ => hsign.mp ⟨signed, h⟩⟩, rfl, ?_⟩⟩
        exact (SigningBackend.sign_eq_ok h).trans hevidence
  · rw [heq]
    refine ⟨?_, .inr ⟨fun hsucceeds => helected hsucceeds.1, text, ?_⟩⟩
    · cases stage <;> rfl
    · cases stage <;> rfl

lemma slashingEvidence_recordBlock (block : Block T) : (e.recordBlock M block).slashingEvidence =
      e.slashingEvidence ++ (e.doubleSign M block).toList := by
  unfold recordBlock doubleSign
  rcases block.producer with _ | producer
  · simp
  dsimp only [Option.bind_some]
  rcases e.seenBlocks.get? (toLex (producer, (M.headerOf block).index)) with _ | existing
  · unfold noteBlock
    dsimp only
    split_ifs <;> simp [addCheckpoint]
  · dsimp only [Option.bind_some]
    split_ifs <;> simp

end PoSEngine

/-! ## Runs -/

namespace EvidenceBook

variable {book : EvidenceBook T} {counts : Stage → Bool}

lemma held_record (block : Block T) : (book.step M (.record block)).held counts =
      book.held counts + ((book.engine.doubleSign M block).toList : List _) := by
  simp only [held, pool, step, inside, slashingEvidence_recordBlock, ← coe_add]
  abel

lemma held_drain : (book.step M .drain).held counts = book.held counts := by
  simp only [held, pool, step, inside, drainSlashingEvidence, coe_nil]
  abel

lemma held_prune (minHeight : ℕ) :
    (book.step M (.prune minHeight)).held counts = book.held counts := by
  have hsplit : (book.engine.slashingEvidence : Multiset (SlashingEvidence T)) =
      ((book.engine.slashingEvidence.filter fun evidence =>
        decide (minHeight ≤ evidence.header1.index) : List _) : Multiset _) +
      ((book.engine.slashingEvidence.filter fun evidence =>
        decide (evidence.header1.index < minHeight) : List _) : Multiset _) := by
    have := filter_add_not (fun evidence : SlashingEvidence T =>
      minHeight ≤ evidence.header1.index) (book.engine.slashingEvidence : List _)
    simpa only [filter_coe, not_le] using this.symm
  simp only [held, pool, step, inside, pruneSlashingEvidence]
  rw [hsplit]
  abel

section

variable {stage : Stage} {b : SigningBackend T} {block : Block T} {s : AccountState T}
  {chain : List (Block T)}

lemma inside_of_succeeds (hcounts : counts stage = true)
    (h : book.engine.Succeeds M stage b block s chain) :
    (book.step M (.make stage b block s chain)).inside counts =
      book.inside counts + (book.engine.opened block).2.evidence := by
  obtain ⟨-, ⟨-, hok, hevidence⟩ | ⟨hfails, -⟩⟩ :=
    make_cases (M := M) (e := book.engine) stage b block s chain
  · simp [inside, step, hok, hcounts, Block.evidence, hevidence]
  · exact absurd h hfails

lemma inside_of_not_succeeds
    (h : ¬ (counts stage = true ∧ book.engine.Succeeds M stage b block s chain)) :
    (book.step M (.make stage b block s chain)).inside counts = book.inside counts := by
  obtain ⟨-, ⟨hsucceeds, hok, -⟩ | ⟨-, text, herror⟩⟩ :=
    make_cases (M := M) (e := book.engine) stage b block s chain
  · have hcounts : counts stage = false := by simpa [hsucceeds] using h
    simp [inside, step, hok, hcounts]
  · simp [inside, step, herror]

lemma inside_le_make :
    book.inside counts ≤ (book.step M (.make stage b block s chain)).inside counts := by
  by_cases h : counts stage = true ∧ book.engine.Succeeds M stage b block s chain
  · rw [inside_of_succeeds h.1 h.2]
    exact le_add_right _ _
  · rw [inside_of_not_succeeds h]

lemma held_make_iff : book.held counts ≤ (book.step M (.make stage b block s chain)).held counts ↔
    book.engine.Spares M counts (.make stage b block s chain) := by
  have hengine := (make_cases (M := M) (e := book.engine) stage b block s chain).1
  by_cases hspared : book.engine.slashingEvidence = [] ∨ block.slashingEvidence ≠ none
  · have hpool : (book.step M (.make stage b block s chain)).pool = book.pool := by
      simp only [pool, step, hengine, opened_of_spared hspared]
    refine iff_of_true ?_ (hspared.imp_right .inl)
    rw [held, held, hpool]
    exact add_le_add_right inside_le_make _
  · -- the pool is gone: it has to be inside the block that is handed back
    obtain ⟨hne, hnone⟩ := not_or.mp hspared
    obtain ⟨htaken, hevidence⟩ := opened_of_taken (not_not.mp hnone) hne
    have hpool : (book.step M (.make stage b block s chain)).pool = 0 := by
      simp only [pool, step, hengine, htaken, coe_nil]
    have hremoved : (book.step M (.make stage b block s chain)).removed = book.removed := rfl
    rw [held, held, hpool, hremoved]
    by_cases hsucceeds : counts stage = true ∧ book.engine.Succeeds M stage b block s chain
    · have hinside : (book.engine.opened block).2.evidence = book.pool := by
        rw [Block.evidence, hevidence]
        rfl
      rw [inside_of_succeeds hsucceeds.1 hsucceeds.2, hinside]
      exact iff_of_true (le_of_eq (by abel)) (.inr (.inr hsucceeds))
    · rw [inside_of_not_succeeds hsucceeds, zero_add, add_assoc]
      refine iff_of_false ?_ ?_
      · intro hle
        have hzero : book.pool ≤ 0 := add_le_iff_nonpos_left.mp hle
        exact hne (coe_eq_zero _ |>.mp (le_zero.mp hzero))
      · rintro (hempty | hsome | hboth)
        · exact hne hempty
        · exact hnone hsome
        · exact hsucceeds hboth

end

lemma held_le_step_iff (call : EngineCall T) :
    book.held counts ≤ (book.step M call).held counts ↔ book.engine.Spares M counts call := by
  cases call with
  | record block => exact iff_of_true (held_record block ▸ le_add_right _ _) trivial
  | make stage b block s chain => exact held_make_iff
  | drain => exact iff_of_true held_drain.ge trivial
  | prune minHeight => exact iff_of_true (held_prune minHeight).ge trivial

lemma Kept.step {call : EngineCall T} (h : book.Kept counts)
    (hspares : book.engine.Spares M counts call) : (book.step M call).Kept counts := by
  cases call with
  | record block =>
    show book.created + _ ≤ _
    rw [held_record]
    exact add_le_add_left h _
  | make stage b block s chain => exact h.trans ((held_le_step_iff _).mpr hspares)
  | drain => exact h.trans ((held_le_step_iff _).mpr hspares)
  | prune minHeight => exact h.trans ((held_le_step_iff _).mpr hspares)

lemma Kept.run {calls : List (EngineCall T)} (h : book.Kept counts)
    (hspares : book.SparesFrom M counts calls) : (book.run M calls).Kept counts := by
  induction calls generalizing book with
  | nil => exact h
  | cons call calls ih => exact ih (h.step hspares.1) hspares.2

end EvidenceBook

/-- Evidence survives a call exactly if the call takes none or hands it back in a block, and
no evidence is lost in a run of such calls. With `counts` only a block that was prepared can
stand for its evidence, or a previewed one too. -/
theorem evidence_kept_iff (M : ChainModules T) (counts : Stage → Bool) :
    (∀ (book : EvidenceBook T) (call : EngineCall T),
      book.held counts ≤ (book.step M call).held counts ↔ book.engine.Spares M counts call) ∧
    ∀ (e : PoSEngine T) (calls : List (EngineCall T)),
      (EvidenceBook.start e).SparesFrom M counts calls →
        ((EvidenceBook.start e).run M calls).Kept counts := by
  refine ⟨fun book call => EvidenceBook.held_le_step_iff call, ?_⟩
  intro e calls hspares
  have hstart : (EvidenceBook.start e).Kept counts := zero_le _
  exact hstart.run hspares

/-! ## A lost double signature -/

section

def freshEngine : PoSEngine .point := ⟨⟨1, 10, by decide⟩, ∅, [], []⟩

def sampleBlock (hash : String) : Block .point where
  index := 3
  timestamp := 0
  previousHash := "2"
  hash := hash
  transactions := []
  nonce := 0
  producer := some ⟨1⟩
  signature := some [1]
  producerPublicKey := []
  chainId := 1
  slashingEvidence := none
  stateRoot := ""
  txRoot := ""
  epoch := 0
  slot := 0
  vrfOutput := []
  vrfProof := []
  validatorSetHash := ""
  storageRoot := none

/-- The producer signs two blocks of one height. -/
def doubleSigning : List (EngineCall .point) :=
  [.record (sampleBlock "a"), .record (sampleBlock "b")]

/-- A node without keys prepares the next block. It cannot lead the slot. -/
def failedLeadership : EngineCall .point :=
  .make .prepare ⟨none, none⟩ { sampleBlock "c" with index := 4 } point []

/-- The evidence of the double signature was created, and then the failed attempt to lead
leaves it nowhere. -/
theorem evidence_lost_by_failed_leadership :
    let before := (EvidenceBook.start freshEngine).run .refusing doubleSigning
    let after := before.step .refusing failedLeadership
    before.created = before.pool ∧ before.created.card = 1 ∧ after.created = before.created ∧
      after.pool = 0 ∧ after.removed = 0 ∧ after.returned = [] := by
  decide +kernel

/-- A state with one validator, whose key the node has. -/
def validatorState : AccountState .point :=
  { point with
    validators := (∅ : SortedMap Address Validator).insert ⟨2⟩ (Validator.new ⟨2⟩ 10) }

def sampleKeys : ValidatorKeys .point where
  address := ⟨2⟩
  vrfSign _ := ([0], [1])
  sign block := ⟨block.hash, block.producer, [1], []⟩

def genesisBlock : Block .point := { sampleBlock "g" with index := 0 }

/-- The leader of the slot prepares the next block. -/
def leadership : EngineCall .point :=
  .make .prepare ⟨some sampleKeys, none⟩ { sampleBlock "c" with index := 4 } validatorState
    [genesisBlock]

/-- The leader of the slot hands the evidence back in the block it prepared. -/
theorem evidence_kept_iff_leader :
    let book := (EvidenceBook.start freshEngine).run .refusing
      (doubleSigning ++ [leadership])
    (book.created.card = 1 ∧ book.pool = 0 ∧ book.removed = 0) ∧
      book.Kept (fun stage => stage == .prepare) := by
  refine ⟨by decide +kernel, ?_⟩
  refine (evidence_kept_iff .refusing _).2 freshEngine _ ⟨trivial, trivial, ?_, trivial⟩
  refine .inr (.inr ⟨rfl, ⟨by decide +kernel, sampleKeys, rfl, Validator.new ⟨2⟩ 10, ?_⟩, ?_⟩)
  · refine ⟨by decide +kernel, by decide +kernel, .inr ?_⟩
    refine ⟨_, rfl, by decide +kernel⟩
  · intro _ answer hanswer
    cases hanswer

end

end Budlum
