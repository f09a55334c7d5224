import Budlum.Chain.FinalityCert
import Budlum.Lib.SortedMap

/-!
# The finality aggregator

One aggregator collects the prevotes and the precommits of one checkpoint. The
two vote types of the node have the same fields and are handled alike, so the
maps that exist once per type are indexed by `VoteKind` here. The handlers
differ in one place, which is kept apart: a precommit is refused outright until
the prevotes have reached their quorum.

A handler that fails can still have changed the aggregator, so both return the
new state next to the result.
-/

namespace Budlum

open Machine Function

inductive VoteKind where
  | prevote
  | precommit
deriving DecidableEq

/-- The fields of `Prevote` and of `Precommit`. -/
structure Vote where
  epoch : ℕ
  checkpointHeight : ℕ
  checkpointHash : String
  voterId : Address
  sigBls : Bytes
deriving DecidableEq

/-- `Prevote::signing_message` and `Precommit::signing_message`. -/
def Vote.signingMessage (vote : Vote) : VoteKind → Bytes
  | .prevote =>
    strBytes "BUDLUM_PREVOTE" ++ strBytes blsSchemeRfc9380V1 ++ u64LeBytes vote.epoch ++
      u64LeBytes vote.checkpointHeight ++ strBytes vote.checkpointHash
  | .precommit =>
    checkpointSigningMessage vote.epoch vote.checkpointHeight vote.checkpointHash

/-- How error texts name a vote type, at their start and inside. -/
def VoteKind.title : VoteKind → String
  | .prevote => "Prevote"
  | .precommit => "Precommit"

def VoteKind.name : VoteKind → String
  | .prevote => "prevote"
  | .precommit => "precommit"

/-- What `record_equivocation` hands to `SlashingReport::consensus_double_sign`. -/
structure DoubleSignReport where
  voter : Address
  height : ℕ
  hash₁ : String
  hash₂ : String
  sig₁ : Bytes
  sig₂ : Bytes
deriving DecidableEq

structure FinalityAggregator where
  epoch : ℕ
  checkpointHeight : ℕ
  checkpointHash : String
  /-- `prevotes` and `precommits`. -/
  votes : VoteKind → SortedMap Address Vote
  validatorSnapshot : Option ValidatorSetSnapshot
  /-- `prevote_quorum_reached` and `precommit_quorum_reached`. -/
  quorumReached : VoteKind → Bool
  detectedEquivocations : List DoubleSignReport
  /-- `seen_prevotes` and `seen_precommits`: first hash and signature of each voter. -/
  seen : VoteKind → SortedMap Address (String × Bytes)
  flaggedEquivocators : Finset Address

namespace FinalityAggregator

def new (epoch checkpointHeight : ℕ) (checkpointHash : String) : FinalityAggregator where
  epoch := epoch
  checkpointHeight := checkpointHeight
  checkpointHash := checkpointHash
  votes := fun _ => ∅
  validatorSnapshot := none
  quorumReached := fun _ => false
  detectedEquivocations := []
  seen := fun _ => ∅
  flaggedEquivocators := ∅

variable (agg : FinalityAggregator)

def setValidatorSnapshot (snapshot : ValidatorSetSnapshot) : FinalityAggregator :=
  { agg with validatorSnapshot := some snapshot }

def recordEquivocation (voter : Address) (hash₁ : String) (sig₁ : Bytes) (hash₂ : String)
    (sig₂ : Bytes) : FinalityAggregator :=
  if voter ∈ agg.flaggedEquivocators then agg
  else
    { agg with
      flaggedEquivocators := insert voter agg.flaggedEquivocators
      detectedEquivocations := agg.detectedEquivocations ++
        [{ voter := voter, height := agg.checkpointHeight, hash₁ := hash₁, hash₂ := hash₂,
           sig₁ := sig₁, sig₂ := sig₂ }] }

/-- `detect_prevote_equivocation` and `detect_precommit_equivocation`. -/
def detectEquivocation (kind : VoteKind) (vote : Vote) : FinalityAggregator :=
  match (agg.seen kind).get? vote.voterId with
  | some (prevHash, prevSig) =>
    if prevHash ≠ vote.checkpointHash then
      agg.recordEquivocation vote.voterId prevHash prevSig vote.checkpointHash vote.sigBls
    else agg
  | none =>
    { agg with
      seen := update agg.seen kind
        ((agg.seen kind).insert vote.voterId (vote.checkpointHash, vote.sigBls)) }

/-- The snapshot entries of the recorded voters, as the quorum loops read them. -/
def voters (snapshot : ValidatorSetSnapshot) (kind : VoteKind) : List ValidatorEntry :=
  (agg.votes kind).keys.filterMap snapshot.findValidator

/-- The test of `check_prevote_quorum` and `check_precommit_quorum`. -/
def HasQuorum (snapshot : ValidatorSetSnapshot) (kind : VoteKind) : Prop :=
  snapshot.quorumStake ≤ satSum u64Max 0 ((agg.voters snapshot kind).map (·.stake)) ∧
    snapshot.quorumCount ≤ (agg.voters snapshot kind).length

instance (snapshot : ValidatorSetSnapshot) (kind : VoteKind) :
    Decidable (agg.HasQuorum snapshot kind) :=
  inferInstanceAs (Decidable (_ ∧ _))

/-- `check_prevote_quorum` and `check_precommit_quorum`. -/
def checkQuorum (kind : VoteKind) : FinalityAggregator :=
  match agg.validatorSnapshot with
  | none => agg
  | some snapshot =>
    if agg.HasQuorum snapshot kind then
      { agg with quorumReached := update agg.quorumReached kind true }
    else agg

def insertVote (kind : VoteKind) (vote : Vote) : FinalityAggregator :=
  { agg with votes := update agg.votes kind ((agg.votes kind).insert vote.voterId vote) }

/-! ## What each helper leaves alone -/

section

variable (kind : VoteKind) (vote : Vote)

lemma detectEquivocation_frame :
    ∃ reports seen flagged, agg.detectEquivocation kind vote =
      { agg with
        detectedEquivocations := reports, seen := seen, flaggedEquivocators := flagged } := by
  unfold detectEquivocation recordEquivocation
  split
  · split_ifs
    · exact ⟨_, _, _, rfl⟩
    · exact ⟨_, _, _, rfl⟩
    · exact ⟨_, _, _, rfl⟩
  · exact ⟨_, _, _, rfl⟩

lemma checkQuorum_frame :
    ∃ reached, agg.checkQuorum kind = { agg with quorumReached := reached } := by
  unfold checkQuorum
  split
  · exact ⟨_, rfl⟩
  · split_ifs
    · exact ⟨_, rfl⟩
    · exact ⟨_, rfl⟩

@[simp] lemma detectEquivocation_keeps :
    (agg.detectEquivocation kind vote).votes = agg.votes ∧
      (agg.detectEquivocation kind vote).quorumReached = agg.quorumReached ∧
      (agg.detectEquivocation kind vote).validatorSnapshot = agg.validatorSnapshot ∧
      (agg.detectEquivocation kind vote).checkpointHash = agg.checkpointHash := by
  obtain ⟨_, _, _, h⟩ := agg.detectEquivocation_frame kind vote
  rw [h]
  exact ⟨rfl, rfl, rfl, rfl⟩

@[simp] lemma checkQuorum_keeps : (agg.checkQuorum kind).votes = agg.votes ∧
    (agg.checkQuorum kind).seen = agg.seen ∧
    (agg.checkQuorum kind).flaggedEquivocators = agg.flaggedEquivocators ∧
    (agg.checkQuorum kind).detectedEquivocations = agg.detectedEquivocations := by
  obtain ⟨_, h⟩ := agg.checkQuorum_frame kind
  rw [h]
  exact ⟨rfl, rfl, rfl, rfl⟩

variable {snapshot : ValidatorSetSnapshot}

lemma hasQuorum_congr {agg agg' : FinalityAggregator}
    {kind : VoteKind} (h : agg'.votes kind = agg.votes kind) :
    agg'.HasQuorum snapshot kind ↔ agg.HasQuorum snapshot kind := by
  unfold HasQuorum voters
  rw [h]

lemma checkQuorum_quorumReached (hs : agg.validatorSnapshot = some snapshot) (kind' : VoteKind) :
    (agg.checkQuorum kind).quorumReached kind' = true ↔
      agg.quorumReached kind' = true ∨ kind' = kind ∧ agg.HasQuorum snapshot kind := by
  unfold checkQuorum
  rw [hs]
  dsimp only
  split_ifs with hq
  · by_cases hk : kind' = kind
    · simp [hk, hq]
    · simp [hk]
  · simp [hq]

end

structure SameRound (agg agg' : FinalityAggregator) : Prop where
  epoch : agg'.epoch = agg.epoch
  checkpointHeight : agg'.checkpointHeight = agg.checkpointHeight
  checkpointHash : agg'.checkpointHash = agg.checkpointHash
  validatorSnapshot : agg'.validatorSnapshot = agg.validatorSnapshot

lemma SameRound.refl : SameRound agg agg := ⟨rfl, rfl, rfl, rfl⟩

lemma SameRound.trans {a b c : FinalityAggregator} (h : SameRound a b) (h' : SameRound b c) :
    SameRound a c :=
  ⟨h'.1.trans h.1, h'.2.trans h.2, h'.3.trans h.3, h'.4.trans h.4⟩

lemma sameRound_detectEquivocation (kind : VoteKind) (vote : Vote) :
    SameRound agg (agg.detectEquivocation kind vote) := by
  obtain ⟨_, _, _, h⟩ := agg.detectEquivocation_frame kind vote
  rw [h]
  exact ⟨rfl, rfl, rfl, rfl⟩

lemma sameRound_record (kind : VoteKind) (vote : Vote) :
    SameRound agg ((agg.insertVote kind vote).checkQuorum kind) := by
  obtain ⟨_, h⟩ := (agg.insertVote kind vote).checkQuorum_frame kind
  rw [h]
  exact ⟨rfl, rfl, rfl, rfl⟩

section

variable {G₁ G₂ : Type} [AddCommGroup G₁] [AddCommGroup G₂] [DecidableEq G₁] [DecidableEq G₂]
variable (deps : FinalityDeps G₁ G₂)

def checkVoter (kind : VoteKind) (vote : Vote) : Except String Unit :=
  match agg.validatorSnapshot with
  | none => .ok ()
  | some snapshot =>
    match snapshot.findValidator vote.voterId with
    | none => .error "Voter not in validator set"
    | some entry =>
      match verifyBlsSig deps entry.blsPublicKey (vote.signingMessage kind) vote.sigBls with
      | .error e => .error ("Invalid " ++ kind.name ++ " signature: " ++ e)
      | .ok () => .ok ()

/-- What both handlers do from the membership check on. -/
def ingest (kind : VoteKind) (vote : Vote) : Except String Unit × FinalityAggregator :=
  match agg.checkVoter deps kind vote with
  | .error e => (.error e, agg)
  | .ok () =>
    let agg := agg.detectEquivocation kind vote
    if vote.checkpointHash ≠ agg.checkpointHash then
      (.error (kind.title ++ " checkpoint hash mismatch"), agg)
    else if (agg.votes kind).contains vote.voterId then
      (.error ("Duplicate " ++ kind.name), agg)
    else (.ok (), (agg.insertVote kind vote).checkQuorum kind)

def addPrevote (vote : Vote) : Except String Unit × FinalityAggregator :=
  if vote.epoch ≠ agg.epoch then (.error "Prevote epoch mismatch", agg)
  else if vote.checkpointHeight ≠ agg.checkpointHeight then
    (.error "Prevote checkpoint height mismatch", agg)
  else agg.ingest deps .prevote vote

def addPrecommit (vote : Vote) : Except String Unit × FinalityAggregator :=
  if vote.epoch ≠ agg.epoch then (.error "Precommit epoch mismatch", agg)
  else if vote.checkpointHeight ≠ agg.checkpointHeight then
    (.error "Precommit checkpoint height mismatch", agg)
  else if !agg.quorumReached .prevote then
    (.error "Cannot precommit before prevote quorum", agg)
  else agg.ingest deps .precommit vote

def step (call : VoteKind × Vote) : FinalityAggregator :=
  match call with
  | (.prevote, vote) => (agg.addPrevote deps vote).2
  | (.precommit, vote) => (agg.addPrecommit deps vote).2

def run (calls : List (VoteKind × Vote)) : FinalityAggregator := 
  calls.foldl (fun agg call => agg.step deps call) agg

/-- One round of the loop in `try_produce_cert`. `none` is its early return. -/
def addSigner (snapshot : ValidatorSetSnapshot) (acc : Bytes × G₁) (entry : Address × Vote) :
    Option (Bytes × G₁) :=
  match snapshot.validatorIndex entry.1 with
  | none => some acc
  | some idx =>
    let bitmap := Bitmap.setBit acc.1 idx
    if entry.2.sigBls.length ≠ 48 then none
    else match deps.g1FromCompressed entry.2.sigBls with
      | some sig => some (bitmap, acc.2 + sig)
      | none => some (bitmap, acc.2)

def tryProduceCert : Option FinalityCert :=
  if !agg.quorumReached .precommit then none
  else match agg.validatorSnapshot with
    | none => none
    | some snapshot =>
      let empty := List.replicate ((snapshot.validators.length + 7) / 8) 0
      match (agg.votes .precommit).entries.foldlM (addSigner deps snapshot) (empty, 0) with
      | none => none
      | some (bitmap, aggSig) => some
          { epoch := agg.epoch
            checkpointHeight := agg.checkpointHeight
            checkpointHash := agg.checkpointHash
            aggSigBls := deps.g1ToCompressed aggSig
            bitmap := bitmap
            setHash := snapshot.setHash }

/-! ## What one call can do -/

/-- The vote passes every check that precedes equivocation detection. -/
def Admits (call : VoteKind × Vote) : Prop :=
  call.2.epoch = agg.epoch ∧ call.2.checkpointHeight = agg.checkpointHeight ∧
    (call.1 = .precommit → agg.quorumReached .prevote = true) ∧
    agg.checkVoter deps call.1 call.2 = .ok ()

lemma ingest_of_error {kind : VoteKind} {vote : Vote}
    (h : agg.checkVoter deps kind vote ≠ .ok ()) : (agg.ingest deps kind vote).2 = agg := by
  unfold ingest
  split
  · rfl
  · rename_i heq
    exact absurd heq h

variable {call : VoteKind × Vote}

lemma step_of_not_admits (h : ¬ agg.Admits deps call) : agg.step deps call = agg := by
  obtain ⟨kind, vote⟩ := call
  cases kind with
  | prevote =>
    simp only [step, addPrevote]
    split_ifs with hepoch hheight
    · rfl
    · rfl
    · refine agg.ingest_of_error deps fun hok => h ?_
      exact ⟨not_not.mp hepoch, not_not.mp hheight, by simp, hok⟩
  | precommit =>
    simp only [step, addPrecommit]
    split_ifs with hepoch hheight hgate
    · rfl
    · rfl
    · rfl
    · refine agg.ingest_of_error deps fun hok => h ?_
      exact ⟨not_not.mp hepoch, not_not.mp hheight, fun _ => by simpa using hgate, hok⟩

lemma ingest_of_ok {kind : VoteKind} {vote : Vote} (h : agg.checkVoter deps kind vote = .ok ()) :
    (agg.ingest deps kind vote).2 = agg.detectEquivocation kind vote ∨
      (vote.checkpointHash = (agg.detectEquivocation kind vote).checkpointHash ∧
        ((agg.detectEquivocation kind vote).votes kind).get? vote.voterId = none ∧
        (agg.ingest deps kind vote).2 =
          ((agg.detectEquivocation kind vote).insertVote kind vote).checkQuorum kind) := by
  unfold ingest
  rw [h]
  dsimp only
  split_ifs with hhash hdup
  · exact Or.inl rfl
  · exact Or.inl rfl
  · exact Or.inr ⟨not_not.mp hhash, by simpa [SortedMap.contains] using hdup, rfl⟩

/-- **The step lemma.** An admitted call first goes through detection; then it
is either dropped, or recorded as a first vote for the aggregator's own hash. -/
lemma step_of_admits (h : agg.Admits deps call) :
    agg.step deps call = agg.detectEquivocation call.1 call.2 ∨
      (call.2.checkpointHash = (agg.detectEquivocation call.1 call.2).checkpointHash ∧
        ((agg.detectEquivocation call.1 call.2).votes call.1).get? call.2.voterId = none ∧
        agg.step deps call =
          ((agg.detectEquivocation call.1 call.2).insertVote call.1 call.2).checkQuorum
            call.1) := by
  obtain ⟨kind, vote⟩ := call
  obtain ⟨hepoch, hheight, hgate, hok⟩ := h
  dsimp only at hepoch hheight hgate hok
  have hstep : agg.step deps (kind, vote) = (agg.ingest deps kind vote).2 := by
    cases kind with
    | prevote => simp [step, addPrevote, hepoch, hheight]
    | precommit => simp [step, addPrecommit, hepoch, hheight, hgate rfl]
  rw [hstep]
  exact agg.ingest_of_ok deps hok

lemma sameRound_step (call : VoteKind × Vote) : SameRound agg (agg.step deps call) := by
  by_cases h : agg.Admits deps call
  · have hdetect := agg.sameRound_detectEquivocation call.1 call.2
    rcases agg.step_of_admits deps h with heq | ⟨-, -, heq⟩
    · exact heq ▸ hdetect
    · exact heq ▸ hdetect.trans (sameRound_record _ _ _)
  · exact (agg.step_of_not_admits deps h).symm ▸ SameRound.refl agg

lemma run_snoc (calls : List (VoteKind × Vote)) (call : VoteKind × Vote) :
    agg.run deps (calls ++ [call]) = (agg.run deps calls).step deps call := by
  unfold run
  rw [List.foldl_append]
  rfl

lemma sameRound_run (calls : List (VoteKind × Vote)) : SameRound agg (agg.run deps calls) := by
  induction calls using List.reverseRecOn with
  | nil => exact SameRound.refl agg
  | append_singleton calls call ih =>
    rw [run_snoc]
    exact ih.trans (sameRound_step _ deps call)

end

end FinalityAggregator

end Budlum
