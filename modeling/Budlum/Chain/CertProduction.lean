import Budlum.Chain.Aggregator

/-!
# Certificates an aggregator produces

The aggregator that builds a certificate and the verifier that accepts it
compute signers, stake and aggregate key on their own: one from the map of
recorded precommits, the other from the bitmap and the validator list. This
module proves that they agree after every run of the two handlers.

Votes are only ever added, so the two quorum flags, once set, stay justified.
-/

namespace Budlum

open Machine FinalityCert ValidatorSetSnapshot Bitmap List SortedMap Function Nat

variable {G₁ G₂ : Type} [AddCommGroup G₁] [AddCommGroup G₂] [DecidableEq G₁] [DecidableEq G₂]

/-- What the curve library documents: compressed points decode to themselves
and the pairing is bilinear. -/
structure PairingLaws (deps : FinalityDeps G₁ G₂) : Prop where
  length_compressed : ∀ p, (deps.g1ToCompressed p).length = 48
  decode_compressed : ∀ p, deps.g1FromCompressed (deps.g1ToCompressed p) = some p
  pairing_zero : ∀ h, deps.pairingIsIdentity 0 h 0 = true
  pairing_add : ∀ h s₁ s₂ k₁ k₂, deps.pairingIsIdentity s₁ h k₁ = true →
    deps.pairingIsIdentity s₂ h k₂ = true → deps.pairingIsIdentity (s₁ + s₂) h (k₁ + k₂) = true

/-! ## Positions in the validator list -/

namespace ValidatorSetSnapshot

variable {snapshot : ValidatorSetSnapshot} {v : ValidatorEntry}

lemma findValidator_eq_some {a : Address}
    (h : snapshot.findValidator a = some v) : v ∈ snapshot.validators ∧ v.address = a :=
  ⟨mem_of_find?_eq_some h, by simpa using find?_some h⟩

section

variable (hdistinct : (snapshot.validators.map (·.address)).Nodup)
include hdistinct

lemma eq_of_address {i j : ℕ} {w : ValidatorEntry} (hi : snapshot.validators[i]? = some v)
    (hj : snapshot.validators[j]? = some w) (h : v.address = w.address) : i = j := by
  obtain ⟨hi', rfl⟩ := List.getElem?_eq_some_iff.mp hi
  obtain ⟨hj', rfl⟩ := List.getElem?_eq_some_iff.mp hj
  have hinj := nodup_iff_injective_get.mp hdistinct
  have hij := @hinj ⟨i, by simpa using hi'⟩ ⟨j, by simpa using hj'⟩ (by simpa using h)
  simpa using hij

lemma findValidator_of_mem (h : v ∈ snapshot.validators) :
    snapshot.findValidator v.address = some v := by
  cases hf : snapshot.findValidator v.address with
  | none =>
    have := find?_eq_none.mp hf v h
    simp at this
  | some w =>
    obtain ⟨hw, haddr⟩ := findValidator_eq_some hf
    obtain ⟨i, hi⟩ := getElem?_of_mem h
    obtain ⟨j, hj⟩ := getElem?_of_mem hw
    have hij := eq_of_address hdistinct hj hi haddr
    rw [← hij, hj] at hi
    exact hi

lemma validatorIndex_eq_some {a : Address} {i : ℕ} : snapshot.validatorIndex a = some i ↔
      ∃ v, snapshot.validators[i]? = some v ∧ v.address = a := by
  unfold validatorIndex
  rw [List.findIdx?_eq_some_iff_getElem]
  constructor
  · rintro ⟨hi, hp, -⟩
    exact ⟨_, List.getElem?_eq_getElem hi, by simpa using hp⟩
  · rintro ⟨v, hv, rfl⟩
    obtain ⟨hi, rfl⟩ := List.getElem?_eq_some_iff.mp hv
    refine ⟨hi, by simp, ?_⟩
    intro j hji hp
    have hj : j < snapshot.validators.length := hji.trans hi
    have := eq_of_address hdistinct (List.getElem?_eq_getElem hj) hv (by simpa using hp)
    omega

end

end ValidatorSetSnapshot

namespace FinalityAggregator

variable (deps : FinalityDeps G₁ G₂) (snapshot : ValidatorSetSnapshot)

/-- The aggregator `start_prevote_task` creates: the epoch is the one the
validator snapshot is taken for. -/
def start (checkpointHeight : ℕ) (checkpointHash : String) : FinalityAggregator :=
  (new snapshot.epoch checkpointHeight checkpointHash).setValidatorSnapshot snapshot

/-- A recorded vote: it was offered, names its own key, is for the aggregator's
checkpoint, and its signature was checked against the snapshot. -/
structure RecordedVote (agg : FinalityAggregator) (calls : List (VoteKind × Vote))
    (kind : VoteKind) (a : Address) (vote : Vote) : Prop where
  offered : (kind, vote) ∈ calls
  voter : vote.voterId = a
  epoch : vote.epoch = agg.epoch
  height : vote.checkpointHeight = agg.checkpointHeight
  hash : vote.checkpointHash = agg.checkpointHash
  signed : ∃ entry, snapshot.findValidator a = some entry ∧
    verifyBlsSig deps entry.blsPublicKey (vote.signingMessage kind) vote.sigBls = .ok ()

variable {agg : FinalityAggregator} {vote : Vote} {kind : VoteKind}

lemma checkVoter_ok (hs : agg.validatorSnapshot = some snapshot)
    (h : agg.checkVoter deps kind vote = .ok ()) :
    ∃ entry, snapshot.findValidator vote.voterId = some entry ∧
      verifyBlsSig deps entry.blsPublicKey (vote.signingMessage kind) vote.sigBls = .ok () := by
  unfold checkVoter at h
  rw [hs] at h
  dsimp only at h
  split at h
  · cases h
  · rename_i entry hentry
    split at h
    · cases h
    · rename_i hsig
      exact ⟨entry, hentry, hsig⟩

/-! ## One step -/

lemma step_votes (agg : FinalityAggregator) (hs : agg.validatorSnapshot = some snapshot)
    (call : VoteKind × Vote) : (agg.step deps call).votes = agg.votes ∧
        (agg.step deps call).quorumReached = agg.quorumReached ∨
      RecordedVote deps snapshot agg [call] call.1 call.2.voterId call.2 ∧
        (call.1 = .precommit → agg.quorumReached .prevote = true) ∧
        (agg.votes call.1).get? call.2.voterId = none ∧
        (agg.step deps call).votes = update agg.votes call.1
          ((agg.votes call.1).insert call.2.voterId call.2) ∧
        ∀ kind, (agg.step deps call).quorumReached kind = true ↔ agg.quorumReached kind = true ∨
            kind = call.1 ∧ (agg.step deps call).HasQuorum snapshot call.1 := by
  by_cases h : agg.Admits deps call
  · rcases agg.step_of_admits deps h with heq | ⟨hhash, hfresh, heq⟩
    · left
      rw [heq]
      simp
    · right
      obtain ⟨hepoch, hheight, hgate, hok⟩ := h
      simp only [detectEquivocation_keeps] at hhash hfresh
      refine ⟨⟨by simp, rfl, hepoch, hheight, hhash, checkVoter_ok deps snapshot hs hok⟩,
        hgate, hfresh, ?_, ?_⟩
      · rw [heq]
        simp [insertVote]
      · intro kind
        have hs' : ((agg.detectEquivocation call.1 call.2).insertVote call.1
            call.2).validatorSnapshot = some snapshot := by
          simpa [insertVote] using hs
        rw [heq, checkQuorum_quorumReached _ _ hs',
          hasQuorum_congr (congrFun (checkQuorum_keeps _ _).1 _)]
        simp [insertVote]
  · left
    rw [agg.step_of_not_admits deps h]
    exact ⟨rfl, rfl⟩

lemma HasQuorum.insert {agg' : FinalityAggregator} {kind' : VoteKind} {a : Address}
    (hfresh : (agg.votes kind').get? a = none)
    (hvotes : agg'.votes = update agg.votes kind' ((agg.votes kind').insert a vote))
    (h : agg.HasQuorum snapshot kind) : agg'.HasQuorum snapshot kind := by
  by_cases hk : kind = kind'
  · subst hk
    have hperm : (agg'.voters snapshot kind).Perm
        ((a :: (agg.votes kind).keys).filterMap snapshot.findValidator) := by
      unfold voters
      rw [hvotes, update_self]
      exact (keys_insert_perm hfresh vote).filterMap _
    obtain ⟨hstake, hcount⟩ := h
    have hsub : (agg.voters snapshot kind).Sublist
        ((a :: (agg.votes kind).keys).filterMap snapshot.findValidator) :=
      (sublist_cons_self _ _).filterMap _
    constructor
    · refine hstake.trans ?_
      rw [satSum_perm (zero_le _) (hperm.map _), satSum_eq (zero_le _),
        satSum_eq (zero_le _)]
      have hle := (hsub.map (·.stake)).sum_le_sum (fun _ _ => zero_le _)
      omega
    · exact hcount.trans ((hsub.length_le).trans hperm.length_eq.ge)
  · exact (hasQuorum_congr (by rw [hvotes, update_of_ne hk])).mpr h

/-! ## Whole runs -/

section

variable (checkpointHeight : ℕ) (checkpointHash : String)

lemma run_sameRound (calls : List (VoteKind × Vote)) :
    SameRound (start snapshot checkpointHeight checkpointHash)
      ((start snapshot checkpointHeight checkpointHash).run deps calls) :=
  sameRound_run _ deps calls

lemma run_snapshot (calls : List (VoteKind × Vote)) :
    ((start snapshot checkpointHeight checkpointHash).run deps calls).validatorSnapshot =
      some snapshot :=
  (run_sameRound deps snapshot checkpointHeight checkpointHash calls).validatorSnapshot

/-- What every run keeps: votes in the maps are recorded votes, flags stand for
quorums, and no precommit is in before the prevote quorum. -/
structure RunInv (calls : List (VoteKind × Vote)) (agg : FinalityAggregator) : Prop where
  recorded : ∀ kind a vote, (agg.votes kind).get? a = some vote →
    RecordedVote deps snapshot agg calls kind a vote
  quorum : ∀ kind, agg.quorumReached kind = true → agg.HasQuorum snapshot kind
  gate : agg.quorumReached .prevote = false → agg.votes .precommit = ∅

lemma RecordedVote.step {agg agg' : FinalityAggregator} {calls calls' : List (VoteKind × Vote)}
    {a : Address} {vote : Vote} (hround : SameRound agg agg')
    (hsub : calls ⊆ calls') (h : RecordedVote deps snapshot agg calls kind a vote) :
    RecordedVote deps snapshot agg' calls' kind a vote where
  offered := hsub h.offered
  voter := h.voter
  epoch := h.epoch.trans hround.epoch.symm
  height := h.height.trans hround.checkpointHeight.symm
  hash := h.hash.trans hround.checkpointHash.symm
  signed := h.signed

lemma RunInv.step {calls : List (VoteKind × Vote)} {agg : FinalityAggregator}
    (hs : agg.validatorSnapshot = some snapshot) (hinv : RunInv deps snapshot calls agg)
    (call : VoteKind × Vote) : RunInv deps snapshot (calls ++ [call]) (agg.step deps call) := by
  have hround := sameRound_step agg deps call
  have hleft : calls ⊆ calls ++ [call] := subset_append_left _ _
  have hright : [call] ⊆ calls ++ [call] := subset_append_right _ _
  rcases step_votes deps snapshot agg hs call with ⟨hvotes, hflags⟩ |
      ⟨hrec, hgate, hfresh, hvotes, hflags⟩
  · refine ⟨?_, ?_, ?_⟩
    · intro kind a vote hget
      rw [hvotes] at hget
      exact (hinv.recorded kind a vote hget).step deps snapshot hround hleft
    · intro kind hk
      rw [hflags] at hk
      exact (hasQuorum_congr (congrFun hvotes kind)).mpr (hinv.quorum kind hk)
    · intro hk
      rw [hflags] at hk
      rw [hvotes]
      exact hinv.gate hk
  · refine ⟨?_, ?_, ?_⟩
    · intro kind a vote hget
      rw [hvotes] at hget
      by_cases hk : kind = call.1
      · subst hk
        rw [update_self, get?_insert] at hget
        split_ifs at hget with ha
        · cases hget
          exact ha ▸ hrec.step deps snapshot hround hright
        · exact (hinv.recorded call.1 a vote hget).step deps snapshot hround hleft
      · rw [update_of_ne hk] at hget
        exact (hinv.recorded kind a vote hget).step deps snapshot hround hleft
    · intro kind hk
      rcases (hflags kind).mp hk with hold | ⟨rfl, hnew⟩
      · exact (hinv.quorum kind hold).insert snapshot hfresh hvotes
      · exact hnew
    · intro hk
      have hold : agg.quorumReached .prevote = false := by
        by_contra hne
        have := (hflags .prevote).mpr (Or.inl (by simpa using hne))
        rw [hk] at this
        cases this
      -- a recorded precommit would have needed the flag, so this was a prevote
      have hkind : .precommit ≠ call.1 := fun e => by
        have := hgate e.symm
        rw [hold] at this
        cases this
      rw [hvotes, update_of_ne hkind]
      exact hinv.gate hold

lemma runInv (calls : List (VoteKind × Vote)) : RunInv deps snapshot calls
      ((start snapshot checkpointHeight checkpointHash).run deps calls) := by
  induction calls using reverseRecOn with
  | nil =>
    refine ⟨?_, ?_, ?_⟩
    · intro kind a vote h
      exact absurd h (by simp [run, start, new, setValidatorSnapshot])
    · intro kind h
      exact absurd h (by simp [run, start, new, setValidatorSnapshot])
    · intro _
      rfl
  | append_singleton calls call ih =>
    rw [run_snoc]
    exact ih.step deps snapshot
      (run_snapshot deps snapshot checkpointHeight checkpointHash calls) call

/-- A set prevote flag points back to a moment when the prevotes alone made the
quorum and no precommit had been recorded. -/
lemma prevote_quorum_first (calls : List (VoteKind × Vote))
    (h : ((start snapshot checkpointHeight checkpointHash).run deps calls).quorumReached
      .prevote = true) : ∃ pre post, calls = pre ++ post ∧
      ((start snapshot checkpointHeight checkpointHash).run deps pre).votes .precommit = ∅ ∧
      ((start snapshot checkpointHeight checkpointHash).run deps pre).HasQuorum snapshot
        .prevote := by
  induction calls using reverseRecOn with
  | nil => exact absurd h (by simp [run, start, new, setValidatorSnapshot])
  | append_singleton calls call ih =>
    by_cases hold : ((start snapshot checkpointHeight checkpointHash).run deps
        calls).quorumReached .prevote = true
    · obtain ⟨pre, post, rfl, hrest⟩ := ih hold
      exact ⟨pre, post ++ [call], by simp, hrest⟩
    · -- the flag was set by this very call, a prevote
      have hinv := runInv deps snapshot checkpointHeight checkpointHash (calls ++ [call])
      refine ⟨calls ++ [call], [], by simp, ?_, hinv.quorum _ h⟩
      have hs := run_snapshot deps snapshot checkpointHeight checkpointHash calls
      have hempty := (runInv deps snapshot checkpointHeight checkpointHash calls).gate
        (by simpa using hold)
      rw [run_snoc] at h ⊢
      rcases step_votes deps snapshot _ hs call with ⟨hvotes, -⟩ |
          ⟨-, hgate, -, hvotes, -⟩
      · rw [hvotes]
        exact hempty
      · have hkind : .precommit ≠ call.1 := fun e => hold (hgate e.symm)
        rw [hvotes, update_of_ne hkind]
        exact hempty

end

/-! ## The certificate and its verifier -/

def aggregateSig (agg : FinalityAggregator) : G₁ :=
  ((agg.votes .precommit).entries.filterMap fun e => deps.g1FromCompressed e.2.sigBls).sum

def aggregateKey (agg : FinalityAggregator) : G₂ :=
  ((agg.voters snapshot .precommit).filterMap fun v => deps.g2FromCompressed v.blsPublicKey).sum

structure SignerEntry (msg : Bytes) (entry : Address × Vote) (idx : ℕ) (v : ValidatorEntry)
    (sig : G₁) (key : G₂) : Prop where
  index : snapshot.validatorIndex entry.1 = some idx
  position : snapshot.validators[idx]? = some v
  found : snapshot.findValidator entry.1 = some v
  sigLength : entry.2.sigBls.length = 48
  sigPoint : deps.g1FromCompressed entry.2.sigBls = some sig
  signerKey : signerKey deps v = .ok key
  keyPoint : deps.g2FromCompressed v.blsPublicKey = some key
  pairing : deps.pairingIsIdentity sig (deps.hashToG1 msg) key = true

lemma RecordedVote.signerEntry {calls : List (VoteKind × Vote)}
    {a : Address} (hdistinct : (snapshot.validators.map (·.address)).Nodup)
    (h : RecordedVote deps snapshot agg calls .precommit a vote) :
    ∃ idx v sig key, SignerEntry deps snapshot
      (checkpointSigningMessage agg.epoch agg.checkpointHeight agg.checkpointHash)
      (a, vote) idx v sig key := by
  obtain ⟨v, hfind, hsig⟩ := h.signed
  obtain ⟨key, sig, hlen, hkey, htorsion, hne, hsiglen, hsigpt, hpair⟩ := verifyBlsSig_ok deps hsig
  obtain ⟨hmem, haddr⟩ := findValidator_eq_some hfind
  obtain ⟨idx, hidx⟩ := getElem?_of_mem hmem
  refine ⟨idx, v, sig, key, ?_, hidx, hfind, hsiglen, hsigpt, ?_, hkey, ?_⟩
  · exact (validatorIndex_eq_some hdistinct).mpr ⟨v, hidx, haddr⟩
  · simp [signerKey, hlen, hkey, htorsion, hne]
  · rw [Vote.signingMessage, h.epoch, h.height, h.hash] at hpair
    exact hpair

section

variable {snapshot} {msg : Bytes} {entries : List (Address × Vote)}
variable (hsigners : ∀ e ∈ entries, ∃ idx v sig key, SignerEntry deps snapshot msg e idx v sig key)
include hsigners
omit [DecidableEq G₁]

/-- The production loop sets one bit for each recorded voter and adds up the
signatures; none of its failure branches is taken. -/
lemma foldlM_addSigner (acc : Bytes × G₁) : entries.foldlM (addSigner deps snapshot) acc =
      some ((entries.filterMap fun e => snapshot.validatorIndex e.1).foldl setBit acc.1,
        acc.2 + (entries.filterMap fun e => deps.g1FromCompressed e.2.sigBls).sum) := by
  induction entries generalizing acc with
  | nil => simp
  | cons e rest ih =>
    obtain ⟨idx, v, sig, key, he⟩ := hsigners e mem_cons_self
    have hstep : addSigner deps snapshot acc e = some (setBit acc.1 idx, acc.2 + sig) := by
      simp [addSigner, he.index, he.sigLength, he.sigPoint]
    rw [foldlM_cons, hstep]
    show rest.foldlM (addSigner deps snapshot) (setBit acc.1 idx, acc.2 + sig) = _
    rw [ih fun e' he' => hsigners e' (mem_cons_of_mem _ he')]
    simp [he.index, he.sigPoint, add_assoc]

lemma pairing_sum (laws : PairingLaws deps) : deps.pairingIsIdentity
      (entries.filterMap fun e => deps.g1FromCompressed e.2.sigBls).sum (deps.hashToG1 msg)
      (((entries.map Prod.fst).filterMap snapshot.findValidator).filterMap
        fun v => deps.g2FromCompressed v.blsPublicKey).sum = true := by
  induction entries with
  | nil => exact laws.pairing_zero _
  | cons e rest ih =>
    obtain ⟨idx, v, sig, key, he⟩ := hsigners e mem_cons_self
    have hrest := ih fun e' he' => hsigners e' (mem_cons_of_mem _ he')
    simp only [map_cons, filterMap_cons, he.sigPoint, he.found, he.keyPoint, sum_cons]
    exact laws.pairing_add _ _ _ _ _ he.pairing hrest

end

section

variable {snapshot} {entries : List (Address × Vote)}
variable (hdistinct : (snapshot.validators.map (·.address)).Nodup)
include hdistinct

lemma mem_indices {i : ℕ} : i ∈ entries.filterMap (fun e => snapshot.validatorIndex e.1) ↔
      ∃ v, snapshot.validators[i]? = some v ∧ v.address ∈ entries.map Prod.fst := by
  rw [mem_filterMap]
  constructor
  · rintro ⟨e, he, hidx⟩
    obtain ⟨v, hv, haddr⟩ := (validatorIndex_eq_some hdistinct).mp hidx
    exact ⟨v, hv, haddr ▸ mem_map_of_mem he⟩
  · rintro ⟨v, hv, hmem⟩
    obtain ⟨e, he, haddr⟩ := mem_map.mp hmem
    exact ⟨e, he, (validatorIndex_eq_some hdistinct).mpr ⟨v, hv, haddr.symm⟩⟩

lemma markedEntries_perm (hkeys : (entries.map Prod.fst).Nodup) {cert : FinalityCert}
    (hbit : ∀ i, getBit cert.bitmap i = true ↔
      i ∈ entries.filterMap fun e => snapshot.validatorIndex e.1) :
    ((cert.markedEntries snapshot.validators).map Prod.fst).Perm
      ((entries.map Prod.fst).filterMap snapshot.findValidator) := by
  have hvalidators : snapshot.validators.Nodup := hdistinct.of_map
  have hsub : ((cert.markedEntries snapshot.validators).map Prod.fst).Sublist
      snapshot.validators := by
    have h : (cert.markedEntries snapshot.validators).Sublist snapshot.validators.zipIdx :=
      filter_sublist
    simpa [zipIdx_map_fst] using h.map Prod.fst
  have hfind : ((entries.map Prod.fst).filterMap snapshot.findValidator).Nodup := by
    refine hkeys.filterMap ?_
    intro a a' v ha ha'
    rw [← (findValidator_eq_some ha).2, ← (findValidator_eq_some ha').2]
  rw [perm_ext_iff_of_nodup (hsub.nodup hvalidators) hfind]
  intro v
  rw [mem_map, mem_filterMap]
  constructor
  · rintro ⟨⟨v', i⟩, hmem, rfl⟩
    obtain ⟨hzip, hset⟩ := mem_filter.mp hmem
    have hpos : snapshot.validators[i]? = some v' := mem_zipIdx_iff_getElem?.mp hzip
    obtain ⟨w, hw, haddr⟩ := (mem_indices hdistinct).mp ((hbit i).mp hset)
    obtain rfl : w = v' := Option.some.inj (hw.symm.trans hpos)
    exact ⟨w.address, haddr, findValidator_of_mem hdistinct (mem_of_getElem? hpos)⟩
  · rintro ⟨a, ha, hfound⟩
    obtain ⟨hv, haddr⟩ := findValidator_eq_some hfound
    obtain ⟨i, hi⟩ := getElem?_of_mem hv
    refine ⟨(v, i), mem_filter.mpr ⟨mem_zipIdx_iff_getElem?.mpr hi, ?_⟩, rfl⟩
    exact (hbit i).mpr ((mem_indices hdistinct).mpr ⟨v, hi, haddr ▸ ha⟩)

end

omit [AddCommGroup G₁] [DecidableEq G₁] in
lemma mapM_signerKey : ∀ {marked : List (ValidatorEntry × ℕ)},
    (∀ e ∈ marked, ∃ key, signerKey deps e.1 = .ok key ∧
      deps.g2FromCompressed e.1.blsPublicKey = some key) →
    (marked.mapM fun e => signerKey deps e.1) =
      .ok ((marked.map Prod.fst).filterMap fun v => deps.g2FromCompressed v.blsPublicKey)
  | [], _ => rfl
  | e :: rest, h => by
      obtain ⟨key, hkey, hpoint⟩ := h e mem_cons_self
      have ih := mapM_signerKey fun e' he' => h e' (mem_cons_of_mem _ he')
      simp [mapM_cons, hkey, ih, hpoint, bind, Except.bind, pure, Except.pure]

variable {cert : FinalityCert}

omit [DecidableEq G₁] in
lemma tryProduceCert_eq_some {msg : Bytes} (hs : agg.validatorSnapshot = some snapshot)
    (hsigners : ∀ e ∈ (agg.votes .precommit).entries, ∃ idx v sig key,
      SignerEntry deps snapshot msg e idx v sig key) (h : agg.tryProduceCert deps = some cert) :
    agg.quorumReached .precommit = true ∧ cert =
        { epoch := agg.epoch
          checkpointHeight := agg.checkpointHeight
          checkpointHash := agg.checkpointHash
          aggSigBls := deps.g1ToCompressed (agg.aggregateSig deps)
          bitmap := ((agg.votes .precommit).entries.filterMap fun e =>
            snapshot.validatorIndex e.1).foldl setBit
              (replicate ((snapshot.validators.length + 7) / 8) 0)
          setHash := snapshot.setHash } := by
  unfold tryProduceCert at h
  rw [hs] at h
  dsimp only at h
  split_ifs at h with hflag
  rw [foldlM_addSigner deps hsigners] at h
  simp only [zero_add] at h
  exact ⟨by simpa using hflag, (Option.some.inj h).symm⟩

section

variable {snapshot} {agg : FinalityAggregator} {cert : FinalityCert}
variable (hdistinct : (snapshot.validators.map (·.address)).Nodup)
variable (hs : agg.validatorSnapshot = some snapshot)
variable (hsigners : ∀ e ∈ (agg.votes .precommit).entries, ∃ idx v sig key,
  SignerEntry deps snapshot
    (checkpointSigningMessage agg.epoch agg.checkpointHeight agg.checkpointHash) e idx v sig key)
variable (h : agg.tryProduceCert deps = some cert)
include hdistinct hs hsigners h

omit [DecidableEq G₁] in
lemma cert_getBit (i : ℕ) : getBit cert.bitmap i = true ↔
      ∃ v, snapshot.validators[i]? = some v ∧ v.address ∈ (agg.votes .precommit).keys := by
  obtain ⟨-, rfl⟩ := tryProduceCert_eq_some deps snapshot hs hsigners h
  have hrange : ∀ j ∈ (agg.votes .precommit).entries.filterMap
      (fun e => snapshot.validatorIndex e.1),
      j / 8 < (List.replicate ((snapshot.validators.length + 7) / 8) (0 : UInt8)).length := by
    intro j hj
    obtain ⟨v, hv, -⟩ := (mem_indices hdistinct).mp hj
    have := (List.getElem?_eq_some_iff.mp hv).1
    rw [length_replicate]
    omega
  rw [getBit_foldl_setBit hrange, getBit_replicate_zero, Bool.false_or,
    decide_eq_true_eq, mem_indices hdistinct]
  rfl

omit [DecidableEq G₁] in
lemma marked_perm_voters :
    ((cert.markedEntries snapshot.validators).map Prod.fst).Perm (agg.voters snapshot .precommit) := by
  refine markedEntries_perm hdistinct (agg.votes .precommit).keys_nodup ?_
  intro i
  rw [cert_getBit deps hdistinct hs hsigners h, mem_indices hdistinct]
  rfl

lemma verify_iff (laws : PairingLaws deps) (hepoch : agg.epoch = snapshot.epoch)
    (hquorum : agg.quorumReached .precommit = true → agg.HasQuorum snapshot .precommit) :
    cert.verify deps snapshot = .ok () ↔
      agg.aggregateKey deps snapshot ≠ 0 ∧ agg.aggregateSig deps ≠ 0 := by
  have hperm := marked_perm_voters deps hdistinct hs hsigners h
  obtain ⟨hflag, hcert⟩ := tryProduceCert_eq_some deps snapshot hs hsigners h
  obtain ⟨hstake, hcount⟩ := hquorum hflag
  -- every marked entry is a recorded voter, so its key passed the ingest check
  have hkeys : ∀ e ∈ cert.markedEntries snapshot.validators, ∃ key,
      signerKey deps e.1 = .ok key ∧
        deps.g2FromCompressed e.1.blsPublicKey = some key := by
    intro e he
    have hvoter : e.1 ∈ agg.voters snapshot .precommit :=
      hperm.mem_iff.mp (mem_map_of_mem he)
    obtain ⟨a, ha, hfound⟩ := mem_filterMap.mp hvoter
    obtain ⟨entry, hentry, rfl⟩ := mem_map.mp ha
    obtain ⟨idx, v, sig, key, hsigner⟩ := hsigners entry hentry
    obtain rfl : v = e.1 := Option.some.inj (hsigner.found.symm.trans hfound)
    exact ⟨key, hsigner.signerKey, hsigner.keyPoint⟩
  have hsum : (((cert.markedEntries snapshot.validators).map Prod.fst).filterMap
      fun v => deps.g2FromCompressed v.blsPublicKey).sum = agg.aggregateKey deps snapshot :=
    (hperm.filterMap _).sum_eq
  have hstakes : satSum u64Max 0
      ((cert.markedEntries snapshot.validators).map (·.1.stake)) =
        satSum u64Max 0 ((agg.voters snapshot .precommit).map (·.stake)) := by
    have hp := hperm.map (·.stake)
    rw [map_map] at hp
    exact satSum_perm (zero_le _) hp
  have hlen : (cert.markedEntries snapshot.validators).length =
      (agg.voters snapshot .precommit).length := by
    simpa using hperm.length_eq
  have hpair := pairing_sum deps hsigners laws
  have hsig : cert.aggSigBls = deps.g1ToCompressed (agg.aggregateSig deps) := by rw [hcert]
  have hmsg : cert.signingMessage =
      checkpointSigningMessage agg.epoch agg.checkpointHeight agg.checkpointHash := by
    rw [hcert]
    rfl
  rw [verify_ok, mapM_signerKey deps hkeys, hstakes, hlen]
  simp only [Except.ok.injEq, exists_eq_left', verifyAggregate_ok, hsum, hsig, hmsg,
    laws.length_compressed, laws.decode_compressed, Option.some.injEq, true_and]
  constructor
  · rintro ⟨-, -, -, -, -, hkey, hsig, -⟩
    exact ⟨hkey, hsig⟩
  · rintro ⟨hkey, hsig⟩
    refine ⟨by rw [hcert], by rw [hcert]; exact hepoch, hstake, hcount, ?_, hkey, hsig, hpair⟩
    intro hnil
    rw [hnil] at hsum
    exact hkey hsum.symm

end

lemma signerCount_eq {snapshot : ValidatorSetSnapshot}
    (hperm : ((cert.markedEntries snapshot.validators).map Prod.fst).Perm
      (agg.voters snapshot .precommit))
    (hfound : ∀ a ∈ (agg.votes .precommit).keys, (snapshot.findValidator a).isSome = true) :
    cert.signerCount snapshot.validators.length = (agg.votes .precommit).entries.length := by
  have hmarked : cert.signerCount snapshot.validators.length =
      (cert.markedEntries snapshot.validators).length := by
    unfold signerCount signerIndices markedEntries
    rw [range_eq_range', ← zipIdx_map_snd, filter_map, length_map]
    rfl
  have hvoters : (agg.voters snapshot .precommit).length = (agg.votes .precommit).keys.length :=
    filterMap_length_eq_length.mpr hfound
  rw [hmarked, ← length_map Prod.fst, hperm.length_eq, hvoters]
  exact length_map _

/-- **Certificate production.** After any run of the two handlers, a produced
certificate

* is accepted by the verifier unless the signers' keys or signatures cancel,
* marks exactly the voters whose precommit for its hash was offered and recorded,
* aggregates one signature for each of them, and
* was preceded by a prevote quorum for its hash, before any precommit. -/
theorem produced_cert (deps : FinalityDeps G₁ G₂) (laws : PairingLaws deps)
    (snapshot : ValidatorSetSnapshot)
    (hdistinct : (snapshot.validators.map (·.address)).Nodup)
    (checkpointHeight : ℕ) (checkpointHash : String) (calls : List (VoteKind × Vote))
    (cert : FinalityCert)
    (h : ((start snapshot checkpointHeight checkpointHash).run deps calls).tryProduceCert deps =
      some cert) :
    let first := start snapshot checkpointHeight checkpointHash
    let agg := first.run deps calls
    (cert.verify deps snapshot = .ok () ↔
      agg.aggregateKey deps snapshot ≠ 0 ∧ agg.aggregateSig deps ≠ 0) ∧
    (∀ i, getBit cert.bitmap i = true ↔ ∃ v vote, snapshot.validators[i]? = some v ∧
      (agg.votes .precommit).get? v.address = some vote ∧
      vote.checkpointHash = cert.checkpointHash ∧ (.precommit, vote) ∈ calls) ∧
    (cert.signerCount snapshot.validators.length = (agg.votes .precommit).entries.length ∧
      deps.g1FromCompressed cert.aggSigBls = some (agg.aggregateSig deps)) ∧
    ∃ pre post, calls = pre ++ post ∧ (first.run deps pre).votes .precommit = ∅ ∧
      (first.run deps pre).HasQuorum snapshot .prevote ∧
      ∀ a vote, ((first.run deps pre).votes .prevote).get? a = some vote →
        vote.checkpointHash = cert.checkpointHash := by
  intro first agg
  have hround := run_sameRound deps snapshot checkpointHeight checkpointHash calls
  have hs : agg.validatorSnapshot = some snapshot := hround.validatorSnapshot
  have hinv : RunInv deps snapshot calls agg :=
    runInv deps snapshot checkpointHeight checkpointHash calls
  have hsigners : ∀ e ∈ (agg.votes .precommit).entries, ∃ idx v sig key,
      SignerEntry deps snapshot
        (checkpointSigningMessage agg.epoch agg.checkpointHeight agg.checkpointHash) e idx v sig
        key := by
    rintro ⟨a, vote⟩ hmem
    exact (hinv.recorded .precommit a vote (mem_entries.mp hmem)).signerEntry deps
      snapshot hdistinct
  have hperm := marked_perm_voters deps hdistinct hs hsigners h
  obtain ⟨hflag, hcert⟩ := tryProduceCert_eq_some deps snapshot hs hsigners h
  have hhash : cert.checkpointHash = checkpointHash := by
    rw [hcert]
    exact hround.checkpointHash
  refine ⟨verify_iff deps hdistinct hs hsigners h laws hround.epoch (hinv.quorum _), ?_, ⟨?_, ?_⟩,
    ?_⟩
  · intro i
    rw [cert_getBit deps hdistinct hs hsigners h]
    constructor
    · rintro ⟨v, hv, hkey⟩
      obtain ⟨vote, hvote⟩ := Option.isSome_iff_exists.mp (mem_keys.mp hkey)
      have hrec := hinv.recorded _ _ _ hvote
      exact ⟨v, vote, hv, hvote, by rw [hrec.hash, hcert], hrec.offered⟩
    · rintro ⟨v, vote, hv, hvote, -, -⟩
      exact ⟨v, hv, mem_keys.mpr (by rw [hvote]; rfl)⟩
  · refine signerCount_eq hperm ?_
    intro a ha
    obtain ⟨entry, hentry, rfl⟩ := mem_map.mp ha
    obtain ⟨idx, v, sig, key, hsigner⟩ := hsigners entry hentry
    rw [hsigner.found]
    rfl
  · rw [hcert]
    exact laws.decode_compressed _
  · -- a precommit was recorded, so the gate had been opened
    have hgate : agg.quorumReached .prevote = true := by
      by_contra hne
      have hempty := hinv.gate (by simpa using hne)
      obtain ⟨hstake, -⟩ := hinv.quorum _ hflag
      rw [voters, hempty] at hstake
      exact absurd hstake (not_le.mpr snapshot.quorumStake_pos)
    obtain ⟨pre, post, rfl, hempty, hq⟩ :=
      prevote_quorum_first deps snapshot checkpointHeight checkpointHash calls hgate
    refine ⟨pre, post, rfl, hempty, hq, ?_⟩
    intro a vote hvote
    have hrec := (runInv deps snapshot checkpointHeight checkpointHash pre).recorded _ _ _ hvote
    rw [hrec.hash, hhash]
    exact (run_sameRound deps snapshot checkpointHeight checkpointHash pre).checkpointHash

lemma smallDeps_laws : PairingLaws smallDeps where
  length_compressed := fun p => by simp [smallDeps, encodeSmall]
  decode_compressed := decodeSmall_encodeSmall
  pairing_zero := fun h => by simp [smallDeps]
  pairing_add := fun h s₁ s₂ k₁ k₂ h₁ h₂ => by
    simp only [smallDeps, beq_iff_eq] at h₁ h₂ ⊢
    rw [h₁, h₂, mul_add]

def smallVote (kind : VoteKind) (id : ℕ) (secret : ZMod 101) (hash : String) : VoteKind × Vote :=
  let unsigned : Vote := ⟨5, 10, hash, ⟨Fin.ofNat _ id⟩, []⟩
  (kind, { unsigned with
    sigBls := encodeSmall 48 (smallDeps.hashToG1 (unsigned.signingMessage kind) * secret) })

/-- Prevotes and then precommits of the first three validators. -/
def smallRun (secrets : List (ℕ × ZMod 101)) : List (VoteKind × Vote) :=
  secrets.map (fun s => smallVote .prevote s.1 s.2 "a") ++
    secrets.map (fun s => smallVote .precommit s.1 s.2 "a")

/-- The run of three of four validators produces the certificate the verifier
accepts. -/
theorem produced_cert_three_of_four : ∃ cert, ((start fourValidators 10 "a").run smallDeps
        (smallRun [(1, 2), (2, 3), (3, 4)])).tryProduceCert smallDeps = some cert ∧
      cert.verify smallDeps fourValidators = .ok () := by
  have hsome : (((start fourValidators 10 "a").run smallDeps
      (smallRun [(1, 2), (2, 3), (3, 4)])).tryProduceCert smallDeps).isSome = true := by
    decide +kernel
  obtain ⟨cert, hcert⟩ := Option.isSome_iff_exists.mp hsome
  refine ⟨cert, hcert, (produced_cert smallDeps smallDeps_laws fourValidators
    (by decide +kernel) 10 "a" _ cert hcert).1.mpr ?_⟩
  decide +kernel

/-- Four validators of whom the first three have keys that add up to nothing. -/
def cancellingValidators : ValidatorSetSnapshot :=
  .new smallDeps 5 [smallValidator 1 10 2, smallValidator 2 10 3, smallValidator 3 10 96,
    smallValidator 4 10 5] (by decide)

/-- The aggregator certifies their checkpoint and the verifier refuses it. -/
theorem cancelling_keys_cert_refused : (((start cancellingValidators 10 "a").run smallDeps
        (smallRun [(1, 2), (2, 3), (3, 96)])).tryProduceCert smallDeps).map
      (fun cert => cert.verify smallDeps cancellingValidators) =
        some (.error "Aggregated BLS public key is identity") := by
  decide +kernel

end FinalityAggregator

end Budlum
