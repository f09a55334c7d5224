import Budlum.Chain.CertProduction

/-!
# Equivocation evidence

Which validators an aggregator reports for double signing, as a function of the
votes it was offered. Detection compares a vote with the first one of the same
kind and voter, so it misses no conflict among the votes that reach it, in
whatever order they come. A precommit that comes before the prevote quorum does
not reach it: the handler refuses it first. The order of arrival matters there,
and only there.
-/

namespace Budlum

open FinalityCert List Function

variable {G₁ G₂ : Type} [AddCommGroup G₁] [AddCommGroup G₂] [DecidableEq G₁] [DecidableEq G₂]

namespace FinalityAggregator

variable (deps : FinalityDeps G₁ G₂) (snapshot : ValidatorSetSnapshot)

/-- Two votes of one kind by `a` for different hashes. -/
def Equivocates (calls : List (VoteKind × Vote)) (a : Address) : Prop :=
  ∃ kind v w, (kind, v) ∈ calls ∧ (kind, w) ∈ calls ∧ v.voterId = a ∧ w.voterId = a ∧
    v.checkpointHash ≠ w.checkpointHash

variable {calls : List (VoteKind × Vote)}

lemma Equivocates.mono {calls' : List (VoteKind × Vote)} {a : Address}
    (hsub : calls ⊆ calls') (h : Equivocates calls a) : Equivocates calls' a := by
  obtain ⟨kind, v, w, hv, hw, rest⟩ := h
  exact ⟨kind, v, w, hsub hv, hsub hw, rest⟩

def reportedVoters (agg : FinalityAggregator) : List Address :=
  agg.detectedEquivocations.map (·.voter)

/-- The calls that are not turned away for coming before the prevote quorum. -/
def heard (agg : FinalityAggregator) : List (VoteKind × Vote) → List (VoteKind × Vote)
  | [] => []
  | call :: calls =>
    if call.1 = .precommit ∧ agg.quorumReached .prevote = false then
      heard (agg.step deps call) calls
    else call :: heard (agg.step deps call) calls

/-- A validly signed vote of a snapshot member for the aggregator's round. -/
structure Genuine (checkpointHeight : ℕ) (call : VoteKind × Vote) : Prop where
  epoch : call.2.epoch = snapshot.epoch
  height : call.2.checkpointHeight = checkpointHeight
  signed : ∃ entry, snapshot.findValidator call.2.voterId = some entry ∧
    verifyBlsSig deps entry.blsPublicKey (call.2.signingMessage call.1) call.2.sigBls = .ok ()

/-! ## Evidence after one vote -/

/-- The evidence an aggregator holds is that of the calls it has heard. -/
structure EvidenceInv (calls : List (VoteKind × Vote)) (agg : FinalityAggregator) : Prop where
  unseen : ∀ kind a, (agg.seen kind).get? a = none → ∀ v, (kind, v) ∈ calls → v.voterId ≠ a
  seen : ∀ kind a hash sig, (agg.seen kind).get? a = some (hash, sig) →
    ∃ v, (kind, v) ∈ calls ∧ v.voterId = a ∧ v.checkpointHash = hash
  flagged : ∀ a, a ∈ agg.flaggedEquivocators ↔ Equivocates calls a
  reported : ∀ a, a ∈ agg.reportedVoters ↔ a ∈ agg.flaggedEquivocators
  nodup : agg.reportedVoters.Nodup

variable {agg : FinalityAggregator}

lemma EvidenceInv.congr {agg' : FinalityAggregator}
    (hseen : agg'.seen = agg.seen) (hflagged : agg'.flaggedEquivocators = agg.flaggedEquivocators)
    (hreports : agg'.detectedEquivocations = agg.detectedEquivocations)
    (h : EvidenceInv calls agg) : EvidenceInv calls agg' where
  unseen := by rw [hseen]; exact h.unseen
  seen := by rw [hseen]; exact h.seen
  flagged := by rw [hflagged]; exact h.flagged
  reported := by rw [reportedVoters, hreports, hflagged]; exact h.reported
  nodup := by rw [reportedVoters, hreports]; exact h.nodup

section

variable (agg : FinalityAggregator) (voter : Address) (h₁ h₂ : String) (s₁ s₂ : Bytes)

lemma recordEquivocation_flagged (a : Address) :
    a ∈ (agg.recordEquivocation voter h₁ s₁ h₂ s₂).flaggedEquivocators ↔
      a ∈ agg.flaggedEquivocators ∨ a = voter := by
  unfold recordEquivocation
  split_ifs with hmem
  · constructor
    · exact Or.inl
    · rintro (h | rfl)
      · exact h
      · exact hmem
  · simp [or_comm]

lemma recordEquivocation_seen : (agg.recordEquivocation voter h₁ s₁ h₂ s₂).seen = agg.seen := by
  unfold recordEquivocation
  split_ifs <;> rfl

end

variable {kind : VoteKind} {vote first : Vote}

lemma mem_snoc {k : VoteKind} {v : Vote} :
    (k, v) ∈ calls ++ [(kind, vote)] ↔ (k, v) ∈ calls ∨ k = kind ∧ v = vote := by
  rw [mem_append, mem_singleton, Prod.mk.injEq]

lemma equivocates_snoc_of_same
    (hfirst : (kind, first) ∈ calls) (hvoter : first.voterId = vote.voterId)
    (hhash : first.checkpointHash = vote.checkpointHash) (a : Address) :
    Equivocates (calls ++ [(kind, vote)]) a ↔ Equivocates calls a := by
  refine ⟨?_, Equivocates.mono (subset_append_left _ _)⟩
  -- replace the new vote by the earlier one wherever it occurs in the pair
  have hreplace : ∀ k v, (k, v) ∈ calls ++ [(kind, vote)] →
      ∃ v', (k, v') ∈ calls ∧ v'.voterId = v.voterId ∧ v'.checkpointHash = v.checkpointHash := by
    intro k v hmem
    rcases mem_snoc.mp hmem with h | ⟨rfl, rfl⟩
    · exact ⟨v, h, rfl, rfl⟩
    · exact ⟨first, hfirst, hvoter, hhash⟩
  rintro ⟨k, v, w, hv, hw, hva, hwa, hne⟩
  obtain ⟨v', hv', hvv, hvh⟩ := hreplace k v hv
  obtain ⟨w', hw', hwv, hwh⟩ := hreplace k w hw
  exact ⟨k, v', w', hv', hw', hvv.trans hva, hwv.trans hwa, by rwa [hvh, hwh]⟩

lemma equivocates_snoc_of_first
    (hfirst : ∀ v, (kind, v) ∈ calls → v.voterId ≠ vote.voterId) (a : Address) :
    Equivocates (calls ++ [(kind, vote)]) a ↔ Equivocates calls a := by
  refine ⟨?_, Equivocates.mono (subset_append_left _ _)⟩
  rintro ⟨k, v, w, hv, hw, hva, hwa, hne⟩
  rcases mem_snoc.mp hv with hv' | ⟨hk, rfl⟩ <;> rcases mem_snoc.mp hw with hw' | ⟨hk', rfl⟩
  · exact ⟨k, v, w, hv', hw', hva, hwa, hne⟩
  · exact absurd (hva.trans hwa.symm) (hfirst v (hk' ▸ hv'))
  · exact absurd (hwa.trans hva.symm) (hfirst w (hk ▸ hw'))
  · exact absurd rfl hne

lemma EvidenceInv.recordEquivocation
    (hinv : EvidenceInv calls agg) (voter : Address) (h₁ h₂ : String) (s₁ s₂ : Bytes) :
    (∀ a, a ∈ (agg.recordEquivocation voter h₁ s₁ h₂ s₂).reportedVoters ↔
        a ∈ (agg.recordEquivocation voter h₁ s₁ h₂ s₂).flaggedEquivocators) ∧
      (agg.recordEquivocation voter h₁ s₁ h₂ s₂).reportedVoters.Nodup := by
  unfold FinalityAggregator.recordEquivocation
  split_ifs with hmem
  · exact ⟨hinv.reported, hinv.nodup⟩
  · constructor
    · intro a
      have := hinv.reported a
      simp only [reportedVoters, map_append, map_cons, map_nil, mem_append,
        mem_singleton, Finset.mem_insert] at this ⊢
      rw [this, or_comm]
    · have hfresh : voter ∉ agg.reportedVoters := fun h => hmem ((hinv.reported voter).mp h)
      simp only [reportedVoters, map_append, map_cons, map_nil] at hfresh ⊢
      exact hinv.nodup.append (nodup_singleton _)
        (disjoint_singleton.mpr hfresh)

lemma equivocates_snoc_of_conflict
    (hfirst : (kind, first) ∈ calls) (hvoter : first.voterId = vote.voterId)
    (hhash : first.checkpointHash ≠ vote.checkpointHash) (a : Address) :
    Equivocates (calls ++ [(kind, vote)]) a ↔ Equivocates calls a ∨ a = vote.voterId := by
  have hleft : calls ⊆ calls ++ [(kind, vote)] := subset_append_left _ _
  constructor
  · rintro ⟨k, v, w, hv, hw, hva, hwa, hne⟩
    by_cases ha : a = vote.voterId
    · exact Or.inr ha
    · have hold : ∀ u, (k, u) ∈ calls ++ [(kind, vote)] → u.voterId = a → (k, u) ∈ calls := by
        intro u hu hua
        rcases mem_snoc.mp hu with hu | ⟨-, rfl⟩
        · exact hu
        · exact absurd hua.symm ha
      exact Or.inl ⟨k, v, w, hold v hv hva, hold w hw hwa, hva, hwa, hne⟩
  · rintro (h | rfl)
    · exact h.mono hleft
    · exact ⟨kind, first, vote, hleft hfirst, by simp, hvoter, rfl, hhash⟩

lemma EvidenceInv.seen_snoc (hinv : EvidenceInv calls agg)
    (hseen : (agg.seen kind).get? vote.voterId ≠ none) : (∀ k a, (agg.seen k).get? a = none →
        ∀ v, (k, v) ∈ calls ++ [(kind, vote)] → v.voterId ≠ a) ∧
      ∀ k a hash sig, (agg.seen k).get? a = some (hash, sig) →
        ∃ v, (k, v) ∈ calls ++ [(kind, vote)] ∧ v.voterId = a ∧ v.checkpointHash = hash := by
  constructor
  · intro k a hnone v hv
    rcases mem_snoc.mp hv with hv | ⟨rfl, rfl⟩
    · exact hinv.unseen k a hnone v hv
    · rintro rfl
      exact hseen hnone
  · intro k a hash sig h
    obtain ⟨v, hv, rest⟩ := hinv.seen k a hash sig h
    exact ⟨v, mem_append_left _ hv, rest⟩

lemma EvidenceInv.insert_seen (hinv : EvidenceInv calls agg)
    (hseen : (agg.seen kind).get? vote.voterId = none) :
    EvidenceInv (calls ++ [(kind, vote)])
      { agg with
        seen := update agg.seen kind
          ((agg.seen kind).insert vote.voterId (vote.checkpointHash, vote.sigBls)) } := by
  refine ⟨?_, ?_, ?_, hinv.reported, hinv.nodup⟩
  · intro k a hnone v hv
    dsimp only at hnone
    rcases mem_snoc.mp hv with hv | ⟨rfl, rfl⟩
    · refine hinv.unseen k a ?_ v hv
      by_cases hk : k = kind
      · subst hk
        rw [update_self, SortedMap.get?_insert] at hnone
        split_ifs at hnone
        exact hnone
      · rwa [update_of_ne hk] at hnone
    · rintro rfl
      simp at hnone
  · intro k a hash sig h
    dsimp only at h
    have hold : (agg.seen k).get? a = some (hash, sig) →
        ∃ v, (k, v) ∈ calls ++ [(kind, vote)] ∧ v.voterId = a ∧ v.checkpointHash = hash := by
      intro h'
      obtain ⟨v, hv, rest⟩ := hinv.seen k a hash sig h'
      exact ⟨v, mem_append_left _ hv, rest⟩
    by_cases hk : k = kind
    · subst hk
      rw [update_self, SortedMap.get?_insert] at h
      split_ifs at h with ha
      · cases h
        exact ⟨vote, by simp, ha.symm, rfl⟩
      · exact hold h
    · rw [update_of_ne hk] at h
      exact hold h
  · intro a
    rw [equivocates_snoc_of_first (hinv.unseen kind _ hseen)]
    exact hinv.flagged a

/-- **Detection** extends the evidence by exactly the vote it is given. -/
lemma EvidenceInv.detect (hinv : EvidenceInv calls agg) (kind : VoteKind) (vote : Vote) :
    EvidenceInv (calls ++ [(kind, vote)]) (agg.detectEquivocation kind vote) := by
  unfold detectEquivocation
  split
  · rename_i prevHash prevSig hseen
    obtain ⟨first, hfirst, hvoter, hprev⟩ := hinv.seen kind _ prevHash prevSig hseen
    have hbefore : (agg.seen kind).get? vote.voterId ≠ none := by simp [hseen]
    obtain ⟨hunseen, hseen'⟩ := hinv.seen_snoc hbefore
    split_ifs with hne
    · have hrec := hinv.recordEquivocation vote.voterId prevHash vote.checkpointHash prevSig
        vote.sigBls
      refine ⟨?_, ?_, ?_, hrec.1, hrec.2⟩
      · rw [recordEquivocation_seen]
        exact hunseen
      · rw [recordEquivocation_seen]
        exact hseen'
      · intro a
        rw [recordEquivocation_flagged, hinv.flagged,
          equivocates_snoc_of_conflict hfirst hvoter (by rwa [hprev])]
    · refine ⟨hunseen, hseen', ?_, hinv.reported, hinv.nodup⟩
      intro a
      rw [hinv.flagged, equivocates_snoc_of_same hfirst hvoter (hprev.trans (not_not.mp hne))]
  · rename_i hseen
    exact hinv.insert_seen hseen

/-! ## Evidence after a run -/

variable {call : VoteKind × Vote}

lemma EvidenceInv.step (hinv : EvidenceInv calls agg) (h : agg.Admits deps call) :
    EvidenceInv (calls ++ [call]) (agg.step deps call) := by
  have hdetect := hinv.detect call.1 call.2
  rcases agg.step_of_admits deps h with heq | ⟨-, -, heq⟩
  · rw [heq]
    exact hdetect
  · rw [heq]
    exact hdetect.congr (by simp [insertVote]) (by simp [insertVote]) (by simp [insertVote])

variable {checkpointHeight : ℕ}

lemma Genuine.admits
    (h : Genuine deps snapshot checkpointHeight call) (hepoch : agg.epoch = snapshot.epoch)
    (hheight : agg.checkpointHeight = checkpointHeight) (hs : agg.validatorSnapshot = some snapshot)
    (hgate : ¬ (call.1 = .precommit ∧ agg.quorumReached .prevote = false)) :
    agg.Admits deps call := by
  refine ⟨h.epoch.trans hepoch.symm, h.height.trans hheight.symm, ?_, ?_⟩
  · intro hk
    by_contra hne
    exact hgate ⟨hk, by simpa using hne⟩
  · obtain ⟨entry, hfound, hsig⟩ := h.signed
    simp [checkVoter, hs, hfound, hsig]

structure OfRound (checkpointHeight : ℕ) (agg : FinalityAggregator) : Prop where
  epoch : agg.epoch = snapshot.epoch
  height : agg.checkpointHeight = checkpointHeight
  validatorSnapshot : agg.validatorSnapshot = some snapshot

lemma OfRound.step (h : OfRound snapshot checkpointHeight agg) (call : VoteKind × Vote) :
    OfRound snapshot checkpointHeight (agg.step deps call) :=
  have hround := sameRound_step agg deps call
  ⟨hround.epoch.trans h.epoch, hround.checkpointHeight.trans h.height,
    hround.validatorSnapshot.trans h.validatorSnapshot⟩

lemma EvidenceInv.run : ∀ {calls prior : List (VoteKind × Vote)}
    {agg : FinalityAggregator}, OfRound snapshot checkpointHeight agg → EvidenceInv prior agg →
    (∀ call ∈ calls, Genuine deps snapshot checkpointHeight call) →
    EvidenceInv (prior ++ heard deps agg calls) (agg.run deps calls)
  | [], prior, agg, _, hinv, _ => by simpa [heard, FinalityAggregator.run] using hinv
  | call :: calls, prior, agg, hround, hinv, hgenuine => by
      have hcall := hgenuine call mem_cons_self
      have hrest : ∀ c ∈ calls, Genuine deps snapshot checkpointHeight c :=
        fun c hc => hgenuine c (mem_cons_of_mem _ hc)
      have hround' := hround.step deps snapshot call
      show EvidenceInv _ ((agg.step deps call).run deps calls)
      rw [heard]
      split_ifs with hgate
      · -- the gate refuses the precommit, so nothing is learnt from it
        have hsame : agg.step deps call = agg := agg.step_of_not_admits deps fun hadm => by
          have := hadm.2.2.1 hgate.1
          rw [hgate.2] at this
          cases this
        rw [hsame] at hround' ⊢
        exact EvidenceInv.run hround' hinv hrest
      · have hadm := hcall.admits deps snapshot hround.epoch hround.height
          hround.validatorSnapshot hgate
        have ih := EvidenceInv.run hround' (hinv.step deps hadm) hrest
        rwa [append_assoc] at ih

lemma prevote_mem_heard : ∀ {agg : FinalityAggregator}
    {calls : List (VoteKind × Vote)}, (.prevote, vote) ∈ calls →
    (.prevote, vote) ∈ heard deps agg calls
  | agg, call :: calls, h => by
      rw [heard]
      rcases mem_cons.mp h with rfl | h
      · simp
      · split_ifs
        · exact prevote_mem_heard h
        · exact mem_cons_of_mem _ (prevote_mem_heard h)

lemma start_evidence (checkpointHeight : ℕ) (checkpointHash : String) :
    EvidenceInv [] (start snapshot checkpointHeight checkpointHash) where
  unseen := fun _ _ _ _ h => by simp at h
  seen := fun _ _ _ _ h => by simp [start, new, setValidatorSnapshot] at h
  flagged := fun a => by simp [Equivocates, start, new, setValidatorSnapshot]
  reported := fun a => by simp [reportedVoters, start, new, setValidatorSnapshot]
  nodup := nodup_nil

/-- **Equivocation reports.** For genuine votes in any order:

* the reported voters, each reported once, are those with two conflicting votes
  of one kind among the calls heard;
* conflicting prevotes are always heard;
* as long as no precommit precedes the prevote quorum, the reported set is that
  of all conflicting votes, and any two such orders of the same votes agree. -/
theorem equivocators_reported (deps : FinalityDeps G₁ G₂) (snapshot : ValidatorSetSnapshot)
    (checkpointHeight : ℕ) (checkpointHash : String) (calls : List (VoteKind × Vote))
    (hgenuine : ∀ call ∈ calls, Genuine deps snapshot checkpointHeight call) :
    let first := start snapshot checkpointHeight checkpointHash
    (∀ a, a ∈ (first.run deps calls).reportedVoters ↔ Equivocates (heard deps first calls) a) ∧
    (first.run deps calls).reportedVoters.Nodup ∧
    (∀ a, Equivocates (calls.filter fun call => call.1 = .prevote) a →
      a ∈ (first.run deps calls).reportedVoters) ∧
    (heard deps first calls = calls →
      ∀ a, a ∈ (first.run deps calls).reportedVoters ↔ Equivocates calls a) ∧
    ∀ calls', calls.Perm calls' → heard deps first calls = calls →
      heard deps first calls' = calls' →
      ∀ a, a ∈ (first.run deps calls).reportedVoters ↔
        a ∈ (first.run deps calls').reportedVoters := by
  intro first
  have hreported : ∀ calls, (∀ call ∈ calls, Genuine deps snapshot checkpointHeight call) →
      (∀ a, a ∈ (first.run deps calls).reportedVoters ↔ Equivocates (heard deps first calls) a) ∧
        (first.run deps calls).reportedVoters.Nodup := by
    intro calls hcalls
    have hinv := EvidenceInv.run deps snapshot ⟨rfl, rfl, rfl⟩
      (start_evidence snapshot checkpointHeight checkpointHash) hcalls
    rw [nil_append] at hinv
    exact ⟨fun a => (hinv.reported a).trans (hinv.flagged a), hinv.nodup⟩
  have hall := hreported calls hgenuine
  refine ⟨hall.1, hall.2, ?_, ?_, ?_⟩
  · rintro a ⟨kind, v, w, hv, hw, rest⟩
    obtain ⟨hv, hkind⟩ := mem_filter.mp hv
    obtain ⟨hw, -⟩ := mem_filter.mp hw
    obtain rfl : kind = .prevote := by simpa using hkind
    exact (hall.1 a).mpr ⟨.prevote, v, w, prevote_mem_heard deps hv, prevote_mem_heard deps hw, rest⟩
  · intro hlate a
    rw [hall.1, hlate]
  · intro calls' hperm hlate hlate' a
    have hcalls' : ∀ call ∈ calls', Genuine deps snapshot checkpointHeight call :=
      fun c hc => hgenuine c (hperm.mem_iff.mpr hc)
    rw [hall.1, (hreported calls' hcalls').1, hlate, hlate']
    exact ⟨Equivocates.mono hperm.subset, Equivocates.mono hperm.symm.subset⟩

/-- Prevotes of validators 1 to 3, and two conflicting precommits of validator 4. -/
def quorumPrevotes : List (VoteKind × Vote) :=
  [smallVote .prevote 1 2 "a", smallVote .prevote 2 3 "a", smallVote .prevote 3 4 "a"]

def doublePrecommit : List (VoteKind × Vote) :=
  [smallVote .precommit 4 5 "a", smallVote .precommit 4 5 "b"]

lemma genuine_of_verify
    (h : call.2.epoch = snapshot.epoch ∧ call.2.checkpointHeight = checkpointHeight ∧
      (snapshot.findValidator call.2.voterId).map (fun entry =>
        verifyBlsSig deps entry.blsPublicKey (call.2.signingMessage call.1) call.2.sigBls) =
          some (.ok ())) : Genuine deps snapshot checkpointHeight call := by
  obtain ⟨hepoch, hheight, hsig⟩ := h
  obtain ⟨entry, hfound, hok⟩ := Option.map_eq_some_iff.mp hsig
  exact ⟨hepoch, hheight, entry, hfound, hok⟩

lemma smallVotes_genuine : ∀ call ∈ quorumPrevotes ++ doublePrecommit,
    Genuine smallDeps fourValidators 10 call := by
  have hchecked : ∀ call ∈ quorumPrevotes ++ doublePrecommit,
      call.2.epoch = fourValidators.epoch ∧ call.2.checkpointHeight = 10 ∧
      (fourValidators.findValidator call.2.voterId).map (fun entry =>
        verifyBlsSig smallDeps entry.blsPublicKey (call.2.signingMessage call.1)
          call.2.sigBls) = some (.ok ()) := by
    decide +kernel
  exact fun call hcall => genuine_of_verify smallDeps _ (hchecked call hcall)

/-- After the quorum the double precommit is reported. -/
theorem double_precommit_reported : (⟨4⟩ : Address) ∈ ((start fourValidators 10 "a").run smallDeps
      (quorumPrevotes ++ doublePrecommit)).reportedVoters := by
  refine ((equivocators_reported smallDeps fourValidators 10 "a"
    (quorumPrevotes ++ doublePrecommit) smallVotes_genuine).1 _).mpr ?_
  exact ⟨.precommit, (smallVote .precommit 4 5 "a").2, (smallVote .precommit 4 5 "b").2,
    by decide +kernel, by decide +kernel, by decide +kernel, by decide +kernel,
    by decide +kernel⟩

/-- The same votes with the precommits first: nobody is reported, although
validator 4 has signed two precommits for different hashes. -/
theorem early_double_precommit_unreported : (∀ call ∈ quorumPrevotes ++ doublePrecommit,
        Genuine smallDeps fourValidators 10 call) ∧
      (doublePrecommit ++ quorumPrevotes).Perm (quorumPrevotes ++ doublePrecommit) ∧
      ((start fourValidators 10 "a").run smallDeps
        (quorumPrevotes ++ doublePrecommit)).reportedVoters = [⟨4⟩] ∧
      ((start fourValidators 10 "a").run smallDeps
        (doublePrecommit ++ quorumPrevotes)).reportedVoters = [] :=
  ⟨smallVotes_genuine, perm_append_comm, by decide +kernel, by decide +kernel⟩

end FinalityAggregator

end Budlum
