import Budlum.Chain.Blockchain
import Budlum.CrossDomain.Domains
import Budlum.Lib.Reorder

/-!
# Acceptance of domain commitments

`accept_domain_commitment` records the commitment of a domain and applies every
recorded one that now follows the last applied one without a gap. A commitment that
comes early is recorded unchecked; its parent and its nonces are looked at when the
gap before it closes, in the call that closes it.

`acceptDomainCommitment_new` says what a call does with a commitment that is recorded:
everything depends on the commitments that are `ready` afterwards.
-/

namespace Budlum

open Machine Reorder SortedMap AccountState List
open GlobalBlockHeader (zeroRoot)

/-- What is applied of a commitment to its domain. -/
@[simps] def ConsensusDomain.commit (d : ConsensusDomain) (com : DomainCommitment) :
    ConsensusDomain :=
  { d with lastCommittedHeight := d.lastCommittedHeight + 1, lastCommittedHash := com.domainBlockHash }

namespace Blockchain

variable {T : ModuleTypes} (c : Blockchain T)

def validateDomainCommitmentMetadata (com : DomainCommitment) : Except String ConsensusDomain :=
  match c.domainRegistry.get? com.domainId with
  | none => .error s!"Unknown consensus domain {com.domainId}"
  | some domain =>
    if domain.status = .frozen then .error s!"Domain {com.domainId} is frozen"
    else if domain.isActive = false then .error s!"Domain {com.domainId} is not active"
    else if domain.kind ≠ com.consensusKind then
      .error s!"Commitment consensus kind mismatch for domain {com.domainId}"
    else .ok domain

def validateCommitmentStateUpdates (com : DomainCommitment) : Except String Unit :=
  if com.stateUpdates.entries.any fun u => decide (u.2 ≤ c.state.getNonce u.1) then
    .error (s!"Commitment nonce invariant violation for domain {com.domainId} " ++
      s!"height {com.domainHeight}")
  else .ok ()

/-- Freeze a domain. A failure to save it is only logged. -/
def freeze (domainId : ℕ) (domain : ConsensusDomain) : Blockchain T :=
  { c with domainRegistry := c.domainRegistry.insert domainId { domain with status := .frozen } }

def setNonce (s : AccountState T) (update : Address × ℕ) : AccountState T :=
  s.setAccount update.1 { s.account update.1 with nonce := update.2 }

@[simps] def applyCommitment (domainId : ℕ) (domain : ConsensusDomain) (com : DomainCommitment) :
    Blockchain T :=
  { c with
    state := com.stateUpdates.entries.foldl setNonce c.state
    domainRegistry := c.domainRegistry.insert domainId (domain.commit com) }

/-- `apply_pending_commitments`. `left` is the number of heights above the last one:
with none left `last_height + 1` overflows. -/
def applyPendingCommitments (domainId : ℕ) :
    ℕ → Blockchain T → Except (Stop String) (List ConsensusDomain) × Blockchain T
  | 0, c => (.error .abort, c)
  | left + 1, c =>
    match c.domainRegistry.get? domainId with
    | none => (.error (.err s!"Domain {domainId} not found"), c)
    | some domain =>
      let nextHeight := domain.lastCommittedHeight + 1
      match c.domainCommitmentRegistry.findByHeight domainId nextHeight with
      | none => (.ok [], c)
      | some com =>
        if domain.lastCommittedHash ≠ zeroRoot ∧
            com.parentDomainBlockHash ≠ domain.lastCommittedHash then
          (.error (.err s!"Domain {domainId} parent hash mismatch at height {nextHeight}"),
            c.freeze domainId domain)
        else
          match c.validateCommitmentStateUpdates com with
          | .error text => (.error (.err text), c)
          | .ok () =>
            match applyPendingCommitments domainId left
                (c.applyCommitment domainId domain com) with
            | (.error e, c) => (.error e, c)
            | (.ok updated, c) => (.ok (domain.commit com :: updated), c)

/-- The end of a call that found another commitment at its height. -/
def rejectEquivocation (domain : ConsensusDomain) (com : DomainCommitment) :
    Except (Stop String) Unit × Blockchain T :=
  (.error (.err (s!"Equivocation or invalid sequence detected for domain {com.domainId} " ++
    s!"height {com.domainHeight}")), c.freeze com.domainId domain)

def settleCommitment (domain : ConsensusDomain) (com : DomainCommitment) :
    Except (Stop String) Unit × Blockchain T :=
  match applyPendingCommitments com.domainId (u64Max - domain.lastCommittedHeight) c with
  | (.error e, c) => (.error e, c)
  | (.ok updated, c) =>
    match c.storage with
    | none => (.ok (), c)
    | some store =>
      match store.saveDomainCommitmentBatch com updated with
      | .ok () => (.ok (), c)
      | .error e =>
        (.error (.err s!"Failed to atomically persist domain commitment batch: {e}"), c)

/-- The rest of `accept_domain_commitment`, once the commitment matches its domain. -/
def acceptMatching (domain : ConsensusDomain) (com : DomainCommitment) :
    Except (Stop String) Unit × Blockchain T :=
  let existing := c.domainCommitmentRegistry.findByHeight com.domainId com.domainHeight
  if com.domainHeight ≤ domain.lastCommittedHeight then
    match existing with
    | some existing =>
      if existing.domainBlockHash = com.domainBlockHash then (.ok (), c)
      else c.rejectEquivocation domain com
    | none =>
      if com.domainHeight = domain.lastCommittedHeight ∧
          com.domainBlockHash = domain.lastCommittedHash then (.ok (), c)
      else
        (.error (.err (s!"Stale or conflicting commitment for domain {com.domainId} " ++
          s!"height {com.domainHeight}")), c)
  else
    match existing with
    | some existing =>
      if existing.domainBlockHash = com.domainBlockHash ∧ existing.sequence = com.sequence then
        (.ok (), c)
      else c.rejectEquivocation domain com
    | none =>
      -- only the next commitment is checked before it is recorded
      let checked :=
        if com.domainHeight = domain.lastCommittedHeight + 1 then
          c.validateCommitmentStateUpdates com
        else .ok ()
      match checked with
      | .error text => (.error (.err text), c)
      | .ok () =>
        match c.domainCommitmentRegistry.insertCommitment com with
        | .error text => (.error (.err text), c)
        | .ok domainCommitmentRegistry =>
          { c with domainCommitmentRegistry }.settleCommitment domain com

def acceptDomainCommitment (com : DomainCommitment) : Except (Stop String) Unit × Blockchain T :=
  match c.validateDomainCommitmentMetadata com with
  | .error text => (.error (.err text), c)
  | .ok domain =>
    if domain.status = .frozen then (.error (.err s!"Domain {com.domainId} is frozen"), c)
    else if domain.validatorSetHash ≠ zeroRoot ∧
        com.validatorSetHash ≠ domain.validatorSetHash then
      (.error (.err s!"Commitment validator set hash mismatch for domain {com.domainId}"), c)
    else c.acceptMatching domain com

/-! ## Applying commitments one after the other -/

/-- Every nonce that the commitment carries is above the one of its account. -/
def Fresh (nonce : Address → ℕ) (com : DomainCommitment) : Prop :=
  ∀ u ∈ com.stateUpdates.entries, nonce u.1 < u.2

instance (nonce : Address → ℕ) (com : DomainCommitment) : Decidable (Fresh nonce com) :=
  inferInstanceAs (Decidable (∀ u ∈ com.stateUpdates.entries, nonce u.1 < u.2))

def nonceAfter (nonce : Address → ℕ) (com : DomainCommitment) (a : Address) : ℕ :=
  (com.stateUpdates.get? a).getD (nonce a)

/-- The commitment names the last hash as its parent. No hash was committed to while the
last one is zero. -/
def Follows (lastHash : Hash32) (com : DomainCommitment) : Prop :=
  lastHash = zeroRoot ∨ com.parentDomainBlockHash = lastHash

instance (lastHash : Hash32) (com : DomainCommitment) : Decidable (Follows lastHash com) :=
  inferInstanceAs (Decidable (_ ∨ _))

lemma follows_iff {lastHash : Hash32} :
    Follows lastHash com ↔ ¬ (lastHash ≠ zeroRoot ∧ com.parentDomainBlockHash ≠ lastHash) := by
  unfold Follows
  tauto

/-- Each commitment names the one before it as its parent. -/
def Linked : Hash32 → List DomainCommitment → Prop
  | _, [] => True
  | lastHash, com :: rest => Follows lastHash com ∧ Linked com.domainBlockHash rest

/-- Each commitment follows the one before it and carries nonces above those before it. -/
def Applicable : Hash32 → (Address → ℕ) → List DomainCommitment → Prop
  | _, _, [] => True
  | lastHash, nonce, com :: rest =>
    Follows lastHash com ∧ Fresh nonce com ∧
      Applicable com.domainBlockHash (nonceAfter nonce com) rest

instance decidableApplicable : (lastHash : Hash32) → (nonce : Address → ℕ) →
    (run : List DomainCommitment) → Decidable (Applicable lastHash nonce run)
  | _, _, [] => .isTrue trivial
  | lastHash, nonce, com :: rest =>
    have := decidableApplicable com.domainBlockHash (nonceAfter nonce com) rest
    inferInstanceAs (Decidable (Follows lastHash com ∧ Fresh nonce com ∧
      Applicable com.domainBlockHash (nonceAfter nonce com) rest))

lemma validateCommitmentStateUpdates_eq_ok {c : Blockchain T} :
    c.validateCommitmentStateUpdates com = .ok () ↔ Fresh c.state.getNonce com := by
  unfold validateCommitmentStateUpdates Fresh
  split_ifs with h
  · obtain ⟨u, hu, hle⟩ := any_eq_true.mp h
    refine ⟨(nomatch ·), fun hfresh => ?_⟩
    exact absurd (hfresh u hu) (not_lt.mpr (of_decide_eq_true hle))
  · refine ⟨fun _ u hu => not_le.mp fun hle => h ?_, fun _ => rfl⟩
    exact any_eq_true.mpr ⟨u, hu, decide_eq_true hle⟩

lemma getNonce_setNonce (s : AccountState T) (u : Address × ℕ) (a : Address) :
    (setNonce s u).getNonce a = if a = u.1 then u.2 else s.getNonce a := by
  rw [setNonce, getNonce_eq, account_setAccount]
  split_ifs <;> rfl

lemma getNonce_foldl_setNonce {updates : List (Address × ℕ)}
    (hsorted : updates.Pairwise fun u v => u.1 < v.1) (s : AccountState T) (a : Address) :
    (updates.foldl setNonce s).getNonce a = (lookupEntry a updates).getD (s.getNonce a) := by
  induction updates generalizing s with
  | nil => rfl
  | cons u rest ih =>
    obtain ⟨hhead, htail⟩ := pairwise_cons.mp hsorted
    rw [foldl_cons, ih htail, getNonce_setNonce, lookupEntry]
    split_ifs with ha
    · subst ha
      cases hrest : lookupEntry u.1 rest with
      | none => rfl
      | some n =>
        have hmem := (lookupEntry_eq_some htail).mp hrest
        exact absurd (hhead _ hmem) (lt_irrefl _)
    · rfl

lemma getNonce_applyCommitment (c : Blockchain T) (domainId : ℕ) (d : ConsensusDomain)
    (com : DomainCommitment) :
    (c.applyCommitment domainId d com).state.getNonce = nonceAfter c.state.getNonce com :=
  funext fun a => getNonce_foldl_setNonce com.stateUpdates.sorted c.state a

def commitAll (d : ConsensusDomain) (run : List DomainCommitment) : ConsensusDomain :=
  run.foldl ConsensusDomain.commit d

def commits : ConsensusDomain → List DomainCommitment → List ConsensusDomain
  | _, [] => []
  | d, com :: rest => d.commit com :: commits (d.commit com) rest

def applyAll (domainId : ℕ) : ConsensusDomain → List DomainCommitment → Blockchain T → Blockchain T
  | _, [], c => c
  | d, com :: rest, c => applyAll domainId (d.commit com) rest (c.applyCommitment domainId d com)

variable {domainId left : ℕ}

section

variable {c : Blockchain T} (hd : c.domainRegistry.get? domainId = some d)
include hd

/-- What `apply_pending_commitments` does: it applies what is ready, and stops at the first
commitment that cannot be applied. -/
lemma applyPendingCommitments_some
    (hnext : c.domainCommitmentRegistry.findByHeight domainId (d.lastCommittedHeight + 1) = some com)
    (hfollows : Follows d.lastCommittedHash com) (hfresh : Fresh c.state.getNonce com) :
    applyPendingCommitments domainId (left + 1) c =
      match applyPendingCommitments domainId left (c.applyCommitment domainId d com) with
      | (.error e, c) => (.error e, c)
      | (.ok updated, c) => (.ok (d.commit com :: updated), c) := by
  rw [applyPendingCommitments, hd]
  simp only [hnext, if_neg (follows_iff.mp hfollows),
    validateCommitmentStateUpdates_eq_ok.mpr hfresh]

lemma applyPendingCommitments_eq {run : List DomainCommitment}
    (hrun : ready (c.domainCommitmentRegistry.findByHeight domainId) left
      (d.lastCommittedHeight + 1) = run) (happ : Applicable d.lastCommittedHash c.state.getNonce run) :
    applyPendingCommitments domainId left c =
      (if run.length < left then .ok (commits d run) else .error .abort,
        applyAll domainId d run c) := by
  subst hrun
  induction left generalizing c d with
  | zero => rfl
  | succ left ih =>
    cases hnext : c.domainCommitmentRegistry.findByHeight domainId (d.lastCommittedHeight + 1) with
    | none =>
      rw [applyPendingCommitments, hd, ready_of_none _ hnext]
      simp only [hnext]
      rfl
    | some com =>
      rw [ready_of_some _ hnext] at happ ⊢
      obtain ⟨hfollows, hfresh, happ⟩ := happ
      have hd' := get?_insert_self c.domainRegistry domainId (d.commit com)
      rw [← getNonce_applyCommitment c domainId d] at happ
      rw [applyPendingCommitments_some hd hnext hfollows hfresh, ih hd' happ, length_cons]
      simp only [Nat.add_lt_add_iff_right, applyCommitment_domainCommitmentRegistry,
        ConsensusDomain.commit_lastCommittedHeight]
      split_ifs <;> rfl

lemma applyPendingCommitments_error (hnot : ¬ Applicable d.lastCommittedHash c.state.getNonce
      (ready (c.domainCommitmentRegistry.findByHeight domainId) left (d.lastCommittedHeight + 1))) :
    ∃ text c', applyPendingCommitments domainId left c = (.error (.err text), c') ∧
      c'.domainCommitmentRegistry = c.domainCommitmentRegistry := by
  induction left generalizing c d with
  | zero => exact absurd trivial hnot
  | succ left ih =>
    cases hnext : c.domainCommitmentRegistry.findByHeight domainId (d.lastCommittedHeight + 1) with
    | none =>
      rw [ready_of_none _ hnext] at hnot
      exact absurd trivial hnot
    | some com =>
      rw [ready_of_some _ hnext] at hnot
      by_cases hfollows : Follows d.lastCommittedHash com
      · by_cases hfresh : Fresh c.state.getNonce com
        · have hd' := get?_insert_self c.domainRegistry domainId (d.commit com)
          have hrest := fun happ => hnot ⟨hfollows, hfresh, happ⟩
          rw [← getNonce_applyCommitment c domainId d] at hrest
          obtain ⟨text, c', heq, hkept⟩ := ih (c := c.applyCommitment domainId d com) hd' hrest
          refine ⟨text, c', ?_, hkept⟩
          rw [applyPendingCommitments_some hd hnext hfollows hfresh, heq]
        · cases hcheck : c.validateCommitmentStateUpdates com with
          | ok _ => exact absurd (validateCommitmentStateUpdates_eq_ok.mp hcheck) hfresh
          | error text =>
            rw [applyPendingCommitments, hd]
            simp only [hnext, if_neg (follows_iff.mp hfollows), hcheck]
            exact ⟨_, _, rfl, rfl⟩
      · have hparent := not_or.mp hfollows
        rw [applyPendingCommitments, hd]
        simp only [hnext, ne_eq, if_pos hparent]
        exact ⟨_, _, rfl, rfl⟩

end

section

variable (domainId : ℕ) (run : List DomainCommitment) (d : ConsensusDomain) (c : Blockchain T)

lemma applyAll_frame :
    (applyAll domainId d run c).domainCommitmentRegistry = c.domainCommitmentRegistry ∧
      (applyAll domainId d run c).storage = c.storage := by
  induction run generalizing d c with
  | nil => exact ⟨rfl, rfl⟩
  | cons com rest ih => exact ih (d.commit com) (c.applyCommitment domainId d com)

end

/-! ## What a call does -/

structure Matches (d : ConsensusDomain) (com : DomainCommitment) : Prop where
  active : d.isActive = true
  kind : d.kind = com.consensusKind
  validators : d.validatorSetHash = zeroRoot ∨ com.validatorSetHash = d.validatorSetHash

/-- The commitment is recorded, with `r` for the records afterwards. -/
structure Admitted (c : Blockchain T) (com : DomainCommitment) (d : ConsensusDomain)
    (r : DomainCommitmentRegistry) : Prop where
  domain : c.domainRegistry.get? com.domainId = some d
  fits : Matches d com
  ahead : d.lastCommittedHeight < com.domainHeight
  absent : c.domainCommitmentRegistry.findByHeight com.domainId com.domainHeight = none
  fresh : com.domainHeight = d.lastCommittedHeight + 1 → Fresh c.state.getNonce com
  recorded : c.domainCommitmentRegistry.insertCommitment com = .ok r

/-- Another commitment is recorded at the same height. -/
def Equivocates (c : Blockchain T) (com : DomainCommitment) : Prop :=
  ∃ existing, c.domainCommitmentRegistry.findByHeight com.domainId com.domainHeight = some existing ∧
    (existing.domainBlockHash ≠ com.domainBlockHash ∨ existing.sequence ≠ com.sequence)

variable {c} {com : DomainCommitment} {d : ConsensusDomain} {r : DomainCommitmentRegistry}

lemma acceptDomainCommitment_of_matches (hd : c.domainRegistry.get? com.domainId = some d)
    (hfits : Matches d com) : c.acceptDomainCommitment com = c.acceptMatching d com := by
  have hactive : d.status = .active := by simpa [ConsensusDomain.isActive] using hfits.active
  have hvalidators : ¬ (d.validatorSetHash ≠ zeroRoot ∧
      com.validatorSetHash ≠ d.validatorSetHash) := by
    rintro ⟨hzero, hother⟩
    exact hfits.validators.elim hzero hother
  rw [acceptDomainCommitment, validateDomainCommitmentMetadata, hd]
  simp [hactive, hfits.active, hfits.kind, hvalidators]

lemma acceptDomainCommitment_of_not_matches
    (h : ∀ d, c.domainRegistry.get? com.domainId = some d → ¬ Matches d com) :
    ∃ text, c.acceptDomainCommitment com = (.error (.err text), c) := by
  rw [acceptDomainCommitment, validateDomainCommitmentMetadata]
  cases hd : c.domainRegistry.get? com.domainId with
  | none => exact ⟨_, rfl⟩
  | some d =>
    dsimp only
    split_ifs with hfrozen hactive hkind
    · exact ⟨_, rfl⟩
    · exact ⟨_, rfl⟩
    · exact ⟨_, rfl⟩
    · have hvalidators := not_or.mp fun hvalidators =>
        h d hd ⟨by simpa using hactive, not_not.mp hkind, hvalidators⟩
      dsimp only
      rw [if_neg hfrozen, if_pos hvalidators]
      exact ⟨_, rfl⟩

section

variable (hd : c.domainRegistry.get? com.domainId = some d) (hfits : Matches d com)
include hd hfits

lemma acceptDomainCommitment_of_known {existing : DomainCommitment}
    (hknown : c.domainCommitmentRegistry.findByHeight com.domainId com.domainHeight = some existing)
    (hhash : existing.domainBlockHash = com.domainBlockHash)
    (hsequence : existing.sequence = com.sequence) : c.acceptDomainCommitment com = (.ok (), c) := by
  rw [acceptDomainCommitment_of_matches hd hfits]
  simp [acceptMatching, hknown, hhash, hsequence]

lemma acceptDomainCommitment_of_equivocates (hahead : d.lastCommittedHeight < com.domainHeight)
    (h : Equivocates c com) : (c.acceptDomainCommitment com).1 ≠ .ok () := by
  obtain ⟨existing, hknown, hother⟩ := h
  rw [acceptDomainCommitment_of_matches hd hfits]
  simp [acceptMatching, hknown, hahead.not_ge, not_and_or.mpr hother, rejectEquivocation]

lemma acceptDomainCommitment_of_stale (hnext : com.domainHeight = d.lastCommittedHeight + 1)
    (habsent : c.domainCommitmentRegistry.findByHeight com.domainId com.domainHeight = none)
    (hstale : ¬ Fresh c.state.getNonce com) : (c.acceptDomainCommitment com).1 ≠ .ok () := by
  rw [acceptDomainCommitment_of_matches hd hfits]
  cases hcheck : c.validateCommitmentStateUpdates com with
  | ok _ => exact absurd (validateCommitmentStateUpdates_eq_ok.mp hcheck) hstale
  | error text =>
    rw [hnext] at habsent
    simp [acceptMatching, habsent, hnext, hcheck]

end

lemma acceptDomainCommitment_of_admitted (h : Admitted c com d r) :
    c.acceptDomainCommitment com =
      { c with domainCommitmentRegistry := r }.settleCommitment d com := by
  rw [acceptDomainCommitment_of_matches h.domain h.fits]
  have hchecked : (if com.domainHeight = d.lastCommittedHeight + 1 then
      c.validateCommitmentStateUpdates com else .ok ()) = .ok () := by
    split_ifs with hnext
    · exact validateCommitmentStateUpdates_eq_ok.mpr (h.fresh hnext)
    · rfl
  simp only [acceptMatching, if_neg (Nat.not_le.mpr h.ahead), h.absent, hchecked, h.recorded]

/-- Every way in which a call can end. -/
lemma acceptDomainCommitment_cases (c : Blockchain T) (com : DomainCommitment) :
    c.acceptDomainCommitment com = (.ok (), c) ∨
      (∃ text, c.acceptDomainCommitment com = (.error (.err text), c)) ∨
      (∃ d text, c.domainRegistry.get? com.domainId = some d ∧ Equivocates c com ∧
        c.acceptDomainCommitment com = (.error (.err text), c.freeze com.domainId d)) ∨
      ∃ d r, Admitted c com d r := by
  by_cases hmatches : ∃ d, c.domainRegistry.get? com.domainId = some d ∧ Matches d com
  · obtain ⟨d, hd, hfits⟩ := hmatches
    rw [acceptDomainCommitment_of_matches hd hfits]
    unfold acceptMatching
    cases hknown : c.domainCommitmentRegistry.findByHeight com.domainId com.domainHeight with
    | some existing =>
      dsimp only
      split_ifs with hle hhash hsame
      · exact .inl rfl
      · exact .inr (.inr (.inl ⟨d, _, hd, ⟨existing, hknown, .inl hhash⟩, rfl⟩))
      · exact .inl rfl
      · exact .inr (.inr (.inl ⟨d, _, hd, ⟨existing, hknown, not_and_or.mp hsame⟩, rfl⟩))
    | none =>
      dsimp only
      by_cases hle : com.domainHeight ≤ d.lastCommittedHeight
      · rw [if_pos hle]
        split_ifs with hsame
        · exact .inl rfl
        · exact .inr (.inl ⟨_, rfl⟩)
      · rw [if_neg hle]
        generalize hchecked : (if com.domainHeight = d.lastCommittedHeight + 1 then
          c.validateCommitmentStateUpdates com else .ok ()) = checked
        rcases checked with text | ⟨⟩
        · exact .inr (.inl ⟨text, rfl⟩)
        · cases hrecorded : c.domainCommitmentRegistry.insertCommitment com with
          | error text => exact .inr (.inl ⟨text, rfl⟩)
          | ok r =>
            refine .inr (.inr (.inr ⟨d, r, hd, hfits, not_le.mp hle, hknown, ?_, hrecorded⟩))
            intro hnext
            rw [if_pos hnext] at hchecked
            exact validateCommitmentStateUpdates_eq_ok.mp hchecked
  · have hnot := fun d hd hfits => hmatches ⟨d, hd, hfits⟩
    exact .inr (.inl (acceptDomainCommitment_of_not_matches hnot))

/-! ## After a commitment was recorded -/

/-- The recorded commitments that follow the last applied one without a gap. -/
def pending (r : DomainCommitmentRegistry) (domainId : ℕ) (d : ConsensusDomain) :
    List DomainCommitment :=
  ready (r.findByHeight domainId) (u64Max - d.lastCommittedHeight) (d.lastCommittedHeight + 1)

lemma pending_of_next (hnext : r.findByHeight domainId (d.lastCommittedHeight + 1) = some com)
    (hroom : d.lastCommittedHeight < u64Max) : ∃ rest, pending r domainId d = com :: rest := by
  obtain ⟨left, hleft⟩ := Nat.exists_eq_succ_of_ne_zero (Nat.sub_ne_zero_of_lt hroom)
  rw [pending, hleft]
  exact ⟨_, ready_of_some left hnext⟩

/-- The disk, if there is one, takes the commitment and the domains. -/
def Storable (c : Blockchain T) (com : DomainCommitment) (updated : List ConsensusDomain) : Prop :=
  ∀ store, c.storage = some store → store.saveDomainCommitmentBatch com updated = .ok ()

section

variable (hd : c.domainRegistry.get? com.domainId = some d)
include hd

lemma settleCommitment_of_not_applicable (hnot : ¬ Applicable d.lastCommittedHash c.state.getNonce
      (pending c.domainCommitmentRegistry com.domainId d)) :
    ∃ text c', c.settleCommitment d com = (.error (.err text), c') ∧
      c'.domainCommitmentRegistry = c.domainCommitmentRegistry := by
  obtain ⟨text, c', heq, hkept⟩ := applyPendingCommitments_error hd hnot
  exact ⟨text, c', by rw [settleCommitment, heq], hkept⟩

variable {run : List DomainCommitment}
  (hrun : pending c.domainCommitmentRegistry com.domainId d = run)
  (happ : Applicable d.lastCommittedHash c.state.getNonce run)
include hrun happ

lemma settleCommitment_abort (hlen : ¬ run.length < u64Max - d.lastCommittedHeight) :
    c.settleCommitment d com = (.error .abort, applyAll com.domainId d run c) := by
  rw [settleCommitment, applyPendingCommitments_eq hd hrun happ, if_neg hlen]

lemma settleCommitment_ok (hlen : run.length < u64Max - d.lastCommittedHeight)
    (hstore : Storable c com (commits d run)) :
    c.settleCommitment d com = (.ok (), applyAll com.domainId d run c) := by
  rw [settleCommitment, applyPendingCommitments_eq hd hrun happ, if_pos hlen]
  dsimp only
  rw [(applyAll_frame ..).2]
  cases hs : c.storage with
  | none => rfl
  | some store => simp only [hstore store hs]

lemma settleCommitment_unstored (hlen : run.length < u64Max - d.lastCommittedHeight)
    (hstore : ¬ Storable c com (commits d run)) :
    ∃ text, c.settleCommitment d com = (.error (.err text), applyAll com.domainId d run c) := by
  unfold Storable at hstore
  push Not at hstore
  obtain ⟨store, hs, hrefused⟩ := hstore
  rw [settleCommitment, applyPendingCommitments_eq hd hrun happ, if_pos hlen]
  dsimp only
  rw [(applyAll_frame ..).2, hs]
  dsimp only
  cases hsave : store.saveDomainCommitmentBatch com (commits d run) with
  | ok _ => exact absurd hsave hrefused
  | error e => exact ⟨_, rfl⟩

end

/-! ## What a rejection leaves behind -/

def committed (c : Blockchain T) (domainId : ℕ) : Option (ℕ × Hash32) :=
  (c.domainRegistry.get? domainId).map fun d => (d.lastCommittedHeight, d.lastCommittedHash)

/-- One of the commitments that are ready afterwards does not name the one before it. -/
def BrokenLink (c : Blockchain T) (com : DomainCommitment) : Prop :=
  ∃ d r, Admitted c com d r ∧ ¬ Linked d.lastCommittedHash (pending r com.domainId d)

/-- If the call returns an `Err` nothing was recorded, no nonce and nothing committed to has
changed, and at most the domain is frozen, on equivocation or a broken parent link. -/
def RejectsCleanly (c : Blockchain T) (com : DomainCommitment) : Prop :=
  ∀ text c', c.acceptDomainCommitment com = (.error (.err text), c') →
    c'.domainCommitmentRegistry = c.domainCommitmentRegistry ∧
    c'.state.getNonce = c.state.getNonce ∧
    (∀ domainId, c'.committed domainId = c.committed domainId) ∧
    (c' = c ∨ (Equivocates c com ∨ BrokenLink c com) ∧
      ∃ d, c.domainRegistry.get? com.domainId = some d ∧ c' = c.freeze com.domainId d)

lemma recorded_ne (h : c.domainCommitmentRegistry.insertCommitment com = .ok r) :
    r ≠ c.domainCommitmentRegistry := by
  unfold DomainCommitmentRegistry.insertCommitment at h
  split_ifs at h with hknown
  cases h
  intro heq
  apply hknown
  rw [DomainCommitmentRegistry.commitment, ← heq, get?_insert_self]
  rfl

lemma committed_freeze (hd : c.domainRegistry.get? com.domainId = some d) (domainId : ℕ) :
    (c.freeze com.domainId d).committed domainId = c.committed domainId := by
  unfold committed freeze
  dsimp only
  rw [get?_insert]
  split_ifs with h
  · rw [h, hd]
    rfl
  · rfl

/-- A rejection is clean exactly if nothing can fail once the commitment is recorded: what
is ready can be applied, and the disk takes it. -/
theorem rejectsCleanly_iff (c : Blockchain T) (com : DomainCommitment) :
    RejectsCleanly c com ↔ ∀ d r, Admitted c com d r →
      Applicable d.lastCommittedHash c.state.getNonce (pending r com.domainId d) ∧
      ((pending r com.domainId d).length < u64Max - d.lastCommittedHeight →
        Storable c com (commits d (pending r com.domainId d))) := by
  constructor
  · intro hclean d r hadmitted
    have haccept := acceptDomainCommitment_of_admitted hadmitted
    have hnew := recorded_ne hadmitted.recorded
    -- once the commitment is recorded an error is not clean
    have hsettles : ∀ text c', { c with domainCommitmentRegistry := r }.settleCommitment d com =
        (.error (.err text), c') → c'.domainCommitmentRegistry ≠ r := by
      intro text c' heq hkept
      exact hnew (hkept.symm.trans (hclean text c' (haccept.trans heq)).1)
    by_cases happ : Applicable d.lastCommittedHash c.state.getNonce (pending r com.domainId d)
    · refine ⟨happ, fun hlen => ?_⟩
      by_contra hstore
      obtain ⟨text, heq⟩ := settleCommitment_unstored (c := { c with domainCommitmentRegistry := r })
        hadmitted.domain rfl happ hlen hstore
      exact hsettles text _ heq (applyAll_frame ..).1
    · obtain ⟨text, c', heq, hkept⟩ := settleCommitment_of_not_applicable
        (c := { c with domainCommitmentRegistry := r }) hadmitted.domain happ
      exact absurd hkept (hsettles text c' heq)
  · intro hsettles text c' herr
    rcases acceptDomainCommitment_cases c com with hok | ⟨text', hrefused⟩ |
      ⟨d, text', hd, hequivocates, hfrozen⟩ | ⟨d, r, hadmitted⟩
    · exact nomatch (Prod.mk.inj (hok.symm.trans herr)).1
    · obtain rfl := (Prod.mk.inj (hrefused.symm.trans herr)).2
      exact ⟨rfl, rfl, fun _ => rfl, .inl rfl⟩
    · obtain rfl := (Prod.mk.inj (hfrozen.symm.trans herr)).2
      exact ⟨rfl, rfl, committed_freeze hd, .inr ⟨.inl hequivocates, d, hd, rfl⟩⟩
    · obtain ⟨happ, hstore⟩ := hsettles d r hadmitted
      rw [acceptDomainCommitment_of_admitted hadmitted] at herr
      by_cases hlen : (pending r com.domainId d).length < u64Max - d.lastCommittedHeight
      · rw [settleCommitment_ok (c := { c with domainCommitmentRegistry := r }) hadmitted.domain rfl
          happ hlen (hstore hlen)] at herr
        exact nomatch (Prod.mk.inj herr).1
      · rw [settleCommitment_abort (c := { c with domainCommitmentRegistry := r }) hadmitted.domain rfl
          happ hlen] at herr
        exact nomatch (Prod.mk.inj herr).1

def newDomain : ConsensusDomain where
  id := 1
  kind := .poS
  status := .active
  domainChainId := 1
  operator := some ⟨1⟩
  operatorBond := 10000
  validatorSetHash := zeroRoot
  finalityAdapter := "pos-qc-finality"
  minConfirmations := 1
  bridgeEnabled := true
  lastCommittedHeight := 0
  lastCommittedHash := zeroRoot
  powParameters := none

def newDomainChain : Blockchain .point where
  chain := []
  storage := none
  state := point
  domainRegistry := (∅ : SortedMap ℕ ConsensusDomain).insert 1 newDomain
  domainCommitmentRegistry := ∅
  universalRelayer := UniversalRelayer.new

/-- The commitment of domain 1 to the block `[height]`, which sets the nonce of an account. -/
def sampleCommitment (height : ℕ) (account : Address) (nonce : ℕ) : DomainCommitment where
  domainId := 1
  domainHeight := height
  domainBlockHash := [UInt8.ofNat height]
  parentDomainBlockHash := [UInt8.ofNat (height - 1)]
  eventRoot := []
  consensusKind := .poS
  validatorSetHash := []
  sequence := 0
  stateUpdates := (∅ : SortedMap Address ℕ).insert account nonce

/-- The chain after an early commitment to height 2, which was accepted although its nonce is
not above the one of account 1. -/
def queuedChain : Blockchain .point :=
  (newDomainChain.acceptDomainCommitment (sampleCommitment 2 ⟨1⟩ 0)).2

def gapFilled : Except (Stop String) Unit × Blockchain .point :=
  queuedChain.acceptDomainCommitment (sampleCommitment 1 ⟨2⟩ 7)

def strayCommitment : DomainCommitment :=
  { sampleCommitment 2 ⟨2⟩ 8 with parentDomainBlockHash := [9] }

def strayRejected : Except (Stop String) Unit × Blockchain .point :=
  (newDomainChain.acceptDomainCommitment (sampleCommitment 1 ⟨2⟩ 7)).2.acceptDomainCommitment
    strayCommitment

/-- The commitment to height 1 is applied, and the call returns an `Err` for the one after it.
A commitment with a wrong parent is rejected and stays recorded. -/
theorem rejected_commitment_stays :
    gapFilled.1 = .error (.err "Commitment nonce invariant violation for domain 1 height 2") ∧
    gapFilled.2.committed 1 = some (1, [1]) ∧ gapFilled.2.state.getNonce ⟨2⟩ = 7 ∧
    ¬ RejectsCleanly queuedChain (sampleCommitment 1 ⟨2⟩ 7) ∧
    strayRejected.1 = .error (.err "Domain 1 parent hash mismatch at height 2") ∧
    strayRejected.2.domainCommitmentRegistry.findByHeight 1 2 = some strayCommitment := by
  have herr : gapFilled.1 =
      .error (.err "Commitment nonce invariant violation for domain 1 height 2") := by
    decide +kernel
  refine ⟨herr, by decide +kernel, by decide +kernel, fun hclean => ?_, by decide +kernel⟩
  have hkept : gapFilled.2.committed 1 = queuedChain.committed 1 :=
    (hclean _ _ (Prod.ext herr rfl)).2.2.1 1
  exact absurd hkept (by decide +kernel)

end Blockchain

end Budlum
