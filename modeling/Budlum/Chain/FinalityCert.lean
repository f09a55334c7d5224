import Budlum.Chain.ValidatorSet
import Budlum.Lib.Bitmap

/-!
# Finality certificates

A certificate names its signers by a bitmap over the snapshot's validator list
and carries one aggregate signature. `FinalityCert.verify` walks the validator
list once, adding up stake, count and public keys of the marked entries, and
then compares the three with the two quorums and the pairing equation.

The main result is accountable safety: two certificates that a snapshot with its own
total accepts have more than one third of the stake in common, whatever the curve does.
-/

namespace Budlum

open Machine Quorum Bitmap ValidatorSetSnapshot List

structure FinalityCert where
  epoch : ℕ
  checkpointHeight : ℕ
  checkpointHash : String
  aggSigBls : Bytes
  bitmap : Bytes
  setHash : String
deriving DecidableEq

def checkpointSigningMessage (epoch height : ℕ) (hash : String) : Bytes :=
  strBytes "BUDLUM_PRECOMMIT" ++ strBytes blsSchemeRfc9380V1 ++ u64LeBytes epoch ++
    u64LeBytes height ++ strBytes hash

/-- The accumulators of the loop in `FinalityCert::verify`. -/
structure SignerTally (G₂ : Type) where
  votedStake : ℕ
  votedCount : ℕ
  signersPks : List G₂

namespace FinalityCert

variable (cert : FinalityCert)

def signingMessage : Bytes :=
  checkpointSigningMessage cert.epoch cert.checkpointHeight cert.checkpointHash

def signerIndices (validatorCount : ℕ) : List ℕ :=
  (range validatorCount).filter (getBit cert.bitmap)

def signerCount (validatorCount : ℕ) : ℕ := (cert.signerIndices validatorCount).length

/-- The entries a bitmap marks, with their positions, in snapshot order. -/
def markedEntries (validators : List ValidatorEntry) : List (ValidatorEntry × ℕ) :=
  validators.zipIdx.filter fun entry => getBit cert.bitmap entry.2

section

variable {G₁ G₂ : Type} [AddCommGroup G₁] [AddCommGroup G₂] [DecidableEq G₁] [DecidableEq G₂]
variable (deps : FinalityDeps G₁ G₂)

/-- The key checks `verify` makes for every marked entry. -/
def signerKey (validator : ValidatorEntry) : Except String G₂ :=
  if validator.blsPublicKey.length ≠ 96 then
    .error ("Invalid BLS public key length for " ++ deps.displayAddress validator.address)
  else match deps.g2FromCompressed validator.blsPublicKey with
    | none =>
      .error ("Invalid BLS public key encoding for " ++ deps.displayAddress validator.address)
    | some pk =>
      if !deps.g2IsTorsionFree pk || pk == 0 then
        .error ("Bitmap signer " ++ deps.displayAddress validator.address ++
          " has an identity key or a key outside the prime-order subgroup")
      else .ok pk

/-- One round of the loop over `snapshot.validators.iter().enumerate()`. -/
def tallySigner (tally : SignerTally G₂) (entry : ValidatorEntry × ℕ) :
    Except String (SignerTally G₂) :=
  if getBit cert.bitmap entry.2 then
    match signerKey deps entry.1 with
    | .error e => .error e
    | .ok pk => .ok
        { votedStake := satAdd u64Max tally.votedStake entry.1.stake
          votedCount := tally.votedCount + 1
          signersPks := tally.signersPks ++ [pk] }
  else .ok tally

/-- The part of `verify` after both quorums hold. -/
def verifyAggregate (signersPks : List G₂) : Except String Unit :=
  let aggPk := signersPks.foldl (· + ·) 0
  if aggPk = 0 then .error "Aggregated BLS public key is identity"
  else if cert.aggSigBls.length ≠ 48 then .error "Invalid aggregated BLS signature length"
  else match deps.g1FromCompressed cert.aggSigBls with
    | none => .error "Invalid aggregated BLS signature encoding"
    | some sig =>
      if sig = 0 then .error "Aggregated BLS signature is identity"
      else if deps.pairingIsIdentity sig (deps.hashToG1 cert.signingMessage) aggPk then .ok ()
      else .error "BLS aggregate signature verification failed"

/-- The text of the two quorum errors. -/
def insufficient (what : String) (got need : ℕ) : String :=
  what ++ toString got ++ " < " ++ toString need ++ " (need " ++
    toString finalityQuorumNumerator ++ "/" ++ toString finalityQuorumDenominator ++ ")"

def verify (snapshot : ValidatorSetSnapshot) : Except String Unit :=
  if (checkedSub cert.epoch blsRfc9380ActivationEpoch).isNone then
    .error ("Pre-activation BLS certificates are historical records and " ++
      "cannot be applied to live finality")
  else if cert.setHash ≠ snapshot.setHash then .error "Validator set hash mismatch"
  else if cert.epoch ≠ snapshot.epoch then .error "Epoch mismatch"
  else match snapshot.validators.zipIdx.foldlM (cert.tallySigner deps) ⟨0, 0, []⟩ with
    | .error e => .error e
    | .ok tally =>
      if tally.votedStake < snapshot.quorumStake then
        .error (insufficient "Insufficient quorum: " tally.votedStake snapshot.quorumStake)
      else if tally.votedCount < snapshot.quorumCount then
        .error (insufficient "Insufficient signer count quorum: " tally.votedCount
          snapshot.quorumCount)
      else if tally.signersPks.isEmpty then .error "No signers in bitmap"
      else cert.verifyAggregate deps tally.signersPks

/-! ## What the loop computes -/

def tallyOf (tally : SignerTally G₂) (marked : List (ValidatorEntry × ℕ)) (pks : List G₂) :
    SignerTally G₂ where
  votedStake := satSum u64Max tally.votedStake (marked.map (·.1.stake))
  votedCount := tally.votedCount + marked.length
  signersPks := tally.signersPks ++ pks

omit [AddCommGroup G₁] [DecidableEq G₁] in
/-- The loop fails with the first bad key among the marked entries, and
otherwise tallies exactly these entries. -/
lemma foldlM_tallySigner : ∀ (entries : List (ValidatorEntry × ℕ)) (tally : SignerTally G₂),
    entries.foldlM (cert.tallySigner deps) tally =
      ((entries.filter fun entry => getBit cert.bitmap entry.2).mapM
          fun entry => signerKey deps entry.1).map
        (tallyOf tally (entries.filter fun entry => getBit cert.bitmap entry.2))
  | [], tally => by
      simp [tallyOf, satSum, Except.map, pure, Except.pure]
  | entry :: entries, tally => by
      rw [foldlM_cons, filter_cons]
      by_cases hbit : getBit cert.bitmap entry.2
      · simp only [tallySigner, hbit, if_true, mapM_cons]
        cases hkey : signerKey deps entry.1 with
        | error e => rfl
        | ok pk =>
          show entries.foldlM (cert.tallySigner deps) _ = _
          rw [foldlM_tallySigner entries]
          cases hrest : (entries.filter fun entry => getBit cert.bitmap entry.2).mapM
              fun entry => signerKey deps entry.1 with
          | error e => rfl
          | ok pks =>
            simp [tallyOf, Except.map, satSum, bind, Except.bind, pure, Except.pure]
            omega
      · simp only [tallySigner, hbit]
        exact foldlM_tallySigner entries tally

lemma verifyAggregate_ok {pks : List G₂} : cert.verifyAggregate deps pks = .ok () ↔
      pks.sum ≠ 0 ∧ cert.aggSigBls.length = 48 ∧
      ∃ sig, deps.g1FromCompressed cert.aggSigBls = some sig ∧ sig ≠ 0 ∧
        deps.pairingIsIdentity sig (deps.hashToG1 cert.signingMessage) pks.sum = true := by
  unfold verifyAggregate
  rw [← sum_eq_foldl]
  dsimp only
  split_ifs with hkey hlen
  · simp [hkey]
  · simp [hlen]
  · cases hsig : deps.g1FromCompressed cert.aggSigBls with
    | none => simp
    | some sig =>
      dsimp only
      split_ifs with hzero hpair
      · simp [hzero]
      · simpa [hkey, hzero, hpair] using hlen
      · simp [hpair]

variable {snapshot : ValidatorSetSnapshot}

lemma verify_ok : cert.verify deps snapshot = .ok () ↔
      cert.setHash = snapshot.setHash ∧ cert.epoch = snapshot.epoch ∧ snapshot.quorumStake ≤
        satSum u64Max 0 ((cert.markedEntries snapshot.validators).map (·.1.stake)) ∧
      snapshot.quorumCount ≤ (cert.markedEntries snapshot.validators).length ∧
      ∃ pks, ((cert.markedEntries snapshot.validators).mapM
          fun entry => signerKey deps entry.1) = .ok pks ∧
        pks ≠ [] ∧ cert.verifyAggregate deps pks = .ok () := by
  have hepoch : (checkedSub cert.epoch blsRfc9380ActivationEpoch).isNone = false := by
    simp [checkedSub, blsRfc9380ActivationEpoch]
  unfold verify
  rw [foldlM_tallySigner, hepoch]
  rw [← markedEntries]
  cases hkeys : (cert.markedEntries snapshot.validators).mapM fun entry => signerKey deps entry.1 with
  | error e =>
    simp only [Except.map, reduceCtorEq, false_and, exists_false, and_false, iff_false]
    split_ifs <;> simp
  | ok pks =>
    simp only [Except.map, tallyOf, zero_add, nil_append]
    by_cases h1 : cert.setHash = snapshot.setHash <;>
      by_cases h2 : cert.epoch = snapshot.epoch <;>
      simp only [h1, h2, ne_eq, not_true, not_false_iff, if_true, if_false, true_and, false_and,
        Bool.false_eq_true, reduceCtorEq]
    split_ifs with hs hc hp
    · simp only [false_iff]
      rintro ⟨h, -⟩
      omega
    · simp only [false_iff]
      rintro ⟨-, h, -⟩
      omega
    · simp only [false_iff]
      rintro ⟨-, -, pks', hok, hne, -⟩
      cases hok
      exact hne (isEmpty_iff.mp hp)
    · constructor
      · intro h
        exact ⟨by omega, by omega, pks, rfl, fun e => hp (by simp [e]), h⟩
      · rintro ⟨-, -, pks', hok, -, h⟩
        cases hok
        exact h

/-! ## Accountable safety -/

omit [AddCommGroup G₁] [DecidableEq G₁] [AddCommGroup G₂] [DecidableEq G₂] in
lemma weight_zipIdx (validators : List ValidatorEntry) :
    weight (fun entry => entry.1.stake) validators.zipIdx = (validators.map (·.stake)).sum := by
  have h := congrArg (map (·.stake)) (zipIdx_map_fst 0 validators)
  rw [← h, map_map]
  rfl

variable {cert deps}

lemma verify_stake (h : cert.verify deps snapshot = .ok ()) : 2 * snapshot.totalStake <
      3 * weight (fun entry => entry.1.stake) (cert.markedEntries snapshot.validators) := by
  obtain ⟨-, -, hstake, -, -⟩ := (cert.verify_ok deps).mp h
  exact snapshot.quorumStake_le_iff.mp (hstake.trans (satSum_le _ _))

lemma verify_count (h : cert.verify deps snapshot = .ok ()) :
    (2 * snapshot.validators.length + 2) / 3 ≤ (cert.markedEntries snapshot.validators).length := by
  obtain ⟨-, -, -, hcount, -⟩ := (cert.verify_ok deps).mp h
  rwa [snapshot.quorumCount_eq] at hcount

end

/-- The validators whose bit is set in both bitmaps. -/
def commonSigners (cert₁ cert₂ : FinalityCert) (validators : List ValidatorEntry) :
    List ValidatorEntry :=
  (validators.zipIdx.filter fun entry =>
    getBit cert₁.bitmap entry.2 && getBit cert₂.bitmap entry.2).map (·.1)

lemma commonSigners_sublist (cert₁ cert₂ : FinalityCert) (validators : List ValidatorEntry) :
    (commonSigners cert₁ cert₂ validators).Sublist validators := by
  have h := (filter_sublist (l := validators.zipIdx) (p := fun entry =>
    getBit cert₁.bitmap entry.2 && getBit cert₂.bitmap entry.2)).map Prod.fst
  rwa [zipIdx_map_fst] at h

section

variable {G₁ G₂ : Type} [AddCommGroup G₁] [AddCommGroup G₂] [DecidableEq G₁] [DecidableEq G₂]

/-- **Accountable finality safety.** If the total of a snapshot is the sum of its stakes, as
`new` sets it, then any two accepted certificates, conflicting ones too, have a set of distinct
validators in common with more than one third of the stake and at least `2⌈2n/3⌉ - n` members. -/
theorem conflicting_certs_blame_third (deps : FinalityDeps G₁ G₂)
    (snapshot : ValidatorSetSnapshot) (cert₁ cert₂ : FinalityCert)
    (hdistinct : (snapshot.validators.map (·.address)).Nodup)
    (htotal : snapshot.totalStake = (snapshot.validators.map (·.stake)).sum)
    (h₁ : cert₁.verify deps snapshot = .ok ()) (h₂ : cert₂.verify deps snapshot = .ok ()) :
    let both := commonSigners cert₁ cert₂ snapshot.validators
    snapshot.totalStake < 3 * (both.map (·.stake)).sum ∧
      2 * ((2 * snapshot.validators.length + 2) / 3) - snapshot.validators.length ≤ both.length ∧
      (both.map (·.address)).Nodup := by
  intro both
  have hsum := htotal.trans (weight_zipIdx snapshot.validators).symm
  have hstake := third_lt_overlap (hsum ▸ verify_stake h₁) (hsum ▸ verify_stake h₂)
  have hcount := length_overlap (verify_count h₁) (verify_count h₂)
  have hboth : (both.map (·.stake)).sum = weight (fun entry : ValidatorEntry × ℕ => entry.1.stake)
      (snapshot.validators.zipIdx.filter fun entry =>
        getBit cert₁.bitmap entry.2 && getBit cert₂.bitmap entry.2) := by
    simp only [both, commonSigners, weight, map_map]
    rfl
  refine ⟨?_, ?_, ?_⟩
  · rwa [hboth, hsum]
  · simpa [both, commonSigners] using hcount
  · exact ((commonSigners_sublist cert₁ cert₂ snapshot.validators).map _).nodup hdistinct

end

/-- Four validators of equal stake: three of them are a quorum. -/
def fourValidators : ValidatorSetSnapshot :=
  .new smallDeps 5 [smallValidator 1 10 2, smallValidator 2 10 3, smallValidator 3 10 4,
    smallValidator 4 10 5] (by decide)

/-- A certificate over `fourValidators`, signed by the sum of the secrets. -/
def smallCert (hash : String) (bitmap : UInt8) (secret : ZMod 101) : FinalityCert where
  epoch := 5
  checkpointHeight := 10
  checkpointHash := hash
  aggSigBls := encodeSmall 48
    (smallDeps.hashToG1 (checkpointSigningMessage 5 10 hash) * secret)
  bitmap := [bitmap]
  setHash := fourValidators.setHash

/-- Validators 1 to 3 finalize one hash and 2 to 4 another; 2 and 3 are blamed. -/
theorem conflicting_certs_blame_third_four :
    let both := commonSigners (smallCert "a" 0b0111 9) (smallCert "b" 0b1110 12)
      fourValidators.validators
    fourValidators.totalStake < 3 * (both.map (·.stake)).sum ∧
      2 * ((2 * fourValidators.validators.length + 2) / 3) - fourValidators.validators.length ≤
        both.length ∧
      (both.map (·.address)).Nodup :=
  conflicting_certs_blame_third smallDeps fourValidators (smallCert "a" 0b0111 9)
    (smallCert "b" 0b1110 12) (by decide +kernel) rfl (by decide +kernel) (by decide +kernel)

/-- Two of the four hold all the stake, and the total that came with them is half of it. -/
def halfTotal : ValidatorSetSnapshot :=
  { ValidatorSetSnapshot.new smallDeps 5 [smallValidator 1 3 2, smallValidator 2 3 3,
      smallValidator 3 0 4, smallValidator 4 0 5] (by decide) with totalStake := 3 }

/-- Each of the two finalizes a hash of its own with the two that have no stake. -/
theorem conflicting_certs_without_stake :
    let cert₁ := { smallCert "a" 0b1101 11 with setHash := halfTotal.setHash }
    let cert₂ := { smallCert "b" 0b1110 12 with setHash := halfTotal.setHash }
    (halfTotal.validators.map (·.address)).Nodup ∧ 2 * halfTotal.totalStake ≤ u64Max ∧
      cert₁.verify smallDeps halfTotal = .ok () ∧ cert₂.verify smallDeps halfTotal = .ok () ∧
      cert₁.epoch = cert₂.epoch ∧ cert₁.checkpointHeight = cert₂.checkpointHeight ∧
      cert₁.checkpointHash ≠ cert₂.checkpointHash ∧
      ((commonSigners cert₁ cert₂ halfTotal.validators).map (·.stake)).sum = 0 := by
  decide +kernel

end FinalityCert

end Budlum
