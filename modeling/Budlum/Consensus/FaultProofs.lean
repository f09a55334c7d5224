import Budlum.Chain.Checkpoints

/-!
# Fault proofs against a verified blob

A fault proof accuses one validator of a signature in a blob that does not verify. Anyone can
write one, so what keeps an honest validator from being slashed is that
`verify_against_blob` looks the accused entry up in the blob itself. Whatever it accepts is
the accusation of a faulty entry, and `verify_against_snapshot` lets no faulty entry through.
-/

namespace Budlum

variable {T : ModuleTypes} {G₁ G₂ : Type} (M : NodeModules T G₁ G₂)

namespace QcBlob

variable (blob : QcBlob)

/-- A signature that does not verify, of a validator of the snapshot who has a key. -/
def Faulty (snapshot : ValidatorSetSnapshot) (entry : PqSignatureEntry) : Prop :=
  ∃ validator, snapshot.validators[entry.validatorIndex]? = some validator ∧
    M.displayAddress validator.address = entry.validatorAddress ∧
    validator.pqPublicKey ≠ [] ∧ ∃ e, blob.verifySignature M entry validator = .error e

variable {M blob} {snapshot : ValidatorSetSnapshot}

lemma not_faulty_of_verifyEntry {before after : List ℕ} {entry : PqSignatureEntry}
    (h : blob.verifyEntry M snapshot before entry = .ok after) :
    ¬ blob.Faulty M snapshot entry := by
  rintro ⟨validator, hvalidator, haddress, hkey, e, hsig⟩
  unfold verifyEntry at h
  rw [hvalidator] at h
  simp only [haddress, ne_eq, not_true_eq_false, ↓reduceIte, List.isEmpty_iff, hkey] at h
  split_ifs at h
  rw [hsig] at h
  cases h

lemma not_faulty_of_verified {requiredSigners : Option (List ℕ)} {currentEpoch : Option ℕ}
    {signers : List ℕ}
    (h : blob.verifyAgainstSnapshot M snapshot requiredSigners currentEpoch = .ok signers) :
    ∀ entry ∈ blob.pqSignatures, ¬ blob.Faulty M snapshot entry := by
  intro entry hmem
  obtain ⟨before, after, hentry⟩ := verifyEntry_of_verified h entry hmem
  exact not_faulty_of_verifyEntry hentry

end QcBlob

namespace QcFaultProof

variable {M} {proof : QcFaultProof} {blob : QcBlob} {snapshot : ValidatorSetSnapshot}
  {verdict : QcProofVerdict}

lemma validate_eq_ok {next : Except String QcProofVerdict}
    (h : proof.validate next = .ok verdict) : next = .ok verdict := by
  unfold validate at h
  split_ifs at h
  split at h
  · split_ifs at h
    exact h
  · split_ifs at h
    exact h

/-- The entry at the leaf that the proof names is the accused one, and it is faulty. The path
of hashes plays no part in this. -/
lemma faulty_of_verifyInvalidSignature {dilithiumSignature : Bytes} {merkleProof : List Bytes}
    {leafIndex : ℕ} (hepoch : proof.epoch = blob.epoch)
    (hheight : proof.checkpointHeight = blob.checkpointHeight)
    (hhash : proof.checkpointHash = blob.checkpointHash)
    (h : proof.verifyInvalidSignature M blob snapshot dilithiumSignature merkleProof leafIndex =
      .ok verdict) : ∃ entry ∈ blob.pqSignatures, blob.Faulty M snapshot entry := by
  unfold verifyInvalidSignature at h
  simp only at h
  split_ifs at h
  split at h
  · cases h
  rename_i entry hentry
  split_ifs at h with heq
  obtain rfl := not_not.mp heq
  split at h
  · cases h
  rename_i validator hvalidator
  split_ifs at h with haddress hkey
  split at h
  · cases h
  rename_i e hsig
  refine ⟨_, List.mem_of_getElem? hentry, validator, hvalidator, not_not.mp haddress, ?_, e, ?_⟩
  · exact fun hnil => hkey (List.isEmpty_iff.mpr hnil)
  · rw [hepoch, hheight, hhash] at hsig
    exact hsig

lemma faulty_of_verifyAgainstBlob (h : proof.verifyAgainstBlob M blob snapshot = .ok verdict) :
    ∃ entry ∈ blob.pqSignatures, blob.Faulty M snapshot entry := by
  have hchecks := validate_eq_ok h
  split_ifs at hchecks with hepoch hheight hhash
  split at hchecks
  · exact faulty_of_verifyInvalidSignature (not_not.mp hepoch) (not_not.mp hheight)
      (not_not.mp hhash) hchecks
  · split_ifs at hchecks

/-- No fault proof is accepted against a blob that verified. -/
theorem refused_of_verified {requiredSigners : Option (List ℕ)} {currentEpoch : Option ℕ}
    {signers : List ℕ}
    (hverified : blob.verifyAgainstSnapshot M snapshot requiredSigners currentEpoch =
      .ok signers) (proof : QcFaultProof) :
    ∃ e, proof.verifyAgainstBlob M blob snapshot = .error e := by
  rcases hproof : proof.verifyAgainstBlob M blob snapshot with e | verdict
  · exact ⟨e, rfl⟩
  · obtain ⟨entry, hmem, hfaulty⟩ := faulty_of_verifyAgainstBlob hproof
    exact absurd hfaulty (QcBlob.not_faulty_of_verified hverified entry hmem)

/-! ## A detected fault can be proved -/

/-- The path that `merkle_proof` gives leads to the root of the blob, and only a lone entry has
none. -/
lemma inclusionRoot_merkleProof (hroot : blob.verifyMerkleRoot M = true)
    {entry : PqSignatureEntry} {leafIndex : ℕ} {path : List Hash32}
    (hentry : blob.pqSignatures[leafIndex]? = some entry)
    (hpath : blob.merkleProof M leafIndex = some path) :
    M.hexEncode (Merkle.climb (QcBlob.merkleNode M) (QcBlob.leafHash M entry) leafIndex path) =
      blob.merkleRoot ∧ (path = [] → leafIndex = 0) := by
  have hleaf : (blob.pqSignatures.map (QcBlob.leafHash M))[leafIndex]? =
      some (QcBlob.leafHash M entry) := by
    rw [List.getElem?_map, hentry]
    rfl
  rw [QcBlob.merkleProof, ← List.length_map (QcBlob.leafHash M)] at hpath
  constructor
  · obtain ⟨siblings, hsiblings, hclimb⟩ := Merkle.climb_path (QcBlob.merkleNode M) _ hleaf
      (Nat.le_succ _)
    obtain rfl := Option.some.inj (hpath.symm.trans hsiblings)
    have hne : blob.pqSignatures.isEmpty = false := by
      cases hsigs : blob.pqSignatures with
      | nil => rw [hsigs] at hentry; cases hentry
      | cons _ _ => rfl
    rw [← beq_iff_eq.mp hroot, QcBlob.computeMerkleRoot, hne, Merkle.tree, hclimb]
    rfl
  · rintro rfl
    exact Merkle.eq_zero_of_path_nil _ hleaf hpath

/-- Every fault that is detected can be proved, but for a signature that is empty. -/
theorem detected_accepted_iff (hroot : blob.verifyMerkleRoot M = true)
    (hheight : blob.checkpointHeight ≠ 0) (hhash : blob.checkpointHash ≠ "")
    (hdetected : proof ∈ blob.detectFaultProofs M snapshot) :
    (∃ verdict, proof.verifyAgainstBlob M blob snapshot = .ok verdict) ↔
      ∀ path leafIndex, proof.kind ≠ .invalidDilithiumV1 [] path leafIndex := by
  obtain ⟨⟨entry, leafIndex⟩, hmem, hfault⟩ := List.mem_filterMap.mp hdetected
  have hentry : blob.pqSignatures[leafIndex]? = some entry := List.mem_zipIdx_iff_getElem?.mp hmem
  simp only [QcBlob.faultOf] at hfault
  split at hfault
  · cases hfault
  rename_i validator hvalidator
  split_ifs at hfault with haddress hkey
  split at hfault
  · cases hfault
  rename_i e hsig
  obtain ⟨path, hpath, rfl⟩ := Option.map_eq_some_iff.mp hfault
  obtain ⟨hclimb, hlone⟩ := inclusionRoot_merkleProof hroot hentry hpath
  rw [verifyAgainstBlob, validate]
  by_cases hempty : entry.dilithiumSignature = []
  · simp [hheight, hhash, hempty]
  · have haccept : verifyInvalidSignature M ⟨1, blob.epoch, blob.checkpointHeight,
        blob.checkpointHash, entry.validatorIndex, entry.validatorAddress,
        .invalidDilithiumV1 entry.dilithiumSignature path leafIndex⟩ blob snapshot
        entry.dilithiumSignature path leafIndex =
        .ok ⟨.invalidateFinality, some blob.checkpointHeight, true⟩ := by
      rw [QcBlob.verifySignature] at hsig
      simp [verifyInvalidSignature, inclusionRoot, hclimb, hentry, hvalidator, haddress, hkey, hsig]
    have hpathOf : ¬ (path = [] ∧ ¬ leafIndex = 0) := fun h => h.2 (hlone h.1)
    simp [hheight, hhash, hempty, hpathOf, haccept]

end QcFaultProof

namespace Node

/-- An accusation of the lone validator of the devnet, who signed its blob. -/
def devnetAccusation : QcFaultProof where
  version := 1
  epoch := 0
  checkpointHeight := 2
  checkpointHash := "2/2000"
  validatorIndex := 0
  validatorAddress := NodeModules.refusing.displayAddress ⟨1⟩
  kind := .invalidDilithiumV1 [1] [] 0

/-- The blob of the devnet verifies, and the accusation is refused by the last check. -/
theorem refused_of_verified_devnet :
    let snapshot := devnetNode.state.validatorSnapshot .refusing 0 45262
    devnetBlob.verifyAgainstSnapshot .refusing snapshot (some [0]) none = .ok [0] ∧
      devnetAccusation.verifyAgainstBlob .refusing devnetBlob snapshot =
        .error "Fault proof targets a valid Dilithium signature" ∧
      ∃ e, devnetAccusation.verifyAgainstBlob .refusing devnetBlob snapshot =
        .error e := by
  intro snapshot
  have hverified : devnetBlob.verifyAgainstSnapshot .refusing snapshot (some [0])
      none = .ok [0] := by decide +kernel
  exact ⟨hverified, by decide +kernel, QcFaultProof.refused_of_verified hverified devnetAccusation⟩

/-- A module that verifies no signature. -/
def rejecting : NodeModules .point (ZMod 101) (ZMod 101) :=
  { NodeModules.refusing with pqVerify := fun _ _ _ => .error "invalid" }

def threeEntries : QcBlob := { devnetBlob with
  pqSignatures := [1, 2, 3].map fun sig => ⟨0, rejecting.displayAddress ⟨1⟩, [sig]⟩ }

theorem detected_accepted_iff_devnet :
    let snapshot := devnetNode.state.validatorSnapshot .refusing 0 45262
    let path := (threeEntries.merkleProof rejecting 1).getD []
    let proof := { devnetAccusation with kind := .invalidDilithiumV1 [2] path 1 }
    path.length = 2 ∧ ((∃ verdict, proof.verifyAgainstBlob rejecting threeEntries snapshot =
      .ok verdict) ↔ ∀ path leafIndex, proof.kind ≠ .invalidDilithiumV1 [] path leafIndex) := by
  intro snapshot path proof
  exact ⟨by decide +kernel, QcFaultProof.detected_accepted_iff (by decide +kernel) (by decide)
    (by decide) (by decide +kernel)⟩

/-- An empty signature is detected, and the proof of it is refused. -/
theorem empty_signature_detected :
    let snapshot := devnetNode.state.validatorSnapshot .refusing 0 45262
    let blob : QcBlob := { devnetBlob with
      pqSignatures := [⟨0, rejecting.displayAddress ⟨1⟩, []⟩] }
    blob.verifyMerkleRoot rejecting = true ∧ (blob.detectFaultProofs rejecting snapshot).map
      (·.verifyAgainstBlob rejecting blob snapshot) = [.error "Empty Dilithium signature"] := by
  decide +kernel

end Node

end Budlum
