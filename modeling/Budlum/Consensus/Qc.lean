import Budlum.Chain.Block
import Budlum.Chain.FinalityCert
import Budlum.Execution.Validation

/-!
# Quorum certificate blobs

Beside the aggregate signature of a `FinalityCert` a checkpoint has a `QcBlob`: one
post-quantum signature for each signer, under a Merkle root. A signature in a blob that
does not verify is a fault, and a fault proof shows it to other nodes. A blob that
passes `verify_against_snapshot` has no fault to detect.
-/

namespace Budlum

open Machine AccountState

/-- What a node calls outside of this tree. -/
structure NodeModules (T : ModuleTypes) (G₁ G₂ : Type) extends ChainModules T,
    FinalityDeps G₁ G₂ where
  /-- `PqKeyPair::verify`, for a public key, a message and a signature. -/
  pqVerify : Bytes → Bytes → Bytes → Except String Unit
  /-- `Address::from_hex`. -/
  addressFromHex : String → Except String Address
  /-- The slash ratio of malicious behaviour. -/
  maliciousRatio : T.Registry → ℕ

/-- `QC_BLOB_TTL_EPOCHS` and `MAX_QC_BLOB_BYTES`. -/
def qcBlobTtlEpochs : ℕ := 10
def maxQcBlobBytes : ℕ := 1048576

structure PqSignatureEntry where
  validatorIndex : ℕ
  validatorAddress : String
  dilithiumSignature : Bytes
deriving DecidableEq

structure QcBlob where
  epoch : ℕ
  checkpointHeight : ℕ
  checkpointHash : String
  pqSignatures : List PqSignatureEntry
  merkleRoot : String
  createdEpoch : ℕ
deriving DecidableEq

inductive QcProofKind
  | invalidDilithiumV1 (dilithiumSignature : Bytes) (merkleProof : List Bytes) (leafIndex : ℕ)
  | zkInvalidAttestationV1 (proofBytes : Bytes)
      (merkleRoot pqPublicKeyHash attestationCommitment : String)
deriving DecidableEq

structure QcFaultProof where
  version : ℕ
  epoch : ℕ
  checkpointHeight : ℕ
  checkpointHash : String
  validatorIndex : ℕ
  validatorAddress : String
  kind : QcProofKind
deriving DecidableEq

inductive QcProofAction
  | invalidateFinality
  | slashValidator
deriving DecidableEq

structure QcProofVerdict where
  action : QcProofAction
  invalidateFromHeight : Option ℕ
  slashValidator : Bool
deriving DecidableEq

def pqSigningMessage (epoch checkpointHeight : ℕ) (checkpointHash : String) (validatorIndex : ℕ) :
    Bytes :=
  strBytes "BUDLUM_PQ_QC" ++ u64LeBytes epoch ++ u64LeBytes checkpointHeight ++
    strBytes checkpointHash ++ u32LeBytes validatorIndex

variable {T : ModuleTypes} {G₁ G₂ : Type} (M : NodeModules T G₁ G₂)

namespace QcBlob

variable (blob : QcBlob)

def leafHash (entry : PqSignatureEntry) : Hash32 :=
  M.sha3 (u32LeBytes entry.validatorIndex ++
    ValidatorSetSnapshot.updateWithLength (strBytes entry.validatorAddress) ++
    ValidatorSetSnapshot.updateWithLength entry.dilithiumSignature)

def merkleNode (left right : Hash32) : Hash32 := M.sha3 (left ++ right)

def computeMerkleRoot (signatures : List PqSignatureEntry) : String :=
  if signatures.isEmpty then GenesisConfig.zeroHash
  else M.hexEncode ((Merkle.root? (Merkle.tree (merkleNode M)
    (signatures.map (leafHash M)))).getD (List.replicate 32 0))

/-- `merkle_proof`, which finds a path for every entry there is. -/
def merkleProof (leafIndex : ℕ) : Option (List Hash32) :=
  Merkle.path (merkleNode M) blob.pqSignatures.length leafIndex
    (blob.pqSignatures.map (leafHash M))

def isExpired (currentEpoch : ℕ) : Bool :=
  decide (blob.createdEpoch + qcBlobTtlEpochs < currentEpoch)

/-- The size that `validate_size` estimates. -/
def estimatedSize : ℕ :=
  (blob.pqSignatures.map fun entry =>
    entry.dilithiumSignature.length + (strBytes entry.validatorAddress).length + 8).sum

def verifyMerkleRoot : Bool := computeMerkleRoot M blob.pqSignatures == blob.merkleRoot

def verifySignature (entry : PqSignatureEntry) (validator : ValidatorEntry) : Except String Unit :=
  M.pqVerify validator.pqPublicKey
    (pqSigningMessage blob.epoch blob.checkpointHeight blob.checkpointHash entry.validatorIndex)
    entry.dilithiumSignature

/-- One turn of the loop of `verify_against_snapshot`. -/
def verifyEntry (snapshot : ValidatorSetSnapshot) (verifiedIndices : List ℕ)
    (entry : PqSignatureEntry) : Except String (List ℕ) :=
  match snapshot.validators[entry.validatorIndex]? with
  | none => .error s!"QcBlob references unknown validator index {entry.validatorIndex}"
  | some validator =>
    if M.displayAddress validator.address ≠ entry.validatorAddress then
      .error (s!"QcBlob validator address mismatch at index {entry.validatorIndex}: expected " ++
        s!"{M.displayAddress validator.address}, got {entry.validatorAddress}")
    else if validator.pqPublicKey.isEmpty then
      .error s!"Validator {M.displayAddress validator.address} has no Dilithium public key"
    else if entry.validatorIndex ∈ verifiedIndices then
      .error s!"Duplicate PQ signature for validator index {entry.validatorIndex}"
    else match blob.verifySignature M entry validator with
      | .error e =>
        .error (s!"Invalid Dilithium signature for validator " ++
          s!"{M.displayAddress validator.address}: {e}")
      | .ok () => .ok (entry.validatorIndex :: verifiedIndices)

def requireSigners (verifiedIndices : List ℕ) : Option (List ℕ) → Except String (List ℕ)
  | none => .ok verifiedIndices
  | some requiredSigners =>
    match requiredSigners.find? fun i => !verifiedIndices.contains i with
    | some i => .error s!"QcBlob missing PQ attestation for validator index {i}"
    | none => .ok verifiedIndices

/-- `verify_against_snapshot`: the signers, each once. Without an epoch the age of the blob is
not looked at. -/
def verifyAgainstSnapshot (snapshot : ValidatorSetSnapshot) (requiredSigners : Option (List ℕ))
    (currentEpoch : Option ℕ) : Except String (List ℕ) :=
  if blob.epoch ≠ snapshot.epoch then
    .error s!"QcBlob epoch mismatch: expected {snapshot.epoch}, got {blob.epoch}"
  else if blob.checkpointHeight = 0 then .error "QcBlob checkpoint height must be > 0"
  else if blob.checkpointHash = "" then .error "QcBlob checkpoint hash is empty"
  else if currentEpoch.any blob.isExpired then
    .error s!"QcBlob expired at epoch {currentEpoch.getD 0} (created at {blob.createdEpoch})"
  else if snapshot.validators.length < blob.pqSignatures.length then
    .error (s!"QcBlob carries {blob.pqSignatures.length} signature entries for a validator set " ++
      s!"of {snapshot.validators.length} (duplicates are rejected, so the extra entries cannot " ++
      "verify)")
  else if maxQcBlobBytes < blob.estimatedSize then
    .error s!"QcBlob too large: {blob.estimatedSize} bytes (max: {maxQcBlobBytes})"
  else if blob.verifyMerkleRoot M = false then .error "QcBlob merkle root mismatch"
  else match blob.pqSignatures.foldlM (blob.verifyEntry M snapshot) [] with
    | .error e => .error e
    | .ok verifiedIndices => requireSigners verifiedIndices requiredSigners

def faultOf (snapshot : ValidatorSetSnapshot) (entry : PqSignatureEntry) (leafIndex : ℕ) :
    Option QcFaultProof :=
  match snapshot.validators[entry.validatorIndex]? with
  | none => none
  | some validator =>
    if M.displayAddress validator.address ≠ entry.validatorAddress then none
    else if validator.pqPublicKey.isEmpty then none
    else match blob.verifySignature M entry validator with
      | .ok () => none
      | .error _ =>
        (blob.merkleProof M leafIndex).map fun proof =>
          { version := 1
            epoch := blob.epoch
            checkpointHeight := blob.checkpointHeight
            checkpointHash := blob.checkpointHash
            validatorIndex := entry.validatorIndex
            validatorAddress := entry.validatorAddress
            kind := .invalidDilithiumV1 entry.dilithiumSignature proof leafIndex }

def detectFaultProofs (snapshot : ValidatorSetSnapshot) : List QcFaultProof :=
  blob.pqSignatures.zipIdx.filterMap fun e => blob.faultOf M snapshot e.1 e.2

/-! ## A verified blob has no faults -/

variable {M} {blob} {snapshot : ValidatorSetSnapshot}

variable {verified signers : List ℕ}

lemma faultOf_eq_none {verified' : List ℕ} {entry : PqSignatureEntry}
    (h : blob.verifyEntry M snapshot verified entry = .ok verified') (leafIndex : ℕ) :
    blob.faultOf M snapshot entry leafIndex = none := by
  unfold verifyEntry at h
  unfold faultOf
  cases hvalidator : snapshot.validators[entry.validatorIndex]? with
  | none => rfl
  | some validator =>
    simp only [hvalidator] at h ⊢
    split_ifs at h ⊢
    -- the entry came through the loop, so its signature verifies
    rcases hsig : blob.verifySignature M entry validator with _ | _
    · rw [hsig] at h
      cases h
    · rfl

lemma verifyEntry_of_foldlM {entries : List PqSignatureEntry}
    (h : entries.foldlM (blob.verifyEntry M snapshot) verified = .ok signers) :
    ∀ entry ∈ entries, ∃ before after, blob.verifyEntry M snapshot before entry = .ok after := by
  induction entries generalizing verified with
  | nil => simp
  | cons entry entries ih =>
    rw [List.foldlM_cons] at h
    rcases hentry : blob.verifyEntry M snapshot verified entry with _ | verified'
    · rw [hentry] at h
      cases h
    · rw [hentry] at h
      rintro e (_ | ⟨_, hmem⟩)
      · exact ⟨_, _, hentry⟩
      · exact ih h e hmem

variable {requiredSigners : Option (List ℕ)} {currentEpoch : Option ℕ}

lemma verifyEntry_of_verified
    (h : blob.verifyAgainstSnapshot M snapshot requiredSigners currentEpoch = .ok signers) :
    ∀ entry ∈ blob.pqSignatures, ∃ before after,
      blob.verifyEntry M snapshot before entry = .ok after := by
  unfold verifyAgainstSnapshot at h
  split_ifs at h
  rcases hfold : blob.pqSignatures.foldlM (blob.verifyEntry M snapshot) [] with e | verified
  · rw [hfold] at h
    cases h
  · exact verifyEntry_of_foldlM hfold

lemma detectFaultProofs_eq_nil
    (h : blob.verifyAgainstSnapshot M snapshot requiredSigners currentEpoch = .ok signers) :
    blob.detectFaultProofs M snapshot = [] := by
  refine List.filterMap_eq_nil_iff.mpr fun e hmem => ?_
  obtain ⟨before, after, hentry⟩ :=
    verifyEntry_of_verified h e.1 (List.fst_mem_of_mem_zipIdx hmem)
  exact faultOf_eq_none hentry e.2

end QcBlob

namespace QcFaultProof

variable (proof : QcFaultProof)

def validate (next : Except String QcProofVerdict) : Except String QcProofVerdict :=
  if proof.version ≠ 1 then .error s!"Unsupported QC fault proof version {proof.version}"
  else if proof.checkpointHeight = 0 then .error "Empty checkpoint height"
  else if proof.checkpointHash = "" then .error "Empty checkpoint hash"
  else match proof.kind with
    | .invalidDilithiumV1 dilithiumSignature merkleProof leafIndex =>
      if dilithiumSignature.isEmpty then .error "Empty Dilithium signature"
      else if merkleProof.isEmpty ∧ leafIndex ≠ 0 then .error "Empty merkle proof"
      else next
    | .zkInvalidAttestationV1 proofBytes merkleRoot pqPublicKeyHash attestationCommitment =>
      if proofBytes.isEmpty then .error "Empty ZK QC proof"
      else if merkleRoot = "" then .error "Empty ZK QC merkle root input"
      else if pqPublicKeyHash = "" then .error "Empty ZK QC PQ public key hash input"
      else if attestationCommitment = "" then
        .error "Empty ZK QC attestation commitment input"
      else next

/-- The root that `verify_inclusion` computes. -/
def inclusionRoot (dilithiumSignature : Bytes) (merkleProof : List Bytes) (leafIndex : ℕ) :
    String :=
  M.hexEncode (Merkle.climb (QcBlob.merkleNode M) (QcBlob.leafHash M
    ⟨proof.validatorIndex, proof.validatorAddress, dilithiumSignature⟩) leafIndex merkleProof)

/-- The checks of a signature that is said to be invalid. -/
def verifyInvalidSignature (blob : QcBlob) (snapshot : ValidatorSetSnapshot)
    (dilithiumSignature : Bytes) (merkleProof : List Bytes) (leafIndex : ℕ) :
    Except String QcProofVerdict :=
  let root := proof.inclusionRoot M dilithiumSignature merkleProof leafIndex
  if root ≠ blob.merkleRoot then
    .error s!"Merkle proof invalid: computed {root} != expected {blob.merkleRoot}"
  else match blob.pqSignatures[leafIndex]? with
    | none => .error s!"Leaf index {leafIndex} out of range"
    | some entry =>
      if entry ≠ ⟨proof.validatorIndex, proof.validatorAddress, dilithiumSignature⟩ then
        .error "Fault proof leaf does not match blob contents"
      else match snapshot.validators[proof.validatorIndex]? with
        | none => .error s!"Unknown validator index {proof.validatorIndex}"
        | some validator =>
          if M.displayAddress validator.address ≠ proof.validatorAddress then
            .error "Fault proof validator address mismatch"
          else if validator.pqPublicKey.isEmpty then
            .error "Validator has no Dilithium public key"
          else match M.pqVerify validator.pqPublicKey (pqSigningMessage proof.epoch
              proof.checkpointHeight proof.checkpointHash proof.validatorIndex)
              dilithiumSignature with
            | .ok () => .error "Fault proof targets a valid Dilithium signature"
            | .error _ => .ok ⟨.invalidateFinality, some proof.checkpointHeight, true⟩

/-- `verify_against_blob`. Attestations of zero knowledge cannot be challenged. -/
def verifyAgainstBlob (blob : QcBlob) (snapshot : ValidatorSetSnapshot) :
    Except String QcProofVerdict :=
  proof.validate <|
  if proof.epoch ≠ blob.epoch then .error "QC fault proof epoch mismatch"
  else if proof.checkpointHeight ≠ blob.checkpointHeight then
    .error "QC fault proof checkpoint height mismatch"
  else if proof.checkpointHash ≠ blob.checkpointHash then
    .error "QC fault proof checkpoint hash mismatch"
  else match proof.kind with
    | .invalidDilithiumV1 dilithiumSignature merkleProof leafIndex =>
      proof.verifyInvalidSignature M blob snapshot dilithiumSignature merkleProof leafIndex
    | .zkInvalidAttestationV1 _ merkleRoot _ _ =>
      if merkleRoot ≠ blob.merkleRoot then .error "ZK QC public input merkle root mismatch"
      else .error ("ZK QC fault proof verifier not implemented - ZK domain attestations " ++
        "cannot be challenged until ZK verifier integration. This is fail-closed: " ++
        "no invalid ZK attestation can be finalized via this path.")

end QcFaultProof

end Budlum
