import Budlum.CrossDomain.Settlement

/-!
# The registry of domains

Registration and lifecycle of consensus domains, the registry of their commitments,
and the chain of global headers. A node runs the same checks again over what it loads
from its disk, and leaves out what fails them.
-/

namespace Budlum

def isWhitespace (c : Char) : Bool :=
  let n := c.toNat
  (9 ≤ n && n ≤ 13) || n == 0x20 || n == 0x85 || n == 0xA0 || n == 0x1680 ||
    (0x2000 ≤ n && n ≤ 0x200A) || n == 0x2028 || n == 0x2029 || n == 0x202F || n == 0x205F ||
    n == 0x3000

/-- `trim().is_empty()`. -/
def isBlank (s : String) : Bool := s.toList.all isWhitespace

def ConsensusKind.debugText : ConsensusKind → String
  | .poW => "PoW"
  | .poS => "PoS"
  | .poA => "PoA"
  | .bft => "Bft"
  | .zk => "Zk"
  | .custom name => "Custom(" ++ name.quote ++ ")"
  | .storageAttestation params =>
    "StorageAttestation(StorageDomainParams \x7b chunk_size: " ++ toString params.chunkSize ++
      ", max_committed_chunks: " ++ toString params.maxCommittedChunks ++
      ", challenge_interval: " ++ toString params.challengeInterval ++
      ", min_operator_bond: " ++ toString params.minOperatorBond ++ " \x7d)"
  | .aiInference => "AiInference"

def DomainStatus.debugText : DomainStatus → String
  | .active => "Active"
  | .frozen => "Frozen"
  | .retired => "Retired"

def minDomainOperatorBond : ℕ := 10000

/-- `STORAGE_ATTESTATION_ADAPTER` and `AI_INFERENCE_ADAPTER`. -/
def storageAttestationAdapter : String := "storage-attestation-v1"
def aiInferenceAdapter : String := "ai-inference-threshold"

/-- `MIN_CHUNK_SIZE` and `MAX_CHUNK_SIZE`. -/
def minChunkSize : ℕ := 1024
def maxChunkSize : ℕ := 16 * 1024 * 1024

def PoWDomainParameters.validate (p : PoWDomainParameters) (minConfirmations : ℕ) :
    Except String Unit :=
  if p.minDifficultyBits = 0 ∨ 120 < p.maxDifficultyBits then
    .error "PoW difficulty range must be within 1..=120 bits"
  else if p.maxDifficultyBits < p.minDifficultyBits then
    .error "PoW min_difficulty_bits exceeds max_difficulty_bits"
  else if p.minCumulativeWork = 0 then .error "PoW min_cumulative_work must be non-zero"
  else if p.maxHeaders = 0 ∨ 4096 < p.maxHeaders then
    .error "PoW max_headers must be within 1..=4096"
  else if minConfirmations = 0 ∨ p.maxHeaders < minConfirmations then
    .error "PoW min_confirmations must be within 1..=max_headers"
  else .ok ()

def StorageDomainParams.validate (p : StorageDomainParams) : Except String Unit :=
  if p.chunkSize < minChunkSize ∨ maxChunkSize < p.chunkSize then
    .error (s!"StorageDomainParams.chunk_size {p.chunkSize} out of range " ++
      s!"[{minChunkSize}, {maxChunkSize}]")
  else if p.maxCommittedChunks = 0 then
    .error "StorageDomainParams.max_committed_chunks must be > 0"
  else if p.challengeInterval = 0 then
    .error "StorageDomainParams.challenge_interval must be > 0"
  else if p.minOperatorBond = 0 then
    .error "StorageDomainParams.min_operator_bond must be > 0"
  else .ok ()

namespace ConsensusDomain

variable (d : ConsensusDomain)

def hasOperatorBond (minimumBond : ℕ) : Bool :=
  d.operator.isSome && decide (minimumBond ≤ d.operatorBond)

/-- The depth parameters fit the adapter: only header chains have a depth. -/
def checkDepth : Except String Unit :=
  if d.finalityAdapter = powHeaderChainAdapter then
    if d.kind ≠ .poW then
      .error s!"Domain {d.id} uses the PoW header adapter with a non-PoW consensus kind"
    else match d.powParameters with
      | none => .error s!"Domain {d.id} uses the PoW header adapter without pow_parameters"
      | some params => params.validate d.minConfirmations
  else if d.powParameters.isSome then
    .error (s!"Domain {d.id} supplies pow_parameters for incompatible adapter " ++
      d.finalityAdapter)
  else if 1 < d.minConfirmations then
    .error (s!"Domain {d.id} sets min_confirmations={d.minConfirmations} but its adapter " ++
      s!"{d.finalityAdapter} never reads it; header-chain depth only applies to " ++
      powHeaderChainAdapter)
  else .ok ()

/-- The storage parameters fit the adapter and the bond. -/
def checkStorage : Except String Unit :=
  match d.kind with
  | .storageAttestation params =>
    if d.finalityAdapter ≠ storageAttestationAdapter then
      .error (s!"Domain {d.id} uses StorageAttestation with non-storage finality adapter " ++
        s!"'{d.finalityAdapter}' (expected '{storageAttestationAdapter}')")
    else if d.operatorBond < params.minOperatorBond then
      .error (s!"Domain {d.id} operator_bond {d.operatorBond} below StorageAttestation " ++
        s!"min_operator_bond {params.minOperatorBond}")
    else params.validate
  | _ =>
    if d.finalityAdapter = storageAttestationAdapter then
      .error (s!"Domain {d.id} uses the storage-attestation adapter with a " ++
        "non-StorageAttestation consensus kind")
    else .ok ()

def adapterValid : Bool :=
  match d.kind with
  | .poW => d.finalityAdapter == powHeaderChainAdapter
  | .poS => d.finalityAdapter == "pos-qc-finality"
  | .poA => d.finalityAdapter == "poa-authority-quorum"
  | .bft => d.finalityAdapter == "bft-quorum-commit"
  | .zk => d.finalityAdapter == "zk-proof-verification"
  | .storageAttestation _ => d.finalityAdapter == "storage-attestation-v1"
  | .aiInference => d.finalityAdapter == aiInferenceAdapter
  | .custom _ => !isBlank d.finalityAdapter

def isNameless : Bool :=
  match d.kind with
  | .custom name => isBlank name
  | _ => false

/-- `validate_consensus_domain_registration`. -/
def validateRegistration : Except String Unit :=
  if d.id = 0 then .error "Consensus domain id 0 is reserved"
  else if d.domainChainId = 0 then .error s!"Domain {d.id} has invalid chain id 0"
  else if d.isNameless then .error s!"Domain {d.id} has empty custom consensus name"
  else if d.adapterValid = false then
    .error (s!"Domain {d.id} has incompatible finality adapter {d.finalityAdapter} for " ++
      d.kind.debugText)
  else .ok ()

end ConsensusDomain

abbrev ConsensusDomainRegistry : Type := SortedMap ℕ ConsensusDomain

namespace ConsensusDomainRegistry

variable (r : ConsensusDomainRegistry)

def register (domain : ConsensusDomain) : Except String ConsensusDomainRegistry :=
  if r.contains domain.id then .error s!"Domain {domain.id} is already registered"
  else if domain.hasOperatorBond minDomainOperatorBond = false then
    .error (s!"Domain {domain.id} requires operator identity and minimum bond " ++
      toString minDomainOperatorBond)
  else if domain.operator = some Address.zero then
    .error s!"Domain {domain.id} has invalid zero operator"
  else match domain.checkDepth with
    | .error e => .error e
    | .ok () =>
      match domain.checkStorage with
      | .error e => .error e
      | .ok () => .ok (r.insert domain.id domain)

/-- The lifecycle of a domain: between active and frozen, and out of frozen for good. -/
def AllowedTransition : DomainStatus → DomainStatus → Bool
  | .active, .frozen => true
  | .frozen, .active => true
  | .frozen, .retired => true
  | _, _ => false

def transitionStatusChecked (id : ℕ) (next : DomainStatus) :
    Except String ConsensusDomainRegistry :=
  match r.get? id with
  | none => .error s!"Unknown domain {id}"
  | some domain =>
    if AllowedTransition domain.status next = false then
      .error (s!"Illegal domain lifecycle transition for {id}: " ++
        s!"{domain.status.debugText} -> {next.debugText}")
    else .ok (r.insert id { domain with status := next })

/-- The domains of the disk, each registered if it passes its checks. -/
def reload (domains : List ConsensusDomain) : ConsensusDomainRegistry :=
  domains.foldl
    (fun r domain => match domain.validateRegistration with
      | .error _ => r
      | .ok () => match ConsensusDomainRegistry.register r domain with
        | .error _ => r
        | .ok r => r)
    ∅

end ConsensusDomainRegistry

/-! ## Commitments -/

/-- `DomainCommitmentRegistry::insert`. The set of seen blocks is that of the stored
commitments. -/
def DomainCommitmentRegistry.insertCommitment (r : DomainCommitmentRegistry)
    (c : DomainCommitment) : Except String DomainCommitmentRegistry :=
  if (r.commitment c.domainId c.domainHeight c.sequence).isSome then
    .error (s!"Duplicate commitment for domain={c.domainId}, height={c.domainHeight}, " ++
      s!"sequence={c.sequence}")
  else if r.values.any fun c' => c'.domainId == c.domainId && c'.domainHeight == c.domainHeight &&
      c'.domainBlockHash == c.domainBlockHash then
    .error s!"Domain block already committed: domain={c.domainId}, height={c.domainHeight}"
  else .ok (r.insert (toLex (c.domainId, toLex (c.domainHeight, c.sequence))) c)

/-- `validate_stored_domain_commitment_metadata`. -/
def ConsensusDomainRegistry.validateCommitment (r : ConsensusDomainRegistry)
    (c : DomainCommitment) : Except String Unit :=
  match r.get? c.domainId with
  | none => .error s!"Unknown consensus domain {c.domainId}"
  | some domain =>
    if domain.isActive = false then .error s!"Domain {c.domainId} is not active"
    else if domain.kind ≠ c.consensusKind then
      .error s!"Commitment consensus kind mismatch for domain {c.domainId}"
    else .ok ()

/-! ## Global headers -/

structure GlobalBlockHeader where
  version : ℕ
  globalHeight : ℕ
  previousGlobalHash : Hash32
  chainId : ℕ
  timestampMs : ℕ
  domainRegistryRoot : Hash32
  domainCommitmentRoot : Hash32
  messageRoot : Hash32
  bridgeStateRoot : Hash32
  replayNonceRoot : Hash32
  proposer : Option Address
  settlementFinalityRoot : Hash32
  storageRoot : Option Hash32
  aiRoot : Option Hash32
deriving DecidableEq

namespace GlobalBlockHeader

variable (hashFields : List Bytes → Hash32)

def zeroRoot : Hash32 := List.replicate 32 0

def calculateHashBytes (h : GlobalBlockHeader) : Hash32 :=
  hashFields [strBytes "BDLM_GLOBAL_BLOCK_V3", leBytes 2 h.version, u64LeBytes h.globalHeight,
    h.previousGlobalHash, u64LeBytes h.chainId, u128LeBytes h.timestampMs, h.domainRegistryRoot,
    h.domainCommitmentRoot, h.messageRoot, h.bridgeStateRoot, h.replayNonceRoot,
    (h.proposer.map Address.asBytes).getD [], h.settlementFinalityRoot,
    h.storageRoot.getD zeroRoot, h.aiRoot.getD zeroRoot]

/-- `validated_global_header_prefix`, from a height and the hash before it. -/
def validPrefix (chainId : ℕ) : ℕ → Hash32 → List GlobalBlockHeader → List GlobalBlockHeader
  | _, _, [] => []
  | height, prevHash, header :: rest =>
    if header.chainId ≠ chainId ∨ header.globalHeight ≠ height ∨
      header.previousGlobalHash ≠ prevHash then []
    else
      header :: validPrefix chainId (height + 1) (header.calculateHashBytes hashFields) rest

def validatedGlobalHeaderPrefix (headers : List GlobalBlockHeader) (chainId : ℕ) :
    List GlobalBlockHeader :=
  validPrefix hashFields chainId 0 zeroRoot headers

end GlobalBlockHeader

end Budlum
