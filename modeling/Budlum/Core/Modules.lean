import Budlum.CrossDomain.Bridge
import Budlum.Registries.Marketplace

/-!
# Transactions, and what execution calls outside of this tree

`ModuleTypes` names the types whose definitions live in other crates and modules:
the permissionless registry, the inference registry, governance, the note and hub
registries. `Modules` is their interface, a call on a `&mut` registry being an
`Exec` on it. `Modules.Refusals` is the assumption that a refused call leaves its
registry as it was.
-/

namespace Budlum

open Exec

/-- Types of state and payloads that execution only passes on. -/
structure ModuleTypes where
  Registry : Type
  RegistryError : Type
  AiRegistry : Type
  Governance : Type
  NoteRegistry : Type
  HubRegistry : Type
  /-- The listing a hub registration carries. -/
  HubApp : Type
  ProposalType : Type
  ConstitutionParameter : Type
  Effort : Type
  Perception : Type
  /-- What a payload holds besides the fields execution reads. -/
  Rest : Type
  /-- A guest program rebuilt from a registered model. -/
  Program : Type
  /-- What a block header holds besides the fields the chain reads. -/
  BlockRest : Type
  StorageRegistry : Type
  /-- The record of who took part in which epoch. -/
  Liveness : Type
  /-- The count of badly signed votes. -/
  InvalidVotes : Type
  ProofMarket : Type
  [hubAppEq : DecidableEq HubApp]
  [effortEq : DecidableEq Effort]
  [perceptionEq : DecidableEq Perception]
  [restEq : DecidableEq Rest]
  [blockRestEq : DecidableEq BlockRest]

attribute [instance] ModuleTypes.hubAppEq ModuleTypes.effortEq ModuleTypes.perceptionEq
  ModuleTypes.restEq ModuleTypes.blockRestEq

inductive RoleId
  | validator
  | relayer
  | prover
  | storageOperator
  | lubotOperator
  | other (id : ℕ)
deriving DecidableEq, Repr

/-! ## Payloads -/

structure ConsensusKeyRegistration where
  vrfPublicKey : Bytes
  blsPublicKey : Bytes
  popSignature : Bytes
  pqPublicKey : Bytes
deriving DecidableEq

structure RelayerExternalResult where
  domainId : ℕ
  txHash : String
  success : Bool
  externalStateRoot : Hash32
  receiptProof : Bytes
  message : Option CrossDomainMessage
deriving DecidableEq

variable (T : ModuleTypes)

structure AiInferenceRequest where
  requestId : Id32
  requester : Address
  modelId : Id32
  inputCommitment : Hash32
  inputRef : Bytes
  maxFee : ℕ
  callback : Option Address
  submittedAtBlock : ℕ
  deadlineBlock : ℕ
  effort : T.Effort
  perception : Option T.Perception
deriving DecidableEq

structure AiModelSpec where
  owner : Address
  requireExecutionProof : Bool
  executionProgramHash : Option Hash32
  executionClass : ℕ
  executionDims : Option (List ℕ)
  rest : T.Rest
deriving DecidableEq

structure AiInferenceResult where
  requestId : Id32
  verifier : Address
  submittedAtBlock : ℕ
  outputRef : Bytes
  outputCommitment : Hash32
  rest : T.Rest
deriving DecidableEq

structure AgentPayment where
  paymentId : Id32
  fromAgent : Address
  toAgent : Address
  amount : ℕ
  rest : T.Rest
deriving DecidableEq

structure PrivateTransfer where
  publicDigest : Hash32
  authorizationSig : Bytes
  spentCommitments : List Hash32
  nullifiers : List Hash32
  outputCommitments : List Hash32
  rest : T.Rest
deriving DecidableEq

/-- The public inputs an execution proof was produced against. -/
structure ProofPublicInputs where
  programHash : Hash32
  exitCode : ℕ
  rest : T.Rest
deriving DecidableEq

structure AiExecutionProof where
  modelId : Id32
  publicInputs : Option (ProofPublicInputs T)
  proofBytes : Bytes
  rest : T.Rest
deriving DecidableEq

/-- What `submit_result` reports when a result reaches its threshold. -/
structure AiOutcome where
  requestId : Id32
  agreeingVerifiers : List Address

inductive TransactionType
  | transfer
  | stake
  | registerConsensusKeys (registration : ConsensusKeyRegistration)
  | lubotOperatorBond
  | lubotOperatorUnbond
  | lubotOperatorWithdraw
  | unstake
  | vote
  | contractCall
  | bnsRegister
  | bnsSetContent
  | bnsRegisterSubdomain
  | bnsSetStorage
  | nftMint
  | nftTransfer
  | nftBurn
  | nftBoost (nftId amount : ℕ)
  | nftUpdateLight (nftId : ℕ) (deltaMcd : ℤ)
  | nftTag
  | universalRelay
  | relayerResult (res : RelayerExternalResult)
  | aiOfferData (cid : Hash32) (price : ℕ)
  | aiPurchaseData (offerId : ℕ)
  | budlumxyzRegisterApp (app : T.HubApp)
  | budlumxyzAttestApp (appId : ℕ)
  | aiModelRegister (spec : AiModelSpec T)
  | aiInferenceRequest (req : AiInferenceRequest T)
  | aiInferenceResult (res : AiInferenceResult T)
  | aiFeeReclaim (requestId : Id32)
  | aiModelDeactivate (modelId : Id32)
  | aiModelReactivate (modelId : Id32)
  | aiRequestCancel (requestId : Id32)
  | pollenRegisterDataAsset (asset : DataAsset)
  | pollenAuthorizeSale (authorization : SaleAuthorization)
  | pollenGrantAccess (grant : AccessGrant)
  | pollenRevokeGrant (grantId : Id32)
  | pollenRevokeDataAsset (assetId : Id32)
  | aiDisputeSlash (requestId : Id32) (verifier : Address)
  | aiAgentPayment (payment : AgentPayment T)
  | aiAgentPaymentRelease (paymentId : Id32)
  | aiAgentPaymentReclaim (paymentId : Id32)
  | privacyNoteInsert (commitment : Hash32)
  | privateTransferSubmit (sub : PrivateTransfer T)
  | aiAttachExecutionProof (requestId : Id32) (proof : AiExecutionProof T)
deriving DecidableEq

/-- A transaction. `sender` and `recipient` are the fields `from` and `to`. -/
structure Transaction where
  hash : String
  sender : Address
  recipient : Address
  amount : ℕ
  fee : ℕ
  maxFee : ℕ
  priorityFee : ℕ
  nonce : ℕ
  data : Bytes
  chainId : ℕ
  txType : TransactionType T
deriving DecidableEq

/-- `Transaction::total_cost`, a saturating sum. -/
def Transaction.totalCost {T : ModuleTypes} (tx : Transaction T) : ℕ :=
  Machine.satAdd Machine.u64Max tx.amount tx.fee

/-! ## Interfaces -/

structure RegistryParams where
  minStake : ℕ
  unbondingEpochs : ℕ
  bridgeRelayerFeePpm : ℕ
  bridgeRelayerMinFee : ℕ
  aiModelRegisterFee : ℕ
deriving DecidableEq

inductive MemberStatus
  | unbonding (releaseEpoch : ℕ)
  | other
deriving DecidableEq

structure Registration where
  stake : ℕ
  status : MemberStatus
deriving DecidableEq

structure MerkleProof where
  leaf : Hash32
  index : ℕ
  siblings : List Hash32
deriving DecidableEq

structure ProofEnvelope where
  proofFormatVersion : ℕ
  backend : String
  p3Version : String
  friParamsId : String
  publicInputsHash : Hash32
  proofBytes : Bytes
  degreeBits : ℕ
deriving DecidableEq

inductive GovernanceAction
  | whitelistVerifier (address : Address)
  | dewhitelistVerifier (address : Address)
  | verifyHubApp (appId : ℕ)
  | setEncryptionPolicy (policy : EncryptionPolicy)
  | setConstitutionParameter (parameter : T.ConstitutionParameter)
  | unfreezeConsensusDomain (domainId : ℕ) (expectedValidatorSetHash justificationHash : Hash32)

/-- The functions that execution calls outside of this tree. -/
structure Modules where
  -- hashes, signatures and texts
  sha256 : Bytes → Hash32
  hashFields : List Bytes → Hash32
  verifySignature : Bytes → Bytes → Bytes → Except String Unit
  verifyPop : Bytes → Bytes → ℕ → Address → Bool
  addressText : Address → String
  hexEncode : Bytes → String
  roleText : RoleId → String
  -- transactions and codecs
  verifyTx : Transaction T → Bool
  signingHash : Transaction T → Hash32
  validateKeys : ConsensusKeyRegistration → Address → ℕ → Except String Unit
  resultLeaf : RelayerExternalResult → Hash32
  decodeBnsRegister : Bytes → Except String (String × ℕ)
  decodeBnsSetContent : Bytes → Except String (String × Hash32)
  decodeBnsSubdomain : Bytes → Except String (String × String × Address)
  decodeBnsSetStorage : Bytes → Except String (String × Hash32 × ℕ)
  decodeNftMint : Bytes → Except String (Hash32 × Option String)
  decodeNftTransfer : Bytes → Except String (ℕ × Address)
  decodeNftBurn : Bytes → Except String ℕ
  decodeMerkleProof : Bytes → Except String MerkleProof
  encodeMerkleProof : MerkleProof → Except String Bytes
  decodeProposalType : Bytes → Except String T.ProposalType
  decodeEnvelope : Bytes → Option ProofEnvelope
  -- the permissionless registry
  registryParams : T.Registry → RegistryParams
  requiredTransferFee : T.Registry → ℕ → ℕ → ℕ
  isActive : T.Registry → Address → RoleId → Bool
  ensureActiveRelayer : T.Registry → Address → Except String Unit
  getRegistration : T.Registry → Address → RoleId → Option Registration
  upsertStake : T.Registry → Address → RoleId → ℕ → ℕ → T.Registry
  registerLubotOperator : Address → ℕ → ℕ → Exec T.Registry T.RegistryError Unit
  beginUnbonding : Address → RoleId → ℕ → Exec T.Registry T.RegistryError ℕ
  withdraw : Address → RoleId → ℕ → Exec T.Registry T.RegistryError ℕ
  slashRoleOnly : Address → RoleId → ℕ → Exec T.Registry T.RegistryError ℕ
  totalBondedStakeExcluding : T.Registry → RoleId → ℕ
  insufficientStake : ℕ → ℕ → T.RegistryError
  registryErrorText : T.RegistryError → String
  -- the inference registry
  minVerifierStake : ℕ
  operatorHasOpenObligations : T.AiRegistry → Address → ℕ → Bool
  isDisputable : T.AiRegistry → Id32 → Address → ℕ → Bool
  isEquivocationError : String → Bool
  lockVerifierStake : Address → ℕ → Exec T.AiRegistry String Unit
  registerModel : AiModelSpec T → Exec T.AiRegistry String Unit
  submitRequest : AiInferenceRequest T → ℕ → Exec T.AiRegistry String Unit
  submitResult : AiInferenceResult T → ℕ → Exec T.AiRegistry String (Option AiOutcome)
  reclaimFee : Id32 → ℕ → Exec T.AiRegistry String (Address × ℕ)
  deactivateModel : Id32 → Address → Exec T.AiRegistry String Unit
  reactivateModel : Id32 → Address → Exec T.AiRegistry String Unit
  cancelRequest : Id32 → Address → ℕ → Exec T.AiRegistry String (Address × ℕ)
  slashEquivocator : Id32 → Address → ℕ → Exec T.AiRegistry String Unit
  submitAgentPayment : AgentPayment T → ℕ → Exec T.AiRegistry String Unit
  settleAgentPaymentImmediate : Id32 → ℕ → Exec T.AiRegistry String Unit
  releaseAgentPayment : Id32 → ℕ → Exec T.AiRegistry String Address
  reclaimAgentPayment : Id32 → Address → ℕ → Exec T.AiRegistry String ℕ
  attachExecutionProof : Id32 → Address → AiExecutionProof T → Exec T.AiRegistry String Unit
  tryFinalizeWithProofs : Id32 → Exec T.AiRegistry String Unit
  whitelistVerifier : Address → T.AiRegistry → T.AiRegistry
  dewhitelistVerifier : Address → T.AiRegistry → T.AiRegistry
  getRequest : T.AiRegistry → Id32 → Option (AiInferenceRequest T)
  getResults : T.AiRegistry → Id32 → Option (List (AiInferenceResult T))
  getModel : T.AiRegistry → Id32 → Option (AiModelSpec T)
  getAgentPayment : T.AiRegistry → Id32 → Option (AgentPayment T)
  isEscrowed : AgentPayment T → Bool
  defaultEffort : T.Effort
  requestIdOf : AiInferenceRequest T → Id32
  boundedInput : Bytes → Option Bytes
  admitInferenceRequest : T.AiRegistry → AiInferenceRequest T → Except String Unit
  -- execution proofs and the virtual machine
  executeBytecode : Bytes → Except String (List ℕ)
  guestProgramForModel : AiModelSpec T → Except String T.Program
  verifyExecutionProofStark :
    AiExecutionProof T → T.Program → ProofPublicInputs T → Except String Unit
  structuralReport :
    AiExecutionProof T → AiInferenceRequest T → AiInferenceResult T → Option (AiModelSpec T) →
      Bool × String
  classLimits : ℕ → Option (ℕ × String)
  validateGasBudget : List ℕ → ℕ → Except String Unit
  -- governance
  proposalFeeMultiplier : T.Governance → Address → ℕ → ℕ
  reduceActiveVoteWeight : T.Governance → Address → ℕ → T.Governance
  hasProposal : T.Governance → ℕ → Bool
  addVote : ℕ → Address → ℕ → Bool → ℕ → Exec T.Governance String Unit
  createProposal : Address → T.ProposalType → ℕ → ℕ → Exec T.Governance String Unit
  executePassedProposals : T.Governance → List (GovernanceAction T) × T.Governance
  setConstitutionParameter : T.ConstitutionParameter → Exec T.Governance String Unit
  -- notes and the hub
  insertNote : Hash32 → Exec T.NoteRegistry String Unit
  applyTransfer : List Hash32 → List Hash32 → List Hash32 → Exec T.NoteRegistry String Unit
  validateTransferShape : PrivateTransfer T → Except String Unit
  transferDigestMatches : PrivateTransfer T → Bool
  hubRegisterMinFee : ℕ
  registerApp : T.HubApp → Address → ℕ → Exec T.HubRegistry String Unit
  attestAppAsDeveloper : ℕ → Address → Exec T.HubRegistry String Unit

/-- A call that a module refuses leaves its registry as it was. The one exception
is a conflicting inference result: `submit_result` records the evidence and
reports it as an error. -/
structure Modules.Refusals {T : ModuleTypes} (M : Modules T) : Prop where
  registerLubotOperator : ∀ a n e, Atomic (M.registerLubotOperator a n e)
  beginUnbonding : ∀ a r e, Atomic (M.beginUnbonding a r e)
  withdraw : ∀ a r e, Atomic (M.withdraw a r e)
  slashRoleOnly : ∀ a r n, Atomic (M.slashRoleOnly a r n)
  lockVerifierStake : ∀ a n, Atomic (M.lockVerifierStake a n)
  registerModel : ∀ spec, Atomic (M.registerModel spec)
  submitRequest : ∀ req n, Atomic (M.submitRequest req n)
  submitResult : ∀ res n r, wp (M.submitResult res n) (fun _ _ => True)
    (fun e r' => M.isEquivocationError e = true ∨ r' = r) r
  reclaimFee : ∀ id n, Atomic (M.reclaimFee id n)
  deactivateModel : ∀ id a, Atomic (M.deactivateModel id a)
  reactivateModel : ∀ id a, Atomic (M.reactivateModel id a)
  cancelRequest : ∀ id a n, Atomic (M.cancelRequest id a n)
  slashEquivocator : ∀ id a n, Atomic (M.slashEquivocator id a n)
  submitAgentPayment : ∀ p n, Atomic (M.submitAgentPayment p n)
  settleAgentPaymentImmediate : ∀ id n, Atomic (M.settleAgentPaymentImmediate id n)
  releaseAgentPayment : ∀ id n, Atomic (M.releaseAgentPayment id n)
  reclaimAgentPayment : ∀ id a n, Atomic (M.reclaimAgentPayment id a n)
  attachExecutionProof : ∀ id a p, Atomic (M.attachExecutionProof id a p)
  addVote : ∀ id a n b e, Atomic (M.addVote id a n b e)
  createProposal : ∀ a p e d, Atomic (M.createProposal a p e d)
  insertNote : ∀ c, Atomic (M.insertNote c)
  applyTransfer : ∀ xs ys zs, Atomic (M.applyTransfer xs ys zs)
  registerApp : ∀ app a e, Atomic (M.registerApp app a e)
  attestAppAsDeveloper : ∀ id a, Atomic (M.attestAppAsDeveloper id a)

/-! ## An instance to evaluate runs at -/

/-- One-point registries and payloads. -/
def ModuleTypes.point : ModuleTypes :=
  { Registry := Unit, RegistryError := String, AiRegistry := Unit, Governance := Unit
    NoteRegistry := Unit, HubRegistry := Unit, HubApp := Unit, ProposalType := Unit
    ConstitutionParameter := Unit, Effort := Unit, Perception := Unit, Rest := Unit
    Program := Unit, BlockRest := Unit, StorageRegistry := Unit, Liveness := Unit
    InvalidVotes := Unit, ProofMarket := Unit }

/-- Modules that accept every signature and relayer, decode nothing and refuse every call. -/
def Modules.refusing : Modules .point where
  sha256 bytes := bytes
  hashFields := List.flatten
  verifySignature _ _ _ := .ok ()
  verifyPop _ _ _ _ := true
  addressText _ := ""
  hexEncode _ := ""
  roleText _ := ""
  verifyTx _ := true
  signingHash _ := []
  validateKeys _ _ _ := .ok ()
  resultLeaf _ := []
  decodeBnsRegister _ := .error "malformed"
  decodeBnsSetContent _ := .error "malformed"
  decodeBnsSubdomain _ := .error "malformed"
  decodeBnsSetStorage _ := .error "malformed"
  decodeNftMint _ := .error "malformed"
  decodeNftTransfer _ := .error "malformed"
  decodeNftBurn _ := .error "malformed"
  decodeMerkleProof _ := .error "malformed"
  encodeMerkleProof _ := .ok []
  decodeProposalType _ := .error "malformed"
  decodeEnvelope _ := none
  registryParams _ := ⟨0, 0, 0, 0, 0⟩
  requiredTransferFee _ _ baseFee := baseFee
  isActive _ _ _ := false
  ensureActiveRelayer _ _ := .ok ()
  getRegistration _ _ _ := none
  upsertStake registry _ _ _ _ := registry
  registerLubotOperator _ _ _ := fail "refused"
  beginUnbonding _ _ _ := fail "refused"
  withdraw _ _ _ := fail "refused"
  slashRoleOnly _ _ _ := fail "refused"
  totalBondedStakeExcluding _ _ := 0
  insufficientStake _ _ := "insufficient stake"
  registryErrorText e := e
  minVerifierStake := 0
  operatorHasOpenObligations _ _ _ := false
  isDisputable _ _ _ _ := false
  isEquivocationError _ := false
  lockVerifierStake _ _ := fail "refused"
  registerModel _ := fail "refused"
  submitRequest _ _ := fail "refused"
  submitResult _ _ := fail "refused"
  reclaimFee _ _ := fail "refused"
  deactivateModel _ _ := fail "refused"
  reactivateModel _ _ := fail "refused"
  cancelRequest _ _ _ := fail "refused"
  slashEquivocator _ _ _ := fail "refused"
  submitAgentPayment _ _ := fail "refused"
  settleAgentPaymentImmediate _ _ := fail "refused"
  releaseAgentPayment _ _ := fail "refused"
  reclaimAgentPayment _ _ _ := fail "refused"
  attachExecutionProof _ _ _ := fail "refused"
  tryFinalizeWithProofs _ := fail "refused"
  whitelistVerifier _ registry := registry
  dewhitelistVerifier _ registry := registry
  getRequest _ _ := none
  getResults _ _ := none
  getModel _ _ := none
  getAgentPayment _ _ := none
  isEscrowed _ := false
  defaultEffort := ()
  requestIdOf _ := .zero
  boundedInput _ := none
  admitInferenceRequest _ _ := .error "refused"
  executeBytecode _ := .error "refused"
  guestProgramForModel _ := .error "refused"
  verifyExecutionProofStark _ _ _ := .error "refused"
  structuralReport _ _ _ _ := (false, "")
  classLimits _ := none
  validateGasBudget _ _ := .error "refused"
  proposalFeeMultiplier _ _ _ := 1
  reduceActiveVoteWeight governance _ _ := governance
  hasProposal _ _ := false
  addVote _ _ _ _ _ := fail "refused"
  createProposal _ _ _ _ := fail "refused"
  executePassedProposals governance := ([], governance)
  setConstitutionParameter _ := fail "refused"
  insertNote _ := fail "refused"
  applyTransfer _ _ _ := fail "refused"
  validateTransferShape _ := .error "refused"
  transferDigestMatches _ := false
  hubRegisterMinFee := 0
  registerApp _ _ _ := fail "refused"
  attestAppAsDeveloper _ _ := fail "refused"

lemma Modules.refusing_refusals : Modules.refusing.Refusals := by
  constructor
  case submitResult => exact fun _ _ _ => Or.inr rfl
  all_goals
    intros
    exact Atomic.fail

end Budlum
