import Budlum.Domain.Manifest

/-!
# Storage deals and retrieval challenges

`domain/storage_deal.rs`. An operator hosts a shard under a deal, with a bond. Anyone may
challenge the operator to produce a range of the shard; an answer that does not verify
and a deadline that passes slash the bond, and a deal that reaches its end returns it.
The registry only records which of these happened.

The counters of deals and challenges are `u64`. An increment at the largest value aborts.
-/

namespace Budlum

open Exec SortedMap

open Machine

inductive DealStatus
  | active
  | slashed
  | expired
deriving DecidableEq

inductive OperatorClass
  | alwaysOn
  | mobile
deriving DecidableEq

def OperatorClass.mayHoldPrimary : OperatorClass → Bool
  | .alwaysOn => true
  | .mobile => false

structure StorageEconomicsParams where
  operatorBond : ℕ
  feePerByteEpoch : ℕ
deriving DecidableEq

def feeRateScale : ℕ := 1000000000

/-- `total_fee`: the products are clamped to a `u128`, the quotient is rounded up and
clamped to a `u64`. -/
def StorageEconomicsParams.totalFee (e : StorageEconomicsParams) (shardBytes epochs : ℕ) : ℕ :=
  let scaled := satMul u128Max (satMul u128Max e.feePerByteEpoch shardBytes) epochs
  min ((scaled + (feeRateScale - 1)) / feeRateScale) u64Max

structure StorageDeal where
  merkleProof : Option Bytes
  storageRoot : Option Hash32
  merkleDepth : ℕ
  dealId : ℕ
  domainId : ℕ
  manifestId : ContentId
  shardId : ContentId
  operator : Address
  economics : StorageEconomicsParams
  shardBytes : ℕ
  replicaIndex : ℕ
  dealStartEpoch : ℕ
  dealEndEpoch : ℕ
  status : DealStatus
deriving DecidableEq

namespace StorageDeal

def isActive (deal : StorageDeal) : Bool := deal.status = .active

def totalFee (deal : StorageDeal) (epochs : ℕ) : ℕ :=
  deal.economics.totalFee deal.shardBytes epochs

end StorageDeal

structure RetrievalChallenge where
  challengeId : ℕ
  dealId : ℕ
  shardId : ContentId
  byteStart : ℕ
  byteEnd : ℕ
  challengeEpoch : ℕ
  deadlineEpoch : ℕ
  opener : Address
  openerBond : ℕ
deriving DecidableEq

inductive ChallengeOutcome
  | answered
  | mismatched
  | missed
deriving DecidableEq

structure ChallengeResult where
  challengeId : ℕ
  dealId : ℕ
  outcome : ChallengeOutcome
  finalizedEpoch : ℕ
  slashedBond : ℕ
deriving DecidableEq

inductive ReallocationStatus
  | pending
  | activeReplacement
  | underReplicated
  | escalatedFault
  | cancelled
deriving DecidableEq

structure StorageReallocationTicket where
  ticketId : ℕ
  failedDealId : ℕ
  replacementDealId : Option ℕ
  domainId : ℕ
  manifestId : ContentId
  shardId : ContentId
  replicaIndex : ℕ
  slashedOperator : Address
  openedEpoch : ℕ
  deadlineEpoch : ℕ
  status : ReallocationStatus
deriving DecidableEq

/-- `MobileSelfContentPolicy`, with the fields a deal reads. -/
structure MobileSelfContentPolicy where
  contentId : ContentId
  requiredPaidReplicas : ℕ
  selfHostAllowed : Bool
deriving DecidableEq

/-- The context a challenge proof is bound to. -/
structure StorageChallengeProofContext where
  chainId : ℕ
  deal : StorageDeal
  challenge : RetrievalChallenge
  responder : Address
  responseEpoch : ℕ

/-- `StorageError`, with the cases the modelled methods raise. -/
inductive StorageError
  | unknownShard (manifestId shardId : ContentId)
  | invalidManifest (reason : String)
  | invalidEpochRange (start finish : ℕ)
  | insufficientBond (required provided : ℕ)
  | zeroOpenerBond
  | openerBondBelowRangeCost (rangeLen required provided : ℕ)
  | unknownDeal (dealId : ℕ)
  | unknownChallenge (challengeId : ℕ)
  | dealNotActive (dealId : ℕ)
  | expiryWouldStrandContent (dealId : ℕ) (manifestId shardId : ContentId)
      (remainingCarriers floor : ℕ)
  | notTheOperator (expected provided : Address)
  | deadlineElapsed (deadlineEpoch nowEpoch : ℕ)
  | challengeAlreadyResolved (challengeId : ℕ)
  | selfHostRefusedByPolicy (contentId : ContentId) (reason : String)
  | merkleProofRequired
  | invalidMerkleProof (reason : String)
  | tooManyOpenChallenges (dealId max : ℕ)
  | tooManyOpenChallengesPerOperator (operator : Address) (max : ℕ)
  | challengeRateLimited (operator : Address) (manifestId : ContentId) (minimumNextEpoch : ℕ)
  | mobileOperatorCannotHoldPrimary (operator : Address)
deriving DecidableEq

/-- What the registry calls outside of this tree. -/
structure StorageModules where
  hashFields : List Bytes → Hash32
  hexEncode : Bytes → String
  /-- `bincode::deserialize::<ProofEnvelope>`. -/
  decodeEnvelope : Bytes → Except String ProofEnvelope
  /-- `verify_answer_challenge_zk_proof_for_chain`: context, root, hash of the range, proof. -/
  verifyAnswer : StorageChallengeProofContext → Hash32 → ContentId → Bytes →
    Except StorageError Unit

/-- `StorageRegistry`. Its maps of deals and challenges are only written by the methods
below, under the id the entry carries and below the next id to assign. -/
structure StorageRegistry where
  nextDealId : ℕ
  nextChallengeId : ℕ
  nextReallocationId : ℕ
  deals : SortedMap ℕ StorageDeal
  dealsByShard : SortedMap (ContentId ×ₗ ContentId) (List ℕ)
  challenges : SortedMap ℕ RetrievalChallenge
  results : SortedMap ℕ ChallengeResult
  reallocations : SortedMap ℕ StorageReallocationTicket
  manifests : SortedMap ContentId ContentManifest
  selfHostPolicies : SortedMap ContentId MobileSelfContentPolicy
  operatorCooldowns : SortedMap Address ℕ
  operatorClasses : SortedMap Address OperatorClass
  deals_keyed : ∀ id deal, deals.get? id = some deal → deal.dealId = id ∧ id < nextDealId
  challenges_keyed : ∀ id challenge, challenges.get? id = some challenge →
    challenge.challengeId = id ∧ id < nextChallengeId

/-- The arguments of `open_deal`. -/
structure DealRequest where
  domainId : ℕ
  manifest : ContentManifest
  shardId : ContentId
  operator : Address
  replicaIndex : ℕ
  startEpoch : ℕ
  endEpoch : ℕ
  economics : StorageEconomicsParams
  /-- The only parameter of the domain that is read. -/
  minOperatorBond : ℕ
  merkleProof : Option Bytes
  storageRoot : Option Hash32

/-- The arguments of `open_challenge`. -/
structure ChallengeRequest where
  dealId : ℕ
  byteStart : ℕ
  byteEnd : ℕ
  challengeEpoch : ℕ
  deadlineEpoch : ℕ
  opener : Address
  openerBond : ℕ

/-- The arguments of `answer_challenge_with_chain_id`. -/
structure ChallengeAnswer where
  chainId : ℕ
  challengeId : ℕ
  rangeHash : ContentId
  responder : Address
  responseEpoch : ℕ
  proofBytes : Option Bytes

namespace StorageRegistry

/-- `MAX_OPEN_CHALLENGES_PER_DEAL`, `MAX_OPEN_CHALLENGES_PER_OPERATOR`,
`OPENER_BOND_PER_KIB`, `MIN_OPENER_BOND` and `MIN_OPERATOR_MANIFEST_CHALLENGE_EPOCHS`. -/
def maxOpenChallengesPerDeal : ℕ := 10
def maxOpenChallengesPerOperator : ℕ := 16
def openerBondPerKib : ℕ := 1
def minOpenerBond : ℕ := 1
def minOperatorManifestChallengeEpochs : ℕ := 4

/-- `REALLOCATION_ACCEPTANCE_EPOCHS` and `PERMANENCE_FLOOR_DEFAULT`. -/
def reallocationAcceptanceEpochs : ℕ := 4
def permanenceFloorDefault : ℕ := 1

def missedChallengeCooldownSecs : ℕ := 6 * 60 * 60

def new : StorageRegistry where
  nextDealId := 0
  nextChallengeId := 0
  nextReallocationId := 0
  deals := ∅
  dealsByShard := ∅
  challenges := ∅
  results := ∅
  reallocations := ∅
  manifests := ∅
  selfHostPolicies := ∅
  operatorCooldowns := ∅
  operatorClasses := ∅
  deals_keyed _ _ h := nomatch h
  challenges_keyed _ _ h := nomatch h

variable (r : StorageRegistry)

/-! ## Writing -/

@[simps] def addDeal (deal : StorageDeal) : StorageRegistry :=
  { r with
    deals := r.deals.insert r.nextDealId { deal with dealId := r.nextDealId }
    nextDealId := r.nextDealId + 1
    deals_keyed := by
      intro id stored hget
      rcases get?_insert_eq_some.mp hget with ⟨rfl, rfl⟩ | ⟨-, hget⟩
      · exact ⟨rfl, Nat.lt_succ_self _⟩
      · exact ⟨(r.deals_keyed id stored hget).1, Nat.lt_succ_of_lt (r.deals_keyed id stored hget).2⟩ }

/-- Write through the reference of `deals.get_mut`, which found `deal`. -/
@[simps] def setStatus (id : ℕ) (deal : StorageDeal) (h : r.deals.get? id = some deal)
    (status : DealStatus) : StorageRegistry :=
  { r with
    deals := r.deals.insert id { deal with status }
    deals_keyed := by
      intro id' stored hget
      rcases get?_insert_eq_some.mp hget with ⟨rfl, rfl⟩ | ⟨-, hget⟩
      · exact r.deals_keyed id' deal h
      · exact r.deals_keyed id' stored hget }

@[simps] def addChallenge (challenge : RetrievalChallenge) : StorageRegistry :=
  { r with
    challenges := r.challenges.insert r.nextChallengeId
      { challenge with challengeId := r.nextChallengeId }
    nextChallengeId := r.nextChallengeId + 1
    challenges_keyed := by
      intro id stored hget
      rcases get?_insert_eq_some.mp hget with ⟨rfl, rfl⟩ | ⟨-, hget⟩
      · exact ⟨rfl, Nat.lt_succ_self _⟩
      · exact ⟨(r.challenges_keyed id stored hget).1,
          Nat.lt_succ_of_lt (r.challenges_keyed id stored hget).2⟩ }

@[simps] def addResult (result : ChallengeResult) : StorageRegistry :=
  { r with results := r.results.insert result.challengeId result }

/-! ## Queries -/

def operatorClass (operator : Address) : OperatorClass :=
  (r.operatorClasses.get? operator).getD .alwaysOn

def dealsForShard (manifestId shardId : ContentId) : List StorageDeal :=
  ((r.dealsByShard.get? (toLex (manifestId, shardId))).getD []).filterMap r.deals.get?

def activeReplicaCount (manifestId shardId : ContentId) : ℕ :=
  (r.dealsForShard manifestId shardId).countP StorageDeal.isActive

/-- `live_shard_count`, a `u32`. -/
def liveShardCount (manifestId : ContentId) : ℕ :=
  match r.manifests.get? manifestId with
  | some manifest =>
    (manifest.shards.countP fun s => 0 < r.activeReplicaCount manifestId s.shardId) % 2 ^ 32
  | none => 0

def permanenceFloor (manifestId : ContentId) : ℕ :=
  match r.manifests.get? manifestId with
  | some manifest => max manifest.erasure.k 1
  | none => permanenceFloorDefault

def operatorCooldownUntil (operator : Address) (nowUnixSecs : ℕ) : Option ℕ :=
  (r.operatorCooldowns.get? operator).filter fun untilSecs => nowUnixSecs < untilSecs

def pruneExpiredCooldowns (nowUnixSecs : ℕ) : StorageRegistry :=
  { r with operatorCooldowns := r.operatorCooldowns.filter fun e => nowUnixSecs < e.2 }

def beginOperatorCooldown (operator : Address) (nowUnixSecs : ℕ) : StorageRegistry :=
  let untilSecs := satAdd u64Max nowUnixSecs missedChallengeCooldownSecs
  let entry := (r.operatorCooldowns.get? operator).getD untilSecs
  { r with operatorCooldowns := r.operatorCooldowns.insert operator (max entry untilSecs) }

def checkSelfHostAllowed (manifestId contentId : ContentId) : Except StorageError Unit :=
  match r.selfHostPolicies.get? contentId with
  | none => .ok ()
  | some policy =>
    if policy.selfHostAllowed = false then
      .error (.selfHostRefusedByPolicy contentId
        "the owner turned self-hosting off for this content")
    else if r.activeReplicaCount manifestId contentId < policy.requiredPaidReplicas then
      .error (.selfHostRefusedByPolicy contentId
        (s!"the owner asked for {policy.requiredPaidReplicas} paid replica(s) before " ++
          s!"self-hosting and {r.activeReplicaCount manifestId contentId} are open"))
    else .ok ()

def requiredOpenerBond (rangeLen : ℕ) : ℕ :=
  max minOpenerBond (satMul u64Max ((rangeLen + 1023) / 1024) openerBondPerKib)

/-! ## Opening a deal -/

variable (M : StorageModules)

abbrev Method (α : Type) : Type := Exec StorageRegistry (Stop StorageError) α

def validateMerkleProofFormat (proofBytes : Bytes) : Except StorageError Unit :=
  if proofBytes.length < 64 then .error (.invalidMerkleProof "proof too short (< 64 bytes)")
  else match M.decodeEnvelope proofBytes with
    | .ok envelope =>
      if envelope.proofBytes.isEmpty then
        .error (.invalidMerkleProof "ProofEnvelope.proof_bytes is empty")
      else .ok ()
    | .error e => .error (.invalidMerkleProof s!"failed to deserialize ProofEnvelope: {e}")

/-- `register_manifest`: the first one stays. -/
def registerManifest (manifest : ContentManifest) : StorageRegistry :=
  if r.manifests.contains manifest.manifestId then r
  else { r with manifests := r.manifests.insert manifest.manifestId manifest }

/-- The checks of `open_deal`, up to the size of the shard. -/
def checkDeal (req : DealRequest) : Except StorageError ShardRef := do
  let proofBytes ← (req.merkleProof.elim (.error .merkleProofRequired) .ok)
  let _root ← (req.storageRoot.elim (.error .merkleProofRequired) .ok :
    Except StorageError Hash32)
  validateMerkleProofFormat M proofBytes
  if req.endEpoch ≤ req.startEpoch then
    .error (.invalidEpochRange req.startEpoch req.endEpoch)
  else if req.economics.operatorBond < req.minOperatorBond then
    .error (.insufficientBond req.minOperatorBond req.economics.operatorBond)
  else if req.replicaIndex = 0 ∧ (r.operatorClass req.operator).mayHoldPrimary = false then
    .error (.mobileOperatorCannotHoldPrimary req.operator)
  else do
    if r.operatorClass req.operator = .mobile then
      r.checkSelfHostAllowed req.manifest.manifestId req.shardId
    else .ok ()
    match req.manifest.validateUntrusted M.hashFields M.hexEncode with
    | .error reason => .error (.invalidManifest reason)
    | .ok () =>
      match req.manifest.shard req.shardId with
      | some shard => .ok shard
      | none => .error (.unknownShard req.manifest.manifestId req.shardId)

/-- The deal of a request. Its id is assigned when it is recorded. -/
def dealOf (req : DealRequest) (shard : ShardRef) : StorageDeal where
  merkleProof := req.merkleProof
  storageRoot := req.storageRoot
  merkleDepth := 64
  dealId := 0
  domainId := req.domainId
  manifestId := req.manifest.manifestId
  shardId := req.shardId
  operator := req.operator
  economics := req.economics
  shardBytes := shard.size
  replicaIndex := req.replicaIndex
  dealStartEpoch := req.startEpoch
  dealEndEpoch := req.endEpoch
  status := .active

def indexDeal (manifestId shardId : ContentId) (id : ℕ) : StorageRegistry :=
  let ids := (r.dealsByShard.get? (toLex (manifestId, shardId))).getD []
  { r with dealsByShard := r.dealsByShard.insert (toLex (manifestId, shardId)) (ids ++ [id]) }

def openDeal (req : DealRequest) : Method ℕ := do
  let r ← read id
  let shard ← ofExcept .err (r.checkDeal M req)
  modify fun r => r.registerManifest req.manifest
  let dealId ← read nextDealId
  failIf (dealId = u64Max) .abort
  modify fun r =>
    (r.addDeal (dealOf req shard)).indexDeal req.manifest.manifestId req.shardId dealId
  pure dealId

/-! ## Challenges -/

def minimumNextEpoch (operator : Address) (manifestId : ContentId) : Option ℕ :=
  (r.challenges.values.filterMap fun challenge =>
    match r.deals.get? challenge.dealId with
    | some challenged =>
      if challenged.operator = operator ∧ challenged.manifestId = manifestId then
        some (satAdd u64Max challenge.challengeEpoch minOperatorManifestChallengeEpochs)
      else none
    | none => none).max?

def isOpen (challenge : RetrievalChallenge) : Bool := !r.results.contains challenge.challengeId

def checkChallenge (req : ChallengeRequest) : Except StorageError StorageDeal :=
  if req.openerBond = 0 then .error .zeroOpenerBond
  else if req.byteEnd ≤ req.byteStart then .error (.invalidEpochRange req.byteStart req.byteEnd)
  else
    let rangeLen := req.byteEnd - req.byteStart
    if req.openerBond < requiredOpenerBond rangeLen then
      .error (.openerBondBelowRangeCost rangeLen (requiredOpenerBond rangeLen) req.openerBond)
    else if req.deadlineEpoch ≤ req.challengeEpoch then
      .error (.invalidEpochRange req.challengeEpoch req.deadlineEpoch)
    else match r.deals.get? req.dealId with
      | none => .error (.unknownDeal req.dealId)
      | some deal =>
        if deal.isActive = false then .error (.dealNotActive req.dealId)
        else if (r.minimumNextEpoch deal.operator deal.manifestId).any
            fun epoch => req.challengeEpoch < epoch then
          .error (.challengeRateLimited deal.operator deal.manifestId
            ((r.minimumNextEpoch deal.operator deal.manifestId).getD 0))
        else if maxOpenChallengesPerDeal ≤ r.challenges.values.countP
            fun c => c.dealId = req.dealId && r.isOpen c then
          .error (.tooManyOpenChallenges req.dealId maxOpenChallengesPerDeal)
        else if maxOpenChallengesPerOperator ≤ r.challenges.values.countP
            fun c => r.isOpen c &&
              (r.deals.get? c.dealId).any fun d => d.operator = deal.operator then
          .error (.tooManyOpenChallengesPerOperator deal.operator maxOpenChallengesPerOperator)
        else .ok deal

def openChallenge (req : ChallengeRequest) : Method ℕ := do
  let r ← read id
  let deal ← ofExcept .err (r.checkChallenge req)
  failIf (r.nextChallengeId = u64Max) .abort
  modify fun r => r.addChallenge
    { challengeId := 0, dealId := req.dealId, shardId := deal.shardId, byteStart := req.byteStart
      byteEnd := req.byteEnd, challengeEpoch := req.challengeEpoch
      deadlineEpoch := req.deadlineEpoch, opener := req.opener, openerBond := req.openerBond }
  pure r.nextChallengeId

def storageChallengeProofsAreCheckable : Bool := false

/-- The checks of `answer_challenge_with_chain_id` that are no evidence about the operator. -/
def checkAnswer (answer : ChallengeAnswer) :
    Except StorageError (RetrievalChallenge × { deal : StorageDeal //
      r.deals.get? deal.dealId = some deal }) :=
  if answer.rangeHash = .zero then
    .error (.invalidMerkleProof "range_hash must be non-zero (empty hash rejected)")
  else if r.results.contains answer.challengeId then
    .error (.challengeAlreadyResolved answer.challengeId)
  else match r.challenges.get? answer.challengeId with
    | none => .error (.unknownChallenge answer.challengeId)
    | some challenge =>
      match hdeal : r.deals.get? challenge.dealId with
      | none => .error (.unknownDeal challenge.dealId)
      | some deal =>
        if deal.isActive = false then .error (.dealNotActive deal.dealId)
        else if answer.responder ≠ deal.operator then
          .error (.notTheOperator deal.operator answer.responder)
        else if challenge.deadlineEpoch < answer.responseEpoch then
          .error (.deadlineElapsed challenge.deadlineEpoch answer.responseEpoch)
        else .ok (challenge, ⟨deal, (r.deals_keyed _ _ hdeal).1 ▸ hdeal⟩)

def verifyAnswer (answer : ChallengeAnswer) (challenge : RetrievalChallenge)
    (deal : StorageDeal) : Except StorageError Unit :=
  match deal.storageRoot, answer.proofBytes with
  | some root, some proof =>
    if storageChallengeProofsAreCheckable = false then .ok ()
    else M.verifyAnswer ⟨answer.chainId, deal, challenge, answer.responder, answer.responseEpoch⟩
      root answer.rangeHash proof
  | some _, none => .error (.invalidMerkleProof
      "ZK proof (ProofEnvelope) is mandatory for storage challenge verification")
  | none, _ => .ok ()

/-- The result of an answer, and the registry with it. -/
def resolveAnswer (answer : ChallengeAnswer) (challenge : RetrievalChallenge)
    (deal : { deal : StorageDeal // r.deals.get? deal.dealId = some deal }) :
    ChallengeResult × StorageRegistry :=
  match verifyAnswer M answer challenge deal.1 with
  | .ok () =>
    let result : ChallengeResult :=
      ⟨answer.challengeId, deal.1.dealId, .answered, answer.responseEpoch, 0⟩
    (result, r.addResult result)
  | .error _ =>
    let result : ChallengeResult := ⟨answer.challengeId, deal.1.dealId, .mismatched,
      answer.responseEpoch, deal.1.economics.operatorBond⟩
    (result, (r.setStatus deal.1.dealId deal.1 deal.2 .slashed).addResult result)

def answerChallengeWithChainId (answer : ChallengeAnswer) : Method ChallengeResult := fun r =>
  match r.checkAnswer answer with
  | .error e => (.error (.err e), r)
  | .ok (challenge, deal) =>
    let resolved := r.resolveAnswer M answer challenge deal
    (.ok resolved.1, resolved.2)

def openTicket (deal : StorageDeal) (slashedOperator : Address) (nowEpoch : ℕ) :
    StorageRegistry :=
  if r.reallocations.values.any fun ticket => ticket.failedDealId = deal.dealId then r
  else
    { r with
      nextReallocationId := satAdd u64Max r.nextReallocationId 1
      reallocations := r.reallocations.insert r.nextReallocationId
        { ticketId := r.nextReallocationId, failedDealId := deal.dealId
          replacementDealId := none, domainId := deal.domainId, manifestId := deal.manifestId
          shardId := deal.shardId, replicaIndex := deal.replicaIndex, slashedOperator
          openedEpoch := nowEpoch
          deadlineEpoch := satAdd u64Max nowEpoch reallocationAcceptanceEpochs
          status := .pending } }

/-- `finalize_missed_challenge`. The status of the deal is not looked at. -/
def finalizeMissedChallenge (challengeId nowEpoch : ℕ) : Method ChallengeResult := fun r =>
  if r.results.contains challengeId then
    (.error (.err (.challengeAlreadyResolved challengeId)), r)
  else match r.challenges.get? challengeId with
    | none => (.error (.err (.unknownChallenge challengeId)), r)
    | some challenge =>
      if nowEpoch ≤ challenge.deadlineEpoch then
        (.error (.err (.invalidEpochRange nowEpoch challenge.deadlineEpoch)), r)
      else match hdeal : r.deals.get? challenge.dealId with
        | none => (.error (.err (.unknownDeal challenge.dealId)), r)
        | some deal =>
          let result : ChallengeResult :=
            ⟨challengeId, challenge.dealId, .missed, nowEpoch, deal.economics.operatorBond⟩
          (.ok result, ((r.setStatus challenge.dealId deal hdeal .slashed).openTicket deal
            deal.operator nowEpoch).addResult result)

/-! ## The end of a deal -/

/-- `expire_deal`: the bond to return, zero for a deal that has ended. -/
def expireDeal (dealId nowEpoch : ℕ) : Method ℕ := fun r =>
  match hdeal : r.deals.get? dealId with
  | none => (.error (.err (.unknownDeal dealId)), r)
  | some deal =>
    if nowEpoch < deal.dealEndEpoch then
      (.error (.err (.invalidEpochRange nowEpoch deal.dealEndEpoch)), r)
    else if deal.status ≠ .active then (.ok 0, r)
    else if r.activeReplicaCount deal.manifestId deal.shardId ≤ 1 ∧
        r.liveShardCount deal.manifestId ≤ r.permanenceFloor deal.manifestId then
      (.error (.err (.expiryWouldStrandContent dealId deal.manifestId deal.shardId
        (r.liveShardCount deal.manifestId - 1) (r.permanenceFloor deal.manifestId))), r)
    else (.ok deal.economics.operatorBond, r.setStatus dealId deal hdeal .expired)

/-- `open_expiry_reallocation`, without the id of the ticket. -/
def openExpiryReallocation (dealId nowEpoch : ℕ) : StorageRegistry :=
  match r.deals.get? dealId with
  | some deal => r.openTicket deal .zero nowEpoch
  | none => r

end StorageRegistry

end Budlum
