import Budlum.Core.Address
import Budlum.Lib.Exec
import Budlum.Lib.Machine
import Budlum.Lib.SortedMap

/-!
# The verifier registry

The crate `verifier-registry`: one registry for every role, keyed by role and account. Anyone
registers by staking, and slashing an account in one role slashes every role that it holds.
-/

namespace Budlum.Verifiers

open Machine Exec

/-! ## The data -/

/-- `RoleId`, an open number. -/
abbrev RoleId : Type := ℕ

def masterVerifier : RoleId := 2

def relayer : RoleId := 3

inductive SlashingCondition
  | doubleSign
  | livenessFault
  | maliciousBehaviour
deriving DecidableEq

inductive MemberStatus
  | active
  | unbonding (releaseEpoch : ℕ)
  | slashed
deriving DecidableEq

structure Registration where
  account : Address
  role : RoleId
  stake : ℕ
  status : MemberStatus
  registeredEpoch : ℕ
deriving DecidableEq

def Registration.isActive (reg : Registration) : Bool :=
  decide (reg.status = .active) && decide (0 < reg.stake)

inductive RegistryError
  | insufficientStake (required provided : ℕ)
  | alreadyRegistered (account : Address) (role : RoleId)
  | notRegistered (account : Address) (role : RoleId)
  | notActive (account : Address) (role : RoleId)
  | stillUnbonding (releaseEpoch currentEpoch : ℕ)
  | alreadySlashed (account : Address) (role : RoleId)
deriving DecidableEq

structure SlashOutcome where
  condition : SlashingCondition
  penalty : ℕ
  remainingStake : ℕ
deriving DecidableEq

/-! ### Parameters -/

def fixedPointScale : ℕ := 1000000

def slashPenalty (stake slashRatioFixed : ℕ) : ℕ :=
  let quotient := stake * slashRatioFixed / fixedPointScale
  if u64Max < quotient then stake else if stake < quotient then stake else quotient

def Registration.punished (reg : Registration) (ratio : ℕ) : Registration :=
  { reg with stake := reg.stake - slashPenalty reg.stake ratio, status := .slashed }

structure RegistryParams where
  minStake : ℕ
  unbondingEpochs : ℕ
  doubleSignSlashRatioFixed : ℕ
  livenessSlashRatioFixed : ℕ
  maliciousSlashRatioFixed : ℕ
deriving DecidableEq

def RegistryParams.slashRatio (params : RegistryParams) : SlashingCondition → ℕ
  | .doubleSign => params.doubleSignSlashRatioFixed
  | .livenessFault => params.livenessSlashRatioFixed
  | .maliciousBehaviour => params.maliciousSlashRatioFixed

def RegistryParams.default : RegistryParams where
  minStake := 1000
  unbondingEpochs := 7
  doubleSignSlashRatioFixed := fixedPointScale / 2
  livenessSlashRatioFixed := fixedPointScale / 100
  maliciousSlashRatioFixed := fixedPointScale

/-! ### Evidence -/

inductive ProofProvenance
  | consensusVerified
  | unverified
deriving DecidableEq

inductive SlashingProof
  | doubleSign (height : ℕ) (blockHash1 blockHash2 : String) (signature1 signature2 : Bytes)
  | liveness (windowStartEpoch windowEndEpoch missed expected : ℕ)
  | other (tag : String) (data : Bytes)
  | invalidSignatureSpam (epoch count threshold : ℕ)
deriving DecidableEq

def SlashingProof.condition : SlashingProof → SlashingCondition
  | .doubleSign .. => .doubleSign
  | .liveness .. => .livenessFault
  | .other .. => .maliciousBehaviour
  | .invalidSignatureSpam .. => .maliciousBehaviour

structure SlashingReport where
  offender : Address
  role : RoleId
  proof : SlashingProof
  provenance : ProofProvenance
  reporter : Option Address
deriving DecidableEq

inductive EvidenceError
  | zeroOffender
  | nonConflictingHashes
  | missingSignature
  | impossibleLivenessWindow
  | emptyProofTag
  | insufficientInvalidVoteCount
  | unverified
deriving DecidableEq

namespace SlashingReport

def validateShape (report : SlashingReport) : Except EvidenceError Unit :=
  if report.offender = Address.zero then .error .zeroOffender
  else match report.proof with
    | .doubleSign _ blockHash1 blockHash2 signature1 signature2 =>
      if blockHash1 = blockHash2 then .error .nonConflictingHashes
      else if signature1.isEmpty || signature2.isEmpty then .error .missingSignature
      else .ok ()
    | .liveness _ _ missed expected =>
      if expected < missed then .error .impossibleLivenessWindow else .ok ()
    | .other tag _ => if tag = "" then .error .emptyProofTag else .ok ()
    | .invalidSignatureSpam _ count threshold =>
      if threshold = 0 ∨ count < threshold then .error .insufficientInvalidVoteCount else .ok ()

def isActionable (report : SlashingReport) : Except EvidenceError Unit :=
  match report.validateShape with
  | .error e => .error e
  | .ok () =>
    match report.provenance with
    | .consensusVerified => .ok ()
    | .unverified => .error .unverified

end SlashingReport

structure SlashingRecord where
  report : SlashingReport
  penalty : ℕ
  remainingStake : ℕ

structure VerifierRegistry where
  registrations : SortedMap (RoleId ×ₗ Address) Registration
  params : RegistryParams
  slashingHistory : List SlashingRecord

namespace VerifierRegistry

variable (r : VerifierRegistry) (account : Address) (role : RoleId)

def withParams (params : RegistryParams) : VerifierRegistry := ⟨∅, params, []⟩

def key : RoleId ×ₗ Address := toLex (role, account)

def get : Option Registration := r.registrations.get? (key account role)

def isActive : Bool := ((r.get account role).map Registration.isActive).getD false

/-- An insertion, or an assignment through a reference into the map. -/
def put (reg : Registration) : VerifierRegistry :=
  { r with registrations := r.registrations.insert (key account role) reg }

def remove : VerifierRegistry := { r with registrations := r.registrations.erase (key account role) }

/-! ## The calls -/

def register (stake currentEpoch : ℕ) : Exec VerifierRegistry RegistryError Unit := do
  let r ← read id
  failIf (stake < r.params.minStake) (.insufficientStake r.params.minStake stake)
  failIf (r.registrations.contains (key account role)) (.alreadyRegistered account role)
  modify fun r =>
    r.put account role ⟨account, role, stake, .active, currentEpoch⟩

def upsertStake (totalStake currentEpoch : ℕ) : VerifierRegistry :=
  match r.get account role with
  | some reg =>
    if reg.status = .slashed then r.put account role { reg with stake := totalStake }
    else if totalStake = 0 then r.remove account role
    else r.put account role { reg with stake := totalStake }
  | none =>
    if r.params.minStake ≤ totalStake then
      r.put account role ⟨account, role, totalStake, .active, currentEpoch⟩
    else r

def addStake (amount : ℕ) : Exec VerifierRegistry RegistryError ℕ := do
  let r ← read id
  let reg ← ofOption (.notRegistered account role) (r.get account role)
  let stake := satAdd u64Max reg.stake amount
  modify fun r => r.put account role { reg with stake }
  pure stake

def beginUnbonding (currentEpoch : ℕ) : Exec VerifierRegistry RegistryError ℕ := do
  let r ← read id
  let reg ← ofOption (.notRegistered account role) (r.get account role)
  failIf (reg.status ≠ .active) (.notActive account role)
  let releaseEpoch := satAdd u64Max currentEpoch r.params.unbondingEpochs
  modify fun r =>
    r.put account role { reg with status := .unbonding releaseEpoch }
  pure releaseEpoch

def checkReleased (currentEpoch : ℕ) : MemberStatus → Except RegistryError Unit
  | .unbonding releaseEpoch =>
    if currentEpoch < releaseEpoch then .error (.stillUnbonding releaseEpoch currentEpoch)
    else .ok ()
  | _ => .error (.notActive account role)

def withdraw (currentEpoch : ℕ) : Exec VerifierRegistry RegistryError ℕ := do
  let r ← read id
  let reg ← ofOption (.notRegistered account role) (r.get account role)
  ofExcept id (checkReleased account role currentEpoch reg.status)
  modify fun r => r.remove account role
  pure reg.stake

/-- One turn of the loop of `slash_cross_role`. -/
def slashHeld (ratio : ℕ) (r : VerifierRegistry) (role : RoleId) : VerifierRegistry :=
  match r.get account role with
  | some reg => if reg.status = .slashed then r else r.put account role (reg.punished ratio)
  | none => r

def slashCrossRole (primaryRole : RoleId) (ratio : ℕ) : VerifierRegistry :=
  (r.registrations.keys.filterMap fun k =>
    if (ofLex k).2 = account ∧ (ofLex k).1 ≠ primaryRole then some (ofLex k).1 else none).foldl
    (slashHeld account ratio) r

def slash (condition : SlashingCondition) (ratio : ℕ) :
    Exec VerifierRegistry RegistryError SlashOutcome := do
  let r ← read id
  let reg ← ofOption (.notRegistered account role) (r.get account role)
  failIf (reg.status = .slashed) (.alreadySlashed account role)
  modify fun r =>
    (r.put account role (reg.punished ratio)).slashCrossRole account role ratio
  pure ⟨condition, slashPenalty reg.stake ratio, (reg.punished ratio).stake⟩

def slashFromReport (report : SlashingReport) :
    Exec VerifierRegistry EvidenceError (Option SlashOutcome) := do
  ofExcept id report.isActionable
  let r ← read id
  let condition := report.proof.condition
  match ← attempt (slash report.offender report.role condition
      (r.params.slashRatio condition)) with
  | .ok outcome =>
    modify fun r => { r with
      slashingHistory := r.slashingHistory ++ [⟨report, outcome.penalty, outcome.remainingStake⟩] }
    pure (some outcome)
  | .error _ => pure none

end VerifierRegistry

end Budlum.Verifiers
