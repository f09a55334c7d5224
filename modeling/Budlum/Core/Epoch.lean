import Budlum.Core.AccountState

/-!
# Slashing and the end of an epoch

`slash_validator`, the proposals that governance executes, and `advance_epoch`. The
proposals themselves, the permissionless registry and the proof market live outside of
this tree: `EpochModules` is what `advance_epoch` calls there.
-/

namespace Budlum

open Machine

/-- `ProposalType`, as `execute_proposal` takes it apart. -/
inductive ProposalKind (T : ModuleTypes)
  | changeBaseFee (fee : ℕ)
  | changeBlockReward (reward : ℕ)
  | slashValidator (address : Address) (evidenceHash : Bytes)
  | parameterUpdate (key value : String)
  | whitelistVerifier (address : Address)
  | dewhitelistVerifier (address : Address)
  | verifyHubApp (appId : ℕ) (developer : Address) (manifestId websiteUrlHash : Hash32)
  | setEncryptionPolicy (policy : EncryptionPolicy)
  | setConstitutionParameter (parameter : T.ConstitutionParameter)
  | unfreezeConsensusDomain (domainId : ℕ)

structure Proposal (T : ModuleTypes) where
  id : ℕ
  kind : ProposalKind T

/-- What `slash_validator` and `advance_epoch` call outside of this tree. -/
structure EpochModules (T : ModuleTypes) extends Modules T where
  /-- `PermissionlessRegistry::slash` for a double sign of a validator. -/
  slashDoubleSign : Address → ℕ → T.Registry → T.Registry
  /-- Finalise the proposals whose voting has ended, for a total stake, a quorum and an
  epoch: the passed proposals that are ready, and the proposals after. -/
  closeVoting : ℕ → ℕ → ℕ → T.Governance → List (Proposal T) × T.Governance
  markExecuted : ℕ → T.Governance → T.Governance
  /-- The registry holds a slashing record of the validator role with this hash. -/
  evidenceMatches : T.Registry → Address → Bytes → Bool
  /-- `apply_registry_parameter_update`. -/
  updateParameter : String → String → T.Registry → Except String T.Registry
  markVerifiedByProposal : ℕ → Address → Hash32 → Hash32 → Exec T.HubRegistry String Unit
  /-- `close_epoch` of the proof market. -/
  closeMarketEpoch : ℕ → T.ProofMarket → T.ProofMarket

/-- No proposal passes, and the registries take every other call. -/
def EpochModules.refusing : EpochModules .point where
  toModules := .refusing
  slashDoubleSign _ _ registry := registry
  closeVoting _ _ _ governance := ([], governance)
  markExecuted _ governance := governance
  evidenceMatches _ _ _ := true
  updateParameter _ _ registry := .ok registry
  markVerifiedByProposal _ _ _ _ := Exec.fail "refused"
  closeMarketEpoch _ market := market

def slashPenalty (stake slashRatioFixed : ℕ) : ℕ :=
  let quotient := stake * slashRatioFixed / fixedPointScale
  if quotient > u64Max then stake else if quotient > stake then stake else quotient

namespace AccountState

variable {T : ModuleTypes} (M : EpochModules T) (s : AccountState T)

def jailEpochs : ℕ := 7

def slashed (v : Validator) (slashRatioFixed : ℕ) : Validator :=
  { v with
    stake := v.stake - slashPenalty v.stake slashRatioFixed
    slashed := true
    active := false
    jailed := true
    jailUntil := satAdd u64Max s.epochIndex jailEpochs }

/-- `slash_validator`: the penalty, if there is such a validator. -/
def slashValidator (address : Address) (slashRatioFixed : ℕ) : Option ℕ × AccountState T :=
  match s.getValidator address with
  | none => (none, s)
  | some v =>
    if v.slashed then (some 0, s)
    else
      (some (slashPenalty v.stake slashRatioFixed),
        { s with
          validators := s.validators.insert address (s.slashed v slashRatioFixed)
          registry := M.slashDoubleSign address slashRatioFixed s.registry })

def getTotalStake : ℕ :=
  ((s.validators.values.filter fun v => v.active && !v.slashed).map Validator.stake).sum

def maxBaseFee : ℕ := 1000000

/-- A validator after a slash by governance. It is not jailed. -/
def stripped (v : Validator) : Validator := { v with slashed := true, active := false, stake := 0 }

/-- The `SlashValidator` arm of `execute_proposal`. -/
def governanceSlash (address : Address) (evidenceHash : Bytes) : AccountState T :=
  if M.evidenceMatches s.registry address evidenceHash then
    match s.getValidator address with
    | some v => { s with validators := s.validators.insert address (stripped v) }
    | none => s
  else s

/-- `execute_proposal`. What is refused is only logged. -/
def executeProposal : ProposalKind T → AccountState T
  | .changeBaseFee fee =>
    if fee < minTxFee ∨ fee > maxBaseFee then s else { s with baseFee := fee }
  | .changeBlockReward reward =>
    if reward ≠ 0 then s else { s with tokenomics := { s.tokenomics with blockReward := 0 } }
  | .slashValidator address evidenceHash => s.governanceSlash M address evidenceHash
  | .parameterUpdate key value =>
    match M.updateParameter key value s.registry with
    | .ok registry => { s with registry }
    | .error _ => s
  | .whitelistVerifier address =>
    { s with aiRegistry := M.whitelistVerifier address s.aiRegistry }
  | .dewhitelistVerifier address =>
    { s with aiRegistry := M.dewhitelistVerifier address s.aiRegistry }
  | .verifyHubApp appId developer manifestId websiteUrlHash =>
    { s with budlumxyz := ((M.markVerifiedByProposal appId developer manifestId
        websiteUrlHash).run s.budlumxyz).2 }
  | .setEncryptionPolicy policy =>
    { s with marketplace := ((MarketplaceRegistry.setEncryptionPolicy policy).run
        s.marketplace).2 }
  | .setConstitutionParameter parameter =>
    { s with governance := ((M.setConstitutionParameter parameter).run s.governance).2 }
  | .unfreezeConsensusDomain _ => s

def runProposal (p : Proposal T) : AccountState T :=
  let s := s.executeProposal M p.kind
  { s with governance := M.markExecuted p.id s.governance }

/-- A validator whose jail term is over comes out, active again unless it was slashed. -/
def releasedFromJail (chainId epochIndex : ℕ) (v : Validator) : Validator :=
  if v.jailed && decide (v.jailUntil ≤ epochIndex) then
    { v with
      jailed := false
      active := decide (v.stake > 0) && !v.slashed && v.isConsensusReady &&
        v.verifyPopIsValid M.toModules chainId }
  else v

/-- The votes of the epoch are closed and the proposals that passed executed. -/
def closeEpochVotes : AccountState T :=
  let closed := M.closeVoting s.getTotalStake 33 s.epochIndex s.governance
  closed.1.foldl (runProposal M) { s with governance := closed.2 }

def burnReserve : AccountState T :=
  match s.burnReserveAddress with
  | some reserve => ((processTimedBurn 0 reserve : Exec (AccountState T) String ℕ).run s).2
  | none => s

def advanceEpoch (currentTimestamp chainId : ℕ) : AccountState T :=
  let s := s.closeEpochVotes M
  let s := { s with
    epochIndex := satAdd u64Max s.epochIndex 1
    lastEpochTime := currentTimestamp % (u64Max + 1) }
  let s := ((processUnbonding : Exec (AccountState T) String Unit).run s).2
  let s := { s with
    proofMarket := M.closeMarketEpoch s.epochIndex s.proofMarket
    validators := s.validators.mapValues fun _ => releasedFromJail M chainId s.epochIndex }
  s.burnReserve

end AccountState

end Budlum
