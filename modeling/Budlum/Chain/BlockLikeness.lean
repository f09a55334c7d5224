import Budlum.Chain.BlockEffects
import Budlum.Execution.Likeness

/-!
# What a block does not look at

`apply_block_effects` reads what transactions read and what the end of an epoch reads,
and still none of the header fields: on two states that are `Like` each other a block
has the same outcome and leaves states that are alike. The queue of domain unfreezes
only grows, by the same requests on both.
-/

namespace Budlum

open Machine AccountState Executor Exec Blockchain

variable {T : ModuleTypes} {L : AccountLedger → AccountLedger → Prop}
  {W : Address → Account → Prop} {ε : Type}

/-! ## The transactions -/

section

variable {M : Modules T} (hL : LedgerRel L W)
include hL

lemma respects_applyAll (transactions : List (Transaction T)) :
    Respects (Like L) (applyAll M transactions) := by
  induction transactions with
  | nil => exact .pure
  | cons tx rest ih => exact .bind (respects_applyTransactionChecked hL) fun _ => ih

lemma respects_payFees (producer : Option Address) (transactions : List (Transaction T)) :
    Respects (Like L) (payFees producer transactions) := by
  cases producer with
  | none => exact .pure
  | some producer =>
    change Respects (Like L) (payProducer producer transactions)
    induction transactions with
    | nil => exact .pure
    | cons tx rest ih =>
      exact .bind (respects_read fun _ _ _ => rfl) fun _ => .bind .ofOption fun _ =>
        .bind (.ite (.mapError hL.steps.tryAddBalance _) .pure) fun _ => ih

lemma respects_applyAction (action : GovernanceAction T) :
    Respects (Like L) (applyAction M action) := by
  cases action with
  | whitelistVerifier a => exact respects_modify (fun _ _ _ => rfl) fun _ => rfl
  | dewhitelistVerifier a => exact respects_modify (fun _ _ _ => rfl) fun _ => rfl
  | verifyHubApp appId => exact .fail
  | setEncryptionPolicy policy => exact hL.steps.onMarketplace
  | setConstitutionParameter parameter => exact hL.steps.onGovernance
  | unfreezeConsensusDomain domainId expectedValidatorSetHash justificationHash =>
    refine .modify ?_
    rintro s _ ⟨h, hl⟩
    exact .mk _ { h with pendingDomainUnfreezes := h.pendingDomainUnfreezes ++
      [⟨domainId, expectedValidatorSetHash, justificationHash⟩] } hl

lemma respects_applyBlockChecked (transactions : List (Transaction T))
    (producer : Option Address) :
    Respects (Like L) (applyBlockChecked M transactions producer) := by
  have hactions : ∀ actions, Respects (Like L) (applyActions M actions) := by
    intro actions
    induction actions with
    | nil => exact .pure
    | cons action rest ih => exact .bind (respects_applyAction hL action) fun _ => ih
  exact .bind (respects_applyAll hL _) fun _ => .bind (respects_payFees hL _ _) fun _ =>
    .bind (.bind (respects_read fun _ _ _ => rfl) fun _ =>
      .bind (respects_modify (fun _ _ _ => rfl) fun _ => rfl) fun _ => .pure) fun _ =>
    hactions _

end

/-! ## Slashing and the end of an epoch -/

section

variable {M : EpochModules T} {s t : AccountState T}

lemma Blind.foldl {α : Type} {f : AccountState T → α → AccountState T}
    (hf : ∀ a, Blind fun s => f s a) (as : List α) : Blind fun s => as.foldl f s := by
  induction as with
  | nil => exact ⟨fun _ _ _ => rfl, fun _ => rfl⟩
  | cons a as ih =>
    refine ⟨fun s l h => ?_, fun s => ?_⟩
    · rw [List.foldl_cons, List.foldl_cons, (hf a).recast]
      exact ih.recast (f s a) l h
    · rw [List.foldl_cons]
      exact (ih.ledger (f s a)).trans ((hf a).ledger s)

lemma blind_slashValidator (a : Address) (slashRatioFixed : ℕ) :
    Blind fun s => (s.slashValidator M a slashRatioFixed).2 := by
  refine ⟨fun s l h => ?_, fun s => ?_⟩
  · have hget : (s.recast l h).getValidator a = s.getValidator a := rfl
    unfold slashValidator
    rw [hget]
    cases s.getValidator a with
    | none => rfl
    | some v => dsimp only; split_ifs <;> rfl
  · unfold slashValidator
    cases s.getValidator a with
    | none => rfl
    | some v => dsimp only; split_ifs <;> rfl

lemma blind_governanceSlash (a : Address) (evidenceHash : Bytes) :
    Blind fun s => s.governanceSlash M a evidenceHash := by
  refine ⟨fun s l h => ?_, fun s => ?_⟩
  · have hget : (s.recast l h).getValidator a = s.getValidator a := rfl
    have hregistry : (s.recast l h).registry = s.registry := rfl
    unfold governanceSlash
    rw [hget, hregistry]
    split_ifs
    · cases s.getValidator a <;> rfl
    · rfl
  · unfold governanceSlash
    split_ifs
    · cases s.getValidator a <;> rfl
    · rfl

lemma blind_executeProposal (kind : ProposalKind T) :
    Blind fun s => s.executeProposal M kind := by
  cases kind with
  | changeBaseFee fee =>
    constructor <;> intros <;> simp only [executeProposal] <;> split_ifs <;> rfl
  | changeBlockReward reward =>
    constructor <;> intros <;> simp only [executeProposal] <;> split_ifs <;> rfl
  | slashValidator a evidenceHash => exact blind_governanceSlash a evidenceHash
  | parameterUpdate key value =>
    refine ⟨fun s l h => ?_, fun s => ?_⟩
    · have hregistry : (s.recast l h).registry = s.registry := rfl
      simp only [executeProposal, hregistry]
      cases M.updateParameter key value s.registry <;> rfl
    · simp only [executeProposal]
      cases M.updateParameter key value s.registry <;> rfl
  | whitelistVerifier a => exact ⟨fun _ _ _ => rfl, fun _ => rfl⟩
  | dewhitelistVerifier a => exact ⟨fun _ _ _ => rfl, fun _ => rfl⟩
  | verifyHubApp appId developer manifestId websiteUrlHash =>
    exact ⟨fun _ _ _ => rfl, fun _ => rfl⟩
  | setEncryptionPolicy policy => exact ⟨fun _ _ _ => rfl, fun _ => rfl⟩
  | setConstitutionParameter parameter => exact ⟨fun _ _ _ => rfl, fun _ => rfl⟩
  | unfreezeConsensusDomain domainId => exact ⟨fun _ _ _ => rfl, fun _ => rfl⟩

lemma blind_runProposal (p : Proposal T) : Blind fun s => s.runProposal M p := by
  have hexecute := blind_executeProposal (M := M) p.kind
  refine ⟨fun s l h => ?_, fun s => hexecute.ledger s⟩
  have hrecast := hexecute.recast s l h
  simp only [runProposal, hrecast]
  rfl

lemma blind_closeEpochVotes : Blind fun s => s.closeEpochVotes M := by
  refine ⟨fun s l h => ?_, fun s => ?_⟩
  · exact (Blind.foldl blind_runProposal _).recast { s with governance := _ } l h
  · exact (Blind.foldl blind_runProposal _).ledger { s with governance := _ }

section

variable (hL : LedgerRel L W)
include hL

lemma respects_processUnbonding :
    Respects (Like L) (processUnbonding : Exec (AccountState T) ε Unit) := by
  have hrelease : ∀ entries,
      Respects (Like L) (releaseEntries entries : Exec (AccountState T) ε Unit) := by
    intro entries
    induction entries with
    | nil => exact .pure
    | cons entry rest ih =>
      refine .bind (.bind hL.steps.tryAddBalance.attempt fun r => ?_) fun _ => ih
      rcases r with e | ⟨⟩
      · exact respects_modify (fun _ _ _ => rfl) fun _ => rfl
      · exact .pure
  refine hL.steps.read_bind (fun s l h _ hbalance => ?_) fun s => .bind
    (respects_modify (fun _ _ _ => rfl) fun _ => rfl) fun _ => hrelease _
  rw [hbalance]
  rfl

lemma respects_burnFrom (a : Address) (amount : ℕ) :
    Respects (Like L) (burnFrom a amount : Exec (AccountState T) ε ℕ) :=
  .ite .pure <| hL.steps.getOrCreate_bind fun _ hw =>
    .bind (hL.steps.writeAccount (hL.update hw _ _)) fun _ => .pure

lemma respects_processTimedBurn (genesisEpoch : ℕ) (reserve : Address) : Respects (Like L)
      (processTimedBurn genesisEpoch reserve : Exec (AccountState T) ε ℕ) := by
  have hyears : ∀ perYear outstanding total,
      Respects (Like L)
        (burnYears reserve perYear outstanding total : Exec (AccountState T) ε ℕ) := by
    intro perYear outstanding
    induction outstanding with
    | zero => exact fun total => .pure
    | succ outstanding ih =>
      exact fun total => .bind (respects_burnFrom hL _ _) fun _ => .ite .pure <|
        .bind (respects_modify (fun _ _ _ => rfl) fun _ => rfl) fun _ => ih _
  refine hL.steps.read_bind (fun _ _ _ _ _ => rfl) fun s =>
    hL.steps.read_bind (fun _ _ _ _ _ => rfl) fun t => .ite .pure ?_
  exact .bind (hyears _ _ _) fun _ =>
    .bind (respects_modify (fun _ _ _ => rfl) fun _ => rfl) fun _ => .pure

lemma like_advanceEpoch (h : Like L s t) (currentTimestamp chainId : ℕ) :
    Like L (s.advanceEpoch M currentTimestamp chainId)
      (t.advanceEpoch M currentTimestamp chainId) := by
  have hvotes : Like L (s.closeEpochVotes M) (t.closeEpochVotes M) := blind_closeEpochVotes.like h
  have hnext := Blind.like (f := fun s => { s with
    epochIndex := satAdd u64Max s.epochIndex 1
    lastEpochTime := currentTimestamp % (u64Max + 1) }) ⟨fun _ _ _ => rfl, fun _ => rfl⟩ hvotes
  have hunbonded := (respects_processUnbonding (ε := String) hL _ _ hnext).2
  have hreleased := Blind.like (f := fun s => { s with
    proofMarket := M.closeMarketEpoch s.epochIndex s.proofMarket
    validators := s.validators.mapValues fun _ => releasedFromJail M chainId s.epochIndex })
    ⟨fun _ _ _ => rfl, fun _ => rfl⟩ hunbonded
  refine (?_ : ∀ {s t : AccountState T}, Like L s t → Like L s.burnReserve t.burnReserve) hreleased
  intro s t h
  have hreserve : t.burnReserveAddress = s.burnReserveAddress := by
    obtain ⟨hp, hl⟩ := h
    rfl
  unfold burnReserve
  rw [hreserve]
  cases s.burnReserveAddress with
  | none => exact h
  | some reserve => exact (respects_processTimedBurn hL 0 reserve _ _ h).2

end

end

/-! ## The whole block -/

section

variable {M : ChainModules T} {s t : AccountState T}

lemma blind_punishAbsence (jailUntil : ℕ) (report : LivenessReport T) :
    Blind fun s => punishAbsence M jailUntil s report := by
  have hnone : ∀ s : AccountState T, s.getValidator report.offender = none →
      punishAbsence M jailUntil s report =
        { s with registry := M.slashFromReport report s.registry } := by
    intro s h
    unfold getValidator at h
    simp only [punishAbsence, getValidator, h]
  have hsome : ∀ (s : AccountState T) (v : Validator), s.getValidator report.offender = some v →
      punishAbsence M jailUntil s report =
        if v.slashed then { s with registry := M.slashFromReport report s.registry }
        else { s with
          registry := M.slashFromReport report s.registry
          validators := s.validators.insert report.offender (absent jailUntil v) } := by
    intro s v h
    unfold getValidator at h
    simp only [punishAbsence, getValidator, h]
  refine ⟨fun s l h => ?_, fun s => ?_⟩
  · cases hv : s.getValidator report.offender with
    | none =>
      rw [hnone s hv, hnone (s.recast l h) hv]
      rfl
    | some v =>
      rw [hsome s v hv, hsome (s.recast l h) v hv]
      split_ifs <;> rfl
  · cases hv : s.getValidator report.offender with
    | none => rw [hnone s hv]
    | some v =>
      rw [hsome s v hv]
      split_ifs <;> rfl

lemma blind_applyEpochCloseLiveness (block : Block T) (precedingChain : List (Block T)) :
    Blind fun s =>
      applyEpochCloseLiveness M s block precedingChain := by
  by_cases hcloses : Blockchain.ClosesEpoch block
  · refine ⟨fun s l h => ?_, fun s => ?_⟩
    · have hregistry : (s.recast l h).registry = s.registry := rfl
      have hvalidators : (s.recast l h).validators = s.validators := rfl
      have hliveness : (s.recast l h).liveness = s.liveness := rfl
      simp only [applyEpochCloseLiveness, if_pos hcloses, hregistry, hvalidators, hliveness]
      generalize M.recordEpoch _ _ _ _ _ = recorded
      cases M.livenessSlashingEnabled s.registry with
      | false => rfl
      | true =>
        exact (Blind.foldl (blind_punishAbsence (M := M) _) recorded.1).recast
          { s with liveness := recorded.2 } l h
    · simp only [applyEpochCloseLiveness, if_pos hcloses]
      cases M.livenessSlashingEnabled s.registry with
      | false => rfl
      | true => exact (Blind.foldl (blind_punishAbsence _) _).ledger { s with liveness := _ }
  · constructor <;> intros <;> simp only [applyEpochCloseLiveness, if_neg hcloses]

lemma blind_slashOffenders (block : Block T) : Blind fun s => slashOffenders M s block := by
  unfold slashOffenders
  cases block.slashingEvidence with
  | none => exact ⟨fun _ _ _ => rfl, fun _ => rfl⟩
  | some evidences =>
    have hfold : ∀ ratio, Blind fun s => s.applySlashing M evidences ratio := by
      intro ratio
      refine Blind.foldl (fun evidence => ?_) evidences
      cases evidence.header1.producer with
      | none => exact ⟨fun _ _ _ => rfl, fun _ => rfl⟩
      | some producer => exact blind_slashValidator producer ratio
    exact ⟨fun s l h => (hfold (M.doubleSignRatio s.registry)).recast s l h,
      fun s => (hfold (M.doubleSignRatio s.registry)).ledger s⟩

lemma like_applySystemEffects (hL : LedgerRel L W) (h : Like L s t) (block : Block T) :
    Like L (applySystemEffects M s block) (applySystemEffects M t block) := by
  have hfee : ∀ count, Blind fun s : AccountState T => adjustBaseFee s count := by
    intro count
    constructor <;> intros <;> simp only [adjustBaseFee] <;> split_ifs <;> rfl
  have hslashed : Like L (slashOffenders M s block)
      (slashOffenders M t block) := (blind_slashOffenders block).like h
  unfold applySystemEffects
  dsimp only
  split_ifs
  · exact (hfee _).like (like_advanceEpoch hL hslashed _ _)
  · exact (hfee _).like hslashed
  · exact like_advanceEpoch hL hslashed _ _
  · exact hslashed

section

variable (hL : LedgerRel L W)
include hL

lemma respects_applyBridgeSweepToState (currentHeight : ℕ) :
    Respects (Like L) (applyBridgeSweepToState M.toModules currentHeight) := by
  have hrefund : ∀ released,
      Respects (Like L) (refundReleased M.toModules released) := by
    intro released
    induction released with
    | nil => exact .pure
    | cons release rest ih =>
      exact .bind .failIf fun _ => .bind (.mapError hL.steps.tryAddBalance _) fun _ => ih
  exact .bind (respects_read fun _ _ _ => rfl) fun _ =>
    .bind (respects_modify (fun _ _ _ => rfl) fun _ => rfl) fun _ =>
    .bind (hrefund _) fun _ => .pure

lemma respects_distributeBudBoostShareInState (boostShare : ℕ) :
    Respects (Like L) (distributeBudBoostShareInState M boostShare) := by
  have hpay : ∀ totalWeight deals distributed,
      Respects (Like L)
        (payOperators M boostShare totalWeight distributed deals) := by
    intro totalWeight deals
    induction deals with
    | nil => exact fun _ => .pure
    | cons deal rest ih =>
      exact fun distributed => .bind .ofOption fun _ => .ite
        (.bind (.mapError hL.steps.tryAddBalance _) fun _ =>
          .bind .ofOption fun _ => ih _) (ih _)
  have hdust : ∀ dust deals,
      Respects (Like L) (payDust dust deals : Exec (AccountState T) String Unit) :=
    fun dust deals => .ite (.bind .ofOption fun _ =>
      .mapError hL.steps.tryAddBalance _) .pure
  refine .ite .pure <| .bind (respects_read fun _ _ _ => rfl) fun deals => .ite
    (respects_modify (fun _ _ _ => rfl) fun _ => rfl) <| .bind (hpay _ _ _) fun _ =>
    .bind (hdust _ _) fun _ => respects_modify (fun _ _ _ => rfl) fun _ => rfl

lemma respects_applyBlockEffects (block : Block T) (precedingChain : List (Block T)) :
    Respects (Like L) (applyBlockEffects M block precedingChain) :=
  .bind (respects_read fun _ _ _ => rfl) fun _ =>
    .bind (respects_modify (fun _ _ _ => rfl) fun _ => rfl) fun _ =>
    .bind (.mapError (respects_applyBlockChecked hL _ _) _) fun _ =>
    .bind (.modify fun _ _ h => like_applySystemEffects hL h block) fun _ =>
    .bind (.modify fun _ _ h => (blind_applyEpochCloseLiveness block precedingChain).like h)
      fun _ => .bind (respects_modify (fun _ _ _ => rfl) fun _ => rfl) fun _ =>
    .bind (respects_applyBridgeSweepToState hL _) fun _ =>
    .bind (respects_read fun _ _ _ => rfl) fun _ => respects_distributeBudBoostShareInState hL _

end

/-- Blocks read neither the cached account tree nor the roots of a header: states that differ
in these take the same blocks and have the same accounts after them. -/
theorem blocks_ignore_cache (s : AccountState T) (l : { l // SameAccounts s.ledger l })
    (h : HeaderPart) (blocks : List (Block T × List (Block T))) :
    let run := (blocks.forM fun b => applyBlockEffects M b.1 b.2).run
    (run s).1 = (run (s.recast l h)).1 ∧
      ∀ a, (run (s.recast l h)).2.account a = (run s).2.account a := by
  have hrel := LedgerLike.sameAccounts.rel
  have hall : Respects (Like SameAccounts)
      (blocks.forM fun b => applyBlockEffects M b.1 b.2) := by
    induction blocks with
    | nil => exact .pure
    | cons b rest ih => exact .bind (respects_applyBlockEffects hrel b.1 b.2) fun _ => ih
  obtain ⟨hsame, hlike⟩ := hall s _ (.mk s h l.2)
  exact ⟨hsame, hlike.account hrel⟩

end

end Budlum
