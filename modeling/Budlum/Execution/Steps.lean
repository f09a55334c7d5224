import Budlum.Execution.Executor

/-!
# What every step of the executor keeps

The arms of the executor are made of few steps: an account is read and written back, a
validator or a registry is written, and things are checked. A relation between states that
each of these steps keeps (`StepRel`) is kept by every transaction. That execution cannot tell
like states apart, and that it stays in range, are two instances.
-/

namespace Budlum

open Machine Exec Nat

/-- What no transaction reads. -/
structure HeaderPart where
  pendingDomainUnfreezes : List PendingDomainUnfreeze
  bridgeRoot : Hash32
  messageRoot : Hash32
  settlementRoot : Hash32
  globalHeaderSummary : Hash32

namespace AccountState

variable {T : ModuleTypes}

/-- The state with another account map and other header fields. -/
def recast (s : AccountState T) (ledger : AccountLedger) (h : HeaderPart) : AccountState T :=
  { s with
    ledger
    pendingDomainUnfreezes := h.pendingDomainUnfreezes
    bridgeRoot := h.bridgeRoot
    messageRoot := h.messageRoot
    settlementRoot := h.settlementRoot
    globalHeaderSummary := h.globalHeaderSummary }

/-- An assignment beside the accounts, the header fields, the validators and the boost share. -/
def Beside (f : AccountState T → AccountState T) : Prop :=
  ∀ s l h, f (s.recast l h) = (f s).recast l h ∧ (f s).ledger = s.ledger ∧
    (f s).validators = s.validators ∧ (f s).pendingBudBoostShare = s.pendingBudBoostShare

end AccountState

open AccountState

/-- A relation between states that the steps of the executor keep. Only accounts are written of
which `W` holds, as it does of every account that is read and of what becomes of it, and only
stakes of which `S` holds. -/
structure StepRel {T : ModuleTypes} (R : AccountState T → AccountState T → Prop)
    (W : Address → Account → Prop) (S : ℕ → Prop) : Prop where
  recast : ∀ {s t}, R s t → ∃ l h, t = s.recast l h
  account : ∀ {s t}, R s t → ∀ a, t.account a = s.account a
  touch : ∀ {s t}, R s t → ∀ a, R (s.touch a) (t.touch a)
  readable : ∀ {s t}, R s t → ∀ a, W a (s.account a)
  update : ∀ {a account}, W a account → ∀ {balance} nonce,
    (account.balance ≤ u64Max → balance ≤ u64Max) → W a ⟨account.publicKey, balance, nonce⟩
  write : ∀ {s t}, R s t → ∀ a {account}, W a account →
    R (s.setAccount a account) (t.setAccount a account)
  flagKeys : ∀ {s t}, R s t → R { s with ledger := { s.ledger with keysDirty := true } }
    { t with ledger := { t.ledger with keysDirty := true } }
  stake : ∀ {s t}, R s t → ∀ {a v}, s.getValidator a = some v → S v.stake
  bounded : ∀ {n}, n ≤ u64Max → S n
  lower : ∀ {m n}, S m → n ≤ m → S n
  validator : ∀ {s t}, R s t → ∀ a {v}, S v.stake →
    R { s with validators := s.validators.insert a v }
      { t with validators := t.validators.insert a v }
  share : ∀ {s t}, R s t → ∀ {share}, share ≤ u64Max →
    R { s with pendingBudBoostShare := share } { t with pendingBudBoostShare := share }
  beside : ∀ {s t}, R s t → ∀ {f}, Beside f → R (f s) (f t)

namespace StepRel

open Executor

variable {T : ModuleTypes} {M : Modules T} {tx : Transaction T} {ε α β : Type}
  {R : AccountState T → AccountState T → Prop} {W : Address → Account → Prop} {S : ℕ → Prop}
  (hR : StepRel R W S)
include hR

variable {s t : AccountState T}

lemma getBalance (h : R s t) : t.getBalance = s.getBalance := by
  funext a
  rw [getBalance_eq, getBalance_eq, hR.account h]

lemma spendableBalance (h : R s t) : t.spendableBalance = s.spendableBalance := by
  funext a
  have hbalance := congrFun (hR.getBalance h) a
  obtain ⟨l, hp, rfl⟩ := hR.recast h
  unfold spendableBalance
  rw [hbalance]
  rfl

/-! ## The steps -/

variable {a : Address}

lemma getOrCreate_bind {g : Account → Exec (AccountState T) ε β}
    (hg : ∀ account, W a account → Respects R (g account)) : Respects R (getOrCreate a >>= g) := by
  intro s t hst
  have htouch : R (s.touch a) (t.touch a) := hR.touch hst a
  have haccount : (t.touch a).ledger.account a = (s.touch a).ledger.account a :=
    hR.account htouch a
  change (g ((s.touch a).ledger.account a) (s.touch a)).1 =
      (g ((t.touch a).ledger.account a) (t.touch a)).1 ∧
    R (g ((s.touch a).ledger.account a) (s.touch a)).2
      (g ((t.touch a).ledger.account a) (t.touch a)).2
  rw [haccount]
  exact hg _ (hR.readable htouch a) _ _ htouch

protected lemma writeAccount {account : Account} (hw : W a account) :
    Respects R (writeAccount a account : Exec (AccountState T) ε Unit) :=
  .modify fun _ _ hst => hR.write hst a hw

protected lemma tryAddBalance {amount : ℕ} :
    Respects R (tryAddBalance a amount : Exec (AccountState T) String Unit) :=
  hR.getOrCreate_bind fun _ hw => .ofOption_bind fun _ hsum =>
    hR.writeAccount (hR.update hw _ fun _ => le_of_checkedAdd hsum)

protected lemma debit {amount : ℕ} {message : String} :
    Respects R (debit a amount message : Effect T Unit) :=
  hR.getOrCreate_bind fun _ hw => .ofOption_bind fun _ hdiff =>
    hR.writeAccount (hR.update hw _ (le_of_checkedSub hdiff).trans)

protected lemma credit {amount : ℕ} {error : BudlumError} :
    Respects R (credit a amount error : Effect T Unit) :=
  hR.getOrCreate_bind fun _ hw => .ofOption_bind fun _ hsum =>
    hR.writeAccount (hR.update hw _ fun _ => le_of_checkedAdd hsum)

protected lemma payVerifiers {maxFee count i : ℕ} {verifiers : List Address} :
    Respects R (payVerifiers maxFee count i verifiers : Effect T Unit) := by
  induction verifiers generalizing i with
  | nil => exact .pure
  | cons verifier rest ih => exact .bind hR.credit fun _ => ih

lemma modify {f : AccountState T → AccountState T} (hf : Beside f) :
    Respects R (modify f : Exec (AccountState T) ε Unit) :=
  .modify fun _ _ hst => hR.beside hst hf

lemma zoom {ρ ε' : Type} {get : AccountState T → ρ} {put : AccountState T → ρ → AccountState T}
    {g : ε' → ε} {x : ρ → Except ε' α × ρ} (hget : ∀ s l h, get (s.recast l h) = get s)
    (hput : ∀ r, Beside fun s => put s r) : Respects R (zoom get put g x) := by
  refine .zoom (fun s t hst => ?_) fun s t r hst => hR.beside hst (hput r)
  obtain ⟨l, h, rfl⟩ := hR.recast hst
  exact (hget s l h).symm

lemma read_bind {g : AccountState T → Exec (AccountState T) ε β}
    (h : ∀ s l h, (s.recast l h).spendableBalance = s.spendableBalance →
      (s.recast l h).getBalance = s.getBalance → g (s.recast l h) = g s)
    (hg : ∀ s, Respects R (g s)) : Respects R (read id >>= g) := by
  refine .read_bind ?_ hg
  intro s t hst
  have hspendable := hR.spendableBalance hst
  have hbalance := hR.getBalance hst
  obtain ⟨l, hp, rfl⟩ := hR.recast hst
  exact (h s l hp hspendable hbalance).symm

lemma read {g : AccountState T → α} (h : ∀ s l h, g (s.recast l h) = g s) :
    Respects R (read g : Exec (AccountState T) ε α) := by
  refine .read fun s t hst => ?_
  obtain ⟨l, hp, rfl⟩ := hR.recast hst
  exact (h s l hp).symm

lemma spendable : Respects R (Exec.read fun s => s.spendableBalance a : Effect T ℕ) :=
  .read fun _ _ h => (congrFun (hR.spendableBalance h) a).symm

lemma getValidator_bind {g : Option Validator → Effect T β}
    (hg : ∀ current : Option Validator, (∀ v ∈ current, S v.stake) → Respects R (g current)) :
    Respects R ((Exec.read fun s => s.getValidator a) >>= g) := by
  intro s t hst
  have hstake : ∀ v ∈ s.getValidator a, S v.stake := fun v hv => hR.stake hst hv
  have hget : t.getValidator a = s.getValidator a := by
    obtain ⟨l, hp, rfl⟩ := hR.recast hst
    rfl
  change (g (s.getValidator a) s).1 = (g (t.getValidator a) t).1 ∧
    R (g (s.getValidator a) s).2 (g (t.getValidator a) t).2
  rw [hget]
  exact hg _ hstake s t hst

protected lemma setValidator {v : Validator} (hv : S v.stake) :
    Respects R (setValidator a v : Effect T Unit) :=
  .modify fun _ _ hst => hR.validator hst a hv

protected lemma addValidator {stake : ℕ} (h : S stake) :
    Respects R (Exec.modify fun s => s.addValidator M a stake : Effect T Unit) := by
  refine .modify fun s t hst => ?_
  have hinsert := hR.validator hst a (v := Validator.new a stake) h
  exact hR.flagKeys (hR.beside hinsert (f := fun s => s.syncValidatorRegistration M a)
    fun _ _ _ => ⟨rfl, rfl, rfl, rfl⟩)

section

variable {code : String}

protected lemma onBns {x : Exec BnsRegistry BnsError α} :
    Respects R (onBns code x : Effect T α) :=
  hR.zoom (fun _ _ _ => rfl) fun _ _ _ _ => ⟨rfl, rfl, rfl, rfl⟩

protected lemma onNft {x : Exec NftRegistry NftError α} :
    Respects R (onNft code x : Effect T α) :=
  hR.zoom (fun _ _ _ => rfl) fun _ _ _ _ => ⟨rfl, rfl, rfl, rfl⟩

protected lemma onMarketplace {x : Exec MarketplaceRegistry String α} :
    Respects R (onMarketplace code x : Effect T α) :=
  hR.zoom (fun _ _ _ => rfl) fun _ _ _ _ => ⟨rfl, rfl, rfl, rfl⟩

protected lemma onBridge {x : Exec BridgeState String α} :
    Respects R (onBridge code x : Effect T α) :=
  hR.zoom (fun _ _ _ => rfl) fun _ _ _ _ => ⟨rfl, rfl, rfl, rfl⟩

protected lemma onAi {x : Exec T.AiRegistry String α} : Respects R (onAi code x : Effect T α) :=
  hR.zoom (fun _ _ _ => rfl) fun _ _ _ _ => ⟨rfl, rfl, rfl, rfl⟩

protected lemma onHub {x : Exec T.HubRegistry String α} :
    Respects R (onHub code x : Effect T α) :=
  hR.zoom (fun _ _ _ => rfl) fun _ _ _ _ => ⟨rfl, rfl, rfl, rfl⟩

protected lemma onNotes {x : Exec T.NoteRegistry String α} :
    Respects R (onNotes code x : Effect T α) :=
  hR.zoom (fun _ _ _ => rfl) fun _ _ _ _ => ⟨rfl, rfl, rfl, rfl⟩

protected lemma onGovernance {x : Exec T.Governance String α} :
    Respects R (onGovernance code x : Effect T α) :=
  hR.zoom (fun _ _ _ => rfl) fun _ _ _ _ => ⟨rfl, rfl, rfl, rfl⟩

end

protected lemma onRegistry {ε' : Type} {f : ε' → ε} {x : Exec T.Registry ε' α} :
    Respects R (onRegistry f x : Exec (AccountState T) ε α) :=
  hR.zoom (fun _ _ _ => rfl) fun _ _ _ _ => ⟨rfl, rfl, rfl, rfl⟩

/-! ## The arms -/

protected lemma applyTransfer : Respects R (applyTransfer tx) :=
  .bind hR.spendable fun _ => .guard <| .bind hR.debit fun _ => hR.credit

protected lemma applyStake (hamount : S tx.amount) : Respects R (applyStake M tx) := by
  refine .bind hR.debit fun _ => hR.getValidator_bind fun current _ =>
    .bind ?_ fun _ => hR.modify fun _ _ _ => ⟨rfl, rfl, rfl, rfl⟩
  cases current with
  | some v =>
    exact .ofOption_bind fun _ hsum => hR.setValidator (hR.bounded (le_of_checkedAdd hsum))
  | none => exact .bind (hR.addValidator hamount) fun _ => hR.setValidator hamount

protected lemma applyUnstake : Respects R (applyUnstake M tx) :=
  hR.getValidator_bind fun _ hstake => .ofOption_bind fun v hv => .guard <|
    .bind (hR.modify fun _ _ _ => ⟨rfl, rfl, rfl, rfl⟩) fun _ => .ofOption_bind fun _ hdiff =>
    .bind (hR.setValidator (hR.lower (hstake v hv) (le_of_checkedSub hdiff))) fun _ =>
    .bind (hR.modify fun _ _ _ => ⟨rfl, rfl, rfl, rfl⟩) fun _ =>
    .bind (hR.modify fun _ _ _ => ⟨rfl, rfl, rfl, rfl⟩) fun _ => hR.debit

protected lemma applyVote : Respects R (applyVote M tx) := by
  refine .bind (hR.read fun _ _ _ => rfl) fun _ => .guard <| .bind hR.debit fun _ =>
    .ite ?_ (.ite .pure (.ite ?_ ?_))
  · refine hR.getValidator_bind fun current hstake => ?_
    cases current with
    | some v =>
      refine hR.setValidator ?_
      unfold countVote
      split_ifs
      · exact hstake v rfl
      · exact hstake v rfl
    | none => exact .pure
  · exact hR.read_bind (fun _ _ _ _ _ => rfl) fun _ => .guard <| .ite hR.onGovernance .pure
  · exact hR.read_bind (fun _ _ _ _ _ => rfl) fun _ => .except fun _ => .guard <| hR.onGovernance

protected lemma bondLubotOperator {amount chainId : ℕ} :
    Respects R (bondLubotOperator M a amount chainId) := by
  refine hR.read_bind (fun s l h hspendable _ => ?_) fun _ => .guard <| .bind hR.onRegistry fun _ =>
    hR.getOrCreate_bind fun _ hw =>
    .bind (hR.writeAccount (hR.update hw _ (sub_le _ _).trans)) fun _ => .pure
  rw [hspendable]
  rfl

protected lemma applyLubotOperatorBond : Respects R (applyLubotOperatorBond M tx) := by
  refine hR.read_bind (fun s l h hspendable _ => ?_) fun _ => .guard <| .guard <| .guard <|
    .bind (.mapError hR.bondLubotOperator _) fun _ => .bind (.attempt hR.onAi) fun _ => hR.debit
  rw [hspendable]
  rfl

protected lemma applyLubotOperatorUnbond : Respects R (applyLubotOperatorUnbond M tx) := by
  have hunbond : Respects R (beginLubotOperatorUnbonding M tx.sender) :=
    hR.read_bind (fun _ _ _ _ _ => rfl) fun _ => .guard <| hR.onRegistry
  exact .guard <| .bind (.mapError hunbond _) fun _ => hR.debit

protected lemma applyLubotOperatorWithdraw : Respects R (applyLubotOperatorWithdraw M tx) := by
  refine .guard <| .bind (.mapError ?_ _) fun _ => .pure
  refine hR.read_bind (fun s l h _ hbalance => ?_) fun _ => .option fun _ =>
    .ofOption_bind fun _ hfinal => .bind hR.onRegistry fun _ => hR.getOrCreate_bind fun _ hw =>
    .bind (hR.writeAccount (hR.update hw _ fun _ => ?_)) fun _ => .pure
  · rw [hbalance]
    rfl
  · obtain ⟨_, hsum, hdiff⟩ := Option.bind_eq_some_iff.mp hfinal
    exact (le_of_checkedSub hdiff).trans (le_of_checkedAdd hsum)

protected lemma admitRequest {req : AiInferenceRequest T} : Respects R (admitRequest M tx req) :=
  hR.read_bind (fun _ _ _ _ _ => rfl) fun _ => .except fun _ => hR.onMarketplace

protected lemma consumeGrant {grant : Option Id32} {currentBlock : ℕ} :
    Respects R (consumeGrant tx grant currentBlock) := by
  cases grant with
  | some grantId => exact hR.onMarketplace
  | none => exact .pure

protected lemma escrowRequest {modelWord maxFee blocks : ℕ} :
    Respects R (escrowRequest M tx modelWord maxFee blocks) := by
  refine hR.read_bind (fun _ _ _ _ _ => rfl) fun s => .bind hR.admitRequest fun grant =>
    .bind hR.spendable fun _ => .guard <| .bind (.attempt hR.onAi) fun outcome => ?_
  cases outcome with
  | ok _ =>
    exact .bind hR.consumeGrant fun _ => hR.getOrCreate_bind fun _ hw =>
      .ofOption_bind fun _ hdiff => hR.writeAccount (hR.update hw _ (le_of_checkedSub hdiff).trans)
  | error _ => exact .pure

protected lemma applyContractCall : Respects R (applyContractCall M tx) := by
  refine .except fun events => .bind ?_ fun _ => hR.debit
  unfold handleEvents
  split
  · exact .ite hR.escrowRequest .pure
  · exact .pure

protected lemma applyBnsRegister : Respects R (applyBnsRegister M tx) :=
  .except fun _ => hR.read_bind (fun _ _ _ _ _ => rfl) fun _ =>
    .guard <| .bind hR.onBns fun _ =>
    hR.getOrCreate_bind fun _ hw => .ofOption_bind fun _ hfirst =>
    .ofOption_bind fun _ hsecond => hR.writeAccount
      (hR.update hw _ ((le_of_checkedSub hsecond).trans (le_of_checkedSub hfirst)).trans)

protected lemma applyNftBoost {nftId amount : ℕ} :
    Respects R (applyNftBoost tx nftId amount) := by
  refine .guard <| .bind (hR.read fun _ _ _ => rfl) fun _ =>
    .option fun nft => hR.getOrCreate_bind fun _ hw =>
    .option fun _ => .guard <| .bind (hR.writeAccount
      (hR.update hw _ ((sub_le _ _).trans (sub_le _ _)).trans)) fun _ =>
    .bind hR.credit fun _ =>
    .bind (hR.read fun _ _ _ => rfl) fun _ => .ofOption_bind fun _ hshare =>
    .bind (.modify fun _ _ hst => hR.share hst (le_of_checkedAdd hshare)) fun _ =>
    .bind (hR.read fun _ _ _ => rfl) fun treasury => ?_
  cases treasury with
  | some treasury => exact .ite hR.credit .pure
  | none => exact .pure

protected lemma creditBridge {amount : ℕ} {code : String} :
    Respects R (creditBridge a amount code : Effect T Unit) :=
  .mapError hR.tryAddBalance _

protected lemma relayMint {msg : CrossDomainMessage} : Respects R (relayMint M tx msg) :=
  .bind hR.onBridge fun _ => hR.read_bind (fun _ _ _ _ _ => rfl) fun _ => .option fun _ =>
    .except fun _ => .guard <| .guard <| .bind hR.creditBridge fun _ => .ite hR.creditBridge .pure

protected lemma relayUnlock {msg : CrossDomainMessage} : Respects R (relayUnlock M tx msg) :=
  .option fun _ => .bind (hR.read fun _ _ _ => rfl) fun _ => .option fun _ =>
    .bind hR.onBridge fun _ => hR.read_bind (fun _ _ _ _ _ => rfl) fun _ => .except fun _ =>
    .guard <| .bind hR.creditBridge fun _ => .ite hR.creditBridge .pure

protected lemma applyRelayerResult {res : RelayerExternalResult} :
    Respects R (applyRelayerResult M tx res) := by
  have hreceipt : Respects R (checkReceipt M res) :=
    .guard <| .guard <| .bind (hR.read fun _ _ _ => rfl) fun _ => .guard <| .except fun _ =>
      .guard <| .failIf
  refine .bind hreceipt fun _ => .bind ?_ fun _ => hR.debit
  unfold settleMessage
  split
  · refine .ite ?_ .pure
    split
    · exact hR.relayMint
    · exact hR.relayUnlock
    · exact .pure
  · exact .pure

protected lemma applyAiInferenceRequest {req : AiInferenceRequest T} :
    Respects R (applyAiInferenceRequest M tx req) := by
  refine hR.read_bind (fun s l h hspendable _ => ?_) fun _ =>
    .option fun _ => .guard <| .bind hR.admitRequest fun _ => .bind hR.onAi fun _ =>
    .bind hR.consumeGrant fun _ => .option fun _ =>
    .bind hR.spendable fun _ => .guard <| hR.getOrCreate_bind fun _ hw =>
      .ofOption_bind fun _ hfirst =>
    .ofOption_bind fun _ hsecond => hR.writeAccount
      (hR.update hw _ ((le_of_checkedSub hsecond).trans (le_of_checkedSub hfirst)).trans)
  rw [hspendable]
  rfl

protected lemma publishOutput {requester : Address} {res : AiInferenceResult T} :
    Respects R (publishOutput M requester res) :=
  .bind (hR.read fun _ _ _ => rfl) fun _ => .bind (.attempt hR.onNft) fun _ =>
    .bind (.attempt hR.onMarketplace) fun _ => .pure

protected lemma settleOutcome {res : AiInferenceResult T} {outcome : Option AiOutcome} :
    Respects R (settleOutcome M res outcome) := by
  refine hR.read_bind (fun _ _ _ _ _ => rfl) fun s => ?_
  cases outcome with
  | none => exact .pure
  | some finalized =>
    dsimp only
    split
    · exact .bind hR.payVerifiers fun _ => hR.publishOutput
    · exact .pure

protected lemma applyAiInferenceResult {res : AiInferenceResult T} :
    Respects R (applyAiInferenceResult M tx res) := by
  refine hR.read_bind (fun _ _ _ _ _ => rfl) fun _ => .guard <|
    .bind (.bind (.attempt hR.onAi) ?_) fun _ => .bind hR.settleOutcome fun _ => hR.debit
  rintro (e | outcome)
  · exact .ite .pure .fail
  · exact .pure

protected lemma applyAiAgentPayment {payment : AgentPayment T} :
    Respects R (applyAiAgentPayment M tx payment) := by
  refine hR.read_bind (fun s l h hspendable _ => ?_) fun _ => .guard <| .option fun _ => .guard <|
    .bind hR.onAi fun _ => .bind hR.debit fun _ => .ite .pure <| .bind hR.credit fun _ => hR.onAi
  rw [hspendable]
  rfl

protected lemma checkExecutionProof {requestId : Id32} {proof : AiExecutionProof T} :
    Respects R (checkExecutionProof M tx requestId proof) := by
  have hrequired : ∀ spec, Respects R (checkRequiredProof M spec proof) := fun _ =>
    .option fun _ => .option fun _ => .guard <| .guard <| .except fun _ => .ofExcept
  have hproof : ∀ model, Respects R (checkModelProof M model proof) := by
    rintro (_ | spec)
    · exact .pure
    · exact .ite (hrequired spec) .pure
  have hclass : ∀ spec size, Respects R (checkClassLimit M spec size) := by
    intro spec size
    refine .ite .pure ?_
    split
    · exact .option fun _ => .failIf
    · exact .pure
  have hsize : ∀ model size, Respects R (checkModelSize M model size) := by
    rintro (_ | spec) size
    · exact .pure
    · refine .bind (hclass spec size) fun _ => ?_
      split
      · exact .ofExcept
      · exact .pure
  exact hR.read_bind (fun _ _ _ _ _ => rfl) fun _ => .guard <| .option fun _ => .option fun _ =>
    .option fun _ => .bind (hproof _) fun _ => .guard <| .guard <| .bind (hsize _ _) fun _ =>
    .option fun _ => .except fun _ => .failIf

/-- Every arm keeps the relation. -/
protected lemma applyArm (hamount : S tx.amount) : Respects R (applyArm M tx) := by
  have hfee : ∀ message, Respects R (chargeFee tx message) := fun _ => hR.debit
  unfold applyArm
  cases tx.txType with
  | transfer => exact hR.applyTransfer
  | stake => exact hR.applyStake hamount
  | registerConsensusKeys =>
    exact .guard <| .except fun _ => hR.getValidator_bind fun _ hstake => .ofOption_bind fun v hv =>
      .guard <| .bind (hR.setValidator (hstake v hv)) fun _ => hR.debit
  | lubotOperatorBond => exact hR.applyLubotOperatorBond
  | lubotOperatorUnbond => exact hR.applyLubotOperatorUnbond
  | lubotOperatorWithdraw => exact hR.applyLubotOperatorWithdraw
  | unstake => exact hR.applyUnstake
  | vote => exact hR.applyVote
  | contractCall => exact hR.applyContractCall
  | bnsRegister => exact hR.applyBnsRegister
  | bnsSetContent | bnsRegisterSubdomain =>
    exact .except fun _ => .bind hR.onBns fun _ => hfee _
  | bnsSetStorage =>
    exact .except fun _ => .bind (hR.read fun _ _ _ => rfl) fun _ => .bind hR.onBns fun _ => hfee _
  | nftMint =>
    exact .except fun _ => .bind (hR.read fun _ _ _ => rfl) fun _ => .bind hR.onNft fun _ => hfee _
  | nftTransfer | nftBurn =>
    exact .except fun _ => .bind hR.onNft fun _ => hfee _
  | nftBoost nftId amount => exact hR.applyNftBoost
  | nftUpdateLight nftId deltaMcd =>
    exact .bind (hR.read fun _ _ _ => rfl) fun _ => .option fun _ =>
      .guard <| .bind hR.onNft fun _ => hfee _
  | nftTag | universalRelay => exact hfee _
  | relayerResult res => exact hR.applyRelayerResult
  | aiOfferData cid price => exact .bind hR.onMarketplace fun _ => hfee _
  | aiPurchaseData =>
    exact .bind (hR.read fun _ _ _ => rfl) fun _ => .option fun _ => .guard <|
      .bind hR.onMarketplace fun _ => .option fun _ => .bind hR.spendable fun _ => .guard <|
      .bind hR.debit fun _ => hR.credit
  | budlumxyzRegisterApp =>
    exact .guard <| .bind (hR.read fun _ _ _ => rfl) fun _ => .bind hR.onHub fun _ =>
      hR.getOrCreate_bind fun _ hw => .option fun _ => .guard <|
      hR.writeAccount (hR.update hw _ ((sub_le _ _).trans (sub_le _ _)).trans)
  | budlumxyzAttestApp appId => exact .bind hR.onHub fun _ => hfee _
  | aiModelRegister =>
    exact hR.read_bind (fun _ _ _ _ _ => rfl) fun _ => .guard <| .bind hR.onAi fun _ =>
      hR.getOrCreate_bind fun _ hw => .option fun _ => .guard <|
      hR.writeAccount (hR.update hw _ (sub_le _ _).trans)
  | aiInferenceRequest req => exact hR.applyAiInferenceRequest
  | aiInferenceResult res => exact hR.applyAiInferenceResult
  | aiFeeReclaim =>
    exact .bind (hR.read fun _ _ _ => rfl) fun _ => .bind hR.onAi fun _ => .guard <|
      .bind hR.credit fun _ => hR.debit
  | aiModelDeactivate modelId | aiModelReactivate modelId =>
    exact .bind hR.onAi fun _ => hfee _
  | aiRequestCancel =>
    exact .bind (hR.read fun _ _ _ => rfl) fun _ => .bind hR.onAi fun _ =>
      .bind hR.credit fun _ => hR.debit
  | pollenRegisterDataAsset payload | pollenAuthorizeSale payload | pollenGrantAccess payload =>
    exact .guard <| .bind hR.onMarketplace fun _ => hfee _
  | pollenRevokeGrant id | pollenRevokeDataAsset id =>
    exact .bind hR.onMarketplace fun _ => hfee _
  | aiDisputeSlash =>
    exact hR.read_bind (fun _ _ _ _ _ => rfl) fun _ => .guard <| .bind hR.onAi fun _ =>
      .bind hR.onRegistry fun _ => hR.debit
  | aiAgentPayment payment => exact hR.applyAiAgentPayment
  | aiAgentPaymentRelease =>
    exact hR.read_bind (fun _ _ _ _ _ => rfl) fun _ => .option fun _ => .bind hR.onAi fun _ =>
      .bind hR.credit fun _ => hR.debit
  | aiAgentPaymentReclaim =>
    exact .bind (hR.read fun _ _ _ => rfl) fun _ => .bind hR.onAi fun _ =>
      hR.getOrCreate_bind fun _ hw => .ofOption_bind fun _ hsum => .guard <|
      hR.writeAccount (hR.update hw _ fun _ => (sub_le _ _).trans (le_of_checkedAdd hsum))
  | privacyNoteInsert commitment =>
    exact .guard <| .bind hR.onNotes fun _ => hfee _
  | privateTransferSubmit sub =>
    exact .guard <| .except fun _ => .guard <| .except fun _ => .bind hR.onNotes fun _ => hfee _
  | aiAttachExecutionProof requestId proof =>
    exact .bind hR.checkExecutionProof fun _ =>
      .bind hR.onAi fun _ => .bind (.attempt hR.onAi) fun _ => hfee _

/-- A transaction has the same outcome in related states and leaves related states. -/
protected lemma applyTransactionChecked (hamount : S tx.amount) :
    Respects R (applyTransactionChecked M tx) := by
  refine .ite .failIf <| .bind (hR.read fun _ _ _ => rfl) fun _ => .guard <| .bind ?_ fun _ =>
    hR.getOrCreate_bind fun _ _ => .guard <| hR.applyArm hamount
  unfold checkCostFloor
  split
  · exact .guard <| .failIf
  · exact .failIf
  · exact .pure

end StepRel

end Budlum
