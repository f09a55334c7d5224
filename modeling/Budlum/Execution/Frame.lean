import Budlum.Execution.Executor

/-!
# What a transaction leaves alone

Most transactions work on accounts and registries. The validators, the unbonding queue
and the clocks of the state are written by stakes, key registrations, unstakes and votes
only, and by the end of an epoch.
-/

namespace Budlum

open Exec

/-- What transactions on accounts and registries leave alone. -/
structure StandingPart where
  validators : SortedMap Address Validator
  unbondingQueue : List UnbondingEntry
  epochIndex : ℕ
  currentBlockHeight : ℕ
  pendingDomainUnfreezes : List PendingDomainUnfreeze

namespace AccountState

variable {T : ModuleTypes} {M : Modules T} {ε : Type}

def standing (s : AccountState T) : StandingPart :=
  ⟨s.validators, s.unbondingQueue, s.epochIndex, s.currentBlockHeight, s.pendingDomainUnfreezes⟩

lemma leaves_getOrCreate (a : Address) :
    Leaves standing (getOrCreate a : Exec (AccountState T) ε Account) :=
  .bind (.modify fun _ => rfl) fun _ => .read

lemma leaves_writeAccount (a : Address) (account : Account) :
    Leaves standing (writeAccount a account : Exec (AccountState T) ε Unit) :=
  .modify fun _ => rfl

lemma leaves_tryAddBalance (a : Address) (amount : ℕ) :
    Leaves standing (tryAddBalance a amount : Exec (AccountState T) String Unit) :=
  .bind (leaves_getOrCreate a) fun _ => .bind .ofOption fun _ => leaves_writeAccount a _

end AccountState

namespace Executor

open AccountState

variable {T : ModuleTypes} {M : Modules T} {tx : Transaction T}

lemma leaves_debit (a : Address) (amount : ℕ) (message : String) :
    Leaves standing (debit a amount message : Effect T Unit) :=
  .bind (leaves_getOrCreate a) fun _ => .bind .ofOption fun _ => leaves_writeAccount a _

lemma leaves_credit (a : Address) (amount : ℕ) (error : BudlumError) :
    Leaves standing (credit a amount error : Effect T Unit) :=
  .bind (leaves_getOrCreate a) fun _ => .bind .ofOption fun _ => leaves_writeAccount a _

lemma leaves_payVerifiers (maxFee count i : ℕ) (verifiers : List Address) :
    Leaves standing (payVerifiers maxFee count i verifiers : Effect T Unit) := by
  induction verifiers generalizing i with
  | nil => exact .pure
  | cons verifier rest ih => exact .bind (leaves_credit _ _ _) fun _ => ih _

def WritesValidators (tx : Transaction T) : Prop :=
  match tx.txType with
  | .stake | .registerConsensusKeys _ | .unstake | .vote => True
  | _ => False

lemma leaves_applyArm (h : ¬ WritesValidators tx) : Leaves standing (applyArm M tx) := by
  unfold WritesValidators at h
  unfold applyArm
  -- every effect of the other arms is on the accounts, or on a registry beside them
  split <;> rename_i htype <;> rw [htype] at h <;> try exact absurd trivial h
  all_goals
    try simp only [applyTransfer, applyLubotOperatorBond, applyLubotOperatorUnbond,
      applyLubotOperatorWithdraw, applyContractCall, applyBnsRegister, applyBnsSetContent,
      applyBnsRegisterSubdomain, applyBnsSetStorage, applyNftMint, applyNftTransfer, applyNftBurn,
      applyNftBoost, applyNftUpdateLight, applyNftTag, applyUniversalRelay, applyRelayerResult,
      applyAiOfferData, applyAiPurchaseData, applyBudlumxyzRegisterApp, applyBudlumxyzAttestApp,
      applyPollenRegisterDataAsset, applyPollenAuthorizeSale, applyPollenGrantAccess,
      applyPollenRevokeGrant, applyPollenRevokeDataAsset, applyAiModelRegister,
      applyAiInferenceRequest, applyAiInferenceResult, applyAiFeeReclaim, applyAiModelDeactivate,
      applyAiModelReactivate, applyAiRequestCancel, applyAiDisputeSlash, applyAiAgentPayment,
      applyAiAgentPaymentRelease, applyAiAgentPaymentReclaim, applyPrivacyNoteInsert,
      applyPrivateTransferSubmit, applyAiAttachExecutionProof,
      handleEvents, escrowRequest, admitRequest, takeEscrow, consumeGrant,
      payBoostShares, creditTreasury, checkReceipt, settleMessage, relayMint, relayUnlock,
      creditBridge, creditRelayer, publishOutput, settleOutcome, submitResult,
      checkExecutionProof, checkModelProof, checkModelSize, checkEnvelope, checkRequiredProof,
      checkProofSize, checkClassLimit, chargeFee, onBns, onNft, onMarketplace, onBridge, onAi,
      onHub, onNotes, bondLubotOperator, beginLubotOperatorUnbonding,
      withdrawLubotOperator, onRegistry]
  all_goals
    repeat' with_reducible first
      | exact leaves_debit _ _ _
      | exact leaves_credit _ _ _
      | exact leaves_getOrCreate _
      | exact leaves_writeAccount _ _
      | exact leaves_tryAddBalance _ _
      | exact leaves_payVerifiers _ _ _ _
      | exact Leaves.pure
      | exact Leaves.fail
      | exact Leaves.read
      | exact Leaves.failIf
      | exact Leaves.ofOption
      | exact Leaves.ofExcept
      | refine Leaves.bind ?_ fun _ => ?_
      | refine Leaves.attempt ?_
      | refine Leaves.mapError ?_ _
      | refine Leaves.ite ?_ ?_
      | refine Leaves.modify fun _ => ?_
      | refine Leaves.zoom fun _ _ => ?_
      | split
  all_goals rfl

/-- Transactions of every other type leave the validators, the unbonding stakes, the epoch, the
height and the pending unfreezes as they were. -/
theorem standing_kept (M : Modules T) (s : AccountState T)
    (txs : List { tx : Transaction T // ¬ WritesValidators tx }) :
    ((applyAll M (txs.map Subtype.val)).run s).2.standing = s.standing := by
  have hall : Leaves standing (applyAll M (txs.map Subtype.val)) := by
    induction txs with
    | nil => exact .pure
    | cons tx rest ih =>
      have hfloor : Leaves standing (checkCostFloor tx.1) := by
        unfold checkCostFloor
        split
        · exact .bind .failIf fun _ => .failIf
        · exact .failIf
        · exact .pure
      refine .bind (.ite .failIf ?_) fun _ => ih
      exact .bind .read fun _ => .bind .failIf fun _ => .bind hfloor fun _ =>
        .bind (leaves_getOrCreate _) fun _ => .bind .failIf fun _ => leaves_applyArm tx.2
  exact hall.run s

end Executor

end Budlum
