import Budlum.Execution.Atomicity

/-!
# Which failures leave a trace

Some arms of the executor write before their last check. `LateFailure` says, on
the state before the call, when such a check fails: exactly then a refused
transaction leaves a change behind.
-/

namespace Budlum

open Machine Exec Nat

/-! ## Ranges of the `u64` fields -/

/-- The `u64` fields that execution adds to hold `u64` values. -/
structure AccountState.InRange {T : ModuleTypes} (s : AccountState T) : Prop where
  balance : ∀ a, s.getBalance a ≤ u64Max
  stake : ∀ a v, s.getValidator a = some v → v.stake ≤ u64Max
  pendingBudBoostShare : s.pendingBudBoostShare ≤ u64Max

structure Transaction.InRange {T : ModuleTypes} (tx : Transaction T) : Prop where
  amount : tx.amount ≤ u64Max
  fee : tx.fee ≤ u64Max

lemma Transaction.InRange.amount_le_totalCost {T : ModuleTypes} {tx : Transaction T}
    (h : tx.InRange) : tx.amount ≤ tx.totalCost :=
  Nat.le_min.mpr ⟨Nat.le_add_right _ _, h.amount⟩

lemma Transaction.InRange.fee_le_totalCost {T : ModuleTypes} {tx : Transaction T}
    (h : tx.InRange) : tx.fee ≤ tx.totalCost :=
  Nat.le_min.mpr ⟨Nat.le_add_left _ _, h.fee⟩

namespace AccountState

variable {T : ModuleTypes} {s s' : AccountState T}

lemma InRange.touch (h : s.InRange) (a : Address) : (s.touch a).InRange where
  balance b := by
    rw [getBalance_touch]
    exact h.balance b
  stake := h.stake
  pendingBudBoostShare := h.pendingBudBoostShare

/-! ## Changes that are seen -/

lemma Same.getBalance (h : Same s s') (a : Address) : s'.getBalance a = s.getBalance a := by
  rw [getBalance_eq, getBalance_eq, h.1 a]

lemma Same.of_rest {ρ : Type} (get : AccountState T → ρ) (h : Same s s')
    (hget : ∀ (s : AccountState T) ledger, get { s with ledger } = get s) : get s' = get s := by
  rw [← h.2]
  exact hget _ _

lemma getBalance_setAccount (a b : Address) (acc : Account) :
    (s.setAccount a acc).getBalance b = if b = a then acc.balance else s.getBalance b := by
  rw [getBalance_eq, account_setAccount]
  split_ifs <;> rfl

end AccountState

namespace Executor

open AccountState

variable {T : ModuleTypes} {M : Modules T} {α β ρ ε' : Type} {get : AccountState T → ρ}
  {put : AccountState T → ρ → AccountState T}

def Traceless (s : AccountState T) (x : Effect T α) : Prop :=
  wp x (fun _ _ => True) (fun _ s' => Same s s') s

variable {s s' : AccountState T}

lemma Clean.traceless {tx : Transaction T} {x : Effect T α} (hx : Clean tx x)
    (hfee : tx.fee ≤ s.getBalance tx.sender) : Traceless s x := hx s hfee

/-! ## Transfers and stake -/

section

variable (s : AccountState T) (tx : Transaction T)

/-- The credit of a transfer fails after the sender was debited. -/
def LateTransfer : Prop :=
  tx.totalCost ≤ s.spendableBalance tx.sender ∧ tx.recipient ≠ tx.sender ∧
    u64Max < s.getBalance tx.recipient + tx.amount

/-- The stake overflows after the sender was debited. -/
def LateStake : Prop := ∃ v, s.getValidator tx.sender = some v ∧ u64Max < v.stake + tx.amount

variable {s tx}

lemma not_same_of_debit {a : Address} {amount : ℕ} (hpos : 0 < amount)
    (hle : amount ≤ s.getBalance a)
    (h : Same s (s.setAccount a (debited (s.account a) amount))) : False := by
  have hbal := h.getBalance a
  rw [getBalance_setAccount, if_pos rfl] at hbal
  have hdef : (debited (s.account a) amount).balance = s.getBalance a - amount := rfl
  omega

lemma traceless_transfer_iff (hs : s.InRange) (ht : tx.InRange) :
    Traceless s (applyTransfer tx) ↔ ¬ LateTransfer s tx := by
  have hspend := s.spendableBalance_le tx.sender
  have hamount := ht.amount_le_totalCost
  have hsender := hs.balance tx.sender
  unfold Traceless
  simp only [applyTransfer, wp_rules, not_lt]
  constructor
  · rintro ⟨-, hrest⟩ ⟨hcost, hne, hover⟩
    -- the debit is covered, so the failing credit runs on the debited state
    have hle : tx.totalCost ≤ s.getBalance tx.sender := hcost.trans hspend
    have hcredit := (wp_credit.mp ((wp_debit_of_le hle).mp (hrest hcost))).2
    rw [getBalance_setAccount, if_neg hne] at hcredit
    have hrecipient := hs.balance tx.recipient
    exact not_same_of_debit (by omega) hle (Same.touch_right_iff.mp (hcredit hover))
  · intro hlate
    refine ⟨fun _ => Same.refl s, fun hcost => ?_⟩
    have hle : tx.totalCost ≤ s.getBalance tx.sender := hcost.trans hspend
    rw [wp_debit_of_le hle, wp_credit]
    refine ⟨fun _ => trivial, fun hover => absurd ⟨hcost, ?_⟩ hlate⟩
    rw [getBalance_setAccount] at hover
    split_ifs at hover with heq
    · -- a transfer to oneself puts back less than it took
      have hdef : (debited (s.account tx.sender) tx.totalCost).balance =
        s.getBalance tx.sender - tx.totalCost := rfl
      omega
    · exact ⟨heq, hover⟩

lemma traceless_stake_iff (hs : s.InRange) (ht : tx.InRange)
    (hle : tx.totalCost ≤ s.getBalance tx.sender) :
    Traceless s (applyStake M tx) ↔ ¬ LateStake s tx := by
  have hamount := ht.amount_le_totalCost
  have hget : ∀ acc, (s.setAccount tx.sender acc).getValidator tx.sender =
    s.getValidator tx.sender := fun _ => rfl
  unfold Traceless
  simp only [applyStake, wp_bind, wp_debit_of_le hle, wp_read, hget]
  cases hv : s.getValidator tx.sender with
  | none => simp [bondStake, setValidator, LateStake, hv]
  | some v =>
    have hstake := hs.stake _ v hv
    simp only [bondStake, setValidator, LateStake, hv, wp_steps, checkedAdd_eq_none,
      Option.some.injEq, exists_eq_left']
    constructor
    · intro h hover
      exact not_same_of_debit (by omega) hle (h hover)
    · intro hlate hover
      exact absurd hover hlate

end

/-! ## Votes -/

variable {a : Address}

lemma not_same_of_getBalance
    (h : s'.getBalance a ≠ s.getBalance a) : ¬ Same s s' := fun hsame => h (hsame.getBalance a)

lemma wp_zoom_late {f : ε' → BudlumError} {x : Exec ρ ε' α}
    (hlate : ∀ r, ¬ Same s (put s' r)) :
    wp (zoom get put f x.run : Effect T α) (fun _ _ => True) (fun _ t => Same s t) s' ↔
      ¬ Fails x (get s') := by
  rw [wp_zoom, fails_iff]
  constructor
  · rintro ⟨-, herr⟩ ⟨e, r, hrun⟩
    exact hlate r (herr e r hrun)
  · intro hno
    exact ⟨fun _ _ _ => trivial, fun e r hrun => absurd ⟨e, r, hrun⟩ hno⟩

section

variable (M) (s : AccountState T) (tx : Transaction T)

/-- The stake a vote or a proposal of the sender counts with. -/
def senderStake : ℕ := ((s.getValidator tx.sender).map Validator.stake).getD 0

def RefusedProposalVote : Prop :=
  senderStake s tx = 0 ∨
    (M.hasProposal s.governance (leNat ((tx.data.drop 1).take 8)) = true ∧
      Fails (M.addVote (leNat ((tx.data.drop 1).take 8)) tx.sender (senderStake s tx)
        (tx.data.head? != some 0) s.epochIndex) s.governance)

def RefusedNewProposal : Prop :=
  match M.decodeProposalType (tx.data.drop 8) with
  | .error _ => True
  | .ok proposal => senderStake s tx = 0 ∨
      Fails (M.createProposal tx.sender proposal s.epochIndex (leNat (tx.data.take 8)))
        s.governance

/-- The vote is refused after its fee was taken. -/
def LateVote : Prop :=
  (9 < tx.data.length → s.requiredGovernanceProposalFee M tx.sender ≤ tx.fee) ∧
    tx.recipient = .zero ∧
    ((tx.data.length = 9 ∧ RefusedProposalVote M s tx) ∨
      (9 < tx.data.length ∧ RefusedNewProposal M s tx))

variable {M s tx}

lemma not_same_governance_of_fee (hfee : 0 < tx.fee) (hle : tx.fee ≤ s.getBalance tx.sender)
    (governance : T.Governance) :
    ¬ Same s { s.setAccount tx.sender (debited (s.account tx.sender) tx.fee) with
      governance } := by
  refine not_same_of_getBalance (a := tx.sender) ?_
  have hbal : ({ s.setAccount tx.sender (debited (s.account tx.sender) tx.fee) with
      governance } : AccountState T).getBalance tx.sender = s.getBalance tx.sender - tx.fee := by
    change (s.setAccount tx.sender (debited (s.account tx.sender) tx.fee)).getBalance _ = _
    rw [getBalance_setAccount, if_pos rfl]
    rfl
  omega

section

variable {s' : AccountState T} (hlate : ∀ governance, ¬ Same s { s' with governance })

include hlate

lemma wp_applyProposalVote_late :
    wp (applyProposalVote M tx) (fun _ _ => True) (fun _ t => Same s t) s' ↔
      ¬ RefusedProposalVote M s' tx := by
  have hdead : ¬ Same s s' := hlate s'.governance
  simp only [applyProposalVote, wp_rules, id, hdead, RefusedProposalVote, senderStake, not_or,
    imp_false]
  refine and_congr_right fun hstake => ?_
  rw [forall_prop_of_true hstake]
  split_ifs with hprop
  · simp only [onGovernance, hprop, true_and]
    exact wp_zoom_late hlate
  · exact iff_of_true trivial fun h => hprop h.1

lemma wp_applyNewProposal_late :
    wp (applyNewProposal M tx) (fun _ _ => True) (fun _ t => Same s t) s' ↔
      ¬ RefusedNewProposal M s' tx := by
  have hdead : ¬ Same s s' := hlate s'.governance
  simp only [applyNewProposal, wp_bind, wp_read, id, RefusedNewProposal]
  cases hdecode : M.decodeProposalType (tx.data.drop 8) with
  | error e => simp [hdead]
  | ok proposal =>
    simp only [Exec.ofExcept, wp_rules, hdead, senderStake, not_or, imp_false]
    refine and_congr_right fun hstake => ?_
    rw [forall_prop_of_true hstake]
    exact wp_zoom_late hlate

end

lemma traceless_vote_iff (hfee : 0 < tx.fee) (hle : tx.fee ≤ s.getBalance tx.sender) :
    Traceless s (applyVote M tx) ↔ ¬ LateVote M s tx := by
  have hlate := not_same_governance_of_fee hfee hle
  unfold Traceless LateVote
  simp only [applyVote, wp_steps, wp_debit_of_le hle, Same.refl]
  by_cases hrequired : 9 < tx.data.length ∧ tx.fee < s.requiredGovernanceProposalFee M tx.sender
  · have hno : ¬ (9 < tx.data.length → s.requiredGovernanceProposalFee M tx.sender ≤ tx.fee) :=
      fun h => absurd (h hrequired.1) (not_le.mpr hrequired.2)
    exact iff_of_true (fun h => absurd hrequired h) fun h => hno h.1
  · have hyes : 9 < tx.data.length → s.requiredGovernanceProposalFee M tx.sender ≤ tx.fee :=
      fun h => not_lt.mp fun hlt => hrequired ⟨h, hlt⟩
    rw [forall_prop_of_true hrequired]
    rw [and_iff_right hyes]
    unfold castVote
    by_cases hzero : tx.recipient = .zero
    · simp only [hzero, ne_eq, not_true_eq_false, if_false, true_and]
      -- by the length of the payload: nothing, a vote, a proposal
      rcases lt_trichotomy tx.data.length 9 with hlt | heq | hgt
      · simp [hlt, hlt.ne, not_lt.mpr hlt.le]
      · simp only [heq, lt_irrefl, if_false, if_true, true_and, false_and, or_false]
        exact wp_applyProposalVote_late hlate
      · simp only [not_lt.mpr hgt.le, hgt.ne', hgt, if_false, false_and, false_or, true_and]
        exact wp_applyNewProposal_late hlate
    · simp only [hzero, ne_eq, not_false_eq_true, if_true, false_and, iff_true, wp_bind, wp_read]
      -- a vote on a validator cannot fail
      split <;> trivial

end

/-! ## Calls followed by a check on the accounts -/

variable {k : α → Effect T β}

lemma traceless_read_iff {f : AccountState T → α} :
    Traceless s (read f >>= k) ↔ Traceless s (k (f s)) := by
  unfold Traceless
  rw [wp_bind, wp_read]

lemma traceless_guard_iff {p : Prop} [Decidable p] {e : BudlumError} {k : Unit → Effect T β} :
    Traceless s (failIf p e >>= k) ↔ (¬p → Traceless s (k ())) := by
  unfold Traceless
  rw [wp_bind, wp_failIf]
  exact and_iff_right fun _ => Same.refl s

lemma traceless_call_iff {f : ε' → BudlumError} {x : Exec ρ ε' α}
    (hx : Atomic x) (hput : put s (get s) = s) :
    Traceless s ((zoom get put f x.run : Effect T α) >>= k) ↔
      ∀ a r, x.run (get s) = (.ok a, r) →
        wp (k a) (fun _ _ => True) (fun _ t => Same s t) (put s r) := by
  unfold Traceless
  rw [wp_bind, wp_zoom]
  refine and_iff_left fun e r hrun => ?_
  rw [hx.error hrun, hput]
  exact Same.refl s

/-- A credit before the fee fails only by its own overflow: it takes nothing off
the sender. -/
lemma wp_credit_then_fee {tx : Transaction T} {amount : ℕ}
    {error : BudlumError} {message : String} {E : BudlumError → AccountState T → Prop}
    (hfee : tx.fee ≤ s.getBalance tx.sender) :
    wp (credit a amount error >>= fun _ => chargeFee tx message) (fun _ _ => True) E s ↔
      (u64Max < s.getBalance a + amount → E error (s.touch a)) := by
  rw [wp_bind, wp_credit]
  refine and_iff_right fun _ => ?_
  rw [chargeFee, wp_debit_of_le]
  · trivial
  · rw [getBalance_setAccount]
    split_ifs with heq
    · rw [heq] at hfee
      exact hfee.trans (le_add_right _ _)
    · exact hfee

section

variable {s : AccountState T} {tx : Transaction T}

lemma same_aiRegistry_iff {r : T.AiRegistry} :
    Same s { s with aiRegistry := r } ↔ r = s.aiRegistry := by
  constructor
  · intro h
    exact h.of_rest aiRegistry fun _ _ => rfl
  · rintro rfl
    exact Same.refl s

lemma same_budlumxyz_iff {r : T.HubRegistry} :
    Same s { s with budlumxyz := r } ↔ r = s.budlumxyz := by
  constructor
  · intro h
    exact h.of_rest budlumxyz fun _ _ => rfl
  · rintro rfl
    exact Same.refl s

end

section

variable (M) (s : AccountState T) (tx : Transaction T)

/-- A refund that was taken out of the registry cannot be paid out. -/
def LateRefund (x : Exec T.AiRegistry String (Address × ℕ)) (Refused : Address → Prop) : Prop :=
  ∃ refund r, x.run s.aiRegistry = (.ok refund, r) ∧ r ≠ s.aiRegistry ∧
    (Refused refund.1 ∨ u64Max < s.getBalance refund.1 + refund.2)

def LateFeeReclaim (requestId : Id32) : Prop :=
  LateRefund s (M.reclaimFee requestId s.currentBlockHeight) fun requester => requester ≠ tx.sender

def LateRequestCancel (requestId : Id32) : Prop :=
  LateRefund s (M.cancelRequest requestId tx.sender s.currentBlockHeight) fun _ => False

variable {M s tx}

/-- The two arms that pay a refund out of the registry and then take the fee. -/
lemma wp_refund_iff {r : T.AiRegistry} {refund : Address × ℕ} {error : BudlumError}
    {message : String} (hfee : tx.fee ≤ s.getBalance tx.sender) :
    wp (credit refund.1 refund.2 error >>= fun _ => chargeFee tx message)
        (fun _ _ => True) (fun _ t => Same s t) { s with aiRegistry := r } ↔
      (r ≠ s.aiRegistry → s.getBalance refund.1 + refund.2 ≤ u64Max) := by
  rw [wp_credit_then_fee (by exact hfee), Same.touch_right_iff, same_aiRegistry_iff]
  constructor
  · intro h hne
    exact not_lt.mp fun hover => hne (h hover)
  · intro h hover
    by_contra hne
    exact absurd (h hne) hover.not_ge

section

variable (hM : M.Refusals) (requestId : Id32) (hfee : tx.fee ≤ s.getBalance tx.sender)
include hM hfee

lemma traceless_aiFeeReclaim_iff :
    Traceless s (applyAiFeeReclaim M tx requestId) ↔ ¬ LateFeeReclaim M s tx requestId := by
  change Traceless s (zoom _ _ _ _ >>= _) ↔ _
  rw [traceless_call_iff (hM.reclaimFee _ _) rfl]
  unfold LateFeeReclaim LateRefund
  push Not
  refine forall_congr' fun refund => forall_congr' fun r => imp_congr_right fun _ => ?_
  rw [wp_bind, wp_failIf, same_aiRegistry_iff]
  by_cases howner : refund.1 = tx.sender
  · -- the owner asks: what is left is a refund like any other
    have hrefund := @wp_refund_iff T s tx r refund
      (validation "balance_overflow" "AI fee reclaim overflow") "balance underflow" hfee
    rw [chargeFee, ← howner] at hrefund
    simp only [howner, ne_eq, not_true_eq_false, false_implies, not_false_eq_true, true_and,
      forall_const] at hrefund ⊢
    exact hrefund
  · simp [howner]

lemma traceless_aiRequestCancel_iff :
    Traceless s (applyAiRequestCancel M tx requestId) ↔ ¬ LateRequestCancel M s tx requestId := by
  change Traceless s (zoom _ _ _ _ >>= _) ↔ _
  rw [traceless_call_iff (hM.cancelRequest _ _ _) rfl]
  unfold LateRequestCancel LateRefund
  push Not
  refine forall_congr' fun refund => forall_congr' fun r => imp_congr_right fun _ => ?_
  rw [wp_refund_iff hfee]
  simp

end

end

section

variable (M) (s : AccountState T) (tx : Transaction T)

/-- A released payment overflows its recipient. -/
def LatePaymentRelease (paymentId : Id32) : Prop :=
  ∃ payment recipient r, M.getAgentPayment s.aiRegistry paymentId = some payment ∧
    (M.releaseAgentPayment paymentId s.currentBlockHeight).run s.aiRegistry = (.ok recipient, r) ∧
    r ≠ s.aiRegistry ∧ u64Max < s.getBalance recipient + payment.amount

/-- A reclaimed payment overflows the sender. -/
def LatePaymentReclaim (paymentId : Id32) : Prop :=
  ∃ amount r,
    (M.reclaimAgentPayment paymentId tx.sender s.currentBlockHeight).run s.aiRegistry =
      (.ok amount, r) ∧
    r ≠ s.aiRegistry ∧ u64Max < s.getBalance tx.sender + amount

/-- The bond cannot be slashed after the inference registry has slashed. -/
def LateDisputeSlash (requestId : Id32) (verifier : Address) : Prop :=
  M.isActive s.registry verifier .lubotOperator = true ∧
    (∃ r, (M.slashEquivocator requestId verifier s.currentBlockHeight).run s.aiRegistry =
      (.ok (), r) ∧ r ≠ s.aiRegistry) ∧
    Fails (M.slashRoleOnly verifier .lubotOperator fixedPointScale) s.registry

variable {M s tx}

lemma traceless_aiAgentPaymentRelease_iff (hM : M.Refusals) (paymentId : Id32)
    (hfee : tx.fee ≤ s.getBalance tx.sender) :
    Traceless s (applyAiAgentPaymentRelease M tx paymentId) ↔
      ¬ LatePaymentRelease M s paymentId := by
  unfold LatePaymentRelease
  cases hpayment : M.getAgentPayment s.aiRegistry paymentId with
  | none =>
    refine iff_of_true ?_ (by simp)
    simp [Traceless, applyAiAgentPaymentRelease, hpayment, Same.refl]
  | some payment =>
    have harm : Traceless s (applyAiAgentPaymentRelease M tx paymentId) ↔
        Traceless s (onAi "ai_payment_release_failed"
          (M.releaseAgentPayment paymentId s.currentBlockHeight) >>= fun recipient =>
            credit recipient payment.amount
              (validation "balance_overflow" "Agent payment release overflow") >>= fun _ =>
                chargeFee tx "balance underflow") := by
      simp [Traceless, applyAiAgentPaymentRelease, hpayment, wp_bind]
    rw [harm]
    change Traceless s (zoom _ _ _ _ >>= _) ↔ _
    rw [traceless_call_iff (hM.releaseAgentPayment _ _) rfl]
    simp only [Option.some.injEq, exists_eq_left', not_exists, not_and, not_lt, exists_and_left]
    refine forall_congr' fun recipient => forall_congr' fun r => imp_congr_right fun _ => ?_
    exact @wp_refund_iff T s tx r (recipient, payment.amount) _ _ hfee

lemma traceless_aiAgentPaymentReclaim_iff (hM : M.Refusals) (paymentId : Id32)
    (hfee : tx.fee ≤ s.getBalance tx.sender) :
    Traceless s (applyAiAgentPaymentReclaim M tx paymentId) ↔
      ¬ LatePaymentReclaim M s tx paymentId := by
  change Traceless s (zoom _ _ _ _ >>= _) ↔ _
  rw [traceless_call_iff (hM.reclaimAgentPayment _ _ _) rfl]
  unfold LatePaymentReclaim
  push Not
  refine forall_congr' fun amount => forall_congr' fun r => imp_congr_right fun _ => ?_
  have hacc : (({ s with aiRegistry := r } : AccountState T).account tx.sender).balance =
    s.getBalance tx.sender := rfl
  simp only [wp_rules, wp_getOrCreate, wp_writeAccount, checkedAdd_eq_some, checkedAdd_eq_none,
    Same.touch_right_iff, same_aiRegistry_iff, hacc]
  constructor
  · rintro ⟨-, hover⟩ hne
    exact not_lt.mp fun h => hne (hover h)
  · intro h
    refine ⟨fun available hadded => ⟨fun hshort => ?_, fun _ => trivial⟩, fun hover => ?_⟩
    · -- what the sender held already covers the fee
      omega
    · by_contra hne
      exact absurd (h hne) hover.not_ge

lemma traceless_aiDisputeSlash_iff (hM : M.Refusals) (requestId : Id32) (verifier : Address)
    (hfee : tx.fee ≤ s.getBalance tx.sender) :
    Traceless s (applyAiDisputeSlash M tx requestId verifier) ↔
      ¬ LateDisputeSlash M s requestId verifier := by
  unfold LateDisputeSlash Traceless
  simp only [applyAiDisputeSlash, wp_steps, id, onAi, onRegistry, wp_zoom, Same.refl,
    Bool.not_eq_false]
  constructor
  · rintro h ⟨hactive, ⟨r, hrun, hne⟩, hfails⟩
    obtain ⟨e, registry, hslash⟩ := fails_iff.mp hfails
    have hsame := ((h hactive).1 () r hrun).2 e registry hslash
    exact hne (hsame.of_rest aiRegistry fun _ _ => rfl)
  · intro hlate hactive
    refine ⟨fun _ r hrun => ⟨fun _ registry _ => ?_, fun e registry hslash => ?_⟩, fun e r hrun => ?_⟩
    · exact (wp_debit_of_le (by exact hfee)).mpr trivial
    · rw [(hM.slashRoleOnly _ _ _).error hslash]
      by_contra hne
      refine hlate ⟨hactive, ⟨r, hrun, fun heq => hne ?_⟩, fails_iff.mpr ⟨e, _, hslash⟩⟩
      rw [heq]
      exact Same.refl s
    · rw [(hM.slashEquivocator _ _ _).error hrun]
      exact Same.refl s

end

/-! ## Registrations with a price -/

section

variable (M) (s : AccountState T) (tx : Transaction T)

/-- The price of a registration is found too high after it was recorded. -/
def LateModelRegister (spec : AiModelSpec T) : Prop :=
  let regFee := (M.registryParams s.registry).aiModelRegisterFee
  (regFee > 0 → regFee ≤ tx.amount) ∧
    (∃ r, (M.registerModel { spec with owner := tx.sender }).run s.aiRegistry = (.ok (), r) ∧
      r ≠ s.aiRegistry) ∧
    (u64Max < tx.fee + regFee ∨ s.getBalance tx.sender < tx.fee + regFee)

def LateRegisterApp (app : T.HubApp) : Prop :=
  M.hubRegisterMinFee ≤ tx.amount ∧
    (∃ r, (M.registerApp app tx.sender s.epochIndex).run s.budlumxyz = (.ok (), r) ∧
      r ≠ s.budlumxyz) ∧
    (u64Max < tx.fee + M.hubRegisterMinFee ∨
      s.getBalance tx.sender < tx.fee + M.hubRegisterMinFee)

variable {M s tx}

/-- The last steps of a registration: the sum of fee and price, and the balance
against it. -/
lemma wp_pay_iff {s' : AccountState T} {fee price : ℕ} {overflow : BudlumError}
    {short : Account → ℕ → BudlumError} {paid : Account → ℕ → Account} :
    wp (do
        let sender ← getOrCreate a
        let total ← ofOption overflow (checkedAdd u64Max fee price)
        failIf (sender.balance < total) (short sender total)
        writeAccount a (paid sender total))
        (fun _ _ => True) (fun _ t => Same s t) s' ↔
      (u64Max < fee + price ∨ s'.getBalance a < fee + price → Same s s') := by
  simp only [wp_steps, wp_getOrCreate, wp_writeAccount, checkedAdd_eq_some, checkedAdd_eq_none,
    Same.touch_right_iff, getBalance_eq]
  constructor
  · rintro ⟨hfits, hover⟩ (h | h)
    · exact hover h
    · by_cases hle : fee + price ≤ u64Max
      · exact hfits _ ⟨hle, rfl⟩ h
      · exact hover (not_le.mp hle)
  · intro h
    refine ⟨?_, fun hover => h (Or.inl hover)⟩
    rintro total ⟨-, rfl⟩ hshort
    exact h (Or.inr hshort)

lemma traceless_aiModelRegister_iff (hM : M.Refusals) (spec : AiModelSpec T) :
    Traceless s (applyAiModelRegister M tx spec) ↔ ¬ LateModelRegister M s tx spec := by
  unfold applyAiModelRegister LateModelRegister
  rw [traceless_read_iff, traceless_guard_iff]
  simp only [onAi, id]
  rw [traceless_call_iff (hM.registerModel _) rfl]
  simp only [wp_pay_iff, same_aiRegistry_iff]
  constructor
  · rintro h ⟨hprice, ⟨r, hrun, hne⟩, hshort⟩
    exact hne (h (fun hlow => absurd (hprice hlow.1) (not_le.mpr hlow.2)) () r hrun hshort)
  · intro hlate hpass _ r hrun hshort
    by_contra hne
    refine hlate ⟨fun hpos => ?_, ⟨r, hrun, hne⟩, hshort⟩
    exact not_lt.mp fun hlow => hpass ⟨hpos, hlow⟩

lemma traceless_budlumxyzRegisterApp_iff (hM : M.Refusals) (app : T.HubApp) :
    Traceless s (applyBudlumxyzRegisterApp M tx app) ↔ ¬ LateRegisterApp M s tx app := by
  unfold applyBudlumxyzRegisterApp LateRegisterApp
  rw [traceless_guard_iff, traceless_read_iff]
  simp only [onHub]
  rw [traceless_call_iff (hM.registerApp _ _ _) rfl]
  simp only [wp_pay_iff, same_budlumxyz_iff, not_lt]
  constructor
  · rintro h ⟨hprice, ⟨r, hrun, hne⟩, hshort⟩
    exact hne (h hprice () r hrun hshort)
  · intro hlate hprice _ r hrun hshort
    by_contra hne
    exact hlate ⟨hprice, ⟨r, hrun, hne⟩, hshort⟩

end

end Executor

end Budlum
