import Budlum.Execution.Executor

/-!
# Validation of transactions

`AccountState::validate_transaction`: the checks that do not depend on the
transaction's type, then one check per type. It only reads the state.
-/

namespace Budlum.AccountState

open Machine Executor

variable {T : ModuleTypes} (M : Modules T) (s : AccountState T) (tx : Transaction T)

/-- Refuse with `e` when `p` holds, else go on with the next check. -/
def refuseIf (p : Prop) [Decidable p] (e : String) (next : Except String Unit) :
    Except String Unit :=
  if p then .error e else next

def requireSome {α : Type} (o : Option α) (e : String) (next : α → Except String Unit) :
    Except String Unit :=
  match o with
  | some a => next a
  | none => .error e

def checkReleased (status : MemberStatus) : Except String Unit :=
  match status with
  | .unbonding releaseEpoch =>
    refuseIf (s.epochIndex < releaseEpoch)
      s!"Lubot bond remains locked until epoch {releaseEpoch}" (.ok ())
  | .other => .error "Lubot operator is not in unbonding state"

def checkPrivacyChain : Except String Unit :=
  refuseIf (tx.chainId = Network.mainnet.chainId)
    "privacy transfers are disabled on mainnet until full proof verification is wired" (.ok ())

def checkOperator : Except String Unit :=
  refuseIf (M.isActive s.registry tx.sender .lubotOperator = false)
    "Inference result/proof signer is not an active bonded LUBOT_OPERATOR" (.ok ())

def checkType : Except String Unit :=
  match tx.txType with
  | .transfer =>
    refuseIf (tx.recipient = .zero) "Transfer missing 'to' address" (.ok ())
  | .stake => refuseIf (tx.amount = 0) "Stake amount must be > 0" (.ok ())
  | .registerConsensusKeys registration =>
    refuseIf (¬ IsBare tx)
      "Consensus key registration requires zero amount/recipient and empty data" <|
    requireSome (s.getValidator tx.sender)
      "Validator must bond stake before registering keys" fun v =>
    refuseIf (v.active = true) "Active validator key rotation is forbidden" <|
    M.validateKeys registration tx.sender tx.chainId
  | .lubotOperatorBond =>
    refuseIf (tx.amount < s.requiredLubotBond M tx.chainId)
      (s!"Lubot operator bond below network validator floor: {tx.amount} < " ++
        s!"{s.requiredLubotBond M tx.chainId}") <|
    refuseIf (tx.recipient ≠ .zero ∨ tx.data ≠ [])
      "Lubot operator bond requires zero recipient and empty data" <|
    refuseIf ((M.getRegistration s.registry tx.sender .lubotOperator).isSome = true)
      "Lubot operator is already registered" (.ok ())
  | .lubotOperatorUnbond =>
    refuseIf (¬ IsBare tx) "Lubot unbond requires zero amount/recipient and empty data" <|
    refuseIf (M.isActive s.registry tx.sender .lubotOperator = false)
      "Lubot operator is not active" <|
    refuseIf (M.operatorHasOpenObligations s.aiRegistry tx.sender s.currentBlockHeight = true)
      "Lubot operator has open inference or dispute obligations" (.ok ())
  | .lubotOperatorWithdraw =>
    refuseIf (¬ IsBare tx) "Lubot withdrawal requires zero amount/recipient and empty data" <|
    requireSome (M.getRegistration s.registry tx.sender .lubotOperator)
      "Lubot operator is not registered" fun registration =>
    s.checkReleased registration.status
  | .privateTransferSubmit _ => checkPrivacyChain tx
  | .privacyNoteInsert _ => checkPrivacyChain tx
  | .unstake =>
    requireSome (s.getValidator tx.sender) "Not a validator" fun v =>
    refuseIf (v.stake < tx.amount) s!"Insufficient stake: {v.stake} < {tx.amount}" (.ok ())
  | .vote =>
    refuseIf (s.getValidator tx.sender = none) "Only validators can vote" <|
    refuseIf (9 < tx.data.length ∧ tx.fee < s.requiredGovernanceProposalFee M tx.sender)
      (s!"Governance proposal fee too low: {tx.fee} < " ++
        s!"{s.requiredGovernanceProposalFee M tx.sender}") (.ok ())
  | .contractCall =>
    refuseIf (tx.amount ≠ 0) "Contract call amount must be 0" <|
    refuseIf (tx.data = [] ∨ ¬ 8 ∣ tx.data.length)
      "Contract call data must be non-empty BudZKVM bytecode" (.ok ())
  | .aiInferenceResult _ => s.checkOperator M tx
  | .aiAttachExecutionProof _ _ => s.checkOperator M tx
  | .aiDisputeSlash requestId verifier =>
    refuseIf (M.isActive s.registry verifier .lubotOperator = false)
      "Equivocation target is not an active LUBOT_OPERATOR" <|
    refuseIf (M.isDisputable s.aiRegistry requestId verifier s.currentBlockHeight = false)
      "No live Lubot equivocation evidence for target" (.ok ())
  | _ => .ok ()

/-- The fee floor: a transfer may also owe a share of its amount. -/
def requiredFee : ℕ :=
  match tx.txType with
  | .transfer => M.requiredTransferFee s.registry tx.amount s.baseFee
  | _ => s.baseFee

def validateTransactionWithContext (expectedNonce spendable : ℕ) : Except String Unit :=
  if tx.sender = .zero then
    refuseIf (M.verifyTx tx = false)
      "zero-address sender is only valid for the canonical genesis transaction" (.ok ())
  else
    refuseIf (s.burnReserveAddress = some tx.sender)
      "Burn reserve is schedule-controlled and cannot originate transactions" <|
    refuseIf (tx.nonce ≠ expectedNonce)
      s!"Invalid nonce: expected {expectedNonce}, got {tx.nonce}" <|
    refuseIf (tx.maxFee ≠ 0 ∧ tx.maxFee ≠ tx.fee)
      s!"flat-fee mode requires max_fee == fee ({tx.maxFee} != {tx.fee})" <|
    refuseIf (tx.priorityFee ≠ 0) "flat-fee mode requires priority_fee == 0" <|
    refuseIf (tx.fee < s.requiredFee M tx)
      (s!"Fee too low: fee {tx.fee} < required {s.requiredFee M tx} " ++
        s!"(base_fee {s.baseFee}, amount {tx.amount})") <|
    refuseIf (u64Max < tx.amount + tx.fee) "Transaction amount + fee overflows u64" <|
    refuseIf (spendable < tx.totalCost)
      (s!"Insufficient balance: {spendable} < {tx.totalCost} " ++
        s!"(amount: {tx.amount}, fee: {tx.fee})") <|
    refuseIf (M.verifyTx tx = false) "Invalid signature" <|
    s.checkType M tx

def validateTransaction : Except String Unit :=
  s.validateTransactionWithContext M tx (s.getNonce tx.sender) (s.spendableBalance tx.sender)

/-! ## What an accepted transaction satisfies -/

variable {M s tx}

lemma refuseIf_ok {p : Prop} [Decidable p] {e : String} {next : Except String Unit} :
    refuseIf p e next = .ok () ↔ ¬ p ∧ next = .ok () := by
  unfold refuseIf
  by_cases hp : p <;> simp [hp]

lemma validateTransaction_ok (hzero : tx.sender ≠ .zero)
    (h : s.validateTransaction M tx = .ok ()) :
    s.burnReserveAddress ≠ some tx.sender ∧ tx.nonce = s.getNonce tx.sender ∧
      tx.amount + tx.fee ≤ u64Max ∧ tx.amount + tx.fee ≤ s.spendableBalance tx.sender ∧
      s.checkType M tx = .ok () := by
  unfold validateTransaction validateTransactionWithContext at h
  rw [if_neg hzero] at h
  simp only [refuseIf_ok, not_not, Nat.not_lt] at h
  obtain ⟨hreserve, hnonce, -, -, -, hsum, hspend, -, htype⟩ := h
  refine ⟨hreserve, hnonce, hsum, ?_, htype⟩
  rwa [Transaction.totalCost, satAdd_of_le hsum] at hspend

end Budlum.AccountState
