import Budlum.Execution.Executor

/-!
# What a failed transaction leaves behind

`AccountState.Same` is equality of states up to bookkeeping: the entry of an empty
account and the caches over the account map are not seen. An effect is `Calm` when
its failure leaves no trace and its success does not touch the accounts. Most arms
of the executor are calm up to the fee, which the check at the head of execution
has already secured.
-/

namespace Budlum

open Machine Exec

namespace AccountState

variable {T : ModuleTypes}

/-- Equal accounts, and equal in every field but the account map and its caches. -/
def Same (s s' : AccountState T) : Prop :=
  (∀ a, s'.account a = s.account a) ∧ { s with ledger := s'.ledger } = s'

namespace Same

variable {s s' s'' : AccountState T}

lemma refl (s : AccountState T) : Same s s := ⟨fun _ => rfl, rfl⟩

lemma trans (h : Same s s') (h' : Same s' s'') : Same s s'' := by
  obtain ⟨hacc, hrest⟩ := h
  obtain ⟨hacc', hrest'⟩ := h'
  refine ⟨fun a => (hacc' a).trans (hacc a), ?_⟩
  rw [← hrest'] 
  rw [← hrest]

lemma symm (h : Same s s') : Same s' s := by
  obtain ⟨hacc, hrest⟩ := h
  refine ⟨fun a => (hacc a).symm, ?_⟩
  rw [← hrest]

lemma touch (s : AccountState T) (a : Address) : Same s (s.touch a) :=
  ⟨fun _ => account_touch _ _ _, rfl⟩

lemma touch_left_iff {a : Address} : Same (s.touch a) s' ↔ Same s s' :=
  ⟨fun h => (touch s a).trans h, fun h => (touch s a).symm.trans h⟩

lemma touch_right_iff {a : Address} : Same s (s'.touch a) ↔ Same s s' :=
  ⟨fun h => h.trans (touch s' a).symm, fun h => h.trans (touch s' a)⟩

end Same

end AccountState

namespace Executor

open AccountState

variable {T : ModuleTypes} {M : Modules T} {α β ρ ε' : Type} {get : AccountState T → ρ}
  {put : AccountState T → ρ → AccountState T}

/-! ## Calm effects -/

/-- A failure of `x` leaves no trace, and a success leaves the accounts alone. -/
def Calm (x : Effect T α) : Prop :=
  ∀ s, wp x (fun _ s' => s'.ledger = s.ledger) (fun _ s' => s' = s) s

namespace Calm

lemma zoom {f : ε' → BudlumError} {x : Exec ρ ε' α} (hx : Atomic x)
    (hput : ∀ s, put s (get s) = s) (hledger : ∀ s r, (put s r).ledger = s.ledger) :
    Calm (zoom get put f x.run) := by
  intro s
  rw [wp_zoom]
  refine ⟨fun a r _ => hledger s r, fun e r hrun => ?_⟩
  rw [hx.error hrun]
  exact hput s

end Calm

/-- `x` cannot fail and leaves the accounts alone. -/
def Quiet (x : Effect T α) : Prop :=
  ∀ s, wp x (fun _ s' => s'.ledger = s.ledger) (fun _ _ => False) s

lemma Quiet.modify {f : AccountState T → AccountState T} (hf : ∀ s, (f s).ledger = s.ledger) :
    Quiet (modify f : Effect T Unit) := hf

lemma Quiet.attempt_zoom {f : ε' → BudlumError} {x : Exec ρ ε' α}
    (hledger : ∀ s r, (put s r).ledger = s.ledger) :
    Quiet (attempt (zoom get put f x.run : Effect T α) :
      Effect T (Except BudlumError α)) := by
  intro s
  rw [wp_attempt, wp_zoom]
  exact ⟨fun _ r _ => hledger s r, fun _ r _ => hledger s r⟩

section

variable (tx : Transaction T)

/-- `x` cannot fail once the sender holds the fee. -/
def Settles (x : Effect T α) : Prop :=
  ∀ s, tx.fee ≤ s.getBalance tx.sender →
    wp x (fun _ _ => True) (fun _ _ => False) s

/-- `x` fails without a trace once the sender holds the fee. -/
def Clean (x : Effect T α) : Prop :=
  ∀ s, tx.fee ≤ s.getBalance tx.sender →
    wp x (fun _ _ => True) (fun _ s' => Same s s') s

variable {tx}

lemma getBalance_of_ledger {s s' : AccountState T} (h : s'.ledger = s.ledger) (a : Address) :
    s'.getBalance a = s.getBalance a := by
  rw [getBalance_eq, getBalance_eq, account, account, h]

lemma Settles.fee {message : String} : Settles tx (chargeFee tx message) := by
  intro s hfee
  rw [chargeFee, wp_debit_of_le hfee]
  trivial

variable {x : Effect T α} {f : α → Effect T β}

lemma Settles.bind (hx : Quiet x) (hf : ∀ a, Settles tx (f a)) : Settles tx (x >>= f) := by
  intro s hfee
  rw [wp_bind]
  refine wp_mono (hx s) (fun a s' hledger => ?_) (fun _ _ h => h.elim)
  apply hf a s'
  rw [getBalance_of_ledger hledger]
  exact hfee

lemma Clean.of_settles (hx : Settles tx x) : Clean tx x := by
  intro s hfee
  exact wp_mono (hx s hfee) (fun _ _ h => h) (fun _ _ h => h.elim)

lemma Clean.check (hx : ReadOnly x) (hf : ∀ a, Clean tx (f a)) : Clean tx (x >>= f) := by
  intro s hfee
  rw [wp_bind]
  refine wp_mono (hx s) (fun a s' hs' => ?_) (fun _ s' hs' => hs' ▸ Same.refl s)
  subst hs'
  exact hf a s' hfee

/-- The last step that may fail is calm: what follows it is secured by the fee. -/
lemma Clean.call (hx : Calm x) (hf : ∀ a, Settles tx (f a)) : Clean tx (x >>= f) := by
  intro s hfee
  rw [wp_bind]
  refine wp_mono (hx s) (fun a s' hledger => ?_) (fun _ s' hs' => hs' ▸ Same.refl s)
  have hfee' : tx.fee ≤ s'.getBalance tx.sender := by
    rw [getBalance_of_ledger hledger]
    exact hfee
  exact wp_mono (hf a s' hfee') (fun _ _ h => h) (fun _ _ h => h.elim)

lemma Clean.call_fee {g : ε' → BudlumError} {y : Exec ρ ε' α} {message : String} (hy : Atomic y)
    (hput : ∀ s r, put s (get s) = s ∧ (put s r).ledger = s.ledger) :
    Clean tx (zoom get put g y.run >>= fun _ => chargeFee tx message) :=
  .call (.zoom hy (fun s => (hput s (get s)).1) fun s r => (hput s r).2) fun _ => .fee

end

/-! ## The arms that fail without a trace -/

section

variable {tx : Transaction T}

lemma clean_registerConsensusKeys (registration : ConsensusKeyRegistration) :
    Clean tx (applyRegisterConsensusKeys M tx registration) := by
  refine .check .failIf fun _ => ?_
  refine .check .ofExcept fun _ => ?_
  refine .check .read fun _ => ?_
  refine .check .ofOption fun v => ?_
  refine .check .failIf fun _ => ?_
  exact .of_settles (Settles.bind (Quiet.modify fun _ => rfl) fun _ => .fee)

lemma clean_unstake : Clean tx (applyUnstake M tx) := by
  refine .check .read fun _ => ?_
  refine .check .ofOption fun v => ?_
  intro s hfee
  simp only [setValidator, chargeFee, wp_rules]
  refine ⟨fun _ => Same.refl s, fun hstake => ⟨fun stake _ => ?_, fun hnone => ?_⟩⟩
  · -- only writes beside the accounts stand between the stake check and the fee
    exact (wp_debit_of_le (by exact hfee)).mpr trivial
  · exact absurd (checkedSub_eq_none.mp hnone) hstake

lemma clean_lubotOperatorUnbond (hM : M.Refusals) : Clean tx (applyLubotOperatorUnbond M tx) := by
  refine .check .failIf fun _ => ?_
  refine .call (fun s => ?_) fun _ => .fee
  simp only [beginLubotOperatorUnbonding, onRegistry, wp_mapError, wp_rules, wp_zoom]
  refine ⟨fun _ => trivial, fun _ => ⟨fun _ _ _ => trivial, fun e r hrun => ?_⟩⟩
  rw [(hM.beginUnbonding _ _ _).error hrun]

lemma clean_lubotOperatorWithdraw (hM : M.Refusals) :
    Clean tx (applyLubotOperatorWithdraw M tx) := by
  refine .check .failIf fun _ => ?_
  intro s _
  simp only [withdrawLubotOperator, onRegistry, wp_mapError, wp_rules, wp_zoom, wp_getOrCreate,
    wp_writeAccount]
  refine ⟨fun _ _ => ⟨fun _ _ => ⟨fun _ _ _ => trivial, fun e r hrun => ?_⟩, fun _ => Same.refl s⟩,
    fun _ => Same.refl s⟩
  rw [(hM.withdraw _ _ _).error hrun]
  exact Same.refl s

lemma clean_privateTransferSubmit (hM : M.Refusals) (sub : PrivateTransfer T) :
    Clean tx (applyPrivateTransferSubmit M tx sub) := by
  refine .check .failIf fun _ => ?_
  refine .check .ofExcept fun _ => ?_
  refine .check .failIf fun _ => ?_
  refine .check .ofExcept fun _ => ?_
  exact .call_fee (hM.applyTransfer _ _ _) fun _ _ => ⟨rfl, rfl⟩

/-! ### Execution proofs -/

lemma readOnly_checkRequiredProof (spec : AiModelSpec T) (proof : AiExecutionProof T) :
    ReadOnly (checkRequiredProof M spec proof) := by
  refine .bind .ofOption fun _ => .bind .ofOption fun _ => ?_
  refine .bind .failIf fun _ => .bind .failIf fun _ => ?_
  exact .bind .ofExcept fun _ => .ofExcept

lemma readOnly_checkProofSize (spec : AiModelSpec T) (size : ℕ) :
    ReadOnly (checkProofSize M spec size) := by
  refine .bind ?_ fun _ => ?_
  · refine .ite .pure ?_
    split
    · exact .bind .ofOption fun _ => .failIf
    · exact .pure
  · split
    · exact .ofExcept
    · exact .pure

lemma readOnly_checkExecutionProof (requestId : Id32) (proof : AiExecutionProof T) :
    ReadOnly (checkExecutionProof M tx requestId proof) := by
  refine .bind .read fun s => .bind .failIf fun _ => ?_
  refine .bind .ofOption fun req => .bind .ofOption fun results => ?_
  refine .bind .ofOption fun res => ?_
  refine .bind ?_ fun _ => .bind .failIf fun _ => .bind .failIf fun _ => ?_
  · unfold checkModelProof
    split
    · exact .ite (readOnly_checkRequiredProof _ proof) .pure
    · exact .pure
  · refine .bind ?_ fun _ => ?_
    · unfold checkModelSize
      split
      · exact readOnly_checkProofSize _ _
      · exact .pure
    · exact .bind .ofOption fun _ => .bind .ofExcept fun _ => .failIf

lemma clean_aiAttachExecutionProof (hM : M.Refusals) (requestId : Id32)
    (proof : AiExecutionProof T) : Clean tx (applyAiAttachExecutionProof M tx requestId proof) := by
  refine .check (readOnly_checkExecutionProof requestId proof) fun _ => ?_
  refine .call (Calm.zoom (hM.attachExecutionProof _ _ _) (fun _ => rfl) fun _ _ => rfl) fun _ => ?_
  exact .bind (Quiet.attempt_zoom fun _ _ => rfl) fun _ => .fee

end

end Executor

end Budlum
