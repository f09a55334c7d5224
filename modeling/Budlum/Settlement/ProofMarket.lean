import Budlum.Core.Address
import Budlum.Lib.Machine

/-!
# The proof market

`settlement/proof_market.rs`: tasks that provers take on, the receipts of the completed
ones and their payment. A task is known by its id among the active tasks only. Once it is
completed the same task can be added again, completed again and paid again; that, a
receipt that is handed in as paid, and a payment that overflows the total are the ways out
of the invariants below.
-/

namespace Budlum.ProofMarket

open Machine List

/-- `MAX_PROOF_MARKET_ACTIVE_TASKS`, `MAX_PROOF_MARKET_PENDING_RECEIPTS` and
`MAX_PROOF_TASK_EPOCH_SPAN`. -/
def maxActiveTasks : ℕ := 10000
def maxPendingReceipts : ℕ := 10000
def maxTaskEpochSpan : ℕ := 10000

def zeroHash : Hash32 := replicate 32 0

/-! ## Tasks -/

inductive ProofTaskKind where
  | domainCommitment (domainId domainHeight sequence : ℕ)
  | zkProof (circuitId publicInputsHash : Hash32)
  | syncCommitteeSig (domainId epoch : ℕ)
  | storageAttestation (dealId : Hash32) (challengeEpoch : ℕ)
deriving DecidableEq

namespace ProofTaskKind

def validate : ProofTaskKind → Except String Unit
  | .domainCommitment domainId domainHeight _ =>
    if domainId = 0 then .error "ProofTaskKind domain_id cannot be zero"
    else if domainHeight = 0 then .error "ProofTaskKind domain_height cannot be zero"
    else .ok ()
  | .zkProof circuitId publicInputsHash =>
    if circuitId = zeroHash then .error "ProofTaskKind circuit_id cannot be zero"
    else if publicInputsHash = zeroHash then .error "ProofTaskKind public_inputs_hash cannot be zero"
    else .ok ()
  | .syncCommitteeSig domainId epoch =>
    if domainId = 0 then .error "ProofTaskKind sync domain_id cannot be zero"
    else if epoch = 0 then .error "ProofTaskKind sync epoch cannot be zero"
    else .ok ()
  | .storageAttestation dealId challengeEpoch =>
    if dealId = zeroHash then .error "ProofTaskKind storage deal_id cannot be zero"
    else if challengeEpoch = 0 then .error "ProofTaskKind storage challenge_epoch cannot be zero"
    else .ok ()

/-- `canonical_bytes`, with the `tag` in front. -/
def canonicalBytes : ProofTaskKind → Bytes
  | .domainCommitment domainId domainHeight sequence =>
    1 :: u32LeBytes domainId ++ u64LeBytes domainHeight ++ u64LeBytes sequence
  | .zkProof circuitId publicInputsHash => 2 :: circuitId ++ publicInputsHash
  | .syncCommitteeSig domainId epoch => 3 :: u32LeBytes domainId ++ u64LeBytes epoch
  | .storageAttestation dealId challengeEpoch => 4 :: dealId ++ u64LeBytes challengeEpoch

end ProofTaskKind

inductive ProofTaskStatus where
  | pending
  | assigned (prover : Address) (assignedAtEpoch : ℕ)
  | completed
  | expired
  | failed (reason : String)
deriving DecidableEq

structure ProofTask where
  taskId : Hash32
  kind : ProofTaskKind
  creator : Address
  createdEpoch : ℕ
  deadlineEpoch : ℕ
  status : ProofTaskStatus
  reward : ℕ
  slashConditionHash : Hash32
  minProverStake : ℕ
deriving DecidableEq

/-! ## Receipts -/

inductive ReceiptStatus where
  | pending
  | paid
  | revoked (reason : String)
deriving DecidableEq

structure ProofReceipt where
  taskId : Hash32
  prover : Address
  verifiedEpoch : ℕ
  verificationHash : Hash32
  rewardClaimed : ℕ
  status : ReceiptStatus
deriving DecidableEq

section

-- `hash_fields_bytes`, and the `Debug` text of a status.
variable (hashFields : List Bytes → Hash32) (debugStatus : ProofTaskStatus → String)

namespace ProofTask

/-- `compute_task_id`, of the fields of a task. -/
def computeTaskId (task : ProofTask) : Hash32 :=
  hashFields [strBytes "BDLM_SETTLEMENT_PROOF_TASK_V2", task.kind.canonicalBytes,
    task.creator.asBytes, u64LeBytes task.createdEpoch, u64LeBytes task.deadlineEpoch,
    u64LeBytes task.reward, task.slashConditionHash, u64LeBytes task.minProverStake]

def validateShape (task : ProofTask) : Except String Unit :=
  if task.taskId = zeroHash then .error "ProofTask task_id cannot be zero"
  else if task.creator = .zero then .error "ProofTask creator cannot be zero"
  else do
    task.kind.validate
    if task.deadlineEpoch ≤ task.createdEpoch then
      .error "ProofTask deadline_epoch must be after created_epoch"
    else if task.deadlineEpoch - task.createdEpoch > maxTaskEpochSpan then
      .error (s!"ProofTask deadline_epoch is {task.deadlineEpoch - task.createdEpoch} epochs after " ++
        s!"created_epoch, the maximum is {maxTaskEpochSpan}")
    else if task.reward = 0 then .error "ProofTask reward must be >= 1"
    else if task.slashConditionHash = zeroHash then
      .error ("ProofTask slash_condition_hash cannot be zero: a task nobody can be punished for " ++
        "failing pays for a wrong answer as readily as a right one")
    else if task.taskId ≠ task.computeTaskId hashFields then .error "ProofTask task_id mismatch"
    else .ok ()

def isActive (task : ProofTask) : Bool :=
  match task.status with
  | .pending | .assigned _ _ => true
  | _ => false

def assign (prover : Address) (proverStake currentEpoch : ℕ) (task : ProofTask) :
    Except String ProofTask := do
  task.validateShape hashFields
  if prover = .zero then .error "ProofTask prover cannot be zero"
  else if proverStake < task.minProverStake then
    .error (s!"prover holds {proverStake} and this task requires {task.minProverStake} before " ++
      "assignment: the slash condition is worth nothing against a prover with nothing staked")
  else if task.status ≠ .pending then
    .error ("Task " ++ toString ((task.taskId.take 4).map UInt8.toNat) ++
      " is not pending (status: " ++ debugStatus task.status ++ ")")
  else if currentEpoch < task.createdEpoch then
    .error "Task cannot be assigned before created_epoch"
  else if currentEpoch > task.deadlineEpoch then .error "Task has already expired"
  else .ok { task with status := .assigned prover currentEpoch }

def complete (task : ProofTask) : Except String ProofTask :=
  match task.status with
  | .assigned _ _ => .ok { task with status := .completed }
  | .pending => .error "Task must be assigned before completing"
  | other => .error ("Cannot complete task in state " ++ debugStatus other)

end ProofTask

namespace ProofReceipt

def validateForTask (receipt : ProofReceipt) (task : ProofTask) : Except String Unit := do
  task.validateShape hashFields
  if receipt.taskId ≠ task.taskId then .error "ProofReceipt task_id mismatch"
  else if receipt.prover = .zero then .error "ProofReceipt prover cannot be zero"
  else
    match task.status with
    | .assigned prover assignedAtEpoch =>
      if receipt.prover ≠ prover then
        .error "ProofReceipt prover does not match assigned prover"
      else if receipt.verifiedEpoch < assignedAtEpoch ∨ receipt.verifiedEpoch > task.deadlineEpoch
        then .error "ProofReceipt verified_epoch outside task window"
      else if receipt.verificationHash = zeroHash then
        .error "ProofReceipt verification_hash cannot be zero"
      else if receipt.rewardClaimed = 0 ∨ receipt.rewardClaimed > task.reward then
        .error "ProofReceipt reward_claimed invalid"
      else .ok ()
    | _ => .error "ProofReceipt requires assigned task"

def markPaid (receipt : ProofReceipt) : Except String ProofReceipt :=
  if receipt.status ≠ .pending then .error "Receipt is not pending"
  else .ok { receipt with status := .paid }

def revoke (reason : String) (receipt : ProofReceipt) : Except String ProofReceipt :=
  if reason.isEmpty ∨ reason.utf8ByteSize > 256 then .error "Receipt revoke reason invalid"
  else
    match receipt.status with
    | .revoked _ => .error "Receipt is already revoked"
    | _ => .ok { receipt with status := .revoked reason }

def isPaid (receipt : ProofReceipt) : Bool := receipt.status == .paid

end ProofReceipt

/-! ## The market -/

structure ProofMarketState where
  activeTasks : List ProofTask
  pendingReceipts : List ProofReceipt
  totalRewardsPaid : ℕ
  totalTasksCompleted : ℕ
deriving DecidableEq

namespace ProofMarketState

def new : ProofMarketState := ⟨[], [], 0, 0⟩

variable (s : ProofMarketState)

def addTask (task : ProofTask) : Except String Unit × ProofMarketState :=
  match task.validateShape hashFields with
  | .error e => (.error e, s)
  | .ok () =>
    if task.isActive then
      if s.activeTasks.length ≥ maxActiveTasks then
        (.error "ProofMarketState active task limit exceeded", s)
      else if s.activeTasks.any fun existing => existing.taskId == task.taskId then
        (.error "ProofMarketState duplicate task", s)
      else (.ok (), { s with activeTasks := s.activeTasks ++ [task] })
    else (.ok (), s)

/-- `assign` on one of the active tasks. -/
def assignTask (index : ℕ) (prover : Address) (proverStake currentEpoch : ℕ) : ProofMarketState :=
  match s.activeTasks[index]? with
  | none => s
  | some task =>
    match task.assign hashFields debugStatus prover proverStake currentEpoch with
    | .error _ => s
    | .ok task => { s with activeTasks := s.activeTasks.set index task }

/-- The refusals of `complete_task` for the task at its place: the new count of completed
tasks when there is none. -/
def admitReceipt (task : ProofTask) (receipt : ProofReceipt)
    (verifyProof : ProofReceipt → Except String Unit) : Except String ℕ := do
  receipt.validateForTask hashFields task
  verifyProof receipt
  if s.pendingReceipts.length ≥ maxPendingReceipts then
    .error "ProofMarketState pending receipt limit exceeded"
  else
    match checkedAdd u64Max s.totalTasksCompleted 1 with
    | none => .error "ProofMarketState total_tasks_completed overflow"
    | some totalTasksCompleted => do
        let _ ← task.complete debugStatus
        .ok totalTasksCompleted

def completeTask (taskId : Hash32) (receipt : ProofReceipt)
    (verifyProof : ProofReceipt → Except String Unit) : Except String Unit × ProofMarketState :=
  let idx := s.activeTasks.findIdx fun t => t.taskId == taskId
  match s.activeTasks[idx]? with
  | none => (.error "Task not found in active tasks", s)
  | some task =>
    match s.admitReceipt hashFields debugStatus task receipt verifyProof with
    | .error e => (.error e, s)
    | .ok totalTasksCompleted =>
      (.ok (), { s with
        activeTasks := s.activeTasks.eraseIdx idx
        pendingReceipts := s.pendingReceipts ++ [receipt]
        totalTasksCompleted := totalTasksCompleted })

/-- `pay_receipt`. The receipt is marked before the total is added up. -/
def payReceipt (receiptIdx : ℕ) : Except String ℕ × ProofMarketState :=
  match s.pendingReceipts[receiptIdx]? with
  | none => (.error "Receipt index out of bounds", s)
  | some receipt =>
    match receipt.markPaid with
    | .error e => (.error e, s)
    | .ok paid =>
      let s := { s with pendingReceipts := s.pendingReceipts.set receiptIdx paid }
      match checkedAdd u64Max s.totalRewardsPaid receipt.rewardClaimed with
      | none => (.error "ProofMarketState total_rewards_paid overflow", s)
      | some total => (.ok receipt.rewardClaimed, { s with totalRewardsPaid := total })

/-- `revoke` on one of the receipts. -/
def revokeReceipt (receiptIdx : ℕ) (reason : String) : ProofMarketState :=
  match s.pendingReceipts[receiptIdx]? with
  | none => s
  | some receipt =>
    match receipt.revoke reason with
    | .error _ => s
    | .ok receipt => { s with pendingReceipts := s.pendingReceipts.set receiptIdx receipt }

def pruneExpired (currentEpoch : ℕ) : ProofMarketState :=
  { s with activeTasks := s.activeTasks.filter fun t =>
      decide (t.deadlineEpoch ≥ currentEpoch) || !t.isActive }

def prunePaidReceipts : ProofMarketState :=
  { s with pendingReceipts := s.pendingReceipts.filter fun r => !r.isPaid }

/-- The cap on the tasks in `enforce_max_sizes`. -/
def enforceMaxTasks (currentEpoch : ℕ) : ProofMarketState :=
  if s.activeTasks.length > maxActiveTasks then
    { s with activeTasks := s.activeTasks.filter fun t => decide (t.deadlineEpoch ≥ currentEpoch) }
  else s

/-- The cap on the receipts: the paid ones go first, then the oldest. -/
def enforceMaxReceipts : ProofMarketState :=
  if s.pendingReceipts.length > maxPendingReceipts then
    let s := s.prunePaidReceipts
    if s.pendingReceipts.length > maxPendingReceipts then
      { s with pendingReceipts :=
          s.pendingReceipts.drop (s.pendingReceipts.length - maxPendingReceipts) }
    else s
  else s

def enforceMaxSizes (currentEpoch : ℕ) : ProofMarketState :=
  (s.enforceMaxTasks currentEpoch).enforceMaxReceipts

/-- `close_epoch`, with the numbers of expired tasks and pruned receipts. -/
def closeEpoch (currentEpoch : ℕ) : (ℕ × ℕ) × ProofMarketState :=
  let pruned := s.pruneExpired currentEpoch
  let expired := s.activeTasks.length - pruned.activeTasks.length
  let settled := pruned.prunePaidReceipts
  let receiptsPruned := pruned.pendingReceipts.length - settled.pendingReceipts.length
  ((expired, receiptsPruned), settled.enforceMaxSizes currentEpoch)

end ProofMarketState

/-! ## Runs -/

inductive Op where
  | addTask (task : ProofTask)
  | assignTask (index : ℕ) (prover : Address) (proverStake currentEpoch : ℕ)
  | completeTask (taskId : Hash32) (receipt : ProofReceipt)
      (verifyProof : ProofReceipt → Except String Unit)
  | payReceipt (receiptIdx : ℕ)
  | revokeReceipt (receiptIdx : ℕ) (reason : String)
  | pruneExpired (currentEpoch : ℕ)
  | prunePaidReceipts
  | enforceMaxSizes (currentEpoch : ℕ)
  | closeEpoch (currentEpoch : ℕ)

/-- A market, and the receipts that `pay_receipt` has returned a reward for. -/
structure History where
  market : ProofMarketState
  paid : List ProofReceipt

/-- The receipts that an operation pays, as they are afterwards. -/
def Op.pays (s : ProofMarketState) : Op → List ProofReceipt
  | .payReceipt receiptIdx =>
    match s.payReceipt receiptIdx with
    | (.ok _, s') => s'.pendingReceipts[receiptIdx]?.toList
    | (.error _, _) => []
  | _ => []

def Op.apply (s : ProofMarketState) : Op → ProofMarketState
  | .addTask task => (s.addTask hashFields task).2
  | .assignTask index prover proverStake currentEpoch =>
    s.assignTask hashFields debugStatus index prover proverStake currentEpoch
  | .completeTask taskId receipt verifyProof =>
    (s.completeTask hashFields debugStatus taskId receipt verifyProof).2
  | .payReceipt receiptIdx => (s.payReceipt receiptIdx).2
  | .revokeReceipt receiptIdx reason => s.revokeReceipt receiptIdx reason
  | .pruneExpired currentEpoch => s.pruneExpired currentEpoch
  | .prunePaidReceipts => s.prunePaidReceipts
  | .enforceMaxSizes currentEpoch => s.enforceMaxSizes currentEpoch
  | .closeEpoch currentEpoch => (s.closeEpoch currentEpoch).2

def History.step (h : History) (op : Op) : History :=
  ⟨op.apply hashFields debugStatus h.market, h.paid ++ op.pays h.market⟩

def History.run (ops : List Op) : History :=
  ops.foldl (History.step hashFields debugStatus) ⟨.new, []⟩

/-! ## What an operation does -/

/-- Every way in which an operation changes the market, and what it pays. -/
inductive Effect (s : ProofMarketState) : Op → ProofMarketState → List ProofReceipt → Prop
  | unchanged (op : Op) : Effect s op s []
  | added {task : ProofTask} (hfresh : ∀ t ∈ s.activeTasks, t.taskId ≠ task.taskId)
      (hroom : s.activeTasks.length < maxActiveTasks) :
      Effect s (.addTask task) { s with activeTasks := s.activeTasks ++ [task] } []
  | assigned {op : Op} {tasks : List ProofTask}
      (hids : tasks.map ProofTask.taskId = s.activeTasks.map ProofTask.taskId) :
      Effect s op { s with activeTasks := tasks } []
  | completed {idx count : ℕ} {task : ProofTask} {receipt : ProofReceipt}
      {verifyProof : ProofReceipt → Except String Unit} (htask : s.activeTasks[idx]? = some task)
      (hid : receipt.taskId = task.taskId) (hroom : s.pendingReceipts.length < maxPendingReceipts) :
      Effect s (.completeTask task.taskId receipt verifyProof)
        { s with
          activeTasks := s.activeTasks.eraseIdx idx
          pendingReceipts := s.pendingReceipts ++ [receipt]
          totalTasksCompleted := count } []
  | paid {idx total : ℕ} {receipt : ProofReceipt} (hat : s.pendingReceipts[idx]? = some receipt)
      (hpending : receipt.status = .pending) :
      Effect s (.payReceipt idx)
        { s with
          pendingReceipts := s.pendingReceipts.set idx { receipt with status := .paid }
          totalRewardsPaid := total } [{ receipt with status := .paid }]
  | overflowed {idx : ℕ} {receipt : ProofReceipt} (hat : s.pendingReceipts[idx]? = some receipt)
      (hpending : receipt.status = .pending)
      (hover : u64Max < s.totalRewardsPaid + receipt.rewardClaimed) :
      Effect s (.payReceipt idx)
        { s with pendingReceipts := s.pendingReceipts.set idx { receipt with status := .paid } } []
  | revoked {op : Op} {idx : ℕ} {receipt : ProofReceipt} {reason : String}
      (hat : s.pendingReceipts[idx]? = some receipt) :
      Effect s op { s with
        pendingReceipts := s.pendingReceipts.set idx { receipt with status := .revoked reason } } []
  | pruned {op : Op} {tasks : List ProofTask} {receipts : List ProofReceipt}
      (htasks : tasks.Sublist s.activeTasks) (hreceipts : receipts.Sublist s.pendingReceipts) :
      Effect s op { s with activeTasks := tasks, pendingReceipts := receipts } []

variable {hashFields debugStatus}

variable {task t : ProofTask} {epoch idx : ℕ}

lemma assign_taskId {task' : ProofTask} {prover : Address} {stake : ℕ}
    (h : task.assign hashFields debugStatus prover stake epoch = .ok task') :
    task'.taskId = task.taskId := by
  unfold ProofTask.assign at h
  cases hshape : task.validateShape hashFields with
  | error e => rw [hshape] at h; cases h
  | ok _ =>
    rw [hshape] at h
    simp only [bind, Except.bind] at h
    split_ifs at h
    cases h
    rfl

variable {α β : Type}

lemma map_set_of_eq (f : α → β) {l : List α} {i : ℕ} {x y : α}
    (hat : l[i]? = some x) (hxy : f y = f x) : (l.set i y).map f = l.map f := by
  obtain ⟨hi, rfl⟩ := List.getElem?_eq_some_iff.mp hat
  apply ext_getElem (by simp)
  intro j _ _
  rcases eq_or_ne i j with rfl | hne
  · simp [hxy]
  · simp [hne]

variable {receipt : ProofReceipt}

lemma validateForTask_taskId
    (h : receipt.validateForTask hashFields task = .ok ()) : receipt.taskId = task.taskId := by
  by_contra hid
  unfold ProofReceipt.validateForTask at h
  cases hshape : task.validateShape hashFields with
  | error e => rw [hshape] at h; cases h
  | ok _ =>
    simp only [hshape, bind, Except.bind] at h
    rw [if_pos hid] at h
    cases h

variable {s : ProofMarketState}

lemma admitReceipt_eq_ok {verifyProof : ProofReceipt → Except String Unit} {count : ℕ}
    (h : s.admitReceipt hashFields debugStatus task receipt verifyProof = .ok count) :
    receipt.taskId = task.taskId ∧ s.pendingReceipts.length < maxPendingReceipts := by
  unfold ProofMarketState.admitReceipt at h
  cases hvalid : receipt.validateForTask hashFields task with
  | error e => rw [hvalid] at h; cases h
  | ok _ =>
    rw [hvalid] at h
    refine ⟨validateForTask_taskId hvalid, ?_⟩
    cases hproof : verifyProof receipt with
    | error e => rw [hproof] at h; cases h
    | ok _ =>
      simp only [hproof, bind, Except.bind] at h
      split_ifs at h with hroom
      exact not_le.mp hroom

lemma effect_payReceipt (s : ProofMarketState) (receiptIdx : ℕ) :
    Effect s (.payReceipt receiptIdx) (s.payReceipt receiptIdx).2
      (Op.pays s (.payReceipt receiptIdx)) := by
  unfold Op.pays
  cases hat : s.pendingReceipts[receiptIdx]? with
  | none => simpa [ProofMarketState.payReceipt, hat] using .unchanged _
  | some receipt =>
    obtain ⟨hlt, -⟩ := List.getElem?_eq_some_iff.mp hat
    by_cases hpending : receipt.status = .pending
    · cases htotal : checkedAdd u64Max s.totalRewardsPaid receipt.rewardClaimed with
      | none =>
        simpa [ProofMarketState.payReceipt, hat, ProofReceipt.markPaid, hpending, htotal] using
          .overflowed hat hpending (checkedAdd_eq_none.mp htotal)
      | some total =>
        have hpay : s.payReceipt receiptIdx = (.ok receipt.rewardClaimed,
            { s with
              pendingReceipts := s.pendingReceipts.set receiptIdx { receipt with status := .paid }
              totalRewardsPaid := total }) := by
          simp [ProofMarketState.payReceipt, hat, ProofReceipt.markPaid, hpending, htotal]
        simp only [hpay, List.getElem?_set_self hlt, Option.toList_some]
        exact .paid hat hpending
    · simpa [ProofMarketState.payReceipt, hat, ProofReceipt.markPaid, hpending] using
        .unchanged _

/-- The prunes keep part of the tasks and of the receipts, and the two totals. -/
structure PrunedFrom (s s' : ProofMarketState) : Prop where
  tasks : s'.activeTasks.Sublist s.activeTasks
  receipts : s'.pendingReceipts.Sublist s.pendingReceipts
  rewards : s'.totalRewardsPaid = s.totalRewardsPaid
  completed : s'.totalTasksCompleted = s.totalTasksCompleted

namespace PrunedFrom

variable {s s' s'' : ProofMarketState}

lemma refl (s : ProofMarketState) : PrunedFrom s s := ⟨.refl _, .refl _, rfl, rfl⟩

lemma trans (h : PrunedFrom s s') (h' : PrunedFrom s' s'') : PrunedFrom s s'' :=
  ⟨h'.tasks.trans h.tasks, h'.receipts.trans h.receipts, h'.rewards.trans h.rewards,
    h'.completed.trans h.completed⟩

lemma effect (h : PrunedFrom s s') (op : Op) : Effect s op s' [] := by
  obtain ⟨tasks, receipts, rewards, completed⟩ := s'
  obtain rfl := h.rewards
  obtain rfl := h.completed
  exact .pruned h.tasks h.receipts

variable (s)

lemma pruneExpired (epoch : ℕ) : PrunedFrom s (s.pruneExpired epoch) :=
  ⟨filter_sublist, .refl _, rfl, rfl⟩

lemma prunePaidReceipts : PrunedFrom s s.prunePaidReceipts :=
  ⟨.refl _, filter_sublist, rfl, rfl⟩

lemma enforceMaxTasks (epoch : ℕ) : PrunedFrom s (s.enforceMaxTasks epoch) := by
  unfold ProofMarketState.enforceMaxTasks
  split_ifs
  · exact ⟨filter_sublist, .refl _, rfl, rfl⟩
  · exact refl s

lemma enforceMaxReceipts : PrunedFrom s s.enforceMaxReceipts := by
  unfold ProofMarketState.enforceMaxReceipts
  split_ifs
  · dsimp only
    split_ifs
    · generalize s.prunePaidReceipts.pendingReceipts.length - maxPendingReceipts = excess
      exact (prunePaidReceipts s).trans ⟨.refl _, drop_sublist .., rfl, rfl⟩
    · exact prunePaidReceipts s
  · exact refl s

lemma enforceMaxSizes (epoch : ℕ) : PrunedFrom s (s.enforceMaxSizes epoch) :=
  (enforceMaxTasks s epoch).trans (enforceMaxReceipts _)

lemma closeEpoch (epoch : ℕ) : PrunedFrom s (s.closeEpoch epoch).2 :=
  (pruneExpired s epoch).trans ((prunePaidReceipts _).trans (enforceMaxSizes _ epoch))

end PrunedFrom

lemma Op.effect (s : ProofMarketState) (op : Op) :
    Effect s op (op.apply hashFields debugStatus s) (op.pays s) := by
  cases op with
  | addTask task =>
    dsimp only [Op.apply, Op.pays]
    unfold ProofMarketState.addTask
    split
    · exact .unchanged _
    · split_ifs with hactive hroom hdup
      · exact .unchanged _
      · exact .unchanged _
      · refine .added (fun t ht heq => hdup ?_) (not_le.mp hroom)
        exact any_eq_true.mpr ⟨t, ht, by simpa using heq⟩
      · exact .unchanged _
  | assignTask =>
    dsimp only [Op.apply, Op.pays]
    unfold ProofMarketState.assignTask
    split
    · exact .unchanged _
    · rename_i task htask
      split
      · exact .unchanged _
      · rename_i task' hassign
        exact .assigned (map_set_of_eq _ htask (assign_taskId hassign))
  | completeTask taskId receipt verifyProof =>
    dsimp only [Op.apply, Op.pays]
    unfold ProofMarketState.completeTask
    dsimp only
    split
    · exact .unchanged _
    · rename_i task htask
      split
      · exact .unchanged _
      · rename_i count hadmitted
        obtain ⟨hid, hroom⟩ := admitReceipt_eq_ok hadmitted
        obtain rfl : task.taskId = taskId := by
          obtain ⟨hlt, rfl⟩ := List.getElem?_eq_some_iff.mp htask
          simpa using findIdx_getElem (w := hlt)
        exact .completed htask hid hroom
  | payReceipt receiptIdx => exact effect_payReceipt s receiptIdx
  | revokeReceipt receiptIdx reason =>
    dsimp only [Op.apply, Op.pays]
    unfold ProofMarketState.revokeReceipt
    split
    · exact .unchanged _
    · rename_i receipt hat
      split
      · exact .unchanged _
      · rename_i receipt' hrevoke
        unfold ProofReceipt.revoke at hrevoke
        split_ifs at hrevoke
        split at hrevoke
        · cases hrevoke
        · cases hrevoke
          exact .revoked hat
  | pruneExpired epoch => exact (PrunedFrom.pruneExpired s epoch).effect _
  | prunePaidReceipts => exact (PrunedFrom.prunePaidReceipts s).effect _
  | enforceMaxSizes epoch => exact (PrunedFrom.enforceMaxSizes s epoch).effect _
  | closeEpoch epoch => exact (PrunedFrom.closeEpoch s epoch).effect _

/-! ## Payments -/

/-- The ids in `done` have been completed: none of them is active, and those that were paid
have no receipt left to pay. -/
structure Settled (h : History) (done : List Hash32) : Prop where
  tasks_nodup : (h.market.activeTasks.map ProofTask.taskId).Nodup
  tasks_open : ∀ t ∈ h.market.activeTasks, t.taskId ∉ done
  receipts_nodup : (h.market.pendingReceipts.map ProofReceipt.taskId).Nodup
  receipts_done : ∀ r ∈ h.market.pendingReceipts, r.taskId ∈ done
  paid_nodup : (h.paid.map ProofReceipt.taskId).Nodup
  paid_done : ∀ r ∈ h.paid, r.taskId ∈ done
  unpaid : ∀ r ∈ h.market.pendingReceipts, r.status = .pending →
    r.taskId ∉ h.paid.map ProofReceipt.taskId

lemma forall_mem_concat {l : List α} {x : α} {p : α → Prop} :
    (∀ y ∈ l ++ [x], p y) ↔ (∀ y ∈ l, p y) ∧ p x := by
  rw [forall_mem_append, forall_mem_singleton]

lemma forall_mem_set {l : List α} {i : ℕ} {x : α} {p : α → Prop} (h : ∀ y ∈ l, p y) (hx : p x) :
    ∀ y ∈ l.set i x, p y := by
  intro y hy
  rcases mem_or_eq_of_mem_set hy with hy | rfl
  · exact h y hy
  · exact hx

lemma nodup_map_concat {f : α → β} {l : List α} {x : α} (hnodup : (l.map f).Nodup)
    (hnew : ∀ y ∈ l, f y ≠ f x) : ((l ++ [x]).map f).Nodup := by
  rw [map_append, map_singleton]
  refine List.Nodup.append hnodup (nodup_singleton _) (disjoint_singleton.mpr ?_)
  rw [mem_map]
  rintro ⟨y, hy, heq⟩
  exact hnew y hy heq

lemma exists_mem_of_map_eq {f : α → β} {l l' : List α} (h : l.map f = l'.map f)
    {x : α} (hx : x ∈ l) : ∃ y ∈ l', f y = f x :=
  mem_map.mp (h ▸ mem_map_of_mem hx)

lemma mem_eraseIdx_ne {tasks : List ProofTask}
    (hnodup : (tasks.map ProofTask.taskId).Nodup) (htask : tasks[idx]? = some task)
    (ht : t ∈ tasks.eraseIdx idx) : t.taskId ≠ task.taskId := by
  obtain ⟨hlt, rfl⟩ := List.getElem?_eq_some_iff.mp htask
  obtain ⟨j, hj, hne, rfl⟩ := mem_eraseIdx_iff_getElem.mp ht
  intro heq
  exact hne ((List.getElem?_inj (by simpa using hj) hnodup).mp (by simp [hj, hlt, heq]))

lemma Settled.mark {paid : List ProofReceipt} {done : List Hash32}
    (hs : Settled ⟨s, paid⟩ done) {status : ReceiptStatus}
    (hat : s.pendingReceipts[idx]? = some receipt) (hstatus : status ≠ .pending) (total : ℕ) :
    Settled ⟨{ s with
      pendingReceipts := s.pendingReceipts.set idx { receipt with status }
      totalRewardsPaid := total }, paid⟩ done := by
  have hids : (s.pendingReceipts.set idx { receipt with status }).map ProofReceipt.taskId =
      s.pendingReceipts.map ProofReceipt.taskId := map_set_of_eq _ hat rfl
  refine { hs with receipts_nodup := ?_, receipts_done := ?_, unpaid := ?_ }
  · rw [hids]
    exact hs.receipts_nodup
  · exact forall_mem_set hs.receipts_done (hs.receipts_done receipt (mem_of_getElem? hat))
  · exact forall_mem_set hs.unpaid fun hpending => absurd hpending hstatus

section

variable {s : ProofMarketState} {paid : List ProofReceipt} {done : List Hash32}

lemma Settled.add (hs : Settled ⟨s, paid⟩ done) {task : ProofTask}
    (hfresh : ∀ t ∈ s.activeTasks, t.taskId ≠ task.taskId) (hopen : task.taskId ∉ done) :
    Settled ⟨{ s with activeTasks := s.activeTasks ++ [task] }, paid⟩ done := by
  refine { hs with tasks_nodup := nodup_map_concat hs.tasks_nodup hfresh, tasks_open := ?_ }
  exact forall_mem_concat.mpr ⟨hs.tasks_open, hopen⟩

variable {tasks : List ProofTask}

lemma Settled.assign (hs : Settled ⟨s, paid⟩ done)
    (hids : tasks.map ProofTask.taskId = s.activeTasks.map ProofTask.taskId) :
    Settled ⟨{ s with activeTasks := tasks }, paid⟩ done := by
  refine { hs with tasks_nodup := hids ▸ hs.tasks_nodup, tasks_open := ?_ }
  intro t ht
  obtain ⟨t', ht', heq⟩ := exists_mem_of_map_eq hids ht
  exact heq ▸ hs.tasks_open t' ht'

variable {receipt : ProofReceipt}

section

variable (hs : Settled ⟨s, paid⟩ done)
include hs

lemma Settled.complete {idx : ℕ} {task : ProofTask}
    (htask : s.activeTasks[idx]? = some task) (hid : receipt.taskId = task.taskId) (count : ℕ) :
    Settled ⟨{ s with
      activeTasks := s.activeTasks.eraseIdx idx
      pendingReceipts := s.pendingReceipts ++ [receipt]
      totalTasksCompleted := count }, paid⟩ (task.taskId :: done) := by
  have hopen := hs.tasks_open task (mem_of_getElem? htask)
  refine ⟨?_, ?_, ?_, ?_, hs.paid_nodup, ?_, ?_⟩
  · exact hs.tasks_nodup.sublist ((eraseIdx_sublist ..).map _)
  · intro t ht
    rw [mem_cons, not_or]
    exact ⟨mem_eraseIdx_ne hs.tasks_nodup htask ht, hs.tasks_open t (mem_of_mem_eraseIdx ht)⟩
  · refine nodup_map_concat hs.receipts_nodup fun r hr heq => hopen ?_
    rw [← hid, ← heq]
    exact hs.receipts_done r hr
  · rw [← hid]
    exact forall_mem_concat.mpr ⟨fun r hr => mem_cons_of_mem _ (hs.receipts_done r hr), mem_cons_self⟩
  · exact fun r hr => mem_cons_of_mem _ (hs.paid_done r hr)
  · refine forall_mem_concat.mpr ⟨hs.unpaid, fun _ hmem => ?_⟩
    obtain ⟨r', hr', heq⟩ := mem_map.mp hmem
    exact hopen (hid ▸ heq ▸ hs.paid_done r' hr')

lemma Settled.pay {idx : ℕ}
    (hat : s.pendingReceipts[idx]? = some receipt) (hpending : receipt.status = .pending)
    (total : ℕ) :
    Settled ⟨{ s with
      pendingReceipts := s.pendingReceipts.set idx { receipt with status := .paid }
      totalRewardsPaid := total }, paid ++ [{ receipt with status := .paid }]⟩ done := by
  have hmem := mem_of_getElem? hat
  have hmarked : Settled ⟨{ s with
      pendingReceipts := s.pendingReceipts.set idx { receipt with status := .paid }
      totalRewardsPaid := total }, paid⟩ done := hs.mark hat (by decide) total
  refine { hmarked with paid_nodup := ?_, paid_done := ?_, unpaid := ?_ }
  · refine nodup_map_concat hs.paid_nodup fun r hr heq => ?_
    exact hs.unpaid receipt hmem hpending (mem_map.mpr ⟨r, hr, heq⟩)
  · exact forall_mem_concat.mpr ⟨hs.paid_done, hs.receipts_done receipt hmem⟩
  · intro r hr hrpending
    rw [map_append, mem_append, not_or]
    refine ⟨hmarked.unpaid r hr hrpending, fun hsame => ?_⟩
    -- ids are not repeated: a receipt with the id of the paid one is the paid one
    have hpaidmem : { receipt with status := .paid } ∈
        s.pendingReceipts.set idx { receipt with status := .paid } :=
      mem_set (List.getElem?_eq_some_iff.mp hat).1 _
    obtain rfl := inj_on_of_nodup_map hmarked.receipts_nodup hr hpaidmem
      (by simpa using hsame)
    cases hrpending

lemma Settled.prune {receipts : List ProofReceipt} (htasks : tasks.Sublist s.activeTasks)
    (hreceipts : receipts.Sublist s.pendingReceipts) :
    Settled ⟨{ s with activeTasks := tasks, pendingReceipts := receipts }, paid⟩ done := by
  refine ⟨?_, ?_, ?_, ?_, hs.paid_nodup, hs.paid_done, ?_⟩
  · exact hs.tasks_nodup.sublist (htasks.map _)
  · exact fun t ht => hs.tasks_open t (htasks.subset ht)
  · exact hs.receipts_nodup.sublist (hreceipts.map _)
  · exact fun r hr => hs.receipts_done r (hreceipts.subset hr)
  · exact fun r hr hpending => hs.unpaid r (hreceipts.subset hr) hpending

/-- An effect keeps it, if no task is added that is done; only a completion makes an id
done. -/
lemma Settled.effect {s' : ProofMarketState} {pays : List ProofReceipt} {op : Op}
    (he : Effect s op s' pays) (hadd : ∀ task, op = .addTask task → task.taskId ∉ done) :
    ∃ done', Settled ⟨s', paid ++ pays⟩ done' ∧ ∀ id ∈ done',
      id ∈ done ∨ ∃ receipt verifyProof, op = .completeTask id receipt verifyProof := by
  cases he with
  | unchanged =>
    rw [append_nil]
    exact ⟨done, hs, fun id hid => .inl hid⟩
  | @added task hfresh hroom =>
    rw [append_nil]
    exact ⟨done, hs.add hfresh (hadd task rfl), fun id hid => .inl hid⟩
  | @assigned _ tasks hids =>
    rw [append_nil]
    exact ⟨done, hs.assign hids, fun id hid => .inl hid⟩
  | @completed idx count task receipt verifyProof htask hid hroom =>
    rw [append_nil]
    refine ⟨task.taskId :: done, hs.complete htask hid count, fun id hmem => ?_⟩
    rcases mem_cons.mp hmem with rfl | hmem
    · exact .inr ⟨receipt, verifyProof, rfl⟩
    · exact .inl hmem
  | @paid idx total receipt hat hpending =>
    exact ⟨done, hs.pay hat hpending total, fun id hid => .inl hid⟩
  | @overflowed idx receipt hat hpending hover =>
    rw [append_nil]
    exact ⟨done, hs.mark hat (by decide) s.totalRewardsPaid, fun id hid => .inl hid⟩
  | @revoked _ idx receipt reason hat =>
    rw [append_nil]
    exact ⟨done, hs.mark hat (by simp) s.totalRewardsPaid, fun id hid => .inl hid⟩
  | @pruned _ tasks receipts htasks hreceipts =>
    rw [append_nil]
    exact ⟨done, hs.prune htasks hreceipts, fun id hid => .inl hid⟩

end

end

/-- No task is added after a completion of its id was asked for. -/
def NoRevival (ops : List Op) : Prop :=
  ops.Pairwise fun op later => ∀ id receipt verifyProof task,
    op = .completeTask id receipt verifyProof → later = .addTask task → task.taskId ≠ id

lemma Settled.foldl {ops : List Op} {h : History} {done : List Hash32} (hs : Settled h done)
    (hno : NoRevival ops) (hadd : ∀ task, .addTask task ∈ ops → task.taskId ∉ done) :
    ∃ done', Settled (ops.foldl (History.step hashFields debugStatus) h) done' := by
  induction ops generalizing h done with
  | nil => exact ⟨done, hs⟩
  | cons op ops ih =>
    obtain ⟨hop, hops⟩ := pairwise_cons.mp hno
    obtain ⟨done', hs', hdone⟩ := hs.effect (Op.effect h.market op)
      fun task heq => hadd task (heq ▸ mem_cons_self)
    refine ih hs' hops fun task htask hid => ?_
    rcases hdone _ hid with hold | ⟨receipt, verifyProof, rfl⟩
    · exact hadd task (mem_cons_of_mem _ htask) hold
    · exact hop _ htask _ _ _ task rfl rfl rfl

variable (hashFields debugStatus)

/-- In a run in which no completed task is added again every task is paid at most once. -/
theorem paid_at_most_once (ops : List Op) (hno : NoRevival ops) (id : Hash32) :
    ((History.run hashFields debugStatus ops).paid.map ProofReceipt.taskId).count id ≤ 1 := by
  have hempty : Settled ⟨.new, []⟩ [] := by
    constructor <;> simp [ProofMarketState.new]
  obtain ⟨done, hs⟩ : ∃ done, Settled (History.run hashFields debugStatus ops) done :=
    hempty.foldl hno fun task _ => not_mem_nil
  exact nodup_iff_count_le_one.mp hs.paid_nodup id

/-! ## What the market holds -/

variable {hashFields debugStatus}

/-- Ids are not repeated, among the tasks, among the receipts or between them, the limits
hold, and a receipt that is marked as paid was paid. -/
structure Orderly (h : History) : Prop where
  tasks_nodup : (h.market.activeTasks.map ProofTask.taskId).Nodup
  receipts_nodup : (h.market.pendingReceipts.map ProofReceipt.taskId).Nodup
  apart : ∀ t ∈ h.market.activeTasks, ∀ r ∈ h.market.pendingReceipts, t.taskId ≠ r.taskId
  tasks_le : h.market.activeTasks.length ≤ maxActiveTasks
  receipts_le : h.market.pendingReceipts.length ≤ maxPendingReceipts
  paid_logged : ∀ r ∈ h.market.pendingReceipts, r.status = .paid → r ∈ h.paid

/-- What keeps the market orderly: a task is not added while a receipt for it is held, a
receipt is not handed in as paid, and a payment does not overflow the total. -/
def Op.Proper (s : ProofMarketState) : Op → Prop
  | .addTask task => ∀ r ∈ s.pendingReceipts, r.taskId ≠ task.taskId
  | .completeTask _ receipt _ => receipt.status ≠ .paid
  | .payReceipt receiptIdx => ∀ r, s.pendingReceipts[receiptIdx]? = some r → r.status = .pending →
      s.totalRewardsPaid + r.rewardClaimed ≤ u64Max
  | _ => True

section

variable {s : ProofMarketState} {paid : List ProofReceipt}

lemma Orderly.add (ho : Orderly ⟨s, paid⟩) {task : ProofTask}
    (hfresh : ∀ t ∈ s.activeTasks, t.taskId ≠ task.taskId)
    (hroom : s.activeTasks.length < maxActiveTasks)
    (hnew : ∀ r ∈ s.pendingReceipts, r.taskId ≠ task.taskId) :
    Orderly ⟨{ s with activeTasks := s.activeTasks ++ [task] }, paid⟩ := by
  refine { ho with tasks_nodup := nodup_map_concat ho.tasks_nodup hfresh, apart := ?_, tasks_le := ?_ }
  · exact forall_mem_concat.mpr ⟨ho.apart, fun r hr => (hnew r hr).symm⟩
  · rw [length_append]
    exact hroom

variable {tasks : List ProofTask}

lemma Orderly.assign (ho : Orderly ⟨s, paid⟩)
    (hids : tasks.map ProofTask.taskId = s.activeTasks.map ProofTask.taskId) :
    Orderly ⟨{ s with activeTasks := tasks }, paid⟩ := by
  refine { ho with tasks_nodup := hids ▸ ho.tasks_nodup, apart := ?_, tasks_le := ?_ }
  · intro t ht r hr
    obtain ⟨t', ht', heq⟩ := exists_mem_of_map_eq hids ht
    exact heq ▸ ho.apart t' ht' r hr
  · have hlen := congrArg length hids
    rw [length_map, length_map] at hlen
    exact hlen ▸ ho.tasks_le

variable {receipt : ProofReceipt}

section

variable (ho : Orderly ⟨s, paid⟩)
include ho

lemma Orderly.complete {idx : ℕ} {task : ProofTask}
    (htask : s.activeTasks[idx]? = some task) (hid : receipt.taskId = task.taskId)
    (hroom : s.pendingReceipts.length < maxPendingReceipts) (hunpaid : receipt.status ≠ .paid)
    (count : ℕ) :
    Orderly ⟨{ s with
      activeTasks := s.activeTasks.eraseIdx idx
      pendingReceipts := s.pendingReceipts ++ [receipt]
      totalTasksCompleted := count }, paid⟩ := by
  have hmem := mem_of_getElem? htask
  have herase := eraseIdx_sublist s.activeTasks idx
  refine ⟨ho.tasks_nodup.sublist (herase.map _), ?_, ?_, herase.length_le.trans ho.tasks_le, ?_, ?_⟩
  · exact nodup_map_concat ho.receipts_nodup fun r hr heq =>
      ho.apart task hmem r hr (hid.symm.trans heq.symm)
  · intro t ht
    refine forall_mem_concat.mpr ⟨ho.apart t (herase.subset ht), ?_⟩
    rw [hid]
    exact mem_eraseIdx_ne ho.tasks_nodup htask ht
  · rw [length_append]
    exact hroom
  · exact forall_mem_concat.mpr ⟨ho.paid_logged, fun hstatus => absurd hstatus hunpaid⟩

lemma Orderly.mark {paid' : List ProofReceipt} {idx : ℕ}
    {status : ReceiptStatus} (hat : s.pendingReceipts[idx]? = some receipt) (total : ℕ)
    (hlogged : ∀ r ∈ s.pendingReceipts.set idx { receipt with status }, r.status = .paid → r ∈ paid') :
    Orderly ⟨{ s with
      pendingReceipts := s.pendingReceipts.set idx { receipt with status }
      totalRewardsPaid := total }, paid'⟩ := by
  have hids : (s.pendingReceipts.set idx { receipt with status }).map ProofReceipt.taskId =
      s.pendingReceipts.map ProofReceipt.taskId := map_set_of_eq _ hat rfl
  refine ⟨ho.tasks_nodup, by rw [hids]; exact ho.receipts_nodup, fun t ht r hr => ?_, ho.tasks_le,
    by rw [length_set]; exact ho.receipts_le, hlogged⟩
  obtain ⟨r', hr', heq⟩ := exists_mem_of_map_eq hids hr
  exact heq ▸ ho.apart t ht r' hr'

lemma Orderly.prune {receipts : List ProofReceipt} (htasks : tasks.Sublist s.activeTasks)
    (hreceipts : receipts.Sublist s.pendingReceipts) :
    Orderly ⟨{ s with activeTasks := tasks, pendingReceipts := receipts }, paid⟩ where
  tasks_nodup := ho.tasks_nodup.sublist (htasks.map _)
  receipts_nodup := ho.receipts_nodup.sublist (hreceipts.map _)
  apart t ht r hr := ho.apart t (htasks.subset ht) r (hreceipts.subset hr)
  tasks_le := htasks.length_le.trans ho.tasks_le
  receipts_le := hreceipts.length_le.trans ho.receipts_le
  paid_logged r hr := ho.paid_logged r (hreceipts.subset hr)

lemma Orderly.effect {s' : ProofMarketState} {pays : List ProofReceipt} {op : Op}
    (he : Effect s op s' pays) (hproper : op.Proper s) : Orderly ⟨s', paid ++ pays⟩ := by
  cases he with
  | unchanged =>
    rw [append_nil]
    exact ho
  | @added task hfresh hroom =>
    rw [append_nil]
    exact ho.add hfresh hroom hproper
  | @assigned _ tasks hids =>
    rw [append_nil]
    exact ho.assign hids
  | @completed idx count task receipt verifyProof htask hid hroom =>
    rw [append_nil]
    exact ho.complete htask hid hroom hproper count
  | @paid idx total receipt hat hpending =>
    refine ho.mark hat total (forall_mem_set (fun r hr hstatus => ?_) fun _ => ?_)
    · exact mem_append_left _ (ho.paid_logged r hr hstatus)
    · exact mem_append_right _ mem_cons_self
  | @overflowed idx receipt hat hpending hover =>
    exact absurd hover (not_lt.mpr (hproper receipt hat hpending))
  | @revoked _ idx receipt reason hat =>
    rw [append_nil]
    exact ho.mark hat s.totalRewardsPaid (forall_mem_set ho.paid_logged fun hstatus => by cases hstatus)
  | @pruned _ tasks receipts htasks hreceipts =>
    rw [append_nil]
    exact ho.prune htasks hreceipts

end

end

variable (hashFields debugStatus) in
def ProperFrom (h : History) : List Op → Prop
  | [] => True
  | op :: ops => op.Proper h.market ∧ ProperFrom (h.step hashFields debugStatus op) ops

lemma Orderly.foldl {ops : List Op} {h : History} (ho : Orderly h)
    (hproper : ProperFrom hashFields debugStatus h ops) :
    Orderly (ops.foldl (History.step hashFields debugStatus) h) := by
  induction ops generalizing h with
  | nil => exact ho
  | cons op ops ih => exact ih (ho.effect (Op.effect h.market op) hproper.1) hproper.2

/-- The operations that clean up, and the epoch they take for the present one. -/
def Op.Prunes (epoch : ℕ) : Op → Prop
  | .pruneExpired currentEpoch | .enforceMaxSizes currentEpoch | .closeEpoch currentEpoch =>
    currentEpoch = epoch
  | .prunePaidReceipts => True
  | _ => False

namespace ProofMarketState

variable {s : ProofMarketState} {epoch : ℕ} {t : ProofTask} {r : ProofReceipt}

lemma mem_pruneExpired (ht : t ∈ s.activeTasks) (hlive : epoch ≤ t.deadlineEpoch) :
    t ∈ (s.pruneExpired epoch).activeTasks :=
  mem_filter.mpr ⟨ht, by simp [hlive]⟩

lemma mem_prunePaidReceipts (hr : r ∈ s.pendingReceipts) (hunpaid : r.status ≠ .paid) :
    r ∈ s.prunePaidReceipts.pendingReceipts :=
  mem_filter.mpr ⟨hr, by simp [ProofReceipt.isPaid, hunpaid]⟩

lemma enforceMaxReceipts_activeTasks (s : ProofMarketState) :
    s.enforceMaxReceipts.activeTasks = s.activeTasks := by
  unfold enforceMaxReceipts
  split_ifs
  · dsimp only
    split_ifs <;> rfl
  · rfl

lemma enforceMaxTasks_pendingReceipts (s : ProofMarketState) (epoch : ℕ) :
    (s.enforceMaxTasks epoch).pendingReceipts = s.pendingReceipts := by
  unfold enforceMaxTasks
  split_ifs <;> rfl

lemma mem_enforceMaxSizes_activeTasks (ht : t ∈ s.activeTasks) (hlive : epoch ≤ t.deadlineEpoch) :
    t ∈ (s.enforceMaxSizes epoch).activeTasks := by
  unfold enforceMaxSizes
  rw [enforceMaxReceipts_activeTasks]
  unfold enforceMaxTasks
  split_ifs
  · exact mem_filter.mpr ⟨ht, decide_eq_true hlive⟩
  · exact ht

lemma enforceMaxSizes_pendingReceipts (hle : s.pendingReceipts.length ≤ maxPendingReceipts) :
    (s.enforceMaxSizes epoch).pendingReceipts = s.pendingReceipts := by
  have hcapped := enforceMaxTasks_pendingReceipts s epoch
  unfold enforceMaxSizes enforceMaxReceipts
  rw [if_neg (by rw [hcapped]; exact hle.not_gt), hcapped]

end ProofMarketState

lemma Op.Prunes.mem_activeTasks {op : Op} (hop : op.Prunes epoch) (ht : t ∈ s.activeTasks)
    (hlive : epoch ≤ t.deadlineEpoch) : t ∈ (op.apply hashFields debugStatus s).activeTasks := by
  cases op with
  | pruneExpired currentEpoch =>
    obtain rfl := hop
    exact ProofMarketState.mem_pruneExpired ht hlive
  | prunePaidReceipts => exact ht
  | enforceMaxSizes currentEpoch =>
    obtain rfl := hop
    exact ProofMarketState.mem_enforceMaxSizes_activeTasks ht hlive
  | closeEpoch currentEpoch =>
    obtain rfl := hop
    have hkept := ProofMarketState.mem_pruneExpired ht hlive
    exact ProofMarketState.mem_enforceMaxSizes_activeTasks hkept hlive
  | _ => exact hop.elim

lemma Op.Prunes.mem_pendingReceipts {op : Op}
    (hop : op.Prunes epoch) (hle : s.pendingReceipts.length ≤ maxPendingReceipts)
    {r : ProofReceipt} (hr : r ∈ s.pendingReceipts) (hunpaid : r.status ≠ .paid) :
    r ∈ (op.apply hashFields debugStatus s).pendingReceipts := by
  have hkept := ProofMarketState.mem_prunePaidReceipts hr hunpaid
  cases op with
  | pruneExpired currentEpoch => exact hr
  | prunePaidReceipts => exact hkept
  | enforceMaxSizes currentEpoch =>
    show r ∈ (s.enforceMaxSizes currentEpoch).pendingReceipts
    rw [ProofMarketState.enforceMaxSizes_pendingReceipts hle]
    exact hr
  | closeEpoch currentEpoch =>
    -- the receipts that are left after the prune are at most as many as before
    have hfewer := (PrunedFrom.prunePaidReceipts (s.pruneExpired currentEpoch)).receipts.length_le
    show r ∈ ((s.pruneExpired currentEpoch).prunePaidReceipts.enforceMaxSizes
      currentEpoch).pendingReceipts
    rw [ProofMarketState.enforceMaxSizes_pendingReceipts (hfewer.trans hle)]
    exact hkept
  | _ => exact hop.elim

variable (hashFields debugStatus)

/-- In a run of proper operations task ids and receipt ids are unique, the limits hold, and
no clean-up drops a task that has time left or a receipt that was not paid. -/
theorem market_kept (ops : List Op)
    (hproper : ProperFrom hashFields debugStatus ⟨.new, []⟩ ops) :
    let h := History.run hashFields debugStatus ops
    (h.market.activeTasks.map ProofTask.taskId).Nodup ∧
    (h.market.pendingReceipts.map ProofReceipt.taskId).Nodup ∧
    h.market.activeTasks.length ≤ maxActiveTasks ∧
    h.market.pendingReceipts.length ≤ maxPendingReceipts ∧
    ∀ (epoch : ℕ) (op : Op), op.Prunes epoch →
      (∀ t ∈ h.market.activeTasks, t.isActive → epoch ≤ t.deadlineEpoch →
        t ∈ (op.apply hashFields debugStatus h.market).activeTasks) ∧
      ∀ r ∈ h.market.pendingReceipts, r ∉ h.paid →
        r ∈ (op.apply hashFields debugStatus h.market).pendingReceipts := by
  intro h
  have hempty : Orderly ⟨.new, []⟩ := by
    constructor <;> simp [ProofMarketState.new]
  have ho : Orderly h := hempty.foldl hproper
  refine ⟨ho.tasks_nodup, ho.receipts_nodup, ho.tasks_le, ho.receipts_le, ?_⟩
  intro epoch op hop
  refine ⟨fun t ht _ hlive => hop.mem_activeTasks ht hlive, fun r hr hunpaid => ?_⟩
  exact hop.mem_pendingReceipts ho.receipts_le hr fun hstatus =>
    hunpaid (ho.paid_logged r hr hstatus)

/-! ## Failing operations -/

def Op.Fails (s : ProofMarketState) : Op → Prop
  | .addTask task => ∃ e, (s.addTask hashFields task).1 = .error e
  | .assignTask index prover proverStake currentEpoch => ∃ task ∈ s.activeTasks[index]?, ∃ e,
    task.assign hashFields debugStatus prover proverStake currentEpoch = .error e
  | .completeTask taskId receipt verifyProof => ∃ e,
    (s.completeTask hashFields debugStatus taskId receipt verifyProof).1 = .error e
  | .payReceipt receiptIdx => ∃ e, (s.payReceipt receiptIdx).1 = .error e
  | .revokeReceipt receiptIdx reason => ∃ receipt ∈ s.pendingReceipts[receiptIdx]?, ∃ e,
    receipt.revoke reason = .error e
  | _ => False

/-- A pending receipt is paid whose reward the total has no room for. -/
def Op.Overflows (s : ProofMarketState) : Op → Prop
  | .payReceipt receiptIdx => ∃ receipt ∈ s.pendingReceipts[receiptIdx]?,
    receipt.status = .pending ∧ u64Max < s.totalRewardsPaid + receipt.rewardClaimed
  | _ => False

variable {hashFields debugStatus}

lemma payReceipt_unchanged_iff (s : ProofMarketState) (idx : ℕ) :
    (∀ e, (s.payReceipt idx).1 = .error e → (s.payReceipt idx).2 = s) ↔
      ¬ Op.Overflows s (.payReceipt idx) := by
  unfold ProofMarketState.payReceipt ProofReceipt.markPaid Op.Overflows
  cases hat : s.pendingReceipts[idx]? with
  | none => simp [hat]
  | some receipt =>
    by_cases hpending : receipt.status = .pending
    · obtain ⟨hlt, rfl⟩ := List.getElem?_eq_some_iff.mp hat
      cases htotal : checkedAdd u64Max s.totalRewardsPaid s.pendingReceipts[idx].rewardClaimed with
      | none =>
        have hover := checkedAdd_eq_none.mp htotal
        refine iff_of_false (fun h => ?_) fun h => h ⟨_, hat, hpending, hover⟩
        -- the receipt was marked before the total was found to overflow
        simp [hpending, htotal] at h
        have hstatus := congrArg (·.pendingReceipts[idx]?.map ProofReceipt.status) h
        simp [hlt, hpending] at hstatus
      | some total =>
        have hfits := (checkedAdd_eq_some.mp htotal).1
        simpa [hat, hpending, htotal] using hfits
    · simp [hat, hpending]

/-- An operation that fails leaves the market as it is, unless it is a payment that overflows
the total. -/
theorem failed_op_unchanged_iff (s : ProofMarketState) (op : Op) :
    (op.Fails hashFields debugStatus s → op.apply hashFields debugStatus s = s) ↔
      ¬ op.Overflows s := by
  cases op with
  | payReceipt idx =>
    rw [← payReceipt_unchanged_iff]
    exact exists_imp
  | addTask task =>
    refine iff_of_true ?_ id
    rintro ⟨e, he⟩
    simp only [Op.apply]
    unfold ProofMarketState.addTask at he ⊢
    split
    · rfl
    · split_ifs at he ⊢ <;> simp_all
  | assignTask index =>
    refine iff_of_true ?_ id
    rintro ⟨task, htask, e, he⟩
    simp only [Op.apply, ProofMarketState.assignTask, Option.mem_def.mp htask, he]
  | completeTask taskId receipt verifyProof =>
    refine iff_of_true ?_ id
    rintro ⟨e, he⟩
    simp only [Op.apply]
    unfold ProofMarketState.completeTask at he ⊢
    dsimp only at he ⊢
    split
    · rfl
    · split <;> simp_all
  | revokeReceipt index reason =>
    refine iff_of_true ?_ id
    rintro ⟨receipt, hreceipt, e, he⟩
    simp only [Op.apply, ProofMarketState.revokeReceipt, Option.mem_def.mp hreceipt, he]
  | _ => exact iff_of_true (fun h => h.elim) id

theorem overflowing_payment_marks :
    let receipt : ProofReceipt := ⟨[], .zero, 0, [], 1, .pending⟩
    let s : ProofMarketState := ⟨[], [receipt], u64Max, 0⟩
    (s.payReceipt 0).1.isOk = false ∧ (s.payReceipt 0).2.pendingReceipts.map ProofReceipt.status =
      [.paid] := by
  decide

end

/-! ## One task, paid twice -/

/-- A hash to compute with: a task is known by its creator. -/
def creatorHash (fields : List Bytes) : Hash32 := fields.getD 2 []

def sampleTask (creator : Address) (reward : ℕ) : ProofTask where
  taskId := creator.asBytes
  kind := .syncCommitteeSig 1 1
  creator := creator
  createdEpoch := 0
  deadlineEpoch := 10
  status := .pending
  reward := reward
  slashConditionHash := replicate 32 1
  minProverStake := 0

def sampleReceipt (creator : Address) (reward : ℕ) : ProofReceipt where
  taskId := creator.asBytes
  prover := ⟨9⟩
  verifiedEpoch := 1
  verificationHash := replicate 32 1
  rewardClaimed := reward
  status := .pending

/-- A task is added, assigned and completed, with its receipt accepted. -/
def cycle (creator : Address) (reward : ℕ) : List Op :=
  [.addTask (sampleTask creator reward), .assignTask 0 ⟨9⟩ 0 1,
    .completeTask creator.asBytes (sampleReceipt creator reward) fun _ => .ok ()]

theorem paid_at_most_once_cycle :
    ((History.run creatorHash (fun _ => "") (cycle ⟨1⟩ 5 ++ [.payReceipt 0])).paid.map
      ProofReceipt.taskId).count (Address.asBytes ⟨1⟩) ≤ 1 :=
  paid_at_most_once creatorHash _ _ (by simp [NoRevival, cycle]) _

/-- The task of creator 1 is added again after it was paid, and is paid again. -/
theorem task_paid_twice :
    ((History.run creatorHash (fun _ => "") (cycle ⟨1⟩ 5 ++ [.payReceipt 0] ++ cycle ⟨1⟩ 5 ++
      [.payReceipt 1])).paid.map ProofReceipt.taskId).count (Address.asBytes ⟨1⟩) = 2 := by
  decide +kernel

theorem market_kept_cycle :
    ((History.run creatorHash (fun _ => "") (cycle ⟨1⟩ 5)).market.pendingReceipts.map
      ProofReceipt.taskId).Nodup :=
  (market_kept creatorHash (fun _ => "") (cycle ⟨1⟩ 5)
    (by simp [cycle, ProperFrom, Op.Proper, ProofMarketState.new, sampleReceipt])).2.1

/-- A task that is added again while its receipt is held gives two receipts of one id; a
payment that overflows the total, and a receipt handed in as paid, leave a receipt that the
next prune drops although no reward was returned for it. -/
theorem market_not_kept :
    ¬ ((History.run creatorHash (fun _ => "") (cycle ⟨1⟩ 5 ++ cycle ⟨1⟩ 5)).market.pendingReceipts.map
      ProofReceipt.taskId).Nodup ∧
    (let h := History.run creatorHash (fun _ => "")
        (cycle ⟨1⟩ u64Max ++ [.payReceipt 0] ++ cycle ⟨2⟩ u64Max ++ [.payReceipt 1])
      ∃ r ∈ h.market.pendingReceipts, r ∉ h.paid ∧
        r ∉ h.market.prunePaidReceipts.pendingReceipts) ∧
    let h := History.run creatorHash (fun _ => "")
        [.addTask (sampleTask ⟨1⟩ 5), .assignTask 0 ⟨9⟩ 0 1, .completeTask (Address.asBytes ⟨1⟩)
          { sampleReceipt ⟨1⟩ 5 with status := .paid } fun _ => .ok ()]
      ∃ r ∈ h.market.pendingReceipts, r ∉ h.paid ∧
        r ∉ h.market.prunePaidReceipts.pendingReceipts := by
  decide +kernel

end Budlum.ProofMarket
