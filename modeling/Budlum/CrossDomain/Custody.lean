import Budlum.CrossDomain.Bridge

/-!
# What the bridge holds

Value on its way over the bridge is held by the bridge: a transfer that is locked or
burned stands for its amount. Each operation on the bridge state moves one transfer,
adds one, or releases the expired ones, and what it does to the sum held is said here.
-/

namespace Budlum

open Machine Exec BridgeTransfer SortedMap List

/-- The amount a transfer holds back: all of it while it is locked or burned. -/
def BridgeTransfer.held (t : BridgeTransfer) : ℕ :=
  match t.status with
  | .locked _ => t.amount
  | .burned _ => t.amount
  | _ => 0

lemma BridgeTransfer.held_of_locked {t : BridgeTransfer} {domain : ℕ}
    (h : t.status = .locked domain) : t.held = t.amount := by
  rw [held, h]

lemma BridgeTransfer.held_of_burned {t : BridgeTransfer} {domain : ℕ}
    (h : t.status = .burned domain) : t.held = t.amount := by
  rw [held, h]

namespace BridgeState

def custody (b : BridgeState) : ℕ := b.transfers.sumBy held

/-- Every transfer of `b'` is one of `b`, with its amount. -/
def Restated (b b' : BridgeState) : Prop :=
  ∀ id t', b'.transfers.get? id = some t' → ∃ t, b.transfers.get? id = some t ∧ t.amount = t'.amount

lemma Restated.refl (b : BridgeState) : Restated b b := fun _ t ht => ⟨t, ht, rfl⟩

lemma Restated.trans {b₁ b₂ b₃ : BridgeState} (h : Restated b₁ b₂) (h' : Restated b₂ b₃) :
    Restated b₁ b₃ := by
  intro id t₃ ht₃
  obtain ⟨t₂, ht₂, hamount₂⟩ := h' id t₃ ht₃
  obtain ⟨t₁, ht₁, hamount₁⟩ := h id t₂ ht₂
  exact ⟨t₁, ht₁, hamount₁.trans hamount₂⟩

variable {b : BridgeState} {id : Id32} {t : BridgeTransfer} {status location : BridgeStatus}

lemma custody_setStatus (hget : b.transfers.get? id = some t) :
    (b.setStatus id t status location).custody + t.held =
      b.custody + held { t with status } := by
  have hsum := b.transfers.sumBy_insert held id { t with status }
  rw [hget] at hsum
  exact hsum

lemma restated_setStatus (hget : b.transfers.get? id = some t) :
    Restated b (b.setStatus id t status location) := by
  intro id' t' ht'
  simp only [setStatus, get?_insert] at ht'
  split_ifs at ht' with heq
  · cases ht'
    exact ⟨t, heq ▸ hget, rfl⟩
  · exact ⟨t', ht', rfl⟩

/-- A transfer changes its status from `b` to `b'`, and nothing else happens to any. -/
structure Moved (id : Id32) (t : BridgeTransfer) (status : BridgeStatus) (b b' : BridgeState) :
    Prop where
  before : b.getTransfer id = some t
  after : b'.getTransfer id = some { t with status }
  custody : b'.custody + t.held = b.custody + held { t with status }
  restated : Restated b b'

lemma Moved.ne {b' : BridgeState} (h : Moved id t status b b') (hstatus : t.status ≠ status) :
    b' ≠ b := by
  rintro rfl
  exact hstatus (congrArg BridgeTransfer.status (Option.some.inj (h.before.symm.trans h.after)))

lemma moved_setStatus (hget : b.transfers.get? id = some t) (replay : ReplayNonceStore) :
    Moved id t status b (({ b with replay } : BridgeState).setStatus id t status location) :=
  ⟨hget, get?_insert_self _ _ _, custody_setStatus hget, restated_setStatus hget⟩

variable {hashFields : List Bytes → Hash32}

lemma moved_mint (message : CrossDomainMessage) :
    Ensures (fun b b' => ∃ t, t.status = .locked message.sourceDomain ∧
        Moved message.messageId t (.minted message.targetDomain) b b')
      (mint hashFields message) := by
  intro b
  simp only [mint, wp_steps, not_not, ne_eq]
  intro _ t hget _ _ hstatus replay _
  exact ⟨t, hstatus, moved_setStatus hget replay⟩

lemma moved_burnWithEvent (messageId : Id32) (domain domainHeight eventIndex expiryHeight : ℕ) :
    Ensures (fun b b' => ∃ t, t.status = .minted domain ∧ Moved messageId t (.burned domain) b b')
      (burnWithEvent hashFields messageId domain domainHeight eventIndex expiryHeight) := by
  intro b
  simp only [burnWithEvent, wp_steps, not_not, ne_eq]
  intro t hget hstatus
  exact ⟨t, hstatus, moved_setStatus hget _⟩

lemma moved_unlock (messageId : Id32) (domain : ℕ) :
    Ensures (fun b b' => ∃ t, t.status = .burned t.targetDomain ∧
        Moved messageId t (.unlocked t.sourceDomain) b b') (unlock messageId domain) := by
  intro b
  simp only [unlock, wp_steps, not_not, ne_eq]
  exact fun t hget hstatus _ => ⟨t, hstatus, moved_setStatus hget b.replay⟩

/-- A lock under an id that is not taken adds one transfer, locked, under the id of
the message it emits. -/
structure Locked (b : BridgeState) (amount : ℕ) (result : BridgeTransfer × DomainEvent)
    (b' : BridgeState) : Prop where
  amount_eq : result.1.amount = amount
  message : ∃ m, result.2.message = some m ∧ m.messageId = result.1.messageId
  custody : b.transfers.get? result.1.messageId = none → b'.custody = b.custody + amount
  transfers : ∀ id, b'.transfers.get? id =
    if id = result.1.messageId then some result.1 else b.transfers.get? id

lemma wp_lock {sourceDomain targetDomain sourceHeight eventIndex amount expiryHeight : ℕ}
    {assetId : Id32} {owner recipient : Address} :
    wp (lock hashFields sourceDomain targetDomain sourceHeight eventIndex assetId owner
      recipient amount expiryHeight) (fun result b' => Locked b amount result b')
      (fun _ _ => True) b := by
  simp only [lock, requireAssetStatus, wp_steps, wp_ite]
  have hinsert : ∀ t : BridgeTransfer, b.transfers.get? t.messageId = none →
      t.status = .locked sourceDomain →
      (b.transfers.insert t.messageId t).sumBy held = b.custody + t.amount := by
    intro t hnone hstatus
    have hsum := b.transfers.sumBy_insert held t.messageId t
    simpa [custody, hnone, held, hstatus] using hsum
  -- the queue of expiries is the only difference between the two branches
  intro _ _ _
  refine ⟨fun _ => ⟨rfl, ⟨_, rfl, rfl⟩, fun hnone => hinsert _ hnone rfl, fun id => ?_⟩,
    fun _ => ⟨rfl, ⟨_, rfl, rfl⟩, fun hnone => hinsert _ hnone rfl, fun id => ?_⟩⟩
  · exact get?_insert _ _ _ _
  · exact get?_insert _ _ _ _

/-- A sweep hands out exactly what it stops holding. -/
def Swept (acc acc' : List (Address × ℕ) × BridgeState) : Prop :=
  (acc'.1.map Prod.snd).sum + acc'.2.custody = (acc.1.map Prod.snd).sum + acc.2.custody ∧
    Restated acc.2 acc'.2

lemma Swept.refl (acc : List (Address × ℕ) × BridgeState) : Swept acc acc :=
  ⟨rfl, Restated.refl _⟩

lemma Swept.trans {acc₁ acc₂ acc₃ : List (Address × ℕ) × BridgeState} (h : Swept acc₁ acc₂)
    (h' : Swept acc₂ acc₃) : Swept acc₁ acc₃ :=
  ⟨h'.1.trans h.1, h.2.trans h'.2⟩

lemma swept_foldl {β : Type} {f : List (Address × ℕ) × BridgeState → β →
    List (Address × ℕ) × BridgeState} (hf : ∀ acc x, Swept acc (f acc x)) (xs : List β) :
    ∀ acc, Swept acc (xs.foldl f acc) := by
  induction xs with
  | nil => exact Swept.refl
  | cons x xs ih => exact fun acc => (hf acc x).trans (ih _)

lemma swept_releaseLock (acc : List (Address × ℕ) × BridgeState) (id : Id32) :
    Swept acc (releaseLock acc id) := by
  unfold releaseLock
  split
  · next t hget =>
    split
    · next domain hstatus =>
      refine ⟨?_, restated_setStatus hget⟩
      have hcustody := @custody_setStatus acc.2 id t (.active domain) (.active domain) hget
      simp only [held, hstatus] at hcustody
      simp only [map_append, map_cons, map_nil, sum_append, sum_cons,
        sum_nil]
      omega
    · exact Swept.refl acc
  · exact Swept.refl acc

lemma swept_sweepHeight (acc : List (Address × ℕ) × BridgeState) (height : ℕ) :
    Swept acc (sweepHeight acc height) := by
  unfold sweepHeight
  split
  · -- dropping the queue of a height changes no transfer
    exact Swept.trans ⟨rfl, Restated.refl acc.2⟩ (swept_foldl swept_releaseLock _ _)
  · exact Swept.refl acc

lemma swept_sweepExpiredLocks (b : BridgeState) (currentHeight : ℕ) :
    Swept ([], b) (b.sweepExpiredLocks currentHeight) :=
  swept_foldl swept_sweepHeight _ _

/-- A sweep refunds what it takes out of custody. -/
theorem sweep_refunds_custody (b : BridgeState) (currentHeight : ℕ) :
    ((b.sweepExpiredLocks currentHeight).1.map Prod.snd).sum +
      (b.sweepExpiredLocks currentHeight).2.custody = b.custody := by
  simpa using (swept_sweepExpiredLocks b currentHeight).1

end BridgeState

end Budlum
