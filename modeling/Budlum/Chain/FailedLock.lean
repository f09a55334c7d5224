import Budlum.Chain.BridgeLedger

/-!
# Locks that fail

`lock_bridge_transfer` enters the transfer into the bridge state before it knows that
the owner can pay and that the message can be registered. A call that fails after that
point leaves the transfer behind, and the sweep refunds it when it expires.
-/

namespace Budlum.Blockchain

open Machine AccountState Exec BridgeState

variable {T : ModuleTypes} {M : Modules T} {c : Blockchain T} {req : LockRequest}

def LockRequest.enter (M : Modules T) (req : LockRequest) :
    Exec BridgeState String (BridgeTransfer × DomainEvent) :=
  lock M.hashFields req.sourceDomain req.targetDomain req.sourceHeight req.eventIndex
    req.assetId req.owner req.recipient req.amount req.expiryHeight

def LockRequest.message (M : Modules T) (req : LockRequest) (b : BridgeState) :
    CrossDomainMessage :=
  lockMessage M.hashFields req.sourceDomain req.targetDomain req.sourceHeight
    req.eventIndex (b.replay.nextNonce req.sourceDomain req.targetDomain req.owner).1 req.assetId
    req.owner req.recipient req.amount req.expiryHeight

def BridgeReady (c : Blockchain T) (domainId : ℕ) : Prop :=
  ∃ domain, c.domainRegistry.get? domainId = some domain ∧ domain.isActive = true ∧
    domain.bridgeEnabled = true

/-- The checks in front of the bridge state pass, its own included. -/
def LockEnters (c : Blockchain T) (req : LockRequest) : Prop :=
  BridgeReady c req.sourceDomain ∧ BridgeReady c req.targetDomain ∧
    req.sourceDomain ≠ req.targetDomain ∧ req.amount ≠ 0 ∧ req.sourceHeight < req.expiryHeight ∧
    c.state.bridgeState.assetLocations.get? req.assetId = some (.active req.sourceDomain)

def DiskRefuses (c : Blockchain T) (save : Storage → Except String Unit) : Prop :=
  ∃ store e, c.storage = some store ∧ save store = .error e

/-- One of the steps after the bridge state fails: the amount is no `u64`, the owner cannot
pay it, the disk refuses the new bridge state, the message is expired or known, or the
disk refuses it. -/
def LockFailsLate (M : Modules T) (c : Blockchain T) (req : LockRequest) : Prop :=
  u64Max < req.amount ∨ c.state.getBalance req.owner < req.amount ∨
    DiskRefuses c (fun store =>
      store.saveBridgeState ((req.enter M).run c.state.bridgeState).2) ∨
    req.expiryHeight < c.chain.length ∨
    c.state.messageRegistry.contains (req.message M c.state.bridgeState).messageId = true ∨
    DiskRefuses c fun store => store.saveCrossDomainMessage (req.message M c.state.bridgeState)

/-! ## Entering the bridge state -/

variable {b : BridgeState}

lemma enter_of_active
    (hactive : b.assetLocations.get? req.assetId = some (.active req.sourceDomain)) :
    ∃ result b', (req.enter M).run b = (.ok result, b') ∧
      result.2.message = some (req.message M b) ∧
      b'.assetLocations.get? req.assetId = some (.locked req.sourceDomain) := by
  apply exists_run_of_wp
  simp only [LockRequest.enter, lock, requireAssetStatus, wp_steps, wp_ite, hactive,
    Option.some.injEq, forall_eq', ne_eq, not_true_eq_false, false_implies, not_false_eq_true,
    forall_const, reduceCtorEq]
  exact ⟨fun _ => ⟨rfl, SortedMap.get?_insert_self _ _ _⟩,
    fun _ => ⟨rfl, SortedMap.get?_insert_self _ _ _⟩⟩

lemma enter_refused
    (hactive : b.assetLocations.get? req.assetId ≠ some (.active req.sourceDomain)) :
    wp (req.enter M) (fun _ _ => False) (fun _ b' => b' = b) b := by
  unfold LockRequest.enter lock requireAssetStatus
  rw [wp_bind, wp_bind, wp_read, wp_bind, wp_ofOption]
  refine ⟨fun location hlocation => ?_, fun _ => rfl⟩
  rw [wp_failIf]
  refine ⟨fun _ => rfl, fun hsame => ?_⟩
  rw [not_not.mp hsame] at hlocation
  exact absurd hlocation hactive

/-! ## What comes after -/

lemma wp_requireBridgeDomain {domainId : ℕ} {Q : Unit → Blockchain T → Prop}
    {E : String → Blockchain T → Prop} (hE : ∀ e, E e c) :
    wp (requireBridgeDomain domainId) Q E c ↔ (BridgeReady c domainId → Q () c) := by
  simp only [requireBridgeDomain, wp_steps, hE, BridgeReady, not_or, Bool.not_eq_false]
  constructor
  · rintro h ⟨domain, hget, hready⟩
    exact h domain hget hready
  · intro h domain hget hready
    exact h ⟨domain, hget, hready⟩

lemma fails_persist_iff {text : String} {save : Storage → Except String Unit} :
    Fails (persist text save) c ↔ DiskRefuses c save := by
  unfold persist DiskRefuses Fails
  rw [wp_bind, wp_read]
  cases c.storage with
  | none => simp
  | some store => cases hsave : save store <;> simp [hsave]

lemma fails_persistBridgeState_iff : Fails (persistBridgeState : Method T Unit) c ↔
    DiskRefuses c fun store => store.saveBridgeState c.state.bridgeState := by
  rw [persistBridgeState, Fails, wp_bind, wp_read]
  exact fails_persist_iff

lemma fails_emitEvent_iff {event : DomainEvent} {m : CrossDomainMessage}
    (hmessage : event.message = some m) (hverify : m.verifyId M.hashFields = true)
    (hdomains : m.sourceDomain ≠ m.targetDomain) (hexpiry : 0 < m.expiryHeight) :
    Fails (emitEvent M event) c ↔ m.expiryHeight < c.chain.length ∨
      c.state.messageRegistry.contains m.messageId = true ∨
      DiskRefuses c fun store => store.saveCrossDomainMessage m := by
  have hpersist : ∀ d : Blockchain T, d.storage = c.storage →
      (wp (persistMessage m) (fun _ _ => False) (fun _ _ => True) d ↔
        DiskRefuses c fun store => store.saveCrossDomainMessage m) := by
    intro d hd
    rw [DiskRefuses, ← hd]
    exact fails_persist_iff
  simp only [Fails, emitEvent, hmessage, submitCrossDomainMessage, insertMessage,
    enqueueBridgeRelay, onState, wp_steps, wp_zoom_run, hverify, hdomains, hexpiry,
    Bool.true_eq_false, gt_iff_lt, not_false_eq_true, forall_const, or_iff_not_imp_left]
  exact imp_congr_right fun _ => imp_congr_right fun _ => hpersist _ rfl

def ownerDebited (c : Blockchain T) (owner : Address) (amount : ℕ) : Blockchain T :=
  let account := { c.state.account owner with balance := c.state.getBalance owner - amount }
  { c with state := c.state.setAccount owner account }

lemma fails_debitOwner_iff {α : Type} {owner : Address} {amount : ℕ} {f : Unit → Method T α} :
    Fails (debitOwner owner amount >>= f) c ↔ c.state.getBalance owner < amount ∨
      Fails (f ()) (ownerDebited c owner amount) := by
  simp only [Fails, debitOwner, onState, wp_steps, wp_zoom_run, wp_accounts, or_iff_not_imp_left]
  rfl

lemma lockMessage_verifies (b : BridgeState) :
    (req.message M b).verifyId M.hashFields = true := by
  simp [CrossDomainMessage.verifyId, LockRequest.message, lockMessage,
    CrossDomainMessage.withId, CrossDomainMessage.calculateMessageId]

def settleLock (M : Modules T) (req : LockRequest) (result : BridgeTransfer × DomainEvent) :
    Method T (BridgeTransfer × DomainEvent) := do
  failIf (u64Max < req.amount)
    "Bridge transfer amount exceeds maximum representable balance (u64 overflow)"
  debitOwner req.owner req.amount
  persistBridgeState
  emitEvent M result.2
  pure result

variable {result : BridgeTransfer × DomainEvent}

lemma fails_settleLock_iff {b' : BridgeState} (hdomains : req.sourceDomain ≠ req.targetDomain)
    (hexpiry : req.sourceHeight < req.expiryHeight)
    (hmessage : result.2.message = some (req.message M b)) :
    Fails (settleLock M req result) { c with state := { c.state with bridgeState := b' } } ↔
      u64Max < req.amount ∨ c.state.getBalance req.owner < req.amount ∨
        DiskRefuses c (fun store => store.saveBridgeState b') ∨
        req.expiryHeight < c.chain.length ∨
        c.state.messageRegistry.contains (req.message M b).messageId = true ∨
        DiskRefuses c fun store => store.saveCrossDomainMessage (req.message M b) := by
  have hpositive : 0 < req.expiryHeight := by omega
  have hemit : ∀ d : Blockchain T, Fails (emitEvent M result.2 >>= fun _ => pure result) d ↔
      Fails (emitEvent M result.2) d := by
    intro d
    rw [Fails, wp_bind]
    rfl
  rw [settleLock, fails_check_iff .failIf, fails_failIf_iff, fails_debitOwner_iff,
    fails_check_iff readOnly_persistBridgeState, fails_persistBridgeState_iff, hemit,
    fails_emitEvent_iff hmessage (lockMessage_verifies b) hdomains hpositive]
  rfl

lemma preserves_settleLock (b : BridgeState) (result : BridgeTransfer × DomainEvent) :
    Preserves (fun c => c.state.bridgeState = b) (settleLock M req result) := by
  have hstate : ∀ {ε α : Type} (text : ε → String) (x : Exec (AccountState T) ε α),
      Preserves (fun s => s.bridgeState = b) x →
        Preserves (fun c => c.state.bridgeState = b) (onState text x) :=
    fun _ _ hx => .zoom_run hx (fun _ h => h) fun _ _ _ h => h
  refine .bind .failIf fun _ => .bind (.bind .read fun _ => ?_) fun _ => ?_
  · refine .bind .failIf fun _ => .bind (hstate _ _ ?_) fun account => hstate _ _ ?_
    · exact .bind (.modify fun _ h => h) fun _ => .read
    · exact .modify fun _ h => h
  · refine .bind (.of_readOnly readOnly_persistBridgeState) fun _ => .bind ?_ fun _ => .pure
    unfold emitEvent
    split
    · refine .bind (.bind .failIf fun _ => .bind .failIf fun _ => .bind .read fun _ =>
        .bind .failIf fun _ => .bind (hstate _ _ ?_) fun _ => .of_readOnly (readOnly_persist _ _))
        fun _ => .modify fun _ h => h
      exact .bind .failIf fun _ => .bind .read fun _ => .bind .failIf fun _ => .modify fun _ h => h
    · exact .pure

/-- Neither the bridge state nor any balance has changed. -/
def Untouched (c c' : Blockchain T) : Prop :=
  c'.state.bridgeState = c.state.bridgeState ∧ ∀ a, c'.state.getBalance a = c.state.getBalance a

lemma Untouched.refl (c : Blockchain T) : Untouched c c := ⟨rfl, fun _ => rfl⟩

lemma wp_settleLock_iff (hchanged : b ≠ c.state.bridgeState) :
    wp (settleLock M req result) (fun _ _ => True) (fun _ c' => Untouched c c')
        { c with state := { c.state with bridgeState := b } } ↔
      ¬ Fails (settleLock M req result)
        { c with state := { c.state with bridgeState := b } } := by
  have hpreserves : Preserves _ (settleLock M req result) := preserves_settleLock b result
  have hkeeps := hpreserves { c with state := { c.state with bridgeState := b } } rfl
  constructor
  · intro hwp hfails
    obtain ⟨e, c', hrun⟩ := fails_iff.mp hfails
    have hsame := ((wp_iff.mp hwp).2 e c' hrun).1
    exact hchanged (((wp_iff.mp hkeeps).2 e c' hrun).symm.trans hsame)
  · intro hfails
    obtain ⟨result', c', hrun⟩ := exists_run_of_not_fails hfails
    refine wp_iff.mpr ⟨fun _ _ _ => trivial, fun e d hrun' => ?_⟩
    cases (hrun.symm.trans hrun')

lemma wp_lockBridgeTransfer_iff (c : Blockchain T) (req : LockRequest) :
    wp (lockBridgeTransfer M req) (fun _ _ => True) (fun _ c' => Untouched c c') c ↔
      ¬ (LockEnters c req ∧ LockFailsLate M c req) := by
  have hclean : ∀ e : String, (fun (_ : String) c' => Untouched c c') e c := fun _ => .refl c
  have hlock : lockBridgeTransfer M req = (do
      requireBridgeDomain req.sourceDomain
      requireBridgeDomain req.targetDomain
      failIf (req.sourceDomain = req.targetDomain)
        "Bridge source and target domains must differ"
      failIf (req.amount = 0) "Bridge transfer amount must be non-zero"
      failIf (req.expiryHeight ≤ req.sourceHeight)
        "Bridge transfer expiry must be after source height"
      let result ← onBridgeState (req.enter M)
      settleLock M req result) := rfl
  rw [hlock]
  simp only [wp_bind, wp_requireBridgeDomain hclean, wp_failIf, Untouched.refl,
    implies_true, true_and, onBridgeState, onState, wp_zoom_run, Nat.not_le]
  by_cases hactive : c.state.bridgeState.assetLocations.get? req.assetId =
      some (.active req.sourceDomain)
  · obtain ⟨result, b, hrun, hmessage, hlocked⟩ := enter_of_active (M := M) hactive
    have hchanged : b ≠ c.state.bridgeState := by
      rintro rfl
      rw [hactive] at hlocked
      cases hlocked
    rw [wp_iff_of_run hrun, wp_settleLock_iff hchanged]
    constructor
    · rintro h ⟨⟨hsource, htarget, hdomains, hamount, hexpiry, -⟩, hlate⟩
      refine h hsource htarget hdomains hamount hexpiry ?_
      rw [fails_settleLock_iff hdomains hexpiry hmessage]
      rw [LockFailsLate, hrun] at hlate
      exact hlate
    · intro h hsource htarget hdomains hamount hexpiry hfails
      rw [fails_settleLock_iff hdomains hexpiry hmessage] at hfails
      refine h ⟨⟨hsource, htarget, hdomains, hamount, hexpiry, hactive⟩, ?_⟩
      rw [LockFailsLate, hrun]
      exact hfails
  · refine iff_of_true (fun _ _ _ _ _ => ?_) fun h => hactive h.1.2.2.2.2.2
    refine wp_mono (enter_refused hactive) (fun _ _ h => h.elim) fun _ b hb => ?_
    subst hb
    exact .refl c

/-- A lock that fails leaves the bridge state and every balance alone exactly when it is
not one that fails after it was entered. -/
theorem failed_lock_untouched_iff (c : Blockchain T) (req : LockRequest) :
    (∀ e c', (lockBridgeTransfer M req).run c = (.error e, c') → Untouched c c') ↔
      ¬ (LockEnters c req ∧ LockFailsLate M c req) := by
  rw [← wp_lockBridgeTransfer_iff, wp_iff]
  exact ⟨fun h => ⟨fun _ _ _ => trivial, h⟩, fun h => h.2⟩

/-- An owner of a hundred units asks for a lock of four hundred. -/
def unaffordable : LockRequest := { crossing with amount := 400 }

/-- The call fails, the transfer stays, and the sweep at its expiry pays it to the owner. -/
theorem failed_lock_is_refunded :
    let left := (lockBridgeTransfer .refusing unaffordable).run bridgeChain
    let swept := (applyBridgeSweepToState .refusing 100).run left.2.state
    left.1.isOk = false ∧ swept.1.isOk = true ∧ bridgeChain.state.getBalance ⟨1⟩ = 100 ∧
      swept.2.getBalance ⟨1⟩ = 500 := by
  decide +kernel

end Budlum.Blockchain
