import Budlum.CrossDomain.Bridge

/-!
# The life of a bridge transfer

Runs of `BridgeState` operations, with a log of what they did. Every operation is a
sequence of moves: an asset is registered, a transfer is locked, or one transfer goes
from its status to the next. By induction over the moves, each transfer goes through
its stations once and in order.
-/

namespace Budlum

open Machine Exec List SortedMap

inductive BridgeEvent
  | registered (assetId : Id32) (domain : ℕ)
  | locked (id : Id32)
  | minted (id : Id32)
  | burned (id : Id32)
  | unlocked (id : Id32)
  | refunded (id : Id32)
deriving DecidableEq

def BridgeEvent.transferId : BridgeEvent → Option Id32
  | .registered _ _ => none
  | .locked id | .minted id | .burned id | .unlocked id | .refunded id => some id

/-- What has happened to the transfer under `id` since it was locked. -/
def BridgeEvent.history (id : Id32) (log : List BridgeEvent) : List BridgeEvent :=
  log.foldl (fun past event =>
    if event = .locked id then []
    else if event.transferId = some id then past ++ [event]
    else past) []

inductive BridgeOp
  | registerAsset (assetId : Id32) (domain : ℕ)
  | lock (sourceDomain targetDomain sourceHeight eventIndex : ℕ) (assetId : Id32)
      (owner recipient : Address) (amount expiryHeight : ℕ)
  | mint (message : CrossDomainMessage)
  | burnWithEvent (messageId : Id32) (domain domainHeight eventIndex expiryHeight : ℕ)
  | unlock (messageId : Id32) (sourceDomain : ℕ)
  | sweepExpiredLocks (currentHeight : ℕ)

namespace BridgeState

open BridgeEvent

/-! ## Sweeps by id -/

/-- `releaseLock`, noting the id of a lock that is released. -/
def releaseId (acc : List Id32 × BridgeState) (id : Id32) : List Id32 × BridgeState :=
  match acc.2.transfers.get? id with
  | some transfer =>
    match transfer.status with
    | .locked domain =>
      (acc.1 ++ [id], acc.2.setStatus id transfer (.active domain) (.active domain))
    | _ => acc
  | none => acc

def sweepIdsAt (acc : List Id32 × BridgeState) (height : ℕ) : List Id32 × BridgeState :=
  match acc.2.expiryQueue.get? height with
  | some ids =>
    ids.foldl releaseId (acc.1, { acc.2 with expiryQueue := acc.2.expiryQueue.erase height })
  | none => acc

/-- `sweepExpiredLocks`, noting the ids of the locks it releases. -/
def sweepIds (b : BridgeState) (currentHeight : ℕ) : List Id32 × BridgeState :=
  (b.expiryQueue.keys.filter (· ≤ currentHeight)).foldl sweepIdsAt ([], b)

def refundOf (b : BridgeState) (id : Id32) : Address × ℕ :=
  match b.transfers.get? id with
  | some transfer => (transfer.owner, transfer.amount)
  | none => (.zero, 0)

/-- The state is the same, the refunds are those of the ids, and no transfer has changed
its owner or amount since `b`. -/
structure SweepsAs (b : BridgeState) (paid : List (Address × ℕ) × BridgeState)
    (noted : List Id32 × BridgeState) : Prop where
  state : paid.2 = noted.2
  refunds : paid.1 = noted.1.map b.refundOf
  same : ∀ id, noted.2.refundOf id = b.refundOf id

variable {b : BridgeState} {paid : List (Address × ℕ) × BridgeState}
  {noted : List Id32 × BridgeState}

variable {t : BridgeTransfer} {status location : BridgeStatus}

lemma refundOf_setStatus {id id' : Id32} (hget : b.transfers.get? id = some t) :
    (b.setStatus id t status location).refundOf id' = b.refundOf id' := by
  simp only [refundOf, setStatus, get?_insert]
  split_ifs with heq
  · rw [heq, hget]
  · rfl

lemma SweepsAs.release (h : SweepsAs b paid noted) (id : Id32) :
    SweepsAs b (releaseLock paid id) (releaseId noted id) := by
  obtain ⟨released, b'⟩ := paid
  obtain ⟨ids, b''⟩ := noted
  obtain ⟨hstate, hrefunds, hsame⟩ := h
  obtain rfl : b' = b'' := hstate
  simp only [releaseLock, releaseId]
  cases hget : b'.transfers.get? id with
  | none => exact ⟨rfl, hrefunds, hsame⟩
  | some t =>
    cases hstatus : t.status with
    | locked domain =>
      simp only [hstatus]
      refine ⟨rfl, ?_, fun id' => (refundOf_setStatus hget).trans (hsame id')⟩
      have hpays : b.refundOf id = (t.owner, t.amount) := by
        rw [← hsame id]
        simp only [refundOf, hget]
      rw [map_append, map_singleton, hpays]
      exact congrArg (· ++ [(t.owner, t.amount)]) hrefunds
    | _ =>
      simp only [hstatus]
      exact ⟨rfl, hrefunds, hsame⟩

lemma SweepsAs.foldl {β : Type} {f : List (Address × ℕ) × BridgeState → β →
    List (Address × ℕ) × BridgeState} {g : List Id32 × BridgeState → β → List Id32 × BridgeState}
    (hstep : ∀ {paid noted}, SweepsAs b paid noted → ∀ x, SweepsAs b (f paid x) (g noted x))
    (xs : List β) : ∀ {paid noted}, SweepsAs b paid noted →
      SweepsAs b (xs.foldl f paid) (xs.foldl g noted) := by
  induction xs with
  | nil => exact fun h => h
  | cons x xs ih => exact fun h => ih (hstep h x)

lemma SweepsAs.height (h : SweepsAs b paid noted) (height : ℕ) :
    SweepsAs b (sweepHeight paid height) (sweepIdsAt noted height) := by
  obtain ⟨released, b'⟩ := paid
  obtain ⟨ids, b''⟩ := noted
  obtain rfl : b' = b'' := h.state
  simp only [sweepHeight, sweepIdsAt]
  cases b'.expiryQueue.get? height with
  | none => exact h
  | some queued => exact SweepsAs.foldl SweepsAs.release queued ⟨rfl, h.refunds, h.same⟩

lemma sweepExpiredLocks_eq (b : BridgeState) (currentHeight : ℕ) :
    b.sweepExpiredLocks currentHeight =
      ((b.sweepIds currentHeight).1.map b.refundOf, (b.sweepIds currentHeight).2) := by
  have h : SweepsAs b (b.sweepExpiredLocks currentHeight) (b.sweepIds currentHeight) :=
    SweepsAs.foldl SweepsAs.height _ ⟨rfl, rfl, fun _ => rfl⟩
  exact Prod.ext h.refunds h.state

/-! ## Moves -/

/-- The stations of a transfer: its next status, where its asset is then, and the event. -/
inductive Hop (t : BridgeTransfer) : BridgeStatus → BridgeStatus → (Id32 → BridgeEvent) → Prop
  | mint {source target : ℕ} (h : t.status = .locked source) :
      Hop t (.minted target) (.minted target) .minted
  | burn {domain : ℕ} (h : t.status = .minted domain) :
      Hop t (.burned domain) (.burned domain) .burned
  | unlock {domain : ℕ} (h : t.status = .burned domain) :
      Hop t (.unlocked t.sourceDomain) (.active t.sourceDomain) .unlocked
  | refund {domain : ℕ} (h : t.status = .locked domain) :
      Hop t (.active domain) (.active domain) .refunded

/-- One change to the transfers and locations, and the events it is logged as. Nonces,
processed messages and the queue may change along with it. -/
inductive Move : BridgeState → List BridgeEvent → BridgeState → Prop
  | quiet {b b' : BridgeState} (transfers : b'.transfers = b.transfers)
      (locations : b'.assetLocations = b.assetLocations) : Move b [] b'
  | register {b b' : BridgeState} {assetId : Id32} {domain : ℕ}
      (unknown : b.assetLocations.get? assetId = none) (transfers : b'.transfers = b.transfers)
      (locations : b'.assetLocations = b.assetLocations.insert assetId (.active domain)) :
      Move b [.registered assetId domain] b'
  | lock {b b' : BridgeState} {id : Id32} {t : BridgeTransfer}
      (transfers : b'.transfers = b.transfers.insert id t)
      (home : b.assetLocations.get? t.assetId = some (.active t.sourceDomain))
      (status : t.status = .locked t.sourceDomain)
      (locations : b'.assetLocations = b.assetLocations.insert t.assetId t.status) :
      Move b [.locked id] b'
  | hop {b b' : BridgeState} {id : Id32} {t : BridgeTransfer} {status location : BridgeStatus}
      {event : Id32 → BridgeEvent} (before : b.transfers.get? id = some t)
      (next : Hop t status location event)
      (transfers : b'.transfers = b.transfers.insert id { t with status })
      (locations : b'.assetLocations = b.assetLocations.insert t.assetId location) :
      Move b [event id] b'

inductive Path (b : BridgeState) : List BridgeEvent → BridgeState → Prop
  | refl : Path b [] b
  | snoc {c d : BridgeState} {log events : List BridgeEvent} (path : Path b log c)
      (move : Move c events d) : Path b (log ++ events) d

variable {events log : List BridgeEvent}

lemma Move.path {b' : BridgeState} (h : Move b events b') : Path b events b' :=
  .snoc .refl h

lemma Path.trans {c d : BridgeState} {log' : List BridgeEvent} (h : Path b log c)
    (h' : Path c log' d) : Path b (log ++ log') d := by
  induction h' with
  | refl => rwa [append_nil]
  | snoc _ move ih =>
    rw [← append_assoc]
    exact .snoc ih move

/-! ## Operations are paths -/

section

variable (hashFields : List Bytes → Hash32)

def logged {α : Type} (x : Exec BridgeState String α) (event : α → BridgeEvent) (b : BridgeState) :
    List BridgeEvent × BridgeState :=
  match x.run b with
  | (.ok a, b') => ([event a], b')
  | (.error _, b') => ([], b')

def perform (b : BridgeState) : BridgeOp → List BridgeEvent × BridgeState
  | .registerAsset assetId domain =>
    logged (registerAsset assetId domain) (fun _ => .registered assetId domain) b
  | .lock sourceDomain targetDomain sourceHeight eventIndex assetId owner recipient amount
      expiryHeight =>
      logged (lock hashFields sourceDomain targetDomain sourceHeight eventIndex assetId owner
        recipient amount expiryHeight) (fun result => .locked result.1.messageId) b
  | .mint message => logged (mint hashFields message) (fun _ => .minted message.messageId) b
  | .burnWithEvent messageId domain domainHeight eventIndex expiryHeight =>
    logged (burnWithEvent hashFields messageId domain domainHeight eventIndex expiryHeight)
      (fun _ => .burned messageId) b
  | .unlock messageId sourceDomain =>
    logged (unlock messageId sourceDomain) (fun _ => .unlocked messageId) b
  | .sweepExpiredLocks currentHeight =>
    ((b.sweepIds currentHeight).1.map .refunded, (b.sweepExpiredLocks currentHeight).2)

def runOps (ops : List BridgeOp) : List BridgeEvent × BridgeState :=
  ops.foldl (fun acc op =>
    let done := perform hashFields acc.2 op
    (acc.1 ++ done.1, done.2)) ([], new)

end

variable {hashFields : List Bytes → Hash32}

lemma path_logged {α : Type} {x : Exec BridgeState String α} {event : α → BridgeEvent}
    (h : wp x (fun a b' => Move b [event a] b') (fun _ b' => b' = b) b) :
    Path b (logged x event b).1 (logged x event b).2 := by
  obtain ⟨hok, herror⟩ := wp_iff.mp h
  unfold logged
  rcases hrun : x.run b with ⟨e | a, b'⟩
  · obtain rfl := herror e b' hrun
    exact .refl
  · exact (hok a b' hrun).path

lemma path_releaseId (h : Path b (noted.1.map .refunded) noted.2) (id : Id32) :
    Path b ((releaseId noted id).1.map .refunded) (releaseId noted id).2 := by
  unfold releaseId
  cases hget : noted.2.transfers.get? id with
  | none => exact h
  | some t =>
    cases hstatus : t.status with
    | locked domain =>
      simp only [hstatus, map_append, map_singleton]
      exact .snoc h (.hop hget (.refund hstatus) rfl rfl)
    | _ =>
      simp only [hstatus]
      exact h

lemma path_foldl {β : Type} {f : List Id32 × BridgeState → β → List Id32 × BridgeState}
    (hf : ∀ {noted}, Path b (noted.1.map .refunded) noted.2 → ∀ x,
      Path b ((f noted x).1.map .refunded) (f noted x).2) (xs : List β) :
    ∀ {noted}, Path b (noted.1.map .refunded) noted.2 →
      Path b ((xs.foldl f noted).1.map .refunded) (xs.foldl f noted).2 := by
  induction xs with
  | nil => exact fun h => h
  | cons x xs ih => exact fun h => ih (hf h x)

lemma path_sweepIdsAt (h : Path b (noted.1.map .refunded) noted.2) (height : ℕ) :
    Path b ((sweepIdsAt noted height).1.map .refunded) (sweepIdsAt noted height).2 := by
  unfold sweepIdsAt
  cases noted.2.expiryQueue.get? height with
  | none => exact h
  | some ids =>
    refine path_foldl path_releaseId ids ?_
    let dropped := { noted.2 with expiryQueue := noted.2.expiryQueue.erase height }
    have hquiet : Move noted.2 [] dropped := .quiet rfl rfl
    have hdropped := Path.snoc h hquiet
    rwa [append_nil] at hdropped

lemma path_perform (b : BridgeState) (op : BridgeOp) :
    Path b (perform hashFields b op).1 (perform hashFields b op).2 := by
  cases op with
  | registerAsset assetId domain =>
    apply path_logged
    simp only [registerAsset, wp_steps]
    intro hunknown
    exact .register (by simpa [SortedMap.contains] using hunknown) rfl rfl
  | lock sourceDomain targetDomain =>
    apply path_logged
    simp only [lock, requireAssetStatus, wp_steps, wp_ite, not_not, ne_eq]
    intro location hlocation hactive
    rw [hactive] at hlocation
    exact ⟨fun _ => .lock rfl hlocation rfl rfl, fun _ => .lock rfl hlocation rfl rfl⟩
  | mint message =>
    apply path_logged
    simp only [mint, wp_steps, not_not, ne_eq]
    intro _ t hget _ _ hstatus replay _
    exact .hop hget (.mint hstatus) rfl rfl
  | burnWithEvent messageId domain =>
    apply path_logged
    simp only [burnWithEvent, wp_steps, not_not, ne_eq]
    intro t hget hstatus
    exact .hop hget (.burn hstatus) rfl rfl
  | unlock messageId sourceDomain =>
    apply path_logged
    simp only [unlock, wp_steps, not_not, ne_eq]
    intro t hget hstatus _
    exact .hop hget (.unlock hstatus) rfl rfl
  | sweepExpiredLocks currentHeight =>
    simp only [perform, sweepExpiredLocks_eq]
    exact path_foldl path_sweepIdsAt _ .refl

lemma runOps_snoc (ops : List BridgeOp) (op : BridgeOp) : runOps hashFields (ops ++ [op]) =
      ((runOps hashFields ops).1 ++ (perform hashFields (runOps hashFields ops).2 op).1,
        (perform hashFields (runOps hashFields ops).2 op).2) := by
  rw [runOps, foldl_append]
  rfl

lemma path_runOps (ops : List BridgeOp) :
    Path new (runOps hashFields ops).1 (runOps hashFields ops).2 := by
  induction ops using reverseRecOn with
  | nil => exact .refl
  | append_singleton ops op ih =>
    rw [runOps_snoc]
    exact ih.trans (path_perform _ op)

/-! ## The stations of a transfer -/

lemma history_snoc (id : Id32) (log : List BridgeEvent) (event : BridgeEvent) :
    history id (log ++ [event]) =
      if event = .locked id then []
      else if event.transferId = some id then history id log ++ [event]
      else history id log := by
  rw [history, foldl_append]
  rfl

def story (id : Id32) : BridgeStatus → List BridgeEvent
  | .locked _ => []
  | .minted _ => [.minted id]
  | .burned _ => [.minted id, .burned id]
  | .unlocked _ => [.minted id, .burned id, .unlocked id]
  | .active _ => [.refunded id]

/-- The status of every transfer tells its history. -/
def Told (log : List BridgeEvent) (b : BridgeState) : Prop :=
  ∀ id, history id log = ((b.transfers.get? id).map fun t => story id t.status).getD []

variable {event : Id32 → BridgeEvent}

lemma Hop.transferId (h : Hop t status location event) (id : Id32) :
    (event id).transferId = some id ∧ ∀ id', event id ≠ .locked id' := by
  cases h <;> exact ⟨rfl, fun _ => nofun⟩

lemma Hop.story (h : Hop t status location event) (id : Id32) :
    story id t.status ++ [event id] = BridgeState.story id status := by
  cases h with
  | mint h | burn h | unlock h | refund h =>
    rw [h]
    rfl

lemma Told.move {b' : BridgeState} (h : Told log b)
    (hmove : Move b events b') : Told (log ++ events) b' := by
  intro id
  cases hmove with
  | quiet transfers =>
    rw [append_nil, transfers]
    exact h id
  | register _ transfers =>
    rw [history_snoc, if_neg nofun, if_neg nofun, transfers]
    exact h id
  | @lock _ id' t transfers _ status =>
    rw [history_snoc, transfers, get?_insert]
    by_cases heq : id = id'
    · rw [heq, if_pos rfl, if_pos rfl, Option.map_some, Option.getD_some, status]
      rfl
    · rw [if_neg (by simpa using Ne.symm heq),
        if_neg (by simpa [BridgeEvent.transferId] using Ne.symm heq), if_neg heq]
      exact h id
  | @hop _ id' t status location event before next transfers =>
    obtain ⟨hid, hnotLock⟩ := next.transferId id'
    rw [history_snoc, transfers, get?_insert, if_neg (hnotLock id), hid]
    by_cases heq : id = id'
    · subst heq
      rw [if_pos rfl, if_pos rfl, h id, before]
      exact next.story id
    · rw [if_neg (by simpa using Ne.symm heq), if_neg heq]
      exact h id

lemma Path.told (h : Path new log b) : Told log b := by
  induction h with
  | refl => exact fun _ => rfl
  | snoc _ move ih => exact ih.move move

/-- In every run a transfer is minted at most once, refunded at most once, never both,
and unlocked at most once and only after it was burned. -/
theorem transfer_settles_once (ops : List BridgeOp) (id : Id32) :
    let past := history id (runOps hashFields ops).1
    past.count (.minted id) ≤ 1 ∧ past.count (.refunded id) ≤ 1 ∧
      ¬ (.minted id ∈ past ∧ .refunded id ∈ past) ∧ past.count (.unlocked id) ≤ 1 ∧
      ∀ before after, past = before ++ .unlocked id :: after → .burned id ∈ before := by
  intro past
  have htold : past = _ := (path_runOps ops).told id
  -- the history is the story of a status, or there is no transfer
  obtain ⟨status, hstory⟩ : ∃ status, past = story id status := by
    cases hget : (runOps hashFields ops).2.transfers.get? id with
    | none => exact ⟨.locked 0, by rw [htold, hget]; rfl⟩
    | some t => exact ⟨t.status, by rw [htold, hget]; rfl⟩
  rw [hstory]
  refine ⟨?_, ?_, ?_, ?_, fun before after hsplit => ?_⟩
  · cases status <;> simp [story]
  · cases status <;> simp [story]
  · cases status <;> simp [story]
  · cases status <;> simp [story]
  · rcases before with _ | ⟨first, _ | ⟨second, rest⟩⟩
    · cases status <;> simp [story] at hsplit
    · cases status <;> simp [story] at hsplit
    · -- only the story of an unlocked transfer is that long
      cases status <;> simp [story] at hsplit
      simp [← hsplit.2.1]

end BridgeState

end Budlum
