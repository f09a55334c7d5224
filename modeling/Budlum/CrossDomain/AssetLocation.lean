import Budlum.CrossDomain.Lifecycle

/-!
# Where an asset is

The bridge keeps the location of every asset beside its transfers. In every run the two
agree: at most one transfer carries an asset, and the location is the status of that
transfer, or the domain the asset was registered under.
-/

namespace Budlum

open Option

/-- The transfer carries its asset: it is locked, minted or burned. -/
def BridgeTransfer.InTransit (t : BridgeTransfer) : Prop :=
  match t.status with
  | .locked _ | .minted _ | .burned _ => True
  | .active _ | .unlocked _ => False

/-- The domain under which an asset was registered. -/
def BridgeEvent.home (log : List BridgeEvent) (assetId : Id32) : Option ℕ :=
  log.findSome? fun
    | .registered a domain => if a = assetId then some domain else none
    | _ => none

namespace BridgeState

open BridgeEvent SortedMap List

/-- Locations and transfers agree, given the log that led to them. -/
structure Located (log : List BridgeEvent) (b : BridgeState) : Prop where
  logged : ∀ id t, b.transfers.get? id = some t → .locked id ∈ log
  source : ∀ id t, b.transfers.get? id = some t → home log t.assetId = some t.sourceDomain
  locked : ∀ id t domain, b.transfers.get? id = some t → t.status = .locked domain →
    domain = t.sourceDomain
  carried : ∀ id t, b.transfers.get? id = some t → t.InTransit →
    b.assetLocations.get? t.assetId = some t.status
  alone : ∀ id id' t t', b.transfers.get? id = some t → b.transfers.get? id' = some t' →
    t.assetId = t'.assetId → t.InTransit → t'.InTransit → id = id'
  idle : ∀ assetId, (∀ id t, b.transfers.get? id = some t → t.assetId = assetId → ¬ t.InTransit) →
    b.assetLocations.get? assetId = (home log assetId).map .active

variable {hashFields : List Bytes → Hash32} {log : List BridgeEvent} {b b' : BridgeState}

lemma located_new : Located [] new where
  logged _ _ h := nomatch h
  source _ _ h := nomatch h
  locked _ _ _ h := nomatch h
  carried _ _ h := nomatch h
  alone _ _ _ _ h := nomatch h
  idle _ _ := rfl

lemma home_snoc (log : List BridgeEvent) (event : BridgeEvent) (assetId : Id32) :
    home (log ++ [event]) assetId = (home log assetId).or (home [event] assetId) := by
  rw [home, findSome?_append]
  rfl

variable {assetId id : Id32} {t : BridgeTransfer}

lemma Located.not_inTransit (h : Located log b) {domain : ℕ}
    (hactive : b.assetLocations.get? assetId = some (.active domain))
    (hget : b.transfers.get? id = some t) (hasset : t.assetId = assetId) : ¬ t.InTransit := by
  intro htransit
  have hcarried := h.carried id t hget htransit
  rw [hasset, hactive] at hcarried
  rw [BridgeTransfer.InTransit, ← some.inj hcarried] at htransit
  exact htransit

lemma Located.unregistered (h : Located log b) (hnone : b.assetLocations.get? assetId = none) :
    home log assetId = none ∧ ∀ id t, b.transfers.get? id = some t → t.assetId ≠ assetId := by
  have hidle := h.idle assetId fun id t hget hasset htransit => by
    have hcarried := h.carried id t hget htransit
    rw [hasset, hnone] at hcarried
    cases hcarried
  rw [hnone, eq_comm, map_eq_none_iff] at hidle
  refine ⟨hidle, fun id t hget hasset => ?_⟩
  have hsource := h.source id t hget
  rw [hasset, hidle] at hsource
  cases hsource

lemma Located.register (h : Located log b) {domain : ℕ}
    (hunknown : b.assetLocations.get? assetId = none) (htransfers : b'.transfers = b.transfers)
    (hlocations : b'.assetLocations = b.assetLocations.insert assetId (.active domain)) :
    Located (log ++ [.registered assetId domain]) b' := by
  obtain ⟨hhome, hother⟩ := h.unregistered hunknown
  have hhome' : ∀ a, home (log ++ [.registered assetId domain]) a =
      if a = assetId then some domain else home log a := by
    intro a
    rw [home_snoc]
    split_ifs with heq
    · rw [heq, hhome]
      simp [home]
    · simp [home, Ne.symm heq]
  constructor
  · intro id t hget
    rw [htransfers] at hget
    exact mem_append_left _ (h.logged id t hget)
  · intro id t hget
    rw [htransfers] at hget
    rw [hhome', if_neg (hother id t hget)]
    exact h.source id t hget
  · rw [htransfers]
    exact h.locked
  · intro id t hget htransit
    rw [htransfers] at hget
    rw [hlocations, get?_insert, if_neg (hother id t hget)]
    exact h.carried id t hget htransit
  · rw [htransfers]
    exact h.alone
  · intro a hnone
    rw [htransfers] at hnone
    rw [hlocations, get?_insert, hhome']
    split_ifs
    · rfl
    · exact h.idle a hnone

variable {location status : BridgeStatus}

/-- A transfer is written that no other transfer in transit shares its asset with, and the asset
is where its status says while it is in transit, and at home otherwise. -/
lemma Located.put (h : Located log b) {event : BridgeEvent}
    (htransfers : b'.transfers = b.transfers.insert id t)
    (hlocations : b'.assetLocations = b.assetLocations.insert t.assetId location)
    (hhome : ∀ a, home (log ++ [event]) a = home log a) (hlogged : .locked id ∈ log ++ [event])
    (hsource : home log t.assetId = some t.sourceDomain)
    (hlocked : ∀ domain, t.status = .locked domain → domain = t.sourceDomain)
    (hsame : ∀ t', b.transfers.get? id = some t' → t'.assetId = t.assetId)
    (hothers : ∀ id' t', id' ≠ id → b.transfers.get? id' = some t' → t'.assetId = t.assetId →
      ¬ t'.InTransit) (harrives : t.InTransit ∧ location = t.status ∨
      ¬ t.InTransit ∧ location = .active t.sourceDomain) : Located (log ++ [event]) b' := by
  have hget' : ∀ id' t', b'.transfers.get? id' = some t' →
      id' = id ∧ t' = t ∨ id' ≠ id ∧ b.transfers.get? id' = some t' := by
    intro id' t' hget
    rw [htransfers] at hget
    exact get?_insert_eq_some.mp hget
  constructor
  · intro id' t' hget
    rcases hget' id' t' hget with ⟨rfl, -⟩ | ⟨-, hold⟩
    · exact hlogged
    · exact mem_append_left _ (h.logged id' t' hold)
  · intro id' t' hget
    rw [hhome]
    rcases hget' id' t' hget with ⟨-, rfl⟩ | ⟨-, hold⟩
    · exact hsource
    · exact h.source id' t' hold
  · intro id' t' domain hget hstatus
    rcases hget' id' t' hget with ⟨-, rfl⟩ | ⟨-, hold⟩
    · exact hlocked domain hstatus
    · exact h.locked id' t' domain hold hstatus
  · intro id' t' hget htransit
    rw [hlocations, get?_insert]
    rcases hget' id' t' hget with ⟨-, rfl⟩ | ⟨hne, hold⟩
    · rcases harrives with ⟨-, rfl⟩ | ⟨hhome, -⟩
      · exact if_pos rfl
      · exact absurd htransit hhome
    · rw [if_neg fun hasset => hothers id' t' hne hold hasset htransit]
      exact h.carried id' t' hold htransit
  · intro id₁ id₂ t₁ t₂ hget₁ hget₂ hasset htransit₁ htransit₂
    rcases hget' id₁ t₁ hget₁ with ⟨rfl, rfl⟩ | ⟨hne₁, hold₁⟩
    · rcases hget' id₂ t₂ hget₂ with ⟨rfl, -⟩ | ⟨hne₂, hold₂⟩
      · rfl
      · exact absurd htransit₂ (hothers id₂ t₂ hne₂ hold₂ hasset.symm)
    · rcases hget' id₂ t₂ hget₂ with ⟨rfl, rfl⟩ | ⟨-, hold₂⟩
      · exact absurd htransit₁ (hothers id₁ t₁ hne₁ hold₁ hasset)
      · exact h.alone id₁ id₂ t₁ t₂ hold₁ hold₂ hasset htransit₁ htransit₂
  · intro a hnone
    rw [hlocations, get?_insert, hhome]
    split_ifs with heq
    · subst heq
      have hself : b'.transfers.get? id = some t := by
        rw [htransfers, get?_insert_self]
      rcases harrives with ⟨hmoving, -⟩ | ⟨-, rfl⟩
      · exact absurd hmoving (hnone id t hself rfl)
      · rw [hsource]
        rfl
    · refine h.idle a fun id' t' hget hasset => hnone id' t' ?_ hasset
      rw [htransfers, get?_insert, if_neg]
      · exact hget
      · rintro rfl
        exact heq (hasset.symm.trans (hsame t' hget))

lemma Located.lock (h : Located log b)
    (hfresh : b.transfers.get? id = none) (htransfers : b'.transfers = b.transfers.insert id t)
    (hactive : b.assetLocations.get? t.assetId = some (.active t.sourceDomain))
    (hstatus : t.status = .locked t.sourceDomain)
    (hlocations : b'.assetLocations = b.assetLocations.insert t.assetId t.status) :
    Located (log ++ [.locked id]) b' := by
  have hidle := h.idle t.assetId fun _ _ hget hasset => h.not_inTransit hactive hget hasset
  have hsource : home log t.assetId = some t.sourceDomain := by
    rw [hactive] at hidle
    obtain ⟨domain, hdomain, heq⟩ := map_eq_some_iff.mp hidle.symm
    rw [hdomain, BridgeStatus.active.inj heq]
  have htransit : t.InTransit := by
    rw [BridgeTransfer.InTransit, hstatus]
    trivial
  refine h.put htransfers hlocations ?_ ?_ hsource ?_ ?_ ?_ (.inl ⟨htransit, rfl⟩)
  · intro a
    rw [home_snoc]
    exact or_none
  · exact mem_append_right _ (mem_singleton.mpr rfl)
  · exact fun domain hlocked => BridgeStatus.locked.inj (hlocked.symm.trans hstatus)
  · exact fun t' hget => nomatch hfresh.symm.trans hget
  · exact fun id' t' _ hget hasset => h.not_inTransit hactive hget hasset

variable {event : Id32 → BridgeEvent}

lemma Hop.arrives (h : Hop t status location event)
    (hlocked : ∀ domain, t.status = .locked domain → domain = t.sourceDomain) :
    t.InTransit ∧ (∀ domain, status ≠ .locked domain) ∧
      (BridgeTransfer.InTransit { t with status } ∧ location = status ∨
        ¬ BridgeTransfer.InTransit { t with status } ∧ location = .active t.sourceDomain) := by
  have htransit : t.InTransit := by
    unfold BridgeTransfer.InTransit
    cases h with
    | mint h | burn h | unlock h | refund h =>
      rw [h]
      trivial
  refine ⟨htransit, by cases h <;> exact fun _ => nofun, ?_⟩
  cases h with
  | mint => exact .inl ⟨trivial, rfl⟩
  | burn => exact .inl ⟨trivial, rfl⟩
  | unlock => exact .inr ⟨id, rfl⟩
  | refund h => exact .inr ⟨id, by rw [hlocked _ h]⟩

lemma Located.hop (h : Located log b)
    (hbefore : b.transfers.get? id = some t) (hnext : Hop t status location event)
    (htransfers : b'.transfers = b.transfers.insert id { t with status })
    (hlocations : b'.assetLocations = b.assetLocations.insert t.assetId location) :
    Located (log ++ [event id]) b' := by
  obtain ⟨htransit, hnotLocked, harrives⟩ := hnext.arrives fun domain => h.locked id t domain hbefore
  refine h.put htransfers hlocations ?_ ?_ (h.source id t hbefore) ?_ ?_ ?_ harrives
  · intro a
    rw [home_snoc]
    cases hnext <;> exact or_none
  · exact mem_append_left _ (h.logged id t hbefore)
  · exact fun domain hlocked => absurd hlocked (hnotLocked domain)
  · intro t' hget
    obtain rfl := some.inj (hbefore.symm.trans hget)
    rfl
  · -- another transfer in transit is about another asset
    exact fun id' t' hne hget hasset htransit' =>
      hne (h.alone id' id t' t hget hbefore hasset htransit' htransit)

/-- No two locks of a log have the same id. -/
def CollisionFree (log : List BridgeEvent) : Prop := ∀ id, log.count (.locked id) ≤ 1

lemma Located.move {events : List BridgeEvent} (h : Located log b) (hmove : Move b events b')
    (hfree : CollisionFree (log ++ events)) : Located (log ++ events) b' := by
  cases hmove with
  | quiet transfers locations =>
    rw [append_nil]
    constructor
    · rw [transfers]
      exact h.logged
    · rw [transfers]
      exact h.source
    · rw [transfers]
      exact h.locked
    · rw [transfers, locations]
      exact h.carried
    · rw [transfers]
      exact h.alone
    · rw [transfers, locations]
      exact h.idle
  | register unknown transfers locations => exact h.register unknown transfers locations
  | @lock _ id t transfers home status locations =>
    refine h.lock ?_ transfers home status locations
    -- a transfer under this id would have been locked before
    by_contra hsome
    obtain ⟨t', ht'⟩ := ne_none_iff_exists'.mp hsome
    have hbefore := count_pos_iff.mpr (h.logged id t' ht')
    have hcount := hfree id
    rw [count_append, count_singleton_self] at hcount
    omega
  | hop before next transfers locations => exact h.hop before next transfers locations

lemma Path.located (h : Path new log b) (hfree : CollisionFree log) : Located log b := by
  induction h with
  | refl => exact located_new
  | @snoc c d log events _ move ih =>
    refine (ih fun id => ?_).move move hfree
    have hcount := hfree id
    rw [count_append] at hcount
    omega

/-- In every run without colliding ids, at most one transfer of an asset is in transit;
its status is then the location of the asset, and otherwise the asset is at home. -/
theorem asset_location_agrees (ops : List BridgeOp) (assetId : Id32)
    (hfree : CollisionFree (runOps hashFields ops).1) :
    let b := (runOps hashFields ops).2
    (∀ id id' t t', b.getTransfer id = some t → b.getTransfer id' = some t' →
      t.assetId = assetId → t'.assetId = assetId → t.InTransit → t'.InTransit → id = id') ∧
    (∀ id t, b.getTransfer id = some t → t.assetId = assetId → t.InTransit →
      b.assetLocations.get? assetId = some t.status) ∧
    ((∀ id t, b.getTransfer id = some t → t.assetId = assetId → ¬ t.InTransit) →
      b.assetLocations.get? assetId =
        (home (runOps hashFields ops).1 assetId).map .active) := by
  intro b
  have h : Located _ b := (path_runOps ops).located hfree
  refine ⟨fun id id' t t' hget hget' hasset hasset' => ?_, fun id t hget hasset htransit => ?_,
    h.idle assetId⟩
  · exact h.alone id id' t t' hget hget' (hasset.trans hasset'.symm)
  · rw [← hasset]
    exact h.carried id t hget htransit

/-- An asset of domain 1 that is locked on its way to domain 2. -/
def firstLock : List BridgeOp :=
  [.registerAsset ⟨[7]⟩ 1, .lock 1 2 1 0 ⟨[7]⟩ ⟨1⟩ ⟨2⟩ 40 100]

lemma firstLock_collisionFree : CollisionFree (runOps flatten firstLock).1 := by
  intro id
  obtain ⟨id', hlog⟩ : ∃ id', (runOps flatten firstLock).1 =
      [.registered ⟨[7]⟩ 1, .locked id'] := ⟨_, rfl⟩
  have hother : BridgeEvent.registered ⟨[7]⟩ 1 ≠ .locked id := nofun
  rw [hlog, count_cons_of_ne hother]
  exact count_le_length

theorem asset_location_agrees_firstLock :
    (runOps flatten firstLock).2.assetLocations.get? ⟨[7]⟩ = some (.locked 1) := by
  have hlocked : ((runOps flatten firstLock).2.getTransfer
      (lockMessage flatten 1 2 1 0 0 ⟨[7]⟩ ⟨1⟩ ⟨2⟩ 40 100).messageId).map
        (fun t => (t.assetId, t.status)) = some (⟨[7]⟩, .locked 1) := by decide +kernel
  obtain ⟨t, hget, ht⟩ := map_eq_some_iff.mp hlocked
  obtain ⟨hasset, hstatus⟩ := Prod.mk.inj ht
  rw [← hstatus]
  refine (asset_location_agrees firstLock ⟨[7]⟩ firstLock_collisionFree).2.1 _ t hget hasset ?_
  rw [BridgeTransfer.InTransit, hstatus]
  trivial

end BridgeState

end Budlum
