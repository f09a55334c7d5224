import Budlum.Domain.StorageDeal

/-!
# The operator bond of a deal is settled once

Every call that ends a deal reports what becomes of its bond. `answer_challenge` and
`expire_deal` look at the status of the deal first; `finalize_missed_challenge` does not,
so a second open challenge slashes a deal that was slashed already, or whose bond was
returned. A bond is settled at most once exactly if no overdue challenge of an ended deal
is finalized (`bonds_settled_once_iff`).
-/

namespace Budlum

open Machine StorageRegistry Exec StorageDeal SortedMap List Option

inductive SettlementKind
  | slashed
  | returned
deriving DecidableEq

/-- What a call reports about the bond of a deal. -/
structure Settlement where
  dealId : ℕ
  kind : SettlementKind
  bond : ℕ
deriving DecidableEq

def ChallengeResult.settlement (result : ChallengeResult) : Option Settlement :=
  match result.outcome with
  | .answered => none
  | .mismatched | .missed => some ⟨result.dealId, .slashed, result.slashedBond⟩

/-- The challenge is open, overdue and of a deal that is held. -/
def StorageRegistry.Overdue (r : StorageRegistry) (challengeId nowEpoch : ℕ)
    (challenge : RetrievalChallenge) (deal : StorageDeal) : Prop :=
  r.results.contains challengeId = false ∧ r.challenges.get? challengeId = some challenge ∧
    challenge.deadlineEpoch < nowEpoch ∧ r.deals.get? challenge.dealId = some deal

inductive StorageOp
  | openDeal (req : DealRequest)
  | openChallenge (req : ChallengeRequest)
  | answerChallenge (answer : ChallengeAnswer)
  | finalizeMissedChallenge (challengeId nowEpoch : ℕ)
  | expireDeal (dealId nowEpoch : ℕ)

namespace StorageOp

variable (M : StorageModules)

def reported : Except (Stop StorageError) ChallengeResult × StorageRegistry →
    Option Settlement × StorageRegistry
  | (.ok result, r) => (result.settlement, r)
  | (.error _, r) => (none, r)

/-- The settlement of `expire_deal`: a bond is returned if the deal was found active. -/
def returned (r : StorageRegistry) (dealId : ℕ) :
    Except (Stop StorageError) ℕ × StorageRegistry → Option Settlement × StorageRegistry
  | (.ok bond, r') =>
    if (r.deals.get? dealId).any isActive then
      (some ⟨dealId, .returned, bond⟩, r')
    else (none, r')
  | (.error _, r') => (none, r')

def apply (r : StorageRegistry) : StorageOp → Option Settlement × StorageRegistry
  | .openDeal req => (none, ((StorageRegistry.openDeal M req).run r).2)
  | .openChallenge req => (none, ((StorageRegistry.openChallenge req).run r).2)
  | .answerChallenge answer => reported ((answerChallengeWithChainId M answer).run r)
  | .finalizeMissedChallenge challengeId nowEpoch =>
    reported ((StorageRegistry.finalizeMissedChallenge challengeId nowEpoch).run r)
  | .expireDeal dealId nowEpoch =>
    returned r dealId ((StorageRegistry.expireDeal dealId nowEpoch).run r)

/-- An overdue challenge that is finalized belongs to an active deal. -/
def Proper (r : StorageRegistry) : StorageOp → Prop
  | .finalizeMissedChallenge challengeId nowEpoch =>
    ∀ challenge deal, r.Overdue challengeId nowEpoch challenge deal → deal.isActive
  | _ => True

instance (r : StorageRegistry) : (op : StorageOp) → Decidable (op.Proper r)
  | .finalizeMissedChallenge challengeId nowEpoch =>
    decidable_of_iff (r.results.contains challengeId = false →
      ∀ challenge ∈ r.challenges.get? challengeId, challenge.deadlineEpoch < nowEpoch →
        ∀ deal ∈ r.deals.get? challenge.dealId, deal.isActive)
      ⟨fun h challenge deal hlate => h hlate.1 challenge hlate.2.1 hlate.2.2.1 deal hlate.2.2.2,
        fun h hopen challenge hchallenge hlate deal hdeal =>
          h challenge deal ⟨hopen, hchallenge, hlate, hdeal⟩⟩
  | .openDeal _ | .openChallenge _ | .answerChallenge _ | .expireDeal _ _ =>
    inferInstanceAs (Decidable True)

end StorageOp

/-! ## What an operation does to the deals -/

/-- The deals stay, one is opened, or one is ended and its settlement reported. -/
inductive DealEffect (r : StorageRegistry) : Option Settlement → StorageRegistry → Prop
  | kept {r' : StorageRegistry} (hdeals : r'.deals = r.deals) : DealEffect r none r'
  | opened {r' : StorageRegistry} (deal : StorageDeal) (hactive : deal.status = .active)
      (hdeals : r'.deals = (r.addDeal deal).deals) : DealEffect r none r'
  | settled {r' : StorageRegistry} (deal : StorageDeal) (s : Settlement) (status : DealStatus)
      (hget : r.deals.get? s.dealId = some deal) (hended : status ≠ .active)
      (hdeals : r'.deals = r.deals.insert s.dealId { deal with status }) :
      DealEffect r (some s) r'

namespace StorageRegistry

variable {r : StorageRegistry}

@[simp] lemma deals_registerManifest (manifest : ContentManifest) :
    (r.registerManifest manifest).deals = r.deals := by
  unfold registerManifest
  split_ifs <;> rfl

@[simp] lemma nextDealId_registerManifest (manifest : ContentManifest) :
    (r.registerManifest manifest).nextDealId = r.nextDealId := by
  unfold registerManifest
  split_ifs <;> rfl

@[simp] lemma deals_openTicket (deal : StorageDeal) (operator : Address) (nowEpoch : ℕ) :
    (r.openTicket deal operator nowEpoch).deals = r.deals := by
  unfold openTicket
  split_ifs <;> rfl

lemma get?_nextDealId : r.deals.get? r.nextDealId = none := by
  cases hget : r.deals.get? r.nextDealId with
  | none => rfl
  | some deal => exact absurd (r.deals_keyed _ _ hget).2 (lt_irrefl _)

variable (M : StorageModules)

lemma of_checkAnswer {answer : ChallengeAnswer}
    {found : RetrievalChallenge × { deal : StorageDeal // r.deals.get? deal.dealId = some deal }}
    (h : r.checkAnswer answer = .ok found) :
    found.2.1.isActive ∧ answer.responder = found.2.1.operator := by
  unfold checkAnswer at h
  split_ifs at h
  split at h
  · cases h
  · split at h
    · cases h
    · split_ifs at h with hended hresponder
      cases h
      exact ⟨by simpa using hended, not_not.mp hresponder⟩

variable {challengeId nowEpoch : ℕ} {challenge : RetrievalChallenge}

lemma finalizeMissedChallenge_of_overdue {deal : StorageDeal}
    (h : r.Overdue challengeId nowEpoch challenge deal) :
    let result : ChallengeResult :=
      ⟨challengeId, challenge.dealId, .missed, nowEpoch, deal.economics.operatorBond⟩
    (finalizeMissedChallenge challengeId nowEpoch).run r =
      (.ok result, ((r.setStatus challenge.dealId deal h.2.2.2 .slashed).openTicket deal
        deal.operator nowEpoch).addResult result) := by
  obtain ⟨hopen, hchallenge, hlate, hdeal⟩ := h
  show finalizeMissedChallenge challengeId nowEpoch r = _
  unfold finalizeMissedChallenge
  rw [if_neg (by simp [hopen])]
  split
  · rename_i hnone
    exact nomatch hchallenge.symm.trans hnone
  · rename_i challenge' hchallenge'
    obtain rfl : challenge = challenge' := some.inj (hchallenge.symm.trans hchallenge')
    rw [if_neg hlate.not_ge]
    split
    · rename_i hnone
      exact nomatch hdeal.symm.trans hnone
    · rename_i deal' hdeal'
      obtain rfl : deal = deal' := some.inj (hdeal.symm.trans hdeal')
      rfl

lemma finalizeMissedChallenge_of_not_overdue
    (h : ∀ challenge deal, ¬ r.Overdue challengeId nowEpoch challenge deal) :
    ∃ e, (finalizeMissedChallenge challengeId nowEpoch).run r = (.error (.err e), r) := by
  show ∃ e, finalizeMissedChallenge challengeId nowEpoch r = _
  unfold finalizeMissedChallenge
  split
  · exact ⟨_, rfl⟩
  · rename_i hopen
    split
    · exact ⟨_, rfl⟩
    · rename_i challenge hchallenge
      split_ifs with hearly
      · exact ⟨_, rfl⟩
      · split
        · exact ⟨_, rfl⟩
        · rename_i deal hdeal
          exact absurd ⟨by simpa using hopen, hchallenge, not_le.mp hearly, hdeal⟩
            (h challenge deal)

lemma settlement_of_overdue
    {deal : StorageDeal} (h : r.Overdue challengeId nowEpoch challenge deal) :
    (StorageOp.reported ((finalizeMissedChallenge challengeId nowEpoch).run r)).1 =
      some ⟨challenge.dealId, .slashed, deal.economics.operatorBond⟩ := by
  rw [finalizeMissedChallenge_of_overdue h]
  rfl

lemma dealEffect_finalizeMissedChallenge (challengeId nowEpoch : ℕ) :
    let applied := StorageOp.reported ((finalizeMissedChallenge challengeId nowEpoch).run r)
    DealEffect r applied.1 applied.2 := by
  intro applied
  by_cases h : ∃ challenge deal, r.Overdue challengeId nowEpoch challenge deal
  · obtain ⟨challenge, deal, h⟩ := h
    have hsettled : applied.1 = some ⟨challenge.dealId, .slashed, deal.economics.operatorBond⟩ :=
      settlement_of_overdue h
    rw [hsettled]
    refine .settled deal _ .slashed h.2.2.2 (by decide) ?_
    have hrun := finalizeMissedChallenge_of_overdue h
    show (StorageOp.reported _).2.deals = _
    rw [hrun]
    exact deals_openTicket ..
  · push Not at h
    obtain ⟨e, hrun⟩ := finalizeMissedChallenge_of_not_overdue h
    show DealEffect r (StorageOp.reported _).1 (StorageOp.reported _).2
    rw [hrun]
    exact .kept rfl

lemma expireDeal_cases (dealId nowEpoch : ℕ) :
    (∃ result, (expireDeal dealId nowEpoch).run r = (result, r) ∧
      (∀ bond, result = .ok bond → bond = 0 ∧
        ∃ deal, r.deals.get? dealId = some deal ∧ deal.isActive = false)) ∨
    ∃ deal, ∃ hget : r.deals.get? dealId = some deal, deal.isActive = true ∧
      (expireDeal dealId nowEpoch).run r =
        (.ok deal.economics.operatorBond, r.setStatus dealId deal hget .expired) := by
  unfold run expireDeal
  split
  · exact .inl ⟨_, rfl, fun _ h => nomatch h⟩
  · rename_i deal hget
    split_ifs with hearly hended hstrand
    · exact .inl ⟨_, rfl, fun _ h => nomatch h⟩
    · refine .inl ⟨_, rfl, fun bond hbond => ⟨(Except.ok.inj hbond).symm, deal, hget, ?_⟩⟩
      simpa [isActive] using hended
    · exact .inl ⟨_, rfl, fun _ h => nomatch h⟩
    · exact .inr ⟨deal, hget, by simpa [isActive] using hended, rfl⟩

end StorageRegistry

namespace StorageOp

variable (M : StorageModules) {r : StorageRegistry}

lemma returned_of_ended {dealId : ℕ} {result : Except (Stop StorageError) ℕ}
    (h : ∀ bond, result = .ok bond → bond = 0 ∧
      ∃ deal, r.deals.get? dealId = some deal ∧ deal.isActive = false) :
    returned r dealId (result, r) = (none, r) := by
  cases result with
  | error e => rfl
  | ok bond =>
    obtain ⟨-, deal, hget, hended⟩ := h bond rfl
    rw [returned, if_neg (by simp [hget, hended])]

lemma dealEffect (op : StorageOp) : DealEffect r (op.apply M r).1 (op.apply M r).2 := by
  cases op with
  | openDeal req =>
    apply wp_snd.mp
    unfold StorageRegistry.openDeal
    simp only [wp_rules, id_eq]
    refine ⟨fun shard _ => ⟨fun _ => .kept (by simp), fun _ => ?_⟩, fun _ _ => .kept rfl⟩
    refine .opened (dealOf req shard) rfl ?_
    show (insert _ _ _) = _
    simp
  | openChallenge =>
    apply wp_snd.mp
    unfold StorageRegistry.openChallenge
    simp only [wp_rules, id_eq]
    exact ⟨fun deal _ => ⟨fun _ => .kept rfl, fun _ => .kept rfl⟩, fun _ _ => .kept rfl⟩
  | answerChallenge answer =>
    dsimp only [apply]
    unfold run StorageRegistry.answerChallengeWithChainId
    cases r.checkAnswer answer with
    | error e => exact .kept rfl
    | ok found =>
      obtain ⟨challenge, deal, hget⟩ := found
      simp only [StorageRegistry.resolveAnswer]
      cases StorageRegistry.verifyAnswer M answer challenge deal with
      | ok _ => exact .kept rfl
      | error e =>
        show DealEffect r (some ⟨deal.dealId, .slashed, deal.economics.operatorBond⟩) _
        exact .settled deal _ .slashed hget (by decide) rfl
  | finalizeMissedChallenge challengeId nowEpoch =>
    exact dealEffect_finalizeMissedChallenge challengeId nowEpoch
  | expireDeal dealId nowEpoch =>
    rcases expireDeal_cases (r := r) dealId nowEpoch with
      ⟨result, hrun, hended⟩ | ⟨deal, hget, hactive, hrun⟩
    · have hkept : (expireDeal dealId nowEpoch).apply M r = (none, r) := by
        show returned r dealId _ = _
        rw [hrun, returned_of_ended hended]
      rw [hkept]
      exact .kept rfl
    · have hreturned : (expireDeal dealId nowEpoch).apply M r =
          (some ⟨dealId, .returned, deal.economics.operatorBond⟩,
            r.setStatus dealId deal hget .expired) := by
        show returned r dealId _ = _
        rw [hrun, returned, if_pos (by simp [hget, hactive])]
      rw [hreturned]
      exact .settled deal _ .expired hget (by decide) rfl

lemma proper_iff (op : StorageOp) :
    op.Proper r ↔ ∀ s deal, (op.apply M r).1 = some s → r.deals.get? s.dealId = some deal →
      deal.isActive := by
  cases op with
  | openDeal req => simp [Proper, apply]
  | openChallenge req => simp [Proper, apply]
  | answerChallenge answer =>
    refine ⟨fun _ s deal hs hget => ?_, fun _ => trivial⟩
    dsimp only [apply] at hs
    unfold run StorageRegistry.answerChallengeWithChainId at hs
    cases hcheck : r.checkAnswer answer with
    | error e => rw [hcheck] at hs; cases hs
    | ok found =>
      obtain ⟨challenge, deal', hget'⟩ := found
      rw [hcheck] at hs
      simp only [resolveAnswer] at hs
      cases hverify : verifyAnswer M answer challenge deal' with
      | ok _ => rw [hverify] at hs; cases hs
      | error e =>
        rw [hverify] at hs
        cases hs
        obtain rfl : deal' = deal := some.inj (hget'.symm.trans hget)
        exact (of_checkAnswer hcheck).1
  | finalizeMissedChallenge challengeId nowEpoch =>
    constructor
    · intro hproper s deal hs hget
      by_cases h : ∃ challenge deal, r.Overdue challengeId nowEpoch challenge deal
      · obtain ⟨challenge, deal', h⟩ := h
        obtain rfl : _ = s := some.inj ((settlement_of_overdue h).symm.trans hs)
        obtain rfl : deal' = deal := some.inj (h.2.2.2.symm.trans hget)
        exact hproper challenge deal' h
      · push Not at h
        obtain ⟨e, hrun⟩ := finalizeMissedChallenge_of_not_overdue h
        rw [apply, hrun] at hs
        cases hs
    · intro h challenge deal hlate
      exact h _ deal (settlement_of_overdue hlate) hlate.2.2.2
  | expireDeal dealId nowEpoch =>
    refine ⟨fun _ s deal hs hget => ?_, fun _ => trivial⟩
    rcases expireDeal_cases (r := r) dealId nowEpoch with
      ⟨result, hrun, hended⟩ | ⟨deal', hget', hactive, hrun⟩
    · rw [apply, hrun, returned_of_ended hended] at hs
      cases hs
    · rw [apply, hrun, returned, if_pos (by simp [hget', hactive])] at hs
      cases hs
      obtain rfl : deal' = deal := some.inj (hget'.symm.trans hget)
      exact hactive

end StorageOp

/-! ## Runs -/

structure BondHistory where
  registry : StorageRegistry
  settlements : List Settlement

namespace BondHistory

variable (M : StorageModules)

def step (h : BondHistory) (op : StorageOp) : BondHistory where
  registry := (op.apply M h.registry).2
  settlements := h.settlements ++ (op.apply M h.registry).1.toList

def settled (h : BondHistory) (dealId : ℕ) : ℕ := h.settlements.countP fun s => s.dealId = dealId

def ProperFrom (h : BondHistory) : List StorageOp → Prop
  | [] => True
  | op :: ops => op.Proper h.registry ∧ ProperFrom (h.step M op) ops

instance decidableProperFrom : (h : BondHistory) → (ops : List StorageOp) →
    Decidable (ProperFrom M h ops)
  | _, [] => inferInstanceAs (Decidable True)
  | h, op :: ops =>
    have := decidableProperFrom (h.step M op) ops
    inferInstanceAs (Decidable (_ ∧ _))

/-- The deals that have ended are those whose bond was settled. -/
def Tracks (h : BondHistory) : Prop :=
  ∀ id, 0 < h.settled id ↔ ∃ deal, h.registry.deals.get? id = some deal ∧ deal.isActive = false

variable {M} {h : BondHistory}

lemma settled_step (op : StorageOp) (id : ℕ) :
    (h.step M op).settled id =
      h.settled id + if (op.apply M h.registry).1.any (fun s => s.dealId = id) then 1 else 0 := by
  unfold settled step
  cases (op.apply M h.registry).1 with
  | none => simp
  | some s => by_cases hid : s.dealId = id <;> simp [hid]

lemma settled_le_foldl (ops : List StorageOp) (id : ℕ) :
    h.settled id ≤ (ops.foldl (step M) h).settled id := by
  induction ops generalizing h with
  | nil => exact le_rfl
  | cons op ops ih =>
    have hstep := settled_step (M := M) (h := h) op id
    exact le_trans (by omega) (ih (h := h.step M op))

lemma Tracks.step (ht : h.Tracks) (op : StorageOp) : (h.step M op).Tracks := by
  intro id
  rw [settled_step]
  have heffect := op.dealEffect M (r := h.registry)
  show _ ↔ ∃ deal, (op.apply M h.registry).2.deals.get? id = some deal ∧ _
  generalize (op.apply M h.registry).1 = reported, (op.apply M h.registry).2 = r' at heffect ⊢
  cases heffect with
  | kept hdeals =>
    rw [hdeals]
    exact ht id
  | opened deal hactive hdeals =>
    rw [hdeals, addDeal_deals]
    refine (ht id).trans ?_
    by_cases hid : id = h.registry.nextDealId
    · subst hid
      simp [get?_nextDealId, isActive, hactive]
    · rw [get?_insert, if_neg hid]
  | settled deal s status hget hended hdeals =>
    rw [hdeals]
    by_cases hid : s.dealId = id
    · subst hid
      simp [isActive, hended]
    · rw [get?_insert, if_neg (Ne.symm hid)]
      simpa [hid] using ht id

/-- A proper operation settles bonds that were not settled, an improper one settles one
again. -/
lemma settled_once_step_iff (ht : h.Tracks) (honce : ∀ id, h.settled id ≤ 1)
    (op : StorageOp) : (∀ id, (h.step M op).settled id ≤ 1) ↔ op.Proper h.registry := by
  rw [op.proper_iff M]
  constructor
  · intro hnext s deal hs hget
    by_contra hended
    have hsettled := (ht s.dealId).mpr ⟨deal, hget, by simpa using hended⟩
    have hle := hnext s.dealId
    rw [settled_step, hs, if_pos (by simp)] at hle
    omega
  · intro hproper id
    rw [settled_step]
    cases hs : (op.apply M h.registry).1 with
    | none => simpa using honce id
    | some s =>
      by_cases hid : s.dealId = id
      · subst hid
        have hzero : h.settled s.dealId = 0 := by
          by_contra hpos
          obtain ⟨deal, hget, hended⟩ := (ht s.dealId).mp (Nat.pos_of_ne_zero hpos)
          rw [hproper s deal hs hget] at hended
          cases hended
        simp [hzero]
      · simpa [hid] using honce id

lemma settled_once_iff (ht : h.Tracks) (honce : ∀ id, h.settled id ≤ 1) (ops : List StorageOp) :
    (∀ id, (ops.foldl (step M) h).settled id ≤ 1) ↔ h.ProperFrom M ops := by
  induction ops generalizing h with
  | nil => exact ⟨fun _ => trivial, fun _ => honce⟩
  | cons op ops ih =>
    rw [foldl_cons, ProperFrom, ← settled_once_step_iff ht honce op]
    constructor
    · intro hrun
      have hnext : ∀ id, (h.step M op).settled id ≤ 1 := fun id =>
        (settled_le_foldl ops id).trans (hrun id)
      exact ⟨hnext, (ih (ht.step op) hnext).mp hrun⟩
    · rintro ⟨hnext, hrest⟩
      exact (ih (ht.step op) hnext).mpr hrest

end BondHistory

open BondHistory

/-- In a run from a registry whose deals are all active, the bond of every deal is settled at
most once exactly if no overdue challenge is finalized whose deal has ended. -/
theorem bonds_settled_once_iff (M : StorageModules) (r : StorageRegistry)
    (hactive : ∀ id deal, r.deals.get? id = some deal → deal.isActive) (ops : List StorageOp) :
    (∀ id, (ops.foldl (step M) ⟨r, []⟩).settled id ≤ 1) ↔ ProperFrom M ⟨r, []⟩ ops := by
  refine settled_once_iff (fun id => ?_) (fun id => Nat.zero_le _) ops
  constructor
  · intro hpos
    exact absurd hpos (lt_irrefl 0)
  · rintro ⟨deal, hget, hended⟩
    rw [hactive id deal hget] at hended
    cases hended

/-- Modules that take every proof envelope. -/
def sampleStorageModules : StorageModules where
  hashFields _ := []
  hexEncode _ := ""
  decodeEnvelope _ := .ok ⟨1, "", "", "", [], [0], 0⟩
  verifyAnswer _ _ _ _ := .ok ()

def sampleManifest : ContentManifest where
  manifestId := ⟨[]⟩
  owner := Address.zero
  totalSize := 2048
  shardCount := 1
  shards := [⟨0, ⟨[1]⟩, 2048, .data⟩]
  erasure := ⟨1, 1⟩
  contentSize := 2048
  encryption := .plaintext

def sampleDeal (replicaIndex : ℕ) : DealRequest where
  domainId := 1
  manifest := sampleManifest
  shardId := ⟨[1]⟩
  operator := ⟨1⟩
  replicaIndex
  startEpoch := 0
  endEpoch := 8
  economics := ⟨5, 3⟩
  minOperatorBond := 1
  merkleProof := some (replicate 64 0)
  storageRoot := some []

/-- A challenge of the first deal, two epochs long. -/
def sampleChallenge (epoch : ℕ) : ChallengeRequest := ⟨0, 0, 1024, epoch, epoch + 2, ⟨2⟩, 1⟩

theorem bonds_settled_once_iff_one_missed : (foldl (step sampleStorageModules) ⟨.new, []⟩
      [.openDeal (sampleDeal 0), .openChallenge (sampleChallenge 1),
        .openChallenge (sampleChallenge 5), .finalizeMissedChallenge 0 4]).settled 0 ≤ 1 :=
  (bonds_settled_once_iff sampleStorageModules .new (fun _ _ h => nomatch h) _).mpr
    (by decide +kernel) 0

/-- A deal with two overdue challenges is slashed twice; a deal that has ended and returned its
bond is slashed when its challenge is finalized. -/
theorem bond_settled_twice : (foldl (step sampleStorageModules) ⟨.new, []⟩
      [.openDeal (sampleDeal 0), .openChallenge (sampleChallenge 1),
        .openChallenge (sampleChallenge 5), .finalizeMissedChallenge 0 10,
        .finalizeMissedChallenge 1 10]).settlements = [⟨0, .slashed, 5⟩, ⟨0, .slashed, 5⟩] ∧
    (foldl (step sampleStorageModules) ⟨.new, []⟩
      [.openDeal (sampleDeal 0), .openDeal (sampleDeal 1), .openChallenge (sampleChallenge 7),
        .expireDeal 0 8, .finalizeMissedChallenge 0 10]).settlements =
      [⟨0, .returned, 5⟩, ⟨0, .slashed, 5⟩] := by
  decide +kernel

end Budlum
