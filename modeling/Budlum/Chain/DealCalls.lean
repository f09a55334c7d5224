import Budlum.Chain.DealLife

/-!
# What the calls on storage deals do

Each call of `Blockchain` on an opened deal takes the deal along its life, and an opening
adds one deal and takes the fee and the bond. `Proper` is the condition under which a call
is fair to a deal: it does not slash it while it is active, and the bonds that come back to
its operator fit its balance.
-/

namespace Budlum

open Machine StorageEconomicsEvent Exec SortedMap List StorageDeal

namespace StorageRegistry

variable (r : StorageRegistry) (deal : StorageDeal) (operator : Address) (nowEpoch : ℕ)

lemma openTicket_keeps : (r.openTicket deal operator nowEpoch).nextDealId = r.nextDealId ∧
    (r.openTicket deal operator nowEpoch).challenges = r.challenges ∧
    (r.openTicket deal operator nowEpoch).results = r.results := by
  unfold openTicket
  split_ifs <;> exact ⟨rfl, rfl, rfl⟩

lemma exists_finalizeMissedChallenge {r : StorageRegistry} {challengeId nowEpoch : ℕ}
    {challenge : RetrievalChallenge} {deal : StorageDeal}
    (h : r.Overdue challengeId nowEpoch challenge deal) :
    ∃ result r', (finalizeMissedChallenge challengeId nowEpoch).run r = (.ok result, r') ∧
      result.outcome = .missed ∧ result.slashedBond = deal.economics.operatorBond ∧
      r'.deals = r.deals.insert challenge.dealId { deal with status := .slashed } ∧
      r'.nextDealId = r.nextDealId ∧ r'.challenges = r.challenges ∧
      r'.results = r.results.insert challengeId result := by
  refine ⟨_, _, finalizeMissedChallenge_of_overdue h, rfl, rfl, deals_openTicket .., ?_, ?_, ?_⟩
  · exact (openTicket_keeps ..).1
  · exact (openTicket_keeps ..).2.1
  · exact congrArg (insert · _ _) (openTicket_keeps ..).2.2

lemma answerChallenge_cases (M : StorageModules) (answer : ChallengeAnswer)
    (r : StorageRegistry) :
    (∃ e, (answerChallengeWithChainId M answer).run r = (.error (.err e), r)) ∨
    (∃ result r', (answerChallengeWithChainId M answer).run r = (.ok result, r') ∧
      result.outcome ≠ .mismatched ∧ r'.deals = r.deals ∧ r'.nextDealId = r.nextDealId) ∨
    ∃ challenge deal e result r', r.checkAnswer answer = .ok (challenge, deal) ∧
      verifyAnswer M answer challenge deal.1 = .error e ∧
      (answerChallengeWithChainId M answer).run r = (.ok result, r') ∧
      result.outcome = .mismatched ∧ result.dealId = deal.1.dealId ∧
      result.slashedBond = deal.1.economics.operatorBond ∧
      r'.deals = r.deals.insert deal.1.dealId { deal.1 with status := .slashed } ∧
      r'.nextDealId = r.nextDealId := by
  unfold run answerChallengeWithChainId
  cases hcheck : r.checkAnswer answer with
  | error e => exact .inl ⟨e, rfl⟩
  | ok found =>
    obtain ⟨challenge, deal⟩ := found
    simp only [resolveAnswer]
    cases hverify : verifyAnswer M answer challenge deal.1 with
    | ok _ => exact .inr (.inl ⟨_, _, rfl, by simp, rfl, rfl⟩)
    | error e =>
      exact .inr (.inr ⟨challenge, deal, e, _, _, rfl, hverify, rfl, rfl, rfl, rfl, rfl, rfl⟩)

end StorageRegistry

namespace StorageChain

variable {T : ModuleTypes} {M : StorageModules} {W : StorageTexts}
variable {c c' c'' : StorageChain T} {fair : Prop} {id : ℕ}

/-- Some events were appended from `c` to `c'`. -/
def Track (fair : Prop) (id : ℕ) (c c' : StorageChain T) : Prop := ∃ es, Tracked fair id c es c'

lemma Track.refl (c : StorageChain T) : Track fair id c c := ⟨[], (Quiet.refl c).tracked⟩

lemma Track.trans (h : Track fair id c c') (h' : Track fair id c' c'') : Track fair id c c'' := by
  obtain ⟨es, h⟩ := h
  obtain ⟨es', h'⟩ := h'
  exact ⟨es ++ es', h.trans h'⟩

/-! ## Slashes -/

/-- The bond was burned from the balance of the operator, and an event appended. -/
structure Burned (epoch dealId : ℕ) (operator : Address) (bond : ℕ) (c c' : StorageChain T) :
    Prop where
  events : c'.storageEconomicsEvents = c.storageEconomicsEvents ++
    [⟨epoch, dealId, operator, bond, min bond (c.balance operator), .operatorBondSlashed⟩]
  balance : ∀ a, (c'.balance a : ℤ) =
    c.balance a + if a = operator then -((min bond (c.balance operator) : ℕ) : ℤ) else 0
  deals : c'.registry.deals = c.registry.deals
  nextDealId : c'.registry.nextDealId = c.registry.nextDealId
  challenges : c'.registry.challenges = c.registry.challenges
  results : c'.registry.results = c.registry.results
  cursors : c'.storageLastRewardEpoch = c.storageLastRewardEpoch

variable {epoch dealId bond d : ℕ} {operator : Address}

lemma Burned.balance_le (h : Burned epoch dealId operator bond c c') (a : Address) :
    c'.balance a ≤ c.balance a := by
  have hbalance := h.balance a
  split_ifs at hbalance <;> omega

lemma Burned.ranged (h : Burned epoch dealId operator bond c c') (hc : c.Ranged) : c'.Ranged :=
  fun a => (h.balance_le a).trans (hc a)

lemma wp_applyStorageBondSlash
    {Q : ℕ → StorageChain T → Prop} {E : Stop String → StorageChain T → Prop}
    (hok : ∀ burned c', Burned epoch dealId operator bond c c' → Q burned c')
    (herr : ∀ e c', Burned epoch dealId operator bond c c' → E e c') :
    wp (applyStorageBondSlash epoch dealId operator bond) Q E c := by
  unfold applyStorageBondSlash
  rw [wp_bind, wp_modify, wp_bind, wp_onAccounts]
  refine AccountState.wp_burnFrom_shifted fun s hs => ?_
  rw [wp_bind, wp_modify, wp_bind]
  have hburned : Burned epoch dealId operator bond c
      ((((c.countSlash operator bond).withState s).countBurn
        (min bond (c.balance operator))).pushEvent ⟨epoch, dealId, operator, bond,
          min bond (c.balance operator), .operatorBondSlashed⟩) := by
    have hregistry : s.storageRegistry = (c.countSlash operator bond).registry := hs.storageRegistry
    refine ⟨rfl, hs.balance, ?_, ?_, ?_, ?_, rfl⟩ <;>
      simp only [registry, pushEvent_state, countBurn_state, withState_state, hs.storageRegistry] <;>
      rfl
  exact readOnly_persistStorageEconomicsState.wp_of (fun _ => hok _ _ hburned)
    fun e => herr e _ hburned

variable {deal : StorageDeal} {r : StorageRegistry}

lemma Burned.track (hget : c.registry.deals.get? d = some deal)
    (hdeals : r.deals = c.registry.deals.insert d { deal with status := .slashed })
    (hnext : r.nextDealId = c.registry.nextDealId)
    (hburned : Burned epoch d deal.operator deal.economics.operatorBond (c.withRegistry r) c')
    (hfair : fair → d = id → deal.isActive = true → deal.economics.operatorBond = 0) :
    Track fair id c c' := by
  have hended : Ended d deal .slashed c c' :=
    ⟨hget, hburned.deals.trans hdeals, hburned.nextDealId.trans hnext, hburned.cursors⟩
  have hid : deal.dealId = d := (c.registry.deals_keyed d deal hget).1
  refine ⟨_, hended.tracked (fun hd => ?_) ?_ hburned.events (fun a => ?_) hburned.ranged⟩
  · subst hid
    exact .slashed ⟨deal, c.paidThrough deal⟩ epoch _ (min_le_left _ _) fun hf => hfair hf hd
  · simp
  · rw [effect_singleton]
    exact hburned.balance a

/-- No overdue challenge of an active deal with a bond. -/
def SparesActive (id epoch : ℕ) (r : StorageRegistry) : Prop :=
  ∀ challengeId challenge deal, r.Overdue challengeId epoch challenge deal →
    challenge.dealId = id → deal.isActive = true → deal.economics.operatorBond = 0

instance (id epoch : ℕ) (r : StorageRegistry) : Decidable (SparesActive id epoch r) :=
  decidable_of_iff (∀ entry ∈ r.challenges.entries, r.results.contains entry.1 = false →
      entry.2.deadlineEpoch < epoch → entry.2.dealId = id →
        ∀ deal ∈ r.deals.get? entry.2.dealId, deal.isActive = true →
          deal.economics.operatorBond = 0) <| by
    constructor
    · rintro h challengeId challenge deal ⟨hopen, hget, hlate, hdeal⟩ hid hactive
      exact h (challengeId, challenge) (mem_entries.mpr hget) hopen hlate hid deal hdeal
        hactive
    · rintro h ⟨challengeId, challenge⟩ hmem hopen hlate hid deal hdeal hactive
      exact h challengeId challenge deal ⟨hopen, mem_entries.mp hmem, hlate, hdeal⟩ hid
        hactive

/-- Challenges that were pending belong to the deals they were listed with. -/
def Listed (pending : List (ℕ × ℕ)) (r : StorageRegistry) : Prop :=
  ∀ p ∈ pending, ∀ challenge, r.challenges.get? p.1 = some challenge → challenge.dealId = p.2

lemma readOnly_persistSweep (acc : ℕ × ℕ) : ReadOnly (do
    onlyIf (0 < acc.1) do
      persistStorageRegistry
      persistStorageEconomicsState
    pure acc : Method T (ℕ × ℕ)) :=
  .bind (.ite (.bind readOnly_persistStorageRegistry fun _ =>
    readOnly_persistStorageEconomicsState) .pure) fun _ => .pure

/-- What one turn of the sweep finds in the next one. -/
structure MissedLoop (fair : Prop) (id epoch : ℕ) (c₀ : StorageChain T) (rest : List (ℕ × ℕ))
    (c : StorageChain T) : Prop where
  track : Track fair id c₀ c
  listed : Listed rest c.registry
  spares : fair → SparesActive id epoch c.registry

variable {rest : List (ℕ × ℕ)}

lemma MissedLoop.tail {p : ℕ × ℕ}
    (h : MissedLoop fair id epoch c₀ (p :: rest) c) : MissedLoop fair id epoch c₀ rest c :=
  ⟨h.track, fun q hq => h.listed q (mem_cons_of_mem _ hq), h.spares⟩

variable {result : ChallengeResult}

lemma SparesActive.slash {r' : StorageRegistry} {challengeId : ℕ} (h : SparesActive id epoch r)
    (hdeals : r'.deals = r.deals.insert d { deal with status := .slashed })
    (hchallenges : r'.challenges = r.challenges)
    (hresults : r'.results = r.results.insert challengeId result) :
    SparesActive id epoch r' := by
  rintro challengeId' challenge deal' ⟨hopen, hget, hlate, hdeal⟩ hid hactive
  rw [hdeals] at hdeal
  rcases get?_insert_eq_some.mp hdeal with ⟨-, rfl⟩ | ⟨-, hdeal⟩
  · exact absurd hactive (by simp [isActive])
  · refine h challengeId' challenge deal' ⟨?_, hchallenges ▸ hget, hlate, hdeal⟩ hid hactive
    rw [hresults] at hopen
    simp only [SortedMap.contains, get?_insert] at hopen ⊢
    split_ifs at hopen
    · exact absurd hopen (by simp)
    · exact hopen

lemma MissedLoop.slash {p : ℕ × ℕ} {challenge : RetrievalChallenge}
    (h : MissedLoop fair id epoch c₀ (p :: rest) c)
    (hoverdue : c.registry.Overdue p.1 epoch challenge deal) (hdealId : challenge.dealId = p.2)
    (hdeals : r.deals = c.registry.deals.insert p.2 { deal with status := .slashed })
    (hnext : r.nextDealId = c.registry.nextDealId)
    (hchallenges : r.challenges = c.registry.challenges)
    (hresults : r.results = c.registry.results.insert p.1 result)
    (hburned : Burned epoch p.2 deal.operator deal.economics.operatorBond (c.withRegistry r) c') :
    MissedLoop fair id epoch c₀ rest c' where
  track := by
    refine h.track.trans (hburned.track (hdealId ▸ hoverdue.2.2.2) hdeals hnext ?_)
    exact fun hf hid => h.spares hf _ _ _ hoverdue (hdealId.trans hid)
  listed q hq challenge' hget := by
    rw [hburned.challenges] at hget
    exact h.listed q (mem_cons_of_mem _ hq) challenge' (hchallenges ▸ hget)
  spares hf := (h.spares hf).slash (hburned.deals.trans hdeals)
    (hburned.challenges.trans hchallenges) (hburned.results.trans hresults)

lemma wp_finalizeMissed {acc p : ℕ × ℕ} (h : MissedLoop fair id epoch c₀ (p :: rest) c) :
    wp (finalizeMissed epoch acc p) (fun _ => MissedLoop fair id epoch c₀ rest)
      (fun _ => Track fair id c₀) c := by
  unfold finalizeMissed
  rw [wp_bind, wp_read, wp_bind]
  by_cases hoverdue : ∃ challenge deal, c.registry.Overdue p.1 epoch challenge deal
  · obtain ⟨challenge, deal, hoverdue⟩ := hoverdue
    have hdealId : challenge.dealId = p.2 := h.listed p (mem_cons_self ..) _ hoverdue.2.1
    have hget : c.registry.deals.get? p.2 = some deal := hdealId ▸ hoverdue.2.2.2
    have hoperator : c.operatorOf p.2 = deal.operator := by rw [operatorOf, hget]; rfl
    obtain ⟨result, r, hrun, hmissed, hbond, hdeals, hnext, hchallenges, hresults⟩ :=
      StorageRegistry.exists_finalizeMissedChallenge hoverdue
    rw [wp_onRegistry_ok hrun]
    simp only [hmissed, if_true, hoperator, hbond]
    rw [wp_bind]
    have hslash : ∀ c', Burned epoch p.2 deal.operator deal.economics.operatorBond
        (c.withRegistry r) c' → MissedLoop fair id epoch c₀ rest c' := fun c' =>
      h.slash hoverdue hdealId (hdealId ▸ hdeals) hnext hchallenges hresults
    refine wp_applyStorageBondSlash (fun _ c' hburned => ?_) fun _ c' hburned =>
      (hslash c' hburned).track
    rw [wp_bind, wp_increment]
    exact ⟨fun _ => (hslash c' hburned).track, fun _ => hslash c' hburned⟩
  · push Not at hoverdue
    obtain ⟨e, hrun⟩ := StorageRegistry.finalizeMissedChallenge_of_not_overdue hoverdue
    rw [wp_onRegistry_err hrun]
    exact h.tail

lemma track_finalizeMissedStorageChallenges (hfair : fair → SparesActive id epoch c.registry) :
    Returns (finalizeMissedStorageChallenges epoch) (Track fair id c) c := by
  have hstart : MissedLoop fair id epoch c (c.pendingChallenges epoch) c := by
    refine ⟨.refl c, fun p hp challenge hget => ?_, hfair⟩
    simp only [pendingChallenges, mem_map, mem_filter] at hp
    obtain ⟨listed, ⟨hmem, -⟩, rfl⟩ := hp
    have hlisted := get?_of_mem_values (fun k v h => (c.registry.challenges_keyed k v h).1) hmem
    cases hlisted.symm.trans hget
    rfl
  refine returns_of_run (wp_snd.mp ?_)
  unfold finalizeMissedStorageChallenges
  rw [wp_bind, wp_read, wp_bind]
  refine wp_imp (wp_foldlM (I := fun rest _ => MissedLoop fair id epoch c rest)
    (fun p rest acc c' h => wp_finalizeMissed h) _ (0, 0) c hstart) (fun acc c' h => ?_)
  exact (readOnly_persistSweep acc).wp_of (fun _ => h.track) fun _ => h.track

/-! ## Answers -/

/-- An answer that slashes no active deal with a bond. -/
def AnswerSpares (M : StorageModules) (id : ℕ) (answer : ChallengeAnswer) (r : StorageRegistry) :
    Prop :=
  ∀ challenge deal, r.checkAnswer answer = .ok (challenge, deal) → deal.1.dealId = id →
    (∃ e, StorageRegistry.verifyAnswer M answer challenge deal.1 = .error e) →
      deal.1.economics.operatorBond = 0

instance (M : StorageModules) (id : ℕ) (answer : ChallengeAnswer) (r : StorageRegistry) :
    Decidable (AnswerSpares M id answer r) :=
  match hcheck : r.checkAnswer answer with
  | .error e => isTrue fun _ _ h => nomatch hcheck.symm.trans h
  | .ok (challenge, deal) =>
    match hverify : StorageRegistry.verifyAnswer M answer challenge deal.1 with
    | .ok _ => isTrue fun challenge' deal' h => by
        obtain ⟨rfl, rfl⟩ := Prod.mk.inj (Except.ok.inj (hcheck.symm.trans h))
        rintro - ⟨e, he⟩
        exact nomatch hverify.symm.trans he
    | .error e =>
      decidable_of_iff (deal.1.dealId = id → deal.1.economics.operatorBond = 0) <| by
        constructor
        · intro hzero challenge' deal' h hid _
          obtain ⟨rfl, rfl⟩ := Prod.mk.inj (Except.ok.inj (hcheck.symm.trans h))
          exact hzero hid
        · exact fun h hid => h challenge deal hcheck hid ⟨e, hverify⟩

lemma track_answerStorageChallenge {answer : ChallengeAnswer}
    (hfair : fair → AnswerSpares M id answer c.registry) :
    Returns (answerStorageChallenge M W answer) (Track fair id c) c := by
  have hsave : ∀ c', Track fair id c c' → ∀ result : ChallengeResult,
      wp (saveStorageRegistry >>= fun _ => pure result : Method T ChallengeResult)
        (fun _ => Track fair id c) (fun _ => Track fair id c) c' := fun c' h result =>
    (ReadOnly.bind readOnly_saveStorageRegistry fun _ => .pure).wp_of
      (fun _ => h) fun _ => h
  refine returns_of_run (wp_snd.mp ?_)
  unfold answerStorageChallenge
  rw [wp_bind]
  rcases StorageRegistry.answerChallenge_cases M answer c.registry with
    ⟨e, hrun⟩ | ⟨result, r, hrun, houtcome, hdeals, hnext⟩ |
    ⟨challenge, deal, e, result, r, hcheck, hverify, hrun, houtcome, hid, hbond, hdeals, hnext⟩
  · rw [wp_onRegistry_err hrun]
    exact Track.refl c
  · rw [wp_onRegistry_ok hrun]
    have hquiet : Track fair id c (c.withRegistry r) :=
      ⟨[], Quiet.tracked ⟨rfl, fun _ => rfl, hdeals, hnext, rfl⟩⟩
    rw [wp_bind, wp_onlyIf]
    exact ⟨fun h => absurd h houtcome, fun _ => hsave _ hquiet result⟩
  · rw [wp_onRegistry_ok hrun]
    have hslash : ∀ c', Burned answer.responseEpoch result.dealId answer.responder
        result.slashedBond (c.withRegistry r) c' → Track fair id c c' := by
      intro c' hburned
      rw [hid, hbond, (StorageRegistry.of_checkAnswer hcheck).2] at hburned
      refine hburned.track deal.2 hdeals hnext fun hf hid _ => ?_
      exact hfair hf challenge deal hcheck hid ⟨e, hverify⟩
    rw [wp_bind, wp_onlyIf]
    refine ⟨fun _ => ?_, fun h => absurd houtcome h⟩
    rw [wp_bind]
    exact wp_applyStorageBondSlash (fun _ c' hburned => hsave c' (hslash c' hburned) result)
      fun _ c' hburned => hslash c' hburned

/-! ## The end of a deal -/

def lockedBond (a : Address) (deal : StorageDeal) : ℕ :=
  if deal.isActive = true ∧ deal.operator = a then deal.economics.operatorBond else 0

def Backed (c : StorageChain T) (a : Address) : Prop :=
  c.balance a + c.registry.deals.sumBy (lockedBond a) ≤ u64Max

def BackedDeal (id : ℕ) (c : StorageChain T) : Prop :=
  ∀ deal, c.registry.deals.get? id = some deal → deal.isActive = true → c.Backed deal.operator

instance (id : ℕ) (c : StorageChain T) : Decidable (BackedDeal id c) :=
  inferInstanceAs (Decidable (∀ deal ∈ c.registry.deals.get? id, deal.isActive = true →
    c.balance deal.operator + c.registry.deals.sumBy (lockedBond deal.operator) ≤ u64Max))

/-- What one turn of the sweep finds in the next one. -/
structure ExpiredLoop (fair : Prop) (id : ℕ) (c₀ : StorageChain T) (rest : List (ℕ × Address))
    (c : StorageChain T) : Prop where
  track : Track fair id c₀ c
  listed : ∀ p ∈ rest, ∀ deal, c.registry.deals.get? p.1 = some deal → deal.operator = p.2
  backed : fair → BackedDeal id c

variable {c₀ : StorageChain T} {p : ℕ × Address} {rest : List (ℕ × Address)}

lemma ExpiredLoop.quiet (h : ExpiredLoop fair id c₀ (p :: rest) c) (hq : Quiet c c') :
    ExpiredLoop fair id c₀ rest c' where
  track := h.track.trans ⟨[], hq.tracked⟩
  listed q hmem deal hget := by
    rw [hq.deals] at hget
    exact h.listed q (mem_cons_of_mem _ hmem) deal hget
  backed hf deal hget hactive := by
    rw [hq.deals] at hget
    unfold Backed
    rw [hq.balance, hq.deals]
    exact h.backed hf deal hget hactive

lemma quiet_openExpiryReallocation (c : StorageChain T) (dealId epoch : ℕ) :
    Quiet c (c.openExpiryReallocation dealId epoch) := by
  have hregistry : (c.openExpiryReallocation dealId epoch).registry =
      c.registry.openExpiryReallocation dealId epoch := rfl
  refine ⟨rfl, fun _ => rfl, ?_, ?_, rfl⟩ <;> rw [hregistry] <;>
    unfold StorageRegistry.openExpiryReallocation <;> split
  · exact StorageRegistry.deals_openTicket ..
  · rfl
  · exact (StorageRegistry.openTicket_keeps ..).1
  · rfl

lemma sumBy_lockedBond_expire
    (hget : r.deals.get? d = some deal) (hactive : deal.isActive = true) (a : Address) :
    (r.deals.insert d { deal with status := .expired }).sumBy (lockedBond a) +
        (if a = deal.operator then deal.economics.operatorBond else 0) =
      r.deals.sumBy (lockedBond a) := by
  have hsum := r.deals.sumBy_insert (lockedBond a) d { deal with status := .expired }
  have hold : ((r.deals.get? d).map (lockedBond a)).getD 0 =
      if a = deal.operator then deal.economics.operatorBond else 0 := by
    rw [hget]
    by_cases ha : a = deal.operator
    · simp [lockedBond, hactive, ha]
    · simp [lockedBond, ha, Ne.symm ha]
  have hnew : lockedBond a { deal with status := .expired } = 0 := by
    simp [lockedBond, isActive]
  rw [hold, hnew] at hsum
  exact hsum

section

variable (h : ExpiredLoop fair id c₀ (p :: rest) c)
include h

lemma ExpiredLoop.returned (epoch : ℕ) (hended : Ended p.1 deal .expired c c')
    (hactive : deal.isActive = true)
    (hevents : c'.storageEconomicsEvents = c.storageEconomicsEvents ++
      if deal.economics.operatorBond = 0 then []
      else [⟨epoch, p.1, p.2, deal.economics.operatorBond, deal.economics.operatorBond,
        .operatorBondReturned⟩])
    (hbalance : ∀ a, (c'.balance a : ℤ) =
      c.balance a + if a = p.2 then (deal.economics.operatorBond : ℤ) else 0)
    (hfits : c.balance p.2 + deal.economics.operatorBond ≤ u64Max ∨
      deal.economics.operatorBond = 0) :
    ExpiredLoop fair id c₀ rest c' where
  track := by
    have hid : deal.dealId = p.1 := (c.registry.deals_keyed p.1 deal hended.get).1
    have hoperator : deal.operator = p.2 := h.listed p (mem_cons_self ..) deal hended.get
    refine h.track.trans ⟨_, hended.tracked (fun _ => ?_) ?_ hevents (fun a => ?_) fun hc a => ?_⟩
    · split_ifs with hzero
      · exact .released _ hactive fun _ => hzero
      · rw [← hid, ← hoperator]
        exact .returned ⟨deal, c.paidThrough deal⟩ epoch hactive
    · split_ifs <;> simp
    · rw [hbalance]
      split_ifs with hp hzero hzero <;> simp_all [effect_singleton, change]
    · have hmoved := hbalance a
      have hle := hc a
      split_ifs at hmoved with hp
      · subst hp
        omega
      · omega
  listed q hmem deal' hget := by
    rw [hended.deals] at hget
    rcases get?_insert_eq_some.mp hget with ⟨hq, rfl⟩ | ⟨-, hget⟩
    · exact h.listed q (mem_cons_of_mem _ hmem) deal (hq ▸ hended.get)
    · exact h.listed q (mem_cons_of_mem _ hmem) deal' hget
  backed hf deal' hget hactive' := by
    rw [hended.deals] at hget
    rcases get?_insert_eq_some.mp hget with ⟨-, rfl⟩ | ⟨-, hget⟩
    · exact absurd hactive' (by simp [isActive])
    · have hback : c.balance deal'.operator + _ ≤ u64Max := h.backed hf deal' hget hactive'
      have hoperator : deal.operator = p.2 := h.listed p (mem_cons_self ..) deal hended.get
      have hsum := sumBy_lockedBond_expire hended.get hactive deal'.operator
      have hmoved := hbalance deal'.operator
      rw [← hended.deals, hoperator] at hsum
      unfold Backed
      split_ifs at hsum hmoved <;> omega

/-- A deal that ended although its bond did not fit the balance was not backed. -/
lemma ExpiredLoop.lost (hended : Ended p.1 deal .expired c c') (hactive : deal.isActive = true)
    (hover : u64Max < c.balance p.2 + deal.economics.operatorBond)
    (hevents : c'.storageEconomicsEvents = c.storageEconomicsEvents)
    (hbalance : ∀ a, c'.balance a = c.balance a) : Track fair id c₀ c' := by
  have hoperator : deal.operator = p.2 := h.listed p (mem_cons_self ..) deal hended.get
  refine h.track.trans ⟨[], hended.tracked (fun hid => .released _ hactive fun hf => ?_)
    (fun _ h => nomatch h) (by rw [hevents, append_nil]) (fun a => ?_) fun hc a => ?_⟩
  · have hback : c.balance deal.operator + _ ≤ u64Max :=
      h.backed hf deal (hid ▸ hended.get) hactive
    have hsum := sumBy_lockedBond_expire hended.get hactive deal.operator
    rw [if_pos rfl] at hsum
    rw [hoperator] at hback hsum
    omega
  · rw [hbalance, effect_nil, add_zero]
  · exact (hbalance a).trans_le (hc a)

lemma wp_finalizeExpired {acc : ℕ × ℕ} :
    wp (finalizeExpired W epoch acc p) (fun _ => ExpiredLoop fair id c₀ rest)
      (fun e c' => e ≠ .abort → Track fair id c₀ c') c := by
  unfold finalizeExpired
  rw [wp_bind]
  rcases StorageRegistry.expireDeal_cases (r := c.registry) p.1 epoch with
    ⟨result, hrun, hzero⟩ | ⟨deal, hget, hactive, hrun⟩
  · -- the deal was held, or had ended before
    have hticket := h.quiet (quiet_openExpiryReallocation c p.1 epoch)
    rcases result with (e | _) | bond
    · rw [wp_onRegistry_err hrun]
      cases e <;> first | exact hticket | exact h.quiet (Quiet.refl c)
    · rw [wp_onRegistry_abort hrun]
      exact fun h => absurd rfl h
    · obtain ⟨rfl, -⟩ := hzero bond rfl
      rw [wp_onRegistry_ok hrun]
      simp only [if_true]
      rw [wp_bind, wp_increment]
      exact ⟨fun _ h => absurd rfl h, fun _ => hticket⟩
  · rw [wp_onRegistry_ok hrun]
    dsimp only
    rw [wp_bind, wp_increment]
    refine ⟨fun _ habort => absurd rfl habort, fun _ => ?_⟩
    rw [wp_bind, wp_modify]
    have hq := quiet_openExpiryReallocation
      (c.withRegistry (c.registry.setStatus p.1 deal hget .expired)) p.1 epoch
    generalize (c.withRegistry (c.registry.setStatus p.1 deal hget .expired)).openExpiryReallocation
      p.1 epoch = ended at hq ⊢
    have hevents : ended.storageEconomicsEvents = c.storageEconomicsEvents := hq.events
    have hbalance : ∀ a, ended.balance a = c.balance a := hq.balance
    split_ifs with hzero
    · refine h.returned epoch ⟨hget, hq.deals, hq.nextDealId, hq.cursors⟩ hactive ?_
        (fun a => ?_) (.inr hzero)
      · rw [if_pos hzero, append_nil]
        exact hevents
      · show (ended.balance a : ℤ) = _
        simp [hbalance, hzero]
    · rw [wp_bind, wp_onAccounts]
      refine AccountState.wp_tryAddBalance_shifted (fun s hs hfits => ?_) fun e s hs hover _ => ?_
      · have hregistry : ((ended.withState s).pushEvent ⟨epoch, p.1, p.2,
            deal.economics.operatorBond, deal.economics.operatorBond,
            .operatorBondReturned⟩).registry = ended.registry := hs.storageRegistry
        refine h.returned epoch ⟨hget, ?_, ?_, hq.cursors⟩ hactive ?_ (fun a => ?_)
          (.inl ?_)
        · exact (congrArg StorageRegistry.deals hregistry).trans hq.deals
        · exact (congrArg StorageRegistry.nextDealId hregistry).trans hq.nextDealId
        · rw [if_neg hzero, ← hevents]
          rfl
        · rw [← hbalance a]
          exact hs.balance a
        · rw [← hbalance p.2]
          exact hfits
      · have hregistry : (ended.withState s).registry = ended.registry := hs.storageRegistry
        refine h.lost ⟨hget, ?_, ?_, hq.cursors⟩ hactive ?_ hevents fun a => ?_
        · exact (congrArg StorageRegistry.deals hregistry).trans hq.deals
        · exact (congrArg StorageRegistry.nextDealId hregistry).trans hq.nextDealId
        · rw [← hbalance p.2]
          exact hover
        · have hmoved := hs.balance a
          rw [ite_self, add_zero] at hmoved
          exact (Int.ofNat_inj.mp hmoved).trans (hbalance a)

end

lemma track_finalizeExpiredStorageDeals (hfair : fair → BackedDeal id c) :
    Returns (finalizeExpiredStorageDeals W epoch) (Track fair id c) c := by
  have hstart : ExpiredLoop fair id c (c.maturedDeals epoch) c := by
    refine ⟨.refl c, fun p hp deal hget => ?_, hfair⟩
    simp only [maturedDeals, mem_map, mem_filter] at hp
    obtain ⟨listed, ⟨hmem, -⟩, rfl⟩ := hp
    have hlisted := get?_of_mem_values (fun k v h => (c.registry.deals_keyed k v h).1) hmem
    cases hlisted.symm.trans hget
    rfl
  unfold Returns finalizeExpiredStorageDeals
  rw [wp_bind, wp_read, wp_bind]
  refine wp_imp (wp_foldlM (I := fun rest _ => ExpiredLoop fair id c rest)
    (fun p rest acc c' h => wp_finalizeExpired h) _ (0, 0) c hstart) (fun acc c' h => ?_)
  exact (readOnly_persistSweep acc).wp_of (fun _ => h.track) fun _ _ => h.track

end StorageChain

end Budlum
