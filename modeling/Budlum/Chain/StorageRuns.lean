import Budlum.Chain.DealOpening

/-!
# Runs of calls on storage deals

A run of calls on a chain, together with what was taken at the openings of deals and the
events appended since its start. Every balance moved by what these say, and every deal that
was opened in the run lived through its own part of them (`recorded_of_run`).
-/

namespace Budlum

open Machine StorageEconomicsEvent Exec List StorageRegistry

/-- The calls, and a new last block. -/
inductive StorageCall
  | openDeal (req : DealRequest) (payer : Address)
  | openChallenge (req : ChallengeRequest)
  | answerChallenge (answer : ChallengeAnswer)
  | accrueRewards (epoch : ℕ)
  | finalizeMissed (epoch : ℕ)
  | finalizeExpired (epoch : ℕ)
  | newBlock (timestamp : ℕ)

structure Opening where
  dealId : ℕ
  payer : Address
  operator : Address
  fee : ℕ
  bond : ℕ
deriving DecidableEq

namespace StorageChain

variable {T : ModuleTypes}

def after {α : Type} (x : Method T α) (c : StorageChain T) : Option (StorageChain T) :=
  match x.run c with
  | (.error .abort, _) => none
  | (_, c') => some c'

lemma Returns.of_after {α : Type} {x : Method T α} {P : StorageChain T → Prop}
    {c c' : StorageChain T} (h : Returns x P c) (hafter : after x c = some c') : P c' := by
  obtain ⟨hok, herr⟩ := wp_iff.mp h
  unfold after at hafter
  rcases hrun : x.run c with ⟨(e | _) | a, c''⟩ <;> rw [hrun] at hafter
  · cases hafter
    exact herr _ _ hrun (by simp)
  · cases hafter
  · cases hafter
    exact hok _ _ hrun

/-- Balances are `u64`, and rewards are accounted for opened deals only. -/
structure Sound (c : StorageChain T) : Prop where
  ranged : c.Ranged
  cursors : c.CursorsOpened

end StorageChain

open StorageChain

namespace StorageCall

variable {T : ModuleTypes} (M : StorageModules) (W : StorageTexts)

def apply (c : StorageChain T) : StorageCall → Option (StorageChain T)
  | .openDeal req payer => after (openStorageDealWithEscrow M W req payer) c
  | .openChallenge req => after (onRegistry (StorageRegistry.openChallenge req)) c
  | .answerChallenge answer => after (answerStorageChallenge M W answer) c
  | .accrueRewards epoch => after (accrueStorageOperatorRewards epoch) c
  | .finalizeMissed epoch => after (finalizeMissedStorageChallenges epoch) c
  | .finalizeExpired epoch => after (finalizeExpiredStorageDeals W epoch) c
  | .newBlock timestamp => some { c with lastTimestamp := timestamp }

/-- What a call from `c` to `c'` took, if it opened a deal. -/
def openings (c c' : StorageChain T) : StorageCall → List Opening
  | .openDeal req payer =>
    if c.registry.nextDealId < c'.registry.nextDealId then
      [⟨c.registry.nextDealId, payer, req.operator, escrowFee req, req.economics.operatorBond⟩]
    else []
  | _ => []

/-- A call that is fair to a deal: no slash while it is active with a bond, and room for the
bonds of its operator in a sweep of ended deals. -/
def Proper (id : ℕ) (c : StorageChain T) : StorageCall → Prop
  | .answerChallenge answer => AnswerSpares M id answer c.registry
  | .finalizeMissed epoch => SparesActive id epoch c.registry
  | .finalizeExpired _ => BackedDeal id c
  | _ => True

instance (id : ℕ) (c : StorageChain T) : (call : StorageCall) → Decidable (call.Proper M id c)
  | .answerChallenge answer => inferInstanceAs (Decidable (AnswerSpares M id answer c.registry))
  | .finalizeMissed epoch => inferInstanceAs (Decidable (SparesActive id epoch c.registry))
  | .finalizeExpired _ => inferInstanceAs (Decidable (BackedDeal id c))
  | .openDeal .. | .openChallenge _ | .accrueRewards _ | .newBlock _ =>
    inferInstanceAs (Decidable True)

variable {M W} {c c' : StorageChain T} {fair : Prop} {id : ℕ}

lemma quiet_openChallenge (req : ChallengeRequest) :
    Quiet c (c.withRegistry ((StorageRegistry.openChallenge req).run c.registry).2) := by
  have hspec : wp (StorageRegistry.openChallenge req)
      (fun _ r => r.deals = c.registry.deals ∧ r.nextDealId = c.registry.nextDealId)
      (fun _ r => r.deals = c.registry.deals ∧ r.nextDealId = c.registry.nextDealId)
      c.registry := by
    unfold StorageRegistry.openChallenge
    simp only [wp_rules, id_eq]
    exact ⟨fun _ _ => ⟨fun _ => ⟨trivial, trivial⟩, fun _ => ⟨rfl, rfl⟩⟩,
      fun _ _ => ⟨trivial, trivial⟩⟩
  obtain ⟨hdeals, hnext⟩ := wp_snd.mp hspec
  exact ⟨rfl, fun _ => rfl, hdeals, hnext, rfl⟩

lemma effect {call : StorageCall} (id : ℕ) (hranged : c.Ranged)
    (hfair : fair → call.Proper M id c) (happly : call.apply M W c = some c') :
    Track fair id c c' ∨ ∃ req payer, call = .openDeal req payer ∧ Opened req payer c c' := by
  cases call with
  | openDeal req payer =>
    rcases (opened_or_quiet hranged).of_after happly with hquiet | hopened
    · exact .inl ⟨[], hquiet.tracked⟩
    · exact .inr ⟨req, payer, rfl, hopened⟩
  | openChallenge req =>
    have hreturns : Returns (onRegistry (StorageRegistry.openChallenge req)) (Quiet c) c := by
      refine returns_of_run ?_
      rw [snd_run_onRegistry]
      exact quiet_openChallenge req
    exact .inl ⟨[], (hreturns.of_after happly).tracked⟩
  | answerChallenge answer => exact .inl ((track_answerStorageChallenge hfair).of_after happly)
  | accrueRewards epoch => exact .inl (track_accrueStorageOperatorRewards.of_after happly)
  | finalizeMissed epoch =>
    exact .inl ((track_finalizeMissedStorageChallenges hfair).of_after happly)
  | finalizeExpired epoch => exact .inl ((track_finalizeExpiredStorageDeals hfair).of_after happly)
  | newBlock timestamp =>
    cases happly
    exact .inl ⟨[], Quiet.tracked ⟨rfl, fun _ => rfl, rfl, rfl, rfl⟩⟩

end StorageCall

/-! ## Runs -/

/-- A chain in a run, with what was taken and appended since its start. -/
structure StorageRun (T : ModuleTypes) where
  chain : StorageChain T
  openings : List Opening
  events : List StorageEconomicsEvent
  sound : chain.Sound

namespace StorageRun

variable {T : ModuleTypes} (M : StorageModules) (W : StorageTexts)

def start (c : { c : StorageChain T // c.Sound }) : StorageRun T := ⟨c.1, [], [], c.2⟩

lemma sound_of_apply {call : StorageCall} {c c' : StorageChain T} (hc : c.Sound)
    (happly : call.apply M W c = some c') : c'.Sound := by
  rcases StorageCall.effect 0 hc.ranged (fun h : False => h.elim) happly with
    ⟨es, htracked⟩ | ⟨req, payer, -, hopened⟩
  · exact ⟨htracked.ranged hc.ranged, htracked.cursors hc.cursors⟩
  · refine ⟨fun a => ?_, fun id epoch hget => ?_⟩
    · have hmoved := hopened.balance a
      have hle := hc.ranged a
      unfold taken at hmoved
      omega
    · rw [hopened.cursors] at hget
      rw [hopened.nextDealId]
      exact (hc.cursors id epoch hget).trans (Nat.lt_succ_self _)

def step (h : StorageRun T) (call : StorageCall) : Option (StorageRun T) :=
  match happly : call.apply M W h.chain with
  | none => none
  | some c' => some
      { chain := c'
        openings := h.openings ++ call.openings h.chain c'
        events := h.events ++
          c'.storageEconomicsEvents.drop h.chain.storageEconomicsEvents.length
        sound := sound_of_apply M W h.sound happly }

def run (h : StorageRun T) (calls : List StorageCall) : Option (StorageRun T) :=
  calls.foldlM (step M W) h

def ProperFrom (id : ℕ) : StorageRun T → List StorageCall → Prop
  | _, [] => True
  | h, call :: calls => call.Proper M id h.chain ∧
      match h.step M W call with
      | some h' => ProperFrom id h' calls
      | none => True

instance decidableProperFrom (id : ℕ) :
    (h : StorageRun T) → (calls : List StorageCall) → Decidable (ProperFrom M W id h calls)
  | _, [] => inferInstanceAs (Decidable True)
  | h, call :: calls =>
    have : Decidable (match h.step M W call with
        | some h' => ProperFrom M W id h' calls
        | none => True) :=
      match h.step M W call with
      | some h' => decidableProperFrom id h' calls
      | none => inferInstanceAs (Decidable True)
    inferInstanceAs (Decidable (_ ∧ _))

def effect (h : StorageRun T) (a : Address) : ℤ :=
  StorageEconomicsEvent.effect h.events a -
    (h.openings.map fun o => (if a = o.payer then o.fee else 0) +
      if a = o.operator then o.bond else 0).sum

def openingsOf (h : StorageRun T) (id : ℕ) : List Opening :=
  h.openings.filter fun o => o.dealId = id

variable {M W} {h h' : StorageRun T} {call : StorageCall} {id : ℕ} {fair : Prop}

lemma step_eq_some (hstep : h.step M W call = some h') : call.apply M W h.chain = some h'.chain ∧
      h'.openings = h.openings ++ call.openings h.chain h'.chain ∧ h'.events = h.events ++
        h'.chain.storageEconomicsEvents.drop h.chain.storageEconomicsEvents.length := by
  unfold step at hstep
  split at hstep
  · cases hstep
  · rename_i c' happly
    cases hstep
    exact ⟨happly, rfl, rfl⟩

lemma step_cases (id : ℕ) (hfair : fair → call.Proper M id h.chain)
    (hstep : h.step M W call = some h') :
    (∃ es, Tracked fair id h.chain es h'.chain ∧ h'.openings = h.openings ∧
      h'.events = h.events ++ es) ∨
    ∃ req payer, Opened req payer h.chain h'.chain ∧ h'.events = h.events ∧
      h'.openings = h.openings ++ [⟨h.chain.registry.nextDealId, payer, req.operator,
        escrowFee req, req.economics.operatorBond⟩] := by
  obtain ⟨happly, hopenings, hevents⟩ := step_eq_some hstep
  rcases StorageCall.effect id h.sound.ranged hfair happly with
    ⟨es, htracked⟩ | ⟨req, payer, rfl, hopened⟩
  · refine .inl ⟨es, htracked, ?_, ?_⟩
    · have hnone : call.openings h.chain h'.chain = [] := by
        cases call with
        | openDeal req payer =>
          rw [StorageCall.openings, if_neg (by rw [htracked.nextDealId]; exact lt_irrefl _)]
        | _ => rfl
      rw [hopenings, hnone, append_nil]
    · rw [hevents, htracked.events, drop_left]
  · refine .inr ⟨req, payer, hopened, ?_, ?_⟩
    · rw [hevents, hopened.events, drop_length, append_nil]
    · rw [hopenings, StorageCall.openings,
        if_pos (by rw [hopened.nextDealId]; exact Nat.lt_succ_self _)]

/-! ## Deals of a run -/

structure Fresh (v : DealView) : Prop where
  active : v.deal.isActive = true
  unpaid : v.paidThrough = v.deal.dealStartEpoch

/-- What a run recorded of the deal under `id`: nothing before its opening, then what was
taken for it and the events of its life. -/
structure Recorded (fair : Prop) (id : ℕ) (h : StorageRun T) : Prop where
  unopened : h.chain.view id = none → h.openingsOf id = [] ∧ ofDeal id h.events = []
  opened : ∀ v, h.chain.view id = some v → ∃ v₀ payer, Fresh v₀ ∧
    h.openingsOf id =
      [⟨id, payer, v₀.deal.operator, v₀.feeThrough v₀.deal.dealEndEpoch, v₀.bond⟩] ∧
    DealView.Life fair v₀ (ofDeal id h.events) v

lemma view_nextDealId (c : StorageChain T) {id : ℕ} (h : c.registry.nextDealId ≤ id) :
    c.view id = none := by
  unfold view
  cases hget : c.registry.deals.get? id with
  | none => rfl
  | some deal => exact absurd (c.registry.deals_keyed id deal hget).2 h.not_gt

lemma recorded_start {c : { c : StorageChain T // c.Sound }}
    (hid : c.1.registry.nextDealId ≤ id) : Recorded fair id (start c) where
  unopened _ := ⟨rfl, rfl⟩
  opened _ hv := nomatch (view_nextDealId c.1 hid).symm.trans hv

lemma exists_fresh_of_opened {c c' : StorageChain T} {req : DealRequest} {payer : Address}
    (hc : c.CursorsOpened) (hopened : Opened req payer c c') :
    ∃ v, c'.view c.registry.nextDealId = some v ∧ Fresh v ∧ v.deal.operator = req.operator ∧
      v.feeThrough v.deal.dealEndEpoch = escrowFee req ∧ v.bond = req.economics.operatorBond := by
  obtain ⟨shard, hshard, hdeals⟩ := hopened.deals
  have hcursor : c.storageLastRewardEpoch.get? c.registry.nextDealId = none := by
    cases hget : c.storageLastRewardEpoch.get? c.registry.nextDealId with
    | none => rfl
    | some epoch => exact absurd (hc _ epoch hget) (lt_irrefl _)
  let deal : StorageDeal :=
    { dealOf req shard with dealId := c.registry.nextDealId }
  refine ⟨⟨deal, req.startEpoch⟩, ?_, ⟨rfl, rfl⟩, rfl, ?_, rfl⟩
  · have hget : c'.registry.deals.get? c.registry.nextDealId = some deal := by
      rw [hdeals]
      exact SortedMap.get?_insert_self ..
    unfold view paidThrough
    rw [hget, hopened.cursors, Option.map_some, hcursor]
    rfl
  · unfold escrowFee
    rw [hshard]
    rfl

lemma view_of_opened {c c' : StorageChain T} {req : DealRequest} {payer : Address}
    (hopened : Opened req payer c c') (hid : id ≠ c.registry.nextDealId) :
    c'.view id = c.view id := by
  obtain ⟨shard, -, hdeals⟩ := hopened.deals
  unfold view paidThrough
  rw [hdeals, hopened.cursors]
  simp only [addDeal_deals, SortedMap.get?_insert, if_neg hid]

lemma Recorded.step (hrec : Recorded fair id h) (hfair : fair → call.Proper M id h.chain)
    (hstep : h.step M W call = some h') : Recorded fair id h' := by
  rcases step_cases id hfair hstep with
    ⟨es, htracked, hopenings, hevents⟩ | ⟨req, payer, hopened, hevents, hopenings⟩
  · have hlives := htracked.lives
    have hof : h'.openingsOf id = h.openingsOf id := by rw [openingsOf, hopenings]; rfl
    constructor
    · intro hnone
      rw [hnone] at hlives
      cases hview : h.chain.view id with
      | none =>
        rw [hview] at hlives
        obtain ⟨hopen, hev⟩ := hrec.unopened hview
        exact ⟨hof.trans hopen, by rw [hevents, ofDeal_append, hev, hlives]; rfl⟩
      | some v =>
        rw [hview] at hlives
        exact hlives.elim
    · intro v' hv'
      rw [hv'] at hlives
      cases hview : h.chain.view id with
      | none =>
        rw [hview] at hlives
        exact hlives.elim
      | some v =>
        rw [hview] at hlives
        obtain ⟨v₀, payer, hfresh, hopen, hlife⟩ := hrec.opened v hview
        refine ⟨v₀, payer, hfresh, hof.trans hopen, ?_⟩
        rw [hevents, ofDeal_append]
        exact hlife.append hlives
  · by_cases hid : id = h.chain.registry.nextDealId
    · subst hid
      obtain ⟨v, hv, hfresh, hoperator, hfee, hbond⟩ :=
        exists_fresh_of_opened h.sound.cursors hopened
      obtain ⟨hopen, hev⟩ := hrec.unopened (view_nextDealId h.chain le_rfl)
      refine ⟨fun hnone => (nomatch hv.symm.trans hnone), fun v' hv' => ?_⟩
      obtain rfl : v = v' := Option.some.inj (hv.symm.trans hv')
      refine ⟨v, payer, hfresh, ?_, ?_⟩
      · unfold openingsOf at hopen ⊢
        rw [hopenings, filter_append, hopen, hoperator, hfee, hbond]
        simp
      · rw [hevents, hev]
        exact .nil v
    · have hof : h'.openingsOf id = h.openingsOf id := by
        rw [openingsOf, hopenings, filter_append]
        simp [openingsOf, Ne.symm hid]
      constructor
      · rw [view_of_opened hopened hid, hof, hevents]
        exact hrec.unopened
      · rw [view_of_opened hopened hid, hof, hevents]
        exact hrec.opened

lemma run_cons (calls : List StorageCall) :
    h.run M W (call :: calls) = (h.step M W call).bind fun h' => h'.run M W calls := rfl

lemma Recorded.run {calls : List StorageCall} (hrec : Recorded fair id h)
    (hproper : fair → ProperFrom M W id h calls) (hrun : h.run M W calls = some h') :
    Recorded fair id h' := by
  induction calls generalizing h with
  | nil =>
    cases hrun
    exact hrec
  | cons call calls ih =>
    rw [run_cons] at hrun
    obtain ⟨mid, hstep, hrest⟩ := Option.bind_eq_some_iff.mp hrun
    refine ih (hrec.step (fun hf => (hproper hf).1) hstep) (fun hf => ?_) hrest
    have htail := (hproper hf).2
    rw [hstep] at htail
    exact htail

lemma balance_of_run {calls : List StorageCall} (hrun : h.run M W calls = some h')
    (a : Address) : (h'.chain.balance a : ℤ) - h'.effect a = h.chain.balance a - h.effect a := by
  induction calls generalizing h with
  | nil =>
    cases hrun
    rfl
  | cons call calls ih =>
    rw [run_cons] at hrun
    obtain ⟨mid, hstep, hrest⟩ := Option.bind_eq_some_iff.mp hrun
    rw [ih hrest]
    rcases step_cases 0 (fun hf : False => hf.elim) hstep with
      ⟨es, htracked, hopenings, hevents⟩ | ⟨req, payer, hopened, hevents, hopenings⟩
    · rw [htracked.balance a, effect, effect, hopenings, hevents, effect_append]
      omega
    · rw [hopened.balance a, effect, effect, hopenings, hevents, taken]
      simp only [map_append, sum_append, map_cons, map_nil, sum_cons, sum_nil]
      push_cast
      omega

end StorageRun

end Budlum
