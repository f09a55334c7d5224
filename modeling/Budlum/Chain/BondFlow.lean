import Budlum.Chain.StorageRuns

/-!
# What a deal costs its operator

The bond is taken at the opening of a deal. A deal that ends gives it back; a slash does not
keep it but burns it once more from the balance, so that a slashed deal costs two bonds.
-/

namespace Budlum

open Machine StorageEconomicsEvent StorageChain StorageRegistry SortedMap

/-! ## The bond over the life of a deal -/

namespace StorageEconomicsEvent

def isSlash (e : StorageEconomicsEvent) : Bool := e.kind = .operatorBondSlashed

def isReturn (e : StorageEconomicsEvent) : Bool := e.kind = .operatorBondReturned

/-- What events other than rewards did to the balance. -/
def bondChange (es : List StorageEconomicsEvent) : ℤ :=
  ((es.filter fun e => e.kind ≠ .operatorRewardAccrued).map change).sum

/-- Every slash found the whole bond in the balance. -/
def Covered (es : List StorageEconomicsEvent) : Prop :=
  ∀ e ∈ es, e.isSlash = true → e.balanceEffect = e.amount

instance (es : List StorageEconomicsEvent) : Decidable (Covered es) :=
  inferInstanceAs (Decidable (∀ e ∈ es, e.isSlash = true → e.balanceEffect = e.amount))

@[simp] lemma bondChange_append (es es' : List StorageEconomicsEvent) :
    bondChange (es ++ es') = bondChange es + bondChange es' := by
  simp [bondChange]

end StorageEconomicsEvent

namespace DealView

variable {fair : Prop} {v v' : DealView} {es : List StorageEconomicsEvent}

structure BondLedger (fair : Prop) (v : DealView) (es : List StorageEconomicsEvent)
    (v' : DealView) : Prop where
  bond : v'.bond = v.bond
  change : Covered es →
    bondChange es = (es.countP isReturn : ℤ) * v.bond - (es.countP isSlash : ℤ) * v.bond
  /-- A bond comes back once, and only as long as the deal is active. -/
  returns : es.countP isReturn + (if v'.deal.isActive then 1 else 0) ≤ 1
  slashes : v'.deal.isActive = true → es.countP isSlash = 0
  fairly : fair → v'.deal.isActive = true ∨ v.bond = 0 ∨ es.countP isReturn = 1

@[simp] lemma isActive_withStatus (status : DealStatus) :
    (v.withStatus status).deal.isActive = decide (status = .active) := rfl

@[simp] lemma bond_withStatus (status : DealStatus) : (v.withStatus status).bond = v.bond := rfl

lemma BondLedger.snoc {t u : DealView} {es' : List StorageEconomicsEvent}
    (h : BondLedger fair v es t) (hstep : Step fair t es' u) : BondLedger fair v (es ++ es') u := by
  have hcovered : Covered (es ++ es') → Covered es := fun hc e he =>
    hc e (List.mem_append_left _ he)
  cases hstep with
  | slashed epoch burned hburned hfair =>
    refine ⟨h.bond, fun hc => ?_, ?_, fun hactive => ?_, fun hf => ?_⟩
    · have hall : burned = t.bond := hc (t.event epoch t.bond burned .operatorBondSlashed)
        (by simp) rfl
      rw [bondChange_append, h.change (hcovered hc), hall, h.bond]
      simp [bondChange, StorageEconomicsEvent.change, event, isSlash, isReturn]
      ring
    · have hreturns := h.returns
      simp [event, isReturn]
      omega
    · simp at hactive
    · rcases h.fairly hf with hactive | hzero | hone
      · exact .inr (.inl (h.bond ▸ hfair hf hactive))
      · exact .inr (.inl hzero)
      · exact .inr (.inr (by simp [hone, event, isReturn]))
  | returned epoch hactive =>
    have hreturns := h.returns
    have hslashes := h.slashes hactive
    rw [hactive, if_pos rfl] at hreturns
    have hnone : es.countP isReturn = 0 := by omega
    refine ⟨h.bond, fun hc => ?_, ?_, fun hactive' => ?_, fun hf => .inr (.inr ?_)⟩
    · rw [bondChange_append, h.change (hcovered hc), hnone, hslashes, h.bond]
      simp [bondChange, StorageEconomicsEvent.change, event, isSlash, isReturn, hnone, hslashes]
    · simp [event, isReturn, hnone]
    · simp at hactive'
    · simp [event, isReturn, hnone]
  | released hactive hfair =>
    refine ⟨h.bond, fun hc => ?_, ?_, fun hactive' => ?_, fun hf => ?_⟩
    · rw [List.append_nil, h.change (hcovered hc)]
    · have hreturns := h.returns
      simp
      omega
    · simp at hactive'
    · exact .inr (.inl (h.bond ▸ hfair hf))
  | rewarded epoch upTo amount hactive hlater hend hamount =>
    refine ⟨h.bond, fun hc => ?_, ?_, fun hactive' => ?_, fun hf => ?_⟩
    · rw [bondChange_append, h.change (hcovered hc)]
      simp [bondChange, event, isSlash, isReturn]
    · simpa [event, isReturn] using h.returns
    · simpa [event, isSlash] using h.slashes hactive
    · simpa [event, isReturn] using h.fairly hf

lemma bondLedger_of_life (hactive : v.deal.isActive = true) (h : Life fair v es v') :
    BondLedger fair v es v' := by
  induction h with
  | nil =>
    exact ⟨rfl, fun _ => by simp [bondChange], by simp [hactive], fun _ => rfl,
      fun _ => .inl hactive⟩
  | snoc _ hstep ih => exact ih.snoc hstep

end DealView

/-! ## Runs -/

namespace StorageRun

variable {T : ModuleTypes} {M : StorageModules} {W : StorageTexts}

def slashes (h : StorageRun T) (id : ℕ) : ℕ := (ofDeal id h.events).countP isSlash

def returns (h : StorageRun T) (id : ℕ) : ℕ := (ofDeal id h.events).countP isReturn

/-- What the opening of a deal and its slashes and returns did to the balance of its operator,
with fees and rewards left aside. -/
def bondFlow (h : StorageRun T) (id : ℕ) : ℤ :=
  bondChange (ofDeal id h.events) - ((h.openingsOf id).map Opening.bond).sum

/-- A deal that was slashed once cost its bond, and one that ended unslashed cost nothing. -/
def BondSettled (h : StorageRun T) (id : ℕ) (deal : StorageDeal) : Prop :=
  (h.slashes id = 1 → h.bondFlow id = -deal.economics.operatorBond) ∧
    (h.slashes id = 0 → deal.status = .expired → h.bondFlow id = 0)

variable {h : StorageRun T} {id : ℕ} {deal : StorageDeal} {fair : Prop}

section

variable (hrec : Recorded fair id h) (hget : h.chain.registry.deals.get? id = some deal)
include hrec hget

lemma exists_bondLedger : ∃ v v', v.bond = deal.economics.operatorBond ∧ v'.deal = deal ∧
      h.bondFlow id = bondChange (ofDeal id h.events) - v.bond ∧
      DealView.BondLedger fair v (ofDeal id h.events) v' := by
  have hview : h.chain.view id = some ⟨deal, h.chain.paidThrough deal⟩ := by
    rw [StorageChain.view, hget]
    rfl
  obtain ⟨v₀, payer, hfresh, hopen, hlife⟩ := hrec.opened _ hview
  have hledger := DealView.bondLedger_of_life hfresh.active hlife
  refine ⟨v₀, _, hledger.bond.symm, rfl, ?_, hledger⟩
  rw [bondFlow, hopen]
  simp

/-- A slashed deal costs its bond and every slash the bond once more; only what an expiry
returned comes off. -/
lemma bondFlow_eq (hcovered : Covered (ofDeal id h.events)) :
    h.bondFlow id = ((h.returns id : ℤ) - h.slashes id - 1) * deal.economics.operatorBond := by
  obtain ⟨v, v', hbond, -, hflow, hledger⟩ := exists_bondLedger hrec hget
  rw [hflow, hledger.change hcovered, hbond]
  show _ = ((((ofDeal id h.events).countP isReturn : ℕ) : ℤ) -
    ((ofDeal id h.events).countP isSlash : ℕ) - 1) * _
  ring

end

lemma bondSettled_of_fair (hfair : fair) (hrec : Recorded fair id h)
    (hget : h.chain.registry.deals.get? id = some deal) (hcovered : Covered (ofDeal id h.events)) :
    h.BondSettled id deal := by
  have hflow := bondFlow_eq hrec hget hcovered
  obtain ⟨v, v', hbond, rfl, -, hledger⟩ := exists_bondLedger hrec hget
  -- a deal that is no longer active has no bond, or it was returned
  have hended : v'.deal.isActive = false → v'.deal.economics.operatorBond = 0 ∨
      h.returns id = 1 := by
    intro hinactive
    rcases hledger.fairly hfair with hactive | hzero | hone
    · exact nomatch hinactive.symm.trans hactive
    · exact .inl (hbond ▸ hzero)
    · exact .inr hone
  constructor
  · intro hone
    have hinactive : v'.deal.isActive = false := by
      by_contra hactive
      have hzero : h.slashes id = 0 := hledger.slashes (by simpa using hactive)
      omega
    rcases hended hinactive with hzero | hreturned
    · rw [hflow, hzero]
      simp
    · rw [hflow, hone, hreturned]
      ring
  · intro hnone hexpired
    have hinactive : v'.deal.isActive = false := by simp [StorageDeal.isActive, hexpired]
    rcases hended hinactive with hzero | hreturned
    · rw [hflow, hzero]
      simp
    · rw [hflow, hnone, hreturned]
      ring

lemma bondSettled_iff (hrec : Recorded fair id h)
    (hget : h.chain.registry.deals.get? id = some deal) (hcovered : Covered (ofDeal id h.events)) :
    h.BondSettled id deal ↔ (h.slashes id = 1 ∨ h.slashes id = 0 ∧ deal.status = .expired →
      deal.economics.operatorBond = 0 ∨ h.returns id = 1) := by
  have hflow := bondFlow_eq hrec hget hcovered
  have hsplit : ((h.returns id : ℤ) - 1) * deal.economics.operatorBond = 0 ↔
      deal.economics.operatorBond = 0 ∨ h.returns id = 1 := by
    rw [mul_eq_zero, or_comm]
    omega
  unfold BondSettled
  rw [hflow, ← hsplit]
  constructor
  · rintro ⟨hslashed, hexpired⟩ (hone | ⟨hnone, hstatus⟩)
    · have hcost := hslashed hone
      rw [hone] at hcost
      push_cast at hcost
      linarith
    · have hcost := hexpired hnone hstatus
      rw [hnone] at hcost
      push_cast at hcost
      linarith
  · refine fun hback => ⟨fun hone => ?_, fun hnone hstatus => ?_⟩
    · have hcost := hback (.inl hone)
      rw [hone]
      push_cast
      linarith
    · have hcost := hback (.inr ⟨hnone, hstatus⟩)
      rw [hnone]
      push_cast
      linarith

end StorageRun

open StorageRun

/-- **The bond of a deal.** Balances follow what openings took and what the events say. Over
the life of a deal its operator gets one bond for every return and loses one at the opening
and one for every slash, so that the deal is settled exactly if its bond was returned or none;
and it is settled in every run of calls that are fair to it. -/
theorem bond_flow_over_life {T : ModuleTypes} {M : StorageModules} {W : StorageTexts}
    (c : { c : StorageChain T // c.Sound }) (calls : List StorageCall) (h : StorageRun T)
    (hrun : (start c).run M W calls = some h) (id : ℕ) (deal : StorageDeal)
    (hopened : c.1.registry.nextDealId ≤ id)
    (hget : h.chain.registry.deals.get? id = some deal) (hcovered : Covered (ofDeal id h.events)) :
    (∀ a, (h.chain.balance a : ℤ) = c.1.balance a + h.effect a) ∧
    h.bondFlow id = ((h.returns id : ℤ) - h.slashes id - 1) * deal.economics.operatorBond ∧
    (h.BondSettled id deal ↔ (h.slashes id = 1 ∨ h.slashes id = 0 ∧ deal.status = .expired →
      deal.economics.operatorBond = 0 ∨ h.returns id = 1)) ∧
    (ProperFrom M W id (start c) calls → h.BondSettled id deal) := by
  have hrec : Recorded False id h := (recorded_start hopened).run (fun hf => hf.elim) hrun
  refine ⟨fun a => ?_, bondFlow_eq hrec hget hcovered, bondSettled_iff hrec hget hcovered,
    fun hproper => ?_⟩
  · have hbalance := balance_of_run hrun a
    have hstart : (start c).effect a = 0 := rfl
    rw [hstart] at hbalance
    show (h.chain.balance a : ℤ) = (start c).chain.balance a + h.effect a
    linarith
  · exact bondSettled_of_fair trivial ((recorded_start hopened).run (fun _ => hproper) hrun) hget
      hcovered

def sampleStorageChain : StorageChain .point where
  lastTimestamp := 0
  storage := none
  state :=
    { AccountState.new (T := ModuleTypes.point.storing) () () () () () .new () () () with
      ledger := .new ((empty.insert ⟨1⟩ (.withBalance ⟨1⟩ 100)).insert ⟨2⟩
        (.withBalance ⟨2⟩ 100)) }
  storageSlashedBondTotal := 0
  storageBurnedBondTotal := 0
  storageOperatorRewards := ∅
  storageLastRewardEpoch := ∅
  storageEconomicsEvents := []

lemma sound_sampleStorageChain : sampleStorageChain.Sound := by
  refine ⟨fun a => ?_, fun _ _ h => (nomatch h)⟩
  show (((insert _ _ _).get? a).getD (Account.new a)).balance ≤ u64Max
  rw [get?_insert, get?_insert]
  split_ifs
  · show 100 ≤ u64Max
    decide
  · show 100 ≤ u64Max
    decide
  · exact Nat.zero_le _

def sampleStorageTexts : StorageTexts := ⟨fun _ => "", fun _ => "", fun _ => ""⟩

def sampleStorageRun (calls : List StorageCall) : Option (StorageRun .point) :=
  (start ⟨sampleStorageChain, sound_sampleStorageChain⟩).run sampleStorageModules
    sampleStorageTexts calls

/-- Two replicas are opened, one challenge is answered in time, and both end. -/
def sampleServed : List StorageCall :=
  [.openDeal (sampleDeal 0) ⟨2⟩, .openDeal (sampleDeal 1) ⟨2⟩, .openChallenge (sampleChallenge 1),
    .answerChallenge ⟨0, 0, ⟨[1]⟩, ⟨1⟩, 2, some []⟩, .finalizeMissed 6, .finalizeExpired 8]

def sampleServedRun : StorageRun .point :=
  (sampleStorageRun sampleServed).get (by decide +kernel)

theorem bond_flow_over_life_served :
    ∃ deal, sampleServedRun.chain.registry.deals.get? 0 = some deal ∧ deal.status = .expired ∧
      sampleServedRun.BondSettled 0 deal := by
  have hstatus : (sampleServedRun.chain.registry.deals.get? 0).map StorageDeal.status =
      some .expired := by decide +kernel
  obtain ⟨deal, hget, hexpired⟩ := Option.map_eq_some_iff.mp hstatus
  have hrun : sampleStorageRun sampleServed = some sampleServedRun := (Option.some_get _).symm
  refine ⟨deal, hget, hexpired, ?_⟩
  exact (bond_flow_over_life ⟨sampleStorageChain, sound_sampleStorageChain⟩ sampleServed
    sampleServedRun hrun 0 deal (Nat.zero_le _) hget (by decide +kernel)).2.2.2 (by decide +kernel)

/-- A challenge of an operator with a hundred is missed: of a bond of five, ten are gone. -/
theorem slashed_deal_costs_two_bonds :
    (sampleStorageRun [.openDeal (sampleDeal 0) ⟨2⟩, .openChallenge (sampleChallenge 1),
      .finalizeMissed 4]).map (fun h => (h.slashes 0,
        (h.chain.registry.deals.get? 0).map fun deal => deal.economics.operatorBond,
        h.bondFlow 0, h.chain.balance ⟨1⟩)) = some (1, some 5, -10, 90) := by
  decide +kernel

/-! ## The bond of an opener -/

section

open Exec AccountState

variable {T : ModuleTypes} (M : StorageModules) (W : StorageTexts)
variable (deriveRange : StorageRegistry → ChallengeRequest → Except StorageError (ℕ × ℕ))

/-- `open_challenge_with_entropy`, with the range that it derives. -/
def StorageRegistry.openChallengeWithEntropy (req : ChallengeRequest) :
    StorageRegistry.Method ℕ := do
  let r ← read id
  let range ← ofExcept Stop.err (deriveRange r req)
  openChallenge { req with byteStart := range.1, byteEnd := range.2 }

namespace StorageChain

def debitOpenerBond (opener : Address) (bond : ℕ) : Method T Unit := do
  failIf (bond = 0) (.err "opener bond must be greater than zero")
  onAccounts id do
    let account ← getOrCreate opener
    failIf (account.balance < bond)
      s!"insufficient balance for opener bond: have {account.balance}, need {bond}"
    writeAccount opener { account with balance := account.balance - bond }

def refundOpenerBond (opener : Address) (bond : ℕ) : Method T Unit :=
  onlyIf (bond ≠ 0) do
    onAccounts (fun e => s!"opener bond refund overflow for {W.address opener}: {e}")
      (tryAddBalance opener bond)

def openStorageChallenge (req : ChallengeRequest) : Method T ℕ := do
  debitOpenerBond req.opener req.openerBond
  match (← onRegistry (openChallengeWithEntropy deriveRange req)) with
  | .error e =>
    let _refunded ← attempt (refundOpenerBond W req.opener req.openerBond)
    fail (.err (W.storageError e))
  | .ok challengeId =>
    saveStorageRegistry
    pure challengeId

variable {M W deriveRange} {a : Address} {n : ℕ} {c c' : StorageChain T}

lemma preserves_onRegistry {α : Type} (x : StorageRegistry.Method α) :
    Preserves (·.balance a ≤ n) (onRegistry x : Method T (Except StorageError α)) := by
  intro c h
  unfold wp onRegistry
  rcases x.run c.registry with ⟨(e | _) | v, r⟩ <;> exact h

lemma preserves_applyStorageBondSlash (epoch dealId : ℕ) (operator : Address) (bond : ℕ) :
    Preserves (·.balance a ≤ n)
      (applyStorageBondSlash epoch dealId operator bond : Method T ℕ) := by
  intro c h
  have hle : ∀ c', Burned epoch dealId operator bond c c' → c'.balance a ≤ n :=
    fun c' hburned => (hburned.balance_le a).trans h
  exact wp_applyStorageBondSlash (fun _ => hle) fun _ => hle

lemma preserves_answerStorageChallenge (answer : ChallengeAnswer) :
    Preserves (·.balance a ≤ n) (answerStorageChallenge M W answer : Method T _) := by
  refine .bind (preserves_onRegistry _) fun result => ?_
  cases result with
  | error e => exact .fail
  | ok result =>
    refine .bind (.ite (.bind (preserves_applyStorageBondSlash _ _ _ _) fun _ => .pure) .pure) ?_
    exact fun _ => .of_readOnly (.bind readOnly_saveStorageRegistry fun _ => .pure)

lemma preserves_finalizeMissedStorageChallenges (epoch : ℕ) :
    Preserves (·.balance a ≤ n) (finalizeMissedStorageChallenges epoch : Method T _) := by
  have hcount : ∀ count, Preserves (·.balance a ≤ n) (increment count : Method T ℕ) :=
    fun count => .bind .failIf fun _ => .pure
  refine .bind .read fun pending => .bind (fun c h => ?_) fun acc =>
    .of_readOnly (readOnly_persistSweep acc)
  refine wp_foldlM (I := fun _ _ c => c.balance a ≤ n) (fun p _ acc => ?_) pending (0, 0) c h
  refine Preserves.bind .read fun operator => .bind (preserves_onRegistry _) fun result => ?_
  cases result with
  | error e => exact .pure
  | ok result =>
    refine .ite (.bind (preserves_applyStorageBondSlash _ _ _ _) fun _ => ?_) ?_
    · exact .bind (hcount _) fun _ => .pure
    · exact .bind (hcount _) fun _ => .pure

end StorageChain

def StorageCall.resolves : StorageCall → Bool
  | .answerChallenge _ | .finalizeMissed _ => true
  | _ => false

/-- How often in a run a call that resolves challenges credited a bond to an account. -/
def bondCredits (a : Address) (bond : ℕ) : StorageChain T → List StorageCall → ℕ
  | _, [] => 0
  | c, call :: calls =>
    match call.apply M W c with
    | none => 0
    | some c' => (if call.resolves ∧ c'.balance a = c.balance a + bond then 1 else 0) +
        bondCredits a bond c' calls

variable {M W deriveRange} {c c' : StorageChain T}

lemma StorageCall.balance_le_of_resolves {call : StorageCall} (hresolves : call.resolves = true)
    (happly : call.apply M W c = some c') (a : Address) : c'.balance a ≤ c.balance a := by
  cases call with
  | answerChallenge answer =>
    refine Returns.of_after (P := (·.balance a ≤ c.balance a)) (returns_of_run ?_) happly
    exact (preserves_answerStorageChallenge answer).run le_rfl
  | finalizeMissed epoch =>
    refine Returns.of_after (P := (·.balance a ≤ c.balance a)) (returns_of_run ?_) happly
    exact (preserves_finalizeMissedStorageChallenges epoch).run le_rfl
  | _ => cases hresolves

/-- Whatever follows the opening of a challenge, no call that resolves challenges credits the
bond to its opener. -/
theorem opener_bond_never_returned {req : ChallengeRequest} {challengeId : ℕ}
    (hopen : (openStorageChallenge W deriveRange req).run c = (.ok challengeId, c'))
    (calls : List StorageCall) : bondCredits M W req.opener req.openerBond c' calls = 0 := by
  have hpos : req.openerBond ≠ 0 := by
    intro hzero
    unfold openStorageChallenge debitOpenerBond at hopen
    rw [hzero] at hopen
    cases hopen
  clear hopen
  induction calls generalizing c' with
  | nil => rfl
  | cons call calls ih =>
    unfold bondCredits
    split
    · rfl
    · next c'' happly =>
      rw [ih, if_neg]
      rintro ⟨hresolves, hcredited⟩
      have hle := StorageCall.balance_le_of_resolves hresolves happly req.opener
      omega

/-- An account with 99 left after a deal opens a challenge of it. -/
def sampleOpened : Except (Stop String) ℕ × StorageChain .point :=
  let c := (sampleStorageRun [.openDeal (sampleDeal 0) ⟨2⟩]).elim sampleStorageChain (·.chain)
  (openStorageChallenge sampleStorageTexts (fun _ _ => .ok (0, 1024)) (sampleChallenge 1)).run c

def sampleAnswered : List StorageCall :=
  [.answerChallenge ⟨0, 0, ⟨[1]⟩, ⟨1⟩, 2, some []⟩, .finalizeMissed 6]

theorem opener_bond_never_returned_answered : bondCredits sampleStorageModules sampleStorageTexts
    ⟨2⟩ 1 sampleOpened.2 sampleAnswered = 0 := by
  have hok : sampleOpened.1 = .ok 0 := by decide +kernel
  exact opener_bond_never_returned (Prod.ext hok rfl) sampleAnswered

/-- The challenge is answered, and the opener is still without the bond. -/
theorem answered_challenge_keeps_bond : sampleOpened.2.balance ⟨2⟩ = 98 ∧
    (sampleAnswered.foldlM (StorageCall.apply sampleStorageModules sampleStorageTexts)
      sampleOpened.2).map (fun c => (c.balance ⟨2⟩, c.registry.results.values.map (·.outcome))) =
      some (98, [.answered]) := by
  decide +kernel

end

end Budlum
