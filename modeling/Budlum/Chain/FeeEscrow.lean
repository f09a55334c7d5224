import Budlum.Chain.BondFlow

/-!
# Rewards come out of the escrow

A reward is the difference of two totals of the same fee, so the rewards of a deal add up to
the fee through its cursor. The cursor stops at the end of the deal: the rewards never
exceed what its payer was charged, and reach it with the first accrual after the end.
-/

namespace Budlum

open Machine StorageEconomicsEvent StorageChain List Option

def StorageEconomicsEvent.rewards (es : List StorageEconomicsEvent) : ℕ :=
  ((es.filter fun e => e.kind = .operatorRewardAccrued).map balanceEffect).sum

lemma StorageEconomicsEvent.rewards_append (es es' : List StorageEconomicsEvent) :
    rewards (es ++ es') = rewards es + rewards es' := by
  simp [rewards]

namespace DealView

variable {fair : Prop} {v v' : DealView} {es : List StorageEconomicsEvent}

structure FeeLedger (v : DealView) (es : List StorageEconomicsEvent) (v' : DealView) : Prop where
  fee : ∀ epoch, v'.feeThrough epoch = v.feeThrough epoch
  endEpoch : v'.deal.dealEndEpoch = v.deal.dealEndEpoch
  total : v.feeThrough v.paidThrough + rewards es = v.feeThrough v'.paidThrough
  later : v.paidThrough ≤ v'.paidThrough
  bounded : v'.paidThrough = v.paidThrough ∨ v'.paidThrough ≤ v.deal.dealEndEpoch

lemma FeeLedger.snoc {t u : DealView} {es' : List StorageEconomicsEvent}
    (h : FeeLedger v es t) (hstep : Step fair t es' u) : FeeLedger v (es ++ es') u := by
  cases hstep with
  | slashed epoch burned _ _ =>
    refine { h with total := ?_ }
    rw [rewards_append]
    exact h.total
  | returned epoch _ =>
    refine { h with total := ?_ }
    rw [rewards_append]
    exact h.total
  | released _ _ =>
    rw [append_nil]
    exact { h with }
  | rewarded epoch upTo amount _ hlater hend hamount =>
    refine ⟨h.fee, h.endEpoch, ?_, h.later.trans hlater.le, .inr (hend.trans h.endEpoch.le)⟩
    have hamount' : v.feeThrough t.paidThrough + amount = v.feeThrough upTo := by
      rw [← h.fee, ← h.fee]
      exact hamount
    have hone : rewards [t.event epoch amount amount .operatorRewardAccrued] = amount := by
      simp [rewards, event]
    rw [rewards_append, hone, ← add_assoc, h.total]
    exact hamount'

lemma feeLedger_of_life (h : Life fair v es v') : FeeLedger v es v' := by
  induction h with
  | nil => exact ⟨fun _ => rfl, rfl, add_zero _, le_rfl, .inl rfl⟩
  | snoc _ hstep ih => exact ih.snoc hstep

lemma FeeLedger.rewards_eq (h : FeeLedger v es v') (hfresh : StorageRun.Fresh v) :
    rewards es = v.feeThrough v'.paidThrough := by
  have htotal := h.total
  rw [hfresh.unpaid, v.feeThrough_start, zero_add] at htotal
  exact htotal

lemma FeeLedger.rewards_le (h : FeeLedger v es v') (hfresh : StorageRun.Fresh v) :
    rewards es ≤ v.feeThrough v.deal.dealEndEpoch := by
  rw [h.rewards_eq hfresh]
  rcases h.bounded with hsame | hle
  · rw [hsame, hfresh.unpaid, v.feeThrough_start]
    exact Nat.zero_le _
  · exact v.feeThrough_mono hle

end DealView

namespace StorageRun

variable {T : ModuleTypes} {M : StorageModules} {W : StorageTexts}

def rewards (h : StorageRun T) (id : ℕ) : ℕ := StorageEconomicsEvent.rewards (ofDeal id h.events)

def escrowed (h : StorageRun T) (id : ℕ) : ℕ := ((h.openingsOf id).map Opening.fee).sum

variable {h h' : StorageRun T} {call : StorageCall} {id : ℕ} {v : DealView}

lemma life_of_step (hstep : h.step M W call = some h') (hview : h.chain.view id = some v) :
    ∃ v' es, h'.chain.view id = some v' ∧ DealView.Life False v es v' := by
  rcases step_cases id (fun hf : False => hf.elim) hstep with
    ⟨es, htracked, -⟩ | ⟨req, payer, hopened, -⟩
  · have hlives := htracked.lives
    rw [hview] at hlives
    cases hview' : h'.chain.view id with
    | none => rw [hview'] at hlives; exact hlives.elim
    | some v' =>
      rw [hview'] at hlives
      exact ⟨v', _, rfl, hlives⟩
  · have hid : id ≠ h.chain.registry.nextDealId := by
      rintro rfl
      exact nomatch (view_nextDealId h.chain le_rfl).symm.trans hview
    exact ⟨v, [], (view_of_opened hopened hid).trans hview, .nil v⟩

variable {calls : List StorageCall}

lemma life_of_run (hrun : h.run M W calls = some h') (hview : h.chain.view id = some v) :
    ∃ v' es, h'.chain.view id = some v' ∧ DealView.Life False v es v' := by
  induction calls generalizing h v with
  | nil =>
    cases hrun
    exact ⟨v, [], hview, .nil v⟩
  | cons call calls ih =>
    rw [run_cons] at hrun
    obtain ⟨mid, hstep, hrest⟩ := bind_eq_some_iff.mp hrun
    obtain ⟨v₁, es, hview₁, hlife⟩ := life_of_step hstep hview
    obtain ⟨v₂, es', hview₂, hlife'⟩ := ih hrest hview₁
    exact ⟨v₂, es ++ es', hview₂, hlife.append hlife'⟩

lemma escrowed_of_opening {o : Opening} (hopen : h.openingsOf id = [o]) :
    h.escrowed id = o.fee := by
  rw [escrowed, hopen, map_singleton, sum_singleton]

lemma rewards_le_escrowed (hrec : Recorded False id h) : h.rewards id ≤ h.escrowed id := by
  cases hview : h.chain.view id with
  | none =>
    obtain ⟨-, hevents⟩ := hrec.unopened hview
    rw [rewards, hevents]
    exact Nat.zero_le _
  | some v =>
    obtain ⟨v₀, payer, hfresh, hopen, hlife⟩ := hrec.opened v hview
    rw [escrowed_of_opening hopen]
    exact (DealView.feeLedger_of_life hlife).rewards_le hfresh

lemma rewards_eq_escrowed {deal : StorageDeal}
    (hrec : Recorded False id h') (hrun : h.run M W calls = some h')
    (hget : h.chain.registry.deals.get? id = some deal) (hpaid : h.chain.PaidInFull deal) :
    h'.rewards id = h'.escrowed id := by
  have hview : h.chain.view id = some ⟨deal, h.chain.paidThrough deal⟩ := by
    rw [StorageChain.view, hget]
    rfl
  obtain ⟨v', es, hview', hlife'⟩ := life_of_run hrun hview
  obtain ⟨v₀, payer, hfresh, hopen, hlife⟩ := hrec.opened v' hview'
  have hledger := DealView.feeLedger_of_life hlife
  have hledger' := DealView.feeLedger_of_life hlife'
  refine le_antisymm (rewards_le_escrowed hrec) ?_
  rw [escrowed_of_opening hopen, rewards, hledger.rewards_eq hfresh]
  -- all views of the deal charge the same fee
  have hend : v₀.deal.dealEndEpoch = deal.dealEndEpoch :=
    hledger.endEpoch.symm.trans hledger'.endEpoch
  have hfee : ∀ epoch, v₀.feeThrough epoch =
      DealView.feeThrough ⟨deal, h.chain.paidThrough deal⟩ epoch := fun epoch =>
    (hledger.fee epoch).symm.trans (hledger'.fee epoch)
  calc v₀.feeThrough v₀.deal.dealEndEpoch
      = DealView.feeThrough ⟨deal, h.chain.paidThrough deal⟩ deal.dealEndEpoch := by
        rw [hend, hfee]
    _ ≤ DealView.feeThrough ⟨deal, h.chain.paidThrough deal⟩ (h.chain.paidThrough deal) :=
        hpaid.feeThrough_le
    _ = v₀.feeThrough (h.chain.paidThrough deal) := (hfee _).symm
    _ ≤ v₀.feeThrough v'.paidThrough := v₀.feeThrough_mono hledger'.later

lemma run_append {calls' : List StorageCall} :
    h.run M W (calls ++ calls') = (h.run M W calls).bind fun mid => mid.run M W calls' :=
  foldlM_append ..

end StorageRun

open StorageRun

/-- **The fee escrow.** The rewards credited for a deal never exceed the fee its payer was
charged at the opening, and equal it after an accrual at or after its end that was made while
the deal was active and whose credits fit. -/
theorem rewards_within_escrow {T : ModuleTypes} {M : StorageModules} {W : StorageTexts}
    (c : { c : StorageChain T // c.Sound }) (calls : List StorageCall) (h : StorageRun T)
    (hrun : (start c).run M W calls = some h) (id : ℕ) (hopened : c.1.registry.nextDealId ≤ id) :
    h.rewards id ≤ h.escrowed id ∧
    ∀ before epoch later mid deal, calls = before ++ .accrueRewards epoch :: later →
      (start c).run M W before = some mid → mid.chain.registry.deals.get? id = some deal →
      deal.isActive = true → deal.dealEndEpoch ≤ epoch → mid.chain.CreditsFit epoch →
      h.rewards id = h.escrowed id := by
  have hrec : Recorded False id h := (recorded_start hopened).run (fun hf => hf.elim) hrun
  refine ⟨rewards_le_escrowed hrec, ?_⟩
  rintro before epoch later mid deal rfl hbefore hget hactive hend hfits
  rw [run_append, hbefore, bind_some, run_cons] at hrun
  obtain ⟨paid, hstep, hlater⟩ := bind_eq_some_iff.mp hrun
  obtain ⟨happly, -, -⟩ := step_eq_some hstep
  have hmem : deal ∈ mid.chain.activeDeals :=
    mem_filter.mpr ⟨SortedMap.mem_values.mpr ⟨id, hget⟩, hactive⟩
  have hpaid : paid.chain.PaidInFull deal :=
    (paidInFull_accrue hmem hend hfits).of_after happly
  have hdeals : paid.chain.registry.deals = mid.chain.registry.deals :=
    deals_accrue.of_after happly
  exact rewards_eq_escrowed hrec hlater (hdeals ▸ hget) hpaid

/-- A deal with a fee of seventeen, and accruals before its end: seven, then nothing twice. -/
def sampleAccruals : List StorageCall :=
  [.openDeal { sampleDeal 0 with economics := ⟨5, 1000000⟩ } ⟨2⟩, .accrueRewards 3,
    .accrueRewards 3, .accrueRewards 1]

def sampleAccruedRun : StorageRun .point :=
  (sampleStorageRun sampleAccruals).get (by decide +kernel)

def samplePaidRun : StorageRun .point :=
  (sampleStorageRun (sampleAccruals ++ [.accrueRewards 9])).get (by decide +kernel)

theorem rewards_within_escrow_paid :
    sampleAccruedRun.rewards 0 = 7 ∧ samplePaidRun.rewards 0 = samplePaidRun.escrowed 0 := by
  refine ⟨by decide +kernel, ?_⟩
  have hbefore : sampleStorageRun sampleAccruals = some sampleAccruedRun :=
    (some_get _).symm
  have hrun : sampleStorageRun (sampleAccruals ++ [.accrueRewards 9]) = some samplePaidRun :=
    (some_get _).symm
  have hterm : (sampleAccruedRun.chain.registry.deals.get? 0).map
      (fun deal => (deal.isActive, deal.dealEndEpoch)) = some (true, 8) := by decide +kernel
  obtain ⟨deal, hget, hdeal⟩ := map_eq_some_iff.mp hterm
  obtain ⟨hactive, hend⟩ := Prod.mk.inj hdeal
  exact (rewards_within_escrow ⟨sampleStorageChain, sound_sampleStorageChain⟩ _ samplePaidRun hrun
    0 (Nat.zero_le _)).2 sampleAccruals 9 [] sampleAccruedRun deal rfl hbefore hget hactive
    (by omega) (creditsFit_of_operators sampleAccruedRun.sound.ranged (by decide +kernel))

end Budlum
