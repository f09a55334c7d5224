import Budlum.Chain.StorageEconomics
import Budlum.Lib.Trace

/-!
# The life of one storage deal

What can happen to a deal after its opening, on its own: a slash, the return of its bond,
its end without a return, and a reward. Every call of the chain takes each deal along a
run of such steps and appends their events, and moves every balance by what the events
say (`Tracked`).
-/

namespace Budlum

open Machine Exec List StorageChain

/-! ## Events -/

namespace StorageEconomicsEvent

def change (e : StorageEconomicsEvent) : ℤ :=
  match e.kind with
  | .operatorBondSlashed => -(e.balanceEffect : ℤ)
  | .operatorRewardAccrued | .operatorBondReturned => e.balanceEffect

def effect (es : List StorageEconomicsEvent) (a : Address) : ℤ :=
  ((es.filter fun e => e.operator = a).map change).sum

def ofDeal (id : ℕ) (es : List StorageEconomicsEvent) : List StorageEconomicsEvent :=
  es.filter fun e => e.dealId = id

@[simp] lemma effect_nil (a : Address) : effect [] a = 0 := rfl

@[simp] lemma effect_append (es es' : List StorageEconomicsEvent) (a : Address) :
    effect (es ++ es') a = effect es a + effect es' a := by
  simp [effect]

lemma effect_singleton (e : StorageEconomicsEvent) (a : Address) :
    effect [e] a = if a = e.operator then e.change else 0 := by
  by_cases h : e.operator = a
  · simp [effect, h]
  · simp [effect, h, Ne.symm h]

@[simp] lemma ofDeal_append (id : ℕ) (es es' : List StorageEconomicsEvent) :
    ofDeal id (es ++ es') = ofDeal id es ++ ofDeal id es' := filter_append ..

variable {es : List StorageEconomicsEvent}

lemma ofDeal_of_forall {id : ℕ} (h : ∀ e ∈ es, e.dealId = id) : ofDeal id es = es :=
  filter_eq_self.mpr fun e he => decide_eq_true (h e he)

lemma ofDeal_of_ne {id id' : ℕ}
    (h : ∀ e ∈ es, e.dealId = id') (hne : id' ≠ id) : ofDeal id es = [] :=
  filter_eq_nil_iff.mpr fun e he => by simp [h e he, hne]

end StorageEconomicsEvent

open StorageEconomicsEvent

/-! ## One deal -/

/-- A deal, and the epoch through which its rewards are paid. -/
structure DealView where
  deal : StorageDeal
  paidThrough : ℕ

namespace DealView

variable (v : DealView)

def bond : ℕ := v.deal.economics.operatorBond

def feeThrough (epoch : ℕ) : ℕ := v.deal.totalFee (epoch - v.deal.dealStartEpoch)

def withStatus (status : DealStatus) : DealView := { v with deal := { v.deal with status } }

def event (epoch amount balanceEffect : ℕ) (kind : StorageEconomicsEventKind) :
    StorageEconomicsEvent :=
  { epoch, dealId := v.deal.dealId, operator := v.deal.operator, amount, balanceEffect, kind }

/-- What happens to a deal. In a `fair` life an active deal with a bond is not slashed, and
its bond is returned when it ends. -/
inductive Step (fair : Prop) : DealView → List StorageEconomicsEvent → DealView → Prop
  | slashed (v : DealView) (epoch burned : ℕ) (hburned : burned ≤ v.bond)
      (hfair : fair → v.deal.isActive = true → v.bond = 0) :
      Step fair v [v.event epoch v.bond burned .operatorBondSlashed] (v.withStatus .slashed)
  | returned (v : DealView) (epoch : ℕ) (hactive : v.deal.isActive = true) :
      Step fair v [v.event epoch v.bond v.bond .operatorBondReturned] (v.withStatus .expired)
  | released (v : DealView) (hactive : v.deal.isActive = true) (hfair : fair → v.bond = 0) :
      Step fair v [] (v.withStatus .expired)
  | rewarded (v : DealView) (epoch upTo amount : ℕ) (hactive : v.deal.isActive = true)
      (hlater : v.paidThrough < upTo) (hend : upTo ≤ v.deal.dealEndEpoch)
      (hamount : v.feeThrough v.paidThrough + amount = v.feeThrough upTo) :
      Step fair v [v.event epoch amount amount .operatorRewardAccrued]
        { v with paidThrough := upTo }

abbrev Life (fair : Prop) : DealView → List StorageEconomicsEvent → DealView → Prop :=
  Trace (Step fair)

/-- The life of what is held under an id: a deal, or none yet. -/
def Lives (fair : Prop) : Option DealView → List StorageEconomicsEvent → Option DealView → Prop
  | some v, es, some v' => Life fair v es v'
  | none, es, none => es = []
  | _, _, _ => False

variable {fair : Prop} {v v' v'' : Option DealView} {es es' : List StorageEconomicsEvent}

lemma Lives.refl : ∀ v, Lives fair v [] v
  | none => rfl
  | some v => .nil v

lemma Lives.trans (h : Lives fair v es v') (h' : Lives fair v' es' v'') :
    Lives fair v (es ++ es') v'' := by
  match v, v', v'', h, h' with
  | some _, some _, some _, h, h' => exact Trace.append h h'
  | none, none, none, h, h' =>
    obtain rfl : es = [] := h
    exact h'

end DealView

/-! ## What a call does -/

namespace AccountState

variable {T : ModuleTypes} {ε : Type}

/-- The balance of `a` moved by `δ`, and the storage registry stayed. -/
structure Shifted (a : Address) (δ : ℤ) (s s' : AccountState T) : Prop where
  storageRegistry : s'.storageRegistry = s.storageRegistry
  balance : ∀ b, (s'.getBalance b : ℤ) = s.getBalance b + if b = a then δ else 0

variable {s : AccountState T} {a : Address} {amount : ℕ}

lemma shifted_touch : Shifted a 0 s (s.touch a) where
  storageRegistry := rfl
  balance b := by simp

lemma shifted_setAccount {account : Account} {δ : ℤ}
    (h : (account.balance : ℤ) = s.getBalance a + δ) :
    Shifted a δ s (s.setAccount a account) where
  storageRegistry := rfl
  balance b := by
    rw [getBalance_eq, account_setAccount]
    by_cases hb : b = a
    · subst hb
      simpa using h
    · simp [hb, getBalance_eq]

variable {Q : Unit → AccountState T → Prop} {E : ε → AccountState T → Prop}

lemma wp_debitBalance (hcovered : amount ≤ s.getBalance a)
    (h : ∀ s', Shifted a (-amount) s s' → Q () s') : wp (debitBalance a amount) Q E s := by
  unfold debitBalance
  rw [wp_bind, wp_getOrCreate, wp_writeAccount, setAccount_touch]
  refine h _ (shifted_setAccount ?_)
  show ((s.getBalance a - amount : ℕ) : ℤ) = _
  omega

lemma wp_tryAddBalance_shifted {E : String → AccountState T → Prop}
    (hok : ∀ s', Shifted a amount s s' → s.getBalance a + amount ≤ u64Max → Q () s')
    (herr : ∀ e s', Shifted a 0 s s' → u64Max < s.getBalance a + amount → E e s') :
    wp (tryAddBalance a amount) Q E s := by
  rw [wp_tryAddBalance]
  refine ⟨fun hfits => hok _ (shifted_setAccount ?_) hfits, fun hover => herr _ _ shifted_touch hover⟩
  show ((s.getBalance a + amount : ℕ) : ℤ) = _
  omega

lemma wp_burnFrom_shifted {Q : ℕ → AccountState T → Prop}
    (h : ∀ s', Shifted a (-(min amount (s.getBalance a) : ℕ)) s s' →
      Q (min amount (s.getBalance a)) s') : wp (burnFrom a amount) Q E s := by
  unfold burnFrom
  split_ifs with hzero
  · subst hzero
    rw [wp_pure]
    rw [Nat.zero_min] at h
    exact h s ⟨rfl, by simp⟩
  · simp only [wp_bind, wp_accounts, wp_pure]
    refine h _ (shifted_setAccount ?_)
    show ((s.getBalance a - min amount (s.getBalance a) : ℕ) : ℤ) = _
    omega

end AccountState

namespace StorageChain

variable {T : ModuleTypes} (c : StorageChain T)

def view (id : ℕ) : Option DealView :=
  (c.registry.deals.get? id).map fun deal => ⟨deal, c.paidThrough deal⟩

/-- Rewards are only accounted for deals that were opened. -/
def CursorsOpened : Prop :=
  ∀ id epoch, c.storageLastRewardEpoch.get? id = some epoch → id < c.registry.nextDealId

def Ranged : Prop := ∀ a, c.balance a ≤ u64Max

/-- From `c` to `c'` the events `es` were appended, the balances moved by what they say, and
the deal under `id` lived through its part of them. -/
structure Tracked (fair : Prop) (id : ℕ) (c : StorageChain T) (es : List StorageEconomicsEvent)
    (c' : StorageChain T) : Prop where
  events : c'.storageEconomicsEvents = c.storageEconomicsEvents ++ es
  balance : ∀ a, (c'.balance a : ℤ) = c.balance a + effect es a
  ranged : c.Ranged → c'.Ranged
  nextDealId : c'.registry.nextDealId = c.registry.nextDealId
  cursors : c.CursorsOpened → c'.CursorsOpened
  lives : DealView.Lives fair (c.view id) (ofDeal id es) (c'.view id)

variable {c} {c' c'' : StorageChain T} {fair : Prop} {id : ℕ}
variable {es es' : List StorageEconomicsEvent}

lemma Tracked.trans (h : Tracked fair id c es c') (h' : Tracked fair id c' es' c'') :
    Tracked fair id c (es ++ es') c'' where
  events := by rw [h'.events, h.events, append_assoc]
  balance a := by rw [h'.balance, h.balance, effect_append, add_assoc]
  ranged hc := h'.ranged (h.ranged hc)
  nextDealId := h'.nextDealId.trans h.nextDealId
  cursors hc := h'.cursors (h.cursors hc)
  lives := by
    rw [ofDeal_append]
    exact h.lives.trans h'.lives

/-- Nothing of a deal and no balance changed. -/
structure Quiet (c c' : StorageChain T) : Prop where
  events : c'.storageEconomicsEvents = c.storageEconomicsEvents
  balance : ∀ a, c'.balance a = c.balance a
  deals : c'.registry.deals = c.registry.deals
  nextDealId : c'.registry.nextDealId = c.registry.nextDealId
  cursors : c'.storageLastRewardEpoch = c.storageLastRewardEpoch

lemma Quiet.refl (c : StorageChain T) : Quiet c c := ⟨rfl, fun _ => rfl, rfl, rfl, rfl⟩

lemma Quiet.view (h : Quiet c c') (id : ℕ) : c'.view id = c.view id := by
  simp only [StorageChain.view, StorageChain.paidThrough, h.deals, h.cursors]

lemma Quiet.tracked (h : Quiet c c') : Tracked fair id c [] c' where
  events := by rw [h.events, append_nil]
  balance a := by rw [h.balance, effect_nil, add_zero]
  ranged hc a := (h.balance a).trans_le (hc a)
  nextDealId := h.nextDealId
  cursors hc := by
    unfold CursorsOpened
    rw [h.cursors, h.nextDealId]
    exact hc
  lives := by
    rw [h.view]
    exact DealView.Lives.refl _

lemma Tracked.of_step {d : ℕ} {v v' : DealView} (hview : c.view d = some v)
    (hview' : c'.view d = some v') (hother : ∀ id', id' ≠ d → c'.view id' = c.view id')
    (hstep : d = id → DealView.Step fair v es v') (hes : ∀ e ∈ es, e.dealId = d)
    (hevents : c'.storageEconomicsEvents = c.storageEconomicsEvents ++ es)
    (hbalance : ∀ a, (c'.balance a : ℤ) = c.balance a + effect es a)
    (hranged : c.Ranged → c'.Ranged) (hnext : c'.registry.nextDealId = c.registry.nextDealId)
    (hcursors : c.CursorsOpened → c'.CursorsOpened) : Tracked fair id c es c' where
  events := hevents
  balance := hbalance
  ranged := hranged
  nextDealId := hnext
  cursors := hcursors
  lives := by
    by_cases hid : d = id
    · subst hid
      rw [hview, hview', ofDeal_of_forall hes]
      exact Trace.single (hstep rfl)
    · rw [hother id (Ne.symm hid), ofDeal_of_ne hes hid]
      exact DealView.Lives.refl _

structure Ended (d : ℕ) (deal : StorageDeal) (status : DealStatus) (c c' : StorageChain T) :
    Prop where
  get : c.registry.deals.get? d = some deal
  deals : c'.registry.deals = c.registry.deals.insert d { deal with status }
  nextDealId : c'.registry.nextDealId = c.registry.nextDealId
  cursors : c'.storageLastRewardEpoch = c.storageLastRewardEpoch

namespace Ended

variable {d : ℕ} {deal : StorageDeal} {status : DealStatus} (h : Ended d deal status c c')

include h

lemma view_self : c.view d = some ⟨deal, c.paidThrough deal⟩ := by
  rw [view, h.get]
  rfl

lemma view_self' : c'.view d = some (DealView.withStatus ⟨deal, c.paidThrough deal⟩ status) := by
  rw [view, h.deals, SortedMap.get?_insert_self]
  simp only [Option.map_some, DealView.withStatus, paidThrough, h.cursors]

lemma view_of_ne {id' : ℕ} (hne : id' ≠ d) : c'.view id' = c.view id' := by
  simp only [view, h.deals, SortedMap.get?_insert, if_neg hne,
    paidThrough, h.cursors]

lemma cursorsOpened (hc : c.CursorsOpened) : c'.CursorsOpened := by
  unfold CursorsOpened
  rw [h.cursors, h.nextDealId]
  exact hc

lemma tracked (hstep : d = id → DealView.Step fair ⟨deal, c.paidThrough deal⟩ es
      (DealView.withStatus ⟨deal, c.paidThrough deal⟩ status)) (hes : ∀ e ∈ es, e.dealId = d)
    (hevents : c'.storageEconomicsEvents = c.storageEconomicsEvents ++ es)
    (hbalance : ∀ a, (c'.balance a : ℤ) = c.balance a + effect es a)
    (hranged : c.Ranged → c'.Ranged) : Tracked fair id c es c' :=
  .of_step h.view_self h.view_self' (fun _ => h.view_of_ne) hstep hes hevents hbalance hranged
    h.nextDealId h.cursorsOpened

end Ended

/-! ## Rules for calls -/

/-- Every outcome of a call but an abort ends in `P`. -/
def Returns {α : Type} (x : Method T α) (P : StorageChain T → Prop) (c : StorageChain T) : Prop :=
  wp x (fun _ => P) (fun e c' => e ≠ .abort → P c') c

lemma Returns.mono {α : Type} {x : Method T α} {P P' : StorageChain T → Prop}
    (h : Returns x P c) (hP : ∀ c', P c' → P' c') : Returns x P' c :=
  wp_mono h (fun _ => hP) fun _ c' h hne => hP c' (h hne)

lemma returns_of_run {α : Type} {x : Method T α} {P : StorageChain T → Prop}
    (h : P (x.run c).2) : Returns x P c :=
  wp_mono (wp_snd.mpr h) (fun _ _ h => h) fun _ _ h _ => h

section

variable {α : Type} {Q : α → StorageChain T → Prop} {E : Stop String → StorageChain T → Prop}

lemma wp_onAccounts {text : String → String} {x : Exec (AccountState T.storing) String α} :
    wp (onAccounts text x) Q E c ↔
      wp x (fun a s => Q a (c.withState s)) (fun e s => E (.err (text e)) (c.withState s))
        c.state :=
  wp_zoom_run ..

section

variable {R : Except StorageError α → StorageChain T → Prop} {x : StorageRegistry.Method α}
variable {r : StorageRegistry}

lemma wp_onRegistry_ok {a : α} (h : x.run c.registry = (.ok a, r)) :
    wp (onRegistry x) R E c ↔ R (.ok a) (c.withRegistry r) := by
  unfold wp onRegistry
  rw [h]

lemma wp_onRegistry_err {e : StorageError} (h : x.run c.registry = (.error (.err e), r)) :
    wp (onRegistry x) R E c ↔ R (.error e) (c.withRegistry r) := by
  unfold wp onRegistry
  rw [h]

lemma wp_onRegistry_abort (h : x.run c.registry = (.error .abort, r)) :
    wp (onRegistry x) R E c ↔ E .abort (c.withRegistry r) := by
  unfold wp onRegistry
  rw [h]

lemma snd_run_onRegistry : ((onRegistry x).run c).2 = c.withRegistry (x.run c.registry).2 := by
  show (onRegistry x c).2 = _
  unfold onRegistry
  rcases x.run c.registry with ⟨(e | _) | a, r⟩ <;> rfl

end

lemma readOnly_persist (text : String) (save : StorageDisk → Except String Unit) :
    ReadOnly (persist text save : Method T Unit) := by
  refine .bind .read fun store => ?_
  cases store with
  | none => exact .pure
  | some store => exact .ofExcept

lemma readOnly_persistStorageRegistry : ReadOnly (persistStorageRegistry : Method T Unit) :=
  .bind .read fun _ => readOnly_persist _ _

lemma readOnly_persistStorageEconomicsState :
    ReadOnly (persistStorageEconomicsState : Method T Unit) :=
  .bind .read fun _ => readOnly_persist _ _

lemma readOnly_saveStorageRegistry : ReadOnly (saveStorageRegistry : Method T Unit) :=
  .bind .read fun _ => .ofExcept

lemma wp_increment {count : ℕ} {R : ℕ → StorageChain T → Prop} : wp (increment count) R E c ↔
      (2 ^ 32 - 1 ≤ count → E .abort c) ∧ (¬ 2 ^ 32 - 1 ≤ count → R (count + 1) c) := by
  unfold increment
  rw [wp_bind, wp_failIf]
  rfl

end

end StorageChain

end Budlum
