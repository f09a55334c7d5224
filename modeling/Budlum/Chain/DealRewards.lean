import Budlum.Chain.DealCalls

/-!
# Rewards

What one turn of `accrue_storage_operator_rewards` does, and what the whole call does to a
deal: it moves along its life, and if no credit overflows a deal whose term is over is paid
in full.
-/

namespace Budlum

open Machine StorageEconomicsEvent Exec StorageRegistry List SortedMap Nat

/-! ## The fee -/

namespace StorageEconomicsParams

variable (e : StorageEconomicsParams) (shardBytes : ℕ)

lemma totalFee_mono {epochs epochs' : ℕ} (h : epochs ≤ epochs') :
    e.totalFee shardBytes epochs ≤ e.totalFee shardBytes epochs' := by
  have hscaled : satMul u128Max (satMul u128Max e.feePerByteEpoch shardBytes) epochs ≤
      satMul u128Max (satMul u128Max e.feePerByteEpoch shardBytes) epochs' :=
    min_le_min_right _ (Nat.mul_le_mul_left _ h)
  exact min_le_min_right _ (Nat.div_le_div_right (Nat.add_le_add_right hscaled _))

lemma totalFee_of_scaled_zero {epochs : ℕ}
    (h : satMul u128Max (satMul u128Max e.feePerByteEpoch shardBytes) epochs = 0) :
    e.totalFee shardBytes epochs = 0 := by
  unfold totalFee
  rw [h]
  decide

lemma totalFee_zero : e.totalFee shardBytes 0 = 0 :=
  e.totalFee_of_scaled_zero shardBytes (by simp [satMul])

lemma totalFee_of_rate_zero (h : e.feePerByteEpoch = 0) (epochs : ℕ) :
    e.totalFee shardBytes epochs = 0 :=
  e.totalFee_of_scaled_zero shardBytes (by simp [satMul, h])

end StorageEconomicsParams

namespace DealView

variable (v : DealView)

lemma feeThrough_mono {epoch epoch' : ℕ} (h : epoch ≤ epoch') :
    v.feeThrough epoch ≤ v.feeThrough epoch' :=
  v.deal.economics.totalFee_mono _ (Nat.sub_le_sub_right h _)

lemma feeThrough_start : v.feeThrough v.deal.dealStartEpoch = 0 := by
  unfold feeThrough
  rw [Nat.sub_self]
  exact v.deal.economics.totalFee_zero _

end DealView

namespace StorageChain

variable {T : ModuleTypes} {M : StorageModules} {W : StorageTexts}
variable {c c' c₀ : StorageChain T} {fair : Prop} {id epoch : ℕ} {deal : StorageDeal}

/-! ## One turn -/

inductive Accrued (epoch : ℕ) (deal : StorageDeal) (c : StorageChain T) : StorageChain T → Prop
  | settled (h : min epoch deal.dealEndEpoch ≤ c.paidThrough deal ∨
      deal.economics.feePerByteEpoch = 0) :
      Accrued epoch deal c (c.withCursor deal.dealId (c.paidThrough deal))
  | nothing (h : c.amountOwed deal (min epoch deal.dealEndEpoch) = 0) : Accrued epoch deal c c
  | refused {c' : StorageChain T} (hquiet : Quiet c c')
      (hdue : ¬ (min epoch deal.dealEndEpoch ≤ c.paidThrough deal ∨
        deal.economics.feePerByteEpoch = 0))
      (hover : u64Max < c.balance deal.operator +
        c.amountOwed deal (min epoch deal.dealEndEpoch)) : Accrued epoch deal c c'
  | credited {c' : StorageChain T}
      (hdue : ¬ (min epoch deal.dealEndEpoch ≤ c.paidThrough deal ∨
        deal.economics.feePerByteEpoch = 0))
      (hevents : c'.storageEconomicsEvents = c.storageEconomicsEvents ++
        [⟨epoch, deal.dealId, deal.operator, c.amountOwed deal (min epoch deal.dealEndEpoch),
          c.amountOwed deal (min epoch deal.dealEndEpoch), .operatorRewardAccrued⟩])
      (hbalance : ∀ a, (c'.balance a : ℤ) = c.balance a + if a = deal.operator then
        (c.amountOwed deal (min epoch deal.dealEndEpoch) : ℤ) else 0)
      (hfits : c.balance deal.operator + c.amountOwed deal (min epoch deal.dealEndEpoch) ≤ u64Max)
      (hregistry : c'.registry = c.registry)
      (hcursors : c'.storageLastRewardEpoch =
        c.storageLastRewardEpoch.insert deal.dealId (min epoch deal.dealEndEpoch)) :
      Accrued epoch deal c c'

lemma wp_accrueDeal {acc : ℕ × ℕ} {Q : ℕ × ℕ → StorageChain T → Prop}
    {E : Stop String → StorageChain T → Prop} (hok : ∀ acc' c', Accrued epoch deal c c' → Q acc' c')
    (habort : ∀ c', E .abort c') : wp (accrueDeal epoch acc deal) Q E c := by
  unfold accrueDeal
  rw [wp_bind, wp_read]
  dsimp only [id_eq]
  split_ifs with hsettled hzero
  · rw [wp_bind, wp_modify]
    exact hok _ _ (.settled hsettled)
  · exact hok _ _ (.nothing hzero)
  · rw [wp_bind, wp_attempt, wp_onAccounts]
    refine AccountState.wp_tryAddBalance_shifted (fun s hs hfits => ?_) fun e s hs hover => ?_
    · have hcredited : Accrued epoch deal c
          ((((c.withState s).addReward deal.operator
            (c.amountOwed deal (min epoch deal.dealEndEpoch))).withCursor deal.dealId
              (min epoch deal.dealEndEpoch)).pushEvent ⟨epoch, deal.dealId, deal.operator,
                c.amountOwed deal (min epoch deal.dealEndEpoch),
                c.amountOwed deal (min epoch deal.dealEndEpoch), .operatorRewardAccrued⟩) :=
        .credited hsettled rfl hs.balance hfits hs.storageRegistry rfl
      simp only [wp_rules, wp_increment]
      exact ⟨fun _ => habort _, fun _ => hok _ _ hcredited⟩
    · refine hok _ _ (.refused ⟨rfl, fun a => ?_, ?_, ?_, rfl⟩ hsettled hover)
      · have hmoved := hs.balance a
        rw [ite_self, add_zero] at hmoved
        exact Int.ofNat_inj.mp hmoved
      · exact congrArg deals hs.storageRegistry
      · exact congrArg nextDealId hs.storageRegistry

lemma paidThrough_of_insert {d e : ℕ}
    (h : c'.storageLastRewardEpoch = c.storageLastRewardEpoch.insert d e) (deal : StorageDeal) :
    c'.paidThrough deal = if deal.dealId = d then e else c.paidThrough deal := by
  unfold paidThrough
  rw [h, get?_insert]
  split_ifs <;> rfl

lemma cursorsOpened_of_insert {d e : ℕ} (hc : c.CursorsOpened)
    (h : c'.storageLastRewardEpoch = c.storageLastRewardEpoch.insert d e)
    (hnext : c'.registry.nextDealId = c.registry.nextDealId) (hd : d < c.registry.nextDealId) :
    c'.CursorsOpened := by
  intro d' e' hget
  rw [hnext]
  rw [h] at hget
  rcases get?_insert_eq_some.mp hget with ⟨rfl, -⟩ | ⟨-, hget⟩
  · exact hd
  · exact hc d' e' hget

lemma amountOwed_add {upTo : ℕ} (h : c.paidThrough deal ≤ upTo) :
    DealView.feeThrough ⟨deal, c.paidThrough deal⟩ (c.paidThrough deal) + c.amountOwed deal upTo =
      DealView.feeThrough ⟨deal, c.paidThrough deal⟩ upTo :=
  Nat.add_sub_cancel' (DealView.feeThrough_mono _ h)

namespace Accrued

lemma deals_eq (h : Accrued epoch deal c c') : c'.registry.deals = c.registry.deals := by
  cases h with
  | settled => rfl
  | nothing => rfl
  | refused hquiet => exact hquiet.deals
  | credited _ _ _ _ hregistry => rw [hregistry]

lemma paidThrough_le (h : Accrued epoch deal c c') (deal' : StorageDeal)
    (hsame : deal'.dealId = deal.dealId → deal' = deal) :
    c.paidThrough deal' ≤ c'.paidThrough deal' := by
  cases h with
  | settled =>
    have hcursors : (c.withCursor deal.dealId (c.paidThrough deal)).storageLastRewardEpoch =
        c.storageLastRewardEpoch.insert deal.dealId (c.paidThrough deal) := rfl
    rw [paidThrough_of_insert hcursors]
    split_ifs with hid
    · rw [hsame hid]
    · exact le_rfl
  | nothing => exact le_rfl
  | refused hquiet =>
    unfold paidThrough
    rw [hquiet.cursors]
  | credited hdue _ _ _ _ hcursors =>
    rw [paidThrough_of_insert hcursors]
    split_ifs with hid
    · rw [hsame hid]
      exact (not_le.mp (not_or.mp hdue).1).le
    · exact le_rfl

lemma track (h : Accrued epoch deal c c') (hget : c.registry.deals.get? deal.dealId = some deal)
    (hactive : deal.isActive = true) : Track fair id c c' := by
  have hopened : deal.dealId < c.registry.nextDealId := (c.registry.deals_keyed _ _ hget).2
  have hview : c.view deal.dealId = some ⟨deal, c.paidThrough deal⟩ := by
    rw [view, hget]
    rfl
  -- the entry under another id belongs to another deal
  have hother : ∀ e c', c'.registry.deals = c.registry.deals →
      c'.storageLastRewardEpoch = c.storageLastRewardEpoch.insert deal.dealId e →
      ∀ d, d ≠ deal.dealId → (c' : StorageChain T).view d = c.view d := by
    intro e c' hdeals hcursors d hd
    unfold view
    rw [hdeals]
    cases hget' : c.registry.deals.get? d with
    | none => rfl
    | some deal' =>
      have hid : deal'.dealId ≠ deal.dealId := (c.registry.deals_keyed d deal' hget').1 ▸ hd
      simp only [Option.map_some, paidThrough_of_insert hcursors, if_neg hid]
  cases h with
  | settled _ =>
    refine ⟨[], (append_nil _).symm, fun a => (add_zero _).symm, fun hc => hc, rfl,
      fun hc => cursorsOpened_of_insert hc rfl rfl hopened, ?_⟩
    have hsame : (c.withCursor deal.dealId (c.paidThrough deal)).view id = c.view id := by
      by_cases hid : id = deal.dealId
      · subst hid
        rw [hview]
        show (c.registry.deals.get? deal.dealId).map _ = _
        rw [hget, Option.map_some, paidThrough_of_insert rfl, if_pos rfl]
      · exact hother _ (c.withCursor deal.dealId (c.paidThrough deal)) rfl rfl id hid
    rw [hsame]
    exact DealView.Lives.refl _
  | nothing _ => exact Track.refl c
  | refused hquiet _ _ => exact ⟨[], hquiet.tracked⟩
  | credited hdue hevents hbalance hfits hregistry hcursors =>
    have hlater : c.paidThrough deal < min epoch deal.dealEndEpoch :=
      not_le.mp (not_or.mp hdue).1
    have hview' : c'.view deal.dealId = some ⟨deal, min epoch deal.dealEndEpoch⟩ := by
      unfold view
      rw [hregistry, hget, Option.map_some, paidThrough_of_insert hcursors, if_pos rfl]
    refine ⟨_, .of_step hview hview' (hother _ _ (congrArg deals hregistry) hcursors)
      (fun _ => .rewarded ⟨deal, c.paidThrough deal⟩ epoch _ _ hactive hlater
        (min_le_right _ _) (amountOwed_add hlater.le)) ?_ hevents (fun a => ?_)
      (fun hc a => ?_) (congrArg nextDealId hregistry)
      fun hc => cursorsOpened_of_insert hc hcursors
        (congrArg nextDealId hregistry) hopened⟩
    · simp [DealView.event]
    · rw [hbalance, effect_singleton]
      rfl
    · have hmoved := hbalance a
      have hle := hc a
      split_ifs at hmoved with ha
      · subst ha
        omega
      · omega

end Accrued

/-! ## The whole call -/

def owed (c : StorageChain T) (epoch : ℕ) (deal : StorageDeal) : ℕ :=
  if min epoch deal.dealEndEpoch ≤ c.paidThrough deal ∨ deal.economics.feePerByteEpoch = 0 then 0
  else c.amountOwed deal (min epoch deal.dealEndEpoch)

def owedTo (c : StorageChain T) (epoch : ℕ) (a : Address) (deals : List StorageDeal) : ℕ :=
  ((deals.filter fun deal => deal.operator = a).map (c.owed epoch)).sum

def CreditsFit (c : StorageChain T) (epoch : ℕ) : Prop :=
  ∀ a, c.balance a + c.owedTo epoch a c.activeDeals ≤ u64Max

def PaidInFull (c : StorageChain T) (deal : StorageDeal) : Prop :=
  c.amountOwed deal deal.dealEndEpoch = 0

lemma PaidInFull.feeThrough_le (h : c.PaidInFull deal) :
    DealView.feeThrough ⟨deal, c.paidThrough deal⟩ deal.dealEndEpoch ≤
      DealView.feeThrough ⟨deal, c.paidThrough deal⟩ (c.paidThrough deal) := by
  unfold PaidInFull amountOwed at h
  exact Nat.le_of_sub_eq_zero h

lemma amountOwed_anti (h : c.paidThrough deal ≤ c'.paidThrough deal) (upTo : ℕ) :
    c'.amountOwed deal upTo ≤ c.amountOwed deal upTo :=
  Nat.sub_le_sub_left (deal.economics.totalFee_mono _ (Nat.sub_le_sub_right h _)) _

lemma owed_anti (h : c.paidThrough deal ≤ c'.paidThrough deal) :
    c'.owed epoch deal ≤ c.owed epoch deal := by
  unfold owed
  split_ifs with hpaid' hpaid hpaid
  · exact le_rfl
  · exact zero_le _
  · exact absurd (hpaid.imp_left fun hle => hle.trans h) hpaid'
  · exact amountOwed_anti h _

lemma owedTo_anti {deals : List StorageDeal} {a : Address}
    (h : ∀ deal ∈ deals, c.paidThrough deal ≤ c'.paidThrough deal) :
    c'.owedTo epoch a deals ≤ c.owedTo epoch a deals := by
  refine sum_le_sum fun deal hmem => owed_anti (h deal (mem_filter.mp hmem).1)

lemma owedTo_cons (a : Address) (rest : List StorageDeal) :
    c.owedTo epoch a (deal :: rest) =
      (if deal.operator = a then c.owed epoch deal else 0) + c.owedTo epoch a rest := by
  unfold owedTo
  by_cases h : deal.operator = a <;> simp [h]

lemma creditsFit_of_operators (hc : c.Ranged) (h : ∀ deal ∈ c.activeDeals,
    c.balance deal.operator + c.owedTo epoch deal.operator c.activeDeals ≤ u64Max) :
    c.CreditsFit epoch := by
  intro a
  by_cases ha : ∃ deal ∈ c.activeDeals, deal.operator = a
  · obtain ⟨deal, hmem, rfl⟩ := ha
    exact h deal hmem
  · have hnone : c.activeDeals.filter (fun deal => deal.operator = a) = [] := by
      rw [filter_eq_nil_iff]
      intro deal hmem
      simpa using fun heq => ha ⟨deal, hmem, heq⟩
    rw [owedTo, hnone]
    exact hc a

lemma Accrued.paidInFull (h : Accrued epoch deal c c') (hend : deal.dealEndEpoch ≤ epoch)
    (hfits : c.balance deal.operator + c.owed epoch deal ≤ u64Max) : c'.PaidInFull deal := by
  have huntil : min epoch deal.dealEndEpoch = deal.dealEndEpoch := Nat.min_eq_right hend
  cases h with
  | settled hsettled =>
    have hpaid : (c.withCursor deal.dealId (c.paidThrough deal)).paidThrough deal =
        c.paidThrough deal := by
      rw [paidThrough_of_insert (c := c) rfl, if_pos rfl]
    rw [huntil] at hsettled
    unfold PaidInFull amountOwed
    rw [hpaid]
    rcases hsettled with hle | hrate
    · exact Nat.sub_eq_zero_of_le
        (deal.economics.totalFee_mono _ (Nat.sub_le_sub_right hle _))
    · rw [StorageDeal.totalFee, deal.economics.totalFee_of_rate_zero _ hrate, Nat.zero_sub]
  | nothing hzero =>
    rw [huntil] at hzero
    exact hzero
  | refused _ hdue hover =>
    rw [owed, if_neg hdue] at hfits
    exact absurd hover hfits.not_gt
  | credited _ _ _ _ _ hcursors =>
    unfold PaidInFull amountOwed
    rw [paidThrough_of_insert hcursors, if_pos rfl, huntil, Nat.sub_self]

/-- What one turn of the loop finds in the next one. -/
structure AccrueLoop (fair : Prop) (id epoch : ℕ) (c₀ : StorageChain T) (rest : List StorageDeal)
    (c : StorageChain T) : Prop where
  track : Track fair id c₀ c
  held : ∀ deal ∈ rest, c.registry.deals.get? deal.dealId = some deal ∧ deal.isActive = true

variable {rest : List StorageDeal}

lemma AccrueLoop.step
    (h : AccrueLoop fair id epoch c₀ (deal :: rest) c) (haccrued : Accrued epoch deal c c') :
    AccrueLoop fair id epoch c₀ rest c' where
  track := h.track.trans (haccrued.track (h.held deal (mem_cons_self ..)).1
    (h.held deal (mem_cons_self ..)).2)
  held deal' hmem := by
    rw [haccrued.deals_eq]
    exact h.held deal' (mem_cons_of_mem _ hmem)

lemma quiet_prune (c : StorageChain T) :
    Quiet c (c.withRegistry (c.registry.pruneExpiredCooldowns c.currentUnixSecs)) :=
  ⟨rfl, fun _ => rfl, rfl, rfl, rfl⟩

lemma readOnly_persistRewards (acc : ℕ × ℕ) : ReadOnly (do
    onlyIf (0 < acc.1) persistStorageEconomicsState
    pure acc : Method T (ℕ × ℕ)) :=
  .bind (.ite readOnly_persistStorageEconomicsState .pure) fun _ => .pure

lemma get?_of_mem_activeDeals (h : deal ∈ c.activeDeals) :
    c.registry.deals.get? deal.dealId = some deal ∧ deal.isActive = true := by
  obtain ⟨hmem, hactive⟩ := mem_filter.mp h
  exact ⟨get?_of_mem_values (fun k v h => (c.registry.deals_keyed k v h).1) hmem, hactive⟩

lemma accrue_of_loop {I : List StorageDeal → StorageChain T → Prop}
    (hstart : I c.activeDeals (c.withRegistry (c.registry.pruneExpiredCooldowns c.currentUnixSecs)))
    (hstep : ∀ deal rest c c', I (deal :: rest) c → Accrued epoch deal c c' → I rest c') :
    Returns (accrueStorageOperatorRewards epoch) (I []) c := by
  unfold Returns accrueStorageOperatorRewards
  rw [wp_bind, wp_modify, wp_bind, wp_read, wp_bind]
  refine wp_mono (wp_foldlM (I := fun rest _ => I rest)
    (E := fun e c' => e ≠ .abort → I [] c') (fun deal rest acc c h => ?_) _ (0, 0) _ hstart)
    (fun acc c' h => ?_) fun _ _ h => h
  · exact wp_accrueDeal (fun _ c' haccrued => hstep deal rest c c' h haccrued)
      fun _ habort => absurd rfl habort
  · exact (readOnly_persistRewards acc).wp_of (fun _ => h) fun _ _ => h

lemma track_accrueStorageOperatorRewards :
    Returns (accrueStorageOperatorRewards epoch) (Track fair id c) c := by
  have hstart : AccrueLoop fair id epoch c c.activeDeals (c.withRegistry
      (c.registry.pruneExpiredCooldowns c.currentUnixSecs)) :=
    ⟨⟨[], (quiet_prune c).tracked⟩, fun _ hmem => get?_of_mem_activeDeals hmem⟩
  exact (accrue_of_loop hstart fun _ _ _ _ h haccrued => h.step haccrued).mono fun _ h => h.track

lemma deals_accrue : Returns (accrueStorageOperatorRewards epoch)
      (fun c' => c'.registry.deals = c.registry.deals) c :=
  accrue_of_loop (I := fun _ c' => c'.registry.deals = c.registry.deals) rfl
    fun _ _ _ _ h haccrued => haccrued.deals_eq.trans h

/-- What the loop finds of a deal whose term is over. -/
structure PayLoop (epoch : ℕ) (deal : StorageDeal) (rest : List StorageDeal)
    (c : StorageChain T) : Prop where
  held : ∀ deal' ∈ deal :: rest, c.registry.deals.get? deal'.dealId = some deal'
  fits : c.balance deal.operator + c.owedTo epoch deal.operator rest ≤ u64Max
  paid : deal ∈ rest ∨ c.PaidInFull deal

lemma Accrued.balance_le (h : Accrued epoch deal c c') (a : Address) :
    c'.balance a ≤ c.balance a + if deal.operator = a then c.owed epoch deal else 0 := by
  cases h with
  | settled => exact le_add_right _ _
  | nothing => exact le_add_right _ _
  | refused hquiet => exact (hquiet.balance a).trans_le (le_add_right _ _)
  | credited hdue _ hbalance =>
    have hmoved := hbalance a
    rw [owed, if_neg hdue]
    by_cases ha : deal.operator = a
    · rw [if_pos ha]
      rw [if_pos ha.symm] at hmoved
      omega
    · rw [if_neg (Ne.symm ha)] at hmoved
      omega

lemma PayLoop.step {next : StorageDeal}
    (hend : deal.dealEndEpoch ≤ epoch) (h : PayLoop epoch deal (next :: rest) c)
    (haccrued : Accrued epoch next c c') : PayLoop epoch deal rest c' := by
  -- two deals of the registry with one id are one deal
  have hsame : ∀ deal' ∈ deal :: rest, deal'.dealId = next.dealId → deal' = next := by
    intro deal' hmem hid
    have hget' : c.registry.deals.get? deal'.dealId = some deal' := by
      refine h.held deal' ?_
      rcases mem_cons.mp hmem with rfl | hmem
      · exact mem_cons_self ..
      · exact mem_cons_of_mem _ (mem_cons_of_mem _ hmem)
    have hget := h.held next (mem_cons_of_mem _ (mem_cons_self ..))
    rw [hid] at hget'
    exact Option.some.inj (hget'.symm.trans hget)
  have hlater : ∀ deal' ∈ deal :: rest, c.paidThrough deal' ≤ c'.paidThrough deal' :=
    fun deal' hmem => haccrued.paidThrough_le deal' (hsame deal' hmem)
  have hfits := h.fits
  rw [owedTo_cons] at hfits
  refine ⟨fun deal' hmem => ?_, ?_, ?_⟩
  · rw [haccrued.deals_eq]
    refine h.held deal' ?_
    rcases mem_cons.mp hmem with rfl | hmem
    · exact mem_cons_self ..
    · exact mem_cons_of_mem _ (mem_cons_of_mem _ hmem)
  · have hbalance := haccrued.balance_le deal.operator
    have howed : c'.owedTo epoch deal.operator rest ≤ c.owedTo epoch deal.operator rest :=
      owedTo_anti fun deal' hmem => hlater deal' (mem_cons_of_mem _ hmem)
    omega
  · rcases h.paid with hmem | hpaid
    · rcases mem_cons.mp hmem with rfl | hmem
      · rw [if_pos rfl] at hfits
        exact .inr (haccrued.paidInFull hend (by omega))
      · exact .inl hmem
    · exact .inr (le_zero.mp ((amountOwed_anti (hlater deal (mem_cons_self ..)) _).trans
        hpaid.le))

lemma paidInFull_accrue (hmem : deal ∈ c.activeDeals) (hend : deal.dealEndEpoch ≤ epoch)
    (hfits : c.CreditsFit epoch) :
    Returns (accrueStorageOperatorRewards epoch) (PaidInFull · deal) c := by
  have hstart : PayLoop epoch deal c.activeDeals (c.withRegistry
      (c.registry.pruneExpiredCooldowns c.currentUnixSecs)) := by
    refine ⟨fun deal' hmem' => ?_, hfits deal.operator, .inl hmem⟩
    rcases mem_cons.mp hmem' with rfl | hmem'
    · exact (get?_of_mem_activeDeals hmem).1
    · exact (get?_of_mem_activeDeals hmem').1
  refine (accrue_of_loop hstart fun _ _ _ _ h haccrued => h.step hend haccrued).mono
    fun c' h => ?_
  exact h.paid.resolve_left (not_mem_nil)

end StorageChain

end Budlum
