import Budlum.Execution.Effects

/-!
# Balances at the end of an epoch

What `process_unbonding` does with the matured entries of the queue, and what the timed burn
takes from its reserve over the years.
-/

namespace Budlum

open Machine Exec List Nat

/-- Whom an entry pays, and how much. -/
def UnbondingEntry.claim (e : UnbondingEntry) : Address × ℕ := (e.address, e.amount)

namespace AccountState

open UnbondingEntry (claim)

variable {T : ModuleTypes} {ε : Type} {s m s' : AccountState T} {entries entries' : List UnbondingEntry}

/-- What some entries pay to `a`. -/
def owed (entries : List UnbondingEntry) (a : Address) : ℕ :=
  ((entries.filter (·.address = a)).map UnbondingEntry.amount).sum

/-- Of some entries, taken off the queue before, each was credited or is queued again. -/
def Released (entries : List UnbondingEntry) (s s' : AccountState T) : Prop :=
  ∃ credited kept : List UnbondingEntry,
    ((credited ++ kept).map claim).Perm (entries.map claim) ∧
    s'.unbondingQueue = s.unbondingQueue ++ kept ∧
    (∀ a, s'.getBalance a = s.getBalance a + owed credited a) ∧
    s'.circulatingSupply + s'.totalUnbondingSupply =
      s.circulatingSupply + s.totalUnbondingSupply + (entries.map UnbondingEntry.amount).sum

lemma Released.trans (h : Released entries s m) (h' : Released entries' m s') :
    Released (entries ++ entries') s s' := by
  obtain ⟨credited, kept, hperm, hqueue, hbalance, hsupply⟩ := h
  obtain ⟨credited', kept', hperm', hqueue', hbalance', hsupply'⟩ := h'
  refine ⟨credited ++ credited', kept ++ kept', ?_, ?_, fun a => ?_, ?_⟩
  · rw [← Multiset.coe_eq_coe] at *
    simp only [map_append, ← Multiset.coe_add] at *
    rw [← hperm, ← hperm']
    abel
  · rw [hqueue', hqueue, append_assoc]
  · rw [hbalance', hbalance, owed, owed, owed, filter_append, map_append, sum_append_nat, add_assoc]
  · rw [hsupply', hsupply, map_append, sum_append_nat, add_assoc _ (sum _)]

/-- Entries that are queued again unseen. -/
lemma Released.deferred (s : AccountState T) (entries : List UnbondingEntry) :
    Released entries s { s with unbondingQueue := s.unbondingQueue ++ entries } := by
  refine ⟨[], entries, .refl _, rfl, fun _ => rfl, ?_⟩
  simp only [totalUnbondingSupply, map_append, sum_append_nat, ← add_assoc]
  rfl

lemma wp_releaseEntry (entry : UnbondingEntry) :
    wp (releaseEntry entry : Exec (AccountState T) ε Unit) (fun _ => Released [entry] s)
      (fun _ _ => False) s := by
  unfold releaseEntry
  rw [wp_bind, wp_attempt, wp_tryAddBalance]
  constructor
  · intro _
    refine ⟨[entry], [], .refl _, (append_nil _).symm, fun a => ?_, ?_⟩
    · rw [getBalance_eq, account_setAccount, owed]
      by_cases ha : a = entry.address
      · simp [ha]
      · simp [ha, Ne.symm ha, getBalance_eq]
    · have hset := circulatingSupply_setAccount s entry.address
        (Executor.credited (s.account entry.address) entry.amount)
      simp only [Executor.credited, ← getBalance_eq] at hset
      simp only [totalUnbondingSupply, setAccount_unbondingQueue, map_singleton, sum_singleton]
      omega
  · intro _
    obtain ⟨credited, kept, hperm, hqueue, hbalance, hsupply⟩ := Released.deferred
      (s.touch entry.address) [{ entry with releaseEpoch := s.epochIndex }]
    refine ⟨credited, kept, hperm, hqueue, fun a => ?_, ?_⟩
    · exact (hbalance a).trans (congrArg (· + _) (getBalance_touch ..))
    · exact hsupply.trans (congrArg (· + _ + _) (circulatingSupply_touch ..))

lemma wp_releaseEntries (entries : List UnbondingEntry) :
    wp (releaseEntries entries : Exec (AccountState T) ε Unit) (fun _ => Released entries s)
      (fun _ _ => False) s := by
  induction entries generalizing s with
  | nil => exact ⟨[], [], .refl _, (append_nil _).symm, fun _ => rfl, rfl⟩
  | cons entry entries ih =>
    rw [releaseEntries, wp_bind]
    refine wp_imp (wp_releaseEntry entry) fun _ m hentry => ?_
    exact wp_imp ih fun _ s' hrest => hentry.trans hrest

/-- A queue is worked off without error: every matured entry is credited once or kept, the
others stay as they are, and the balances and the queue together hold what they held. -/
theorem unbonding_conserves (s : AccountState T) : ∃ s' credited kept,
    (processUnbonding : Exec (AccountState T) ε Unit).run s = (.ok (), s') ∧
    ((credited ++ kept).map claim).Perm
      ((s.unbondingQueue.filter (·.releaseEpoch ≤ s.epochIndex)).map claim) ∧
    s'.unbondingQueue = s.unbondingQueue.filter (s.epochIndex < ·.releaseEpoch) ++ kept ∧
    (∀ a, s'.getBalance a = s.getBalance a + owed credited a) ∧
    s'.circulatingSupply + s'.totalUnbondingSupply =
      s.circulatingSupply + s.totalUnbondingSupply := by
  let due := s.unbondingQueue.filter (·.releaseEpoch ≤ s.epochIndex)
  let fits := fun e : UnbondingEntry => decide (s.getBalance e.address + e.amount ≤ u64Max)
  let unmatured := s.unbondingQueue.filter (s.epochIndex < ·.releaseEpoch)
  have hdeferred := Released.deferred { s with unbondingQueue := unmatured }
    (due.filter fun e => !fits e)
  obtain ⟨⟨⟩, s', hrun, hreleased⟩ := exists_run_of_wp (wp_releaseEntries (ε := ε) (due.filter fits))
  obtain ⟨credited, kept, hperm, hqueue, hbalance, hsupply⟩ := hdeferred.trans hreleased
  have hdue : ((due.filter fun e => !fits e) ++ due.filter fits).Perm due :=
    perm_append_comm.trans (filter_append_perm fits due)
  refine ⟨s', credited, kept, hrun, hperm.trans (hdue.map claim), hqueue, hbalance, ?_⟩
  have hall : (unmatured ++ due).Perm s.unbondingQueue := by
    have hsplit := filter_append_perm (fun e => decide (s.epochIndex < e.releaseEpoch))
      s.unbondingQueue
    simpa only [← decide_not, not_lt] using hsplit
  rw [hsupply, (hdue.map _).sum_eq, add_assoc]
  show s.circulatingSupply + (sum _ + sum _) = s.circulatingSupply + sum _
  rw [← (hall.map _).sum_eq, map_append, sum_append_nat]

/-! ## The timed burn -/

/-- The reserve was charged, as far as it went, and the burn noted. -/
structure Charged (reserve : Address) (charge : ℕ) (s s' : AccountState T) : Prop where
  tokenomics : s'.tokenomics = s.tokenomics
  balance : ∀ a, s'.getBalance a = s.getBalance a - if a = reserve then charge else 0
  total : s.timedBurn.totalBurned ≤ u64Max → s'.timedBurn.totalBurned =
    satAdd u64Max s.timedBurn.totalBurned (s.getBalance reserve - s'.getBalance reserve)

variable {reserve : Address} {charge charge' genesis : ℕ}

lemma Charged.trans (h : Charged reserve charge s m) (h' : Charged reserve charge' m s') :
    Charged reserve (charge + charge') s s' where
  tokenomics := h'.tokenomics.trans h.tokenomics
  balance a := by
    rw [h'.balance, h.balance]
    split_ifs
    · exact Nat.sub_sub ..
    · rfl
  total ht := by
    have hfirst := h.total ht
    have hsecond := h'.total
    have hm := h.balance reserve
    have hs' := h'.balance reserve
    unfold satAdd at *
    omega

lemma Charged.nothing : Charged reserve 0 s s := ⟨rfl, by simp, by simp [satAdd]⟩

lemma charged_burnYears {perYear : ℕ} (n total : ℕ) :
    wp (burnYears reserve perYear n total : Exec (AccountState T) ε ℕ)
      (fun _ => Charged reserve (perYear * n) s) (fun _ _ => False) s := by
  induction n generalizing s total with
  | zero => exact .nothing
  | succ n ih =>
    unfold burnYears burnFrom
    split_ifs with hzero
    · rw [hzero, zero_mul]
      exact .nothing
    simp only [wp_rules, wp_accounts, wp_ite, ← getBalance_eq]
    generalize hm : s.setAccount reserve _ = m
    have hkept : m.tokenomics = s.tokenomics ∧ m.timedBurn = s.timedBurn := hm ▸ ⟨rfl, rfl⟩
    have hturn : ∀ a, m.getBalance a = s.getBalance a - if a = reserve then perYear else 0 := by
      intro a
      rw [← hm, getBalance_eq, account_setAccount]
      split_ifs with ha
      · show _ - min _ _ = _
        rw [ha]
        omega
      · rfl
    constructor
    · intro hempty
      -- the reserve was empty before the turn
      refine ⟨hkept.1, fun a => ?_, ?_⟩
      · rw [hturn]
        split_ifs with ha
        · rw [ha]
          omega
        · rfl
      · rw [hkept.2, hturn, if_pos rfl]
        unfold satAdd
        omega
    · intro _
      refine wp_imp (ih _) fun _ s' hrest => ?_
      rw [mul_succ, add_comm]
      refine .trans ?_ hrest
      refine ⟨hkept.1, hturn, fun _ => ?_⟩
      change satAdd u64Max m.timedBurn.totalBurned _ = satAdd _ _ (_ - m.getBalance reserve)
      rw [hkept.2, hturn, if_pos rfl]
      congr 1
      omega

def dueAt (s : AccountState T) (genesis epoch : ℕ) : ℕ :=
  TimedBurnState.dueYears genesis epoch s.tokenomics.epochsPerYear

def burnAt (genesis : ℕ) (reserve : Address) (s : AccountState T) (epoch : ℕ) : AccountState T :=
  ((processTimedBurn genesis reserve : Exec (AccountState T) Empty ℕ).run
    { s with epochIndex := epoch }).2

/-- What the timed burn has done once an epoch is reached. -/
def BurnedUpTo (genesis : ℕ) (reserve : Address) (epoch : ℕ) (s s' : AccountState T) : Prop :=
  Charged reserve
      (s.tokenomics.annualBurnAmount * (s.dueAt genesis epoch - s.timedBurn.yearsBurned)) s s' ∧
    s'.timedBurn.yearsBurned = max s.timedBurn.yearsBurned (s.dueAt genesis epoch)

lemma burnedUpTo_burnAt (epoch : ℕ) :
    BurnedUpTo genesis reserve epoch s (burnAt genesis reserve s epoch) := by
  apply wp_snd.mp
  unfold processTimedBurn processDueTimedBurn BurnedUpTo
  rw [wp_bind, wp_read, wp_bind, wp_read, wp_ite]
  constructor
  · intro hnone
    change s.dueAt genesis epoch ≤ s.timedBurn.yearsBurned at hnone
    rw [max_eq_left hnone, Nat.sub_eq_zero_of_le hnone]
    have h := @Charged.nothing T s reserve
    exact ⟨⟨rfl, h.balance, h.total⟩, rfl⟩
  · intro hdue
    change ¬ s.dueAt genesis epoch ≤ s.timedBurn.yearsBurned at hdue
    rw [max_eq_right (Nat.le_of_not_le hdue), wp_bind]
    refine wp_mono (charged_burnYears _ _) (fun _ m h => ?_) fun _ _ h => h.elim
    exact ⟨⟨h.tokenomics, h.balance, h.total⟩, rfl⟩

/-- Charging in steps is charging at once. -/
lemma burnedUpTo_foldl (epochs : List ℕ) {last : ℕ} (hlast : ∀ epoch ∈ epochs, epoch ≤ last) :
    BurnedUpTo genesis reserve last s ((epochs ++ [last]).foldl (burnAt genesis reserve) s) := by
  induction epochs generalizing s with
  | nil => exact burnedUpTo_burnAt last
  | cons epoch epochs ih =>
    obtain ⟨hfirst, hyears⟩ := @burnedUpTo_burnAt T s reserve genesis epoch
    obtain ⟨hrest, hdone⟩ := @ih (burnAt genesis reserve s epoch) fun e he => hlast e (by simp [he])
    have hboth := hfirst.trans hrest
    have hle : s.dueAt genesis epoch ≤ s.dueAt genesis last := by
      unfold dueAt TimedBurnState.dueYears
      split_ifs
      · exact le_rfl
      · exact Nat.div_le_div_right (Nat.sub_le_sub_right (hlast epoch (by simp)) _)
    have hdue : (burnAt genesis reserve s epoch).dueAt genesis last = s.dueAt genesis last := by
      rw [dueAt, hfirst.tokenomics, dueAt]
    rw [hdue, hfirst.tokenomics, hyears, ← mul_add] at hboth
    rw [hdue, hyears, max_assoc, max_eq_right hle] at hdone
    have hsum : s.dueAt genesis epoch - s.timedBurn.yearsBurned + (s.dueAt genesis last -
        max s.timedBurn.yearsBurned (s.dueAt genesis epoch)) =
          s.dueAt genesis last - s.timedBurn.yearsBurned := by omega
    rw [hsum] at hboth
    exact ⟨hboth, hdone⟩

/-- The timed burn over weakly increasing epochs: what it leaves depends on the last of them
only, every elapsed year is charged once, and the noted total grows by what the reserve loses
exactly if it does not reach the limit of a `u64`. -/
theorem timed_burn_run {epochs : List ℕ} {last : ℕ}
    (hepochs : (epochs ++ [last]).Pairwise (· ≤ ·)) (ht : s.timedBurn.totalBurned ≤ u64Max)
    {s' : AccountState T} (hs' : (epochs ++ [last]).foldl (burnAt genesis reserve) s = s') :
    (s'.getBalance = (burnAt genesis reserve s last).getBalance ∧
      s'.timedBurn = (burnAt genesis reserve s last).timedBurn) ∧
    s'.timedBurn.yearsBurned = max s.timedBurn.yearsBurned (s.dueAt genesis last) ∧
    (∀ a, s'.getBalance a = s.getBalance a - if a = reserve then
      s.tokenomics.annualBurnAmount * (s.dueAt genesis last - s.timedBurn.yearsBurned) else 0) ∧
    (s'.timedBurn.totalBurned + s'.getBalance reserve =
        s.timedBurn.totalBurned + s.getBalance reserve ↔
      s.timedBurn.totalBurned + (s.getBalance reserve - s'.getBalance reserve) ≤ u64Max) := by
  have hlast : ∀ epoch ∈ epochs, epoch ≤ last := fun epoch hmem =>
    (pairwise_append.mp hepochs).2.2 epoch hmem last (mem_singleton_self _)
  obtain ⟨hrun, hyears⟩ : BurnedUpTo genesis reserve last s s' :=
    hs' ▸ burnedUpTo_foldl epochs hlast
  obtain ⟨honce, honceYears⟩ := @burnedUpTo_burnAt T s reserve genesis last
  have hbalance : s'.getBalance = (burnAt genesis reserve s last).getBalance :=
    funext fun a => (hrun.balance a).trans (honce.balance a).symm
  have hext : ∀ b b' : TimedBurnState, b.yearsBurned = b'.yearsBurned →
      b.totalBurned = b'.totalBurned → b = b' := by
    rintro ⟨y, t⟩ ⟨y', t'⟩ hy ht
    cases hy
    cases ht
    rfl
  refine ⟨⟨hbalance, hext _ _ (hyears.trans honceYears.symm) ?_⟩, hyears, hrun.balance, ?_⟩
  · rw [hrun.total ht, hbalance, honce.total ht]
  · have hreserve := hrun.balance reserve
    rw [hrun.total ht]
    unfold satAdd
    omega

/-- A year burns four millions. -/
theorem timed_burn_run_two_years :
    let s := point.setAccount ⟨1⟩ (Account.withBalance ⟨1⟩ 9000000000000)
    let s' := [1500, 2500].foldl (burnAt 0 ⟨1⟩) s
    s'.timedBurn.yearsBurned = 2 ∧ s'.getBalance ⟨1⟩ = 1000000000000 := by
  intro s s'
  obtain ⟨-, hyears, hbalance, -⟩ :=
    @timed_burn_run _ s ⟨1⟩ 0 [1500] 2500 (by decide) (by decide) s' rfl
  exact ⟨hyears.trans (by decide), (hbalance ⟨1⟩).trans (by decide +kernel)⟩

/-- The reserve loses five units and the saturated total does not grow. -/
theorem saturated_burn_not_noted :
    let s := { point.setAccount ⟨1⟩ (Account.withBalance ⟨1⟩ 5) with timedBurn := ⟨0, u64Max⟩ }
    s.getBalance ⟨1⟩ = 5 ∧ (burnAt 0 ⟨1⟩ s 1000).getBalance ⟨1⟩ = 0 ∧
      (burnAt 0 ⟨1⟩ s 1000).timedBurn.totalBurned = s.timedBurn.totalBurned := by
  decide +kernel

end AccountState

end Budlum
