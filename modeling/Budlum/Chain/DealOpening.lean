import Budlum.Chain.DealRewards

/-!
# Opening a deal

`open_storage_deal_with_escrow` moves two balances before it registers the deal. A call that
is refused leaves every balance as it was; one that registers the deal takes the fee from the
payer and the bond from the operator.
-/

namespace Budlum

open Machine StorageEconomicsEvent Exec AccountState StorageRegistry Except

namespace StorageRegistry

lemma shard_of_checkDeal {M : StorageModules} {r : StorageRegistry} {req : DealRequest}
    {shard : ShardRef} (h : r.checkDeal M req = .ok shard) :
    req.manifest.shard req.shardId = some shard := by
  unfold checkDeal at h
  obtain ⟨proofBytes, -, h⟩ := bind_eq_ok.mp h
  obtain ⟨root, -, h⟩ := bind_eq_ok.mp h
  obtain ⟨_, -, h⟩ := bind_eq_ok.mp h
  split_ifs at h
  all_goals
    obtain ⟨_, -, h⟩ := bind_eq_ok.mp h
    split at h
    · cases h
    · split at h
      · rename_i found hfound
        rw [hfound, ok.inj h]
      · cases h

lemma openDeal_cases (M : StorageModules) (req : DealRequest) (r : StorageRegistry) :
    (∃ e, (openDeal M req).run r = (.error (.err e), r)) ∨
    (∃ r', (openDeal M req).run r = (.error .abort, r')) ∨
    ∃ shard r', req.manifest.shard req.shardId = some shard ∧
      (openDeal M req).run r = (.ok r.nextDealId, r') ∧
      r'.deals = (r.addDeal (dealOf req shard)).deals ∧ r'.nextDealId = r.nextDealId + 1 := by
  have hspec : wp (openDeal M req)
      (fun dealId r' => dealId = r.nextDealId ∧ ∃ shard,
        req.manifest.shard req.shardId = some shard ∧
        r'.deals = (r.addDeal (dealOf req shard)).deals ∧ r'.nextDealId = r.nextDealId + 1)
      (fun e r' => e ≠ .abort → r' = r) r := by
    unfold openDeal
    simp only [wp_rules, id_eq, nextDealId_registerManifest]
    refine ⟨fun shard hshard => ⟨fun _ habort => absurd rfl habort, fun _ => ⟨trivial, shard,
      shard_of_checkDeal hshard, ?_, ?_⟩⟩, fun _ _ _ => trivial⟩
    · show SortedMap.insert _ _ _ = _
      simp
    · show (r.registerManifest req.manifest).nextDealId + 1 = _
      rw [nextDealId_registerManifest]
  obtain ⟨hok, herr⟩ := wp_iff.mp hspec
  rcases hrun : (openDeal M req).run r with ⟨(e | _) | dealId, r'⟩
  · obtain rfl := herr _ _ hrun (by simp)
    exact .inl ⟨e, rfl⟩
  · exact .inr (.inl ⟨r', rfl⟩)
  · obtain ⟨rfl, shard, hshard, hdeals, hnext⟩ := hok _ _ hrun
    exact .inr (.inr ⟨shard, r', hshard, rfl, hdeals, hnext⟩)

end StorageRegistry

namespace StorageChain

variable {T : ModuleTypes} {M : StorageModules} {W : StorageTexts}
variable {c c' c'' : StorageChain T} {fair : Prop} {id : ℕ} {req : DealRequest} {payer : Address}

structure Moved (δ : Address → ℤ) (c c' : StorageChain T) : Prop where
  events : c'.storageEconomicsEvents = c.storageEconomicsEvents
  balance : ∀ a, (c'.balance a : ℤ) = c.balance a + δ a
  registry : c'.registry = c.registry
  cursors : c'.storageLastRewardEpoch = c.storageLastRewardEpoch

variable {δ δ' : Address → ℤ}

lemma Moved.refl (c : StorageChain T) : Moved (fun _ => 0) c c :=
  ⟨rfl, fun _ => (add_zero _).symm, rfl, rfl⟩

lemma Moved.congr (h : Moved δ c c') (heq : ∀ a, δ a = δ' a) : Moved δ' c c' :=
  { h with balance := fun a => by rw [← heq]; exact h.balance a }

lemma Moved.quiet (h : Moved δ c c') (hzero : ∀ a, δ a = 0) : Quiet c c' where
  events := h.events
  balance a := by
    have hmoved := h.balance a
    rw [hzero, add_zero] at hmoved
    exact Int.ofNat_inj.mp hmoved
  deals := congrArg deals h.registry
  nextDealId := congrArg nextDealId h.registry
  cursors := h.cursors

lemma Moved.shift {s : AccountState T.storing} {a : Address} {n : ℤ} (h : Moved δ c c')
    (hs : AccountState.Shifted a n c'.state s) :
    Moved (fun b => δ b + if b = a then n else 0) c (c'.withState s) where
  events := h.events
  balance b := by
    have hmoved : ((c'.withState s).balance b : ℤ) = c'.balance b + if b = a then n else 0 :=
      hs.balance b
    rw [hmoved, h.balance, add_assoc]
  registry := Eq.trans hs.storageRegistry h.registry
  cursors := h.cursors

def taken (req : DealRequest) (payer a : Address) : ℤ :=
  -((if a = payer then escrowFee req else 0) +
    (if a = req.operator then req.economics.operatorBond else 0) : ℕ)

variable {Q : Unit → StorageChain T → Prop} {E : Stop String → StorageChain T → Prop}

lemma wp_escrow
    (hok : ∀ c', Moved (fun a => if a = payer then -(escrowFee req : ℤ) else 0) c c' → Q () c')
    (herr : ∀ e c', Quiet c c' → E e c') : wp (escrow req payer) Q E c := by
  unfold escrow
  rw [wp_onlyIf]
  refine ⟨fun _ => ?_, fun hzero => ?_⟩
  · rw [wp_bind, wp_read, wp_bind, wp_failIf]
    refine ⟨fun _ => herr _ c (Quiet.refl c), fun hfunds => ?_⟩
    rw [wp_onAccounts]
    refine wp_debitBalance (not_lt.mp hfunds) fun s hs => hok _ ?_
    exact ((Moved.refl c).shift hs).congr fun a => zero_add _
  · refine hok c ((Moved.refl c).congr fun a => ?_)
    have hfee : escrowFee req = 0 := Nat.eq_zero_of_not_pos hzero
    simp [hfee]

lemma wp_lockBond (hranged : c.Ranged)
    (hescrow : Moved (fun a => if a = payer then -(escrowFee req : ℤ) else 0) c c')
    (hok : ∀ c'', Moved (taken req payer) c c'' → Q () c'')
    (herr : ∀ e c'', Quiet c c'' → E e c'') : wp (lockBond req payer) Q E c' := by
  unfold lockBond
  rw [wp_onlyIf]
  refine ⟨fun _ => ?_, fun hzero => hok c' ?_⟩
  · rw [wp_bind, wp_read, wp_bind, wp_onlyIf]
    refine ⟨fun _ => ?_, fun hfunds => ?_⟩
    · rw [wp_bind, wp_onlyIf]
      refine ⟨fun _ => ?_, fun hzero => herr _ c' (hescrow.quiet fun a => ?_)⟩
      · rw [wp_onAccounts]
        refine wp_tryAddBalance_shifted
          (fun s hs _ => herr _ _ ((hescrow.shift hs).quiet fun a => ?_)) fun e s _ hover => ?_
        · split_ifs <;> omega
        · have hmoved : (c'.state.getBalance payer : ℤ) = _ := hescrow.balance payer
          have hle := hranged payer
          rw [if_pos rfl] at hmoved
          omega
      · have hfee : escrowFee req = 0 := Nat.eq_zero_of_not_pos hzero
        simp [hfee]
    · rw [wp_onAccounts]
      refine wp_debitBalance (not_lt.mp hfunds) fun s hs => hok _ ?_
      refine (hescrow.shift hs).congr fun a => ?_
      unfold taken
      split_ifs <;> omega
  · have hbond : req.economics.operatorBond = 0 := Nat.eq_zero_of_not_pos hzero
    refine hescrow.congr fun a => ?_
    rw [taken, hbond]
    split_ifs <;> omega

lemma wp_refund (hranged : c.Ranged) (htaken : Moved (taken req payer) c c')
    (hok : ∀ c'', Quiet c c'' → Q () c'') : wp (refund req payer) Q E c' := by
  have hbond : ∀ c'', Moved (fun a => if a = req.operator then
      -(req.economics.operatorBond : ℤ) else 0) c c'' → wp
      (onlyIf (0 < req.economics.operatorBond)
        (onAccounts (fun e => s!"deal bond refund overflow: {e}")
          (tryAddBalance req.operator req.economics.operatorBond))) Q E c'' := by
    intro c'' h
    rw [wp_onlyIf, wp_onAccounts]
    refine ⟨fun _ => wp_tryAddBalance_shifted
      (fun s hs _ => hok _ ((h.shift hs).quiet fun a => ?_)) fun e s _ hover => ?_,
      fun hzero => hok c'' (h.quiet fun a => ?_)⟩
    · split_ifs <;> omega
    · have hmoved : (c''.state.getBalance req.operator : ℤ) = _ := h.balance req.operator
      have hle := hranged req.operator
      rw [if_pos rfl] at hmoved
      omega
    · rw [Nat.eq_zero_of_not_pos hzero]
      simp
  unfold refund
  rw [wp_bind, wp_onlyIf, wp_onAccounts]
  refine ⟨fun _ => wp_tryAddBalance_shifted (fun s hs _ => hbond _ ?_)
    fun e s _ hover => ?_, fun hzero => hbond c' ?_⟩
  · refine (htaken.shift hs).congr fun a => ?_
    unfold taken
    split_ifs <;> omega
  · have hmoved : (c'.state.getBalance payer : ℤ) = _ := htaken.balance payer
    have hle := hranged payer
    rw [taken, if_pos rfl] at hmoved
    omega
  · refine htaken.congr fun a => ?_
    rw [taken, Nat.eq_zero_of_not_pos hzero]
    split_ifs <;> omega

/-- A deal was registered, and its fee and bond taken. -/
structure Opened (req : DealRequest) (payer : Address) (c c' : StorageChain T) : Prop where
  deals : ∃ shard, req.manifest.shard req.shardId = some shard ∧
    c'.registry.deals = (c.registry.addDeal (dealOf req shard)).deals
  nextDealId : c'.registry.nextDealId = c.registry.nextDealId + 1
  events : c'.storageEconomicsEvents = c.storageEconomicsEvents
  balance : ∀ a, (c'.balance a : ℤ) = c.balance a + taken req payer a
  cursors : c'.storageLastRewardEpoch = c.storageLastRewardEpoch

lemma opened_or_quiet (hranged : c.Ranged) : Returns (openStorageDealWithEscrow M W req payer)
      (fun c' => Quiet c c' ∨ Opened req payer c c') c := by
  unfold Returns openStorageDealWithEscrow
  rw [wp_bind, wp_read, wp_bind, wp_ofExcept]
  refine ⟨fun _ _ => ?_, fun _ _ _ => .inl (Quiet.refl c)⟩
  rw [wp_bind]
  refine wp_escrow (fun c₁ hescrow => ?_) fun _ _ hquiet _ => .inl hquiet
  rw [wp_bind]
  refine wp_lockBond hranged hescrow (fun c₂ htaken => ?_) fun _ _ hquiet _ => .inl hquiet
  rw [wp_bind]
  rcases openDeal_cases M req c₂.registry with
    ⟨e, hrun⟩ | ⟨r, hrun⟩ | ⟨shard, r, hshard, hrun, hdeals, hnext⟩
  · rw [wp_onRegistry_err hrun]
    dsimp only
    rw [wp_bind]
    exact wp_refund hranged htaken fun _ hquiet _ => .inl hquiet
  · rw [wp_onRegistry_abort hrun]
    exact fun habort => absurd rfl habort
  · rw [wp_onRegistry_ok hrun]
    have hopened : Opened req payer c (c₂.withRegistry r) := by
      rw [htaken.registry] at hdeals hnext
      exact ⟨⟨shard, hshard, hdeals⟩, hnext, htaken.events, htaken.balance, htaken.cursors⟩
    exact (ReadOnly.bind readOnly_persistStorageRegistry fun _ => .pure).wp_of
      (fun _ => .inr hopened) fun _ _ => .inr hopened

end StorageChain

end Budlum
