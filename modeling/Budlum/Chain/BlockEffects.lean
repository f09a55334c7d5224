import Budlum.Chain.Blockchain
import Budlum.Execution.Validation

/-!
# What a block does to the account state

`apply_block_effects`, one map from a state, a block and the chain before it, which
every path that replays a block calls, and the transaction loop with which
`validate_and_add_block` looks at a block first.
-/

namespace Budlum

open Machine Exec List

variable {T : ModuleTypes} (M : ChainModules T)

def AccountState.applySlashing (s : AccountState T) (evidences : List (SlashingEvidence T))
    (slashRatioFixed : ℕ) : AccountState T :=
  evidences.foldl
    (fun s evidence => match evidence.header1.producer with
      | some producer => (s.slashValidator M.toEpochModules producer slashRatioFixed).2
      | none => s)
    s

namespace Blockchain

/-! ## The transaction loop -/

def admitTransaction (block : Block T) (i : ℕ) (tx : Transaction T) :
    Exec (AccountState T) String Unit := do
  failIf (tx.chainId ≠ block.chainId)
    (s!"Invalid transaction at index {i}: Chain ID mismatch. Expected {block.chainId}, " ++
      s!"got {tx.chainId}")
  failIf (0 < block.index ∧ tx.sender = Address.zero)
    (s!"Invalid transaction at index {i}: " ++
      "'genesis' transactions only allowed in genesis block")
  if 0 < block.index then
    let verdict ← read fun s => s.validateTransaction M.toModules tx
    ofExcept (fun e => s!"Invalid transaction at index {i}: {e}") verdict
  else pure ()
  mapError (fun e => s!"Failed to apply transaction at index {i}: {M.errorText e}")
    (Executor.applyTransactionChecked M.toModules tx)

/-- The transaction loop of `validate_and_add_block`, from index `i` on. -/
def admitTransactions (block : Block T) : ℕ → List (Transaction T) →
    Exec (AccountState T) String Unit
  | _, [] => pure ()
  | i, tx :: rest => do
      admitTransaction M block i tx
      admitTransactions block (i + 1) rest

/-! ## System effects -/

def adjustBaseFee (s : AccountState T) (txCount : ℕ) : AccountState T :=
  if 50 < txCount then
    { s with baseFee := min (satAdd u64Max s.baseFee (s.baseFee / 8)) 10000000 }
  else if txCount < 50 then { s with baseFee := max (s.baseFee - s.baseFee / 8) 1 }
  else s

def ClosesEpoch (block : Block T) : Prop :=
  0 < block.index ∧ epochLenForChainId block.chainId ∣ block.index

instance (block : Block T) : Decidable (ClosesEpoch block) := inferInstanceAs (Decidable (_ ∧ _))

/-- The slashes that a block's evidence asks for. -/
def slashOffenders (s : AccountState T) (block : Block T) : AccountState T :=
  match block.slashingEvidence with
  | some evidences => s.applySlashing M evidences (M.doubleSignRatio s.registry)
  | none => s

def applySystemEffects (s : AccountState T) (block : Block T) : AccountState T :=
  let s := slashOffenders M s block
  let s := if ClosesEpoch block then
      s.advanceEpoch M.toEpochModules block.timestamp block.chainId
    else s
  if 0 < block.index then adjustBaseFee s block.transactions.length else s

/-- A validator after a report of absence. Its stake is left to the registry. -/
def absent (jailUntil : ℕ) (v : Validator) : Validator :=
  { v with slashed := true, active := false, jailed := true, jailUntil }

def punishAbsence (jailUntil : ℕ) (s : AccountState T) (report : LivenessReport T) :
    AccountState T :=
  let s := { s with registry := M.slashFromReport report s.registry }
  match s.getValidator report.offender with
  | some v =>
    if v.slashed then s
    else { s with validators := s.validators.insert report.offender (absent jailUntil v) }
  | none => s

def applyEpochCloseLiveness (s : AccountState T) (block : Block T)
    (precedingChain : List (Block T)) : AccountState T :=
  if ClosesEpoch block then
    let epochLength := epochLenForChainId block.chainId
    let closedEpoch := block.index / epochLength - 1
    let participated :=
      (precedingChain.reverse.take (epochLength - 1)).filterMap Block.producer ++
        block.producer.toList
    let expected := s.validators.keys.filter fun a => M.isActive s.registry a .validator
    let recorded := M.recordEpoch closedEpoch expected (fun a => decide (a ∈ participated))
      s.registry s.liveness
    let jailUntil := satAdd u64Max s.epochIndex M.livenessJailEpochs
    let enabled := M.livenessSlashingEnabled s.registry
    let s := { s with liveness := recorded.2 }
    if enabled then recorded.1.foldl (punishAbsence M jailUntil) s else s
  else s

/-! ## Content and boosts -/

/-- `collect_nft_burn_cids_from_state`, without the owners that nothing reads. -/
def collectNftBurnCids (s : AccountState T) (block : Block T) : List Hash32 :=
  block.transactions.filterMap fun tx =>
    match tx.txType with
    | .nftBurn =>
      match M.decodeNftBurn tx.data with
      | .ok nftId => (s.nftRegistry.getNft nftId).map Nft.contentId
      | .error _ => none
    | _ => none

def pruneBurned (s : AccountState T) (burnCids : List Hash32) : AccountState T :=
  { s with storageRegistry :=
      burnCids.foldl (fun r cid => M.pruneContent cid s.epochIndex r) s.storageRegistry }

/-- The shares of the operators, in order, and what has been distributed. -/
def payOperators (boostShare totalWeight : ℕ) : ℕ → List (Address × ℕ) →
    Exec (AccountState T) String ℕ
  | distributed, [] => pure distributed
  | distributed, (operator, weight) :: rest => do
      let product ← ofOption "Boost distribution multiplication overflow"
        (checkedMul u64Max boostShare weight)
      let share := product / totalWeight
      if 0 < share then
        mapError (fun e => s!"Boost share overflow for {M.addressText operator}: {e}")
          (AccountState.tryAddBalance operator share)
        let distributed ← ofOption "Boost distribution total overflow"
          (checkedAdd u64Max distributed share)
        payOperators boostShare totalWeight distributed rest
      else payOperators boostShare totalWeight distributed rest

/-- Pay what the division left over to the first operator. -/
def payDust (dust : ℕ) (deals : List (Address × ℕ)) : Exec (AccountState T) String Unit :=
  if 0 < dust then do
    let operator ← ofOption "Boost distribution has no dust recipient"
      (deals.head?.map Prod.fst)
    mapError (fun e => s!"Boost dust overflow: {e}")
      (AccountState.tryAddBalance operator dust)
  else pure ()

def distributeBudBoostShareInState (boostShare : ℕ) : Exec (AccountState T) String Unit :=
  if boostShare = 0 then pure ()
  else do
    let deals ← read fun s => M.activeDeals s.storageRegistry
    let totalWeight := (deals.map Prod.snd).sum
    if totalWeight = 0 then
      modify fun s => { s with pendingBudBoostShare := 0 }
    else
      let distributed ← payOperators M boostShare totalWeight 0 deals
      payDust (boostShare - distributed) deals
      modify fun s => { s with pendingBudBoostShare := 0 }

/-! ## The whole block -/

/-- `apply_block_effects`: the state it is run in is the base state, the state it
leaves the one it returns. -/
def applyBlockEffects (block : Block T) (precedingChain : List (Block T)) :
    Exec (AccountState T) String Unit := do
  let burnCids ← read fun s => collectNftBurnCids M s block
  modify fun s => { s with currentBlockHeight := block.index }
  mapError (fun e => s!"Failed to apply block: {M.errorText e}")
    (Executor.applyBlockChecked M.toModules block.transactions block.producer)
  modify fun s => applySystemEffects M s block
  modify fun s => applyEpochCloseLiveness M s block precedingChain
  modify fun s => pruneBurned M s burnCids
  let _ ← applyBridgeSweepToState M.toModules block.index
  let boostShare ← read fun s => s.pendingBudBoostShare
  distributeBudBoostShareInState M boostShare

/-! ## The base fee -/

section

open AccountState

variable {s : AccountState T} {counts : List ℕ} {count : ℕ}

def feeAfter (s : AccountState T) (counts : List ℕ) : ℕ := (counts.foldl adjustBaseFee s).baseFee

lemma feeAfter_snoc : feeAfter s (counts ++ [count]) =
    if 50 < count then min (feeAfter s counts + feeAfter s counts / 8) 10000000
    else if count < 50 then max (feeAfter s counts - feeAfter s counts / 8) 1
    else feeAfter s counts := by
  have hmax : 10000000 ≤ u64Max := by decide
  rw [feeAfter, foldl_append]
  show (adjustBaseFee (counts.foldl adjustBaseFee s) count).baseFee = _
  unfold adjustBaseFee
  split_ifs
  · show min (min _ _) _ = min (_ + _) _
    rw [min_assoc, min_eq_right hmax]
    rfl
  · rfl
  · rfl

/-- Full blocks raise the fee until it is at the maximum. -/
def FeeRises (s : AccountState T) : Prop :=
  ∀ counts count, (∀ c ∈ counts ++ [count], 50 < c) → feeAfter s counts < 10000000 →
    feeAfter s counts < feeAfter s (counts ++ [count])

/-- Empty blocks lower it until it is 1. -/
def FeeFalls (s : AccountState T) : Prop :=
  ∀ n, 1 < feeAfter s (replicate n 0) →
    feeAfter s (replicate (n + 1) 0) < feeAfter s (replicate n 0)

/-- It stays where governance may set it. -/
def FeeBounded (s : AccountState T) : Prop :=
  ∀ counts, minTxFee ≤ feeAfter s counts ∧ feeAfter s counts ≤ maxBaseFee

lemma feeRises_iff : FeeRises s ↔ 8 ≤ s.baseFee := by
  constructor
  · intro h
    by_contra hlow
    have hstart : feeAfter s [] = s.baseFee := rfl
    have hup := h [] 51 (by simp) (by omega)
    rw [feeAfter_snoc, if_pos (by decide)] at hup
    omega
  · intro hlow
    have hkept : ∀ counts : List ℕ, (∀ c ∈ counts, 50 < c) → 8 ≤ feeAfter s counts := by
      intro counts hfull
      induction counts using reverseRecOn with
      | nil => exact hlow
      | append_singleton counts count ih =>
        have hle := ih fun c hc => hfull c (by simp [hc])
        rw [feeAfter_snoc, if_pos (hfull count (by simp))]
        omega
    intro counts count hfull hbelow
    have hle := hkept counts fun c hc => hfull c (by simp [hc])
    rw [feeAfter_snoc, if_pos (hfull count (by simp))]
    omega

lemma feeFalls_iff : FeeFalls s ↔ s.baseFee ≤ 1 := by
  have hstep : ∀ n, feeAfter s (replicate (n + 1) 0) = max (feeAfter s (replicate n 0) -
      feeAfter s (replicate n 0) / 8) 1 := by
    intro n
    rw [replicate_succ', feeAfter_snoc]
    rfl
  have hstart : feeAfter s (replicate 0 0) = s.baseFee := rfl
  constructor
  · intro h
    by_contra hhigh
    -- the fee never gets below 7, so it cannot fall at every block
    have hfall : ∀ n, min s.baseFee 7 ≤ feeAfter s (replicate n 0) ∧
        feeAfter s (replicate n 0) + n ≤ s.baseFee := by
      intro n
      induction n with
      | zero => omega
      | succ n ih =>
        have hlt := h n (by omega)
        rw [hstep] at hlt ⊢
        omega
    have hlast := hfall (s.baseFee + 1)
    omega
  · intro hlow n hhigh
    have hone : ∀ n, feeAfter s (replicate n 0) ≤ 1 := by
      intro n
      induction n with
      | zero => omega
      | succ n ih =>
        rw [hstep]
        omega
    exact absurd (hone n) hhigh.not_ge

lemma feeBounded_iff : FeeBounded s ↔ 1 ≤ s.baseFee ∧ s.baseFee < 8 := by
  constructor
  · intro h
    refine ⟨(h []).1, ?_⟩
    by_contra hhigh
    have hgrows : ∀ n, min (8 + n) 10000000 ≤ feeAfter s (replicate n 51) := by
      intro n
      induction n with
      | zero =>
        show _ ≤ s.baseFee
        omega
      | succ n ih =>
        rw [replicate_succ', feeAfter_snoc, if_pos (by decide)]
        omega
    have hpast := hgrows maxBaseFee
    have hbound := (h (replicate maxBaseFee 51)).2
    unfold maxBaseFee at hpast hbound
    omega
  · rintro ⟨hlow, hhigh⟩ counts
    have hsame : feeAfter s counts = s.baseFee := by
      induction counts using reverseRecOn with
      | nil => rfl
      | append_singleton counts count ih =>
        rw [feeAfter_snoc]
        split_ifs <;> omega
    rw [hsame, minTxFee, maxBaseFee]
    omega

/-- When the fee does what it is meant to: the step of an eighth is zero below 8, and the
maximum of the steps is ten times the one governance keeps to. -/
theorem base_fee_control_iff (s : AccountState T) : (FeeRises s ↔ 8 ≤ s.baseFee) ∧
    (FeeFalls s ↔ s.baseFee ≤ 1) ∧ (FeeBounded s ↔ 1 ≤ s.baseFee ∧ s.baseFee < 8) :=
  ⟨feeRises_iff, feeFalls_iff, feeBounded_iff⟩

theorem first_fee_stays : feeAfter AccountState.point [51] = feeAfter AccountState.point [] := by
  decide

end

end Blockchain

end Budlum
