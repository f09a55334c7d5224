import Budlum.Execution.LateFailure
import Budlum.Execution.Steps

/-!
# Execution stays in range

The `u64` fields of an account state hold `u64` values after every transaction, also
after one that failed on the way: a sum is checked before it is written, and what is
taken off a balance or a stake leaves less.
-/

namespace Budlum

open Machine Exec

namespace AccountState

variable {T : ModuleTypes}

lemma InRange.congr {s s' : AccountState T} (h : s.InRange)
    (hbalance : ∀ a, s'.getBalance a = s.getBalance a) (hvalidators : s'.validators = s.validators)
    (hshare : s'.pendingBudBoostShare = s.pendingBudBoostShare) : s'.InRange where
  balance a := (hbalance a).trans_le (h.balance a)
  stake a v hv := by
    unfold getValidator at hv
    rw [hvalidators] at hv
    exact h.stake a v hv
  pendingBudBoostShare := hshare ▸ h.pendingBudBoostShare

lemma InRange.insert {s : AccountState T} (h : s.InRange) (a : Address) {v : Validator}
    (hv : v.stake ≤ u64Max) :
    ({ s with validators := s.validators.insert a v } : AccountState T).InRange where
  balance := h.balance
  stake b w hw := by
    have hget : (s.validators.insert a v).get? b = some w := hw
    rw [SortedMap.get?_insert] at hget
    split_ifs at hget
    · cases hget
      exact hv
    · exact h.stake b w hget
  pendingBudBoostShare := h.pendingBudBoostShare

lemma InRange.steps :
    StepRel (fun s t : AccountState T => t = s ∧ s.InRange)
      (fun _ account => account.balance ≤ u64Max) (· ≤ u64Max) where
  recast := by
    rintro _ s ⟨rfl, -⟩
    exact ⟨s.ledger, ⟨_, _, _, _, _⟩, rfl⟩
  account := by
    rintro _ s ⟨rfl, -⟩ a
    rfl
  touch := by
    rintro _ s ⟨rfl, hs⟩ a
    exact ⟨rfl, hs.touch a⟩
  readable h a := h.2.balance a
  update hw _ _ hle := hle hw
  write := by
    rintro _ s ⟨rfl, hs⟩ a account hw
    refine ⟨rfl, fun b => ?_, hs.stake, hs.pendingBudBoostShare⟩
    rw [getBalance_setAccount]
    split_ifs
    · exact hw
    · exact hs.balance b
  flagKeys := by
    rintro _ s ⟨rfl, hs⟩
    exact ⟨rfl, hs.balance, hs.stake, hs.pendingBudBoostShare⟩
  stake h _ _ hv := h.2.stake _ _ hv
  bounded h := h
  lower h hle := hle.trans h
  validator := by
    rintro _ s ⟨rfl, hs⟩ a v hv
    exact ⟨rfl, hs.insert a hv⟩
  share := by
    rintro _ s ⟨rfl, hs⟩ share hshare
    exact ⟨rfl, hs.balance, hs.stake, hshare⟩
  beside := by
    rintro _ s ⟨rfl, hs⟩ f hf
    obtain ⟨-, hledger, hvalidators, hshare⟩ := hf s s.ledger ⟨[], [], [], [], []⟩
    exact ⟨rfl, hs.congr (Executor.getBalance_of_ledger hledger) hvalidators hshare⟩

end AccountState

lemma Executor.ranged_applyTransactionChecked {T : ModuleTypes} {M : Modules T}
    {tx : Transaction T} (ht : tx.InRange) :
    Preserves AccountState.InRange (applyTransactionChecked M tx) := by
  intro s hs
  have hleft := (AccountState.InRange.steps.applyTransactionChecked (M := M) ht.amount) s s ⟨rfl, hs⟩
  exact wp_snd.mpr hleft.2.2

end Budlum
