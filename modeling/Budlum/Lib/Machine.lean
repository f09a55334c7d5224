import Mathlib

/-!
# Machine integers over `ℕ`

An unsigned machine word is a natural number together with the largest value
`max` its type holds. The operations below are the two ways a program handles a
result that does not fit: report it (`checked`) or clamp it (`sat`). They are
stated for every `max`, so that one set of lemmas serves every width.

A plain operator aborts the process when it overflows. Where a result is about
that, the abort is an outcome (`Stop`); elsewhere the operator is the one of `ℕ`,
which is what a process that goes on computes.
-/

namespace Machine

open Nat

abbrev u64Max : ℕ := 2 ^ 64 - 1

abbrev u128Max : ℕ := 2 ^ 128 - 1

def checkedAdd (max a b : ℕ) : Option ℕ :=
  if a + b ≤ max then some (a + b) else none

def checkedSub (a b : ℕ) : Option ℕ :=
  if b ≤ a then some (a - b) else none

def checkedMul (max a b : ℕ) : Option ℕ :=
  if a * b ≤ max then some (a * b) else none

def satAdd (max a b : ℕ) : ℕ := min (a + b) max

def satMul (max a b : ℕ) : ℕ := min (a * b) max

/-- Clamped sum of a list, taken from the left as a loop takes it. -/
def satSum (max : ℕ) (start : ℕ) (xs : List ℕ) : ℕ :=
  xs.foldl (satAdd max) start

variable {max a b c : ℕ}

lemma checkedAdd_eq_some : checkedAdd max a b = some c ↔ a + b ≤ max ∧ c = a + b := by
  unfold checkedAdd
  split_ifs with h
  · simp [h, eq_comm]
  · simp [h]

lemma checkedAdd_eq_none : checkedAdd max a b = none ↔ max < a + b := by
  unfold checkedAdd
  split_ifs with h
  · simpa using h
  · simpa using h

lemma checkedSub_eq_some : checkedSub a b = some c ↔ b ≤ a ∧ c = a - b := by
  unfold checkedSub
  split_ifs with h
  · simp [h, eq_comm]
  · simp [h]

lemma le_of_checkedAdd (h : checkedAdd max a b = some c) : c ≤ max :=
  (checkedAdd_eq_some.mp h).2 ▸ (checkedAdd_eq_some.mp h).1

lemma le_of_checkedSub (h : checkedSub a b = some c) : c ≤ a :=
  (checkedSub_eq_some.mp h).2 ▸ sub_le a b

lemma checkedSub_eq_none : checkedSub a b = none ↔ a < b := by
  unfold checkedSub
  split_ifs with h
  · simpa using h
  · simpa using h

lemma satAdd_le_max (max a b : ℕ) : satAdd max a b ≤ max := min_le_right _ _

lemma satAdd_of_le (h : a + b ≤ max) : satAdd max a b = a + b :=
  min_eq_left h

lemma satMul_of_le (h : a * b ≤ max) : satMul max a b = a * b :=
  min_eq_left h

lemma satSum_eq : ∀ {start : ℕ} {xs : List ℕ}, start ≤ max →
    satSum max start xs = min (start + xs.sum) max
  | start, [], h => by simp [satSum, h]
  | start, x :: xs, h => by
      have ih : satSum max (satAdd max start x) xs = min (satAdd max start x + xs.sum) max :=
        satSum_eq (satAdd_le_max _ _ _)
      simp only [satSum, List.foldl_cons, List.sum_cons] at ih ⊢
      rw [ih]
      unfold satAdd
      omega

lemma satSum_le (max : ℕ) (xs : List ℕ) : satSum max 0 xs ≤ xs.sum := by
  rw [satSum_eq (zero_le _), zero_add]
  exact min_le_left _ _

lemma satSum_perm {start : ℕ} {xs ys : List ℕ} (h : start ≤ max)
    (hp : xs.Perm ys) : satSum max start xs = satSum max start ys := by
  rw [satSum_eq h, satSum_eq h, hp.sum_eq]

end Machine
