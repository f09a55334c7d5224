import Mathlib

/-!
# Delivery in order

A buffer holds items at positions and delivers them in order: what it holds without
a gap from the next position on is `ready`. Items may arrive in any order; what has
been delivered and what is ready next is always what was ready from the start.
-/

namespace Reorder

open Nat

variable {α : Type*} {q q' : ℕ → Option α} {p n : ℕ} {a : α} {l l' : List α}

/-- What the buffer holds without a gap from position `p` on, at most `n` items. -/
def ready (q : ℕ → Option α) : ℕ → ℕ → List α
  | 0, _ => []
  | n + 1, p =>
    match q p with
    | none => []
    | some a => a :: ready q n (p + 1)

lemma ready_of_none (n : ℕ) (h : q p = none) : ready q n p = [] := by
  cases n with
  | zero => rfl
  | succ n => rw [ready, h]

lemma ready_of_some (n : ℕ) (h : q p = some a) : ready q (n + 1) p = a :: ready q n (p + 1) := by
  rw [ready, h]

/-- The items of a list are held from position `p` on. -/
def Holds (q : ℕ → Option α) : ℕ → List α → Prop
  | _, [] => True
  | p, a :: l => q p = some a ∧ Holds q (p + 1) l

lemma holds_ready (q : ℕ → Option α) (n p : ℕ) : Holds q p (ready q n p) := by
  induction n generalizing p with
  | zero => trivial
  | succ n ih =>
    cases h : q p with
    | none => rw [ready_of_none _ h]; trivial
    | some a => rw [ready_of_some _ h]; exact ⟨h, ih (p + 1)⟩

lemma Holds.mono (hq : ∀ p a, q p = some a → q' p = some a) (h : Holds q p l) : Holds q' p l := by
  induction l generalizing p with
  | nil => trivial
  | cons a l ih => exact ⟨hq p a h.1, ih h.2⟩

lemma Holds.isSome (h : Holds q p l) {i : ℕ} (hle : p ≤ i) (hlt : i < p + l.length) :
    (q i).isSome := by
  induction l generalizing p with
  | nil => exact absurd hlt hle.not_gt
  | cons a l ih =>
    rcases eq_or_lt_of_le hle with rfl | hlt'
    · rw [h.1]; rfl
    · refine ih h.2 hlt' ?_
      rw [List.length_cons] at hlt
      omega

lemma Holds.append_ready (h : Holds q p l) (hle : l.length ≤ n) :
    l ++ ready q (n - l.length) (p + l.length) = ready q n p := by
  induction l generalizing p n with
  | nil => rfl
  | cons a l ih =>
    obtain ⟨n, rfl⟩ : ∃ m, n = m + 1 := ⟨n - 1, by rw [List.length_cons] at hle; omega⟩
    rw [ready_of_some n h.1, ← ih h.2 (Nat.le_of_succ_le_succ hle), List.length_cons,
      Nat.add_sub_add_right, Nat.add_right_comm, add_assoc p]
    rfl

lemma length_ready_le (q : ℕ → Option α) (n p : ℕ) : (ready q n p).length ≤ n := by
  induction n generalizing p with
  | zero => exact le_rfl
  | succ n ih =>
    cases h : q p with
    | none => rw [ready_of_none _ h]; exact zero_le _
    | some a => rw [ready_of_some _ h]; exact succ_le_succ (ih (p + 1))

lemma ready_mono (hq : ∀ p a, q p = some a → q' p = some a) (n p : ℕ) :
    ready q n p <+: ready q' n p := by
  have hheld := (holds_ready q n p).mono hq
  exact ⟨_, hheld.append_ready (length_ready_le q n p)⟩

lemma ready_eq (h : Holds q p l) (hle : l.length ≤ n) (hgap : q (p + l.length) = none) :
    ready q n p = l := by
  rw [← h.append_ready hle, ready_of_none _ hgap, List.append_nil]

end Reorder
