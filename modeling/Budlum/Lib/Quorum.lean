import Mathlib

/-!
# Weighted quorums over a list of members

A quorum is given by a predicate on the members of one list: the members that
support a decision. Two quorums over the same list overlap by
inclusion-exclusion, and the overlap inherits whatever the two of them hold
beyond the whole. Counting members is the special case of unit weights.
-/

namespace Quorum

variable {α : Type*}

def weight (w : α → ℕ) (l : List α) : ℕ := (l.map w).sum

@[simp] lemma weight_nil (w : α → ℕ) : weight w [] = 0 := rfl

@[simp] lemma weight_cons (w : α → ℕ) (x : α) (l : List α) :
    weight w (x :: l) = w x + weight w l := by
  simp [weight]

lemma weight_one (l : List α) : weight (fun _ => 1) l = l.length := by
  induction l with
  | nil => rfl
  | cons x l ih => rw [weight_cons, ih, List.length_cons]; omega

/-- Inclusion-exclusion: what two quorums hold together, counted twice where
they overlap, is at most the whole plus the overlap. -/
lemma weight_filter_add_le (w : α → ℕ) (p q : α → Bool) (l : List α) :
    weight w (l.filter p) + weight w (l.filter q) ≤
      weight w l + weight w (l.filter fun x => p x && q x) := by
  induction l with
  | nil => simp
  | cons x l ih =>
    cases hp : p x <;> cases hq : q x <;>
      simp only [List.filter_cons, hp, hq, Bool.and_true, Bool.and_false,
        Bool.false_eq_true, if_true, if_false, weight_cons] <;>
      omega

/-- Two quorums of more than two thirds each overlap in more than one third. -/
lemma third_lt_overlap {w : α → ℕ} {p q : α → Bool} {l : List α}
    (hp : 2 * weight w l < 3 * weight w (l.filter p))
    (hq : 2 * weight w l < 3 * weight w (l.filter q)) :
    weight w l < 3 * weight w (l.filter fun x => p x && q x) := by
  have h := weight_filter_add_le w p q l
  omega

lemma length_overlap {p q : α → Bool} {l : List α} {k : ℕ}
    (hp : k ≤ (l.filter p).length) (hq : k ≤ (l.filter q).length) :
    2 * k - l.length ≤ (l.filter fun x => p x && q x).length := by
  have h := weight_filter_add_le (fun _ => 1) p q l
  simp only [weight_one] at h
  omega

end Quorum
