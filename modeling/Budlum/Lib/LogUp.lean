import Mathlib

/-!
# Lookup arguments

A logarithmic-derivative lookup compares two sides of terms, each a tuple with a
multiplicity in a field. Away from the finitely many bad challenges it accepts when every
tuple has the same total multiplicity on the two sides, and that is what `Balanced` says.

Multiplicities live in the field, so a balance is one of counts only while neither side is
as long as the characteristic. A side whose multiplicities are not
confined to 0 and 1 balances without being the same collection of tuples.
-/

namespace LogUp

open List

variable {T F : Type*} [DecidableEq T]

def weight [AddCommMonoid F] (terms : List (T × F)) (t : T) : F :=
  (terms.map fun term => if term.1 = t then term.2 else 0).sum

/-- Every tuple is asked for as often as it is offered. -/
def Balanced [AddCommMonoid F] (demand supply : List (T × F)) : Prop :=
  ∀ t, weight demand t = weight supply t

section

variable [AddCommMonoid F]

@[simp] lemma weight_nil (t : T) : weight ([] : List (T × F)) t = 0 := rfl

@[simp] lemma weight_cons (term : T × F) (terms : List (T × F)) (t : T) :
    weight (term :: terms) t = (if term.1 = t then term.2 else 0) + weight terms t := by
  simp [weight]

lemma weight_eq_zero {terms : List (T × F)} {t : T}
    (h : ∀ m, (t, m) ∈ terms → m = 0) : weight terms t = 0 := by
  induction terms with
  | nil => rfl
  | cons term rest ih =>
    have hrest : weight rest t = 0 := ih fun m hm => h m (mem_cons_of_mem _ hm)
    by_cases hterm : term.1 = t
    · have hzero : term.2 = 0 := h term.2 (by rw [← hterm]; exact mem_cons_self ..)
      simp [hrest, hzero]
    · simp [hrest, hterm]

lemma balanced_iff {demand supply : List (T × F)} : Balanced demand supply ↔
      ∀ term ∈ demand ++ supply, weight demand term.1 = weight supply term.1 := by
  constructor
  · intro h term _
    exact h term.1
  · intro h t
    by_cases ht : ∃ m, (t, m) ∈ demand ++ supply
    · obtain ⟨m, hm⟩ := ht
      exact h (t, m) hm
    · push Not at ht
      have hnone : ∀ terms : List (T × F), (∀ m, (t, m) ∉ terms) → weight terms t = 0 :=
        fun terms hterms => weight_eq_zero fun m hm => absurd hm (hterms m)
      rw [hnone demand fun m hm => ht m (mem_append_left _ hm),
        hnone supply fun m hm => ht m (mem_append_right _ hm)]

instance [DecidableEq F] (demand supply : List (T × F)) : Decidable (Balanced demand supply) :=
  decidable_of_iff _ balanced_iff.symm

end

/-! ## Multiplicities of 0 and 1 -/

section

variable [NonAssocSemiring F] [DecidableEq F]

/-- Every multiplicity is 0 or 1. -/
def Plain (terms : List (T × F)) : Prop := ∀ term ∈ terms, term.2 = 0 ∨ term.2 = 1

/-- The tuples that count. -/
def live (terms : List (T × F)) : List T := (terms.filter fun term => term.2 ≠ 0).map Prod.fst

variable {terms : List (T × F)}

omit [DecidableEq T] in
lemma mem_live {t : T} : t ∈ live terms ↔ ∃ m, (t, m) ∈ terms ∧ m ≠ 0 := by
  simp [live]

omit [DecidableEq T] in
lemma length_live_le (terms : List (T × F)) : (live terms).length ≤ terms.length := by
  rw [live, length_map]
  exact length_filter_le ..

lemma weight_eq_count (h : Plain terms) (t : T) :
    weight terms t = ((live terms).count t : F) := by
  induction terms with
  | nil => simp [live]
  | cons term rest ih =>
    have hrest := ih fun other hother => h other (mem_cons_of_mem _ hother)
    rw [weight_cons, hrest]
    rcases h term (mem_cons_self ..) with hzero | hone
    · simp [live, hzero]
    · by_cases hnontrivial : (1 : F) = 0
      · -- In the trivial ring every count is 0.
        have hsub : Subsingleton F := subsingleton_of_zero_eq_one hnontrivial.symm
        exact Subsingleton.elim _ _
      · by_cases hterm : term.1 = t
        · simp [live, hone, hnontrivial, hterm, add_comm]
        · simp [live, hone, hnontrivial, hterm]

end

section

variable [NonAssocRing F] [DecidableEq F] {p : ℕ} [CharP F p]

lemma Balanced.exists_supply {demand supply : List (T × F)} (h : Balanced demand supply)
    (hdemand : Plain demand) (hd : demand.length < p) {t : T} (ht : t ∈ live demand) :
    ∃ m, (t, m) ∈ supply ∧ m ≠ 0 := by
  by_contra hnone
  push Not at hnone
  have hzero : ((live demand).count t : F) = ((0 : ℕ) : F) := by
    rw [← weight_eq_count hdemand, h t, weight_eq_zero hnone, Nat.cast_zero]
  have hlt : (live demand).count t < p :=
    count_le_length.trans_lt ((length_live_le demand).trans_lt hd)
  have hcount : (live demand).count t = 0 :=
    CharP.natCast_injOn_Iio F p hlt (Nat.zero_lt_of_lt hlt) hzero
  exact count_eq_zero.mp hcount ht

end

end LogUp
