import Mathlib

/-!
# Numbers spelled in bits over a ring

An arithmetic circuit has no numbers, only ring elements, and works on a number through
elements that are its bits. Here a family of ring elements `Spells` a number, its weighted
sums are the number and its upper part, and the two recursions by which circuits compare
numbers (the run of agreeing bits from the top, and the sum over the places where the
numbers first differ) say what they are meant to.
-/

namespace FieldBits

open Nat

-- The library's instances under names, so that a small numeral is the same term in every module.
instance atLeastTwo_two : AtLeastTwo 2 := inferInstance
instance atLeastTwo_three : AtLeastTwo 3 := inferInstance
instance atLeastTwo_four : AtLeastTwo 4 := inferInstance
instance atLeastTwo_five : AtLeastTwo 5 := inferInstance

variable {R : Type*} [CommRing R]

/-- The truth of a proposition as a ring element. -/
def ind (q : Prop) [Decidable q] : R := if q then 1 else 0

@[simp] lemma ind_true {q : Prop} [Decidable q] (h : q) : (ind q : R) = 1 := if_pos h

@[simp] lemma ind_false {q : Prop} [Decidable q] (h : ¬q) : (ind q : R) = 0 := if_neg h

/-- The bits from `start` on, weighted by the powers of two. -/
def bitSum (bits : ℕ → R) (start width : ℕ) : R :=
  ∑ i ∈ Finset.range width, bits (start + i) * 2 ^ i

/-- 1 where two bits agree. -/
def agree (a b : R) : R := 1 - a - b + 2 * a * b

/-- The first `width` bits are those of the number. -/
def Spells (bits : ℕ → R) (width n : ℕ) : Prop := ∀ i < width, bits i = ind (n.testBit i)

lemma exists_spells [DecidableEq R] {bits : ℕ → R} {width : ℕ}
    (h : ∀ i < width, bits i = 0 ∨ bits i = 1) : ∃ n < 2 ^ width, Spells bits width n := by
  refine ⟨ofBits fun i : Fin width => decide (bits i = 1), ofBits_lt_two_pow _, ?_⟩
  intro i hi
  rw [testBit_ofBits_lt _ i hi]
  by_cases hone : bits i = 1
  · simp [ind, hone]
  · have hzero : bits i = 0 := (h i hi).resolve_right hone
    simp [ind, hzero]

lemma cast_toNat_testBit (n i : ℕ) : (((n.testBit i).toNat : ℕ) : R) = ind (n.testBit i) := by
  cases n.testBit i <;> simp [ind]

/-- The circuit's test for zero: a witness `w` that inverts `d` wherever `d` is not 0 makes
`d * w` the truth of `d ≠ 0`. -/
lemma mul_witness_eq [NoZeroDivisors R] [DecidableEq R] {d w : R} (h : d * (1 - d * w) = 0) :
    d * w = ind (d ≠ 0) := by
  by_cases hd : d = 0
  · simp [ind, hd]
  · have hone : 1 - d * w = 0 := (mul_eq_zero.mp h).resolve_left hd
    rw [ind_true hd]
    exact (sub_eq_zero.mp hone).symm

namespace Spells

variable {bits : ℕ → R} {width n : ℕ}

lemma bitSum_zero (h : Spells bits width n) :
    bitSum bits 0 width = ((n % 2 ^ width : ℕ) : R) := by
  induction width with
  | zero => simp [bitSum, mod_one]
  | succ width ih =>
    have hrest : bitSum bits 0 width = _ := ih fun i hi => h i (by omega)
    calc bitSum bits 0 (width + 1)
        = bitSum bits 0 width + bits width * 2 ^ width := by
          rw [bitSum, Finset.sum_range_succ, ← bitSum, zero_add]
      _ = ((n % 2 ^ width + 2 ^ width * (n.testBit width).toNat : ℕ) : R) := by
          rw [hrest, h width (by omega), cast_add, cast_mul, cast_toNat_testBit]
          push_cast
          ring
      _ = ((n % 2 ^ (width + 1) : ℕ) : R) := by
          rw [toNat_testBit, pow_succ, mod_mul]

lemma drop {start : ℕ} (h : Spells bits (start + width) n) :
    Spells (fun i => bits (start + i)) width (n / 2 ^ start) := by
  intro i hi
  show bits (start + i) = _
  rw [h (start + i) (by omega), testBit_div_two_pow, add_comm]

lemma bitSum_start {start : ℕ} (h : Spells bits (start + width) n) :
    bitSum bits start width = ((n / 2 ^ start % 2 ^ width : ℕ) : R) := by
  have hdrop := h.drop.bitSum_zero
  simpa [bitSum] using hdrop

lemma mono {width' : ℕ} (h : Spells bits width n) (hle : width' ≤ width) :
    Spells bits width' n := fun i hi => h i (by omega)

lemma land {bits' : ℕ → R} {n' : ℕ} (h : Spells bits width n) (h' : Spells bits' width n') :
    Spells (fun i => bits i * bits' i) width (n &&& n') := by
  intro i hi
  show bits i * bits' i = _
  rw [h i hi, h' i hi, testBit_and]
  cases n.testBit i <;> cases n'.testBit i <;> simp [ind]

end Spells

/-! ## Comparing from the top -/

section

variable (a b i : ℕ)

lemma div_two_pow_eq : a / 2 ^ i = 2 * (a / 2 ^ (i + 1)) + (a.testBit i).toNat := by
  rw [Nat.toNat_testBit, pow_succ, ← Nat.div_div_eq_div_mul]
  omega

lemma ind_eq_step : (ind (a / 2 ^ i = b / 2 ^ i) : R) =
      ind (a / 2 ^ (i + 1) = b / 2 ^ (i + 1)) * agree (ind (a.testBit i)) (ind (b.testBit i)) := by
  rw [div_two_pow_eq a i, div_two_pow_eq b i]
  by_cases hrest : a / 2 ^ (i + 1) = b / 2 ^ (i + 1)
  · rw [hrest]
    cases a.testBit i <;> cases b.testBit i <;> simp [ind, agree]
    ring
  · have hne : 2 * (a / 2 ^ (i + 1)) + (a.testBit i).toNat
        ≠ 2 * (b / 2 ^ (i + 1)) + (b.testBit i).toNat := by
      have ha := (a.testBit i).toNat_lt
      have hb := (b.testBit i).toNat_lt
      omega
    simp [hrest, hne]

lemma ind_lt_step : (ind (a / 2 ^ i < b / 2 ^ i) : R) - ind (a / 2 ^ (i + 1) < b / 2 ^ (i + 1)) =
      ind (a / 2 ^ (i + 1) = b / 2 ^ (i + 1)) * (1 - ind (a.testBit i)) * ind (b.testBit i) := by
  rw [div_two_pow_eq a i, div_two_pow_eq b i]
  rcases lt_trichotomy (a / 2 ^ (i + 1)) (b / 2 ^ (i + 1)) with hlt | heq | hgt
  · have hlow : 2 * (a / 2 ^ (i + 1)) + (a.testBit i).toNat
        < 2 * (b / 2 ^ (i + 1)) + (b.testBit i).toNat := by
      have ha := (a.testBit i).toNat_lt
      omega
    simp [hlt, hlow, hlt.ne]
  · rw [heq]
    cases a.testBit i <;> cases b.testBit i <;> simp [ind]
  · have hlow : ¬ 2 * (a / 2 ^ (i + 1)) + (a.testBit i).toNat
        < 2 * (b / 2 ^ (i + 1)) + (b.testBit i).toNat := by
      have hb := (b.testBit i).toNat_lt
      omega
    simp [hlow, hgt.ne', hgt.asymm]

lemma sum_ind_lt (width : ℕ) :
    ∑ i ∈ Finset.range width, (ind (a / 2 ^ (i + 1) = b / 2 ^ (i + 1)) * (1 - ind (a.testBit i))
        * ind (b.testBit i) : R) = ind (a < b) - ind (a / 2 ^ width < b / 2 ^ width) := by
  calc ∑ i ∈ Finset.range width, (ind (a / 2 ^ (i + 1) = b / 2 ^ (i + 1))
          * (1 - ind (a.testBit i)) * ind (b.testBit i) : R)
      = ∑ i ∈ Finset.range width, ((ind (a / 2 ^ i < b / 2 ^ i) : R)
          - ind (a / 2 ^ (i + 1) < b / 2 ^ (i + 1))) :=
        Finset.sum_congr rfl fun i _ => (ind_lt_step a b i).symm
    _ = ind (a / 2 ^ 0 < b / 2 ^ 0) - ind (a / 2 ^ width < b / 2 ^ width) :=
        Finset.sum_range_sub' (fun i => (ind (a / 2 ^ i < b / 2 ^ i) : R)) width
    _ = ind (a < b) - ind (a / 2 ^ width < b / 2 ^ width) := by
        simp only [pow_zero, Nat.div_one]

end

end FieldBits
