import Mathlib

/-!
# Square roots in fixed point

`fixed_sqrt` runs Newton's iteration on plain integers, at most forty times, and shifts the
result into fixed point. Every turn halves the distance to the root, and near the root it
squares the distance over the root, so that forty turns suffice for every `i64`.
-/

namespace Budlum.FixedPoint

def fixedFracBits : ℕ := 16

/-- The loop over `x` and `y`: Newton's step for as long as it goes down. -/
def sqrtLoop (v : ℕ) : ℕ → ℕ → ℕ → ℕ
  | 0, x, _ => x
  | turns + 1, x, y => if x ≤ y then x else sqrtLoop v turns y ((y + v / y) / 2)

/-- `fixed_sqrt` on the `i64`s that are not negative, where `midpoint` rounds down; the shift
drops what does not fit. -/
def fixedSqrt (v : ℕ) : ℕ :=
  if v = 0 then 0 else (sqrtLoop v 40 v ((v + 1) / 2) <<< fixedFracBits) % 2 ^ 64

/-- From every distance below `B` to the root `r` of `v`, `n` turns reach the root. -/
def Reaches (v r n B : ℕ) : Prop :=
  ∀ d < B, sqrtLoop v n (r + d) ((r + d + v / (r + d)) / 2) = r

lemma Reaches.start (v r : ℕ) : Reaches v r 0 1 := by
  intro d hd
  rw [Nat.lt_one_iff.mp hd]
  rfl

variable {v r n B : ℕ} (hr : 0 < r) (hle : r * r ≤ v) (hlt : v < (r + 1) * (r + 1))
include hr hle hlt

lemma newton_step {d : ℕ} (hd : 0 < d) : ∃ d', (r + d + v / (r + d)) / 2 = r + d' ∧
    d' ≤ d / 2 ∧ 2 * r * d' ≤ d * d + 2 * r := by
  have hx : 0 < r + d := by omega
  have hlow : r - d ≤ v / (r + d) := by
    rw [Nat.le_div_iff_mul_le hx, mul_comm, ← Nat.mul_self_sub_mul_self_eq]
    omega
  have hhigh : v / (r + d) ≤ r := by
    rw [← Nat.lt_succ_iff, Nat.div_lt_iff_lt_mul hx]
    exact hlt.trans_le (Nat.mul_le_mul_left _ (by omega))
  have hmul : v / (r + d) * (r + d) ≤ v := Nat.div_mul_le_self v _
  generalize v / (r + d) = q at *
  refine ⟨(r + d + q) / 2 - r, by omega, by omega, ?_⟩
  have hhalf : 2 * ((r + d + q) / 2 - r) + r ≤ d + q := by omega
  nlinarith

lemma Reaches.turn {C : ℕ} (h : Reaches v r n B)
    (hstep : ∀ d < C, ∀ d', d' ≤ d / 2 → 2 * r * d' ≤ d * d + 2 * r → d' < B) :
    Reaches v r (n + 1) C := by
  intro d hd
  rcases d.eq_zero_or_pos with rfl | hpos
  · have hstop : r ≤ (r + v / r) / 2 := by
      have hdiv := (Nat.le_div_iff_mul_le hr).mpr hle
      omega
    exact if_pos hstop
  · obtain ⟨d', hy, hhalf, hsq⟩ := newton_step hr hle hlt hpos
    rw [sqrtLoop, hy, if_neg (by omega)]
    exact h d' (hstep d hd d' hhalf hsq)

lemma Reaches.halve (h : Reaches v r n B) (m : ℕ) : Reaches v r (n + m) (2 ^ m * B) := by
  induction m with
  | zero => rwa [pow_zero, one_mul]
  | succ m ih =>
    refine ih.turn hr hle hlt fun d hd d' hhalf _ => ?_
    rw [pow_succ', mul_assoc] at hd
    omega

lemma Reaches.square (h : Reaches v r n (B + 1)) {b : ℕ} (hB : r < 2 ^ (2 * b) * (2 * B)) :
    Reaches v r (n + 1) (r / 2 ^ b + 1) := by
  refine h.turn hr hle hlt fun d hd d' _ hsq => ?_
  have hd : d * 2 ^ b ≤ r := (Nat.le_div_iff_mul_le (by positivity)).mp (Nat.le_of_lt_succ hd)
  have hbound : 2 ^ (2 * b) * (d * d) < 2 ^ (2 * b) * (2 * r * B) := calc
    2 ^ (2 * b) * (d * d) = d * 2 ^ b * (d * 2 ^ b) := by ring
    _ ≤ r * r := Nat.mul_self_le_mul_self hd
    _ < r * (2 ^ (2 * b) * (2 * B)) := Nat.mul_lt_mul_of_pos_left hB hr
    _ = 2 ^ (2 * b) * (2 * r * B) := by ring
  have hless : 2 * r * d' < 2 * r * (B + 1) := by
    rw [mul_add]
    have := lt_of_mul_lt_mul_left hbound (Nat.zero_le _)
    omega
  exact lt_of_mul_lt_mul_left hless (Nat.zero_le _)

lemma sqrtLoop_forty (hv : v < 2 ^ 63) : sqrtLoop v 40 v ((v + 1) / 2) = r := by
  have hpos : 0 < v := (Nat.mul_pos hr hr).trans_le hle
  have hbelow : r ≤ v := (Nat.le_mul_self r).trans hle
  have hreach : ∃ B, v - r < B ∧ Reaches v r 40 B := by
    have hone := (Reaches.start v r).halve hr hle hlt
    by_cases hsmall : r < 2 ^ 17
    · have hsq : (r + 1) * (r + 1) ≤ 2 ^ 17 * 2 ^ 17 := Nat.mul_le_mul hsmall hsmall
      exact ⟨2 ^ 40, by omega, by simpa using hone 40⟩
    · -- five turns near the root, thirty-four to come near it
      have hroot : r < 2 ^ 32 := by nlinarith
      have hsq : (r + 1) * (r + 1) ≤ 2 ^ 32 * (r + 1) := Nat.mul_le_mul_right _ hroot
      refine ⟨2 ^ 34 * (r / 2 ^ 1 + 1), by omega, ?_⟩
      have h16 := (hone 1).square hr hle hlt (b := 16) (by omega)
      have h8 := h16.square hr hle hlt (b := 8) (by omega)
      have h4 := h8.square hr hle hlt (b := 4) (by omega)
      have h2 := h4.square hr hle hlt (b := 2) (by omega)
      exact (h2.square hr hle hlt (b := 1) (by omega)).halve hr hle hlt 34
  obtain ⟨B, hB, h⟩ := hreach
  have hrun := h _ hB
  rwa [Nat.add_sub_cancel' hbelow, Nat.div_self hpos] at hrun

omit hr hle hlt

/-- The budget suffices for every `i64`: the result is the integer square root, and the shift
loses no bit of it. -/
theorem fixedSqrt_eq_sqrt (v : Fin (2 ^ 63)) :
    fixedSqrt v = Nat.sqrt v <<< fixedFracBits ∧ Nat.sqrt v <<< fixedFracBits < 2 ^ 63 := by
  have hroot : Nat.sqrt v < 2 ^ 32 := Nat.sqrt_lt.mpr (v.isLt.trans (by decide))
  have hfits : Nat.sqrt v <<< fixedFracBits < 2 ^ 63 := by
    rw [Nat.shiftLeft_eq, fixedFracBits]
    omega
  refine ⟨?_, hfits⟩
  unfold fixedSqrt
  split
  next hzero => rw [hzero]; rfl
  next hpos =>
    rw [sqrtLoop_forty (Nat.sqrt_pos.mpr (Nat.pos_of_ne_zero hpos)) (Nat.sqrt_le v)
      (Nat.lt_succ_sqrt v) v.isLt, Nat.mod_eq_of_lt (hfits.trans (by decide))]

end Budlum.FixedPoint
