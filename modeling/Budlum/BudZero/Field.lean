import Budlum.Lib.ModPow

/-!
# The Goldilocks field of the BudZero machine

The machine computes on `u64` values, which it takes to be elements of the field with
`P = 2^64 - 2^32 + 1` elements. The field operations of `bud-vm` are given as they are
computed there, on numbers, and each is shown to be the operation of the field.
-/

namespace Budlum.BudZero

open ModPow Nat

def goldilocksP : ℕ := 18446744069414584321

abbrev Goldilocks : Type := ZMod goldilocksP

/-- `field_add_goldilocks`. -/
def fieldAdd (a b : ℕ) : ℕ := (a + b) % goldilocksP

/-- `field_sub_goldilocks`. -/
def fieldSub (a b : ℕ) : ℕ := (a + goldilocksP - b % goldilocksP) % goldilocksP

/-- `field_mul_goldilocks`. -/
def fieldMul (a b : ℕ) : ℕ := (a * b) % goldilocksP

/-- `field_inverse_goldilocks`: the power with exponent `P - 2`, by squaring. The loop of
the source ends when the exponent is 0, which has 64 bits. -/
def fieldInverse (val : ℕ) : ℕ :=
  if val = 0 then 0 else loop goldilocksP 64 (goldilocksP - 2) val 1

/-! ## The modulus is a prime -/

lemma natCast_pow_eq_loop (base exp : ℕ) (h : exp < 2 ^ 64) :
    ((base : Goldilocks)) ^ exp = (loop goldilocksP 64 exp base 1 : ℕ) := by
  have hmod : loop goldilocksP 64 exp base 1 ≡ 1 * base ^ exp [MOD goldilocksP] :=
    loop_modEq h
  rw [(ZMod.natCast_eq_natCast_iff _ _ _).mpr hmod, one_mul, cast_pow]

lemma seven_pow_eq_one_iff (exp : ℕ) (h : exp < 2 ^ 64) :
    (7 : Goldilocks) ^ exp = 1 ↔ loop goldilocksP 64 exp 7 1 = 1 := by
  have hlt : loop goldilocksP 64 exp 7 1 < goldilocksP := loop_lt (by decide)
  have hseven : ((7 : ℕ) : Goldilocks) ^ exp = (loop goldilocksP 64 exp 7 1 : ℕ) :=
    natCast_pow_eq_loop 7 exp h
  rw [show (7 : Goldilocks) = ((7 : ℕ) : Goldilocks) by norm_cast, hseven,
    show (1 : Goldilocks) = ((1 : ℕ) : Goldilocks) by norm_cast,
    ZMod.natCast_eq_natCast_iff, ModEq, mod_eq_of_lt hlt, mod_eq_of_lt (by decide)]

lemma goldilocksP_sub_one : goldilocksP - 1 = 2 ^ 32 * 3 * 5 * 17 * 257 * 65537 := by
  decide

lemma prime_dvd_goldilocksP_sub_one {q : ℕ} (hq : q.Prime) (h : q ∣ goldilocksP - 1) :
    q ∈ [2, 3, 5, 17, 257, 65537] := by
  rw [goldilocksP_sub_one] at h
  simp only [hq.dvd_mul] at h
  have hprime {r : ℕ} (hr : r.Prime) (hdvd : q ∣ r) : q = r :=
    (prime_dvd_prime_iff_eq hq hr).mp hdvd
  rcases h with ((((h | h) | h) | h) | h) | h
  · rw [hprime prime_two (hq.dvd_of_dvd_pow h)]
    simp
  · rw [hprime prime_three h]
    simp
  · rw [hprime prime_five h]
    simp
  · rw [hprime (by norm_num) h]
    simp
  · rw [hprime (by norm_num) h]
    simp
  · rw [hprime (by norm_num) h]
    simp

/-- 7 generates the multiplicative group, so the modulus is a prime. -/
lemma goldilocksP_prime : goldilocksP.Prime := by
  apply lucas_primality goldilocksP (7 : Goldilocks)
  · rw [seven_pow_eq_one_iff _ (by decide)]
    decide +kernel
  · intro q hq hdvd
    have hmem := prime_dvd_goldilocksP_sub_one hq hdvd
    have hlt : (goldilocksP - 1) / q < 2 ^ 64 :=
      (div_le_self _ _).trans_lt (by decide)
    rw [Ne, seven_pow_eq_one_iff _ hlt]
    have hall : ∀ q ∈ [2, 3, 5, 17, 257, 65537],
        ¬ loop goldilocksP 64 ((goldilocksP - 1) / q) 7 1 = 1 := by
      decide +kernel
    exact hall q hmem

instance : Fact goldilocksP.Prime := ⟨goldilocksP_prime⟩

/-! ## The operations on numbers are those of the field -/

lemma goldilocksP_pos : 0 < goldilocksP := by decide

lemma fieldAdd_lt (a b : ℕ) : fieldAdd a b < goldilocksP := mod_lt _ goldilocksP_pos

lemma fieldSub_lt (a b : ℕ) : fieldSub a b < goldilocksP := mod_lt _ goldilocksP_pos

lemma fieldMul_lt (a b : ℕ) : fieldMul a b < goldilocksP := mod_lt _ goldilocksP_pos

lemma fieldInverse_lt (a : ℕ) : fieldInverse a < goldilocksP := by
  unfold fieldInverse
  split_ifs
  · exact goldilocksP_pos
  · exact loop_lt (by decide)

@[simp] lemma cast_fieldAdd (a b : ℕ) : ((fieldAdd a b : ℕ) : Goldilocks) = a + b := by
  rw [fieldAdd, ZMod.natCast_mod, cast_add]

@[simp] lemma cast_fieldSub (a b : ℕ) : ((fieldSub a b : ℕ) : Goldilocks) = a - b := by
  have hle : b % goldilocksP ≤ a + goldilocksP :=
    (mod_lt b goldilocksP_pos).le.trans (le_add_left _ _)
  rw [fieldSub, ZMod.natCast_mod, cast_sub hle, cast_add, ZMod.natCast_self,
    ZMod.natCast_mod, add_zero]

@[simp] lemma cast_fieldMul (a b : ℕ) : ((fieldMul a b : ℕ) : Goldilocks) = a * b := by
  rw [fieldMul, ZMod.natCast_mod, cast_mul]

/-- By Fermat's little theorem the power is the inverse; the machine takes the inverse of
0 to be 0, as the field here does. -/
@[simp] lemma cast_fieldInverse (a : ℕ) (h : a < goldilocksP) :
    ((fieldInverse a : ℕ) : Goldilocks) = (a : Goldilocks)⁻¹ := by
  unfold fieldInverse
  split_ifs with ha
  · simp [ha]
  · have hne : (a : Goldilocks) ≠ 0 := by
      rw [Ne, ZMod.natCast_eq_zero_iff]
      exact not_dvd_of_pos_of_lt (pos_of_ne_zero ha) h
    rw [← natCast_pow_eq_loop a _ (by decide)]
    apply eq_inv_of_mul_eq_one_left
    calc (a : Goldilocks) ^ (goldilocksP - 2) * a
        = (a : Goldilocks) ^ (goldilocksP - 1) := by rw [← pow_succ]; rfl
      _ = 1 := ZMod.pow_card_sub_one_eq_one hne

lemma val_cast {a : ℕ} (h : a < goldilocksP) : (a : Goldilocks).val = a :=
  ZMod.val_cast_of_lt h

lemma cast_inj {a b : ℕ} (ha : a < goldilocksP) (hb : b < goldilocksP) :
    (a : Goldilocks) = b ↔ a = b := by
  rw [ZMod.natCast_eq_natCast_iff, ModEq, mod_eq_of_lt ha, mod_eq_of_lt hb]

end Budlum.BudZero
