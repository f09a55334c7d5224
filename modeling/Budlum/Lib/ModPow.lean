import Mathlib

/-!
# Powers by squaring

The loop that computes a power modulo `p` by squaring: the exponent is halved in each
turn, the base squared, and the result multiplied by the base where the exponent is odd.
The number of turns is bounded by a fuel that is structural, so that the loop can be
evaluated; a fuel of as many turns as the exponent has bits is enough.
-/

namespace ModPow

open Nat

/-- `res * base ^ exp` modulo `p`, by at most `fuel` squarings. -/
def loop (p : ℕ) : ℕ → ℕ → ℕ → ℕ → ℕ
  | 0, _, _, res => res
  | fuel + 1, exp, base, res =>
    if exp = 0 then res
    else loop p fuel (exp / 2) (base * base % p) (if exp % 2 = 1 then res * base % p else res)

lemma pow_halves (base exp : ℕ) :
    base ^ exp = (if exp % 2 = 1 then base else 1) * (base * base) ^ (exp / 2) := by
  conv_lhs => rw [← div_add_mod exp 2]
  rw [pow_add, pow_mul, ← pow_two]
  rcases mod_two_eq_zero_or_one exp with h | h
  · simp [h]
  · simp [h, mul_comm]

variable {p fuel exp base res : ℕ}

lemma loop_modEq (h : exp < 2 ^ fuel) : loop p fuel exp base res ≡ res * base ^ exp [MOD p] := by
  induction fuel generalizing exp base res with
  | zero =>
    have hexp : exp = 0 := by simpa using h
    simp [loop, hexp, ModEq]
  | succ fuel ih =>
    unfold loop
    by_cases hexp : exp = 0
    · simp [hexp, ModEq]
    rw [if_neg hexp]
    have hhalf : exp / 2 < 2 ^ fuel := by
      rw [pow_succ] at h
      omega
    have hsquare : (base * base % p) ^ (exp / 2) ≡ (base * base) ^ (exp / 2) [MOD p] :=
      (mod_modEq _ _).pow _
    have hres : (if exp % 2 = 1 then res * base % p else res) ≡
        res * (if exp % 2 = 1 then base else 1) [MOD p] := by
      split_ifs
      · exact mod_modEq _ _
      · rw [mul_one]
    calc loop p fuel (exp / 2) (base * base % p) (if exp % 2 = 1 then res * base % p else res)
        ≡ (if exp % 2 = 1 then res * base % p else res) *
            (base * base % p) ^ (exp / 2) [MOD p] := ih hhalf
      _ ≡ res * (if exp % 2 = 1 then base else 1) * (base * base) ^ (exp / 2) [MOD p] :=
          hres.mul hsquare
      _ = res * base ^ exp := by rw [mul_assoc, ← pow_halves]

lemma loop_lt (hres : res < p) : loop p fuel exp base res < p := by
  induction fuel generalizing exp base res with
  | zero => exact hres
  | succ fuel ih =>
    unfold loop
    split_ifs
    · exact hres
    · exact ih (mod_lt _ (by omega))
    · exact ih hres

end ModPow
