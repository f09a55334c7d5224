import Budlum.Core.Address

/-!
# Shamir shares of a seed

`split` hides a seed of 32 bytes behind one polynomial over GF(2⁸) for each byte. The
coefficients come from a generator that starts from the number of the byte alone, so that
every share is the seed under a mask that anyone can compute.
-/

namespace Budlum.BudFormat

open List

namespace Gf8

/-- The powers of two under the polynomial `0x11D`, as `Gf8::new` walks through them. -/
def exp (i : ℕ) : UInt8 :=
  (fun x : UInt8 => (x <<< 1) ^^^ if x &&& 0x80 ≠ 0 then 0x1D else 0)^[i % 255] 1

def log : UInt8 → ℕ := (range 255).foldl (fun log i => Function.update log (exp i) i) fun _ => 0

def mul (a b : UInt8) : UInt8 := if a = 0 ∨ b = 0 then 0 else exp (log a + log b)

def add (a b : UInt8) : UInt8 := a ^^^ b

end Gf8

def xorshift (x : UInt64) : UInt64 :=
  let x := x ^^^ (x <<< 13)
  let x := x ^^^ (x >>> 7)
  x ^^^ (x <<< 17)

/-- The coefficients of the polynomial of one byte: the secret is not among what they are
made of. -/
def coeffs (k byte : ℕ) : List UInt8 :=
  (range (k - 1)).map fun c =>
    (xorshift^[c + 1] (0x5A17 * UInt64.ofNat (byte + 1) + 0xB0D)).toUInt8

/-- The loop over the coefficients, on the value so far and the power of `x`. -/
def evalLoop (x : UInt8) (cs : List UInt8) (val xpow : UInt8) : UInt8 :=
  (cs.foldl (fun (val, xpow) c => (Gf8.add val (Gf8.mul c xpow), Gf8.mul xpow x)) (val, xpow)).1

/-- The share at a point: the polynomials of all bytes there. -/
def share (secret : Fin 32 → UInt8) (k : ℕ) (x : UInt8) : UInt8 × Bytes :=
  (x, ofFn fun byte => evalLoop x (coeffs k byte) (secret byte) x)

/-- `none` is the panic of the loops of `split`, whose array holds 32 coefficients. -/
def split (secret : Fin 32 → UInt8) (k n : ℕ) : Option (Option (List (UInt8 × Bytes))) :=
  if k = 0 ∨ n = 0 ∨ n < k ∨ 255 < n then some none
  else if 33 < k then none
  else some (some ((range n).map fun i => share secret k (UInt8.ofNat (i + 1))))

variable {secret secret' : Fin 32 → UInt8} {k n : ℕ} {x : UInt8}

lemma split_eq_some_iff {shares : List (UInt8 × Bytes)} :
    split secret k n = some (some shares) ↔ (0 < k ∧ k ≤ n ∧ n ≤ 255 ∧ k ≤ 33) ∧
      (range n).map (fun i => share secret k (UInt8.ofNat (i + 1))) = shares := by
  unfold split
  split_ifs <;> simp <;> omega

lemma evalLoop_eq (x : UInt8) (cs : List UInt8) (val xpow : UInt8) :
    evalLoop x cs val xpow = val ^^^ evalLoop x cs 0 xpow := by
  induction cs generalizing val xpow with
  | nil => simp [evalLoop]
  | cons c cs ih =>
    change evalLoop x cs (val ^^^ Gf8.mul c xpow) _ = val ^^^ evalLoop x cs (0 ^^^ Gf8.mul c xpow) _
    rw [ih, ih (0 ^^^ _), UInt8.zero_xor, UInt8.xor_assoc]

lemma share_inj (h : share secret k x = share secret' k x) : secret = secret' := by
  funext byte
  have hbyte := congrFun (ofFn_injective (Prod.mk.inj h).2) byte
  rw [evalLoop_eq, evalLoop_eq _ _ (secret' byte)] at hbyte
  exact (UInt8.xor_left_inj _).mp hbyte

/-- For a set of share indexes there is another secret with the same shares exactly when the
set is empty and the sizes are ones `split` takes. -/
theorem shares_hide_secret_iff (secret : Fin 32 → UInt8) (k n : ℕ) (seen : Finset (Fin n)) :
    (∃ secret' ≠ secret, ∃ shares shares', split secret k n = some (some shares) ∧
        split secret' k n = some (some shares') ∧ ∀ i ∈ seen, shares[i]? = shares'[i]?) ↔
      seen = ∅ ∧ 0 < k ∧ k ≤ n ∧ n ≤ 255 ∧ k ≤ 33 := by
  simp only [split_eq_some_iff]
  constructor
  · rintro ⟨secret', hne, shares, shares', ⟨hsizes, rfl⟩, ⟨-, rfl⟩, hsame⟩
    refine ⟨Finset.eq_empty_of_forall_notMem fun i hi => hne ?_, hsizes⟩
    have hshare := hsame i hi
    simp at hshare
    exact (share_inj hshare).symm
  · rintro ⟨rfl, hsizes⟩
    refine ⟨fun byte => secret byte + 1, ?_, _, _, ⟨hsizes, rfl⟩, ⟨hsizes, rfl⟩, by simp⟩
    intro h
    simpa using congrFun h 0

/-- Two of two shares of nothing but zeros, and the first of them is enough. -/
theorem one_share_reveals_zeros : ¬ ∃ secret' ≠ fun _ => 0, ∃ shares shares',
    split (fun _ => 0) 2 2 = some (some shares) ∧ split secret' 2 2 = some (some shares') ∧
      shares[0]? = shares'[0]? := by
  simp only [split_eq_some_iff]
  rintro ⟨secret', hne, shares, shares', ⟨-, rfl⟩, ⟨-, rfl⟩, hsame⟩
  simp at hsame
  exact hne (share_inj hsame).symm

end Budlum.BudFormat
