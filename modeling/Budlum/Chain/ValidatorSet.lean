import Budlum.Core.Address
import Budlum.Lib.FieldBits
import Budlum.Lib.Machine
import Budlum.Lib.Quorum

/-!
# Validator set snapshots and BLS signatures

The validator set that finality votes are counted against, the two quorum
formulas over it, and the signature check a single vote goes through.

Three things the node takes from outside are parameters (`FinalityDeps`): the
BLS12-381 curve, the SHA3 digest of the validator set and the textual form of
an address. Nothing is assumed about them here.
-/

namespace Budlum

open Machine

/-- `FINALITY_QUORUM_NUMERATOR` and `FINALITY_QUORUM_DENOMINATOR`. -/
def finalityQuorumNumerator : ℕ := 2
def finalityQuorumDenominator : ℕ := 3

def blsRfc9380ActivationEpoch : ℕ := 0

/-- `BLS_SCHEME_RFC9380_V1`, folded into every message a validator signs. -/
def blsSchemeRfc9380V1 : String := "BLS_SIG_BLS12381G1_XMD:SHA-256_SSWU_RO_POP_"

/-! ## What finality calls outside of the node -/

/-- The curve library, the set digest and `Display for Address`. Signatures
live in `G₁`, public keys in `G₂`. -/
structure FinalityDeps (G₁ G₂ : Type) where
  g1FromCompressed : Bytes → Option G₁
  g1ToCompressed : G₁ → Bytes
  g2FromCompressed : Bytes → Option G₂
  g1IsTorsionFree : G₁ → Bool
  g2IsTorsionFree : G₂ → Bool
  hashToG1 : Bytes → G₁
  /-- The final exponentiation of `e(sig, -g) * e(h, pk)` is the identity. -/
  pairingIsIdentity : (sig h : G₁) → (pk : G₂) → Bool
  sha3Hex : Bytes → String
  displayAddress : Address → String

/-! ## The snapshot -/

structure ValidatorEntry where
  address : Address
  stake : ℕ
  blsPublicKey : Bytes
  popSignature : Bytes
  pqPublicKey : Bytes
deriving DecidableEq

/-- A snapshot. `ValidatorSetSnapshot::new` sets the hash and the total from the validators;
one that came with a proof has what was sent. `len_lt` is the bound Rust puts on the
length of any vector of non-empty elements. -/
structure ValidatorSetSnapshot where
  epoch : ℕ
  validators : List ValidatorEntry
  setHash : String
  totalStake : ℕ
  len_lt : validators.length < 2 ^ 63

namespace ValidatorSetSnapshot

variable {G₁ G₂ : Type} (deps : FinalityDeps G₁ G₂)

/-- `update_with_length`: the length as a little-endian `u64`, then the bytes. -/
def updateWithLength (bytes : Bytes) : Bytes := u64LeBytes bytes.length ++ bytes

def entryPreimage (v : ValidatorEntry) : Bytes :=
  v.address.asBytes ++ u64LeBytes v.stake ++ updateWithLength v.blsPublicKey ++
    updateWithLength v.popSignature ++ updateWithLength v.pqPublicKey

def computeHash (validators : List ValidatorEntry) : String :=
  let sorted := validators.insertionSort fun a b => a.address ≤ b.address
  deps.sha3Hex (sorted.flatMap entryPreimage)

def new (epoch : ℕ) (validators : List ValidatorEntry)
    (h : validators.length < 2 ^ 63) : ValidatorSetSnapshot where
  epoch := epoch
  validators := validators
  setHash := computeHash deps validators
  totalStake := (validators.map (·.stake)).sum
  len_lt := h

variable (snapshot : ValidatorSetSnapshot)

def findValidator (address : Address) : Option ValidatorEntry :=
  snapshot.validators.find? fun v => v.address == address

def validatorIndex (address : Address) : Option ℕ :=
  snapshot.validators.findIdx? fun v => v.address == address

def quorumStake : ℕ :=
  snapshot.totalStake * finalityQuorumNumerator / finalityQuorumDenominator + 1

/-- `len.saturating_mul(2).div_ceil(3)`. -/
def quorumCount : ℕ :=
  (satMul u64Max snapshot.validators.length finalityQuorumNumerator +
    (finalityQuorumDenominator - 1)) / finalityQuorumDenominator

lemma quorumStake_pos : 0 < snapshot.quorumStake := Nat.succ_pos _

/-- No vector is long enough for the saturating product to saturate. -/
lemma quorumCount_eq : snapshot.quorumCount = (2 * snapshot.validators.length + 2) / 3 := by
  have hlen := snapshot.len_lt
  have hmul : satMul u64Max snapshot.validators.length 2 = snapshot.validators.length * 2 :=
    satMul_of_le (by unfold u64Max; omega)
  unfold quorumCount finalityQuorumNumerator finalityQuorumDenominator
  rw [hmul]
  omega

/-- Reaching the stake quorum is holding strictly more than two thirds of the total. -/
lemma quorumStake_le_iff {voted : ℕ} :
    snapshot.quorumStake ≤ voted ↔ 2 * snapshot.totalStake < 3 * voted := by
  unfold quorumStake finalityQuorumNumerator finalityQuorumDenominator
  omega

end ValidatorSetSnapshot

/-! ## One signature -/

section

variable {G₁ G₂ : Type} [AddCommGroup G₁] [AddCommGroup G₂] [DecidableEq G₁] [DecidableEq G₂]
variable (deps : FinalityDeps G₁ G₂)

def decodePublicKey (pk : Bytes) : Except String G₂ :=
  if pk.length ≠ 96 then .error "Invalid BLS public key length"
  else match deps.g2FromCompressed pk with
    | none => .error "Invalid BLS public key encoding"
    | some key =>
      if !deps.g2IsTorsionFree key || key == 0 then
        .error "BLS public key is identity or not in the prime-order subgroup"
      else .ok key

def decodeSignature (sig : Bytes) : Except String G₁ :=
  if sig.length ≠ 48 then .error "Invalid BLS signature length"
  else match deps.g1FromCompressed sig with
    | none => .error "Invalid BLS signature encoding"
    | some point =>
      if !deps.g1IsTorsionFree point || point == 0 then
        .error "BLS signature is identity or not in the prime-order subgroup"
      else .ok point

def verifyBlsSig (pk msg sig : Bytes) : Except String Unit :=
  match decodePublicKey deps pk with
  | .error e => .error e
  | .ok key =>
    match decodeSignature deps sig with
    | .error e => .error e
    | .ok point =>
      if deps.pairingIsIdentity point (deps.hashToG1 msg) key then .ok ()
      else .error "BLS signature verification failed"

lemma verifyBlsSig_ok {pk msg sig : Bytes} (h : verifyBlsSig deps pk msg sig = .ok ()) :
    ∃ key point, pk.length = 96 ∧ deps.g2FromCompressed pk = some key ∧
      deps.g2IsTorsionFree key = true ∧ key ≠ 0 ∧
      sig.length = 48 ∧ deps.g1FromCompressed sig = some point ∧
      deps.pairingIsIdentity point (deps.hashToG1 msg) key = true := by
  unfold verifyBlsSig at h
  cases hk : decodePublicKey deps pk with
  | error e => simp [hk] at h
  | ok key =>
    cases hs : decodeSignature deps sig with
    | error e => simp [hk, hs] at h
    | ok point =>
      have hpair : deps.pairingIsIdentity point (deps.hashToG1 msg) key = true := by
        by_contra hne
        simp [hk, hs, hne] at h
      unfold decodePublicKey at hk
      unfold decodeSignature at hs
      split_ifs at hk with hpk
      split_ifs at hs with hsig
      split at hk
      · simp at hk
      · rename_i key' hdec
        split_ifs at hk with hgood
        obtain rfl : key' = key := by simpa using hk
        split at hs
        · simp at hs
        · rename_i point' hdec'
          split_ifs at hs with hgood'
          obtain rfl : point' = point := by simpa using hs
          simp only [Bool.or_eq_true, Bool.not_eq_true', beq_iff_eq, not_or,
            Bool.not_eq_false] at hgood
          exact ⟨key', point', by simpa using hpk, hdec, hgood.1, hgood.2,
            by simpa using hsig, hdec', hpair⟩

end

/-! ## A curve to compute with

The group of order 101 in both places, with the pairing `e(a, b) = a * b`
written additively. It has every law of the real pairing and none of its
hardness, so that concrete runs of the model can be evaluated. -/

/-- The element a padded one-byte encoding stands for. -/
def decodeSmall : Bytes → Option (ZMod 101)
  | [] => none
  | byte :: _ => if byte.toNat < 101 then some (byte.toNat : ZMod 101) else none

def encodeSmall (width : ℕ) (x : ZMod 101) : Bytes :=
  UInt8.ofNat x.val :: List.replicate (width - 1) 0

def smallDeps : FinalityDeps (ZMod 101) (ZMod 101) where
  g1FromCompressed := decodeSmall
  g1ToCompressed := encodeSmall 48
  g2FromCompressed := decodeSmall
  g1IsTorsionFree := fun _ => true
  g2IsTorsionFree := fun _ => true
  hashToG1 := fun msg => ((msg.foldl (fun acc b => 31 * acc + b.toNat) 7 % 100 + 1 : ℕ) : ZMod 101)
  pairingIsIdentity := fun sig h pk => sig == h * pk
  sha3Hex := fun msg => toString (msg.foldl (fun acc b => (31 * acc + b.toNat) % 1000003) 7)
  displayAddress := fun address => toString address.val.val

lemma decodeSmall_encodeSmall : ∀ x : ZMod 101, decodeSmall (encodeSmall 48 x) = some x := by
  decide +kernel

def smallValidator (id stake : ℕ) (secret : ZMod 101) : ValidatorEntry where
  address := ⟨Fin.ofNat _ id⟩
  stake := stake
  blsPublicKey := encodeSmall 96 secret
  popSignature := []
  pqPublicKey := []

end Budlum
