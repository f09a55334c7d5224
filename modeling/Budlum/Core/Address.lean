import Mathlib

/-!
# Addresses and byte strings

An address is 32 bytes. It is held as the number those bytes write in
big-endian order, so that the lexicographic order of the byte arrays, which
every ordered map of the node uses, is the order of the numbers.
-/

namespace Budlum

open List Function

/-- A `Vec<u8>` or `&[u8]`. -/
abbrev Bytes : Type := List UInt8

abbrev Hash32 : Type := Bytes

def strBytes (s : String) : Bytes := s.toUTF8.toList

lemma byteArray_toList_loop (bytes : ByteArray) (i : ℕ) (read : List UInt8) :
    ByteArray.toList.loop bytes i read = read.reverse ++ bytes.data.toList.drop i := by
  fun_induction ByteArray.toList.loop bytes i read with
  | case1 i read h ih =>
    have hi : i < bytes.data.toList.length := by simpa using h
    rw [ih, drop_eq_getElem_cons hi]
    simp [ByteArray.get!, getElem!_pos, h]
  | case2 i read h =>
    have hi : bytes.data.toList.length ≤ i := by simpa using h
    rw [drop_eq_nil_of_le hi, append_nil]

lemma strBytes_injective : Injective strBytes := by
  intro s t h
  have hdata : s.toUTF8.data.toList = t.toUTF8.data.toList := by
    have hs := byteArray_toList_loop s.toUTF8 0 []
    have ht := byteArray_toList_loop t.toUTF8 0 []
    rw [reverse_nil, nil_append, drop_zero] at hs ht
    rw [← hs, ← ht]
    exact h
  exact String.toByteArray_inj.mp (ByteArray.ext (Array.toList_inj.mp hdata))

/-- The `width` low bytes of `n`, least significant first (`to_le_bytes`). -/
def leBytes : ℕ → ℕ → Bytes
  | 0, _ => []
  | width + 1, n => UInt8.ofNat n :: leBytes width (n / 256)

@[simp] lemma length_leBytes (width n : ℕ) : (leBytes width n).length = width := by
  induction width generalizing n with
  | zero => rfl
  | succ width ih => simp [leBytes, ih]

lemma leBytes_inj {width n m : ℕ} (hn : n < 256 ^ width) (hm : m < 256 ^ width)
    (h : leBytes width n = leBytes width m) : n = m := by
  induction width generalizing n m with
  | zero => omega
  | succ width ih =>
    obtain ⟨hhead, htail⟩ := cons.inj h
    have hlow : n % 256 = m % 256 := by simpa using congrArg UInt8.toNat hhead
    have hhigh : n / 256 = m / 256 := by
      rw [pow_succ] at hn hm
      exact ih (Nat.div_lt_of_lt_mul (by omega)) (Nat.div_lt_of_lt_mul (by omega)) htail
    omega

/-- `to_le_bytes` of a `u32`, a `u64` and a `u128`. -/
def u32LeBytes (n : ℕ) : Bytes := leBytes 4 n
def u64LeBytes (n : ℕ) : Bytes := leBytes 8 n
def u128LeBytes (n : ℕ) : Bytes := leBytes 16 n

/-- A 32-byte identifier used as a map key, ordered as its bytes are. -/
structure Id32 where
  bytes : Bytes
deriving Repr

namespace Id32

lemma toNats_injective : Injective fun i : Id32 => i.bytes.map UInt8.toNat := by
  rintro ⟨a⟩ ⟨b⟩ h
  have hinj : Injective UInt8.toNat := fun x y hxy => UInt8.toNat_inj.mp hxy
  exact congrArg Id32.mk (map_injective_iff.mpr hinj h)

instance : LinearOrder Id32 :=
  LinearOrder.lift' (fun i : Id32 => i.bytes.map UInt8.toNat) toNats_injective

def zero : Id32 := ⟨replicate 32 0⟩

end Id32

instance neZero_addressSpace : NeZero (2 ^ 256) := ⟨by decide⟩

structure Address where
  val : Fin (2 ^ 256)
deriving Repr

namespace Address

lemma val_injective : Injective Address.val := by
  rintro ⟨a⟩ ⟨b⟩ h
  exact congrArg Address.mk h

instance : LinearOrder Address := LinearOrder.lift' Address.val val_injective

def zero : Address := ⟨0⟩

/-- `Address::as_bytes`: the 32 bytes, most significant first. -/
def asBytes (a : Address) : Bytes := (leBytes 32 a.val.val).reverse

lemma asBytes_injective : Injective asBytes := by
  rintro ⟨a⟩ ⟨b⟩ h
  have hbytes := reverse_injective h
  exact congrArg Address.mk (Fin.ext (leBytes_inj a.isLt b.isLt hbytes))

end Address

end Budlum
