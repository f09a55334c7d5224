import Mathlib

/-!
# Bitmaps packed into bytes

Position `i` is bit `i % 8`, counted from the least significant, of byte
`i / 8`. A position past the last byte reads as clear.
-/

namespace Bitmap

open List

/-- The byte with only bit `k` set. -/
def mask (k : ℕ) : UInt8 := 1 <<< UInt8.ofNat k

def getBit (bitmap : List UInt8) (i : ℕ) : Bool :=
  decide (i / 8 < bitmap.length) && (bitmap.getD (i / 8) 0 &&& mask (i % 8)) != 0

def setBit (bitmap : List UInt8) (i : ℕ) : List UInt8 :=
  bitmap.modify (i / 8) fun byte => byte ||| mask (i % 8)

@[simp] lemma length_setBit (bitmap : List UInt8) (i : ℕ) :
    (setBit bitmap i).length = bitmap.length := by
  simp [setBit]

lemma and_mask_ne_zero (byte : UInt8) (k : Fin 8) :
    ((byte &&& mask k.val) != 0) = byte.toBitVec.getLsbD k.val := by
  obtain ⟨⟨b⟩⟩ := byte
  revert b k
  decide +kernel

lemma mask_getLsbD (k j : Fin 8) : (mask k.val).toBitVec.getLsbD j.val = decide (k = j) := by
  revert k j
  decide

lemma or_mask_and_mask (byte : UInt8) (k j : Fin 8) :
    (((byte ||| mask k.val) &&& mask j.val) != 0) =
      ((byte &&& mask j.val) != 0 || decide (k = j)) := by
  rw [and_mask_ne_zero, and_mask_ne_zero, UInt8.toBitVec_or, BitVec.getLsbD_or, mask_getLsbD]

@[simp] lemma getBit_replicate_zero (n i : ℕ) : getBit (replicate n 0) i = false := by
  unfold getBit
  by_cases h : i / 8 < n
  · simp [getD_eq_getElem?_getD, h]
  · simp [h]

lemma getBit_setBit {bitmap : List UInt8} {i : ℕ} (h : i / 8 < bitmap.length) (j : ℕ) :
    getBit (setBit bitmap i) j = (getBit bitmap j || decide (i = j)) := by
  unfold getBit setBit
  rw [length_modify, getD_eq_getElem?_getD, getD_eq_getElem?_getD,
    getElem?_modify]
  by_cases hij : i / 8 = j / 8
  · have hj : j / 8 < bitmap.length := hij ▸ h
    have hbit := or_mask_and_mask (bitmap.get ⟨j / 8, hj⟩)
      ⟨i % 8, Nat.mod_lt _ (by omega)⟩ ⟨j % 8, Nat.mod_lt _ (by omega)⟩
    have hsame : (i % 8 = j % 8) ↔ i = j := by omega
    simp only [get_eq_getElem, Fin.mk.injEq, hsame] at hbit
    simp [hij, hj, hbit]
  · have hne : i ≠ j := fun e => hij (by rw [e])
    simp [hij, hne]

lemma getBit_foldl_setBit : ∀ {idxs : List ℕ} {bitmap : List UInt8},
    (∀ i ∈ idxs, i / 8 < bitmap.length) → ∀ j,
      getBit (idxs.foldl setBit bitmap) j = (getBit bitmap j || decide (j ∈ idxs))
  | [], _, _, j => by simp
  | i :: idxs, bitmap, h, j => by
      have hi : i / 8 < bitmap.length := h i mem_cons_self
      have hrest : ∀ k ∈ idxs, k / 8 < (setBit bitmap i).length := fun k hk => by
        rw [length_setBit]
        exact h k (mem_cons_of_mem _ hk)
      rw [foldl_cons, getBit_foldl_setBit hrest, getBit_setBit hi]
      by_cases hij : i = j
      · simp [hij]
      · simp [hij, Ne.symm hij]

end Bitmap
