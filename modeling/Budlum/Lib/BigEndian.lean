import Mathlib

/-!
# Numbers written in big-endian bytes

A number is written in a fixed number of bytes, most significant first, and read back
from any byte string. Without its leading zero bytes the writing is the shortest one,
and it is the only writing of the number that does not begin with a zero byte.
-/

namespace BigEndian

open List

/-- The `width` low bytes of `n`, most significant first. -/
def write : ℕ → ℕ → List UInt8
  | 0, _ => []
  | width + 1, n => write width (n / 256) ++ [UInt8.ofNat n]

/-- The number that a byte string writes. -/
def read (bytes : List UInt8) : ℕ := bytes.foldl (fun n byte => n * 256 + byte.toNat) 0

/-- `n` in at most `width` bytes, without leading zero bytes. -/
def trimmed (width n : ℕ) : List UInt8 := (write width n).dropWhile (· == 0)

variable {width n m : ℕ} {bytes : List UInt8}

@[simp] lemma length_write (width n : ℕ) : (write width n).length = width := by
  induction width generalizing n with
  | zero => rfl
  | succ width ih => simp [write, ih]

@[simp] lemma read_nil : read [] = 0 := rfl

@[simp] lemma read_concat (bytes : List UInt8) (byte : UInt8) :
    read (bytes ++ [byte]) = read bytes * 256 + byte.toNat := by
  simp [read]

lemma read_cons (byte : UInt8) (bytes : List UInt8) :
    read (byte :: bytes) = byte.toNat * 256 ^ bytes.length + read bytes := by
  induction bytes using reverseRecOn with
  | nil => simp [read]
  | append_singleton bytes last ih =>
    rw [← cons_append, read_concat, ih, read_concat, length_append, length_singleton]
    ring

lemma read_lt (bytes : List UInt8) : read bytes < 256 ^ bytes.length := by
  induction bytes using reverseRecOn with
  | nil => simp
  | append_singleton bytes byte ih =>
    have hbyte := byte.toNat_lt
    rw [read_concat, length_append, length_singleton, pow_succ]
    omega

lemma read_lt_of_length_le (hlen : bytes.length ≤ width) : read bytes < 256 ^ width :=
  (read_lt bytes).trans_le (Nat.pow_le_pow_right (by decide) hlen)

lemma read_write (h : n < 256 ^ width) : read (write width n) = n := by
  induction width generalizing n with
  | zero => simp at h; simp [write, h]
  | succ width ih =>
    have hhigh : n / 256 < 256 ^ width := Nat.div_lt_of_lt_mul (by rw [pow_succ] at h; omega)
    rw [write, read_concat, ih hhigh, UInt8.toNat_ofNat']
    omega

lemma write_read (bytes : List UInt8) : write bytes.length (read bytes) = bytes := by
  induction bytes using reverseRecOn with
  | nil => rfl
  | append_singleton bytes byte ih =>
    have hbyte := byte.toNat_lt
    have hhigh : (read bytes * 256 + byte.toNat) / 256 = read bytes := by omega
    have hlow : UInt8.ofNat (read bytes * 256 + byte.toNat) = byte := by
      apply UInt8.toNat_inj.mp
      rw [UInt8.toNat_ofNat']
      omega
    rw [length_append, length_singleton, write, read_concat, hhigh, hlow, ih]

lemma read_zeros_append (k : ℕ) (bytes : List UInt8) :
    read (replicate k 0 ++ bytes) = read bytes := by
  induction k with
  | zero => rfl
  | succ k ih => rw [replicate_succ, cons_append, read_cons, ih]; simp

lemma zeros_append_dropWhile (bytes : List UInt8) :
    ∃ k, bytes = replicate k 0 ++ bytes.dropWhile (· == 0) := by
  refine ⟨(bytes.takeWhile (· == 0)).length, ?_⟩
  conv_lhs => rw [← takeWhile_append_dropWhile (p := (· == 0)) (l := bytes)]
  congr 1
  refine eq_replicate_of_mem fun byte hbyte => ?_
  simpa using mem_takeWhile_imp hbyte

lemma read_trimmed (h : n < 256 ^ width) : read (trimmed width n) = n := by
  obtain ⟨k, hk⟩ := zeros_append_dropWhile (write width n)
  rw [trimmed, ← read_zeros_append k, ← hk, read_write h]

lemma length_trimmed_le (width n : ℕ) : (trimmed width n).length ≤ width := by
  have hle := (dropWhile_sublist (· == (0 : UInt8)) (l := write width n)).length_le
  rwa [length_write] at hle

lemma head?_trimmed_ne_zero (width n : ℕ) : (trimmed width n).head? ≠ some 0 := by
  intro hzero
  have hhead := head?_dropWhile_not (· == (0 : UInt8)) (write width n)
  rw [trimmed] at hzero
  rw [hzero] at hhead
  simp at hhead

lemma trimmed_read (hlen : bytes.length ≤ width) (hhead : bytes.head? ≠ some 0) :
    trimmed width (read bytes) = bytes := by
  have hwrite : write width (read bytes) = replicate (width - bytes.length) 0 ++ bytes := by
    have hall := write_read (replicate (width - bytes.length) 0 ++ bytes)
    rwa [read_zeros_append, length_append, length_replicate,
      Nat.sub_add_cancel hlen] at hall
  rw [trimmed, hwrite, dropWhile_append_of_pos (by simp)]
  cases bytes with
  | nil => rfl
  | cons byte bytes =>
    have hbyte : byte ≠ 0 := by simpa using hhead
    simp [hbyte]

lemma eq_trimmed_iff : n < 256 ^ width ∧ bytes = trimmed width n ↔
    bytes.length ≤ width ∧ bytes.head? ≠ some 0 ∧ read bytes = n := by
  constructor
  · rintro ⟨hn, rfl⟩
    exact ⟨length_trimmed_le width n, head?_trimmed_ne_zero width n, read_trimmed hn⟩
  · rintro ⟨hlen, hhead, rfl⟩
    exact ⟨read_lt_of_length_le hlen, (trimmed_read hlen hhead).symm⟩

lemma pow_le_read (hne : bytes ≠ []) (hhead : bytes.head? ≠ some 0) :
    256 ^ (bytes.length - 1) ≤ read bytes := by
  cases bytes with
  | nil => exact absurd rfl hne
  | cons byte bytes =>
    have hbyte : byte ≠ 0 := by simpa using hhead
    have hpos : 0 < byte.toNat := Nat.pos_of_ne_zero fun h => hbyte (UInt8.toNat_inj.mp h)
    rw [read_cons, length_cons, Nat.add_sub_cancel]
    calc 256 ^ bytes.length ≤ byte.toNat * 256 ^ bytes.length := Nat.le_mul_of_pos_left _ hpos
      _ ≤ _ := Nat.le_add_right _ _

lemma trimmed_ne_nil (h : n < 256 ^ width) (hn : n ≠ 0) : trimmed width n ≠ [] := by
  intro hnil
  have hread := read_trimmed h
  rw [hnil] at hread
  exact hn hread.symm

lemma length_trimmed_mono (hm : m < 256 ^ width) (hle : n ≤ m) :
    (trimmed width n).length ≤ (trimmed width m).length := by
  rcases Nat.eq_zero_or_pos (trimmed width n).length with hzero | hpos
  · omega
  have hlow := pow_le_read (ne_nil_of_length_pos hpos) (head?_trimmed_ne_zero width n)
  have hhigh := read_lt (trimmed width m)
  rw [read_trimmed (hle.trans_lt hm)] at hlow
  rw [read_trimmed hm] at hhigh
  have hexp := (Nat.pow_lt_pow_iff_right (by decide : 1 < 256)).mp (hlow.trans_lt (hle.trans_lt hhigh))
  omega

end BigEndian
