import Budlum.Core.Address
import Budlum.Lib.Machine
import Budlum.Lib.Windows

/-!
# The byte memory of the machine

The machine reads and writes eight bytes at a byte address, least significant byte
first. A word written is read back from its own address, and it leaves every word that
lies at least eight bytes away as it was; of the words in between it leaves neither.
-/

namespace Budlum.BudZero

open Windows

/-- `u64::from_le_bytes`, at any width. -/
def ofLeBytes (bytes : Bytes) : ℕ := bytes.foldr (fun byte n => byte.toNat + 256 * n) 0

def readWord (memory : Bytes) (addr : ℕ) : ℕ := ofLeBytes (window memory addr 8)

def writeWord (memory : Bytes) (addr value : ℕ) : Bytes := overwrite memory addr (u64LeBytes value)

/-- `Vm::memory_word_addr`: the address of a word that lies in memory as a whole. -/
def memoryWordAddr (base : ℕ) (imm : ℤ) (memoryLen : ℕ) : Option ℕ :=
  let addr := (base : ℤ) + imm
  if addr < 0 then none
  else if Machine.u64Max < addr.toNat then none
  else
    match Machine.checkedAdd Machine.u64Max addr.toNat 8 with
    | none => none
    | some last => if last ≤ memoryLen then some addr.toNat else none

lemma ofLeBytes_leBytes {width n : ℕ} (h : n < 256 ^ width) : ofLeBytes (leBytes width n) = n := by
  induction width generalizing n with
  | zero =>
    have hzero : n = 0 := by simpa using h
    rw [hzero]
    rfl
  | succ width ih =>
    have hhigh : n / 256 < 256 ^ width := by
      rw [pow_succ] at h
      exact Nat.div_lt_of_lt_mul (by omega)
    have hbyte : (UInt8.ofNat n).toNat = n % 256 := by simp
    change (UInt8.ofNat n).toNat + 256 * ofLeBytes (leBytes width (n / 256)) = n
    rw [ih hhigh, hbyte]
    omega

lemma leBytes_ofLeBytes {width : ℕ} {bytes : Bytes} (h : bytes.length = width) :
    leBytes width (ofLeBytes bytes) = bytes := by
  induction bytes generalizing width with
  | nil => cases h; rfl
  | cons byte rest ih =>
    cases h
    have hbyte := byte.toNat_lt
    have hhigh : (byte.toNat + 256 * ofLeBytes rest) / 256 = ofLeBytes rest := by omega
    have hlow : UInt8.ofNat (byte.toNat + 256 * ofLeBytes rest) = byte := by
      apply UInt8.toNat.inj
      simp
    change UInt8.ofNat (byte.toNat + 256 * ofLeBytes rest) ::
      leBytes rest.length ((byte.toNat + 256 * ofLeBytes rest) / 256) = _
    rw [hlow, hhigh, ih rfl]

lemma ofLeBytes_lt (bytes : Bytes) : ofLeBytes bytes < 256 ^ bytes.length := by
  induction bytes with
  | nil => decide
  | cons byte rest ih =>
    have hbyte := byte.toNat_lt
    change byte.toNat + 256 * ofLeBytes rest < 256 ^ (rest.length + 1)
    rw [pow_succ]
    omega

@[simp] lemma length_u64LeBytes (value : ℕ) : (u64LeBytes value).length = 8 :=
  length_leBytes 8 value

variable {memory : Bytes} {addr addr' value : ℕ}

section

variable (h : addr + 8 ≤ memory.length)
include h

lemma readWord_lt : readWord memory addr < 2 ^ 64 := by
  have hlt := ofLeBytes_lt (window memory addr 8)
  rw [length_window h] at hlt
  exact hlt

lemma length_writeWord : (writeWord memory addr value).length = memory.length :=
  length_overwrite (by rwa [length_u64LeBytes])

lemma readWord_writeWord (hvalue : value < 2 ^ 64) :
    readWord (writeWord memory addr value) addr = value := by
  have hback : window (writeWord memory addr value) addr 8 = u64LeBytes value := by
    have hsame : window (overwrite memory addr (u64LeBytes value)) addr
        (u64LeBytes value).length = u64LeBytes value :=
      window_overwrite (by rwa [length_u64LeBytes])
    rwa [length_u64LeBytes] at hsame
  rw [readWord, hback]
  exact ofLeBytes_leBytes hvalue

lemma readWord_writeWord_apart (hapart : addr' + 8 ≤ addr ∨ addr + 8 ≤ addr') :
    readWord (writeWord memory addr value) addr' = readWord memory addr' := by
  unfold readWord writeWord
  rcases hapart with hbefore | hafter
  · rw [window_overwrite_before (by rwa [length_u64LeBytes]) hbefore]
  · rw [window_overwrite_after (by rwa [length_u64LeBytes]) (by rwa [length_u64LeBytes])]

end

lemma memoryWordAddr_eq_some {base memoryLen : ℕ} {imm : ℤ}
    (h : memoryWordAddr base imm memoryLen = some addr) :
    addr + 8 ≤ memoryLen ∧ (addr : ℤ) = base + imm := by
  unfold memoryWordAddr at h
  simp only at h
  split_ifs at h with hneg hbig
  cases hend : Machine.checkedAdd Machine.u64Max ((base : ℤ) + imm).toNat 8 with
  | none => rw [hend] at h; cases h
  | some last =>
    rw [hend] at h
    simp only [Option.ite_none_right_eq_some, Option.some.injEq] at h
    obtain ⟨-, hlast⟩ := Machine.checkedAdd_eq_some.mp hend
    omega

end Budlum.BudZero
