import Budlum.BudFormat.Container

/-!
# Block deltas

`add_delta` writes the next version of a file as a mark for every block that stands in the
previous version at the same place, and as the block itself for every other. The stream
holds no lengths, so a last block that is stored short is not read back.
-/

namespace Budlum.BudFormat

open Windows List

/-- `data.chunks(size).get(i)`. -/
def chunkAt (data : Bytes) (size i : ℕ) : Option Bytes :=
  if i * size < data.length then some (window data (i * size) size) else none

/-- The entry of one block of the next version: a mark, or the whole block. -/
def deltaEntry (prev next : Bytes) (size i : ℕ) : Bytes :=
  let block := window next (i * size) size
  if chunkAt prev size i = some block then [0] else 1 :: block

def addDelta (prev next : Bytes) (size : ℕ) : Bytes :=
  (range ((next.length + size - 1) / size)).flatMap (deltaEntry prev next size)

/-- The loop of `apply_delta` from block `i` on, over the bytes not yet read. -/
def applyFrom (prev : Bytes) (size i : ℕ) : Bytes → Option Bytes
  | [] => some []
  | flag :: rest =>
    if flag = 0 then do
      let block ← chunkAt prev size i
      (applyFrom prev size (i + 1) rest).map (block ++ ·)
    else if flag = 1 then
      if rest.length < size then none
      else (applyFrom prev size (i + 1) (rest.drop size)).map (rest.take size ++ ·)
    else none
  termination_by delta => delta.length

def applyDelta (prev delta : Bytes) (size : ℕ) : Option Bytes := applyFrom prev size 0 delta

variable {prev next : Bytes} {size : ℕ}

lemma applyFrom_entry {i : ℕ} (rest : Bytes)
    (h : chunkAt prev size i = some (window next (i * size) size) ∨ (i + 1) * size ≤ next.length) :
    applyFrom prev size i (deltaEntry prev next size i ++ rest) =
      (applyFrom prev size (i + 1) rest).map (window next (i * size) size ++ ·) := by
  unfold deltaEntry
  dsimp only
  split
  next hsame => simp [applyFrom, hsame]
  next hother =>
    have hlength : (window next (i * size) size).length = size :=
      length_window (by rw [← Nat.succ_mul]; exact h.resolve_left hother)
    simp [applyFrom, hlength]

lemma applyFrom_entries {n : ℕ} (rest : Bytes) (h : ∀ i < n,
      chunkAt prev size i = some (window next (i * size) size) ∨ (i + 1) * size ≤ next.length) :
    applyFrom prev size 0 ((range n).flatMap (deltaEntry prev next size) ++ rest) =
      (applyFrom prev size n rest).map (next.take (n * size) ++ ·) := by
  induction n generalizing rest with
  | zero => simp
  | succ n ih =>
    rw [range_succ, flatMap_append, append_assoc, ih _ fun i hi => h i (hi.trans n.lt_succ_self),
      flatMap_singleton, applyFrom_entry _ (h n n.lt_succ_self), Option.map_map, Nat.succ_mul,
      take_add]
    simp [Function.comp_def, window]

/-- A delta gives the next version back exactly when its last block is a whole one or stands
in the previous version as it is: the reader takes every stored block for a whole one. -/
theorem applyDelta_addDelta_iff (prev next : Bytes) (size : ℕ+) :
    applyDelta prev (addDelta prev next size) size = some next ↔
      (size : ℕ) ∣ next.length ∨ chunkAt prev size (next.length / size) =
        some (window next (next.length / size * size) size) := by
  have hpos := size.pos
  generalize (size : ℕ) = size at hpos
  have hdiv := Nat.div_add_mod' next.length size
  have hless := Nat.mod_lt next.length hpos
  unfold applyDelta addDelta
  by_cases hlast : size ∣ next.length ∨ chunkAt prev size (next.length / size) =
      some (window next (next.length / size * size) size)
  · refine iff_of_true ?_ hlast
    rw [← append_nil (flatMap _ _), applyFrom_entries [] fun i hi => ?_]
    · have hcover := Nat.lt_div_mul_add hpos (a := next.length + size - 1)
      simp [applyFrom]
      omega
    · have hle := (Nat.le_div_iff_mul_le hpos).mp (Nat.succ_le_of_lt hi)
      refine or_iff_not_imp_right.mpr fun hshort => ?_
      rw [Nat.succ_mul] at hle hshort
      have hi : next.length / size = i :=
        Nat.div_eq_of_lt_le (by omega) (by rw [Nat.succ_mul]; omega)
      rw [hi] at hlast
      refine hlast.resolve_left fun hdvd => ?_
      rw [← hi, Nat.div_mul_cancel hdvd] at hle
      omega
  · refine iff_of_false ?_ hlast
    rw [not_or, Nat.dvd_iff_mod_eq_zero] at hlast
    have hcount : (next.length + size - 1) / size = next.length / size + 1 :=
      Nat.div_eq_of_lt_le (by rw [Nat.succ_mul]; omega) (by simp only [Nat.succ_mul]; omega)
    have hshort : (window next (next.length / size * size) size).length < size := by
      simp only [window, length_take, length_drop]
      omega
    rw [hcount, range_succ, flatMap_append, flatMap_singleton, applyFrom_entries _ fun i hi =>
      .inr ((Nat.le_div_iff_mul_le hpos).mp hi)]
    simp [deltaEntry, hlast.2, applyFrom, hshort]

theorem short_block_is_lost : applyDelta [] (addDelta [] [7] 2) 2 = none := by
  decide +kernel

end Budlum.BudFormat
