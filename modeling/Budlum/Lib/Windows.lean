import Mathlib

/-!
# Windows of a list

A memory is a list of cells that keeps its length. It is read and written through
windows: `window i n` is the `n` cells from position `i` on, and `overwrite i xs` puts
the cells `xs` there. A write is read back from its own window, and it leaves every
window apart from it as it was.
-/

namespace Windows

open List

variable {α : Type*}

/-- The `n` cells from position `i` on. -/
def window (cells : List α) (i n : ℕ) : List α := (cells.drop i).take n

/-- `cells` with `xs` in place of the cells from position `i` on. -/
def overwrite (cells : List α) (i : ℕ) (xs : List α) : List α :=
  cells.take i ++ xs ++ cells.drop (i + xs.length)

variable {cells xs : List α} {i j n : ℕ}

lemma length_window (h : i + n ≤ cells.length) : (window cells i n).length = n := by
  simp only [window, length_take, length_drop]
  omega

lemma window_append_drop (cells : List α) (i n : ℕ) :
    window cells i n ++ cells.drop (i + n) = cells.drop i := by
  rw [← drop_drop]
  exact take_append_drop n _

lemma window_take {m : ℕ} (h : i + n ≤ m) : window (cells.take m) i n = window cells i n := by
  rw [window, drop_take, take_take, min_eq_left (by omega), window]

lemma window_one (h : i < cells.length) (a : α) :
    window cells i 1 = [(cells.drop i).headD a] := by
  rw [window, drop_eq_getElem_cons h]
  rfl

section

variable (h : i + xs.length ≤ cells.length)
include h

lemma length_overwrite : (overwrite cells i xs).length = cells.length := by
  simp only [overwrite, length_append, length_take, length_drop]
  omega

lemma window_overwrite : window (overwrite cells i xs) i xs.length = xs := by
  have htake : (cells.take i).length = i := by
    rw [length_take]
    omega
  unfold window overwrite
  rw [append_assoc, drop_append_of_le_length (by omega),
    drop_eq_nil_of_le (by omega), nil_append, take_left]

lemma window_overwrite_before (hj : j + n ≤ i) :
    window (overwrite cells i xs) j n = window cells j n := by
  apply ext_getElem?
  intro k
  simp only [window, overwrite, getElem?_take, getElem?_drop]
  by_cases hk : k < n
  · have htake : j + k < (cells.take i).length := by
      rw [length_take]
      omega
    rw [if_pos hk, if_pos hk, append_assoc, getElem?_append_left htake,
      getElem?_take, if_pos (by omega)]
  · rw [if_neg hk, if_neg hk]

lemma window_overwrite_after (hj : i + xs.length ≤ j) :
    window (overwrite cells i xs) j n = window cells j n := by
  have hlen : (cells.take i ++ xs).length = i + xs.length := by
    rw [length_append, length_take]
    omega
  unfold window overwrite
  rw [drop_append, drop_eq_nil_of_le (by omega), nil_append,
    drop_drop, hlen, Nat.add_sub_cancel' hj]

end

end Windows
