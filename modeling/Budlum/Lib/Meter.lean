import Budlum.Lib.Machine
import Budlum.Lib.SortedMap

/-!
# Limited use

A table of items, each with a limit and a clamped counter of its uses, next to the number of
uses that were made. An item may enter the table with part of its limit used up, so the
counter can be ahead of the uses. It is never behind them, unless the clamp cuts it off:
hence the bound on limits.
-/

open Machine

/-- `uses` counts the uses of the items of `table`, and no item is used beyond its limit. -/
structure Metered {K V : Type*} [LinearOrder K] (used limit : V → ℕ) (cap : ℕ)
    (table : SortedMap K V) (uses : K → ℕ) : Prop where
  absent : ∀ k, table.get? k = none → uses k = 0
  counted : ∀ k v, table.get? k = some v → uses k ≤ used v
  limited : ∀ k v, table.get? k = some v → uses k ≤ limit v
  capped : ∀ k v, table.get? k = some v → limit v ≤ cap

namespace Metered

variable {K V : Type*} [LinearOrder K] {used limit : V → ℕ} {cap : ℕ} {table : SortedMap K V}
  {uses uses' : K → ℕ} {k : K} {v w : V}

lemma empty : Metered used limit cap (∅ : SortedMap K V) fun _ => 0 where
  absent _ _ := rfl
  counted _ _ _ := Nat.zero_le _
  limited _ _ _ := Nat.zero_le _
  capped _ _ h := nomatch h

section

variable (h : Metered used limit cap table uses)
include h

lemma assign (hsame : ∀ x, x ≠ k → uses' x = uses x)
    (hcounted : uses' k ≤ used w) (hlimited : uses' k ≤ limit w) (hcapped : limit w ≤ cap) :
    Metered used limit cap (table.insert k w) uses' := by
  have hbounds : ∀ x v, (table.insert k w).get? x = some v →
      uses' x ≤ used v ∧ uses' x ≤ limit v ∧ limit v ≤ cap := by
    intro x v hv
    rcases SortedMap.get?_insert_eq_some.mp hv with ⟨rfl, rfl⟩ | ⟨hx, hold⟩
    · exact ⟨hcounted, hlimited, hcapped⟩
    · rw [hsame x hx]
      exact ⟨h.counted x v hold, h.limited x v hold, h.capped x v hold⟩
  refine ⟨fun x hx => ?_, fun x v hv => (hbounds x v hv).1, fun x v hv => (hbounds x v hv).2.1,
    fun x v hv => (hbounds x v hv).2.2⟩
  rw [SortedMap.get?_insert] at hx
  split_ifs at hx with hk
  rw [hsame x hk]
  exact h.absent x hx

lemma insert (hnew : table.get? k = none)
    (hcap : limit v ≤ cap) : Metered used limit cap (table.insert k v) uses := by
  have hzero : uses k = 0 := h.absent k hnew
  apply h.assign (fun _ _ => rfl) _ _ hcap
  · rw [hzero]
    exact Nat.zero_le _
  · rw [hzero]
    exact Nat.zero_le _

lemma replace (hget : table.get? k = some v)
    (hused : used w = used v) (hlimit : limit w = limit v) :
    Metered used limit cap (table.insert k w) uses := by
  apply h.assign fun _ _ => rfl
  · rw [hused]
    exact h.counted k v hget
  · rw [hlimit]
    exact h.limited k v hget
  · rw [hlimit]
    exact h.capped k v hget

lemma use (hget : table.get? k = some v)
    (hleft : used v < limit v) (hused : used w = satAdd cap (used v) 1)
    (hlimit : limit w = limit v) (hone : uses' k = uses k + 1)
    (hsame : ∀ x, x ≠ k → uses' x = uses x) : Metered used limit cap (table.insert k w) uses' := by
  have hcounted := h.counted k v hget
  have hcap := h.capped k v hget
  have hexact : used w = used v + 1 := by
    rw [hused, satAdd]
    omega
  apply h.assign hsame
  · omega
  · omega
  · omega

end

end Metered
