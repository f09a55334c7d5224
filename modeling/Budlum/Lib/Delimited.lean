import Mathlib

/-!
# What an encoding tells

An encoding tells a view of what it encodes if the view can be read off the encoding whatever
follows it. Encodings of one width do, encodings written one after the other tell what each of
them tells, and a list without an end mark tells its elements to a reader who knows how many
there are.
-/

variable {α β γ δ : Type*}

/-- Two values of which `P` holds have one view if their encodings begin one string, and then
the same follows them. -/
def Tells (P : α → Prop) (enc : α → List β) (view : α → γ) : Prop :=
  ∀ ⦃a b⦄, P a → P b → ∀ ⦃r r'⦄, enc a ++ r = enc b ++ r' → view a = view b ∧ r = r'

namespace Tells

open List

variable {P : α → Prop} {enc enc' : α → List β} {view : α → γ} {view' : α → δ}

lemma of_length {n : ℕ} (hlength : ∀ a, P a → (enc a).length = n)
    (hview : ∀ a b, P a → P b → enc a = enc b → view a = view b) : Tells P enc view := by
  intro a b ha hb r r' h
  obtain ⟨henc, hrest⟩ := append_inj h ((hlength a ha).trans (hlength b hb).symm)
  exact ⟨hview a b ha hb henc, hrest⟩

lemma append (h : Tells P enc view) (h' : Tells P enc' view') :
    Tells P (fun a => enc a ++ enc' a) fun a => (view a, view' a) := by
  intro a b ha hb r r' heq
  rw [append_assoc, append_assoc] at heq
  obtain ⟨hview, hrest⟩ := h ha hb heq
  obtain ⟨hview', hrest'⟩ := h' ha hb hrest
  exact ⟨Prod.ext hview hview', hrest'⟩

lemma comp {Q : δ → Prop} (h : Tells P enc view) (p : δ → α) (hp : ∀ d, Q d → P (p d)) :
    Tells Q (fun d => enc (p d)) fun d => view (p d) :=
  fun a b ha hb _ _ heq => h (hp a ha) (hp b hb) heq

lemma flatMap (h : Tells P enc view) {xs ys : List α} (hxs : ∀ x ∈ xs, P x)
    (hys : ∀ y ∈ ys, P y) (hlength : xs.length = ys.length) {r r' : List β}
    (heq : xs.flatMap enc ++ r = ys.flatMap enc ++ r') : xs.map view = ys.map view ∧ r = r' := by
  induction xs generalizing ys with
  | nil =>
    obtain rfl : ys = [] := length_eq_zero_iff.mp hlength.symm
    exact ⟨rfl, heq⟩
  | cons x xs ih =>
    obtain _ | ⟨y, ys⟩ := ys
    · cases hlength
    rw [flatMap_cons, flatMap_cons, append_assoc, append_assoc] at heq
    obtain ⟨hview, hrest⟩ := h (hxs x mem_cons_self) (hys y mem_cons_self) heq
    obtain ⟨hviews, hr⟩ := ih (fun z hz => hxs z (mem_cons_of_mem _ hz))
      (fun z hz => hys z (mem_cons_of_mem _ hz)) (Nat.succ.inj hlength) hrest
    exact ⟨by rw [map_cons, map_cons, hview, hviews], hr⟩

/-- Encodings that are not empty tell the elements also to a reader who does not know how many
there are, if nothing follows them. -/
lemma flatMap_eq (h : Tells P enc view) (hne : ∀ a, P a → enc a ≠ []) {xs ys : List α}
    (hxs : ∀ x ∈ xs, P x) (hys : ∀ y ∈ ys, P y) (heq : xs.flatMap enc = ys.flatMap enc) :
    xs.map view = ys.map view := by
  induction xs generalizing ys with
  | nil =>
    rcases ys with _ | ⟨y, ys⟩
    · rfl
    · have hempty := (append_eq_nil_iff.mp heq.symm).1
      exact absurd hempty (hne y (hys y mem_cons_self))
  | cons x xs ih =>
    rcases ys with _ | ⟨y, ys⟩
    · have hempty := (append_eq_nil_iff.mp heq).1
      exact absurd hempty (hne x (hxs x mem_cons_self))
    obtain ⟨hview, hrest⟩ := h (hxs x mem_cons_self) (hys y mem_cons_self) heq
    have hviews := ih (fun z hz => hxs z (mem_cons_of_mem _ hz))
      (fun z hz => hys z (mem_cons_of_mem _ hz)) hrest
    rw [map_cons, map_cons, hview, hviews]

end Tells
