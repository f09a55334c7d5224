import Mathlib

/-!
# Complete binary hash trees over the numbers of a given width

A tree of depth `d` has a leaf for each of `2 ^ d` consecutive numbers. The hash of the
tree is `root`, the way from the root down to a number meets the subtrees `siblings`, and
`climb` goes back up from a leaf hash along such a list. The tree's own siblings lead from
the leaf to the root (`climb_siblings`). Two climbs along the bits of one number that end
in one hash started from one hash, unless `node` collides on what they hashed
(`climb_inj`).
-/

namespace SparseMerkle

open List Nat

variable {H : Type*} (node : H → H → H) (leaf : ℕ → H)

/-- The hash of the tree over the `2 ^ d` numbers from `start` on. -/
def root : ℕ → ℕ → H
  | 0, start => leaf start
  | d + 1, start => node (root d start) (root d (start + 2 ^ d))

/-- The hashes of the subtrees beside the way to `index`, from the root down. -/
def siblings (index : ℕ) : ℕ → ℕ → List H
  | 0, _ => []
  | d + 1, start =>
    if index.testBit d then root node leaf d start :: siblings index d (start + 2 ^ d)
    else root node leaf d (start + 2 ^ d) :: siblings index d start

/-- The hash at the end of the way up from `hash`, with the siblings from the root down. -/
def climb (index : ℕ) (hash : H) : List H → H
  | [] => hash
  | sibling :: below =>
    if index.testBit below.length then node sibling (climb index hash below)
    else node (climb index hash below) sibling

def inputs (index : ℕ) (hash : H) : List H → List (H × H)
  | [] => []
  | sibling :: below =>
    (if index.testBit below.length then (sibling, climb node index hash below)
      else (climb node index hash below, sibling)) :: inputs index hash below

variable {node leaf}

variable {d start index : ℕ}

lemma root_siblings_congr (index : ℕ) {leaf leaf' : ℕ → H}
    (h : ∀ k, start ≤ k → k < start + 2 ^ d → leaf k = leaf' k) :
    root node leaf d start = root node leaf' d start ∧
      siblings node leaf index d start = siblings node leaf' index d start := by
  induction d generalizing start with
  | zero => exact ⟨h start le_rfl (by simp), rfl⟩
  | succ d ih =>
    have hpow : 2 ^ (d + 1) = 2 ^ d + 2 ^ d := by rw [pow_succ]; omega
    obtain ⟨hleft, hpath⟩ := @ih start fun k hk hlt => h k hk (by omega)
    obtain ⟨hright, hpath'⟩ := @ih (start + 2 ^ d) fun k hk hlt => h k (by omega) (by omega)
    rw [root, root, siblings, siblings, hleft, hright, hpath, hpath']
    exact ⟨rfl, rfl⟩

@[simp] lemma length_siblings (index d start : ℕ) :
    (siblings node leaf index d start).length = d := by
  induction d generalizing start with
  | zero => rfl
  | succ d ih =>
    unfold siblings
    split_ifs <;> simp [ih]

lemma climb_siblings (h : start + index % 2 ^ d = index) :
    climb node index (leaf index) (siblings node leaf index d start) = root node leaf d start := by
  induction d generalizing start with
  | zero =>
    have hstart : start = index := by simpa [mod_one] using h
    simp [siblings, climb, root, hstart]
  | succ d ih =>
    have hmod := mod_pow_succ (x := index) (b := 2) (k := d)
    unfold siblings
    split_ifs with hbit
    · have hdigit : index / 2 ^ d % 2 = 1 := by
        rw [testBit_eq_decide_div_mod_eq] at hbit
        simpa using hbit
      rw [climb, length_siblings, if_pos hbit, ih (by rw [hdigit] at hmod; omega), root]
    · have hdigit : index / 2 ^ d % 2 = 0 := by
        rw [testBit_eq_decide_div_mod_eq] at hbit
        have := mod_two_eq_zero_or_one (index / 2 ^ d)
        simp at hbit
        omega
      rw [climb, length_siblings, if_neg hbit, ih (by rw [hdigit] at hmod; omega), root]

/-- Two climbs of one length and along one index that end in the same hash began with the
same hash, when `node` does not collide on the pairs they hashed. -/
lemma climb_inj {hash hash' : H} {path path' : List H} (hlen : path.length = path'.length)
    (hfree : Set.InjOn (Function.uncurry node)
      {pair | pair ∈ inputs node index hash path ∨ pair ∈ inputs node index hash' path'})
    (h : climb node index hash path = climb node index hash' path') : hash = hash' := by
  induction path generalizing path' with
  | nil =>
    obtain rfl := eq_nil_of_length_eq_zero hlen.symm
    exact h
  | cons sibling below ih =>
    cases path' with
    | nil => cases hlen
    | cons sibling' below' =>
      have hbelow : below.length = below'.length := succ.inj hlen
      have hsub : Set.InjOn (Function.uncurry node) {pair | pair ∈ inputs node index hash below ∨
          pair ∈ inputs node index hash' below'} :=
        hfree.mono fun pair hpair => hpair.imp (mem_cons_of_mem _) (mem_cons_of_mem _)
      have hpair := hfree (.inl mem_cons_self) (.inr mem_cons_self)
      rw [climb, climb, hbelow] at h
      rw [hbelow] at hpair
      apply ih hbelow hsub
      split_ifs at h hpair
      · exact (Prod.mk.inj (hpair h)).2
      · exact (Prod.mk.inj (hpair h)).1

end SparseMerkle
