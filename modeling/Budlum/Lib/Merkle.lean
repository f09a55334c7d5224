import Mathlib

/-!
# Binary hash trees kept level by level

A tree is the list of its levels, leaves first. A level is hashed in pairs, and
a node without a right sibling is paired with itself. `update` recomputes only
the ancestors of a list of changed leaves; `update_levels` says that this gives
the tree that building from the leaves gives.

A leaf is authenticated by the siblings on its way up. `climb_path` says that the
siblings the tree gives lead to its root, and `Built.of_climb` that whatever climbs to a
node of the tree is one itself, for a `node` that is injective and never makes a leaf.
-/

namespace Merkle

open List Option

variable {H : Type*} (node : H → H → H)

/-- The level above: adjacent nodes combined, an odd last node with itself. -/
def nextLevel : List H → List H
  | [] => []
  | [x] => [node x x]
  | x :: y :: rest => node x y :: nextLevel rest

/-- The levels from `level` up to the first one of a single node. -/
def levels : ℕ → List H → List (List H)
  | 0, level => [level]
  | fuel + 1, level =>
    if level.length ≤ 1 then [level] else level :: levels fuel (nextLevel node level)

/-- The tree over `leaves`: their number bounds the number of levels. -/
def tree (leaves : List H) : List (List H) := levels node leaves.length leaves

/-- The first node of the last level. -/
def root? (t : List (List H)) : Option H := t.getLast?.bind head?

/-- Node `p` of the level above `level`. -/
def parentAt (level : List H) (p : ℕ) : Option H :=
  level[2 * p]?.map fun left => node left (level[2 * p + 1]?.getD left)

/-- The level above `level`, from a stale copy `next`, with the parents of the
nodes `affected` hashed again. -/
def updateParents (affected : List ℕ) (level next : List H) : List H :=
  affected.foldl
    (fun acc i =>
      match parentAt node level (i / 2) with
      | some h => acc.set (i / 2) h
      | none => acc)
    next

/-- The tree over `level`, from stale levels `above` it, with the ancestors of
the nodes `affected` hashed again. -/
def update (affected : List ℕ) (level : List H) : List (List H) → List (List H)
  | [] => [level]
  | next :: rest =>
    if affected.isEmpty then level :: next :: rest
    else level :: update (affected.map (· / 2)) (updateParents node affected level next) rest

/-! ## One level -/

lemma length_nextLevel : ∀ level : List H, (nextLevel node level).length = (level.length + 1) / 2
  | [] => by simp [nextLevel]
  | [_] => by simp [nextLevel]
  | _ :: _ :: rest => by
      simp only [nextLevel, length_cons, length_nextLevel rest]
      omega

lemma getElem?_nextLevel : ∀ (level : List H) (p : ℕ),
    (nextLevel node level)[p]? = parentAt node level p
  | [], p => by simp [nextLevel, parentAt]
  | [x], 0 => by simp [nextLevel, parentAt]
  | [x], p + 1 => by simp [nextLevel, parentAt, mul_add]
  | x :: y :: rest, 0 => by simp [nextLevel, parentAt]
  | x :: y :: rest, p + 1 => by
      have ih := getElem?_nextLevel rest p
      have h₁ : 2 * (p + 1) = 2 * p + 1 + 1 := by omega
      have h₂ : 2 * (p + 1) + 1 = (2 * p + 1) + 1 + 1 := by omega
      simp only [nextLevel, getElem?_cons_succ, ih, parentAt, h₁]

lemma parentAt_congr {l l' : List H} {p : ℕ}
    (hleft : l[2 * p]? = l'[2 * p]?) (hright : l[2 * p + 1]? = l'[2 * p + 1]?) :
    parentAt node l p = parentAt node l' p := by
  simp only [parentAt, hleft, hright]

lemma parentAt_isSome (level : List H) (p : ℕ) :
    (parentAt node level p).isSome ↔ 2 * p < level.length := by
  simp [parentAt]

lemma getElem?_updateParents (affected : List ℕ) (level next : List H) (p : ℕ)
    (hlen : next.length = (level.length + 1) / 2) :
    (updateParents node affected level next)[p]? =
      if p ∈ affected.map (· / 2) then parentAt node level p else next[p]? := by
  -- the first affected node is consumed; what it wrote is kept or rewritten later
  induction affected generalizing next with
  | nil => simp [updateParents]
  | cons i affected ih =>
    rw [updateParents, foldl_cons]
    change (updateParents node affected level _)[p]? = _
    split
    · rename_i h hh
      rw [ih _ (by simpa using hlen)]
      have hbound : i / 2 < next.length := by
        have := (parentAt_isSome node level (i / 2)).mp (by simp [hh])
        omega
      by_cases hp : p = i / 2
      · subst hp
        simp [hh, hbound]
      · have hne : ¬ i / 2 = p := fun h => hp h.symm
        simp [hp, getElem?_set_ne hne]
    · rename_i hh
      rw [ih _ hlen]
      by_cases hp : p = i / 2
      · subst hp
        have hout : next.length ≤ i / 2 := by
          have := mt (parentAt_isSome node level (i / 2)).mpr (by simp [hh])
          omega
        simp [hh, hout]
      · simp [hp]

variable {affected : List ℕ} {old new level : List H}

lemma nextLevel_agree (hsame : ∀ i ∉ affected, old[i]? = new[i]?) :
    ∀ p ∉ affected.map (· / 2), (nextLevel node old)[p]? = (nextLevel node new)[p]? := by
  intro p hp
  have hmem : ∀ i, i / 2 = p → i ∉ affected := by
    intro i hi hia
    exact hp (mem_map.mpr ⟨i, hia, hi⟩)
  rw [getElem?_nextLevel, getElem?_nextLevel]
  exact parentAt_congr node (hsame _ (hmem _ (by omega))) (hsame _ (hmem _ (by omega)))

lemma updateParents_nextLevel
    (hlen : old.length = new.length) (hsame : ∀ i ∉ affected, old[i]? = new[i]?) :
    updateParents node affected new (nextLevel node old) = nextLevel node new := by
  apply ext_getElem?
  intro p
  rw [getElem?_updateParents node affected new _ p (by rw [length_nextLevel, hlen])]
  split_ifs with hp
  · exact (getElem?_nextLevel ..).symm
  · exact nextLevel_agree node hsame p hp

/-! ## The whole tree -/

lemma levels_ne_nil (fuel : ℕ) (level : List H) : levels node fuel level ≠ [] := by
  cases fuel with
  | zero => simp [levels]
  | succ fuel =>
    rw [levels]
    split_ifs <;> simp

lemma levels_eq_cons (fuel : ℕ) (level : List H) :
    levels node fuel level = level :: (levels node fuel level).tail := by
  cases fuel with
  | zero => rfl
  | succ fuel =>
    rw [levels]
    split_ifs <;> rfl

lemma update_levels (fuel : ℕ)
    (hlen : old.length = new.length) (hsame : ∀ i ∉ affected, old[i]? = new[i]?) :
    update node affected new (levels node fuel old).tail = levels node fuel new := by
  -- on the fuel: one level is rehashed, and the parents differ only above `affected`
  induction fuel generalizing affected old new with
  | zero => simp [levels, update]
  | succ fuel ih =>
    rw [levels, levels, hlen]
    split_ifs with hsmall
    · simp [update]
    · rw [tail_cons, levels_eq_cons, update]
      split_ifs with hempty
      · have hnone : affected = [] := isEmpty_iff.mp hempty
        have heq : old = new := ext_getElem? fun i => hsame i (by simp [hnone])
        rw [← levels_eq_cons, heq]
      · rw [updateParents_nextLevel node hlen hsame,
          ih (by rw [length_nextLevel, length_nextLevel, hlen]) (nextLevel_agree node hsame)]

lemma update_tree (hlen : old.length = new.length) (hsame : ∀ i ∉ affected, old[i]? = new[i]?) :
    update node affected new (tree node old).tail = tree node new := by
  rw [tree, tree, ← hlen]
  exact update_levels node old.length hlen hsame

/-! ## Authentication paths -/

/-- Where the sibling of node `i` stands in its level. -/
def siblingIndex (i : ℕ) : ℕ := if i % 2 = 0 then i + 1 else i - 1

/-- The siblings on the way from node `i` of `level` up to the root. A node without a
sibling is its own. -/
def path : ℕ → ℕ → List H → Option (List H)
  | 0, _, _ => some []
  | fuel + 1, i, level =>
    if level.length ≤ 1 then some []
    else do
      let self ← level[i]?
      let siblings ← path fuel (i / 2) (nextLevel node level)
      some (level[siblingIndex i]?.getD self :: siblings)

/-- Combine a node with its sibling, on the side that the parity of its index says. -/
def join (h : H) (i : ℕ) (sibling : H) : H := if i % 2 = 0 then node h sibling else node sibling h

/-- Climb from node `i` along siblings. -/
def climb : H → ℕ → List H → H
  | h, _, [] => h
  | h, i, sibling :: siblings => climb (join node h i sibling) (i / 2) siblings

lemma foldl_join (siblings : List H) (h : H) (i : ℕ) :
    (siblings.foldl (fun acc sibling => (join node acc.1 acc.2 sibling, acc.2 / 2)) (h, i)).1 =
      climb node h i siblings := by
  induction siblings generalizing h i with
  | nil => rfl
  | cons sibling siblings ih => exact ih _ _

lemma join_sibling {i : ℕ} {h : H} (hi : level[i]? = some h) : (nextLevel node level)[i / 2]? =
      some (join node h i (level[siblingIndex i]?.getD h)) := by
  rw [getElem?_nextLevel, parentAt, join, siblingIndex]
  rcases Nat.mod_two_eq_zero_or_one i with heven | hodd
  · have hleft : 2 * (i / 2) = i := by omega
    rw [if_pos heven, if_pos heven, hleft, hi]
    rfl
  · have hright : 2 * (i / 2) + 1 = i := by omega
    have hpred : 2 * (i / 2) = i - 1 := by omega
    have hbound : i - 1 < level.length := by
      have := (List.getElem?_eq_some_iff.mp hi).1
      omega
    rw [if_neg (by omega), if_neg (by omega), hright, hpred, hi, List.getElem?_eq_getElem hbound]
    rfl

lemma root?_cons (level : List H) (t : List (List H)) (hne : t ≠ []) :
    root? (level :: t) = root? t := by
  rw [root?, root?, getLast?_cons_of_ne_nil hne]

lemma root?_singleton {i : ℕ} {h : H} (hi : level[i]? = some h)
    (hsmall : level.length ≤ 1) : root? [level] = some h := by
  have hbound := (List.getElem?_eq_some_iff.mp hi).1
  obtain ⟨r, rfl⟩ := length_eq_one_iff.mp (by omega : level.length = 1)
  obtain rfl : i = 0 := by simpa using hbound
  exact hi

lemma climb_path (fuel : ℕ) {i : ℕ} {h : H} (hi : level[i]? = some h)
    (hfuel : level.length ≤ fuel + 1) : ∃ siblings, path node fuel i level = some siblings ∧
      root? (levels node fuel level) = some (climb node h i siblings) := by
  -- on the fuel: the parent of the node climbs one level further up
  induction fuel generalizing level i h with
  | zero => exact ⟨[], rfl, root?_singleton hi hfuel⟩
  | succ fuel ih =>
    rw [path, levels]
    split_ifs with hsmall
    · exact ⟨[], rfl, root?_singleton hi hsmall⟩
    · have hlen := length_nextLevel node level
      obtain ⟨siblings, hpath, hroot⟩ := ih (join_sibling node hi) (by omega)
      refine ⟨_, by rw [hi, hpath]; rfl, ?_⟩
      rw [root?_cons level _ (levels_ne_nil node fuel _)]
      exact hroot

lemma eq_zero_of_path_nil {i : ℕ} {h : H} (hi : level[i]? = some h)
    (hpath : path node level.length i level = some []) : i = 0 := by
  have hbound := (List.getElem?_eq_some_iff.mp hi).1
  obtain ⟨n, hn⟩ := Nat.exists_eq_add_of_lt hbound
  by_contra hne
  rw [hn, path, if_neg (by omega), hi] at hpath
  obtain ⟨_, -, hcons⟩ := bind_eq_some_iff.mp (show bind _ _ = _ from hpath)
  obtain ⟨_, -, hcons⟩ := bind_eq_some_iff.mp (show bind _ _ = _ from hcons)
  cases hcons

/-- What can be made from `leaves` by combining. -/
inductive Built (leaves : List H) : H → Prop
  | leaf {h : H} (mem : h ∈ leaves) : Built leaves h
  | node {l r : H} (left : Built leaves l) (right : Built leaves r) : Built leaves (node l r)

namespace Built

variable {node} {leaves : List H}

lemma of_mem_nextLevel : ∀ {level : List H}, (∀ h ∈ level, Built node leaves h) →
    ∀ h ∈ nextLevel node level, Built node leaves h
  | [], _ => fun _ hh => by cases hh
  | [x], hlevel => by
      rintro h hh
      obtain rfl := mem_singleton.mp hh
      exact .node (hlevel x (by simp)) (hlevel x (by simp))
  | x :: y :: rest, hlevel => by
      rintro h hh
      rcases mem_cons.mp hh with rfl | hrest
      · exact .node (hlevel x (by simp)) (hlevel y (by simp))
      · exact of_mem_nextLevel (fun z hz => hlevel z (by simp [hz])) h hrest

lemma of_root? (fuel : ℕ) {level : List H} (hlevel : ∀ h ∈ level, Built node leaves h) {r : H}
    (hr : root? (levels node fuel level) = some r) : Built node leaves r := by
  induction fuel generalizing level with
  | zero => exact hlevel r (mem_of_mem_head? hr)
  | succ fuel ih =>
    rw [levels] at hr
    split_ifs at hr
    · exact hlevel r (mem_of_mem_head? hr)
    · rw [root?_cons level _ (levels_ne_nil node fuel _)] at hr
      exact ih (of_mem_nextLevel hlevel) hr

variable (hinj : ∀ {a b c d}, node a b = node c d → a = c ∧ b = d)
  (hleaves : ∀ h ∈ leaves, ∀ a b, h ≠ node a b)

include hinj hleaves in
lemma children {l r : H} (h : Built node leaves (node l r)) :
    Built node leaves l ∧ Built node leaves r := by
  generalize hx : node l r = x at h
  cases h with
  | leaf mem => exact absurd hx.symm (hleaves x mem l r)
  | node left right =>
    obtain ⟨rfl, rfl⟩ := hinj hx
    exact ⟨left, right⟩

include hinj hleaves in
lemma of_climb (siblings : List H) {h : H} {i : ℕ}
    (hclimb : Built node leaves (climb node h i siblings)) : Built node leaves h := by
  induction siblings generalizing h i with
  | nil => exact hclimb
  | cons sibling siblings ih =>
    have hjoin : Built node leaves (join node h i sibling) := ih hclimb
    rw [join] at hjoin
    split_ifs at hjoin
    · exact (children hinj hleaves hjoin).1
    · exact (children hinj hleaves hjoin).2

lemma mem_of_leaf {h : H} (hbuilt : Built node leaves h) (hleaf : ∀ a b, h ≠ node a b) :
    h ∈ leaves := by
  cases hbuilt with
  | leaf mem => exact mem
  | node left right => exact absurd rfl (hleaf _ _)

end Built

section

variable {node} (hinj : ∀ {a b c d}, node a b = node c d → a = c ∧ b = d)
include hinj

end

end Merkle
