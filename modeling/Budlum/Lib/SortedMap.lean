import Mathlib

/-!
# Maps ordered by key

A map is its list of entries, strictly ascending by key, and carries the proof
that it is. Iteration is therefore in key order, and two maps with the same
lookups are equal (`SortedMap.ext_get?`).
-/

/-- A finite map, held as the strictly ascending list of its entries. -/
structure SortedMap (K V : Type*) [LinearOrder K] where
  entries : List (K × V)
  sorted : entries.Pairwise fun a b => a.1 < b.1

namespace SortedMap

open List

variable {K V : Type*} [LinearOrder K]

instance [DecidableEq V] : DecidableEq (SortedMap K V) := fun m m' =>
  decidable_of_iff (m.entries = m'.entries) <| by
    cases m
    cases m'
    simp

/-! ## Operations on entry lists -/

def lookupEntry (k : K) : List (K × V) → Option V
  | [] => none
  | (k', v) :: rest => if k = k' then some v else lookupEntry k rest

def insertEntry (k : K) (v : V) : List (K × V) → List (K × V)
  | [] => [(k, v)]
  | (k', v') :: rest =>
    if k < k' then (k, v) :: (k', v') :: rest
    else if k = k' then (k, v) :: rest
    else (k', v') :: insertEntry k v rest

lemma mem_insertEntry {k : K} {v : V} {e : K × V} : ∀ {l : List (K × V)},
    e ∈ insertEntry k v l → e = (k, v) ∨ e ∈ l
  | [], h => by simpa [insertEntry] using h
  | (k', v') :: rest, h => by
      unfold insertEntry at h
      split_ifs at h
      · simpa using h
      · rcases mem_cons.mp h with h | h
        · exact Or.inl h
        · exact Or.inr (mem_cons_of_mem _ h)
      · rcases mem_cons.mp h with h | h
        · exact Or.inr (h ▸ mem_cons_self)
        · rcases mem_insertEntry h with h | h
          · exact Or.inl h
          · exact Or.inr (mem_cons_of_mem _ h)

lemma insertEntry_sorted {k : K} {v : V} : ∀ {l : List (K × V)},
    l.Pairwise (fun a b => a.1 < b.1) → (insertEntry k v l).Pairwise fun a b => a.1 < b.1
  | [], _ => pairwise_singleton _ _
  | (k', v') :: rest, hs => by
      obtain ⟨hhead, htail⟩ := pairwise_cons.mp hs
      unfold insertEntry
      split_ifs with hlt heq
      · refine pairwise_cons.mpr ⟨?_, hs⟩
        intro e he
        rcases mem_cons.mp he with rfl | he
        · exact hlt
        · exact hlt.trans (hhead e he)
      · subst heq
        exact pairwise_cons.mpr ⟨hhead, htail⟩
      · refine pairwise_cons.mpr ⟨?_, insertEntry_sorted htail⟩
        intro e he
        rcases mem_insertEntry he with rfl | he
        · exact lt_of_le_of_ne (not_lt.mp hlt) (Ne.symm heq)
        · exact hhead e he

lemma lookupEntry_insertEntry (k k' : K) (v : V) : ∀ l : List (K × V),
    lookupEntry k' (insertEntry k v l) = if k' = k then some v else lookupEntry k' l
  | [] => by simp [insertEntry, lookupEntry]
  | (j, w) :: rest => by
      have ih := lookupEntry_insertEntry k k' v rest
      by_cases hk : k' = k
      · subst hk
        rw [if_pos rfl] at ih ⊢
        unfold insertEntry
        split_ifs with hlt heq
        · simp [lookupEntry]
        · simp [lookupEntry]
        · simp [lookupEntry, heq, ih]
      · unfold insertEntry
        split_ifs with hlt heq
        · simp [lookupEntry, hk]
        · subst heq
          simp [lookupEntry, hk]
        · simp [lookupEntry, hk, ih]

lemma lookupEntry_eq_some {k : K} {v : V} : ∀ {l : List (K × V)},
    l.Pairwise (fun a b => a.1 < b.1) → (lookupEntry k l = some v ↔ (k, v) ∈ l)
  | [], _ => by simp [lookupEntry]
  | (k', v') :: rest, hs => by
      obtain ⟨hhead, htail⟩ := pairwise_cons.mp hs
      unfold lookupEntry
      split_ifs with hk
      · subst hk
        simp only [Option.some.injEq, mem_cons, Prod.mk.injEq, true_and]
        constructor
        · exact fun h => Or.inl h.symm
        · rintro (h | h)
          · exact h.symm
          · exact absurd (hhead _ h) (lt_irrefl _)
      · simp [hk, lookupEntry_eq_some htail]

/-! ## The map -/

def empty : SortedMap K V := ⟨[], List.Pairwise.nil⟩

instance : EmptyCollection (SortedMap K V) := ⟨empty⟩

def get? (m : SortedMap K V) (k : K) : Option V := lookupEntry k m.entries

def contains (m : SortedMap K V) (k : K) : Bool := (m.get? k).isSome

def insert (m : SortedMap K V) (k : K) (v : V) : SortedMap K V :=
  ⟨insertEntry k v m.entries, insertEntry_sorted m.sorted⟩

def filter (m : SortedMap K V) (p : K × V → Bool) : SortedMap K V :=
  ⟨m.entries.filter p, m.sorted.filter p⟩

def erase (m : SortedMap K V) (k : K) : SortedMap K V := m.filter fun e => decide (e.1 ≠ k)

def dropFirst (m : SortedMap K V) (n : ℕ) : SortedMap K V :=
  ⟨m.entries.drop n, m.sorted.sublist (drop_sublist n m.entries)⟩

def keys (m : SortedMap K V) : List K := m.entries.map Prod.fst

def values (m : SortedMap K V) : List V := m.entries.map Prod.snd

def mapValues {W : Type*} (m : SortedMap K V) (f : K → V → W) : SortedMap K W :=
  ⟨m.entries.map fun e => (e.1, f e.1 e.2), m.sorted.map _ fun _ _ h => h⟩

@[simp] lemma get?_empty (k : K) : (empty : SortedMap K V).get? k = none := rfl

@[simp] lemma get?_emptyCollection (k : K) : (∅ : SortedMap K V).get? k = none := rfl

variable (m : SortedMap K V)

lemma get?_insert (k k' : K) (v : V) :
    (m.insert k v).get? k' = if k' = k then some v else m.get? k' :=
  lookupEntry_insertEntry k k' v m.entries

@[simp] lemma get?_insert_self (k : K) (v : V) : (m.insert k v).get? k = some v := by
  simp [get?_insert]

lemma get?_insert_eq_some {m : SortedMap K V} {k k' : K} {v w : V} :
    (m.insert k v).get? k' = some w ↔ k' = k ∧ w = v ∨ k' ≠ k ∧ m.get? k' = some w := by
  rw [get?_insert]
  split_ifs with heq
  · simp [heq, eq_comm]
  · simp [heq]

lemma mem_entries {m : SortedMap K V} {k : K} {v : V} : (k, v) ∈ m.entries ↔ m.get? k = some v :=
  (lookupEntry_eq_some m.sorted).symm

lemma get?_mapValues_eq_some {W : Type*} {m : SortedMap K V} {f : K → V → W} {k : K} {w : W} :
    (m.mapValues f).get? k = some w ↔ ∃ v, m.get? k = some v ∧ f k v = w := by
  simp only [← mem_entries, mapValues, mem_map, Prod.exists, Prod.mk.injEq]
  constructor
  · rintro ⟨k', v, hmem, rfl, rfl⟩
    exact ⟨v, hmem, rfl⟩
  · rintro ⟨v, hmem, rfl⟩
    exact ⟨k, v, hmem, rfl, rfl⟩

lemma get?_mapValues {W : Type*} (m : SortedMap K V) (f : K → V → W) (k : K) :
    (m.mapValues f).get? k = (m.get? k).map (f k) := by
  ext w
  rw [get?_mapValues_eq_some, Option.map_eq_some_iff]

lemma mem_keys {m : SortedMap K V} {k : K} : k ∈ m.keys ↔ (m.get? k).isSome := by
  rw [keys, mem_map, Option.isSome_iff_exists]
  constructor
  · rintro ⟨⟨k', v⟩, hmem, rfl⟩
    exact ⟨v, mem_entries.mp hmem⟩
  · rintro ⟨v, hv⟩
    exact ⟨(k, v), mem_entries.mpr hv, rfl⟩

lemma mem_values {m : SortedMap K V} {v : V} : v ∈ m.values ↔ ∃ k, m.get? k = some v := by
  rw [values, mem_map]
  constructor
  · rintro ⟨⟨k, w⟩, hmem, rfl⟩
    exact ⟨k, mem_entries.mp hmem⟩
  · rintro ⟨k, hk⟩
    exact ⟨(k, v), mem_entries.mpr hk, rfl⟩

lemma get?_of_mem_values {m : SortedMap K V} {key : V → K} {v : V}
    (hkeyed : ∀ k v, m.get? k = some v → key v = k) (hmem : v ∈ m.values) :
    m.get? (key v) = some v := by
  obtain ⟨k, hget⟩ := mem_values.mp hmem
  rw [hkeyed k v hget, hget]

lemma keys_sorted : m.keys.Pairwise (· < ·) :=
  m.sorted.map _ fun _ _ h => h

lemma keys_nodup : m.keys.Nodup :=
  m.keys_sorted.imp ne_of_lt

lemma entries_nodup : m.entries.Nodup :=
  m.sorted.imp fun h e => absurd (e ▸ h) (lt_irrefl _)

/-- **Extensionality**: the entry list is determined by the lookups. -/
lemma ext_get? {m m' : SortedMap K V} (h : ∀ k, m.get? k = m'.get? k) : m = m' := by
  have hmem : ∀ e, e ∈ m.entries ↔ e ∈ m'.entries := by
    rintro ⟨k, v⟩
    rw [mem_entries, mem_entries, h k]
  have hperm : m.entries.Perm m'.entries :=
    (perm_ext_iff_of_nodup m.entries_nodup m'.entries_nodup).mpr hmem
  have heq : m.entries = m'.entries :=
    hperm.eq_of_pairwise (fun a b _ _ hab hba => absurd (hab.trans hba) (lt_irrefl _))
      m.sorted m'.sorted
  cases m
  cases m'
  simpa using heq

lemma get?_erase (k k' : K) :
    (m.erase k).get? k' = if k' = k then none else m.get? k' := by
  ext v
  rw [← mem_entries]
  split_ifs with hk
  · simp [erase, filter, hk]
  · simp [erase, filter, hk, mem_entries]

lemma insert_insert (k : K) (v w : V) : (m.insert k v).insert k w = m.insert k w := by
  apply ext_get?
  intro k'
  simp only [get?_insert]
  split_ifs <;> rfl

lemma idxOf?_keys [BEq K] [LawfulBEq K] (m : SortedMap K V) {k : K} {i : ℕ} :
    m.keys.idxOf? k = some i ↔ m.keys[i]? = some k := by
  rw [List.idxOf?, List.findIdx?_eq_some_iff_getElem]
  constructor
  · rintro ⟨hi, hk, -⟩
    rw [List.getElem?_eq_getElem hi]
    simpa using hk
  · intro h
    obtain ⟨hi, hk⟩ := List.getElem?_eq_some_iff.mp h
    refine ⟨hi, by simpa using hk, ?_⟩
    intro j hj
    have hne : m.keys[j] ≠ m.keys[i] := fun e =>
      Nat.ne_of_lt hj (m.keys_nodup.getElem_inj_iff.mp e)
    simpa [hk] using hne

lemma insertEntry_of_isSome {k : K} {v : V} : ∀ {l : List (K × V)},
    l.Pairwise (fun a b => a.1 < b.1) → (lookupEntry k l).isSome →
      insertEntry k v l = l.map fun e => if e.1 = k then (k, v) else e
  | [], _, h => by simp [lookupEntry] at h
  | (k', v') :: rest, hs, h => by
      obtain ⟨hhead, htail⟩ := pairwise_cons.mp hs
      unfold lookupEntry at h
      unfold insertEntry
      by_cases hk : k = k'
      · subst hk
        have hrest : rest.map (fun e => if e.1 = k then (k, v) else e) = rest := by
          refine (map_congr_left fun e he => ?_).trans (map_id rest)
          rw [if_neg (hhead e he).ne']
          rfl
        simp [hrest]
      · rw [if_neg hk] at h
        have hlt : k' < k := by
          obtain ⟨w, hw⟩ := Option.isSome_iff_exists.mp h
          exact hhead (k, w) ((lookupEntry_eq_some htail).mp hw)
        have hk' : ¬ k' = k := fun e => hk e.symm
        rw [if_neg hlt.not_gt, if_neg hk, insertEntry_of_isSome htail h]
        simp [hk']

lemma entries_insert_of_isSome {m : SortedMap K V} {k : K} (h : (m.get? k).isSome) (v : V) :
    (m.insert k v).entries = m.entries.map fun e => if e.1 = k then (k, v) else e :=
  insertEntry_of_isSome m.sorted h

lemma keys_insert_of_isSome {m : SortedMap K V} {k : K} (h : (m.get? k).isSome) (v : V) :
    (m.insert k v).keys = m.keys := by
  rw [keys, keys, entries_insert_of_isSome h, map_map]
  refine map_congr_left fun e _ => ?_
  by_cases he : e.1 = k <;> simp [he]

lemma entries_insert_perm {m : SortedMap K V} {k : K} (h : m.get? k = none) (v : V) :
    (m.insert k v).entries.Perm ((k, v) :: m.entries) := by
  have hfresh : (k, v) ∉ m.entries := by
    rw [mem_entries, h]
    simp
  rw [perm_ext_iff_of_nodup (entries_nodup _) (nodup_cons.mpr ⟨hfresh, m.entries_nodup⟩)]
  rintro ⟨k', v'⟩
  rw [mem_entries, get?_insert, mem_cons, mem_entries, Prod.mk.injEq]
  split_ifs with hk
  · subst hk
    simp [h, eq_comm]
  · simp [hk]

lemma keys_insert_perm {m : SortedMap K V} {k : K} (h : m.get? k = none) (v : V) :
    (m.insert k v).keys.Perm (k :: m.keys) :=
  (entries_insert_perm h v).map Prod.fst

lemma insertEntry_of_isNone {k : K} {v : V} : ∀ {l : List (K × V)}, lookupEntry k l = none →
    ∃ before after, l = before ++ after ∧ insertEntry k v l = before ++ (k, v) :: after
  | [], _ => ⟨[], [], rfl, rfl⟩
  | (k', v') :: rest, h => by
      unfold lookupEntry at h
      unfold insertEntry
      split_ifs at h ⊢ with hk hlt
      · exact ⟨[], (k', v') :: rest, rfl, rfl⟩
      · obtain ⟨before, after, rfl, heq⟩ := insertEntry_of_isNone (v := v) h
        exact ⟨(k', v') :: before, after, rfl, by rw [heq]; rfl⟩

lemma values_insert_of_isNone {m : SortedMap K V} {k : K} (h : m.get? k = none) (v : V) :
    ∃ before after, m.values = before ++ after ∧ (m.insert k v).values = before ++ v :: after := by
  obtain ⟨before, after, hold, hnew⟩ := insertEntry_of_isNone (v := v) h
  refine ⟨before.map Prod.snd, after.map Prod.snd, ?_, ?_⟩
  · rw [values, hold, map_append]
  · change (insertEntry k v m.entries).map Prod.snd = _
    rw [hnew, map_append, map_cons]

/-! ## Sums over the values -/

def sumBy (m : SortedMap K V) (f : V → ℕ) : ℕ := (m.entries.map fun e => f e.2).sum

lemma sum_insertEntry (f : V → ℕ) {k : K} {v : V} : ∀ {l : List (K × V)},
    l.Pairwise (fun a b => a.1 < b.1) →
      ((insertEntry k v l).map fun e => f e.2).sum + ((lookupEntry k l).map f).getD 0 =
        (l.map fun e => f e.2).sum + f v
  | [], _ => by simp [insertEntry, lookupEntry]
  | (k', v') :: rest, hs => by
      obtain ⟨hhead, htail⟩ := pairwise_cons.mp hs
      unfold insertEntry lookupEntry
      split_ifs with hlt heq heq
      · exact absurd (heq ▸ hlt) (lt_irrefl _)
      · have habsent : lookupEntry k rest = none := by
          rw [Option.eq_none_iff_forall_ne_some]
          intro w hw
          exact absurd (hhead _ ((lookupEntry_eq_some htail).mp hw)) (not_lt.mpr hlt.le)
        simp only [habsent, map_cons, sum_cons, Option.map_none, Option.getD_none]
        omega
      · simp only [map_cons, sum_cons, Option.map_some, Option.getD_some]
        omega
      · have ih := sum_insertEntry f (k := k) (v := v) htail
        simp only [map_cons, sum_cons]
        omega

lemma sumBy_insert (f : V → ℕ) (k : K) (v : V) :
    (m.insert k v).sumBy f + ((m.get? k).map f).getD 0 = m.sumBy f + f v :=
  sum_insertEntry f m.sorted

end SortedMap
