import Budlum.Core.Address
import Budlum.Lib.Machine
import Budlum.Lib.Merkle
import Budlum.Lib.SortedMap

/-!
# The account map and its cached Merkle tree

The accounts of an `AccountState` together with the bookkeeping that
`calculate_state_root` keeps between calls: the addresses written since the last
root, whether a key was added, and the keys, leaves and levels of the last tree.

`Coherent` is what every operation keeps: unless a key was added, the cached tree
is the tree over the cached leaves, and a cached leaf can be stale only at an
address marked dirty. `accountsRoot_refresh` is its use.
-/

namespace Budlum

open SortedMap Merkle List

structure Account where
  publicKey : Address
  balance : ℕ
  nonce : ℕ
deriving DecidableEq

namespace Account

def new (publicKey : Address) : Account := ⟨publicKey, 0, 0⟩

def withBalance (publicKey : Address) (balance : ℕ) : Account := ⟨publicKey, balance, 0⟩

end Account

/-- The fields of `AccountState` that hold accounts. `dirtyAccounts` lists a hash
set; nothing proved here depends on its order. -/
structure AccountLedger where
  accounts : SortedMap Address Account
  dirtyAccounts : List Address
  keysDirty : Bool
  cachedLeaves : List Hash32
  cachedKeys : List Address
  cachedTree : List (List Hash32)
deriving DecidableEq

namespace AccountLedger

/-- The account map as every constructor of `AccountState` leaves it. -/
def new (accounts : SortedMap Address Account) : AccountLedger :=
  { accounts, dirtyAccounts := [], keysDirty := true, cachedLeaves := [], cachedKeys := [],
    cachedTree := [] }

variable (l : AccountLedger) (a b : Address)

def account : Account := (l.accounts.get? a).getD (Account.new a)

def getBalance : ℕ := (l.account a).balance

def getNonce : ℕ := (l.account a).nonce

def markDirty : AccountLedger := { l with dirtyAccounts := l.dirtyAccounts.insert a }

def markAllAccountsDirty : AccountLedger :=
  { l with dirtyAccounts := l.accounts.keys.foldl (fun d k => d.insert k) l.dirtyAccounts }

/-- `get_or_create`, the part that does not depend on what is written next. -/
def getOrCreate : AccountLedger :=
  markDirty
    (if l.accounts.contains a then l
      else { l with accounts := l.accounts.insert a (Account.new a), keysDirty := true }) a

/-- An assignment through the reference that `get_or_create` returns. -/
def write (account : Account) : AccountLedger :=
  { l.getOrCreate a with accounts := (l.getOrCreate a).accounts.insert a account }

/-- Replacing or adding an entry and flagging the keys, as `init_genesis` does. -/
def insertGenesis (account : Account) : AccountLedger :=
  { l with accounts := l.accounts.insert a account, keysDirty := true }

/-! ## The account view -/

@[simp] lemma account_markDirty : (l.markDirty a).account b = l.account b := rfl

@[simp] lemma account_getOrCreate : (l.getOrCreate a).account b = l.account b := by
  unfold getOrCreate
  rw [account_markDirty]
  split_ifs with hc
  · rfl
  · simp only [account, get?_insert]
    split_ifs with hb
    · subst hb
      have hnone : l.accounts.get? b = none := by
        simpa [SortedMap.contains] using hc
      simp [hnone]
    · rfl

lemma account_write (acc : Account) :
    (l.write a acc).account b = if b = a then acc else l.account b := by
  have hview := account_getOrCreate l a b
  simp only [account] at hview ⊢
  simp only [write, get?_insert]
  split_ifs with hb
  · rfl
  · exact hview

@[simp] lemma account_write_self (acc : Account) : (l.write a acc).account a = acc := by
  rw [account_write, if_pos rfl]

lemma getOrCreate_getOrCreate : (l.getOrCreate a).getOrCreate a = l.getOrCreate a := by
  have hsome : (l.getOrCreate a).accounts.contains a = true := by
    unfold getOrCreate markDirty
    split_ifs with hc
    · exact hc
    · simp [SortedMap.contains]
  have hdirty : a ∈ (l.getOrCreate a).dirtyAccounts := mem_insert_self
  rw [getOrCreate, if_pos hsome, markDirty, insert_of_mem hdirty]

lemma write_getOrCreate (acc : Account) : (l.getOrCreate a).write a acc = l.write a acc := by
  rw [write, getOrCreate_getOrCreate, write]

/-! ## The root -/

section

variable (sha256 : Bytes → Hash32)

def leafHash (k : Address) (acc : Account) : Hash32 :=
  sha256 (0x00 :: (k.asBytes ++ u64LeBytes acc.balance ++ u64LeBytes acc.nonce))

def nodeHash (left right : Hash32) : Hash32 := sha256 (0x01 :: (left ++ right))

def leaves : List Hash32 := l.accounts.entries.map fun e => leafHash sha256 e.1 e.2

/-- The root read off a tree, zero for no accounts. -/
def rootOf (t : List (List Hash32)) : Hash32 := (root? t).getD (replicate 32 0)

def rootFromScratch : Hash32 :=
  if l.accounts.entries.isEmpty then replicate 32 0
  else rootOf (tree (nodeHash sha256) (l.leaves sha256))

/-- Rewrite the leaf of one dirty key, and note its position. -/
def touchLeaf (acc : List Hash32 × List ℕ) (k : Address) : List Hash32 × List ℕ :=
  match l.cachedKeys.idxOf? k, l.accounts.get? k with
  | some pos, some account => (acc.1.set pos (leafHash sha256 k account), pos :: acc.2)
  | _, _ => acc

/-- The part of `calculate_state_root` that brings the account tree up to date. -/
def refresh : AccountLedger :=
  if l.accounts.entries.isEmpty then
    { l with cachedKeys := [], cachedLeaves := [], cachedTree := [], keysDirty := false,
             dirtyAccounts := [] }
  else if l.keysDirty || l.cachedTree.isEmpty then
    { l with cachedKeys := l.accounts.keys, cachedLeaves := l.leaves sha256,
             cachedTree := tree (nodeHash sha256) (l.leaves sha256), keysDirty := false,
             dirtyAccounts := [] }
  else
    let touched := l.dirtyAccounts.foldl (l.touchLeaf sha256) (l.cachedLeaves, [])
    { l with cachedLeaves := touched.1,
             cachedTree := update (nodeHash sha256) touched.2 touched.1 l.cachedTree.tail,
             dirtyAccounts := [] }

/-- The accounts root as `calculate_state_root` reads it after the refresh. -/
def accountsRoot : Hash32 := rootOf l.cachedTree

/-! ## Coherence of the cache -/

/-- The cached tree belongs to the current keys, and is stale only where marked. -/
structure CacheValid : Prop where
  keys : l.cachedKeys = l.accounts.keys
  tree : l.cachedTree = tree (nodeHash sha256) l.cachedLeaves
  length : l.cachedLeaves.length = l.accounts.entries.length
  clean : ∀ (i : ℕ) (e : Address × Account), l.accounts.entries[i]? = some e → e.1 ∉ l.dirtyAccounts →
    l.cachedLeaves[i]? = some (leafHash sha256 e.1 e.2)

/-- What every operation on the ledger keeps. When a key was added, or no tree is
cached, the next root is rebuilt and nothing is asked of the cache. -/
def Coherent : Prop := l.keysDirty = false → l.cachedTree ≠ [] → l.CacheValid sha256

variable {l sha256}

lemma coherent_of_keysDirty (h : l.keysDirty = true) : l.Coherent sha256 := by
  intro hfalse
  simp [h] at hfalse

lemma Coherent.mono {l' : AccountLedger} (h : l.Coherent sha256)
    (hacc : l'.accounts = l.accounts) (hkeys : l'.keysDirty = l.keysDirty)
    (hck : l'.cachedKeys = l.cachedKeys) (hcl : l'.cachedLeaves = l.cachedLeaves)
    (hct : l'.cachedTree = l.cachedTree) (hd : l.dirtyAccounts ⊆ l'.dirtyAccounts) :
    l'.Coherent sha256 := by
  intro hfalse hne
  obtain ⟨hk, ht, hlen, hclean⟩ := h (hkeys ▸ hfalse) (hct ▸ hne)
  refine ⟨by rw [hck, hk, hacc], by rw [hct, ht, hcl], by rw [hcl, hlen, hacc], ?_⟩
  intro i e he hnot
  rw [hcl]
  exact hclean i e (hacc ▸ he) fun hmem => hnot (hd hmem)

lemma coherent_markDirty (h : l.Coherent sha256) : (l.markDirty a).Coherent sha256 :=
  h.mono rfl rfl rfl rfl rfl fun _ hx => mem_insert_of_mem hx

lemma subset_foldl_insert (keys : List Address) : ∀ d : List Address,
    d ⊆ keys.foldl (fun d k => d.insert k) d := by
  induction keys with
  | nil => exact fun d => List.Subset.refl d
  | cons k keys ih => exact fun d => List.Subset.trans (fun _ hx => mem_insert_of_mem hx) (ih _)

lemma coherent_markAllAccountsDirty (h : l.Coherent sha256) :
    l.markAllAccountsDirty.Coherent sha256 :=
  h.mono rfl rfl rfl rfl rfl (subset_foldl_insert _ _)

lemma coherent_getOrCreate (h : l.Coherent sha256) : (l.getOrCreate a).Coherent sha256 := by
  unfold getOrCreate
  apply coherent_markDirty
  split_ifs
  · exact h
  · exact coherent_of_keysDirty rfl

lemma coherent_insertGenesis (acc : Account) : (l.insertGenesis a acc).Coherent sha256 :=
  coherent_of_keysDirty rfl

lemma contains_getOrCreate : ((l.getOrCreate a).accounts.get? a).isSome := by
  unfold getOrCreate markDirty
  split_ifs with hc
  · exact hc
  · simp

lemma mem_dirty_getOrCreate : a ∈ (l.getOrCreate a).dirtyAccounts := by
  unfold getOrCreate markDirty
  exact mem_insert_self

lemma coherent_write (h : l.Coherent sha256) (acc : Account) :
    (l.write a acc).Coherent sha256 := by
  intro hfalse hne
  obtain ⟨hk, ht, hlen, hclean⟩ := coherent_getOrCreate a h hfalse hne
  have hsome := @contains_getOrCreate l a
  refine ⟨?_, ht, ?_, ?_⟩
  · exact hk.trans (keys_insert_of_isSome hsome acc).symm
  · simp only [write, entries_insert_of_isSome hsome, length_map]
    exact hlen
  · intro i e he hnot
    -- the written entry is dirty, so a clean one is an old one
    simp only [write, entries_insert_of_isSome hsome, getElem?_map,
      Option.map_eq_some_iff] at he
    obtain ⟨e₀, he₀, rfl⟩ := he
    split_ifs at hnot ⊢ with hea
    · exact absurd (mem_dirty_getOrCreate a) hnot
    · exact hclean i e₀ he₀ hnot

/-! ## The refresh -/

lemma getElem?_leaves (i : ℕ) :
    (l.leaves sha256)[i]? = l.accounts.entries[i]?.map fun e => leafHash sha256 e.1 e.2 := by
  simp [leaves]

lemma idxOf?_cachedKeys {k : Address} {i : ℕ} {account : Account}
    (hkeys : l.cachedKeys = l.accounts.keys) (hget : l.accounts.get? k = some account) :
    l.cachedKeys.idxOf? k = some i ↔ l.accounts.entries[i]? = some (k, account) := by
  rw [hkeys, idxOf?_keys, SortedMap.keys, getElem?_map, Option.map_eq_some_iff]
  constructor
  · rintro ⟨⟨k', account'⟩, he, rfl⟩
    have hmem := mem_entries.mp (mem_of_getElem? he)
    rw [he, Option.some.inj (hmem.symm.trans hget)]
  · intro he
    exact ⟨_, he, rfl⟩

/-- Invariant of the loop over the dirty keys, from cached leaves `old`: a leaf
changes only at a noted position and only to its current value, and the position
of every key passed is noted. -/
structure Touched (l : AccountLedger) (sha256 : Bytes → Hash32) (old : List Hash32)
    (seen : List Address) (acc : List Hash32 × List ℕ) : Prop where
  length : acc.1.length = old.length
  kept : ∀ i ∉ acc.2, acc.1[i]? = old[i]?
  written : ∀ i ∈ acc.2, acc.1[i]? = (l.leaves sha256)[i]?
  noted : ∀ (i : ℕ) (e : Address × Account), l.accounts.entries[i]? = some e → e.1 ∈ seen →
    i ∈ acc.2

lemma Touched.step {old : List Hash32} {seen : List Address} {acc : List Hash32 × List ℕ}
    (hkeys : l.cachedKeys = l.accounts.keys) (hlen : old.length = l.accounts.entries.length)
    (h : l.Touched sha256 old seen acc) (k : Address) :
    l.Touched sha256 old (seen ++ [k]) (l.touchLeaf sha256 acc k) := by
  obtain ⟨hlength, hkept, hwritten, hnoted⟩ := h
  unfold touchLeaf
  split
  · rename_i pos account hpos hget
    have hentry := (idxOf?_cachedKeys hkeys hget).mp hpos
    have hbound : pos < acc.1.length := by
      rw [hlength, hlen]
      exact (List.getElem?_eq_some_iff.mp hentry).1
    have hself : (acc.1.set pos (leafHash sha256 k account))[pos]? = (l.leaves sha256)[pos]? := by
      rw [List.getElem?_set_self hbound, getElem?_leaves, hentry]
      rfl
    refine ⟨by simpa using hlength, ?_, ?_, ?_⟩
    · intro i hi
      rw [mem_cons, not_or] at hi
      rw [List.getElem?_set_ne (fun e => hi.1 e.symm), hkept i hi.2]
    · intro i hi
      by_cases hip : i = pos
      · rw [hip, hself]
      · rw [List.getElem?_set_ne (fun e => hip e.symm)]
        exact hwritten i ((mem_cons.mp hi).resolve_left hip)
    · intro i e he hseen
      rcases mem_append.mp hseen with hold | hnew
      · exact mem_cons_of_mem _ (hnoted i e he hold)
      · -- the key just passed sits at `pos` and nowhere else
        obtain rfl : e.1 = k := by simpa using hnew
        have hget' := mem_entries.mp (mem_of_getElem? he)
        have hi := (idxOf?_cachedKeys hkeys hget').mpr he
        rw [hpos] at hi
        exact mem_cons.mpr (Or.inl (Option.some.inj hi).symm)
  · rename_i hnot
    refine ⟨hlength, hkept, hwritten, ?_⟩
    intro i e he hseen
    rcases mem_append.mp hseen with hold | hnew
    · exact hnoted i e he hold
    · obtain rfl : e.1 = k := by simpa using hnew
      have hget' := mem_entries.mp (mem_of_getElem? he)
      exact absurd hget' (hnot i e.2 ((idxOf?_cachedKeys hkeys hget').mpr he))

lemma touched_foldl {old : List Hash32} (hkeys : l.cachedKeys = l.accounts.keys)
    (hlen : old.length = l.accounts.entries.length) (dirty : List Address) :
    l.Touched sha256 old dirty (dirty.foldl (l.touchLeaf sha256) (old, [])) := by
  induction dirty using reverseRecOn with
  | nil =>
    refine ⟨rfl, fun _ _ => rfl, ?_, ?_⟩
    · intro i hi
      simp at hi
    · intro i e _ hseen
      simp at hseen
  | append_singleton dirty k ih =>
    rw [foldl_append]
    exact ih.step hkeys hlen k

/-- The loop over the dirty keys leaves the current leaves, and the positions it
did not note were current already. -/
lemma touched_current (h : l.CacheValid sha256) :
    (l.dirtyAccounts.foldl (l.touchLeaf sha256) (l.cachedLeaves, [])).1 = l.leaves sha256 ∧
      ∀ i ∉ (l.dirtyAccounts.foldl (l.touchLeaf sha256) (l.cachedLeaves, [])).2,
        l.cachedLeaves[i]? = (l.leaves sha256)[i]? := by
  obtain ⟨hkeys, -, hlen, hclean⟩ := h
  obtain ⟨-, hkept, hwritten, hnoted⟩ := @touched_foldl l sha256 _ hkeys hlen l.dirtyAccounts
  have hold : ∀ i ∉ (l.dirtyAccounts.foldl (l.touchLeaf sha256) (l.cachedLeaves, [])).2,
      l.cachedLeaves[i]? = (l.leaves sha256)[i]? := by
    intro i hi
    rw [getElem?_leaves]
    cases he : l.accounts.entries[i]? with
    | none =>
      have hout : l.cachedLeaves.length ≤ i := by
        rw [hlen]
        exact getElem?_eq_none_iff.mp he
      simp [getElem?_eq_none hout]
    | some e => exact hclean i e he fun hdirty => hi (hnoted i e he hdirty)
  refine ⟨ext_getElem? fun i => ?_, hold⟩
  by_cases hi : i ∈ (l.dirtyAccounts.foldl (l.touchLeaf sha256) (l.cachedLeaves, [])).2
  · exact hwritten i hi
  · rw [hkept i hi, hold i hi]

lemma refresh_cache (h : l.Coherent sha256) (hne : l.accounts.entries ≠ []) :
    (l.refresh sha256).cachedLeaves = l.leaves sha256 ∧
      (l.refresh sha256).cachedTree = tree (nodeHash sha256) (l.leaves sha256) ∧
      (l.refresh sha256).cachedKeys = l.accounts.keys := by
  have hfull : l.accounts.entries.isEmpty = false := by
    simpa using hne
  unfold refresh
  rw [hfull, if_neg Bool.false_ne_true]
  split_ifs with hrebuild
  · exact ⟨rfl, rfl, rfl⟩
  · rw [Bool.or_eq_true, not_or] at hrebuild
    have hvalid : l.CacheValid sha256 :=
      h (by simpa using hrebuild.1) (by simpa using hrebuild.2)
    obtain ⟨hcur, hsame⟩ := touched_current hvalid
    refine ⟨hcur, ?_, hvalid.keys⟩
    have hlen : l.cachedLeaves.length = (l.leaves sha256).length := by
      rw [hvalid.length, leaves, length_map]
    change update _ _ _ l.cachedTree.tail = _
    rw [hvalid.tree, hcur]
    exact update_tree _ hlen hsame

lemma accounts_refresh : (l.refresh sha256).accounts = l.accounts := by
  unfold refresh
  split_ifs <;> rfl

lemma coherent_refresh (h : l.Coherent sha256) : (l.refresh sha256).Coherent sha256 := by
  by_cases hne : l.accounts.entries = []
  · intro _ htree
    simp [refresh, hne] at htree
  · intro _ _
    obtain ⟨hleaves, htree, hkeys⟩ := refresh_cache h hne
    refine ⟨by rw [hkeys, accounts_refresh], by rw [htree, hleaves], ?_, ?_⟩
    · rw [hleaves, accounts_refresh, leaves, length_map]
    · intro i e he _
      rw [accounts_refresh] at he
      rw [hleaves, getElem?_leaves, he]
      rfl

lemma accountsRoot_refresh (h : l.Coherent sha256) :
    (l.refresh sha256).accountsRoot = l.rootFromScratch sha256 := by
  by_cases hne : l.accounts.entries = []
  · simp [accountsRoot, rootFromScratch, refresh, hne, rootOf, root?]
  · rw [accountsRoot, (refresh_cache h hne).2.1, rootFromScratch, if_neg (by simpa using hne)]

end

end AccountLedger

end Budlum
