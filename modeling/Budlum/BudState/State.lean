import Budlum.Core.Address
import Budlum.Lib.SortedMap
import Budlum.Lib.SparseMerkle

/-!
# The account state of bud-state and its tree

The accounts of `bud-state`, hashed in a tree with a leaf for each 64-bit id. The code
never builds that tree: it splits the sorted list of the accounts that exist, level by
level, and takes a table of hashes for the empty parts. What it computes are the root and
the siblings of the complete tree in which an absent account is 32 zero bytes, so that its
proofs verify, for absent ids too, and show one leaf hash only.
-/

namespace Budlum.BudState

open SparseMerkle SortedMap List Nat

abbrev Hash : Type := { bytes : Bytes // bytes.length = 32 }

def zeroHash : Hash := ⟨replicate 32 0, by decide⟩

abbrev AccountId : Type := Fin (2 ^ 64)

structure Account where
  nonce : ℕ
  balance : ℕ
  codeHash : Hash
  storageRoot : Hash
deriving DecidableEq

/-- The `HashMap` of accounts. Nothing depends on its own order: it is sorted before it is
hashed. -/
abbrev Accounts : Type := SortedMap AccountId Account

structure State where
  accounts : Accounts
  backupStack : List Accounts
deriving DecidableEq

section

variable (keccak : Bytes → Hash)

def hashAccount (acc : Account) : Hash :=
  keccak (u64LeBytes acc.balance ++ u64LeBytes acc.nonce ++ acc.codeHash.val ++ acc.storageRoot.val)

/-- Two `update`s with the children and `finalize`. -/
def hashNode (left right : Hash) : Hash := keccak (left.val ++ right.val)

/-- `get_empty_hash`: the entries of `EMPTY_HASHES`. -/
def getEmptyHash : ℕ → Hash
  | 0 => zeroHash
  | i + 1 => hashNode keccak (getEmptyHash i) (getEmptyHash i)

/-- `binary_search_by_key` in a slice sorted by distinct keys: the place of `key`, or the
place where it would be inserted. -/
def partitionIdx (leaves : List (ℕ × Hash)) (key : ℕ) : ℕ :=
  leaves.findIdx fun l => decide (key ≤ l.1)

def computeSubtreeRoot : List (ℕ × Hash) → ℕ → ℕ → Hash
  | leaves, 0, _ =>
    match leaves with
    | [] => getEmptyHash keccak 0
    | first :: _ => first.2
  | leaves, depth + 1, start =>
    if leaves.isEmpty then getEmptyHash keccak (depth + 1)
    else
      let bitMask := 1 <<< depth
      let idx := partitionIdx leaves (start ||| bitMask)
      hashNode keccak (computeSubtreeRoot (leaves.take idx) depth start)
        (computeSubtreeRoot (leaves.drop idx) depth (start ||| bitMask))

/-- `compute_subtree_proof`: what it pushes. -/
def computeSubtreeProof : List (ℕ × Hash) → ℕ → ℕ → ℕ → List Hash
  | _, 0, _, _ => []
  | leaves, depth + 1, start, targetKey =>
    let bitMask := 1 <<< depth
    let idx := partitionIdx leaves (start ||| bitMask)
    if targetKey &&& bitMask ≠ 0 then
      computeSubtreeRoot keccak (leaves.take idx) depth start ::
        computeSubtreeProof (leaves.drop idx) depth (start ||| bitMask) targetKey
    else
      computeSubtreeRoot keccak (leaves.drop idx) depth (start ||| bitMask) ::
        computeSubtreeProof (leaves.take idx) depth start targetKey

/-- One round of the loop of `verify_account_proof`. -/
def verifyStep (id : ℕ) (proof : List Hash) (current : Hash) (depth : ℕ) : Hash :=
  let sibling := proof.getD (63 - depth) zeroHash
  if id &&& 1 <<< depth ≠ 0 then hashNode keccak sibling current else hashNode keccak current sibling

def verifyAccountProof (root : Hash) (id : AccountId) (accountHash : Hash) (proof : List Hash) :
    Bool :=
  if proof.length ≠ 64 then false
  else (range 64).foldl (verifyStep keccak id.val proof) accountHash == root

namespace State

/-- The sorted leaves that `root` and `get_account_proof` start from. -/
def leaves (s : State) : List (ℕ × Hash) :=
  s.accounts.entries.map fun e => (e.1.val, hashAccount keccak e.2)

def root (s : State) : Hash := computeSubtreeRoot keccak (s.leaves keccak) 64 0

def getAccountProof (s : State) (id : AccountId) : List Hash :=
  computeSubtreeProof keccak (s.leaves keccak) 64 0 id.val

/-- The hash that stands for `id` in the tree: of its account, or the empty hash. -/
def leafHash (s : State) (id : AccountId) : Hash :=
  match s.accounts.get? id with
  | some acc => hashAccount keccak acc
  | none => getEmptyHash keccak 0

end State

/-! ## The complete tree -/

/-- The leaf hashes of the complete tree. -/
def leafAt (leaves : List (ℕ × Hash)) (key : ℕ) : Hash :=
  (lookupEntry key leaves).getD zeroHash

variable {keccak}

lemma root_leafAt_nil (depth start : ℕ) :
    root (hashNode keccak) (leafAt []) depth start = getEmptyHash keccak depth := by
  induction depth generalizing start with
  | zero => rfl
  | succ depth ih => rw [root, ih, ih, getEmptyHash]

/-- Leaves in ascending order, all of the `2 ^ depth` keys from `start` on. -/
structure Within (leaves : List (ℕ × Hash)) (depth start : ℕ) : Prop where
  sorted : leaves.Pairwise fun a b => a.1 < b.1
  lower : ∀ l ∈ leaves, start ≤ l.1
  upper : ∀ l ∈ leaves, l.1 < start + 2 ^ depth
  aligned : 2 ^ depth ∣ start

variable {depth start key k : ℕ}

lemma or_bitMask (h : 2 ^ (depth + 1) ∣ start) : start ||| 1 <<< depth = start + 2 ^ depth := by
  obtain ⟨a, rfl⟩ := h
  rw [Nat.one_shiftLeft]
  exact (Nat.two_pow_add_eq_or_of_lt (Nat.pow_lt_pow_right (by decide) (by omega)) a).symm

lemma and_bitMask_ne_zero {n : ℕ} : n &&& 1 <<< depth ≠ 0 ↔ n.testBit depth = true := by
  rw [one_shiftLeft, and_two_pow]
  cases n.testBit depth <;> simp

variable {leaves : List (ℕ × Hash)}

lemma lt_of_mem_take {l : ℕ × Hash}
    (h : l ∈ leaves.take (partitionIdx leaves key)) : l.1 < key := by
  obtain ⟨i, hi, rfl⟩ := mem_take_iff_getElem.mp h
  have hlt : i < leaves.findIdx fun l => decide (key ≤ l.1) := lt_of_lt_of_le hi (min_le_left _ _)
  simpa using not_of_lt_findIdx hlt

lemma le_of_mem_drop (hsorted : leaves.Pairwise fun a b => a.1 < b.1)
    {l : ℕ × Hash} (h : l ∈ leaves.drop (partitionIdx leaves key)) : key ≤ l.1 := by
  induction leaves with
  | nil => simp at h
  | cons first rest ih =>
    obtain ⟨hfirst, hrest⟩ := pairwise_cons.mp hsorted
    rw [partitionIdx, findIdx_cons] at h
    by_cases hkey : key ≤ first.1
    · simp only [hkey, decide_true, cond_true, drop_zero] at h
      rcases mem_cons.mp h with rfl | hmem
      · exact hkey
      · exact hkey.trans (hfirst l hmem).le
    · simp only [hkey, decide_false, cond_false, drop_succ_cons] at h
      exact ih hrest h

lemma Within.take (h : Within leaves (depth + 1) start) :
    Within (leaves.take (partitionIdx leaves (start + 2 ^ depth))) depth start where
  sorted := h.sorted.sublist (take_sublist ..)
  lower l hl := h.lower l (mem_of_mem_take hl)
  upper _ hl := lt_of_mem_take hl
  aligned := (pow_dvd_pow 2 (le_succ depth)).trans h.aligned

lemma Within.drop (h : Within leaves (depth + 1) start) :
    Within (leaves.drop (partitionIdx leaves (start + 2 ^ depth))) depth (start + 2 ^ depth) where
  sorted := h.sorted.sublist (drop_sublist ..)
  lower _ hl := le_of_mem_drop h.sorted hl
  upper l hl := by
    have := h.upper l (mem_of_mem_drop hl)
    rw [pow_succ] at this
    omega
  aligned := dvd_add ((pow_dvd_pow 2 (le_succ depth)).trans h.aligned) dvd_rfl

lemma lookupEntry_append (k : ℕ) (left right : List (ℕ × Hash)) : lookupEntry k (left ++ right) =
      (lookupEntry k left).or (lookupEntry k right) := by
  induction left with
  | nil => rfl
  | cons first left ih =>
    simp only [cons_append, lookupEntry, ih]
    split_ifs <;> rfl

lemma lookupEntry_eq_none (h : ∀ l ∈ leaves, l.1 ≠ k) : lookupEntry k leaves = none := by
  induction leaves with
  | nil => rfl
  | cons first leaves ih =>
    rw [lookupEntry, if_neg (h first mem_cons_self).symm]
    exact ih fun l hl => h l (mem_cons_of_mem _ hl)

lemma leafAt_take (hsorted : leaves.Pairwise fun a b => a.1 < b.1)
    (h : k < key) : leafAt (leaves.take (partitionIdx leaves key)) k = leafAt leaves k := by
  have hnone : lookupEntry k (leaves.drop (partitionIdx leaves key)) = none :=
    lookupEntry_eq_none fun l hl => by have := le_of_mem_drop hsorted hl; omega
  conv_rhs => rw [leafAt, ← take_append_drop (partitionIdx leaves key) leaves,
    lookupEntry_append, hnone, Option.or_none]
  rfl

lemma leafAt_drop (h : key ≤ k) :
    leafAt (leaves.drop (partitionIdx leaves key)) k = leafAt leaves k := by
  have hnone : lookupEntry k (leaves.take (partitionIdx leaves key)) = none :=
    lookupEntry_eq_none fun l hl => by have := lt_of_mem_take hl; omega
  conv_rhs => rw [leafAt, ← take_append_drop (partitionIdx leaves key) leaves,
    lookupEntry_append, hnone, Option.none_or]
  rfl

lemma computeSubtreeRoot_eq_root
    (h : Within leaves depth start) : computeSubtreeRoot keccak leaves depth start =
      root (hashNode keccak) (leafAt leaves) depth start := by
  induction depth generalizing leaves start with
  | zero =>
    cases leaves with
    | nil => rfl
    | cons first rest =>
      have hlower := h.lower first mem_cons_self
      have hupper := h.upper first mem_cons_self
      have hkey : start = first.1 := by simp at hupper; omega
      simp [computeSubtreeRoot, root, leafAt, lookupEntry, hkey]
  | succ depth ih =>
    unfold computeSubtreeRoot
    split_ifs with hempty
    · rw [isEmpty_iff.mp hempty, root_leafAt_nil]
    · dsimp only
      rw [or_bitMask h.aligned, ih h.take, ih h.drop, root]
      congr 1
      · exact (root_siblings_congr 0 fun k _ hk => leafAt_take h.sorted hk).1
      · exact (root_siblings_congr 0 fun k hk _ => leafAt_drop hk).1

lemma computeSubtreeProof_eq_siblings (h : Within leaves depth start) (targetKey : ℕ) :
    computeSubtreeProof keccak leaves depth start targetKey =
      siblings (hashNode keccak) (leafAt leaves) targetKey depth start := by
  induction depth generalizing leaves start with
  | zero => rfl
  | succ depth ih =>
    rw [computeSubtreeProof, siblings]
    simp only [or_bitMask h.aligned, and_bitMask_ne_zero, ih h.take, ih h.drop,
      computeSubtreeRoot_eq_root h.take, computeSubtreeRoot_eq_root h.drop]
    have htake := @root_siblings_congr Hash (hashNode keccak) depth start targetKey
      (leafAt (leaves.take (partitionIdx leaves (start + 2 ^ depth)))) (leafAt leaves)
      fun k _ hk => leafAt_take h.sorted hk
    have hdrop := @root_siblings_congr Hash (hashNode keccak) depth (start + 2 ^ depth) targetKey
      (leafAt (leaves.drop (partitionIdx leaves (start + 2 ^ depth)))) (leafAt leaves)
      fun k hk _ => leafAt_drop hk
    rw [htake.1, htake.2, hdrop.1, hdrop.2]

/-! ## Proofs -/

variable (keccak) in
/-- A round that hashes the `depth`-th sibling from the end onto `current`. -/
def climbStep (id : ℕ) (path : List Hash) (current : Hash) (depth : ℕ) : Hash :=
  if id.testBit depth then hashNode keccak (path.getD (path.length - 1 - depth) zeroHash) current
  else hashNode keccak current (path.getD (path.length - 1 - depth) zeroHash)

lemma foldl_climbStep (id : ℕ) (hash : Hash) (path : List Hash) :
    (range path.length).foldl (climbStep keccak id path) hash =
      climb (hashNode keccak) id hash path := by
  induction path with
  | nil => rfl
  | cons sibling below ih =>
    have hbelow : (range below.length).foldl
        (climbStep keccak id (sibling :: below)) hash =
          (range below.length).foldl (climbStep keccak id below) hash := by
      refine foldl_ext _ _ _ fun current depth hdepth => ?_
      have hlt := mem_range.mp hdepth
      obtain ⟨k, hk⟩ : ∃ k, below.length - depth = k + 1 := ⟨below.length - depth - 1, by omega⟩
      have hk' : below.length - 1 - depth = k := by omega
      simp [climbStep, hk, hk']
    rw [length_cons, range_succ, foldl_append, hbelow, ih, foldl_cons, foldl_nil, climbStep, climb]
    simp

lemma verifyAccountProof_iff {root hash : Hash} {id : AccountId} {proof : List Hash} :
    verifyAccountProof keccak root id hash proof = true ↔
      proof.length = 64 ∧ climb (hashNode keccak) id.val hash proof = root := by
  unfold verifyAccountProof
  split_ifs with hlen
  · simp [hlen]
  · have h64 : proof.length = 64 := not_not.mp hlen
    have hstep : verifyStep keccak id.val proof = climbStep keccak id.val proof := by
      funext current depth
      simp [verifyStep, climbStep, and_bitMask_ne_zero, h64]
    have hclimb : (range 64).foldl (climbStep keccak id.val proof) hash =
        climb (hashNode keccak) id.val hash proof := by
      rw [← foldl_climbStep, h64]
    rw [beq_iff_eq, hstep, hclimb]
    simp [h64]

def nodeInput (children : Hash × Hash) : Bytes := children.1.val ++ children.2.val

lemma nodeInput_injective : Function.Injective nodeInput := by
  rintro ⟨left, right⟩ ⟨left', right'⟩ h
  obtain ⟨hleft, hright⟩ := append_inj h (left.property.trans left'.property.symm)
  exact Prod.ext (Subtype.ext hleft) (Subtype.ext hright)

variable (keccak) in
def hashedInputs (id : AccountId) (hash : Hash) (proof : List Hash) : List Bytes :=
  (inputs (hashNode keccak) id.val hash proof).map nodeInput

lemma leaf_hash_unique {root hash hash' : Hash} {id : AccountId} {proof proof' : List Hash}
    (hfree : Set.InjOn keccak {input | input ∈ hashedInputs keccak id hash proof ∨
      input ∈ hashedInputs keccak id hash' proof'})
    (h : verifyAccountProof keccak root id hash proof = true)
    (h' : verifyAccountProof keccak root id hash' proof' = true) : hash = hash' := by
  obtain ⟨hlen, hclimb⟩ := verifyAccountProof_iff.mp h
  obtain ⟨hlen', hclimb'⟩ := verifyAccountProof_iff.mp h'
  refine climb_inj (hlen.trans hlen'.symm) ?_ (hclimb.trans hclimb'.symm)
  intro pair hpair pair' hpair' heq
  exact nodeInput_injective (hfree (hpair.imp mem_map_of_mem mem_map_of_mem)
    (hpair'.imp mem_map_of_mem mem_map_of_mem) heq)

namespace State

variable (s : State) (id : AccountId)

lemma within_leaves : Within (s.leaves keccak) 64 0 where
  sorted := pairwise_map.mpr s.accounts.sorted
  lower _ _ := zero_le _
  upper l hl := by
    obtain ⟨e, -, rfl⟩ := mem_map.mp hl
    simp
  aligned := dvd_zero _

lemma leafAt_leaves : leafAt (s.leaves keccak) id.val = s.leafHash keccak id := by
  have hlookup : ∀ entries : List (AccountId × Account),
      lookupEntry id.val (entries.map fun e => (e.1.val, hashAccount keccak e.2)) =
        (lookupEntry id entries).map (hashAccount keccak) := by
    intro entries
    induction entries with
    | nil => rfl
    | cons first entries ih =>
      simp only [map_cons, lookupEntry, ih, Fin.val_inj]
      split_ifs <;> rfl
  rw [leafAt, leaves, hlookup, leafHash, SortedMap.get?]
  cases lookupEntry id s.accounts.entries <;> rfl

lemma getAccountProof_verifies :
    verifyAccountProof keccak (s.root keccak) id (s.leafHash keccak id)
      (s.getAccountProof keccak id) = true := by
  refine verifyAccountProof_iff.mpr ?_
  rw [getAccountProof, computeSubtreeProof_eq_siblings s.within_leaves,
    root, computeSubtreeRoot_eq_root s.within_leaves]
  refine ⟨length_siblings .., ?_⟩
  rw [← leafAt_leaves]
  exact climb_siblings (by rw [zero_add, mod_eq_of_lt id.isLt])

/-- In every state the proof of an id verifies with the hash of its account, or with the empty
hash if it has none, and no proof verifies for the id with another hash, unless Keccak
collides on what the verifier hashes for the two. -/
theorem account_proof_correct : verifyAccountProof keccak (s.root keccak) id (s.leafHash keccak id)
        (s.getAccountProof keccak id) = true ∧ ∀ hash proof,
        Set.InjOn keccak {input | input ∈ hashedInputs keccak id hash proof ∨
          input ∈ hashedInputs keccak id (s.leafHash keccak id) (s.getAccountProof keccak id)} →
        verifyAccountProof keccak (s.root keccak) id hash proof = true →
        hash = s.leafHash keccak id :=
  ⟨s.getAccountProof_verifies id, fun _ _ hfree h =>
    leaf_hash_unique hfree h (s.getAccountProof_verifies id)⟩

end State

end

/-- A hash that tells the inputs of a path apart: the bytes as digits to the base 257. -/
def polyHash (input : Bytes) : Hash :=
  ⟨leBytes 32 (input.foldl (fun acc b => (acc * 257 + b.toNat + 1) % 2 ^ 256) 0),
    length_leBytes ..⟩

def twoAccounts : State :=
  ⟨(SortedMap.empty.insert 5 ⟨0, 7, zeroHash, zeroHash⟩).insert 6 ⟨1, 9, zeroHash, zeroHash⟩, []⟩

theorem account_proof_correct_two :
    let hash := hashAccount polyHash ⟨0, 7, zeroHash, zeroHash⟩
    verifyAccountProof polyHash (twoAccounts.root polyHash) 5 hash
      (twoAccounts.getAccountProof polyHash 5) = true ∧ hash = twoAccounts.leafHash polyHash 5 := by
  intro hash
  have hproof : verifyAccountProof polyHash (twoAccounts.root polyHash) 5 hash
      (twoAccounts.getAccountProof polyHash 5) = true :=
    (State.account_proof_correct twoAccounts 5).1
  refine ⟨hproof, (State.account_proof_correct twoAccounts 5).2 _ _ ?_ hproof⟩
  have hinj := inj_on_of_nodup_map (f := polyHash)
    (l := hashedInputs polyHash 5 hash (twoAccounts.getAccountProof polyHash 5))
    (by decide +kernel)
  intro input hinput input' hinput' heq
  exact hinj (or_self_iff.mp hinput) (or_self_iff.mp hinput') heq

end Budlum.BudState
