import Budlum.Evm.Rlp

/-!
# Merkle-Patricia proofs

`evm/mpt.rs`: the walk from a root hash along the nibbles of a key, through the nodes that
a relayer supplies. What a node says about the key (`visit`) does not depend on the
supplied nodes; they are looked at only to resolve a hash, where they answer with the
preimage or not at all. Two proofs for one root therefore never disagree: one of them
can only stop earlier, at a hash it has no node for.
-/

namespace Budlum.Mpt

open List Option

open Rlp (Item RlpError)

def maxWalkDepth : ℕ := 128

inductive MptError where
  | keyNotFound
  | missingNode
  | rlp (e : RlpError)
  | invalidNode
  | invalidHpEncoding
  | invalidNodeRef
  | pathMismatch
  | nestingTooDeep
deriving DecidableEq, Repr

/-! ## Nibbles -/

/-- The high and the low half of each byte. -/
def byteNibbles (bytes : Bytes) : Bytes := bytes.flatMap fun b : UInt8 => [b >>> 4, b &&& 0x0f]

def toNibbles (hash : Hash32) : Bytes := byteNibbles hash

def hpDecode : Bytes → Except MptError (Bool × Bytes)
  | [] => .error .invalidHpEncoding
  | first :: bytes =>
    let flagByte := first >>> 4
    if flagByte > 3 then .error .invalidHpEncoding
    else
      let isLeaf := flagByte &&& 0b10 != 0
      let odd := flagByte &&& 0b01 != 0
      .ok (isLeaf, (if odd then [first &&& 0x0f] else []) ++ byteNibbles bytes)

/-! ## The walk -/

/-- `?` on an `RlpError`. -/
def ofRlp {α : Type} : Except RlpError α → Except MptError α := Except.mapError .rlp

/-- What a node says about the key: a value, or the reference to walk on with. -/
inductive Visit where
  | value (bytes : Bytes)
  | child (ref : Item) (remaining : Bytes)

/-- The arm of `walk` for two items: a leaf or an extension. -/
def visitPair (pathItem item : Item) (nibbles : Bytes) : Except MptError Visit := do
  let pathBytes ← ofRlp (Rlp.asBytes pathItem)
  let (isLeaf, nodePath) ← hpDecode pathBytes
  if ¬nodePath <+: nibbles then .error .pathMismatch
  else
    let remaining := nibbles.drop nodePath.length
    if isLeaf then
      if remaining ≠ [] then .error .pathMismatch
      else do
        let bytes ← ofRlp (Rlp.asBytes item)
        .ok (.value bytes)
    else .ok (.child item remaining)

def visitSlot : Item → Except MptError Visit
  | .string [] => .error .keyNotFound
  | slot => do
      let bytes ← ofRlp (Rlp.asBytes slot)
      .ok (.value bytes)

/-- The arms of `walk` up to the recursive call. `none` is the panic of an index out of
bounds. -/
def visit (node : Item) (nibbles : Bytes) : Option (Except MptError Visit) :=
  match node with
  | .string [] => some (.error .keyNotFound)
  | .list [pathItem, item] => some (visitPair pathItem item nibbles)
  | .list items =>
    if items.length = 17 then
      match nibbles with
      | [] => items[16]?.map visitSlot
      | nibble :: nibbles => items[nibble.toNat]?.map fun item => .ok (.child item nibbles)
    else some (.error .invalidNode)
  | .string _ => some (.error .invalidNode)

def resolveRef (nodeMap : Hash32 → Option Bytes) : Item → Except MptError Item
  | .string bytes =>
    if bytes.isEmpty then .error .keyNotFound
    else if bytes.length = 32 then
      match nodeMap bytes with
      | none => .error .missingNode
      | some nodeBytes => ofRlp (Rlp.decode nodeBytes)
    else ofRlp (Rlp.decode bytes)
  | .list items => .ok (.list items)

/-- `walk`. Its `depth` is counted down here: `levels` is `MAX_WALK_DEPTH + 1 - depth`. -/
def walk (nodeMap : Hash32 → Option Bytes) : ℕ → Item → Bytes → Option (Except MptError Bytes)
  | 0, _, _ => some (.error .nestingTooDeep)
  | levels + 1, node, nibbles => do
      match ← visit node nibbles with
      | .error e => some (.error e)
      | .ok (.value bytes) => some (.ok bytes)
      | .ok (.child ref remaining) =>
        match resolveRef nodeMap ref with
        | .error e => some (.error e)
        | .ok child => walk nodeMap levels child remaining

section

variable (keccak256 : Bytes → Hash32)

def nodeMap (proofNodes : List Bytes) : Hash32 → Option Bytes :=
  proofNodes.foldl (fun map node => Function.update map (keccak256 node) (some node)) fun _ => none

def verify (proofNodes : List Bytes) (root : Hash32) (key : Bytes) :
    Option (Except MptError Bytes) :=
  match nodeMap keccak256 proofNodes root with
  | none => some (.error .missingNode)
  | some rootBytes =>
    match Rlp.decode rootBytes with
    | .error e => some (.error (.rlp e))
    | .ok rootItem =>
      walk (nodeMap keccak256 proofNodes) (maxWalkDepth + 1) rootItem (toNibbles (keccak256 key))

end

/-! ## Every walk returns -/

lemma lt_sixteen_of_mem_byteNibbles {bytes : Bytes} {nibble : UInt8}
    (h : nibble ∈ byteNibbles bytes) : nibble.toNat < 16 := by
  obtain ⟨b, -, hb⟩ := mem_flatMap.mp h
  have hbyte := b.toNat_lt
  rcases mem_pair.mp hb with rfl | rfl
  · rw [UInt8.toNat_shiftRight, Nat.shiftRight_eq_div_pow]
    simp
    omega
  · rw [UInt8.toNat_and]
    exact Nat.and_lt_two_pow (n := 4) _ (by decide)

variable {nibbles : Bytes}

lemma visitPair_eq_child {pathItem item ref : Item} {remaining : Bytes}
    (h : visitPair pathItem item nibbles = .ok (.child ref remaining)) :
    ∃ k, remaining = nibbles.drop k := by
  unfold visitPair at h
  cases hpath : ofRlp (Rlp.asBytes pathItem) with
  | error e => rw [hpath] at h; cases h
  | ok pathBytes =>
    rw [hpath] at h
    cases hdecode : hpDecode pathBytes with
    | error e => simp [hdecode, bind, Except.bind] at h
    | ok decoded =>
      obtain ⟨isLeaf, nodePath⟩ := decoded
      simp only [hdecode, bind, Except.bind] at h
      split_ifs at h
      · cases hitem : ofRlp (Rlp.asBytes item) <;> rw [hitem] at h <;> cases h
      · obtain ⟨-, rfl⟩ := Visit.child.inj (Except.ok.inj h)
        exact ⟨_, rfl⟩

lemma visitSlot_ne_child (slot ref : Item) (remaining : Bytes) :
    visitSlot slot ≠ .ok (.child ref remaining) := by
  match slot with
  | .string [] => exact nofun
  | .string (_ :: _) => exact nofun
  | .list _ => exact nofun

/-- A node that was reached with the nibbles of a hash is visited without an index out of
bounds, and passes on nibbles that it was given. -/
lemma visit_returns (node : Item) (h : ∀ n ∈ nibbles, n.toNat < 16) :
    ∃ outcome, visit node nibbles = some outcome ∧
      ∀ ref remaining, outcome = .ok (.child ref remaining) → ∀ n ∈ remaining, n.toNat < 16 := by
  unfold visit
  split
  · exact ⟨_, rfl, nofun⟩
  · refine ⟨_, rfl, fun ref remaining hchild n hn => ?_⟩
    obtain ⟨k, rfl⟩ := visitPair_eq_child hchild
    exact h n (mem_of_mem_drop hn)
  · split_ifs with hlen
    · cases nibbles with
      | nil =>
        rw [getElem?_eq_getElem (by omega)]
        exact ⟨_, rfl, fun ref remaining hchild => absurd hchild (visitSlot_ne_child _ _ _)⟩
      | cons nibble nibbles =>
        have hnibble := h nibble mem_cons_self
        dsimp only
        rw [getElem?_eq_getElem (by omega)]
        refine ⟨_, rfl, fun ref remaining hchild n hn => ?_⟩
        obtain ⟨-, rfl⟩ := Visit.child.inj (Except.ok.inj hchild)
        exact h n (mem_cons_of_mem _ hn)
    · exact ⟨_, rfl, nofun⟩
  · exact ⟨_, rfl, nofun⟩

lemma walk_returns (map : Hash32 → Option Bytes) {levels : ℕ} : ∀ (node : Item)
    {nibbles : Bytes}, (∀ n ∈ nibbles, n.toNat < 16) →
    ∃ r, walk map levels node nibbles = some r := by
  induction levels with
  | zero => exact fun _ _ _ => ⟨_, rfl⟩
  | succ levels ih =>
    intro node nibbles h
    obtain ⟨outcome, hvisit, hnibbles⟩ := visit_returns node h
    simp only [walk, hvisit, bind_eq_bind, bind_some]
    match outcome, hnibbles with
    | .error e, _ => exact ⟨_, rfl⟩
    | .ok (.value bytes), _ => exact ⟨_, rfl⟩
    | .ok (.child ref remaining), hnibbles =>
      dsimp only
      cases hres : resolveRef map ref with
      | error e => exact ⟨_, rfl⟩
      | ok child => exact ih child (hnibbles ref remaining rfl)

lemma verify_returns (keccak256 : Bytes → Hash32) (proofNodes : List Bytes) (root : Hash32)
    (key : Bytes) : ∃ r, verify keccak256 proofNodes root key = some r := by
  unfold verify
  split
  · exact ⟨_, rfl⟩
  · split
    · exact ⟨_, rfl⟩
    · exact walk_returns _ _ fun n hn => lt_sixteen_of_mem_byteNibbles hn

def result (keccak256 : Bytes → Hash32) (proofNodes : List Bytes) (root : Hash32) (key : Bytes) :
    Except MptError Bytes :=
  (verify keccak256 proofNodes root key).get
    (isSome_iff_exists.mpr (verify_returns keccak256 proofNodes root key))

lemma verify_eq_result (keccak256 : Bytes → Hash32) (proofNodes : List Bytes) (root : Hash32)
    (key : Bytes) : verify keccak256 proofNodes root key =
      some (result keccak256 proofNodes root key) := by
  simp [result]

/-! ## Two walks agree -/

/-- Two node maps that never answer a hash differently. -/
def Compatible (map map' : Hash32 → Option Bytes) : Prop :=
  ∀ hash node node', map hash = some node → map' hash = some node' → node = node'

/-- Two results of which neither stopped at a missing node are the same. -/
def Agree {α : Type} (r r' : Except MptError α) : Prop :=
  r ≠ .error .missingNode → r' ≠ .error .missingNode → r = r'

variable {map map' : Hash32 → Option Bytes}

lemma resolveRef_agree (hmaps : Compatible map map')
    (ref : Item) : Agree (resolveRef map ref) (resolveRef map' ref) := by
  intro hr hr'
  cases ref with
  | list items => rfl
  | string bytes =>
    simp only [resolveRef] at hr hr' ⊢
    split_ifs at hr hr' ⊢
    · rfl
    · cases hnode : map bytes with
      | none => simp [hnode] at hr
      | some node =>
        cases hnode' : map' bytes with
        | none => simp [hnode'] at hr'
        | some node' => rw [hmaps bytes node node' hnode hnode']
    · rfl

lemma walk_agree (hmaps : Compatible map map')
    {levels : ℕ} {node : Item} {r r' : Except MptError Bytes}
    (hwalk : walk map levels node nibbles = some r)
    (hwalk' : walk map' levels node nibbles = some r') : Agree r r' := by
  induction levels generalizing node nibbles with
  | zero =>
    intro _ _
    exact some.inj (hwalk.symm.trans hwalk')
  | succ levels ih =>
    intro hr hr'
    simp only [walk, bind_eq_bind] at hwalk hwalk'
    cases hvisit : visit node nibbles with
    | none => rw [hvisit] at hwalk; cases hwalk
    | some outcome =>
      simp only [hvisit, bind_some] at hwalk hwalk'
      match outcome with
      | .error e => exact some.inj (hwalk.symm.trans hwalk')
      | .ok (.value bytes) => exact some.inj (hwalk.symm.trans hwalk')
      | .ok (.child ref remaining) =>
        dsimp only at hwalk hwalk'
        -- The one place where the supplied nodes are read.
        have hres : resolveRef map ref ≠ .error .missingNode := by
          intro hmissing
          rw [hmissing] at hwalk
          exact hr (some.inj hwalk).symm
        have hres' : resolveRef map' ref ≠ .error .missingNode := by
          intro hmissing
          rw [hmissing] at hwalk'
          exact hr' (some.inj hwalk').symm
        rw [← resolveRef_agree hmaps ref hres hres'] at hwalk'
        cases hchild : resolveRef map ref with
        | error e =>
          rw [hchild] at hwalk hwalk'
          exact some.inj (hwalk.symm.trans hwalk')
        | ok child =>
          rw [hchild] at hwalk hwalk'
          exact ih hwalk hwalk' hr hr'

section

variable {keccak256 : Bytes → Hash32}

lemma nodeMap_eq_some {proofNodes : List Bytes} {hash : Hash32} {node : Bytes}
    (h : nodeMap keccak256 proofNodes hash = some node) :
    node ∈ proofNodes ∧ keccak256 node = hash := by
  induction proofNodes using reverseRecOn with
  | nil => cases h
  | append_singleton proofNodes last ih =>
    rw [nodeMap, foldl_append, foldl_cons, foldl_nil, Function.update_apply] at h
    split_ifs at h with hhash
    · cases h
      exact ⟨by simp, hhash.symm⟩
    · obtain ⟨hmem, hnode⟩ := ih h
      exact ⟨mem_append_left _ hmem, hnode⟩

variable {nodes nodes' : List Bytes}

lemma compatible_nodeMap (hfree : Set.InjOn keccak256 {node | node ∈ nodes ∨ node ∈ nodes'}) :
    Compatible (nodeMap keccak256 nodes) (nodeMap keccak256 nodes') := by
  intro hash node node' h h'
  obtain ⟨hmem, hnode⟩ := nodeMap_eq_some h
  obtain ⟨hmem', hnode'⟩ := nodeMap_eq_some h'
  exact hfree (.inl hmem) (.inr hmem') (hnode.trans hnode'.symm)

lemma verify_agree {root : Hash32} {key : Bytes}
    (hfree : Set.InjOn keccak256 {node | node ∈ nodes ∨ node ∈ nodes'})
    {r r' : Except MptError Bytes} (h : verify keccak256 nodes root key = some r)
    (h' : verify keccak256 nodes' root key = some r') : Agree r r' := by
  intro hr hr'
  have hmaps := compatible_nodeMap hfree
  unfold verify at h h'
  cases hroot : nodeMap keccak256 nodes root with
  | none => rw [hroot] at h; exact absurd (some.inj h).symm hr
  | some rootBytes =>
    cases hroot' : nodeMap keccak256 nodes' root with
    | none => rw [hroot'] at h'; exact absurd (some.inj h').symm hr'
    | some rootBytes' =>
      obtain rfl := hmaps root rootBytes rootBytes' hroot hroot'
      simp only [hroot] at h
      simp only [hroot'] at h'
      cases hitem : Rlp.decode rootBytes with
      | error e =>
        simp only [hitem] at h h'
        exact some.inj (h.symm.trans h')
      | ok rootItem =>
        simp only [hitem] at h h'
        exact walk_agree hmaps h h' hr hr'

/-- Whatever nodes two proofs for one root and one key hold, both are checked to an end, and
unless one of them misses a node on the way they give the same result: the same value, or
the same absence. `keccak256` is taken to have no collision among the supplied nodes. -/
theorem verify_result_unique (nodes nodes' : List Bytes) (root : Hash32) (key : Bytes)
    (hfree : Set.InjOn keccak256 {node | node ∈ nodes ∨ node ∈ nodes'}) :
    ∃ r r', verify keccak256 nodes root key = some r ∧ verify keccak256 nodes' root key = some r' ∧
      (r ≠ .error .missingNode → r' ≠ .error .missingNode → r = r') := by
  obtain ⟨r, h⟩ := verify_returns keccak256 nodes root key
  obtain ⟨r', h'⟩ := verify_returns keccak256 nodes' root key
  exact ⟨r, r', h, h', verify_agree hfree h h'⟩

end

/-- A digest to compute with: the first 32 bytes. -/
def firstBytes (data : Bytes) : Hash32 := (data ++ replicate 32 0).take 32

/-- The one node of a trie that holds `value` under `key`. -/
def soleLeaf (key value : Bytes) : Bytes :=
  Rlp.encode (.list [.string (0x20 :: firstBytes key), .string value])

theorem verify_result_unique_soleLeaf :
    ∃ r r', verify firstBytes [soleLeaf [1] [7]] (firstBytes (soleLeaf [1] [7])) [1] = some r ∧
      verify firstBytes [[0x80], soleLeaf [1] [7]] (firstBytes (soleLeaf [1] [7])) [1] = some r' ∧
      (r ≠ .error .missingNode → r' ≠ .error .missingNode → r = r') :=
  verify_result_unique [soleLeaf [1] [7]] [[0x80], soleLeaf [1] [7]] _ [1] (by
    have hne : firstBytes [0x80] ≠ firstBytes (soleLeaf [1] [7]) := by decide +kernel
    intro node hnode node' hnode' heq
    simp only [mem_cons, not_mem_nil, or_false, Set.mem_ofPred_eq] at hnode hnode'
    rcases hnode with rfl | rfl | rfl <;> rcases hnode' with rfl | rfl | rfl <;>
      first | rfl | exact absurd heq hne | exact absurd heq.symm hne)

example : verify firstBytes [soleLeaf [1] [7]] (firstBytes (soleLeaf [1] [7])) [1] =
    some (.ok [7]) := by decide +kernel

-- An empty extension that points at itself.
example : verify (fun data => replicate 32 (data.getLastD 0))
    [Rlp.encode (.list [.string [0], .string (replicate 32 2)])]
    (replicate 32 2) [] = some (.error .nestingTooDeep) := by decide +kernel

/-! ## Hex-prefix coding -/

/-- Two nibbles to a byte: the loop over `chunks(2)`. -/
def packNibbles : Bytes → Bytes
  | high :: low :: rest => (high <<< 4 ||| low) :: packNibbles rest
  | _ => []

def hpEncode (nibbles : Bytes) (isLeaf : Bool) : Bytes :=
  let flag : UInt8 := if isLeaf then 2 else 0
  let odd := nibbles.length % 2 == 1
  let flagNibble := flag + if odd then 1 else 0
  if odd then (flagNibble <<< 4 ||| nibbles.headD 0) :: packNibbles nibbles.tail
  else flagNibble <<< 4 :: packNibbles nibbles

variable {isLeaf : Bool} {nibbles rest : Bytes} {first : UInt8}

lemma hpEncode_even (h : nibbles.length % 2 = 0) : hpEncode nibbles isLeaf =
    ((if isLeaf then 2 else 0 : UInt8) <<< 4) :: packNibbles nibbles := by
  simp [hpEncode, h]

lemma hpEncode_odd (h : rest.length % 2 = 0) : hpEncode (first :: rest) isLeaf =
    (((if isLeaf then 2 else 0 : UInt8) + 1) <<< 4 ||| first) :: packNibbles rest := by
  have hodd : (rest.length + 1) % 2 = 1 := by omega
  simp [hpEncode, hodd]

lemma pack_of_nibbles : ∀ b : UInt8, (b >>> 4) <<< 4 ||| (b &&& 0x0f) = b := by
  decide +kernel

lemma clear_low_iff : ∀ b : UInt8, (b >>> 4) <<< 4 = b ↔ b &&& 0x0f = 0 := by
  decide +kernel

/-- The flag nibble is made of the two flags that are read off it. -/
lemma flags_of_nibble : ∀ b : UInt8, ¬ b >>> 4 > 3 →
    ((if b >>> 4 &&& 0b10 != 0 then 2 else 0 : UInt8) +
      (if b >>> 4 &&& 0b01 != 0 then 1 else 0 : UInt8)) = b >>> 4 := by
  decide +kernel

lemma nibbles_of_pack : ∀ high : UInt8, high < 16 → ∀ low : UInt8, low < 16 →
    (high <<< 4 ||| low) >>> 4 = high ∧ (high <<< 4 ||| low) &&& 0x0f = low := by
  decide +kernel

lemma hpDecode_pack : ∀ flag : UInt8, flag < 4 → ∀ low : UInt8, low < 16 → ∀ bytes : Bytes,
    hpDecode ((flag <<< 4 ||| low) :: bytes) = .ok (flag &&& 0b10 != 0,
      (if flag &&& 0b01 != 0 then [low] else []) ++ byteNibbles bytes) := by
  intro flag hflag low hlow bytes
  have hle : flag < 16 ∧ ¬ flag > 3 := by
    revert flag
    decide +kernel
  obtain ⟨hhigh, hlast⟩ := nibbles_of_pack flag hle.1 low hlow
  simp only [hpDecode, hhigh, hlast]
  rw [if_neg hle.2]

lemma byteNibbles_packNibbles (nibbles : Bytes) (hlt : ∀ n ∈ nibbles, n < 16)
    (heven : nibbles.length % 2 = 0) : byteNibbles (packNibbles nibbles) = nibbles := by
  induction nibbles using packNibbles.induct with
  | case1 high low rest ih =>
    obtain ⟨hhigh, hlow⟩ := nibbles_of_pack high (hlt high (by simp)) low (hlt low (by simp))
    have hrest := ih (fun n hn => hlt n (by simp [hn])) (by simpa [add_assoc] using heven)
    show _ :: _ :: byteNibbles (packNibbles rest) = _
    rw [hhigh, hlow, hrest]
  | case2 nibbles h =>
    rcases nibbles with _ | ⟨a, _ | ⟨b, rest⟩⟩
    · rfl
    · cases heven
    · exact absurd rfl (h a b rest)

lemma packNibbles_byteNibbles (bytes : Bytes) : packNibbles (byteNibbles bytes) = bytes := by
  induction bytes with
  | nil => rfl
  | cons b bytes ih =>
    show ((b >>> 4) <<< 4 ||| (b &&& 0x0f)) :: packNibbles (byteNibbles bytes) = _
    rw [pack_of_nibbles, ih]

lemma length_byteNibbles (bytes : Bytes) : (byteNibbles bytes).length % 2 = 0 := by
  induction bytes with
  | nil => rfl
  | cons b bytes ih =>
    show ((byteNibbles bytes).length + 2) % 2 = 0
    omega

/-- A path is read back from its encoding, and what is decoded encodes to the same bytes
exactly if the half byte that an even path leaves unused is zero. -/
theorem hex_prefix_round_trip_iff (nibbles bytes : Bytes) (isLeaf : Bool) (first : UInt8) :
    ((∀ n ∈ nibbles, n < 16) → hpDecode (hpEncode nibbles isLeaf) = .ok (isLeaf, nibbles)) ∧
    ∀ leaf path, hpDecode (first :: bytes) = .ok (leaf, path) →
      (hpEncode path leaf = first :: bytes ↔ (first >>> 4 &&& 1 = 0 → first &&& 0x0f = 0)) := by
  constructor
  · intro hlt
    rcases Nat.mod_two_eq_zero_or_one nibbles.length with heven | hodd
    · rw [hpEncode_even heven, ← @UInt8.or_zero ((if isLeaf then 2 else 0 : UInt8) <<< 4),
        hpDecode_pack _ (by cases isLeaf <;> decide) _ (by decide),
        byteNibbles_packNibbles nibbles hlt heven]
      cases isLeaf <;> rfl
    · obtain ⟨n, rest, rfl⟩ := exists_cons_of_length_pos (l := nibbles) (by omega)
      have heven : rest.length % 2 = 0 := by
        rw [length_cons] at hodd
        omega
      rw [hpEncode_odd heven, hpDecode_pack _ (by cases isLeaf <;> decide) _ (hlt n (by simp)),
        byteNibbles_packNibbles rest (fun n hn => hlt n (by simp [hn])) heven]
      cases isLeaf <;> rfl
  · intro leaf path h
    unfold hpDecode at h
    dsimp only at h
    split_ifs at h with hflag hodd
    · cases h
      have hflags := flags_of_nibble first hflag
      rw [if_pos hodd] at hflags
      rw [singleton_append, hpEncode_odd (length_byteNibbles bytes), hflags, pack_of_nibbles,
        packNibbles_byteNibbles]
      exact iff_of_true rfl fun hzero => absurd hodd (by simp [hzero])
    · cases h
      have hflags := flags_of_nibble first hflag
      rw [if_neg hodd, UInt8.add_zero] at hflags
      rw [nil_append, hpEncode_even (length_byteNibbles bytes), hflags,
        packNibbles_byteNibbles, cons.injEq, and_iff_left rfl, clear_low_iff]
      exact (imp_iff_right (by simpa using hodd)).symm

/-- The low half of `0x05` is dropped. -/
theorem padding_nibble_is_decoded :
    hpDecode [0x05] = .ok (false, []) ∧ hpEncode [] false ≠ [0x05] := by
  decide

end Budlum.Mpt
