import Budlum.CrossDomain.Settlement

/-!
# The tree of a domain's events

`DomainEventTree`, with its root and its proofs. Every proof it gives verifies. What
`verify_event_against_commitment` accepts under its root is an event of the tree up to
the body of its message: a leaf covers a message by its id alone, which says the rest
for a message whose id is the hash of its fields.
-/

namespace Budlum

open Merkle SettlementProofVerifier Executor List Function

/-! ## The tree -/

section

variable (hashFields : List Bytes → Hash32)

def merkleNode (left right : Hash32) : Hash32 :=
  hashFields [strBytes "BDLM_MERKLE_NODE_V1", left, right]

def merkleRoot (leaves : List Hash32) : Hash32 :=
  if leaves.isEmpty then hashFields [strBytes "BDLM_EMPTY_MERKLE_ROOT_V1"]
  else (root? (tree (merkleNode hashFields) leaves)).getD []

structure DomainEventTree where
  events : List DomainEvent

namespace DomainEventTree

variable (t : DomainEventTree)

def leaves : List Hash32 := t.events.map (DomainEvent.leafHash hashFields)

def root : Hash32 := merkleRoot hashFields (t.leaves hashFields)

def proof (index : ℕ) : Option MerkleProof :=
  if index ≥ t.events.length then none
  else do
    let leaf ← (t.leaves hashFields)[index]?
    let siblings ← path (merkleNode hashFields) t.events.length index (t.leaves hashFields)
    some ⟨leaf, index, siblings⟩

end DomainEventTree

end

variable {T : ModuleTypes} {M : Modules T}

variable {proof : MerkleProof}

lemma verifyMerkleProof_iff {root : Hash32} : verifyMerkleProof M proof root = true ↔
      climb (merkleNode M.hashFields) proof.leaf proof.index proof.siblings = root := by
  rw [← foldl_join]
  exact beq_iff_eq

lemma merkleRoot_of_root? {hashFields : List Bytes → Hash32} {leaves : List Hash32} {r : Hash32}
    (hr : root? (tree (merkleNode hashFields) leaves) = some r)
    (hne : leaves ≠ []) : merkleRoot hashFields leaves = r := by
  rw [merkleRoot, if_neg (by simpa using hne), hr]
  rfl

lemma DomainEventTree.proof_verifies (t : DomainEventTree) {index : ℕ}
    (hindex : index < t.events.length) : ∃ proof, t.proof M.hashFields index = some proof ∧
      verifyMerkleProof M proof (t.root M.hashFields) = true := by
  have hlen : (t.leaves M.hashFields).length = t.events.length := length_map ..
  have hleaf : (t.leaves M.hashFields)[index]? = some (t.leaves M.hashFields)[index] :=
    getElem?_eq_getElem (by omega)
  obtain ⟨siblings, hpath, hroot⟩ :=
    climb_path (merkleNode M.hashFields) t.events.length hleaf (by omega)
  have hne : t.leaves M.hashFields ≠ [] := ne_nil_of_length_pos (by omega)
  rw [← hlen] at hroot
  refine ⟨_, by rw [proof, if_neg (by omega), hleaf, hpath]; rfl, ?_⟩
  rw [verifyMerkleProof_iff, root, merkleRoot_of_root? hroot hne]

/-! ## What a leaf says about its event -/

attribute [ext] CrossDomainMessage DomainEvent

lemma custom_ne_tag {bytes tag : Bytes} (h : tag.head? ≠ some 99) :
    strBytes "custom:" ++ bytes ≠ tag := by
  have hcustom : strBytes "custom:" = [99, 117, 115, 116, 111, 109, 58] := by decide +kernel
  rintro rfl
  rw [hcustom] at h
  exact h rfl

lemma kinds_injective : Injective DomainEventKind.asBytes ∧ Injective MessageKind.asBytes := by
  constructor
  all_goals
    intro k k' h
    cases k <;> cases k'
    case custom.custom => exact congrArg _ (append_cancel_left h)
    all_goals first
      | rfl
      | exact absurd h (by decide +kernel)
      | exact absurd h (custom_ne_tag (by decide +kernel))
      | exact absurd h.symm (custom_ne_tag (by decide +kernel))

/-- The numbers of a message fit the types they have in the node. -/
structure CrossDomainMessage.Fits (m : CrossDomainMessage) : Prop where
  sourceDomain : m.sourceDomain < 2 ^ 32
  targetDomain : m.targetDomain < 2 ^ 32
  sourceHeight : m.sourceHeight < 2 ^ 64
  eventIndex : m.eventIndex < 2 ^ 32
  nonce : m.nonce < 2 ^ 64
  expiryHeight : m.expiryHeight < 2 ^ 64

structure DomainEvent.Fits (e : DomainEvent) : Prop where
  domainId : e.domainId < 2 ^ 32
  domainHeight : e.domainHeight < 2 ^ 64
  eventIndex : e.eventIndex < 2 ^ 32
  message : ∀ m, e.message = some m → m.Fits

/-- Two messages are the same, no correlation id counting as the zero id. -/
def CrossDomainMessage.Same (m m' : CrossDomainMessage) : Prop :=
  { m with correlationId := m'.correlationId } = m' ∧
    m.correlationId.getD .zero = m'.correlationId.getD .zero

/-- The id in the leaf of an event, zero for an event without a message. -/
def DomainEvent.messageId (e : DomainEvent) : Id32 :=
  (e.message.map CrossDomainMessage.messageId).getD .zero

/-- Two events are the same up to the bodies of their messages, and so are these when
their ids are the hashes of their fields. -/
structure DomainEvent.Same (hashFields : List Bytes → Hash32) (e e' : DomainEvent) : Prop where
  fields : { e with message := e'.message } = e'
  messageId : e.messageId = e'.messageId
  message : ∀ m m', e.message = some m → e'.message = some m' →
    m.verifyId hashFields = true → m'.verifyId hashFields = true → m.Same m'

section

variable {hashFields : List Bytes → Hash32} (hinj : Injective hashFields)

include hinj in
lemma CrossDomainMessage.same_of_messageId {m m' : CrossDomainMessage} (hm : m.Fits)
    (hm' : m'.Fits) (hid : m.messageId = m'.messageId) (hv : m.verifyId hashFields = true)
    (hv' : m'.verifyId hashFields = true) : m.Same m' := by
  rw [verifyId, beq_iff_eq] at hv hv'
  have hfields := hinj (Id32.mk.inj (hv.symm.trans (hid.trans hv')))
  simp only [cons.injEq, true_and, and_true] at hfields
  obtain ⟨hcorrelation, hsource, htarget, hheight, hindex, hnonce, hsender, hrecipient, hpayload,
    hkind, hexpiry⟩ := hfields
  refine ⟨CrossDomainMessage.ext hid rfl ?_ ?_ ?_ ?_ ?_ ?_ ?_ hpayload ?_ ?_,
    congrArg Id32.mk hcorrelation⟩
  · exact leBytes_inj hm.sourceDomain hm'.sourceDomain hsource
  · exact leBytes_inj hm.targetDomain hm'.targetDomain htarget
  · exact leBytes_inj hm.sourceHeight hm'.sourceHeight hheight
  · exact leBytes_inj hm.eventIndex hm'.eventIndex hindex
  · exact leBytes_inj hm.nonce hm'.nonce hnonce
  · exact Address.asBytes_injective hsender
  · exact Address.asBytes_injective hrecipient
  · exact kinds_injective.2 hkind
  · exact leBytes_inj hm.expiryHeight hm'.expiryHeight hexpiry

include hinj in
lemma DomainEvent.same_of_leafHash {e e' : DomainEvent} (he : e.Fits) (he' : e'.Fits)
    (h : e.leafHash hashFields = e'.leafHash hashFields) : e.Same hashFields e' := by
  have hfields := hinj h
  simp only [cons.injEq, true_and, and_true] at hfields
  obtain ⟨hdomain, hheight, hindex, hkind, hemitter, hid, hpayload⟩ := hfields
  have hmessageId : e.messageId = e'.messageId := congrArg Id32.mk hid
  refine ⟨DomainEvent.ext ?_ ?_ ?_ ?_ ?_ rfl hpayload, hmessageId, fun m m' hm hm' => ?_⟩
  · exact leBytes_inj he.domainId he'.domainId hdomain
  · exact leBytes_inj he.domainHeight he'.domainHeight hheight
  · exact leBytes_inj he.eventIndex he'.eventIndex hindex
  · exact kinds_injective.1 hkind
  · exact Address.asBytes_injective hemitter
  · refine CrossDomainMessage.same_of_messageId hinj (he.message m hm) (he'.message m' hm') ?_
    simpa only [messageId, hm, hm', Option.map_some, Option.getD_some] using hmessageId

/-! ## What climbs to a root -/

def rootLeaves (hashFields : List Bytes → Hash32) (leaves : List Hash32) : List Hash32 :=
  if leaves.isEmpty then [hashFields [strBytes "BDLM_EMPTY_MERKLE_ROOT_V1"]] else leaves

lemma built_merkleRoot (leaves : List Hash32) :
    Merkle.Built (merkleNode hashFields) (rootLeaves hashFields leaves)
      (merkleRoot hashFields leaves) := by
  rw [merkleRoot, rootLeaves]
  split_ifs with hempty
  · exact .leaf (mem_singleton.mpr rfl)
  · have hpos : 0 < leaves.length := by
      simpa [length_pos_iff] using hempty
    obtain ⟨siblings, -, hroot⟩ := climb_path (merkleNode hashFields) leaves.length
      (getElem?_eq_getElem hpos) (Nat.le_succ _)
    refine Merkle.Built.of_root? leaves.length (fun h hh => .leaf hh) ?_
    rw [tree, hroot]
    rfl

include hinj in
lemma merkleNode_inj {a b c d : Hash32}
    (h : merkleNode hashFields a b = merkleNode hashFields c d) : a = c ∧ b = d := by
  simpa using hinj h

include hinj in
lemma DomainEvent.leafHash_ne_node (e : DomainEvent) (a b : Hash32) :
    e.leafHash hashFields ≠ merkleNode hashFields a b := by
  intro h
  simpa using hinj h

include hinj in
lemma rootLeaves_ne_node (t : DomainEventTree) :
    ∀ h ∈ rootLeaves hashFields (t.leaves hashFields), ∀ a b, h ≠ merkleNode hashFields a b := by
  intro h hh a b
  rw [rootLeaves] at hh
  split_ifs at hh
  · rw [mem_singleton.mp hh]
    intro heq
    simpa using hinj heq
  · obtain ⟨e, -, rfl⟩ := mem_map.mp hh
    exact e.leafHash_ne_node hinj a b

include hinj in
lemma DomainEventTree.mem_leaves_of_climb (t : DomainEventTree) {e : DomainEvent} {index : ℕ}
    {siblings : List Hash32} (h : climb (merkleNode hashFields) (e.leafHash hashFields) index
      siblings = t.root hashFields) : e.leafHash hashFields ∈ t.leaves hashFields := by
  have hroot : Merkle.Built (merkleNode hashFields) _ (t.root hashFields) := built_merkleRoot _
  rw [← h] at hroot
  have hmem := (Merkle.Built.of_climb (merkleNode_inj hinj) (rootLeaves_ne_node hinj t) siblings
    hroot).mem_of_leaf (e.leafHash_ne_node hinj)
  rw [rootLeaves] at hmem
  split_ifs at hmem
  · -- the root of no events has one field
    simpa using hinj (mem_singleton.mp hmem)
  · exact hmem

end

lemma climb_of_accepted {commitment : DomainCommitment} {event : DomainEvent}
    {verified : VerifiedDomainEvent} (h : verifyEventAgainstCommitment M commitment event proof =
      .ok verified) : climb (merkleNode M.hashFields) (event.leafHash M.hashFields) proof.index
      proof.siblings = commitment.eventRoot := by
  unfold verifyEventAgainstCommitment at h
  split_ifs at h with _ _ _ hleaf hverify
  rw [Bool.not_eq_false, verifyMerkleProof_iff] at hverify
  rw [not_ne_iff.mp hleaf]
  exact hverify

/-- Every event of a tree has a proof that verifies against its root, and an event that the
verifier accepts against the root is one of the tree up to the body of its message. -/
theorem event_proofs_verify_and_bind (hinj : Injective M.hashFields)
    (t : DomainEventTree) (hfits : ∀ e ∈ t.events, e.Fits) :
    (∀ index < t.events.length, ∃ proof, t.proof M.hashFields index = some proof ∧
      verifyMerkleProof M proof (t.root M.hashFields) = true) ∧
    ∀ (commitment : DomainCommitment) (event : DomainEvent) (proof : MerkleProof)
      (verified : VerifiedDomainEvent), commitment.eventRoot = t.root M.hashFields → event.Fits →
      verifyEventAgainstCommitment M commitment event proof =
        .ok verified → ∃ e ∈ t.events, event.Same M.hashFields e := by
  refine ⟨fun index => t.proof_verifies, fun commitment event proof verified hroot hevent h => ?_⟩
  have hclimb := climb_of_accepted h
  rw [hroot] at hclimb
  obtain ⟨e, he, hleaf⟩ := mem_map.mp (t.mem_leaves_of_climb hinj hclimb)
  exact ⟨e, he, DomainEvent.same_of_leafHash hinj hevent (hfits e he) hleaf.symm⟩

/-! ## A forged body -/

/-- A field written out with every byte marked and its end closed. -/
def frameField (field rest : Bytes) : Bytes := field.foldr (fun b r => 1 :: b :: r) (0 :: rest)

/-- A hash without collisions: the fields written out. -/
def frame (fields : List Bytes) : Bytes := fields.foldr frameField []

lemma frameField_inj {f g r r' : Bytes} (h : frameField f r = frameField g r') :
    f = g ∧ r = r' := by
  induction f generalizing g with
  | nil =>
    cases g with
    | nil => exact ⟨rfl, (cons.inj h).2⟩
    | cons b g => cases (cons.inj h).1
  | cons a f ih =>
    cases g with
    | nil => cases (cons.inj h).1
    | cons b g =>
      obtain ⟨rfl, htail⟩ := cons.inj (cons.inj h).2
      obtain ⟨rfl, hrest⟩ := ih htail
      exact ⟨rfl, hrest⟩

lemma frame_injective : Injective frame := by
  have hne : ∀ f r, [] ≠ frameField f r := by
    intro f r h
    cases f <;> cases h
  intro fields
  induction fields with
  | nil =>
    intro fields' h
    cases fields' with
    | nil => rfl
    | cons g gs => exact absurd h (hne _ _)
  | cons f fs ih =>
    intro fields' h
    cases fields' with
    | nil => exact absurd h.symm (hne _ _)
    | cons g gs =>
      obtain ⟨rfl, hrest⟩ := frameField_inj h
      rw [ih hrest]

/-- The modules of `refusing` over that hash. -/
def Modules.framing : Modules ModuleTypes.point := { Modules.refusing with hashFields := frame }

def memo : CrossDomainMessage :=
  .withId frame ⟨.zero, none, 1, 2, 1, 0, 0, ⟨1⟩, ⟨2⟩, [], .custom [], 100⟩

def memoEvent : DomainEvent := ⟨1, 1, 0, .messageEmitted, ⟨1⟩, some memo, []⟩

def memoTree : DomainEventTree := ⟨[memoEvent]⟩

/-- The same event with account 3 for the recipient of its message. -/
def forgedEvent : DomainEvent := { memoEvent with message := some { memo with recipient := ⟨3⟩ } }

def memoCommitment : DomainCommitment := ⟨1, 1, [], [], memoTree.root frame, .poS, [], 0, ∅⟩

def memoProof : MerkleProof := ⟨memoEvent.leafHash frame, 0, []⟩

lemma memoEvent_fits : memoEvent.Fits :=
  ⟨by decide, by decide, by decide, fun m hm => by
    cases hm
    exact ⟨by decide, by decide, by decide, by decide, by decide, by decide⟩⟩

def memoAt (i : ℕ) : DomainEvent := { memoEvent with eventIndex := i }

def threeMemos : DomainEventTree := ⟨[memoAt 0, memoAt 1, memoAt 2]⟩

lemma threeMemos_fits : ∀ e ∈ threeMemos.events, e.Fits := by
  have hfits : ∀ i < 3, (memoAt i).Fits := fun i hi =>
    { memoEvent_fits with eventIndex := hi.trans (by decide) }
  simp [threeMemos, hfits]

def threeCommitment : DomainCommitment := { memoCommitment with eventRoot := threeMemos.root frame }

/-- The second event beside the first, and the third over itself beside both. -/
def secondProof : MerkleProof :=
  ⟨(memoAt 1).leafHash frame, 1, [(memoAt 0).leafHash frame,
    merkleNode frame ((memoAt 2).leafHash frame) ((memoAt 2).leafHash frame)]⟩

theorem event_proofs_verify_and_bind_memos :
    (∃ proof, threeMemos.proof frame 1 = some proof ∧
      verifyMerkleProof Modules.framing proof (threeMemos.root frame) = true) ∧
    verifyEventAgainstCommitment Modules.framing threeCommitment (memoAt 1) secondProof =
      .ok ⟨threeCommitment, memoAt 1⟩ ∧
    ∃ e ∈ threeMemos.events, (memoAt 1).Same frame e := by
  have haccepted : verifyEventAgainstCommitment Modules.framing threeCommitment (memoAt 1)
      secondProof = .ok ⟨threeCommitment, memoAt 1⟩ := by
    have hclimb : verifyMerkleProof Modules.framing secondProof threeCommitment.eventRoot = true :=
      verifyMerkleProof_iff.mpr rfl
    have hleaf : (memoAt 1).leafHash Modules.framing.hashFields = secondProof.leaf := rfl
    rw [verifyEventAgainstCommitment, if_neg (by decide), if_neg (by decide), if_neg (by decide),
      if_neg (not_not.mpr hleaf), if_neg (by simp [hclimb])]
  have h := event_proofs_verify_and_bind (M := Modules.framing) frame_injective threeMemos
    threeMemos_fits
  exact ⟨h.1 1 (by decide), haccepted, h.2 threeCommitment (memoAt 1) secondProof _ rfl
    (threeMemos_fits _ (by simp [threeMemos])) haccepted⟩

/-- An event with a forged message is accepted although the tree does not hold it. -/
theorem forged_body_is_accepted : Injective Modules.framing.hashFields ∧
    verifyEventAgainstCommitment Modules.framing memoCommitment forgedEvent
      memoProof = .ok ⟨memoCommitment, forgedEvent⟩ ∧
    memoCommitment.eventRoot = memoTree.root Modules.framing.hashFields ∧
    forgedEvent ∉ memoTree.events :=
  ⟨frame_injective, by decide +kernel, rfl, by decide +kernel⟩

end Budlum
