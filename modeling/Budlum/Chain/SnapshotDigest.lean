import Budlum.Chain.Snapshot

/-!
# What the digest of a snapshot binds

Two kinds of things are not bound. The sections of balances, nonces, validators and unbonding
entries stand one after the other without their counts, and so does the finalized hash without
its length: bytes can be moved over a border. And of a validator six fields are not hashed.
Snapshots with one digest are the same in all sections exactly if their layout is the same and
those fields are.
-/

namespace Budlum

open Machine AccountState FullState SortedMap StateSnapshotV2

variable {T : ModuleTypes} (M : ChainModules T) (S : SnapshotModules T)

/-! ## Parts of a record -/

namespace ValidatorRecord

variable (v : ValidatorRecord)

structure Fits : Prop where
  stake : v.stake < 2 ^ 64
  jailUntil : v.jailUntil < 2 ^ 64
  bls : v.blsPublicKey.length < 2 ^ 64
  pop : v.popSignature.length < 2 ^ 64
  pq : v.pqPublicKey.length < 2 ^ 64

/-- The fields of a record that the digest leaves out. -/
def undigested : Address × Option ℕ × ℕ × ℕ × Bytes × List RoleId :=
  (v.address, v.lastProposedBlock, v.votesFor, v.votesAgainst, v.vrfPublicKey, v.roles)

/-- The fields that it takes in, in its order. -/
def digested : (((((((ℕ × Bool) × Bool) × Bool) × ℕ) × Bytes) × Bytes) × Bytes) :=
  (((((((v.stake, v.active), v.slashed), v.jailed), v.jailUntil), v.blsPublicKey),
    v.popSignature), v.pqPublicKey)

lemma ext_parts {v w : ValidatorRecord} (hdigested : v.digested = w.digested)
    (hundigested : v.undigested = w.undigested) : v = w := by
  obtain ⟨⟨address, stake, active, slashed, jailed, jailUntil, votesFor, votesAgainst, vrf, bls,
    pop, pq⟩, lastProposed, roles⟩ := v
  obtain ⟨⟨address', stake', active', slashed', jailed', jailUntil', votesFor', votesAgainst',
    vrf', bls', pop', pq'⟩, lastProposed', roles'⟩ := w
  simp only [digested, undigested, Prod.mk.injEq] at hdigested hundigested
  obtain ⟨⟨⟨⟨⟨⟨⟨rfl, rfl⟩, rfl⟩, rfl⟩, rfl⟩, rfl⟩, rfl⟩, rfl⟩ := hdigested
  obtain ⟨rfl, rfl, rfl, rfl, rfl, rfl⟩ := hundigested
  rfl

end ValidatorRecord

/-! ## What the encodings tell -/

lemma tells_u32 : Tells (· < 2 ^ 32) u32LeBytes id :=
  .of_length (fun n _ => length_leBytes 4 n) fun _ _ ha hb h => leBytes_inj ha hb h

lemma tells_u64 : Tells (· < 2 ^ 64) u64LeBytes id :=
  .of_length (fun n _ => length_leBytes 8 n) fun _ _ ha hb h => leBytes_inj ha hb h

lemma tells_address : Tells (fun _ => True) Address.asBytes id := by
  have hlength : ∀ a : Address, True → a.asBytes.length = 32 := by
    intro a _
    rw [Address.asBytes, List.length_reverse, length_leBytes]
  exact .of_length hlength fun a b _ _ h => Address.asBytes_injective h

lemma tells_boolByte : Tells (fun _ => True) boolByte id := by
  refine .of_length (fun _ _ => rfl) fun a b _ _ h => ?_
  revert a b
  decide

lemma tells_withLength :
    Tells (fun bytes => bytes.length < 2 ^ 64) ValidatorSetSnapshot.updateWithLength id := by
  intro a b ha hb r r' h
  unfold ValidatorSetSnapshot.updateWithLength at h
  rw [List.append_assoc, List.append_assoc] at h
  obtain ⟨hlength, hrest⟩ := tells_u64 ha hb h
  exact List.append_inj hrest hlength

namespace StateSnapshotV2

lemma tells_hashSerializable : Tells (fun bytes => bytes.length < 2 ^ 64) hashSerializable id :=
  tells_withLength

lemma tells_balance :
    Tells (fun e : Address × ℕ => e.2 < 2 ^ 64) balanceBytes fun e => (e.1, e.2) :=
  (tells_address.comp Prod.fst fun _ _ => trivial).append (tells_u64.comp Prod.snd fun _ h => h)

lemma tells_unbonding :
    Tells (fun e => e.amount < 2 ^ 64 ∧ e.releaseEpoch < 2 ^ 64) unbondingBytes
      fun e => ((e.address, e.amount), e.releaseEpoch) :=
  ((tells_address.comp UnbondingEntry.address fun _ _ => trivial).append
    (tells_u64.comp UnbondingEntry.amount fun _ h => h.1)).append
    (tells_u64.comp UnbondingEntry.releaseEpoch fun _ h => h.2)

lemma tells_validator : Tells (fun e : Address × ValidatorRecord => e.2.Fits) validatorBytes
      fun e => (e.1, e.2.digested) := by
  have hflag (p : ValidatorRecord → Bool) : Tells (fun e : Address × ValidatorRecord => e.2.Fits)
      (fun e => boolByte (p e.2)) fun e => p e.2 := tells_boolByte.comp _ fun _ _ => trivial
  have h := ((((((((tells_address.comp Prod.fst fun _ _ => trivial).append
    (tells_u64.comp (fun e : Address × ValidatorRecord => e.2.stake) fun _ h => h.stake)).append
    (hflag fun v => v.active)).append (hflag fun v => v.slashed)).append
    (hflag fun v => v.jailed)).append
    (tells_u64.comp (fun e : Address × ValidatorRecord => e.2.jailUntil)
      fun _ h => h.jailUntil)).append
    (tells_withLength.comp (fun e : Address × ValidatorRecord => e.2.blsPublicKey)
      fun _ h => h.bls)).append
    (tells_withLength.comp (fun e : Address × ValidatorRecord => e.2.popSignature)
      fun _ h => h.pop)).append
    (tells_withLength.comp (fun e : Address × ValidatorRecord => e.2.pqPublicKey)
      fun _ h => h.pq)
  intro e f he hf r r' heq
  obtain ⟨hview, hrest⟩ := h he hf heq
  refine ⟨?_, hrest⟩
  simp only [id_eq, Prod.mk.injEq, ValidatorRecord.digested] at hview ⊢
  obtain ⟨⟨⟨⟨⟨⟨⟨⟨hkey, hstake⟩, hactive⟩, hslashed⟩, hjailed⟩, huntil⟩, hbls⟩, hpop⟩, hpq⟩ := hview
  exact ⟨hkey, ⟨⟨⟨⟨⟨⟨hstake, hactive⟩, hslashed⟩, hjailed⟩, huntil⟩, hbls⟩, hpop⟩, hpq⟩

variable (s t : StateSnapshotV2 T)

/-- The numbers, lengths and hashes of a snapshot fit their types. -/
structure Fits : Prop where
  schemaVersion : s.schemaVersion < 2 ^ 32
  height : s.height < 2 ^ 64
  blockHash : (strBytes s.blockHash).length < 2 ^ 64
  genesisHash : (strBytes s.genesisHash).length < 2 ^ 64
  chainId : s.chainId < 2 ^ 64
  balances : ∀ e ∈ s.balances.entries, e.2 < 2 ^ 64
  nonces : ∀ e ∈ s.nonces.entries, e.2 < 2 ^ 64
  validators : ∀ e ∈ s.validators.entries, e.2.Fits
  unbondingQueue : ∀ e ∈ s.unbondingQueue, e.amount < 2 ^ 64 ∧ e.releaseEpoch < 2 ^ 64
  finalizedHeight : s.finalizedHeight < 2 ^ 64
  epochIndex : s.epochIndex < 2 ^ 64
  lastEpochTime : s.lastEpochTime < 2 ^ 64
  baseFee : s.baseFee < 2 ^ 64

structure Sections where
  height : ℕ
  blockHash : String
  genesisHash : String
  chainId : ℕ
  balances : SortedMap Address ℕ
  nonces : SortedMap Address ℕ
  validators : SortedMap Address ValidatorRecord
  unbondingQueue : List UnbondingEntry
  finalizedHeight : ℕ
  finalizedHash : String
  epochIndex : ℕ
  lastEpochTime : ℕ
  baseFee : ℕ

def sections : Sections :=
  ⟨s.height, s.blockHash, s.genesisHash, s.chainId, s.balances, s.nonces, s.validators,
    s.unbondingQueue, s.finalizedHeight, s.finalizedHash, s.epochIndex, s.lastEpochTime, s.baseFee⟩

/-- The sections without an end mark are of the same size, and what the digest leaves out of
the validators is the same. -/
structure SameLayout : Prop where
  balances : s.balances.entries.length = t.balances.entries.length
  nonces : s.nonces.entries.length = t.nonces.entries.length
  validators : (s.validators.mapValues fun _ v => v.undigested) =
    t.validators.mapValues fun _ v => v.undigested
  unbondingQueue : s.unbondingQueue.length = t.unbondingQueue.length
  finalizedHash : (strBytes s.finalizedHash).length = (strBytes t.finalizedHash).length

variable {s t} {S}

lemma SameLayout.of_sections (h : s.sections = t.sections) : s.SameLayout t := by
  simp only [sections, Sections.mk.injEq] at h
  obtain ⟨-, -, -, -, hbalances, hnonces, hvalidators, hunbonding, -, hhash, -⟩ := h
  exact ⟨by rw [hbalances], by rw [hnonces], by rw [hvalidators], by rw [hunbonding], by rw [hhash]⟩

lemma eq_of_map_entries {m m' : SortedMap Address ℕ}
    (h : m.entries.map (fun e => (e.1, e.2)) = m'.entries.map fun e => (e.1, e.2)) : m = m' := by
  obtain ⟨entries, hsorted⟩ := m
  obtain ⟨entries', hsorted'⟩ := m'
  simp only [Prod.mk.eta, List.map_id'] at h
  subst h
  rfl

lemma eq_of_digested {m m' : SortedMap Address ValidatorRecord}
    (hdigested : m.entries.map (fun e => (e.1, e.2.digested)) =
      m'.entries.map fun e => (e.1, e.2.digested))
    (hundigested : (m.mapValues fun _ v => v.undigested) = m'.mapValues fun _ v => v.undigested) :
    m = m' := by
  have hentries : (m.mapValues fun _ v => v.digested) = m'.mapValues fun _ v => v.digested := by
    simp only [mapValues, hdigested]
  apply ext_get?
  intro a
  have hd := congrArg (fun m => m.get? a) hentries
  have hu := congrArg (fun m => m.get? a) hundigested
  simp only [get?_mapValues] at hd hu
  generalize m.get? a = v at hd hu ⊢
  generalize m'.get? a = w at hd hu ⊢
  rcases v with _ | v <;> rcases w with _ | w
  · rfl
  · simp at hd
  · simp at hd
  · exact congrArg some
      (ValidatorRecord.ext_parts (Option.some.inj hd) (Option.some.inj hu))

lemma sections_of_preimage (hs : s.Fits) (ht : t.Fits) (hs4 : s.schemaVersion = 4)
    (ht4 : t.schemaVersion = 4) (hlayout : s.SameLayout t)
    (h : s.digestPreimage S = t.digestPreimage S) : s.sections = t.sections := by
  have hhead : ∀ u : StateSnapshotV2 T, u.schemaVersion = 4 → 4 ≤ u.schemaVersion :=
    fun u hu => hu.ge
  unfold digestPreimage handWritten at h
  rw [if_pos (hhead s hs4), if_pos (hhead t ht4), if_pos (hhead s hs4), if_pos (hhead t ht4)] at h
  simp only [List.append_assoc] at h
  have h := List.append_cancel_left h
  obtain ⟨-, h⟩ := tells_u32 hs.schemaVersion ht.schemaVersion h
  obtain ⟨hheight, h⟩ := tells_u64 hs.height ht.height h
  obtain ⟨hblock, h⟩ := tells_hashSerializable hs.blockHash ht.blockHash h
  obtain ⟨hgenesis, h⟩ := tells_hashSerializable hs.genesisHash ht.genesisHash h
  obtain ⟨hchain, h⟩ := tells_u64 hs.chainId ht.chainId h
  obtain ⟨hbalances, h⟩ := tells_balance.flatMap hs.balances ht.balances hlayout.balances h
  obtain ⟨hnonces, h⟩ := tells_balance.flatMap hs.nonces ht.nonces hlayout.nonces h
  have hcount : s.validators.entries.length = t.validators.entries.length := by
    have := congrArg (fun m => m.entries.length) hlayout.validators
    simpa [mapValues] using this
  obtain ⟨hvalidators, h⟩ := tells_validator.flatMap hs.validators ht.validators hcount h
  obtain ⟨hunbonding, h⟩ := tells_unbonding.flatMap hs.unbondingQueue ht.unbondingQueue
    hlayout.unbondingQueue h
  obtain ⟨hfinalized, h⟩ := tells_u64 hs.finalizedHeight ht.finalizedHeight h
  obtain ⟨hhash, h⟩ := List.append_inj h hlayout.finalizedHash
  obtain ⟨hepoch, h⟩ := tells_u64 hs.epochIndex ht.epochIndex h
  obtain ⟨htime, h⟩ := tells_u64 hs.lastEpochTime ht.lastEpochTime h
  obtain ⟨hfee, -⟩ := tells_u64 hs.baseFee ht.baseFee h
  have hqueue : s.unbondingQueue = t.unbondingQueue := by
    refine List.map_injective_iff.mpr ?_ hunbonding
    rintro ⟨a, n, e⟩ ⟨a', n', e'⟩ heq
    simp only [Prod.mk.injEq] at heq
    obtain ⟨⟨rfl, rfl⟩, rfl⟩ := heq
    rfl
  simp only [sections, Sections.mk.injEq]
  exact ⟨hheight, strBytes_injective hblock, strBytes_injective hgenesis, hchain,
    eq_of_map_entries hbalances, eq_of_map_entries hnonces,
    eq_of_digested hvalidators hlayout.validators, hqueue, hfinalized, strBytes_injective hhash,
    hepoch, htime, hfee⟩

/-- The nonces are those of the accounts that have a balance, as `from_state` takes them. -/
def NoncesOfAccounts (s : StateSnapshotV2 T) : Prop := s.nonces.keys = s.balances.keys

end StateSnapshotV2

namespace FullState

/-- The restored accounts with their balances and nonces, validator records in every field,
unbonding queue, base fee and epoch data are the same. -/
structure SameRestored (f g : FullState T) : Prop where
  accounts : f.state.ledger.accounts = g.state.ledger.accounts
  validators : f.validatorRecords = g.validatorRecords
  unbondingQueue : f.state.unbondingQueue = g.state.unbondingQueue
  baseFee : f.state.baseFee = g.state.baseFee
  epochIndex : f.state.epochIndex = g.state.epochIndex
  lastEpochTime : f.state.lastEpochTime = g.state.lastEpochTime

variable {S} {s t : StateSnapshotV2 T}

lemma SameRestored.of_sections (h : s.sections = t.sections) :
    SameRestored (fromSnapshotV2 S s) (fromSnapshotV2 S t) := by
  simp only [sections, StateSnapshotV2.Sections.mk.injEq] at h
  obtain ⟨-, -, -, -, hbalances, hnonces, hvalidators, hunbonding, -, -, hepoch, htime, hfee⟩ := h
  refine ⟨?_, ?_, hunbonding, hfee, hepoch, htime⟩
  · show restoredAccounts s = restoredAccounts t
    rw [restoredAccounts, restoredAccounts, hbalances, hnonces]
  · rw [validatorRecords_fromSnapshotV2, validatorRecords_fromSnapshotV2, hvalidators]

lemma balances_restoredAccounts (s : StateSnapshotV2 T) :
    (restoredAccounts s).mapValues (fun _ account => account.balance) = s.balances := by
  apply ext_get?
  intro a
  rw [restoredAccounts, get?_mapValues, get?_mapValues, Option.map_map]
  exact Option.map_id'

lemma SameRestored.sameLayout (h : SameRestored (fromSnapshotV2 S s) (fromSnapshotV2 S t))
    (hs : s.NoncesOfAccounts) (ht : t.NoncesOfAccounts)
    (hhash : (strBytes s.finalizedHash).length = (strBytes t.finalizedHash).length) :
    s.SameLayout t := by
  have haccounts : restoredAccounts s = restoredAccounts t := h.accounts
  have hbalances : s.balances = t.balances := by
    rw [← balances_restoredAccounts s, ← balances_restoredAccounts t, haccounts]
  have hkeys : s.nonces.keys = t.nonces.keys := by
    rw [hs, ht, hbalances]
  have hvalidators : s.validators = t.validators := by
    rw [← validatorRecords_fromSnapshotV2 S s, ← validatorRecords_fromSnapshotV2 S t, h.validators]
  refine ⟨by rw [hbalances], ?_, by rw [hvalidators], congrArg List.length h.unbondingQueue, hhash⟩
  simpa [SortedMap.keys] using congrArg List.length hkeys

end FullState

/-- Of two snapshots with one digest, all sections agree exactly if their layout does; then
they restore to the same accounts, validator records, unbonding queue, base fee and epoch data.
For snapshots that keep their nonces and finalized hashes of one length, they do only then. -/
theorem snapshot_digest_binds_iff (hsha3 : Function.Injective M.sha3) {s t : StateSnapshotV2 T}
    (hs : s.Fits) (ht : t.Fits) (hs4 : s.schemaVersion = 4) (ht4 : t.schemaVersion = 4)
    (h : s.calculateDigest M S = t.calculateDigest M S) :
    (s.sections = t.sections ↔ s.SameLayout t) ∧ (s.SameLayout t →
      (fromSnapshotV2 S s).SameRestored (fromSnapshotV2 S t)) ∧
    (s.NoncesOfAccounts → t.NoncesOfAccounts →
      (strBytes s.finalizedHash).length = (strBytes t.finalizedHash).length →
      ((fromSnapshotV2 S s).SameRestored (fromSnapshotV2 S t) ↔ s.SameLayout t)) := by
  have hsections : s.SameLayout t → s.sections = t.sections := fun hlayout =>
    sections_of_preimage hs ht hs4 ht4 hlayout (hsha3 h)
  refine ⟨⟨.of_sections, hsections⟩, fun hlayout => .of_sections (hsections hlayout), ?_⟩
  intro hns hnt hhash
  exact ⟨fun hsame => hsame.sameLayout hns hnt hhash,
    fun hlayout => .of_sections (hsections hlayout)⟩

/-! ## Two snapshots of one digest -/

section

def sampleSnapshot (balances nonces : SortedMap Address ℕ) : StateSnapshotV2 .point :=
  let point : FullState .point := ⟨point, fun _ => (none, [])⟩
  { unsealed point 0 ⟨7, "b", "g", 1, 5, "f", []⟩ with balances, nonces }

def richSnapshot : StateSnapshotV2 .point :=
  sampleSnapshot ((∅ : SortedMap Address ℕ).insert ⟨1⟩ 5 |>.insert ⟨2⟩ 7) ∅

def poorSnapshot : StateSnapshotV2 .point :=
  sampleSnapshot ((∅ : SortedMap Address ℕ).insert ⟨1⟩ 5) ((∅ : SortedMap Address ℕ).insert ⟨2⟩ 7)

/-- A validator with the given VRF key, which is not hashed. -/
def keyedSnapshot (vrfPublicKey : Bytes) : StateSnapshotV2 .point :=
  { sampleSnapshot ∅ ∅ with
    validators := (∅ : SortedMap Address ValidatorRecord).insert ⟨1⟩
      ⟨{ Validator.new ⟨1⟩ 10 with vrfPublicKey }, none, [.validator]⟩ }

/-- Whatever the hash and the serialization: an account moves from the balances to the nonces,
and a validator gets another VRF key, under the same digest. -/
theorem digest_does_not_bind :
    (∀ M S, richSnapshot.calculateDigest M S = poorSnapshot.calculateDigest M S) ∧
    (∀ S, (fromSnapshotV2 S richSnapshot).state.getBalance ⟨2⟩ = 7 ∧
      (fromSnapshotV2 S poorSnapshot).state.getBalance ⟨2⟩ = 0) ∧
    (∀ M S, (keyedSnapshot [1]).calculateDigest M S = (keyedSnapshot [2]).calculateDigest M S) ∧
    ∀ S, (fromSnapshotV2 S (keyedSnapshot [1])).validatorRecords ≠
      (fromSnapshotV2 S (keyedSnapshot [2])).validatorRecords := by
  refine ⟨?_, ?_, ?_, ?_⟩
  · intro M S
    have hfront : richSnapshot.handWritten = poorSnapshot.handWritten := by decide +kernel
    exact congrArg (fun front => M.sha3 (front ++ _)) hfront
  · intro S
    constructor
    · show (AccountLedger.new (restoredAccounts richSnapshot)).getBalance ⟨2⟩ = 7
      decide +kernel
    · show (AccountLedger.new (restoredAccounts poorSnapshot)).getBalance ⟨2⟩ = 0
      decide +kernel
  · intro M S
    have hfront : (keyedSnapshot [1]).handWritten = (keyedSnapshot [2]).handWritten := by
      decide +kernel
    exact congrArg (fun front => M.sha3 (front ++ _)) hfront
  · intro S
    rw [validatorRecords_fromSnapshotV2, validatorRecords_fromSnapshotV2]
    decide +kernel

/-- Someone signs the snapshot. The signature is outside of the digest. -/
def signedSnapshot : StateSnapshotV2 .point :=
  { richSnapshot with manifestSignature := some [1] }

lemma richSnapshot_fits : richSnapshot.Fits where
  schemaVersion := by decide
  height := by decide
  blockHash := by decide +kernel
  genesisHash := by decide +kernel
  chainId := by decide
  balances := by decide +kernel
  nonces := by decide +kernel
  validators := fun e he => nomatch he
  unbondingQueue := fun e he => nomatch he
  finalizedHeight := by decide
  epochIndex := by decide
  lastEpochTime := by decide
  baseFee := by decide

/-- A snapshot and its signed copy have one digest and restore alike. -/
theorem snapshot_digest_binds_iff_signed : richSnapshot ≠ signedSnapshot ∧
    (fromSnapshotV2 .point richSnapshot).SameRestored (fromSnapshotV2 .point signedSnapshot) := by
  have hfits : signedSnapshot.Fits := { richSnapshot_fits with }
  refine ⟨fun h => ?_, ?_⟩
  · exact nomatch congrArg manifestSignature h
  · have hbinds := snapshot_digest_binds_iff .refusing .point
      Function.injective_id richSnapshot_fits hfits rfl rfl rfl
    exact hbinds.2.1 (hbinds.1.mp rfl)

end

/-! ## Loading a snapshot -/

namespace StateSnapshotV2

/-- `MIN_SUPPORTED_STATE_SNAPSHOT_SCHEMA_VERSION`. -/
def minSupportedSchemaVersion : ℕ := 2

/-- What `migration_report` refuses; its report is not used by `from_bytes`. -/
def migrationReport (s : StateSnapshotV2 T) : Except String Unit :=
  if s.schemaVersion < minSupportedSchemaVersion then
    .error (s!"Unsupported legacy snapshot schema_version {s.schemaVersion} (minimum supported " ++
      s!"is {minSupportedSchemaVersion}; staged migration hook rejected)")
  else if currentSchemaVersion < s.schemaVersion then
    .error (s!"Unsupported future snapshot schema_version {s.schemaVersion} (current max " ++
      s!"supported is {currentSchemaVersion}; staged migration hook rejected)")
  else .ok ()

/-- `StateSnapshotV2::from_bytes`, over the JSON parser. -/
def fromBytes (parse : Bytes → Except String (StateSnapshotV2 T)) (data : Bytes) :
    Except String (StateSnapshotV2 T) := do
  let snapshot ← (parse data).mapError fun e => s!"Failed to parse snapshot V2: {e}"
  snapshot.migrationReport
  if snapshot.schemaVersion < currentSchemaVersion then
    let snapshot := { snapshot with schemaVersion := currentSchemaVersion }
    pure { snapshot with snapshotHash := snapshot.calculateHash M S }
  else pure snapshot

def verify (s : StateSnapshotV2 T) : Bool := s.snapshotHash == s.calculateHash M S

/-- The hash that was loaded with a snapshot is what `verify` is about only for a snapshot of the
current schema: one of an older schema gets a fresh hash before anything looks at its own. -/
theorem loaded_hash_checked_iff {parse : Bytes → Except String (StateSnapshotV2 T)}
    {data : Bytes} {carried loaded : StateSnapshotV2 T} (hparse : parse data = .ok carried)
    (hload : fromBytes M S parse data = .ok loaded) :
    (loaded.verify M S = true → carried.snapshotHash = carried.calculateHash M S) ↔
      carried.schemaVersion = currentSchemaVersion ∨
        carried.snapshotHash = carried.calculateHash M S := by
  rw [fromBytes, hparse] at hload
  change (carried.migrationReport >>= _) = _ at hload
  cases hmigrate : carried.migrationReport with
  | error e => rw [hmigrate] at hload; cases hload
  | ok _ =>
    rw [hmigrate] at hload
    change (if _ then _ else _) = _ at hload
    split at hload <;> rename_i hversion <;> cases hload
    · -- the hash that `verify` sees was computed by `from_bytes` itself
      have hverify := beq_self_eq_true
        (calculateHash M S { carried with schemaVersion := currentSchemaVersion })
      exact ⟨fun h => .inr (h hverify), fun h _ => h.resolve_left hversion.ne⟩
    · refine ⟨fun _ => .inl ?_, fun _ hverify => beq_iff_eq.mp hverify⟩
      unfold migrationReport at hmigrate
      split_ifs at hmigrate with hold hnew
      exact le_antisymm (not_lt.mp hnew) (not_lt.mp hversion)

theorem loaded_hash_checked_iff_sample :
    (verify .refusing .point richSnapshot = true →
      richSnapshot.snapshotHash = richSnapshot.calculateHash .refusing .point) ↔
    richSnapshot.schemaVersion = currentSchemaVersion ∨
      richSnapshot.snapshotHash = richSnapshot.calculateHash .refusing .point :=
  @loaded_hash_checked_iff _ .refusing .point (fun _ => .ok richSnapshot) [] _ _ rfl rfl

/-- A snapshot of schema 3 with an arbitrary hash is loaded and verified. -/
theorem forged_legacy_hash_loads :
    let forged : StateSnapshotV2 .point :=
      { richSnapshot with schemaVersion := 3, snapshotHash := "forged" }
    (fromBytes .refusing .point (fun _ => .ok forged) []).map (verify .refusing .point) = .ok true ∧
      forged.snapshotHash ≠ forged.calculateHash .refusing .point := by
  decide +kernel

end StateSnapshotV2

end Budlum
