import Budlum.Chain.ValidatorSet
import Budlum.Evm.Mpt
import Budlum.Lib.Exec

/-!
# Proofs of Ethereum deposits

`verify_evm_receipt` with the decoders of headers and receipts it goes through. Everything
it reports is read from the proven data except the transaction hash, which is copied from
the proof: whatever hash a relayer writes there is reported, so that one deposit can be
shown under as many hashes as one likes.
-/

namespace Budlum.Evm

open Machine List Except
open Rlp (Item RlpError)
open Mpt (MptError)

/-! ## Receipts -/

structure EthLog where
  address : Bytes
  topics : List Hash32
  data : Bytes
deriving DecidableEq, Repr

structure EthReceipt where
  status : Bool
  logs : List EthLog
deriving DecidableEq, Repr

inductive ReceiptError where
  | rlp (e : RlpError)
  | invalidEnvelope
  | invalidLog
deriving DecidableEq, Repr

def decodeStatus (b : Bytes) : Except ReceiptError Bool :=
  match b.length with
  | 0 => .ok false
  | 1 => .ok (b.headD 0 != 0)
  | 32 => .ok true
  | _ => .error .invalidEnvelope

def receiptBytes (item : Item) : Except ReceiptError Bytes := (Rlp.asBytes item).mapError .rlp

def decodeTopic (item : Item) : Except ReceiptError Hash32 := do
  let tb ← receiptBytes item
  if tb.length ≠ 32 then .error .invalidLog else .ok tb

def decodeTopics : Item → Except ReceiptError (List Hash32)
  | .list tl => tl.mapM decodeTopic
  | .string _ => .error .invalidLog

def decodeLog : Item → Except ReceiptError EthLog
  | .list [addressItem, topicsItem, dataItem] => do
      let address ← receiptBytes addressItem
      let topics ← decodeTopics topicsItem
      let data ← receiptBytes dataItem
      .ok ⟨address, topics, data⟩
  | _ => .error .invalidLog

def decodeLogs : Item → Except ReceiptError (List EthLog)
  | .list logs => logs.mapM decodeLog
  | .string _ => .error .invalidLog

def decodeReceipt : Bytes → Except ReceiptError EthReceipt
  | [] => .error .invalidEnvelope
  | first :: rest => do
      let payload := if first ≥ 0xc0 then first :: rest else rest
      match ← (Rlp.decode payload).mapError .rlp with
      | .list (statusItem :: _ :: _ :: logsItem :: _) => do
          let status ← decodeStatus (← receiptBytes statusItem)
          let logs ← decodeLogs logsItem
          .ok ⟨status, logs⟩
      | _ => .error .invalidEnvelope

def EthReceipt.findLog (receipt : EthReceipt) (emitter : Bytes) (topic0 : Hash32) : Option EthLog :=
  receipt.logs.find? fun log => log.address == emitter && (log.topics.head?.map (· == topic0)).getD false

/-! ## Headers -/

structure EthHeader where
  parentHash : Hash32
  number : ℕ
  stateRoot : Hash32
  receiptsRoot : Hash32
  hash : Hash32
deriving DecidableEq, Repr

inductive HeaderError where
  | rlp (e : RlpError)
  | invalidHeader
  | chainBroken
  | insufficientConfirmations
deriving DecidableEq, Repr

/-- The texts of `Display`. -/
def HeaderError.toText : HeaderError → String
  | .rlp e => "header rlp error: " ++ e.toText
  | .invalidHeader => "header: invalid structure"
  | .chainBroken => "header: chain broken"
  | .insufficientConfirmations => "header: insufficient confirmations"

def arr32 (item : Item) : Except HeaderError Hash32 := do
  let b ← (Rlp.asBytes item).mapError .rlp
  if b.length ≠ 32 then .error .invalidHeader else .ok b

def decodeHeader (keccak256 : Bytes → Hash32) (raw : Bytes) : Except HeaderError EthHeader := do
  match ← (Rlp.decode raw).mapError .rlp with
  | .list (parentItem :: _ :: _ :: stateItem :: _ :: receiptsItem :: _ :: _ :: numberItem :: _) => do
      let parentHash ← arr32 parentItem
      let stateRoot ← arr32 stateItem
      let receiptsRoot ← arr32 receiptsItem
      let number ← (Rlp.decodeUint numberItem).mapError .rlp
      .ok ⟨parentHash, number, stateRoot, receiptsRoot, keccak256 raw⟩
  | _ => .error .invalidHeader

/-- The loop of `verify_chain`. `prev_number + 1` aborts at the largest `u64`. -/
def verifyLinks (prevHash : Hash32) (prevNumber : ℕ) :
    List EthHeader → Except (Stop HeaderError) Unit
  | [] => .ok ()
  | hdr :: confirmations =>
    if hdr.parentHash ≠ prevHash then .error (.err .chainBroken)
    else if u64Max ≤ prevNumber then .error .abort
    else if hdr.number ≠ prevNumber + 1 then .error (.err .chainBroken)
    else verifyLinks hdr.hash hdr.number confirmations

def verifyChain (target : EthHeader) (confirmations : List EthHeader) (required : ℕ) :
    Except (Stop HeaderError) Unit :=
  if confirmations.length % 2 ^ 32 < required then .error (.err .insufficientConfirmations)
  else verifyLinks target.hash target.number confirmations

/-- The confirmations have the numbers after the target's, all of them `u64`, each the hash of
the header before it for its parent, and are as many as required. -/
structure Confirms (target : EthHeader) (confirmations : List EthHeader) (required : ℕ) : Prop where
  numbers : confirmations.map EthHeader.number = range' (target.number + 1) confirmations.length
  fit : ∀ hdr ∈ confirmations, hdr.number ≤ u64Max
  linked : (target :: confirmations).IsChain fun parent hdr => hdr.parentHash = parent.hash
  enough : required ≤ confirmations.length

lemma verifyLinks_ok {target : EthHeader} {confirmations : List EthHeader}
    (h : verifyLinks target.hash target.number confirmations = .ok ()) :
    Confirms target confirmations 0 := by
  induction confirmations generalizing target with
  | nil => exact ⟨rfl, nofun, .singleton _, le_rfl⟩
  | cons hdr confirmations ih =>
    unfold verifyLinks at h
    split_ifs at h with hparent hlast hnext
    rw [not_ne_iff] at hparent hnext
    have hrest := ih h
    refine ⟨?_, forall_mem_cons.mpr ⟨by omega, hrest.fit⟩, .cons_cons hparent hrest.linked,
      Nat.zero_le _⟩
    rw [map_cons, length_cons, range'_succ, ← hnext, hrest.numbers]

/-- An accepted chain of confirmations is what it should be: a number that would wrap aborts. -/
theorem accepted_chain_confirms {target : EthHeader} {confirmations : List EthHeader}
    {required : ℕ} (h : verifyChain target confirmations required = .ok ()) :
    Confirms target confirmations required := by
  unfold verifyChain at h
  split_ifs at h with hshort
  have hlinks := verifyLinks_ok h
  exact { hlinks with enough := (not_lt.mp hshort).trans (Nat.mod_le _ _) }

def numbered (parentHash : Hash32) (number : ℕ) (hash : Hash32) : EthHeader :=
  ⟨parentHash, number, [], [], hash⟩

theorem accepted_chain_confirms_last : Confirms (numbered [] (u64Max - 2) [1])
    [numbered [1] (u64Max - 1) [2], numbered [2] u64Max [3]] 2 :=
  accepted_chain_confirms rfl

example : verifyChain (numbered [] u64Max [1]) [numbered [1] 0 [2]] 1 = .error .abort := by
  decide

/-! ## Attestations -/

def syncCommitteeSize : ℕ := 512

def participationThreshold : ℕ := syncCommitteeSize * 2 / 3 + 1

def blsSignatureLen : ℕ := 96

structure SyncCommitteeState where
  currentSyncCommittee : List Bytes
  length_committee : currentSyncCommittee.length = syncCommitteeSize

structure SyncAggregate where
  syncCommitteeBits : Bytes
  syncCommitteeSignature : Bytes
  length_bits : syncCommitteeBits.length = syncCommitteeSize / 8
  length_signature : syncCommitteeSignature.length = blsSignatureLen

inductive SyncCommitteeError where
  | insufficientParticipation (participating threshold : ℕ)
deriving DecidableEq, Repr

def countOnes (b : UInt8) : ℕ := (range 8).countP fun i => b >>> UInt8.ofNat i &&& 1 == 1

def SyncAggregate.participationCount (aggregate : SyncAggregate) : ℕ :=
  (aggregate.syncCommitteeBits.map countOnes).sum

def SyncAggregate.signed (aggregate : SyncAggregate) (index : ℕ) : Bool :=
  if index ≥ syncCommitteeSize then false
  else aggregate.syncCommitteeBits.getD (index / 8) 0 >>> UInt8.ofNat (index % 8) &&& 1 == 1

section

variable {G₁ G₂ : Type} [AddCommGroup G₁] [AddCommGroup G₂] [DecidableEq G₁] [DecidableEq G₂]
variable (keccak256 : Bytes → Hash32) (deps : FinalityDeps G₁ G₂)

def validCount (state : SyncCommitteeState) (aggregate : SyncAggregate) (signingMessage : Bytes) :
    ℕ :=
  state.currentSyncCommittee.zipIdx.countP fun (pk, i) => aggregate.signed i &&
    (verifyBlsSig deps pk signingMessage aggregate.syncCommitteeSignature).isOk

def verifySyncAggregate (state : SyncCommitteeState) (aggregate : SyncAggregate)
    (signingMessage : Bytes) : Except SyncCommitteeError Unit :=
  if aggregate.participationCount < participationThreshold then
    .error (.insufficientParticipation aggregate.participationCount participationThreshold)
  else
    let valid := validCount deps state aggregate signingMessage
    if valid < participationThreshold then
      .error (.insufficientParticipation valid participationThreshold)
    else .ok ()

/-! ## The deposit proof -/

structure SyncAttestation where
  state : SyncCommitteeState
  aggregate : SyncAggregate
  signingMessage : Bytes

structure EvmDepositProof where
  targetHeader : Bytes
  confirmationHeaders : List Bytes
  requiredConfirmations : ℕ
  proofNodes : List Bytes
  receiptKey : Bytes
  txHash : String
  emitterAddress : Bytes
  depositTopic0 : Hash32
  syncAttestation : Option SyncAttestation

structure VerifiedDeposit where
  txHash : String
  depositLogData : Bytes
  blockNumber : ℕ
deriving DecidableEq, Repr

inductive VerifyError where
  | header (m : String)
  | mpt (e : MptError)
  | receipt (e : ReceiptError)
  | txFailed
  | logNotFound
  | payloadMismatch
  | syncCommittee (e : SyncCommitteeError)
deriving DecidableEq, Repr

def decodeHeaderOrErr (raw : Bytes) : Except (Stop VerifyError) EthHeader :=
  (decodeHeader keccak256 raw).mapError fun e => .err (.header e.toText)

def verifyAttestation : Option SyncAttestation → Except (Stop VerifyError) Unit
  | none => .ok ()
  | some attestation =>
    (verifySyncAggregate deps attestation.state attestation.aggregate
      attestation.signingMessage).mapError (.err <| .syncCommittee ·)

def verifyEvmReceipt (proof : EvmDepositProof) :
    Except (Stop VerifyError) VerifiedDeposit := do
  let target ← decodeHeaderOrErr keccak256 proof.targetHeader
  let confs ← proof.confirmationHeaders.mapM (decodeHeaderOrErr keccak256)
  (verifyChain target confs proof.requiredConfirmations).mapError (.map (.header ·.toText))
  let bytes ← (Mpt.result keccak256 proof.proofNodes target.receiptsRoot proof.receiptKey).mapError
    (.err <| .mpt ·)
  let receipt ← (decodeReceipt bytes).mapError (.err <| .receipt ·)
  if !receipt.status then .error (.err .txFailed)
  else
    match receipt.findLog proof.emitterAddress proof.depositTopic0 with
    | none => .error (.err .logNotFound)
    | some log => do
        verifyAttestation deps proof.syncAttestation
        .ok ⟨proof.txHash, log.data, target.number⟩

/-! ## What an accepted proof shows -/

variable {keccak256 deps}

variable {proof : EvmDepositProof} {deposit : VerifiedDeposit}

lemma verifyEvmReceipt_eq_ok :
    verifyEvmReceipt keccak256 deps proof = .ok deposit ↔ ∃ target confs bytes receipt log,
      decodeHeaderOrErr keccak256 proof.targetHeader = .ok target ∧
      proof.confirmationHeaders.mapM (decodeHeaderOrErr keccak256) = .ok confs ∧
      verifyChain target confs proof.requiredConfirmations = .ok () ∧
      Mpt.result keccak256 proof.proofNodes target.receiptsRoot proof.receiptKey = .ok bytes ∧
      decodeReceipt bytes = .ok receipt ∧ receipt.status = true ∧
      receipt.findLog proof.emitterAddress proof.depositTopic0 = some log ∧
      verifyAttestation deps proof.syncAttestation = .ok () ∧
      deposit = ⟨proof.txHash, log.data, target.number⟩ := by
  unfold verifyEvmReceipt
  simp only [bind_eq_ok, mapError_eq_ok]
  constructor
  · rintro ⟨target, htarget, confs, hconfs, _, hchain, bytes, hbytes, receipt, hreceipt, h⟩
    split_ifs at h with hstatus
    cases hlog : receipt.findLog proof.emitterAddress proof.depositTopic0 with
    | none => rw [hlog] at h; cases h
    | some log =>
      rw [hlog] at h
      obtain ⟨_, hattested, hdeposit⟩ := bind_eq_ok.mp h
      exact ⟨target, confs, bytes, receipt, log, htarget, hconfs, hchain, hbytes, hreceipt,
        by simpa using hstatus, hlog, hattested, (ok.inj hdeposit).symm⟩
  · rintro ⟨target, confs, bytes, receipt, log, htarget, hconfs, hchain, hbytes, hreceipt,
      hstatus, hlog, hattested, rfl⟩
    refine ⟨target, htarget, confs, hconfs, (), hchain, bytes, hbytes, receipt, hreceipt, ?_⟩
    rw [if_neg (by simp [hstatus]), hlog]
    exact bind_eq_ok.mpr ⟨(), hattested, rfl⟩

/-- An accepted proof is accepted with every transaction hash in its place. -/
lemma verifyEvmReceipt_of_txHash
    (h : verifyEvmReceipt keccak256 deps proof = .ok deposit) (txHash : String) :
    verifyEvmReceipt keccak256 deps { proof with txHash } = .ok { deposit with txHash } := by
  obtain ⟨target, confs, bytes, receipt, log, htarget, hconfs, hchain, hbytes, hreceipt, hstatus,
    hlog, hattested, rfl⟩ := verifyEvmReceipt_eq_ok.mp h
  exact verifyEvmReceipt_eq_ok.mpr ⟨target, confs, bytes, receipt, log, htarget, hconfs, hchain,
    hbytes, hreceipt, hstatus, hlog, hattested, rfl⟩

section

variable (state : SyncCommitteeState) (aggregate : SyncAggregate) (signingMessage : Bytes)

/-- No member is counted: the aggregate holds 96 bytes of signature where `verify_bls_sig`
takes 48. -/
lemma validCount_eq_zero : validCount deps state aggregate signingMessage = 0 := by
  refine countP_eq_zero.mpr ?_
  rintro ⟨pk, i⟩ -
  rw [Bool.and_eq_true, not_and]
  intro _ hok
  cases hsig : verifyBlsSig deps pk signingMessage aggregate.syncCommitteeSignature with
  | error e => simp [hsig, Except.isOk, Except.toBool] at hok
  | ok _ =>
    obtain ⟨_, _, _, _, _, _, hlen, _⟩ := verifyBlsSig_ok deps hsig
    have hlength := aggregate.length_signature
    rw [hlen] at hlength
    exact absurd hlength (by decide)

lemma verifySyncAggregate_ne_ok :
    verifySyncAggregate deps state aggregate signingMessage ≠ .ok () := by
  unfold verifySyncAggregate
  split_ifs
  · exact nofun
  · dsimp only
    rw [validCount_eq_zero, if_pos (by decide)]
    exact nofun

end

/-- However many members have signed, the attestation is refused with none counted. -/
theorem sync_aggregate_refused (state : SyncCommitteeState) {aggregate : SyncAggregate}
    (signingMessage : Bytes) (hmany : participationThreshold ≤ aggregate.participationCount) :
    verifySyncAggregate deps state aggregate signingMessage =
      .error (.insufficientParticipation 0 participationThreshold) := by
  rw [verifySyncAggregate, if_neg hmany.not_gt]
  show (if validCount deps state aggregate signingMessage < _ then _ else _) = _
  rw [validCount_eq_zero, if_pos (by decide)]

/-- Two accepted proofs of one transaction index under one header report the same replay key
exactly when they came with the same one. The rest of what they report is the same: the
block, and with a `keccak256` that has no collision among their nodes the deposit. -/
theorem replay_key_same_iff {proof proof' : EvmDepositProof} {deposit deposit' : VerifiedDeposit}
    (hheader : proof.targetHeader = proof'.targetHeader)
    (hkey : proof.receiptKey = proof'.receiptKey)
    (hemitter : proof.emitterAddress = proof'.emitterAddress)
    (htopic : proof.depositTopic0 = proof'.depositTopic0)
    (h : verifyEvmReceipt keccak256 deps proof = .ok deposit)
    (h' : verifyEvmReceipt keccak256 deps proof' = .ok deposit') :
    (deposit.txHash = deposit'.txHash ↔ proof.txHash = proof'.txHash) ∧
      deposit.blockNumber = deposit'.blockNumber ∧
      (Set.InjOn keccak256 {node | node ∈ proof.proofNodes ∨ node ∈ proof'.proofNodes} →
        deposit.depositLogData = deposit'.depositLogData) := by
  obtain ⟨target, _, bytes, receipt, log, htarget, -, -, hbytes, hreceipt, -, hlog, -, rfl⟩ :=
    verifyEvmReceipt_eq_ok.mp h
  obtain ⟨target', _, bytes', receipt', log', htarget', -, -, hbytes', hreceipt', -, hlog', -,
    rfl⟩ := verifyEvmReceipt_eq_ok.mp h'
  rw [hheader, htarget'] at htarget
  cases htarget
  refine ⟨Iff.rfl, rfl, fun hfree => ?_⟩
  have hsame : (.ok bytes : Except MptError Bytes) = .ok bytes' := by
    rw [← hbytes, ← hbytes', ← hkey]
    refine Mpt.verify_agree hfree (Mpt.verify_eq_result ..) (Mpt.verify_eq_result ..) ?_ ?_
    · rw [hbytes]; exact nofun
    · rw [hkey, hbytes']; exact nofun
  cases hsame
  obtain rfl := ok.inj (hreceipt.symm.trans hreceipt')
  rw [hemitter, htopic, hlog'] at hlog
  exact congrArg EthLog.data (Option.some.inj hlog).symm

end

def unitCommittee : SyncCommitteeState :=
  ⟨replicate syncCommitteeSize (encodeSmall 96 1), length_replicate⟩

/-- What they all sign of the empty message, added up and filled to the length of the field. -/
def unitAggregate : SyncAggregate where
  syncCommitteeBits := replicate 64 0xff
  syncCommitteeSignature :=
    encodeSmall 48 (syncCommitteeSize * smallDeps.hashToG1 []) ++ replicate 48 0
  length_bits := rfl
  length_signature := rfl

theorem sync_aggregate_refused_unit : participationThreshold ≤ unitAggregate.participationCount ∧
      verifySyncAggregate smallDeps unitCommittee unitAggregate [] =
        .error (.insufficientParticipation 0 participationThreshold) :=
  ⟨by decide +kernel, sync_aggregate_refused _ _ (by decide +kernel)⟩

theorem honest_aggregate_not_accepted : unitAggregate.participationCount = 512 ∧
    verifySyncAggregate smallDeps unitCommittee unitAggregate [] ≠ .ok () :=
  ⟨by decide +kernel, verifySyncAggregate_ne_ok _ _ _⟩

/-! ## One deposit under two hashes -/

def headerOf (parentHash receiptsRoot : Hash32) (number : UInt8) : Bytes :=
  Rlp.encode (.list [.string parentHash, .string [], .string [],
    .string (replicate 32 0), .string [], .string receiptsRoot, .string [], .string [],
    .string [number]])

/-- A successful receipt with one log, of the contract `[7]`. -/
def depositReceipt : Bytes :=
  Rlp.encode (.list [.string [1], .string [], .string [],
    .list [.list [.string [7], .list [.string (replicate 32 3)], .string [9]]]])

/-- Its proof, as the only receipt of block 100 and with one confirmation. -/
def depositProof (txHash : String) : EvmDepositProof where
  targetHeader := headerOf (replicate 32 1)
    (Mpt.firstBytes (Mpt.soleLeaf [0x80] depositReceipt)) 100
  confirmationHeaders := [headerOf (Mpt.firstBytes (headerOf (replicate 32 1)
    (Mpt.firstBytes (Mpt.soleLeaf [0x80] depositReceipt)) 100)) (replicate 32 0) 101]
  requiredConfirmations := 1
  proofNodes := [Mpt.soleLeaf [0x80] depositReceipt]
  receiptKey := [0x80]
  txHash := txHash
  emitterAddress := [7]
  depositTopic0 := replicate 32 3
  syncAttestation := none

def depositOf (txHash : String) : VerifiedDeposit := ⟨txHash, [9], 100⟩

lemma depositProof_accepted (txHash : String) :
    verifyEvmReceipt Mpt.firstBytes smallDeps (depositProof txHash) = .ok (depositOf txHash) := by
  have haccepted : verifyEvmReceipt Mpt.firstBytes smallDeps (depositProof "0xaa") =
      .ok (depositOf "0xaa") := by decide +kernel
  exact verifyEvmReceipt_of_txHash haccepted txHash

theorem replay_key_same_depositProof : ((depositOf "0xaa").txHash = (depositOf "0xbb").txHash ↔
        (depositProof "0xaa").txHash = (depositProof "0xbb").txHash) ∧
      (depositOf "0xaa").blockNumber = (depositOf "0xbb").blockNumber ∧
      (Set.InjOn Mpt.firstBytes {node | node ∈ (depositProof "0xaa").proofNodes ∨
          node ∈ (depositProof "0xbb").proofNodes} →
        (depositOf "0xaa").depositLogData = (depositOf "0xbb").depositLogData) :=
  replay_key_same_iff rfl rfl rfl rfl (depositProof_accepted "0xaa") (depositProof_accepted "0xbb")

/-- The same nodes under the same header are accepted for `0xaa` and for `0xbb`, each
reported as the transaction of the deposit. -/
theorem deposit_claimed_under_two_hashes :
    verifyEvmReceipt Mpt.firstBytes smallDeps (depositProof "0xaa") = .ok (depositOf "0xaa") ∧
      verifyEvmReceipt Mpt.firstBytes smallDeps (depositProof "0xbb") = .ok (depositOf "0xbb") ∧
      (depositProof "0xaa").targetHeader = (depositProof "0xbb").targetHeader ∧
      (depositProof "0xaa").receiptKey = (depositProof "0xbb").receiptKey ∧
      (depositOf "0xaa").txHash ≠ (depositOf "0xbb").txHash :=
  ⟨depositProof_accepted "0xaa", depositProof_accepted "0xbb", rfl, rfl, by decide⟩

/-! ## The adapter's policy -/

structure EvmChainAdapter where
  bridgeAddress : Bytes
  depositTopic0 : Hash32
  requiredConfirmations : ℕ

section

variable {G₁ G₂ : Type} [AddCommGroup G₁] [AddCommGroup G₂] [DecidableEq G₁] [DecidableEq G₂]
variable (keccak256 : Bytes → Hash32) (deps : FinalityDeps G₁ G₂)

/-- `verify_deposit`. No field of the adapter is read. -/
def EvmChainAdapter.verifyDeposit (_ : EvmChainAdapter) (proof : EvmDepositProof) :
    Except (Stop VerifyError) EthReceipt := do
  let _ ← verifyEvmReceipt keccak256 deps proof
  let target ← decodeHeaderOrErr keccak256 proof.targetHeader
  let confs ← proof.confirmationHeaders.mapM (decodeHeaderOrErr keccak256)
  (verifyChain target confs proof.requiredConfirmations).mapError (.map (.header ·.toText))
  let bytes ← (Mpt.result keccak256 proof.proofNodes target.receiptsRoot proof.receiptKey).mapError
    (.err <| .mpt ·)
  (decodeReceipt bytes).mapError (.err <| .receipt ·)

/-- The proof has the adapter's confirmations, and its log is of the adapter's contract and
event. -/
def EvmChainAdapter.Enforced (adapter : EvmChainAdapter) (proof : EvmDepositProof)
    (receipt : EthReceipt) : Prop :=
  adapter.requiredConfirmations ≤ proof.confirmationHeaders.length ∧
    ∃ log ∈ receipt.findLog proof.emitterAddress proof.depositTopic0,
      log.address = adapter.bridgeAddress ∧ log.topics.head? = some adapter.depositTopic0

variable {keccak256 deps} {adapter : EvmChainAdapter} {proof : EvmDepositProof}

lemma findLog_eq_some {receipt : EthReceipt} {emitter : Bytes} {topic0 : Hash32} {log : EthLog}
    (h : receipt.findLog emitter topic0 = some log) :
    log.address = emitter ∧ log.topics.head? = some topic0 := by
  have hlog := find?_some h
  cases htopic : log.topics.head? <;> simp_all

/-- What an adapter accepts keeps to its policy exactly if the relayer wrote the policy into
the proof. -/
theorem adapter_policy_iff {receipt : EthReceipt}
    (h : adapter.verifyDeposit keccak256 deps proof = .ok receipt) :
    adapter.Enforced proof receipt ↔
      adapter.requiredConfirmations ≤ proof.confirmationHeaders.length ∧
        proof.emitterAddress = adapter.bridgeAddress ∧
        proof.depositTopic0 = adapter.depositTopic0 := by
  simp only [EvmChainAdapter.verifyDeposit, bind_eq_ok, mapError_eq_ok] at h
  obtain ⟨deposit, hdeposit, target, htarget, _, _, _, _, bytes, hbytes, hreceipt⟩ := h
  obtain ⟨target', _, bytes', receipt', log, htarget', _, _, hbytes', hreceipt', _, hlog, _⟩ :=
    verifyEvmReceipt_eq_ok.mp hdeposit
  -- the receipt is decoded twice from the same proof
  obtain rfl := ok.inj (htarget.symm.trans htarget')
  obtain rfl := ok.inj (hbytes.symm.trans hbytes')
  obtain rfl := ok.inj (hreceipt.symm.trans hreceipt')
  obtain ⟨haddress, htopic⟩ := findLog_eq_some hlog
  simp [EvmChainAdapter.Enforced, hlog, haddress, htopic]

end

def depositLogs : EthReceipt := ⟨true, [⟨[7], [replicate 32 3], [9]⟩]⟩

theorem adapter_policy_depositProof :
    EvmChainAdapter.Enforced ⟨[7], replicate 32 3, 1⟩ (depositProof "0xaa") depositLogs := by
  have haccepted : EvmChainAdapter.verifyDeposit Mpt.firstBytes smallDeps
    ⟨[7], replicate 32 3, 1⟩ (depositProof "0xaa") = .ok depositLogs := by decide +kernel
  exact (adapter_policy_iff haccepted).mpr ⟨by decide, rfl, rfl⟩

/-- An adapter that asks for 64 confirmations takes the proof with one. -/
theorem unconfirmed_deposit_accepted :
    let adapter : EvmChainAdapter := ⟨[7], replicate 32 3, 64⟩
    adapter.verifyDeposit Mpt.firstBytes smallDeps (depositProof "0xaa") = .ok depositLogs ∧
      ¬ adapter.Enforced (depositProof "0xaa") depositLogs :=
  ⟨by decide +kernel, fun h => absurd h.1 (by decide)⟩

end Budlum.Evm
