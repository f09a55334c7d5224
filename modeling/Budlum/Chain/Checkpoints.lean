import Budlum.Chain.Reorg

/-!
# Finality

A checkpoint is final once its certificate and its blob of post-quantum signatures are
there: `handle_finality_cert` waits for the blob, `import_qc_blob` takes the waiting
certificates up again. What was finalized has to stay, whatever blocks, candidate
chains, certificates and blobs come in.

* A block is only appended.
* A reorganisation keeps every block up to its fork point, which is above the finalized
  height. This holds also where it is reported as an error.
* A certificate only moves the finalized height up, to a block that the chain has.
* Faults are looked for in a blob that was just verified, so that none is found and
  `invalidate_finality_from_height` is not reached.
-/

namespace Budlum

open Machine AccountState Exec List Option Block

def IsCheckpointHeightForChain (height chainId : ℕ) : Prop :=
  0 < height ∧ finalityCheckpointIntervalForChainId chainId ∣ height

instance (height chainId : ℕ) : Decidable (IsCheckpointHeightForChain height chainId) :=
  inferInstanceAs (Decidable (_ ∧ _))

variable {T : ModuleTypes} {G₁ G₂ : Type}

namespace Node

variable (M : NodeModules T G₁ G₂) (n : Node T)

/-! ## Snapshots, blobs and waiting certificates -/

def validatorSnapshotForEpoch (epoch : ℕ) : Option ValidatorSetSnapshot :=
  if epoch = n.state.epochIndex then some (n.state.validatorSnapshot M epoch n.chainId)
  else n.validatorSnapshots.get? epoch

def requireValidatorSnapshot (epoch : ℕ) : Except String ValidatorSetSnapshot :=
  match n.validatorSnapshotForEpoch M epoch with
  | some snapshot => .ok snapshot
  | none => .error (s!"no validator set recorded for epoch {epoch}; refusing to verify against " ++
      s!"the current set (retained epochs: {n.validatorSnapshots.entries.length})")

def getQcBlob (height : ℕ) : Option QcBlob :=
  match n.verifiedQcBlobs.get? height with
  | some blob => some blob
  | none => if n.storage.isSome then n.disk.getQcBlob height else none

/-- A write of finality, if there is a disk. -/
def logged (w : LoggedWrite) : Node T :=
  if n.storage.isSome then { n with disk := n.disk.write w } else n

def pendingFinalityCertCount (pending : SortedMap ℕ (List FinalityCert)) : ℕ :=
  pending.sumBy length

/-- The first certificate of the lowest height goes. -/
def evictOldest (pending : SortedMap ℕ (List FinalityCert)) : SortedMap ℕ (List FinalityCert) :=
  match pending.entries with
  | [] => pending
  | (oldestHeight, certs) :: _ =>
    if certs.tail.isEmpty then pending.erase oldestHeight
    else pending.insert oldestHeight certs.tail

/-- `queue_pending_finality_cert`. No height waits with no certificate, so that each turn
of the loop takes one. -/
def queuePendingFinalityCert (cert : FinalityCert) : Node T :=
  let bucket := (n.pendingFinalityCerts.get? cert.checkpointHeight).getD []
  let pending := n.pendingFinalityCerts.insert cert.checkpointHeight
    (if cert ∈ bucket then bucket else bucket ++ [cert])
  { n with pendingFinalityCerts :=
      evictOldest^[pendingFinalityCertCount pending - max n.maxPendingCerts 1] pending }

/-! ## Faults -/

def invalidatedHeights (fromHeight : ℕ) : List ℕ :=
  (range (n.chain.length - 1 + 1)).filter fun height =>
    decide (fromHeight ≤ height ∧
      finalityCheckpointIntervalForChainId n.chainId ∣ height - fromHeight)

/-- The certificate of the highest checkpoint up to the tip that the disk has. -/
def latestStoredCert : Option FinalityCert :=
  let interval := finalityCheckpointIntervalForChainId n.chainId
  (range ((n.chain.length - 1) / interval)).reverse.findSome? fun k =>
    n.disk.getFinalityCert ((k + 1) * interval)

def invalidateFinalityFromHeight (fromHeight : ℕ) : Node T :=
  let n := { n with
    verifiedQcBlobs := n.verifiedQcBlobs.filter fun entry => decide (entry.1 < fromHeight) }
  let genesisHash := ((n.chain.head?).map hash).getD ""
  match n.storage with
  | none => { n with finalizedHeight := 0, finalizedHash := genesisHash }
  | some _ =>
    let n := { n with
      disk := (n.invalidatedHeights fromHeight).foldl
        (fun d height => (d.write (.deleteFinalityCert height)).write (.deleteQcBlob height))
        n.disk }
    match n.latestStoredCert with
    | none => { n with finalizedHeight := 0, finalizedHash := genesisHash }
    | some cert =>
      { n with finalizedHeight := cert.checkpointHeight, finalizedHash := cert.checkpointHash }

def slashFaulty (proof : QcFaultProof) (verdict : QcProofVerdict) : Method T Unit :=
  if verdict.slashValidator = true ∨ verdict.action = .slashValidator then do
    let address ← ofExcept (fun e => s!"Invalid QC fault-proof validator address: {e}")
      (M.addressFromHex proof.validatorAddress)
    modify fun n =>
      { n with state := (n.state.slashValidator M.toEpochModules address
          (M.maliciousRatio n.state.registry)).2 }
  else pure ()

def applyQcFaultVerdict (proof : QcFaultProof) (verdict : QcProofVerdict) : Method T Unit := do
  slashFaulty M proof verdict
  match verdict.invalidateFromHeight with
  | some height => modify fun n => n.invalidateFinalityFromHeight height
  | none => pure ()

/-- The loop of `maybe_apply_detected_qc_faults`. -/
def applyQcFaults (snapshot : ValidatorSetSnapshot) (blob : QcBlob) :
    List QcFaultProof → Method T Unit
  | [] => pure ()
  | proof :: rest => do
      let verdict ← ofExcept id (proof.verifyAgainstBlob M blob snapshot)
      applyQcFaultVerdict M proof verdict
      applyQcFaults snapshot blob rest

def maybeApplyDetectedQcFaults (snapshot : ValidatorSetSnapshot) (blob : QcBlob) :
    Method T Unit :=
  applyQcFaults M snapshot blob (blob.detectFaultProofs M snapshot)

/-! ## Certificates -/

section

variable [AddCommGroup G₁] [AddCommGroup G₂] [DecidableEq G₁] [DecidableEq G₂]

/-- The checks of `handle_finality_cert` up to the blob: the snapshot to go on with. -/
def checkFinalityCert (cert : FinalityCert) : Except String ValidatorSetSnapshot :=
  if ¬ IsCheckpointHeightForChain cert.checkpointHeight n.chainId then
    .error s!"Height {cert.checkpointHeight} is not a valid checkpoint height"
  else match n.chain[cert.checkpointHeight]? with
    | none => .error s!"We don't have block at height {cert.checkpointHeight} yet"
    | some block =>
      if block.hash ≠ cert.checkpointHash then
        .error (s!"Certificate hash {cert.checkpointHash} mismatch with our block hash " ++
          s!"{block.hash} at height {cert.checkpointHeight}")
      else match n.requireValidatorSnapshot M cert.epoch with
        | .error e => .error e
        | .ok snapshot =>
          match cert.verify M.toFinalityDeps snapshot with
          | .error e => .error e
          | .ok () => .ok snapshot

def finalize (cert : FinalityCert) : Node T :=
  { n with
    finalizedHeight := cert.checkpointHeight
    finalizedHash := cert.checkpointHash }.logged
      (.saveFinalityCert cert.checkpointHeight cert)

/-- The end of `handle_finality_cert`, for a certificate that verified. -/
def finalizeWith (cert : FinalityCert) (snapshot : ValidatorSetSnapshot) :
    Option QcBlob → Method T Unit
  | none => do
      modify fun n => n.queuePendingFinalityCert cert
      fail s!"Missing verified QC blob for checkpoint {cert.checkpointHeight}"
  | some blob => do
      let epochIndex ← read fun n => n.state.epochIndex
      let _ ← ofExcept id (blob.verifyAgainstSnapshot M snapshot
        (some (cert.signerIndices snapshot.validators.length)) (some epochIndex))
      maybeApplyDetectedQcFaults M snapshot blob
      modify fun n => n.finalize cert

def handleFinalityCert (cert : FinalityCert) : Method T Unit := do
  let n ← read id
  if cert.checkpointHeight ≤ n.finalizedHeight then pure ()
  else do
    let snapshot ← ofExcept id (n.checkFinalityCert M cert)
    finalizeWith M cert snapshot (n.getQcBlob cert.checkpointHeight)

/-- The loop of `process_pending_finality_certs`: the last error is reported. -/
def handlePendingCerts : Option String → List FinalityCert → Method T Unit
  | none, [] => pure ()
  | some e, [] => fail e
  | lastErr, cert :: rest => do
      match (← attempt (handleFinalityCert M cert)) with
      | .ok () => handlePendingCerts lastErr rest
      | .error e => handlePendingCerts (some e) rest

def processPendingFinalityCerts (checkpointHeight : ℕ) : Method T Unit := do
  let waiting ← read fun n => n.pendingFinalityCerts.get? checkpointHeight
  match waiting with
  | none => pure ()
  | some certs => do
      modify fun n =>
        { n with pendingFinalityCerts := n.pendingFinalityCerts.erase checkpointHeight }
      handlePendingCerts M none certs

/-- The signers that `import_qc_blob` asks for. -/
def minSigners (snapshot : ValidatorSetSnapshot) : ℕ :=
  (snapshot.validators.length * finalityQuorumNumerator + (finalityQuorumDenominator - 1)) /
    finalityQuorumDenominator

/-- The checks of `import_qc_blob`. -/
def checkQcBlob (blob : QcBlob) : Except String Unit :=
  if ¬ IsCheckpointHeightForChain blob.checkpointHeight n.chainId then
    .error s!"Height {blob.checkpointHeight} is not a valid checkpoint height"
  else match n.chain[blob.checkpointHeight]? with
    | none => .error s!"Missing checkpoint block at height {blob.checkpointHeight}"
    | some block =>
      if block.hash ≠ blob.checkpointHash then
        .error (s!"QcBlob checkpoint hash mismatch: expected {block.hash}, got " ++
          blob.checkpointHash)
      else match n.requireValidatorSnapshot M blob.epoch with
        | .error e => .error e
        | .ok snapshot =>
          match blob.verifyAgainstSnapshot M snapshot none (some n.state.epochIndex) with
          | .error e => .error e
          | .ok verifiedSigners =>
            if verifiedSigners.length < minSigners snapshot then
              .error (s!"QcBlob has {verifiedSigners.length} unique verified signers, " ++
                s!"need at least {minSigners snapshot} (2/3 of " ++
                s!"{snapshot.validators.length} validators)")
            else .ok ()

/-- Keep a verified blob, and drop the lowest ones beyond the retention. -/
def keepQcBlob (blob : QcBlob) : Node T :=
  let blobs := n.verifiedQcBlobs.insert blob.checkpointHeight blob
  { n with verifiedQcBlobs :=
      blobs.dropFirst (blobs.entries.length - max n.maxQcBlobs 1) }.logged
        (.saveQcBlob blob.checkpointHeight blob)

def importQcBlob (blob : QcBlob) : Method T Unit := do
  let n ← read id
  ofExcept id (n.checkQcBlob M blob)
  modify fun n => n.keepQcBlob blob
  processPendingFinalityCerts M blob.checkpointHeight

end

/-! ## What is final -/

def finalizedHashes : List String := (n.chain.take (n.finalizedHeight + 1)).map hash

/-- The finality pointer names a block of the chain, and the hashes `base` are those of
the first blocks that are final. -/
structure Final (base : List String) (n : Node T) : Prop where
  pointer : (n.chain[n.finalizedHeight]?).map hash = some n.finalizedHash
  kept : base <+: n.finalizedHashes

/-- The parts of a node that finality is about. -/
def pointers : List (Block T) × ℕ × String := (n.chain, n.finalizedHeight, n.finalizedHash)

variable {M} {n} {n' : Node T} {base : List String}

lemma Final.lt_length (h : n.Final base) : n.finalizedHeight < n.chain.length := by
  obtain ⟨block, hblock, -⟩ := map_eq_some_iff.mp h.pointer
  exact (List.getElem?_eq_some_iff.mp hblock).1

lemma Final.grow (h : n.Final base) (hle : n.finalizedHeight ≤ n'.finalizedHeight)
    (hkept : (n'.chain.take (n.finalizedHeight + 1)).map hash = n.finalizedHashes)
    (hpointer : (n'.chain[n'.finalizedHeight]?).map hash = some n'.finalizedHash) :
    n'.Final base := by
  refine ⟨hpointer, h.kept.trans ?_⟩
  rw [← hkept]
  exact (take_prefix_take_left (by omega)).map hash

lemma Final.of_pointers (h : n.Final base) (hsame : n'.pointers = n.pointers) :
    n'.Final base := by
  simp only [pointers, Prod.mk.injEq] at hsame
  obtain ⟨hchain, hheight, hhash⟩ := hsame
  refine h.grow hheight.ge ?_ ?_
  · rw [hchain]
    rfl
  · rw [hchain, hheight, hhash]
    exact h.pointer

lemma Final.append (h : n.Final base) {block : Block T}
    (hsame : n'.pointers = (n.chain ++ [block], n.finalizedHeight, n.finalizedHash)) :
    n'.Final base := by
  simp only [pointers, Prod.mk.injEq] at hsame
  obtain ⟨hchain, hheight, hhash⟩ := hsame
  have hlt := h.lt_length
  refine h.grow hheight.ge ?_ ?_
  · rw [hchain, take_append_of_le_length hlt]
    rfl
  · rw [hchain, hheight, hhash, getElem?_append_left hlt]
    exact h.pointer

lemma map_hash_take_of_findForkPoint {ours theirs : List (Block T)} {forkPoint m : ℕ}
    (hfork : findForkPoint ours theirs = some forkPoint) (hm : m ≤ forkPoint) :
    (theirs.take m).map hash = (ours.take m).map hash := by
  have hzip : ∀ i < forkPoint, ∃ a b, ours[i]? = some a ∧ theirs[i]? = some b ∧
      a.hash = b.hash := by
    intro i hi
    unfold findForkPoint at hfork
    rcases hfind : (ours.zip theirs).findIdx? fun p => p.1.hash != p.2.hash with _ | index
    · -- no difference in the common part: the shorter chain ends at the fork point
      simp only [hfind] at hfork
      split_ifs at hfork
      cases hfork
      have hours : i < ours.length := by omega
      have htheirs : i < theirs.length := by omega
      have hsame := (findIdx?_eq_none_iff.mp hfind) (ours[i], theirs[i])
        (mem_of_getElem? (i := i) (by simp [hours, htheirs]))
      exact ⟨_, _, getElem?_eq_getElem hours, getElem?_eq_getElem htheirs,
        by simpa using hsame⟩
    · simp only [hfind] at hfork
      cases hfork
      obtain ⟨hindex, -, hbefore⟩ := findIdx?_eq_some_iff_getElem.mp hfind
      have hsame := hbefore i hi
      rw [getElem_zip] at hsame
      rw [length_zip] at hindex
      exact ⟨_, _, getElem?_eq_getElem (by omega), getElem?_eq_getElem (by omega),
        by simpa using hsame⟩
  refine ext_getElem? fun i => ?_
  rw [getElem?_map, getElem?_map]
  by_cases hi : i < m
  · rw [getElem?_take_of_lt hi, getElem?_take_of_lt hi]
    obtain ⟨a, b, ha, hb, hhash⟩ := hzip i (by omega)
    rw [ha, hb, map_some, map_some, hhash]
  · rw [getElem?_take_eq_none (by omega), getElem?_take_eq_none (by omega)]

lemma Final.adoptChain (h : n.Final base) {now : ℕ} {newChain : List (Block T)}
    {forkPoint : ℕ} {newState : AccountState T}
    (hadopts : Adopts M now newChain n forkPoint newState) :
    (n.adoptChain M newChain newState forkPoint).Final base := by
  have hfinalized := adoptChain_finalized (M := M) (n := n) newChain newState forkPoint
  obtain ⟨block, hblock, hhash⟩ := hadopts.checkpoint
  refine h.grow (hfinalized.1 ▸ le_refl _) ?_ ?_
  · rw [adoptChain_chain]
    exact map_hash_take_of_findForkPoint hadopts.fork hadopts.unfinalized
  · rw [adoptChain_chain, hfinalized.1, hfinalized.2, hblock, map_some, hhash]

/-! ## What each entry point does to it -/

lemma pointers_withBlock (block : Block T) (commitState : AccountState T) :
    (n.withBlock M block commitState).pointers =
      (n.chain ++ [block], n.finalizedHeight, n.finalizedHash) := by
  unfold withBlock pruneConsensusEvidenceAfterCommit
  dsimp only
  split_ifs <;> rfl

lemma preserves_validateAndAddBlock (now : ℕ) (block : Block T) :
    Preserves (Final base) (validateAndAddBlock M now block) := by
  refine .bind .read fun n => .bind .ofExcept fun _ => .bind .ofExcept fun _ =>
    .bind .ofExcept fun commitState => .bind .ofExcept fun _ =>
    .bind (.modify fun n h => ?_) fun _ => .pure
  exact h.append (pointers_withBlock block commitState)

lemma preserves_tryReorg (now : ℕ) (newChain : List (Block T)) :
    Preserves (Final base) (tryReorg M now newChain) := by
  intro n h
  rw [wp_snd, tryReorg_run]
  rcases hplan : n.reorgPlan M now newChain with e | _ | ⟨forkPoint, newState⟩
  · exact h
  · exact h
  · -- the node is left with the new chain, whatever the disk says
    have hadopted := h.adoptChain (reorgPlan_eq_some_iff.mp hplan)
    dsimp only
    split
    · exact hadopted
    · exact hadopted

/-- Whatever chain is offered, the blocks below the depth that may be replaced stay. -/
theorem reorg_keeps_deep_blocks (M : NodeModules T G₁ G₂) (now : ℕ) (newChain : List (Block T))
    (n : Node T) :
    (((tryReorg M now newChain).run n).2.chain.take (n.chain.length - maxReorgDepth)).map hash =
      (n.chain.take (n.chain.length - maxReorgDepth)).map hash := by
  rw [tryReorg_run]
  rcases hplan : n.reorgPlan M now newChain with e | _ | ⟨forkPoint, newState⟩
  · rfl
  · rfl
  · have hadopts := reorgPlan_eq_some_iff.mp hplan
    have hkept := map_hash_take_of_findForkPoint hadopts.fork
      (tsub_le_iff_tsub_le.mp hadopts.depth)
    dsimp only
    split
    · simpa using hkept
    · simpa using hkept

@[simp] lemma pointers_logged (w : LoggedWrite) : (n.logged w).pointers = n.pointers := by
  unfold logged
  split_ifs <;> rfl

variable {cert : FinalityCert}

lemma Final.finalize (h : n.Final base) (hle : n.finalizedHeight ≤ cert.checkpointHeight)
    (hblock : (n.chain[cert.checkpointHeight]?).map hash = some cert.checkpointHash) :
    (n.finalize cert).Final base :=
  have hraised : Final base { n with
      finalizedHeight := cert.checkpointHeight
      finalizedHash := cert.checkpointHash } := h.grow hle rfl hblock
  hraised.of_pointers (pointers_logged _)

/-- The blob was verified, so that it has no fault that could invalidate finality. -/
lemma wp_finalizeWith {snapshot : ValidatorSetSnapshot}
    {blob : Option QcBlob} (hqueued : (n.queuePendingFinalityCert cert).Final base)
    (h : n.Final base) (hfinal : (n.finalize cert).Final base) :
    wp (finalizeWith M cert snapshot blob) (fun _ => Final base) (fun _ => Final base) n := by
  cases blob with
  | none =>
    rw [finalizeWith, wp_bind, wp_modify, wp_fail]
    exact hqueued
  | some blob =>
    rw [finalizeWith, wp_bind, wp_read, wp_bind, wp_ofExcept]
    refine ⟨fun signers hverified => ?_, fun _ _ => h⟩
    rw [maybeApplyDetectedQcFaults, QcBlob.detectFaultProofs_eq_nil hverified]
    exact hfinal

section

variable [AddCommGroup G₁] [AddCommGroup G₂] [DecidableEq G₁] [DecidableEq G₂]

lemma block_of_checkFinalityCert {cert : FinalityCert} {snapshot : ValidatorSetSnapshot}
    (h : n.checkFinalityCert M cert = .ok snapshot) :
    (n.chain[cert.checkpointHeight]?).map hash = some cert.checkpointHash := by
  unfold checkFinalityCert at h
  split_ifs at h
  rcases hblock : n.chain[cert.checkpointHeight]? with _ | block
  · rw [hblock] at h
    cases h
  · simp only [hblock] at h
    split_ifs at h with hhash
    rw [map_some, not_not.mp hhash]

lemma preserves_handleFinalityCert (cert : FinalityCert) :
    Preserves (Final base) (handleFinalityCert M cert) := by
  intro n h
  rw [handleFinalityCert, wp_bind, wp_read]
  dsimp only [id]
  split_ifs with hle
  · exact h
  · rw [wp_bind, wp_ofExcept]
    refine ⟨fun snapshot hcheck => ?_, fun _ _ => h⟩
    exact wp_finalizeWith (h.of_pointers rfl) h
      (h.finalize (Nat.le_of_not_le hle) (block_of_checkFinalityCert hcheck))

lemma preserves_handlePendingCerts (certs : List FinalityCert) :
    ∀ lastErr, Preserves (Final base) (handlePendingCerts M lastErr certs) := by
  induction certs with
  | nil =>
    rintro (_ | e)
    · exact .pure
    · exact .fail
  | cons cert rest ih =>
    intro lastErr
    have hstep : Preserves (Final base) (attempt (handleFinalityCert M cert) >>=
        fun | .ok () => handlePendingCerts M lastErr rest
            | .error e => handlePendingCerts M (some e) rest) := by
      refine .bind (preserves_handleFinalityCert cert).attempt ?_
      rintro (e | ⟨⟩)
      · exact ih (some e)
      · exact ih lastErr
    cases lastErr <;> exact hstep

lemma preserves_importQcBlob (blob : QcBlob) : Preserves (Final base) (importQcBlob M blob) := by
  refine .bind .read fun n => .bind .ofExcept fun _ =>
    .bind (.modify fun n h => h.of_pointers (pointers_logged _)) fun _ =>
    .bind .read fun waiting => ?_
  cases waiting with
  | none => exact .pure
  | some certs =>
    exact .bind (.modify fun n h => h.of_pointers rfl) fun _ =>
      preserves_handlePendingCerts certs none

/-! ## Runs -/

/-- What comes in at a node. Between two calls the disk may answer anew. -/
inductive FinalityStep (T : ModuleTypes)
  | block (now : ℕ) (block : Block T)
  | candidate (now : ℕ) (newChain : List (Block T))
  | cert (cert : FinalityCert)
  | qcBlob (blob : QcBlob)
  | disk (disk : Disk T)

/-- The node after a step, whether the call is reported as an error or not. -/
def FinalityStep.run (M : NodeModules T G₁ G₂) (n : Node T) : FinalityStep T → Node T
  | .block now b => ((validateAndAddBlock M now b).run n).2
  | .candidate now newChain => ((tryReorg M now newChain).run n).2
  | .cert c => ((handleFinalityCert M c).run n).2
  | .qcBlob blob => ((importQcBlob M blob).run n).2
  | .disk d => { n with disk := d }

def runSteps (M : NodeModules T G₁ G₂) (n : Node T) (steps : List (FinalityStep T)) : Node T :=
  steps.foldl (FinalityStep.run M) n

def Fresh (n : Node T) : Prop :=
  ∃ genesis, n.pointers = ([genesis], 0, genesis.hash)

lemma Fresh.final (h : n.Fresh) : n.Final [] := by
  obtain ⟨genesis, hsame⟩ := h
  simp only [pointers, Prod.mk.injEq] at hsame
  obtain ⟨hchain, hheight, hhash⟩ := hsame
  refine ⟨?_, nil_prefix⟩
  rw [hchain, hheight, hhash]
  rfl

lemma Final.step (h : n.Final base) (step : FinalityStep T) : (step.run M n).Final base := by
  cases step with
  | block now block => exact (preserves_validateAndAddBlock now block).run h
  | candidate now newChain => exact (preserves_tryReorg now newChain).run h
  | cert cert => exact (preserves_handleFinalityCert cert).run h
  | qcBlob blob => exact (preserves_importQcBlob blob).run h
  | disk disk => exact h.of_pointers rfl

lemma Final.runSteps (h : n.Final base) (steps : List (FinalityStep T)) :
    (runSteps M n steps).Final base := by
  induction steps generalizing n with
  | nil => exact h
  | cons step steps ih => exact ih (h.step step)

/-- In every run from a fresh node the finality pointer names a block of the chain, it
never moves down, and below it no block is replaced. -/
theorem finalized_blocks_stay (hfresh : n.Fresh) (steps more : List (FinalityStep T)) :
    let before := Node.runSteps M n steps
    let after := Node.runSteps M before more
    after.finalizedHeight < after.chain.length ∧
      (after.chain[after.finalizedHeight]?).map hash = some after.finalizedHash ∧
      before.finalizedHeight ≤ after.finalizedHeight ∧
      ∀ height ≤ before.finalizedHeight,
        (after.chain[height]?).map hash = (before.chain[height]?).map hash := by
  intro before after
  have hbefore : before.Final [] := hfresh.final.runSteps steps
  have hafter : after.Final before.finalizedHashes :=
    Final.runSteps ⟨hbefore.pointer, prefix_rfl⟩ more
  have hlengths := hafter.kept.length_le
  simp only [finalizedHashes, length_map, length_take] at hlengths
  have hlt := hbefore.lt_length
  have hlt' := hafter.lt_length
  refine ⟨hlt', hafter.pointer, by omega, fun height hheight => ?_⟩
  -- the hash at a height is read off the hashes of the final blocks
  obtain ⟨tail, htail⟩ := hafter.kept
  have hread : before.finalizedHashes[height]? = after.finalizedHashes[height]? := by
    rw [← htail, getElem?_append_left]
    simp only [finalizedHashes, length_map, length_take]
    omega
  simp only [finalizedHashes, getElem?_map] at hread
  rw [getElem?_take_of_lt (by omega), getElem?_take_of_lt (by omega)] at hread
  exact hread.symm

/-! ## A checkpoint -/

def loneValidator : Validator :=
  { Validator.new ⟨1⟩ 10 with
    vrfPublicKey := [1]
    blsPublicKey := encodeSmall 96 2
    popSignature := [1]
    pqPublicKey := [1] }

/-- A fresh node of the network where every second block is a checkpoint. -/
def devnetNode : Node .point :=
  let genesisConfig : GenesisConfig .point := ⟨45262, 0,
    { point with
      validators := (∅ : SortedMap Address Validator).insert ⟨1⟩ loneValidator }, rfl⟩
  { Node.plain .empty with
    chainId := 45262
    genesisConfig
    chain := [genesisConfig.buildGenesisBlock NodeModules.refusing.toChainModules]
    state := genesisConfig.buildState }

def devnetBlock (index timestamp : ℕ) (previousHash : String) : Block .point :=
  { Block.plain index timestamp previousHash with chainId := 45262 }

/-- The certificate of the validator for the second block. -/
def devnetCert : FinalityCert where
  epoch := 0
  checkpointHeight := 2
  checkpointHash := "2/2000"
  aggSigBls := encodeSmall 48 (smallDeps.hashToG1 (checkpointSigningMessage 0 2 "2/2000") * 2)
  bitmap := [1]
  setHash := (devnetNode.state.validatorSnapshot .refusing 0 45262).setHash

/-- Its post-quantum signature. -/
def devnetBlob : QcBlob where
  epoch := 0
  checkpointHeight := 2
  checkpointHash := "2/2000"
  pqSignatures := [⟨0, NodeModules.refusing.displayAddress ⟨1⟩, [1]⟩]
  merkleRoot := "00"
  createdEpoch := 0

/-- Two blocks, a certificate that has to wait, and the blob that completes it. -/
def devnetSteps : List (FinalityStep .point) :=
  [.block 10000 (devnetBlock 1 1000 "0/0"), .block 10000 (devnetBlock 2 2000 "1/1000"),
    .cert devnetCert, .qcBlob devnetBlob]

/-- A longer chain that parts from the node's at its genesis. -/
def devnetRival : List (Block .point) :=
  [devnetNode.genesisConfig.buildGenesisBlock NodeModules.refusing.toChainModules,
    devnetBlock 1 1500 "0/0", devnetBlock 2 2500 "1/1500", devnetBlock 3 3500 "2/2500"]

/-- The blob makes the second block final; the longer chain is then refused and the next
block taken. -/
theorem finalized_blocks_stay_devnet :
    let before := Node.runSteps .refusing devnetNode devnetSteps
    let after := Node.runSteps .refusing before
      [.candidate 10000 devnetRival, .block 10000 (devnetBlock 3 3000 "2/2000")]
    (before.finalizedHeight = 2 ∧ after.chain.length = 4) ∧
      after.finalizedHeight < after.chain.length ∧
      (after.chain[after.finalizedHeight]?).map Block.hash = some after.finalizedHash ∧
      before.finalizedHeight ≤ after.finalizedHeight ∧
      ∀ height ≤ before.finalizedHeight,
        (after.chain[height]?).map Block.hash = (before.chain[height]?).map Block.hash :=
  ⟨by decide +kernel, finalized_blocks_stay ⟨_, rfl⟩ _ _⟩

end

end Node

end Budlum
