import Budlum.Chain.Checkpoints

/-!
# Taking finality back

`invalidate_finality_from_height` deletes the certificates from a height on and makes the
highest checkpoint final that still has one. The scan for it goes over the multiples of the
checkpoint interval. The deletion does not: it steps by the interval from the height it was
given, and so misses every certificate if that height is no multiple (`finality_not_below`).
`rewound_iff` says when finality ends below the height.
-/

namespace Budlum.Node

open List Nat

variable {T : ModuleTypes} {n : Node T} {fromHeight height : ℕ} {cert : FinalityCert}

def storedCert (n : Node T) (height : ℕ) : Option FinalityCert :=
  if n.storage.isSome then n.disk.getFinalityCert height else none

/-- A chain with its stored certificates: each is for the block at its height, a checkpoint. -/
structure Certified (n : Node T) : Prop where
  chain : n.chain ≠ []
  height : ∀ {height cert}, n.storedCert height = some cert → cert.checkpointHeight = height
  checkpoint : ∀ {height cert}, n.storedCert height = some cert →
    IsCheckpointHeightForChain height n.chainId
  hash : ∀ {height cert}, n.storedCert height = some cert →
    (n.chain[height]?).map Block.hash = some cert.checkpointHash

/-- The finalized block is the highest below `fromHeight` that has a certificate, or the
genesis block. -/
structure Rewound (n : Node T) (fromHeight : ℕ) : Prop where
  below : n.finalizedHeight < fromHeight
  certified : n.finalizedHeight = 0 ∨ (n.storedCert n.finalizedHeight).isSome
  greatest : ∀ height < fromHeight, (n.storedCert height).isSome → height ≤ n.finalizedHeight
  hash : (n.chain[n.finalizedHeight]?).map Block.hash = some n.finalizedHash

lemma checkpointInterval_pos (chainId : ℕ) : 0 < finalityCheckpointIntervalForChainId chainId := by
  unfold finalityCheckpointIntervalForChainId
  cases Network.fromChainId chainId with
  | none => decide
  | some network => cases network <;> decide

/-! ## The deletion -/

lemma getFinalityCert_deleted (heights : List ℕ) (d : Disk T) :
    (heights.foldl (fun d height =>
      (d.write (.deleteFinalityCert height)).write (.deleteQcBlob height)) d).getFinalityCert height =
      if height ∈ heights ∧ d.completes (.deleteFinalityCert height) then none
      else d.getFinalityCert height := by
  induction heights generalizing d with
  | nil => simp
  | cons first rest ih =>
    have hcompletes : ∀ (d : Disk T) w, (d.write w).completes = d.completes := by
      intro d w
      unfold Disk.write
      split_ifs
      · cases w <;> rfl
      · rfl
    have hqc : ∀ d : Disk T, (d.write (.deleteQcBlob first)).getFinalityCert =
        d.getFinalityCert := by
      intro d
      unfold Disk.write
      split_ifs <;> rfl
    rw [foldl_cons, ih, hcompletes, hcompletes, hqc]
    by_cases hfirst : height = first
    · subst hfirst
      by_cases hdone : d.completes (.deleteFinalityCert height) = true <;>
        simp [Disk.write, hdone]
    · have hother : (d.write (.deleteFinalityCert first)).getFinalityCert height =
          d.getFinalityCert height := by
        unfold Disk.write
        split_ifs
        · exact if_neg hfirst
        · rfl
      simp [hfirst, hother]

/-- The heights at which a certificate goes. -/
def Deletes (n : Node T) (fromHeight height : ℕ) : Prop :=
  fromHeight ≤ height ∧ finalityCheckpointIntervalForChainId n.chainId ∣ height - fromHeight ∧
    n.disk.completes (.deleteFinalityCert height) = true

lemma Certified.lt_length (h : n.Certified) (hcert : n.storedCert height = some cert) :
    height < n.chain.length := by
  by_contra hge
  have hhash := h.hash hcert
  rw [getElem?_eq_none (by omega)] at hhash
  cases hhash

/-! ## The scan -/

lemma findSome?_range_reverse {α : Type} (f : ℕ → Option α) (count : ℕ) :
    match (range count).reverse.findSome? f with
    | none => ∀ k < count, f k = none
    | some a => ∃ k < count, f k = some a ∧ ∀ j < count, (f j).isSome → j ≤ k := by
  induction count with
  | zero => simp
  | succ count ih =>
    rw [range_succ, reverse_append, reverse_singleton, singleton_append,
      findSome?_cons]
    cases hlast : f count with
    | some a => exact ⟨count, by omega, hlast, fun j hj _ => by omega⟩
    | none =>
      cases hfind : (range count).reverse.findSome? f with
      | none =>
        rw [hfind] at ih
        intro k hk
        rcases Nat.lt_succ_iff_lt_or_eq.mp hk with hk | rfl
        · exact ih k hk
        · exact hlast
      | some a =>
        rw [hfind] at ih
        obtain ⟨k, hk, hfound, hgreatest⟩ := ih
        refine ⟨k, by omega, hfound, fun j hj hsome => ?_⟩
        rcases Nat.lt_succ_iff_lt_or_eq.mp hj with hj | rfl
        · exact hgreatest j hj hsome
        · simp [hlast] at hsome

/-- The finalized block that the scan leaves: the highest with a certificate. -/
structure Scanned (n : Node T) : Prop where
  certified : n.finalizedHeight = 0 ∨ (n.storedCert n.finalizedHeight).isSome
  greatest : ∀ height, (n.storedCert height).isSome → height ≤ n.finalizedHeight
  hash : (n.chain[n.finalizedHeight]?).map Block.hash = some n.finalizedHash

lemma Certified.genesis (h : n.Certified) :
    (n.chain[0]?).map Block.hash = some ((n.chain.head?.map Block.hash).getD "") := by
  obtain ⟨first, rest, hchain⟩ := exists_cons_of_ne_nil h.chain
  simp [hchain]

lemma Certified.probed (h : n.Certified) (hcert : n.storedCert height = some cert) :
    ∃ k < (n.chain.length - 1) / finalityCheckpointIntervalForChainId n.chainId,
      height = (k + 1) * finalityCheckpointIntervalForChainId n.chainId := by
  obtain ⟨hpos, k, rfl⟩ := h.checkpoint hcert
  have hlt := h.lt_length hcert
  obtain ⟨k, rfl⟩ : ∃ j, k = j + 1 := exists_eq_succ_of_ne_zero fun hzero => by
    simp [hzero] at hpos
  refine ⟨k, ?_, mul_comm _ _⟩
  rw [← succ_le_iff, le_div_iff_mul_le (checkpointInterval_pos _), succ_eq_add_one,
    mul_comm]
  omega

lemma Certified.scanned (h : n.Certified) (hstorage : n.storage.isSome) :
    Scanned (match n.latestStoredCert with
      | none => { n with
          finalizedHeight := 0, finalizedHash := (n.chain.head?.map Block.hash).getD "" }
      | some cert => { n with
          finalizedHeight := cert.checkpointHeight, finalizedHash := cert.checkpointHash }) := by
  have hstored : ∀ height, n.storedCert height = n.disk.getFinalityCert height :=
    fun _ => if_pos hstorage
  have hscan := findSome?_range_reverse
    (fun k => n.disk.getFinalityCert ((k + 1) * finalityCheckpointIntervalForChainId n.chainId))
    ((n.chain.length - 1) / finalityCheckpointIntervalForChainId n.chainId)
  unfold latestStoredCert
  split at hscan
  · rename_i hnone
    rw [hnone]
    refine ⟨.inl rfl, fun height hsome => ?_, h.genesis⟩
    obtain ⟨cert, hcert⟩ := Option.isSome_iff_exists.mp hsome
    obtain ⟨k, hk, rfl⟩ := h.probed hcert
    have hempty := hscan k hk
    rw [← hstored] at hempty
    exact absurd (hempty.symm.trans hcert) nofun
  · rename_i cert hfind
    rw [hfind]
    obtain ⟨k, hk, hfound, hgreatest⟩ := hscan
    rw [← hstored] at hfound
    have hheight := h.height hfound
    refine ⟨.inr ?_, fun height hsome => ?_, ?_⟩
    · show (n.storedCert cert.checkpointHeight).isSome
      rw [hheight, hfound]
      rfl
    · obtain ⟨other, hother⟩ := Option.isSome_iff_exists.mp hsome
      obtain ⟨j, hj, rfl⟩ := h.probed hother
      show _ ≤ cert.checkpointHeight
      rw [hheight]
      refine mul_le_mul_right _ (succ_le_succ (hgreatest j hj ?_))
      show (n.disk.getFinalityCert _).isSome
      rw [← hstored]
      exact hsome
    · show (n.chain[cert.checkpointHeight]?).map Block.hash = _
      rw [hheight]
      exact h.hash hfound

/-! ## Both -/

instance (n : Node T) (fromHeight height : ℕ) : Decidable (n.Deletes fromHeight height) :=
  inferInstanceAs (Decidable (_ ∧ _ ∧ _))

def withDeleted (n : Node T) (fromHeight : ℕ) : Node T :=
  { n with
    verifiedQcBlobs := n.verifiedQcBlobs.filter fun entry => decide (entry.1 < fromHeight)
    disk := (n.invalidatedHeights fromHeight).foldl
      (fun d height => (d.write (.deleteFinalityCert height)).write (.deleteQcBlob height)) n.disk }

lemma Certified.storedCert_withDeleted (h : n.Certified) :
    (n.withDeleted fromHeight).storedCert height =
      if n.Deletes fromHeight height then none else n.storedCert height := by
  by_cases hstorage : n.storage.isSome
  · have hdeleted : (n.withDeleted fromHeight).storedCert height = _ :=
      (if_pos hstorage).trans (getFinalityCert_deleted (n.invalidatedHeights fromHeight) n.disk)
    rw [hdeleted]
    have hstored : n.storedCert height = n.disk.getFinalityCert height := if_pos hstorage
    cases hcert : n.disk.getFinalityCert height with
    | none => simp [hstored, hcert]
    | some cert =>
      have hlt := h.lt_length (hstored.trans hcert)
      have hmem : height ∈ n.invalidatedHeights fromHeight ↔ fromHeight ≤ height ∧
          finalityCheckpointIntervalForChainId n.chainId ∣ height - fromHeight := by
        simp only [invalidatedHeights, mem_filter, mem_range, decide_eq_true_eq]
        exact and_iff_right (by omega)
      simp only [hmem, Deletes, and_assoc, hstored, hcert]
  · have hnone : ∀ m : Node T, m.storage = n.storage → m.storedCert height = none :=
      fun m hm => if_neg (by rwa [hm])
    rw [hnone (n.withDeleted fromHeight) rfl, hnone n rfl, ite_self]

lemma Certified.withDeleted (h : n.Certified) : (n.withDeleted fromHeight).Certified := by
  have hold : ∀ {height cert}, (n.withDeleted fromHeight).storedCert height = some cert →
      n.storedCert height = some cert := by
    intro height cert hcert
    rw [h.storedCert_withDeleted] at hcert
    split_ifs at hcert
    exact hcert
  exact ⟨h.chain, fun hcert => h.height (hold hcert), fun hcert => h.checkpoint (hold hcert),
    fun hcert => h.hash (hold hcert)⟩

lemma invalidate_of_none (hstorage : n.storage = none) :
    n.invalidateFinalityFromHeight fromHeight =
      { n with
        verifiedQcBlobs := n.verifiedQcBlobs.filter fun entry => decide (entry.1 < fromHeight)
        finalizedHeight := 0
        finalizedHash := (n.chain.head?.map Block.hash).getD "" } := by
  unfold invalidateFinalityFromHeight
  dsimp only
  rw [hstorage]

lemma invalidate_of_some {store : Storage} (hstorage : n.storage = some store) :
    n.invalidateFinalityFromHeight fromHeight =
      match (n.withDeleted fromHeight).latestStoredCert with
      | none => { n.withDeleted fromHeight with
          finalizedHeight := 0
          finalizedHash := ((n.withDeleted fromHeight).chain.head?.map Block.hash).getD "" }
      | some cert => { n.withDeleted fromHeight with
          finalizedHeight := cert.checkpointHeight, finalizedHash := cert.checkpointHash } := by
  unfold invalidateFinalityFromHeight
  dsimp only
  rw [hstorage]
  rfl

lemma Certified.invalidated (h : n.Certified) (fromHeight : ℕ) :
    Scanned (n.invalidateFinalityFromHeight fromHeight) ∧ ∀ height,
      (n.invalidateFinalityFromHeight fromHeight).storedCert height =
        (n.withDeleted fromHeight).storedCert height := by
  cases hstorage : n.storage with
  | none =>
    rw [invalidate_of_none hstorage]
    refine ⟨⟨.inl rfl, fun height hsome => ?_, h.genesis⟩, fun height => ?_⟩
    · simp [storedCert, hstorage] at hsome
    · simp [storedCert, Node.withDeleted, hstorage]
  | some store =>
    rw [invalidate_of_some hstorage]
    have hsome : (n.withDeleted fromHeight).storage.isSome := by
      show n.storage.isSome
      rw [hstorage]
      rfl
    refine ⟨h.withDeleted.scanned hsome, fun height => ?_⟩
    cases (n.withDeleted fromHeight).latestStoredCert <;> rfl

/-- Finality ends at the highest certificate below the height exactly if the height is not that
of the genesis block and the deletion takes every certificate from there on: each is a multiple
of the interval away, and the disk completes its deletion. -/
theorem rewound_iff (h : n.Certified) :
    (n.invalidateFinalityFromHeight fromHeight).Rewound fromHeight ↔
      0 < fromHeight ∧ ∀ height, fromHeight ≤ height → (n.storedCert height).isSome →
        finalityCheckpointIntervalForChainId n.chainId ∣ height - fromHeight ∧
          n.disk.completes (.deleteFinalityCert height) = true := by
  obtain ⟨hscanned, hstored⟩ := h.invalidated fromHeight
  simp only [h.storedCert_withDeleted] at hstored
  constructor
  · intro hrewound
    refine ⟨zero_lt_of_lt hrewound.below, fun height hle hsome => ?_⟩
    by_contra hkept
    have hremains : ¬ n.Deletes fromHeight height := fun hdeletes => hkept hdeletes.2
    have hbound := hscanned.greatest height (by rw [hstored, if_neg hremains]; exact hsome)
    have hbelow := hrewound.below
    omega
  · rintro ⟨hpos, hall⟩
    refine ⟨?_, hscanned.certified, fun height _ => hscanned.greatest height, hscanned.hash⟩
    rcases hscanned.certified with hzero | hsome
    · omega
    · by_contra hge
      rw [hstored] at hsome
      split_ifs at hsome with hdeletes
      · cases hsome
      · exact hdeletes ⟨by omega, hall _ (by omega) hsome⟩

/-! ## A height between two checkpoints -/

/-- Three blocks of the network with a checkpoint at every second, and the certificate of the
last. -/
def devnetFinal : Node ModuleTypes.point :=
  { devnetNode with
    chain := devnetNode.chain ++ [devnetBlock 1 1000 "0/0", devnetBlock 2 2000 "1/1000"]
    disk := { Disk.empty with
      getFinalityCert := fun height => if height = 2 then some devnetCert else none }
    finalizedHeight := 2
    finalizedHash := "2/2000" }

lemma storedCert_devnetFinal :
    devnetFinal.storedCert height = if height = 2 then some devnetCert else none := rfl

lemma devnetFinal_certified : devnetFinal.Certified := by
  have hcert : ∀ {height cert}, devnetFinal.storedCert height = some cert →
      height = 2 ∧ cert = devnetCert := by
    intro height cert h
    rw [storedCert_devnetFinal] at h
    split_ifs at h with htwo
    exact ⟨htwo, (Option.some.inj h).symm⟩
  refine ⟨cons_ne_nil _ _, fun h => ?_, fun h => ?_, fun h => ?_⟩
  all_goals
    obtain ⟨rfl, rfl⟩ := hcert h
    decide +kernel

/-- Taking finality back from the first block on leaves the second one final. -/
theorem finality_not_below :
    devnetFinal.Certified ∧ (devnetFinal.invalidateFinalityFromHeight 1).finalizedHeight = 2 ∧
      ¬ (devnetFinal.invalidateFinalityFromHeight 1).Rewound 1 := by
  have hheight : (devnetFinal.invalidateFinalityFromHeight 1).finalizedHeight = 2 := by
    decide +kernel
  refine ⟨devnetFinal_certified, hheight, fun hrewound => ?_⟩
  have hbelow := hrewound.below
  omega

/-- From the checkpoint itself it ends at the genesis block. -/
theorem rewound_devnet : (devnetFinal.invalidateFinalityFromHeight 2).Rewound 2 := by
  refine (rewound_iff devnetFinal_certified).mpr ⟨by decide, fun height _ hsome => ?_⟩
  rw [storedCert_devnetFinal] at hsome
  split_ifs at hsome with htwo
  · subst htwo
    decide +kernel
  · cases hsome

end Budlum.Node
