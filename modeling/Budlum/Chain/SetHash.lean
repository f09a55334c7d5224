import Budlum.Chain.SnapshotDigest

/-!
# What the hash of a validator set says about certificates

`compute_hash` sorts the validators before it hashes them; the bitmap of a certificate counts
positions in the stored order. A hash that has no collision thus fixes the validators but not
their order, and two snapshots of one hash may read one bitmap as different signers
(`order_not_committed`). They judge all certificates alike exactly if they list the addresses
in the same order (`interchangeable_iff`).
-/

namespace Budlum

open ValidatorEntry List Function

/-- The bounds of the types: the stake is a `u64`, and so are the lengths of the keys. -/
structure ValidatorEntry.Typed (v : ValidatorEntry) : Prop where
  stake : v.stake < 2 ^ 64
  blsPublicKey : v.blsPublicKey.length < 2 ^ 64
  popSignature : v.popSignature.length < 2 ^ 64
  pqPublicKey : v.pqPublicKey.length < 2 ^ 64

def FinalityCert.signers (cert : FinalityCert) (validators : List ValidatorEntry) : Set Address :=
  {a | ∃ entry ∈ cert.markedEntries validators, entry.1.address = a}

namespace ValidatorSetSnapshot

variable {G₁ G₂ : Type} {deps : FinalityDeps G₁ G₂} {vs ws : List ValidatorEntry}

/-! ## The hash fixes the sorted validators -/

lemma tells_entryPreimage : Tells ValidatorEntry.Typed entryPreimage fun v =>
      ((((v.address, v.stake), v.blsPublicKey), v.popSignature), v.pqPublicKey) :=
  ((((tells_address.comp address fun _ _ => trivial).append
    (tells_u64.comp stake fun _ h => h.stake)).append
    (tells_withLength.comp blsPublicKey fun _ h => h.blsPublicKey)).append
    (tells_withLength.comp popSignature fun _ h => h.popSignature)).append
    (tells_withLength.comp pqPublicKey fun _ h => h.pqPublicKey)

lemma entryPreimage_ne_nil (v : ValidatorEntry) : entryPreimage v ≠ [] := by
  intro h
  have hstake : u64LeBytes v.stake = [] := by
    simp only [entryPreimage, append_eq_nil_iff] at h
    exact h.1.1.1.2
  have hlength := length_leBytes 8 v.stake
  rw [show leBytes 8 v.stake = [] from hstake] at hlength
  cases hlength

def sorted (vs : List ValidatorEntry) : List ValidatorEntry :=
  vs.insertionSort fun a b => a.address ≤ b.address

lemma setHash_of_sorted {epoch : ℕ} {hv : vs.length < 2 ^ 63} {hw : ws.length < 2 ^ 63}
    (h : sorted vs = sorted ws) :
    (new deps epoch vs hv).setHash = (new deps epoch ws hw).setHash := by
  show deps.sha3Hex ((sorted vs).flatMap entryPreimage) = _
  rw [h]
  rfl

lemma sorted_eq_of_computeHash (hsha : Injective deps.sha3Hex)
    (hvs : ∀ v ∈ vs, v.Typed) (hws : ∀ w ∈ ws, w.Typed)
    (h : computeHash deps vs = computeHash deps ws) : sorted vs = sorted ws := by
  have htyped : ∀ {us : List ValidatorEntry}, (∀ u ∈ us, u.Typed) → ∀ u ∈ sorted us, u.Typed :=
    fun hus u hu => hus u ((mem_insertionSort _).mp hu)
  have hviews := tells_entryPreimage.flatMap_eq (fun v _ => entryPreimage_ne_nil v) (htyped hvs)
    (htyped hws) (hsha h)
  refine map_injective_iff.mpr (fun v w hview => ?_) hviews
  obtain ⟨address, stake, bls, pop, pq⟩ := v
  simp only [Prod.mk.injEq] at hview
  obtain ⟨⟨⟨⟨rfl, rfl⟩, rfl⟩, rfl⟩, rfl⟩ := hview
  rfl

/-! ## Sorting keeps the order of the entries of one address -/

lemma filter_sorted (a : Address) :
    (sorted vs).filter (·.address = a) = vs.filter (·.address = a) := by
  have hties : (vs.filter (·.address = a)).Pairwise fun v w => v.address ≤ w.address := by
    refine pairwise_of_forall_mem_list fun v hv w hw => ?_
    have hva : v.address = a := by simpa using (mem_filter.mp hv).2
    have hwa : w.address = a := by simpa using (mem_filter.mp hw).2
    rw [hva, hwa]
  have hsub : (vs.filter (·.address = a)).Sublist ((sorted vs).filter (·.address = a)) := by
    have hsorted := (sublist_insertionSort hties filter_sublist).filter (·.address = a)
    simpa [sorted, filter_filter] using hsorted
  have hlength := ((perm_insertionSort (fun v w : ValidatorEntry => v.address ≤ w.address)
    vs).filter (·.address = a)).length_eq
  exact (hsub.eq_of_length hlength.symm).symm

/-- A list is its addresses in their order, and for each the entries in theirs. -/
lemma eq_of_filter_address (haddress : vs.map (·.address) = ws.map (·.address))
    (hfilter : ∀ a, vs.filter (·.address = a) = ws.filter (·.address = a)) : vs = ws := by
  induction vs generalizing ws with
  | nil => exact (map_eq_nil_iff.mp haddress.symm).symm
  | cons v vs ih =>
    rcases ws with _ | ⟨w, ws⟩
    · cases haddress
    obtain ⟨hvw, hrest⟩ := cons.inj haddress
    have hhead := hfilter v.address
    simp only [filter_cons, decide_true, if_true, hvw] at hhead
    obtain ⟨rfl, -⟩ := cons.inj hhead
    refine congrArg _ (ih hrest fun a => ?_)
    have hall := hfilter a
    by_cases ha : v.address = a
    · simpa [filter_cons, ha] using hall
    · simpa [filter_cons, ha] using hall

/-! ## Which snapshots of one hash may stand for each other -/

/-- Both snapshots accept the same certificates and read the same signers off each. -/
def Interchangeable [AddCommGroup G₁] [AddCommGroup G₂] [DecidableEq G₁] [DecidableEq G₂]
    (deps : FinalityDeps G₁ G₂) (s s' : ValidatorSetSnapshot) : Prop :=
  ∀ cert : FinalityCert, (cert.verify deps s = .ok () ↔ cert.verify deps s' = .ok ()) ∧
    cert.signers s.validators = cert.signers s'.validators

def onlySigner (i : ℕ) : FinalityCert :=
  ⟨0, 0, "", [], Bitmap.setBit (replicate (i / 8 + 1) 0) i, ""⟩

lemma mem_signers_onlySigner (i : ℕ) (a : Address) :
    a ∈ (onlySigner i).signers vs ↔ (vs.map (·.address))[i]? = some a := by
  have hbit : ∀ j, Bitmap.getBit (onlySigner i).bitmap j = decide (i = j) := by
    intro j
    show Bitmap.getBit (Bitmap.setBit _ i) j = _
    rw [Bitmap.getBit_setBit (by simp), Bitmap.getBit_replicate_zero, Bool.false_or]
  rw [getElem?_map, Option.map_eq_some_iff]
  constructor
  · rintro ⟨⟨v, j⟩, hmarked, rfl⟩
    obtain ⟨hmem, hj⟩ := mem_filter.mp hmarked
    obtain rfl : i = j := by simpa [hbit] using hj
    exact ⟨v, mk_mem_zipIdx_iff_getElem?.mp hmem, rfl⟩
  · rintro ⟨v, hv, rfl⟩
    refine ⟨(v, i), mem_filter.mpr ⟨mk_mem_zipIdx_iff_getElem?.mpr hv, ?_⟩, rfl⟩
    simp [hbit]

/-- Snapshots of one epoch and one hash judge every certificate alike exactly if they list the
addresses in the same order. -/
theorem interchangeable_iff [AddCommGroup G₁] [AddCommGroup G₂] [DecidableEq G₁] [DecidableEq G₂]
    (hsha : Injective deps.sha3Hex) (epoch : ℕ)
    (hvs : ∀ v ∈ vs, v.Typed) (hws : ∀ w ∈ ws, w.Typed)
    (hv : vs.length < 2 ^ 63) (hw : ws.length < 2 ^ 63)
    (hhash : (new deps epoch vs hv).setHash = (new deps epoch ws hw).setHash) :
    (Interchangeable deps (new deps epoch vs hv) (new deps epoch ws hw) ↔
      vs.map (·.address) = ws.map (·.address)) ∧
    (vs.Pairwise (·.address ≤ ·.address) → ws.Pairwise (·.address ≤ ·.address) →
      Interchangeable deps (new deps epoch vs hv) (new deps epoch ws hw)) := by
  -- the hash fixes what stands at each address, so that the order is all that is left
  have hsorted : sorted vs = sorted ws := sorted_eq_of_computeHash hsha hvs hws hhash
  refine ⟨⟨?_, ?_⟩, ?_⟩
  · intro h
    apply ext_getElem?
    intro i
    have hsigners : (onlySigner i).signers vs = (onlySigner i).signers ws := (h (onlySigner i)).2
    refine Option.ext fun a => ?_
    rw [← mem_signers_onlySigner, ← mem_signers_onlySigner, hsigners]
  · intro haddress
    obtain rfl : vs = ws := by
      refine eq_of_filter_address haddress fun a => ?_
      exact ((filter_sorted a).symm.trans (by rw [hsorted])).trans (filter_sorted a)
    exact fun cert => ⟨Iff.rfl, rfl⟩
  · intro hvo hwo
    obtain rfl : vs = ws := by
      rw [← hvo.insertionSort_eq, ← hwo.insertionSort_eq]
      exact hsorted
    exact fun cert => ⟨Iff.rfl, rfl⟩

/-! ## A set in two orders -/

/-- `smallDeps` with a digest that is its own input. -/
def plainDeps : FinalityDeps (ZMod 101) (ZMod 101) :=
  { smallDeps with sha3Hex := fun msg => String.ofList (msg.map Char.ofUInt8) }

lemma plainDeps_injective : Injective plainDeps.sha3Hex := by
  intro msg msg' h
  refine map_injective_iff.mpr (fun b b' hb => ?_) (String.ofList_injective h)
  have hval : b.toUInt32 = b'.toUInt32 := congrArg Char.val hb
  have hnat := congrArg UInt32.toNat hval
  rwa [UInt8.toNat_toUInt32, UInt8.toNat_toUInt32, UInt8.toNat_inj] at hnat

/-- Two validators with ten elevenths of the stake before a third, and behind it. -/
def heavyFirst : ValidatorSetSnapshot :=
  new plainDeps 5 [smallValidator 1 5 2, smallValidator 2 5 3, smallValidator 3 1 4] (by decide)

def heavyLast : ValidatorSetSnapshot :=
  new plainDeps 5 [smallValidator 3 1 4, smallValidator 2 5 3, smallValidator 1 5 2] (by decide)

def firstTwo : FinalityCert :=
  { FinalityCert.smallCert "a" 0b011 5 with setHash := heavyFirst.setHash }

lemma heavy_setHash : heavyFirst.setHash = heavyLast.setHash := by
  unfold heavyFirst heavyLast
  exact setHash_of_sorted (by decide +kernel)

/-- One hash, two verdicts: the two heavy validators sign, and the same bits read in the other
order are the light one and a heavy one. -/
theorem order_not_committed :
    Injective plainDeps.sha3Hex ∧ heavyFirst.epoch = heavyLast.epoch ∧
      heavyFirst.setHash = heavyLast.setHash ∧ firstTwo.verify plainDeps heavyFirst = .ok () ∧
      firstTwo.verify plainDeps heavyLast ≠ .ok () ∧
      firstTwo.signers heavyFirst.validators ≠ firstTwo.signers heavyLast.validators := by
  refine ⟨plainDeps_injective, rfl, heavy_setHash, ?_, ?_, ?_⟩
  · rw [FinalityCert.verify_ok]
    exact ⟨rfl, rfl, by decide +kernel, by decide +kernel, [2, 3], by decide +kernel, by decide,
      by decide +kernel⟩
  · intro h
    obtain ⟨-, -, hstake, -⟩ := (FinalityCert.verify_ok _ _).mp h
    exact absurd hstake (by decide +kernel)
  · intro h
    have hlight : (⟨Fin.ofNat _ 3⟩ : Address) ∈ firstTwo.signers heavyLast.validators :=
      ⟨(smallValidator 3 1 4, 0), by decide +kernel, rfl⟩
    obtain ⟨entry, hentry, haddress⟩ := h ▸ hlight
    revert entry
    decide +kernel

/-- The hash lets the order differ, and the order is what is missing. -/
theorem heavy_not_interchangeable : ¬ Interchangeable plainDeps heavyFirst heavyLast := by
  have htyped : ∀ v ∈ heavyFirst.validators ++ heavyLast.validators, v.Typed := by
    intro v hv
    have hbounds : v.stake < 2 ^ 64 ∧ v.blsPublicKey.length < 2 ^ 64 ∧
        v.popSignature.length < 2 ^ 64 ∧ v.pqPublicKey.length < 2 ^ 64 := by
      revert v
      decide +kernel
    exact ⟨hbounds.1, hbounds.2.1, hbounds.2.2.1, hbounds.2.2.2⟩
  intro h
  have haddress := (interchangeable_iff plainDeps_injective 5
    (fun v hv => htyped v (mem_append_left _ hv))
    (fun v hv => htyped v (mem_append_right _ hv)) (by decide) (by decide)
    heavy_setHash).1.mp h
  exact absurd haddress (by decide +kernel)

end ValidatorSetSnapshot

end Budlum
