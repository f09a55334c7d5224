import Budlum.Core.Address
import Budlum.Lib.Exec
import Budlum.Lib.Machine
import Budlum.Lib.SortedMap

/-!
# The NFT registry

`NftRegistry` as the executor uses it. Every method reads before it writes, so a
refused call leaves the registry as it was.
-/

namespace Budlum

open Machine Exec

structure Nft where
  id : ℕ
  owner : Address
  contentId : Hash32
  mintedAtEpoch : ℕ
  authorName : Option String
  luminance : ℕ
  tags : List String
deriving DecidableEq

inductive NftError
  | notFound
  | notOwner
  | duplicateId
deriving DecidableEq, Repr

def NftError.text : NftError → String
  | .notFound => "NFT not found"
  | .notOwner => "Not the owner"
  | .duplicateId => "Duplicate ID"

structure NftRegistry where
  nfts : SortedMap ℕ Nft
  ownership : SortedMap Address (List ℕ)
  nextId : ℕ
deriving DecidableEq

namespace NftRegistry

def new : NftRegistry := ⟨∅, ∅, 0⟩

def getNft (r : NftRegistry) (id : ℕ) : Option Nft := r.nfts.get? id

/-- `ownership.entry(owner).or_default().push(id)`. -/
def addOwned (r : NftRegistry) (owner : Address) (id : ℕ) : NftRegistry :=
  { r with ownership := r.ownership.insert owner ((r.ownership.get? owner).getD [] ++ [id]) }

/-- Drop `id` from the list of `owner`, if there is one. -/
def dropOwned (r : NftRegistry) (owner : Address) (id : ℕ) : NftRegistry :=
  match r.ownership.get? owner with
  | some ids => { r with ownership := r.ownership.insert owner (ids.filter (· ≠ id)) }
  | none => r

def mint (owner : Address) (cid : Hash32) (epoch : ℕ) (name : Option String) :
    Exec NftRegistry NftError ℕ := do
  let id ← read NftRegistry.nextId
  failIf ((← read fun r => r.nfts.contains id) = true) .duplicateId
  let nft : Nft := ⟨id, owner, cid, epoch, name, 1000, []⟩
  modify fun r =>
    { ({ r with nfts := r.nfts.insert id nft }).addOwned owner id with
      nextId := id + 1 }
  pure id

/-- `update_luminance`: the sum is taken in `i128` and clamped to `u64`. -/
def updateLuminance (id : ℕ) (deltaMcd : ℤ) : Exec NftRegistry NftError Unit := do
  let nft ← ofOption .notFound (← read fun r => r.nfts.get? id)
  let luminance := min ((nft.luminance : ℤ) + deltaMcd).toNat u64Max
  modify fun r => { r with nfts := r.nfts.insert id { nft with luminance } }

def ownedNft (id : ℕ) (owner : Address) : Exec NftRegistry NftError Nft := do
  let nft ← ofOption .notFound (← read fun r => r.nfts.get? id)
  failIf (nft.owner ≠ owner) .notOwner
  pure nft

def transfer (id : ℕ) (sender recipient : Address) : Exec NftRegistry NftError Unit := do
  let nft ← ownedNft id sender
  modify fun r =>
    ({ (r.dropOwned sender id) with nfts := r.nfts.insert id { nft with owner := recipient } }).addOwned
      recipient id

def burn (id : ℕ) (owner : Address) : Exec NftRegistry NftError Hash32 := do
  let nft ← ownedNft id owner
  modify fun r => ({ r with nfts := r.nfts.erase id }).dropOwned owner id
  pure nft.contentId

/-! ## Refusals change nothing -/

lemma atomic_mint (owner : Address) (cid : Hash32) (epoch : ℕ) (name : Option String) :
    Atomic (mint owner cid epoch name) := by
  intro r
  simp [mint]

lemma atomic_updateLuminance (id : ℕ) (deltaMcd : ℤ) :
    Atomic (updateLuminance id deltaMcd) := by
  intro r
  simp [updateLuminance]

lemma atomic_transfer (id : ℕ) (sender recipient : Address) :
    Atomic (transfer id sender recipient) := by
  intro r
  simp [transfer, ownedNft]

lemma atomic_burn (id : ℕ) (owner : Address) : Atomic (burn id owner) := by
  intro r
  simp [burn, ownedNft]

end NftRegistry

end Budlum
