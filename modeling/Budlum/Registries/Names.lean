import Budlum.Core.Address
import Budlum.Lib.Exec
import Budlum.Lib.Machine
import Budlum.Lib.SortedMap

/-!
# The name registry

The part of `BnsRegistry` that transactions reach: pricing, registration with its
grace period and its eviction at capacity, subdomains, and the two bindings of a
name. A refused call leaves the registry as it was.
-/

namespace Budlum

open Machine Exec

structure NameRecord where
  name : String
  owner : Address
  expiresAt : ℕ
  resolver : Option Address
  address : Option Address
  consensusDomainId : Option ℕ
  storageRoot : Option Hash32
  storageDomainId : Option ℕ
  storageRootHeight : Option ℕ
  contentId : Option Hash32
  subdomains : SortedMap String Address

def NameRecord.new (name : String) (owner : Address) (expiresAt : ℕ) : NameRecord :=
  { name, owner, expiresAt, resolver := none, address := some owner, consensusDomainId := none,
    storageRoot := none, storageDomainId := none, storageRootHeight := none, contentId := none,
    subdomains := ∅ }

inductive BnsError
  | invalidName
  | nameTaken
  | notOwner
  | expired
deriving DecidableEq, Repr

/-- The `Display` text of an error. -/
def BnsError.text : BnsError → String
  | .invalidName => "Name too short or long"
  | .nameTaken => "Name already taken"
  | .notOwner => "Not the owner"
  | .expired => "Name expired"

structure BnsRegistry where
  names : SortedMap String NameRecord
  baseCost : ℕ

namespace BnsRegistry

def gracePeriod : ℕ := 3000

def maxNames : ℕ := 100000

def maxSubdomainsPerName : ℕ := 1000

def new : BnsRegistry := ⟨∅, 100⟩

def calculateCost (r : BnsRegistry) (name : String) (duration : ℕ) : ℕ :=
  let multiplier :=
    if 1 ≤ name.length ∧ name.length ≤ 3 then 100
    else if 4 ≤ name.length ∧ name.length ≤ 6 then 10
    else 1
  let base := satMul u64Max (satMul u64Max r.baseCost multiplier) duration
  if multiplier ≥ 10 ∨ duration ≥ 100 then satMul u64Max base 2 else base

/-- The first name, in key order, that may be evicted at `currentEpoch`. -/
def evictable (r : BnsRegistry) (currentEpoch : ℕ) : Option String :=
  (r.names.entries.find? fun e =>
    decide (satAdd u64Max e.2.expiresAt gracePeriod < currentEpoch)).map Prod.fst

def setRecord (r : BnsRegistry) (name : String) (record : NameRecord) : BnsRegistry :=
  { r with names := r.names.insert name record }

/-- A taken name, unless it expired and is claimed back or past its grace period. -/
def checkFree (name : String) (owner : Address) (currentEpoch : ℕ) :
    Exec BnsRegistry BnsError Unit := do
  match (← read fun r => r.names.get? name) with
  | none => pure ()
  | some record => do
      failIf (record.expiresAt > currentEpoch) .nameTaken
      failIf
        (currentEpoch < satAdd u64Max record.expiresAt gracePeriod ∧ record.owner ≠ owner)
        .nameTaken

/-- Make room for one more name when the registry is full. -/
def makeRoom (currentEpoch : ℕ) : Exec BnsRegistry BnsError Unit := do
  let r ← read id
  if maxNames ≤ r.names.entries.length then
    let key ← ofOption .nameTaken (r.evictable currentEpoch)
    modify fun r => { r with names := r.names.erase key }
  else pure ()

/-- `register`. The expiry is a plain addition of two `u64`. -/
def register (name : String) (owner : Address) (currentEpoch duration : ℕ) :
    Exec BnsRegistry BnsError Unit := do
  failIf (¬ (3 ≤ name.length ∧ name.length ≤ 32)) .invalidName
  failIf (duration = 0) .invalidName
  checkFree name owner currentEpoch
  makeRoom currentEpoch
  modify fun r =>
    r.setRecord name (NameRecord.new name owner (currentEpoch + duration))

def ownedRecord (name : String) (caller : Address) : Exec BnsRegistry BnsError NameRecord := do
  let record ← ofOption .invalidName (← read fun r => r.names.get? name)
  failIf (record.owner ≠ caller) .notOwner
  pure record

def registerSubdomain (parentName subLabel : String) (owner caller : Address) :
    Exec BnsRegistry BnsError Unit := do
  let parent ← ownedRecord parentName caller
  failIf (parent.subdomains.entries.length ≥ maxSubdomainsPerName) .invalidName
  modify fun r =>
    r.setRecord parentName { parent with subdomains := parent.subdomains.insert subLabel owner }

def setContent (name : String) (owner : Address) (cid : Hash32) :
    Exec BnsRegistry BnsError Unit := do
  let record ← ownedRecord name owner
  modify fun r => r.setRecord name { record with contentId := some cid }

def setStorage (name : String) (caller : Address) (storageRoot : Hash32)
    (storageDomainId currentEpoch : ℕ) : Exec BnsRegistry BnsError Unit := do
  let record ← ownedRecord name caller
  failIf (record.expiresAt ≤ currentEpoch) .expired
  modify fun r =>
    r.setRecord name { record with
      storageRoot := some storageRoot
      storageDomainId := some storageDomainId
      storageRootHeight := some currentEpoch }

/-! ## Refusals change nothing -/

lemma wp_checkFree {name : String} {owner : Address} {currentEpoch : ℕ} {r : BnsRegistry}
    {Q : Unit → BnsRegistry → Prop} {E : BnsError → BnsRegistry → Prop}
    (hQ : Q () r) (hE : ∀ e, E e r) : wp (checkFree name owner currentEpoch) Q E r := by
  unfold checkFree
  rw [wp_bind, wp_read]
  split
  · exact hQ
  · simp [hQ, hE]

/-- The eviction is the last thing that can fail, and it fails before it removes. -/
lemma atomic_register (name : String) (owner : Address) (currentEpoch duration : ℕ) :
    Atomic (register name owner currentEpoch duration) := by
  intro r
  simp only [register, wp_bind, wp_failIf]
  refine ⟨fun _ => trivial, fun _ => ⟨fun _ => trivial, fun _ => wp_checkFree ?_ fun _ => rfl⟩⟩
  simp [makeRoom, wp_ite]

lemma atomic_registerSubdomain (parentName subLabel : String) (owner caller : Address) :
    Atomic (registerSubdomain parentName subLabel owner caller) := by
  intro r
  simp [registerSubdomain, ownedRecord]

lemma atomic_setContent (name : String) (owner : Address) (cid : Hash32) :
    Atomic (setContent name owner cid) := by
  intro r
  simp [setContent, ownedRecord]

lemma atomic_setStorage (name : String) (caller : Address) (storageRoot : Hash32)
    (storageDomainId currentEpoch : ℕ) :
    Atomic (setStorage name caller storageRoot storageDomainId currentEpoch) := by
  intro r
  simp [setStorage, ownedRecord]

end BnsRegistry

end Budlum
