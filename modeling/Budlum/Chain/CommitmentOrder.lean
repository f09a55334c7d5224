import Budlum.Chain.Commitments

/-!
# Commitments in any order

The commitments of a domain may be submitted in any order. Whatever the order, after
each call that records one the commitments applied are those that are ready, so that
in the end the same ones are applied (`acceptAll_eq`), unless one of them, or one that
was recorded before, stands in the way.
-/

namespace Budlum

open Machine Reorder DomainCommitment SortedMap List
open GlobalBlockHeader (zeroRoot)

/-! ## The records -/

namespace DomainCommitmentRegistry

variable {r : DomainCommitmentRegistry} {com : DomainCommitment}

def key (com : DomainCommitment) : ℕ ×ₗ ℕ ×ₗ ℕ :=
  toLex (com.domainId, toLex (com.domainHeight, com.sequence))

/-- Every commitment is recorded under its own key, as `insert` records it. -/
def Keyed (r : DomainCommitmentRegistry) : Prop := ∀ k com, r.get? k = some com → k = key com

lemma Keyed.empty : Keyed ∅ := fun _ _ h => nomatch h

lemma Keyed.insert (h : r.Keyed) (com : DomainCommitment) :
    Keyed (insert r (key com) com) := by
  intro k com' hget
  rcases get?_insert_eq_some.mp hget with ⟨rfl, rfl⟩ | ⟨-, hget⟩
  · rfl
  · exact h k com' hget

lemma findByHeight_eq_none {domainId height : ℕ} : r.findByHeight domainId height = none ↔
      ∀ com ∈ r.values, ¬ (com.domainId = domainId ∧ com.domainHeight = height) := by
  unfold findByHeight values
  rw [find?_eq_none]
  simp

section

variable (hkeyed : r.Keyed) (habsent : r.findByHeight com.domainId com.domainHeight = none)
include hkeyed habsent

lemma get?_key_of_absent : r.get? (key com) = none := by
  rw [findByHeight_eq_none] at habsent
  cases hget : r.get? (key com) with
  | none => rfl
  | some existing =>
    have hkey : key com = key existing := hkeyed _ _ hget
    have hmem : existing ∈ r.values := mem_map_of_mem (mem_entries.mpr hget)
    refine absurd ⟨?_, ?_⟩ (habsent existing hmem)
    · exact congrArg (fun k => (ofLex k).1) hkey.symm
    · exact congrArg (fun k => (ofLex (ofLex k).2).1) hkey.symm

lemma insertCommitment_of_absent :
    r.insertCommitment com = .ok (insert r (key com) com) := by
  have hkey : r.commitment com.domainId com.domainHeight com.sequence = none :=
    get?_key_of_absent hkeyed habsent
  rw [findByHeight_eq_none] at habsent
  rw [insertCommitment, hkey, if_neg (by simp), if_neg, key]
  rw [any_eq_true]
  rintro ⟨existing, hmem, hsame⟩
  simp only [Bool.and_eq_true, beq_iff_eq] at hsame
  exact habsent existing hmem hsame.1

lemma findByHeight_insert (height : ℕ) :
    findByHeight (insert r (key com) com) com.domainId height =
      if height = com.domainHeight then some com else r.findByHeight com.domainId height := by
  obtain ⟨before, after, hold, hnew⟩ :=
    values_insert_of_isNone (get?_key_of_absent hkeyed habsent) com
  change ((insert r (key com) com).values.find? _) = _
  rw [hnew, find?_append, find?_cons]
  split_ifs with hheight
  · subst hheight
    rw [findByHeight_eq_none, hold] at habsent
    have hbefore : before.find? (fun c => c.domainId = com.domainId ∧
        c.domainHeight = com.domainHeight) = none := by
      rw [find?_eq_none]
      intro existing hmem
      simpa using habsent existing (mem_append_left _ hmem)
    rw [hbefore]
    simp
  · change _ = r.values.find? _
    rw [hold, find?_append]
    simp [Ne.symm hheight]

end

end DomainCommitmentRegistry

namespace Blockchain

open DomainCommitmentRegistry (key Keyed)

variable {T : ModuleTypes}

/-! ## Runs of commitments -/

lemma commitAll_lastCommittedHeight (run : List DomainCommitment) (d : ConsensusDomain) :
    (commitAll d run).lastCommittedHeight = d.lastCommittedHeight + run.length := by
  induction run generalizing d with
  | nil => rfl
  | cons com rest ih =>
    refine (ih (d.commit com)).trans ?_
    rw [ConsensusDomain.commit_lastCommittedHeight, length_cons]
    omega

variable {d : ConsensusDomain} {com : DomainCommitment}

lemma Matches.commitAll (h : Matches d com)
    (run : List DomainCommitment) : Matches (commitAll d run) com := by
  induction run generalizing d with
  | nil => exact h
  | cons com' rest ih => exact @ih (d.commit com') ⟨h.active, h.kind, h.validators⟩

variable {run run' : List DomainCommitment} {nonce : Address → ℕ}

lemma applicable_append : Applicable d.lastCommittedHash nonce (run ++ run') ↔
      Applicable d.lastCommittedHash nonce run ∧
        Applicable (commitAll d run).lastCommittedHash (run.foldl nonceAfter nonce) run' := by
  induction run generalizing d nonce with
  | nil => exact ⟨fun h => ⟨trivial, h⟩, fun h => h.2⟩
  | cons com rest ih =>
    have hrest := @ih (d.commit com) (nonceAfter nonce com)
    simp only [cons_append, Applicable, and_assoc]
    exact and_congr_right fun _ => and_congr_right fun _ => hrest

lemma Applicable.of_isPrefix
    (h : Applicable d.lastCommittedHash nonce run') (hle : run <+: run') :
    Applicable d.lastCommittedHash nonce run := by
  obtain ⟨rest, rfl⟩ := hle
  exact (applicable_append.mp h).1

section

variable (domainId : ℕ) (run : List DomainCommitment) (d : ConsensusDomain) (c : Blockchain T)

lemma getNonce_applyAll :
    (applyAll domainId d run c).state.getNonce = run.foldl nonceAfter c.state.getNonce := by
  induction run generalizing d c with
  | nil => rfl
  | cons com rest ih =>
    refine (ih (d.commit com) (c.applyCommitment domainId d com)).trans ?_
    rw [getNonce_applyCommitment]
    rfl

lemma applyAll_append : applyAll domainId d (run ++ run') c =
      applyAll domainId (commitAll d run) run' (applyAll domainId d run c) := by
  induction run generalizing d c with
  | nil => rfl
  | cons com rest ih => exact ih (d.commit com) (c.applyCommitment domainId d com)

lemma applyAll_record (r : DomainCommitmentRegistry) :
    { applyAll domainId d run c with domainCommitmentRegistry := r } =
      applyAll domainId d run { c with domainCommitmentRegistry := r } := by
  induction run generalizing d c with
  | nil => rfl
  | cons com rest ih => exact ih (d.commit com) (c.applyCommitment domainId d com)

end

lemma get?_applyAll {domainId : ℕ} {c : Blockchain T}
    (hd : c.domainRegistry.get? domainId = some d) (run : List DomainCommitment) :
    (applyAll domainId d run c).domainRegistry.get? domainId = some (commitAll d run) := by
  induction run generalizing d c with
  | nil => exact hd
  | cons com rest ih =>
    exact ih (c := c.applyCommitment domainId d com) (get?_insert_self ..)

/-! ## One submission -/

/-- The chain after the commitments of `run`, with the records `r`. -/
def after (c : Blockchain T) (domainId : ℕ) (d : ConsensusDomain) (r : DomainCommitmentRegistry)
    (run : List DomainCommitment) : Blockchain T :=
  applyAll domainId d run { c with domainCommitmentRegistry := r }

section

variable (c : Blockchain T) (domainId : ℕ) (d : ConsensusDomain) (r : DomainCommitmentRegistry)
  (run : List DomainCommitment)

@[simp] lemma after_domainCommitmentRegistry :
    (c.after domainId d r run).domainCommitmentRegistry = r :=
  (applyAll_frame ..).1

@[simp] lemma after_storage : (c.after domainId d r run).storage = c.storage :=
  (applyAll_frame ..).2

@[simp] lemma getNonce_after :
    (c.after domainId d r run).state.getNonce = run.foldl nonceAfter c.state.getNonce :=
  getNonce_applyAll ..

lemma after_record (r' : DomainCommitmentRegistry) :
    { c.after domainId d r run with domainCommitmentRegistry := r' } = c.after domainId d r' run :=
  applyAll_record ..

lemma after_append (run' : List DomainCommitment) :
    applyAll domainId (commitAll d run) run' (c.after domainId d r run) =
      c.after domainId d r (run ++ run') :=
  (applyAll_append ..).symm

variable {c domainId d}

lemma get?_after (hd : c.domainRegistry.get? domainId = some d) :
    (c.after domainId d r run).domainRegistry.get? domainId = some (commitAll d run) :=
  get?_applyAll (c := { c with domainCommitmentRegistry := r }) hd run

end

/-- `run` was recorded and could be applied. -/
structure Reached (c : Blockchain T) (domainId : ℕ) (d : ConsensusDomain)
    (r : DomainCommitmentRegistry) (run : List DomainCommitment) : Prop where
  keyed : r.Keyed
  held : Holds (r.findByHeight domainId) (d.lastCommittedHeight + 1) run
  room : run.length ≤ u64Max - d.lastCommittedHeight
  applied : Applicable d.lastCommittedHash c.state.getNonce run

section

variable {c : Blockchain T} {d : ConsensusDomain} {r : DomainCommitmentRegistry}
  {run : List DomainCommitment} {com : DomainCommitment}
  (habsent : r.findByHeight com.domainId com.domainHeight = none)
include habsent

lemma findByHeight_le_insert (hkeyed : r.Keyed) (height : ℕ)
    (existing : DomainCommitment) (hget : r.findByHeight com.domainId height = some existing) :
    DomainCommitmentRegistry.findByHeight (r.insert (key com) com) com.domainId height =
      some existing := by
  rw [DomainCommitmentRegistry.findByHeight_insert hkeyed habsent, if_neg, hget]
  rintro rfl
  exact nomatch habsent.symm.trans hget

variable (h : Reached c com.domainId d r run)
include h

lemma Reached.append_pending :
    run ++ pending (r.insert (key com) com) com.domainId (commitAll d run) =
      pending (r.insert (key com) com) com.domainId d := by
  have hheld := h.held.mono (findByHeight_le_insert habsent h.keyed)
  rw [pending, pending, ← hheld.append_ready h.room, commitAll_lastCommittedHeight,
    Nat.add_right_comm, Nat.sub_add_eq]

lemma Reached.below (hahead : d.lastCommittedHeight < com.domainHeight) :
    (commitAll d run).lastCommittedHeight < com.domainHeight := by
  rw [commitAll_lastCommittedHeight]
  by_contra hle
  have hsome := h.held.isSome hahead (by omega)
  rw [habsent] at hsome
  cases hsome

lemma Reached.admitted (hd : c.domainRegistry.get? com.domainId = some d) (hfits : Matches d com)
    (hahead : d.lastCommittedHeight < com.domainHeight)
    (hfresh : com.domainHeight = (commitAll d run).lastCommittedHeight + 1 →
      Fresh (run.foldl nonceAfter c.state.getNonce) com) :
    Admitted (c.after com.domainId d r run) com (commitAll d run) (r.insert (key com) com) where
  domain := get?_after r run hd
  fits := hfits.commitAll run
  ahead := h.below habsent hahead
  absent := by
    rw [after_domainCommitmentRegistry]
    exact habsent
  fresh := by
    rw [getNonce_after]
    exact hfresh
  recorded := by
    rw [after_domainCommitmentRegistry]
    exact DomainCommitmentRegistry.insertCommitment_of_absent h.keyed habsent

variable (hd : c.domainRegistry.get? com.domainId = some d) (hfits : Matches d com)
  (hahead : d.lastCommittedHeight < com.domainHeight)
include hd hfits hahead

lemma Reached.accept_ok {all : List DomainCommitment}
    (hstore : ∀ com updated, Storable c com updated)
    (hall : pending (r.insert (key com) com) com.domainId d = all)
    (happ : Applicable d.lastCommittedHash c.state.getNonce all)
    (hlen : all.length < u64Max - d.lastCommittedHeight) :
    (c.after com.domainId d r run).acceptDomainCommitment com =
      (.ok (), c.after com.domainId d (r.insert (key com) com) all) := by
  subst hall
  rw [← h.append_pending habsent, applicable_append] at happ
  rw [← h.append_pending habsent, length_append] at hlen
  have hfresh : com.domainHeight = (commitAll d run).lastCommittedHeight + 1 →
      Fresh (run.foldl nonceAfter c.state.getNonce) com := by
    intro hnext
    have hget := DomainCommitmentRegistry.findByHeight_insert h.keyed habsent com.domainHeight
    rw [if_pos rfl, hnext] at hget
    obtain ⟨rest, heq⟩ := pending_of_next hget (by rw [commitAll_lastCommittedHeight]; omega)
    rw [heq] at happ
    exact happ.2.2.1
  have hd' := get?_after (r.insert (key com) com) run hd
  rw [acceptDomainCommitment_of_admitted (h.admitted habsent hd hfits hahead hfresh), after_record,
    settleCommitment_ok hd' (by rw [after_domainCommitmentRegistry])
      (by rw [getNonce_after]; exact happ.2)]
  · rw [after_append, h.append_pending habsent]
  · rw [commitAll_lastCommittedHeight]
    omega
  · intro store hs
    rw [after_storage] at hs
    exact hstore com _ store hs

lemma Reached.accept_ne (hnot : ¬ (Applicable d.lastCommittedHash c.state.getNonce
        (pending (r.insert (key com) com) com.domainId d) ∧
      (pending (r.insert (key com) com) com.domainId d).length < u64Max - d.lastCommittedHeight)) :
    ((c.after com.domainId d r run).acceptDomainCommitment com).1 ≠ .ok () := by
  by_cases hfresh : com.domainHeight = (commitAll d run).lastCommittedHeight + 1 →
      Fresh (run.foldl nonceAfter c.state.getNonce) com
  · have hd' := get?_after (r.insert (key com) com) run hd
    rw [acceptDomainCommitment_of_admitted (h.admitted habsent hd hfits hahead hfresh), after_record]
    by_cases happ : Applicable (commitAll d run).lastCommittedHash
        (run.foldl nonceAfter c.state.getNonce)
        (pending (r.insert (key com) com) com.domainId (commitAll d run))
    · -- everything could be applied, so the heights ran out
      rw [← h.append_pending habsent, applicable_append, length_append] at hnot
      rw [settleCommitment_abort hd' (by rw [after_domainCommitmentRegistry])
        (by rw [getNonce_after]; exact happ)]
      · exact fun heq => nomatch heq
      · rw [commitAll_lastCommittedHeight]
        exact fun hlen => hnot ⟨⟨h.applied, happ⟩, by omega⟩
    · obtain ⟨text, c', heq, -⟩ := settleCommitment_of_not_applicable hd'
        (by rw [getNonce_after, after_domainCommitmentRegistry]; exact happ)
      rw [heq]
      exact fun heq => nomatch heq
  · push Not at hfresh
    obtain ⟨hnext, hstale⟩ := hfresh
    refine acceptDomainCommitment_of_stale (get?_after r run hd) (hfits.commitAll run) hnext ?_ ?_
    · rw [after_domainCommitmentRegistry]
      exact habsent
    · rw [getNonce_after]
      exact hstale

end

/-! ## All submissions -/

/-- The chain after submitting commitments one after the other, if every call returns `Ok`. -/
def acceptAll : Blockchain T → List DomainCommitment → Option (Blockchain T)
  | c, [] => some c
  | c, com :: rest =>
    match c.acceptDomainCommitment com with
    | (.ok (), c) => acceptAll c rest
    | (.error _, _) => none

lemma acceptAll_cons_of_ok {c c' : Blockchain T}
    (h : c.acceptDomainCommitment com = (.ok (), c')) (rest : List DomainCommitment) :
    c.acceptAll (com :: rest) = c'.acceptAll rest := by
  rw [acceptAll, h]

lemma acceptAll_cons_of_ne {c : Blockchain T}
    (h : (c.acceptDomainCommitment com).1 ≠ .ok ()) (rest : List DomainCommitment) :
    c.acceptAll (com :: rest) = none := by
  rw [acceptAll]
  rcases hcall : c.acceptDomainCommitment com with ⟨e | ⟨⟩, c'⟩
  · rfl
  · rw [hcall] at h
    exact absurd rfl h

/-- What is recorded of a domain, or else submitted, at a height. -/
def merged (r : DomainCommitmentRegistry) (domainId : ℕ) (order : List DomainCommitment)
    (height : ℕ) : Option DomainCommitment :=
  (r.findByHeight domainId height).or (order.find? fun com => com.domainHeight = height)

section

variable {r : DomainCommitmentRegistry} {domainId : ℕ} {order : List DomainCommitment}
  {com : DomainCommitment}

lemma merged_cons_of_known (h : (r.findByHeight domainId com.domainHeight).isSome) :
    merged r domainId (com :: order) = merged r domainId order := by
  funext height
  unfold merged
  by_cases hheight : com.domainHeight = height
  · subst hheight
    obtain ⟨existing, heq⟩ := Option.isSome_iff_exists.mp h
    rw [heq, Option.some_or, Option.some_or]
  · rw [find?_cons_of_neg (by simpa using hheight)]

lemma merged_cons_of_absent (hkeyed : r.Keyed)
    (habsent : r.findByHeight com.domainId com.domainHeight = none) :
    merged r com.domainId (com :: order) = merged (r.insert (key com) com) com.domainId order := by
  funext height
  unfold merged
  rw [DomainCommitmentRegistry.findByHeight_insert hkeyed habsent]
  split_ifs with hheight
  · subst hheight
    rw [habsent, find?_cons_of_pos (by simp), Option.none_or, Option.some_or]
  · rw [find?_cons_of_neg (by simpa using Ne.symm hheight)]

lemma merged_of_known (h : ∀ com ∈ order, (r.findByHeight domainId com.domainHeight).isSome) :
    merged r domainId order = r.findByHeight domainId := by
  induction order with
  | nil => exact funext fun height => Option.or_none
  | cons com rest ih =>
    rw [merged_cons_of_known (h com mem_cons_self)]
    exact ih fun com' hmem => h com' (mem_cons_of_mem _ hmem)

lemma merged_perm {order' : List DomainCommitment} (hperm : order.Perm order')
    (hdistinct : (order.map domainHeight).Nodup) :
    merged r domainId order = merged r domainId order' := by
  funext height
  unfold merged
  congr 1
  refine find?_eq_find?_of_perm hperm ?_
  rintro com ⟨hmem, hheight⟩ com' ⟨hmem', hheight'⟩
  refine inj_on_of_nodup_map hdistinct hmem hmem' ?_
  rw [of_decide_eq_true hheight, of_decide_eq_true hheight']

lemma merged_of_mem (hmem : com ∈ order) (hdistinct : (order.map domainHeight).Nodup)
    (habsent : r.findByHeight domainId com.domainHeight = none) :
    merged r domainId order com.domainHeight = some com := by
  rw [merged_perm (perm_cons_erase hmem) hdistinct, merged, habsent,
    find?_cons_of_pos (by simp), Option.none_or]

lemma pending_isPrefix_merged (d : ConsensusDomain) :
    pending r domainId d <+: ready (merged r domainId order) (u64Max - d.lastCommittedHeight)
      (d.lastCommittedHeight + 1) := by
  refine ready_mono (fun height existing hget => ?_) _ _
  rw [merged, hget, Option.some_or]

end

/-- Commitments of one domain to distinct heights above its last one. -/
structure Submittable (d : ConsensusDomain) (domainId : ℕ) (order : List DomainCommitment) :
    Prop where
  named : ∀ com ∈ order, com.domainId = domainId
  fits : ∀ com ∈ order, Matches d com
  ahead : ∀ com ∈ order, d.lastCommittedHeight < com.domainHeight
  distinct : (order.map domainHeight).Nodup

/-- What is recorded at the heights of the commitments are these commitments. -/
def Agrees (r : DomainCommitmentRegistry) (domainId : ℕ) (order : List DomainCommitment) : Prop :=
  ∀ com ∈ order, ∀ existing, r.findByHeight domainId com.domainHeight = some existing →
    existing.domainBlockHash = com.domainBlockHash ∧ existing.sequence = com.sequence

section

variable {c : Blockchain T} {domainId : ℕ} {d : ConsensusDomain}
  {r : DomainCommitmentRegistry} {run order : List DomainCommitment}

variable {com : DomainCommitment}

lemma Submittable.tail (h : Submittable d domainId (com :: order)) :
    Submittable d domainId order where
  named com' hmem := h.named com' (mem_cons_of_mem _ hmem)
  fits com' hmem := h.fits com' (mem_cons_of_mem _ hmem)
  ahead com' hmem := h.ahead com' (mem_cons_of_mem _ hmem)
  distinct := (nodup_cons.mp h.distinct).2

lemma Agrees.tail (h : Agrees r domainId (com :: order)) : Agrees r domainId order :=
  fun com' hmem => h com' (mem_cons_of_mem _ hmem)

lemma Agrees.insert (h : Agrees r com.domainId (com :: order))
    (hkeyed : r.Keyed) (hdistinct : ((com :: order).map domainHeight).Nodup)
    (habsent : r.findByHeight com.domainId com.domainHeight = none) :
    Agrees (r.insert (key com) com) com.domainId order := by
  intro com' hmem existing hget
  have hother : com'.domainHeight ≠ com.domainHeight := fun heq =>
    (nodup_cons.mp hdistinct).1 (heq ▸ mem_map_of_mem hmem)
  rw [DomainCommitmentRegistry.findByHeight_insert hkeyed habsent, if_neg hother] at hget
  exact h.tail com' hmem existing hget

section

variable (hd : c.domainRegistry.get? domainId = some d)
include hd

lemma accept_known
    (hs : Submittable d domainId (com :: order)) (hagrees : Agrees r domainId (com :: order))
    (hknown : (r.findByHeight domainId com.domainHeight).isSome) :
    (c.after domainId d r run).acceptDomainCommitment com = (.ok (), c.after domainId d r run) := by
  obtain rfl := hs.named com mem_cons_self
  obtain ⟨existing, hget⟩ := Option.isSome_iff_exists.mp hknown
  obtain ⟨hhash, hsequence⟩ := hagrees com mem_cons_self existing hget
  refine acceptDomainCommitment_of_known (get?_after r run hd)
    ((hs.fits com mem_cons_self).commitAll run) ?_ hhash hsequence
  rw [after_domainCommitmentRegistry]
  exact hget

lemma acceptAll_known (hs : Submittable d domainId order) (hagrees : Agrees r domainId order)
    (hknown : ∀ com ∈ order, (r.findByHeight domainId com.domainHeight).isSome) :
    (c.after domainId d r run).acceptAll order = some (c.after domainId d r run) := by
  induction order with
  | nil => rfl
  | cons com rest ih =>
    rw [acceptAll_cons_of_ok (accept_known hd hs hagrees (hknown com mem_cons_self))]
    exact ih hs.tail hagrees.tail fun com' hmem => hknown com' (mem_cons_of_mem _ hmem)

/-- With one that is not recorded yet, what is ready in the end is applied, whatever the
order; or some call does not return `Ok`. -/
lemma Reached.acceptAll_eq
    (hstore : ∀ com updated, Storable c com updated) (h : Reached c domainId d r run)
    (hs : Submittable d domainId order) (hagrees : Agrees r domainId order)
    (habsent : ∃ com ∈ order, r.findByHeight domainId com.domainHeight = none)
    {all : List DomainCommitment}
    (hall : ready (merged r domainId order) (u64Max - d.lastCommittedHeight)
      (d.lastCommittedHeight + 1) = all) :
    if Applicable d.lastCommittedHash c.state.getNonce all ∧
        all.length < u64Max - d.lastCommittedHeight then
      ∃ r', (c.after domainId d r run).acceptAll order = some (c.after domainId d r' all)
    else (c.after domainId d r run).acceptAll order = none := by
  induction order generalizing r run with
  | nil =>
    obtain ⟨com, hmem, -⟩ := habsent
    cases hmem
  | cons com rest ih =>
    cases hknown : r.findByHeight domainId com.domainHeight with
    | some existing =>
      have hsome : (r.findByHeight domainId com.domainHeight).isSome := by rw [hknown]; rfl
      rw [acceptAll_cons_of_ok (accept_known hd hs hagrees hsome)]
      rw [merged_cons_of_known hsome] at hall
      refine ih h hs.tail hagrees.tail ?_ hall
      obtain ⟨com', hmem, hnone⟩ := habsent
      rcases mem_cons.mp hmem with rfl | hmem
      · exact nomatch hknown.symm.trans hnone
      · exact ⟨com', hmem, hnone⟩
    | none =>
      obtain rfl := hs.named com mem_cons_self
      have hfits := hs.fits com mem_cons_self
      have hahead := hs.ahead com mem_cons_self
      rw [merged_cons_of_absent h.keyed hknown] at hall
      have hle : pending (r.insert (key com) com) com.domainId d <+: all :=
        hall ▸ pending_isPrefix_merged d
      by_cases hready : Applicable d.lastCommittedHash c.state.getNonce
            (pending (r.insert (key com) com) com.domainId d) ∧
          (pending (r.insert (key com) com) com.domainId d).length <
            u64Max - d.lastCommittedHeight
      · rw [acceptAll_cons_of_ok (h.accept_ok hknown hd hfits hahead hstore rfl hready.1 hready.2)]
        have hnext : Reached c com.domainId d (r.insert (key com) com)
            (pending (r.insert (key com) com) com.domainId d) :=
          ⟨h.keyed.insert com, holds_ready .., length_ready_le .., hready.1⟩
        have hagrees' := hagrees.insert h.keyed hs.distinct hknown
        by_cases hrest : ∃ com' ∈ rest, DomainCommitmentRegistry.findByHeight
            (r.insert (key com) com) com.domainId com'.domainHeight = none
        · exact ih hnext hs.tail hagrees' hrest hall
        · -- the others are recorded: nothing more happens
          have hall' : ∀ com' ∈ rest, (DomainCommitmentRegistry.findByHeight
              (r.insert (key com) com) com.domainId com'.domainHeight).isSome := by
            intro com' hmem
            exact Option.isSome_iff_ne_none.mpr fun hnone => hrest ⟨com', hmem, hnone⟩
          rw [merged_of_known hall'] at hall
          obtain rfl : pending (r.insert (key com) com) com.domainId d = all := hall
          rw [if_pos hready]
          exact ⟨_, acceptAll_known hd hs.tail hagrees' hall'⟩
      · rw [acceptAll_cons_of_ne (h.accept_ne hknown hd hfits hahead hready), if_neg]
        rintro ⟨happ, hlen⟩
        exact hready ⟨happ.of_isPrefix hle, hle.length_le.trans_lt hlen⟩

end

end

/-! ## Confluence -/

/-- A set of commitments, in the order of their heights: consecutive heights above the last
one of the domain, each the parent of the next, that match the domain and carry nonces
which increase with the height. -/
structure Proposed (c : Blockchain T) (domainId : ℕ) (d : ConsensusDomain)
    (set : List DomainCommitment) : Prop where
  domain : c.domainRegistry.get? domainId = some d
  named : ∀ com ∈ set, com.domainId = domainId
  fits : ∀ com ∈ set, Matches d com
  heights : set.map domainHeight =
    range' (d.lastCommittedHeight + 1) set.length
  linked : Linked d.lastCommittedHash set
  increasing : set.Pairwise fun com com' => ∀ a n n', com.stateUpdates.get? a = some n →
    com'.stateUpdates.get? a = some n' → n < n'

/-- In whatever order the commitments are submitted, every call returns `Ok`, and the domain's
height and hash and the nonces are the same in the end. -/
def Confluent (c : Blockchain T) (domainId : ℕ) (set : List DomainCommitment) : Prop :=
  ∃ height hash nonce, ∀ order : List DomainCommitment, order.Perm set →
    ∃ c', c.acceptAll order = some c' ∧ c'.committed domainId = some (height, hash) ∧
      c'.state.getNonce = nonce

def readyWith (c : Blockchain T) (domainId : ℕ) (d : ConsensusDomain)
    (set : List DomainCommitment) : List DomainCommitment :=
  ready (merged c.domainCommitmentRegistry domainId set) (u64Max - d.lastCommittedHeight)
    (d.lastCommittedHeight + 1)

/-- Nothing stands in the way of the commitments: those that are recorded at their heights are
the same ones, and, unless all are, what is ready in the end can be applied. -/
structure Unobstructed (c : Blockchain T) (domainId : ℕ) (d : ConsensusDomain)
    (set : List DomainCommitment) : Prop where
  agrees : Agrees c.domainCommitmentRegistry domainId set
  applicable : (∃ com ∈ set,
      c.domainCommitmentRegistry.findByHeight domainId com.domainHeight = none) →
    Applicable d.lastCommittedHash c.state.getNonce (readyWith c domainId d set) ∧
      (readyWith c domainId d set).length < u64Max - d.lastCommittedHeight

section

variable {c : Blockchain T} {domainId : ℕ} {d : ConsensusDomain} {set : List DomainCommitment}

lemma Proposed.height_mem (h : Proposed c domainId d set) {com : DomainCommitment}
    (hmem : com ∈ set) : d.lastCommittedHeight < com.domainHeight ∧
      com.domainHeight ≤ d.lastCommittedHeight + set.length := by
  have hheight : com.domainHeight ∈ set.map domainHeight :=
    mem_map_of_mem hmem
  rw [h.heights, mem_range'_1] at hheight
  omega

lemma Proposed.submittable (h : Proposed c domainId d set) {order : List DomainCommitment}
    (hperm : order.Perm set) : Submittable d domainId order where
  named com hmem := h.named com (hperm.mem_iff.mp hmem)
  fits com hmem := h.fits com (hperm.mem_iff.mp hmem)
  ahead com hmem := (h.height_mem (hperm.mem_iff.mp hmem)).1
  distinct := by
    rw [(hperm.map _).nodup_iff, h.heights]
    exact nodup_range'

lemma Reached.start (hkeyed : c.domainCommitmentRegistry.Keyed) :
    Reached c domainId d c.domainCommitmentRegistry [] :=
  ⟨hkeyed, trivial, Nat.zero_le _, trivial⟩

lemma committed_after (hd : c.domainRegistry.get? domainId = some d)
    (r : DomainCommitmentRegistry) (run : List DomainCommitment) :
    (c.after domainId d r run).committed domainId =
      some ((commitAll d run).lastCommittedHeight, (commitAll d run).lastCommittedHash) := by
  rw [committed, get?_after r run hd]
  rfl

lemma confluent_of_run (hd : c.domainRegistry.get? domainId = some d) (run : List DomainCommitment)
    (h : ∀ order : List DomainCommitment, order.Perm set →
      ∃ r, c.acceptAll order = some (c.after domainId d r run)) : Confluent c domainId set := by
  refine ⟨(commitAll d run).lastCommittedHeight, (commitAll d run).lastCommittedHash,
    run.foldl nonceAfter c.state.getNonce, fun order hperm => ?_⟩
  obtain ⟨r, heq⟩ := h order hperm
  exact ⟨_, heq, committed_after hd r run, getNonce_after ..⟩

section

variable (h : Proposed c domainId d set) (hkeyed : c.domainCommitmentRegistry.Keyed)
  (hstore : ∀ com updated, Storable c com updated)
include h hkeyed hstore

lemma Unobstructed.confluent
    (hun : Unobstructed c domainId d set) : Confluent c domainId set := by
  have hagrees : ∀ order : List DomainCommitment, order.Perm set →
      Agrees c.domainCommitmentRegistry domainId order :=
    fun order hperm com hmem => hun.agrees com (hperm.mem_iff.mp hmem)
  by_cases habsent : ∃ com ∈ set,
      c.domainCommitmentRegistry.findByHeight domainId com.domainHeight = none
  · obtain ⟨com, hmem, hnone⟩ := habsent
    have happ := hun.applicable ⟨com, hmem, hnone⟩
    refine confluent_of_run h.domain (readyWith c domainId d set) fun order hperm => ?_
    have hsub := h.submittable hperm
    have hsame : ready (merged c.domainCommitmentRegistry domainId order)
        (u64Max - d.lastCommittedHeight) (d.lastCommittedHeight + 1) = readyWith c domainId d set := by
      rw [merged_perm hperm hsub.distinct, readyWith]
    have hall := (Reached.start hkeyed).acceptAll_eq h.domain hstore hsub (hagrees order hperm)
      ⟨com, hperm.mem_iff.mpr hmem, hnone⟩ hsame
    rw [if_pos happ] at hall
    exact hall
  · have hknown : ∀ com ∈ set,
        (c.domainCommitmentRegistry.findByHeight domainId com.domainHeight).isSome :=
      fun com hmem => Option.isSome_iff_ne_none.mpr fun hnone => habsent ⟨com, hmem, hnone⟩
    refine confluent_of_run h.domain [] fun order hperm => ⟨c.domainCommitmentRegistry, ?_⟩
    have hkept : (c.after domainId d c.domainCommitmentRegistry []).acceptAll order =
        some (c.after domainId d c.domainCommitmentRegistry []) :=
      acceptAll_known h.domain (h.submittable hperm) (hagrees order hperm)
        fun com hmem => hknown com (hperm.mem_iff.mp hmem)
    exact hkept

lemma Confluent.unobstructed
    (hcon : Confluent c domainId set) : Unobstructed c domainId d set := by
  obtain ⟨height, hash, nonce, hcon⟩ := hcon
  have hagrees : Agrees c.domainCommitmentRegistry domainId set := by
    intro com hmem existing hget
    obtain rfl := h.named com hmem
    by_contra hother
    -- submitted first, it meets the one that is recorded
    obtain ⟨c', haccept, -⟩ := hcon (com :: set.erase com) (perm_cons_erase hmem).symm
    have hahead := (h.submittable (.refl _)).ahead com hmem
    rw [acceptAll_cons_of_ne (acceptDomainCommitment_of_equivocates h.domain (h.fits com hmem) hahead
      ⟨existing, hget, not_and_or.mp hother⟩)] at haccept
    cases haccept
  refine ⟨hagrees, fun habsent => ?_⟩
  by_contra hnot
  obtain ⟨c', haccept, -⟩ := hcon set (.refl _)
  have hsame : ready (merged c.domainCommitmentRegistry domainId set)
      (u64Max - d.lastCommittedHeight) (d.lastCommittedHeight + 1) = readyWith c domainId d set := rfl
  have hall := (Reached.start hkeyed).acceptAll_eq h.domain hstore (h.submittable (.refl _)) hagrees
    habsent hsame
  rw [if_neg hnot] at hall
  exact nomatch hall.symm.trans haccept

end

lemma applicable_of_increasing {lastHash : Hash32} {nonce : Address → ℕ}
    (hlinked : Linked lastHash set) (hfresh : ∀ com ∈ set, Fresh nonce com)
    (hincreasing : set.Pairwise fun com com' => ∀ a n n', com.stateUpdates.get? a = some n →
      com'.stateUpdates.get? a = some n' → n < n') : Applicable lastHash nonce set := by
  induction set generalizing lastHash nonce with
  | nil => trivial
  | cons com rest ih =>
    obtain ⟨habove, hincreasing⟩ := pairwise_cons.mp hincreasing
    refine ⟨hlinked.1, hfresh com mem_cons_self, ih hlinked.2 (fun com' hmem u hu => ?_) hincreasing⟩
    unfold nonceAfter
    cases hget : com.stateUpdates.get? u.1 with
    | none => exact hfresh com' (mem_cons_of_mem _ hmem) u hu
    | some n => exact habove com' hmem u.1 n u.2 hget (mem_entries.mp hu)

lemma holds_of_heights {q : ℕ → Option DomainCommitment} {p : ℕ}
    (hheights : set.map domainHeight = range' p set.length)
    (hq : ∀ com ∈ set, q com.domainHeight = some com) : Holds q p set := by
  induction set generalizing p with
  | nil => trivial
  | cons com rest ih =>
    obtain ⟨hheight, hrest⟩ := cons.inj hheights
    refine ⟨hheight ▸ hq com mem_cons_self, ih hrest fun com' hmem => ?_⟩
    exact hq com' (mem_cons_of_mem _ hmem)

lemma Proposed.readyWith_eq (h : Proposed c domainId d set)
    (habsent : ∀ height, d.lastCommittedHeight < height →
      height ≤ d.lastCommittedHeight + set.length + 1 →
      c.domainCommitmentRegistry.findByHeight domainId height = none)
    (hroom : d.lastCommittedHeight + set.length < u64Max) : readyWith c domainId d set = set := by
  refine ready_eq (holds_of_heights h.heights fun com hmem => ?_) (by omega) ?_
  · obtain ⟨hahead, hle⟩ := h.height_mem hmem
    exact merged_of_mem hmem (h.submittable (.refl _)).distinct
      (habsent com.domainHeight hahead (by omega))
  · rw [merged, habsent _ (by omega) (by omega), Option.none_or, find?_eq_none]
    intro com hmem hheight
    have hle := (h.height_mem hmem).2
    rw [decide_eq_true_eq] at hheight
    omega

/-- The commitments can be submitted in any order exactly if nothing that is recorded stands in
the way. In particular they can if nothing is recorded at their heights and right after
them, their nonces are above those of the accounts, and the heights do not run out. -/
theorem commitments_confluent_iff (h : Proposed c domainId d set)
    (hkeyed : c.domainCommitmentRegistry.Keyed) (hstore : ∀ com updated, Storable c com updated) :
    (Confluent c domainId set ↔ Unobstructed c domainId d set) ∧
    ((∀ height, d.lastCommittedHeight < height → height ≤ d.lastCommittedHeight + set.length + 1 →
        c.domainCommitmentRegistry.findByHeight domainId height = none) →
      (∀ com ∈ set, Fresh c.state.getNonce com) →
      d.lastCommittedHeight + set.length < u64Max → Confluent c domainId set) := by
  refine ⟨⟨fun hcon => hcon.unobstructed h hkeyed hstore, fun hun => hun.confluent h hkeyed hstore⟩,
    fun habsent hfresh hroom => Unobstructed.confluent h hkeyed hstore ⟨?_, fun _ => ?_⟩⟩
  · intro com hmem existing hget
    obtain ⟨hahead, hle⟩ := h.height_mem hmem
    exact nomatch hget.symm.trans (habsent com.domainHeight hahead (by omega))
  · rw [h.readyWith_eq habsent hroom]
    exact ⟨applicable_of_increasing h.linked hfresh h.increasing, by omega⟩

end

lemma sampleCommitment_get? {height n m : ℕ} {account a : Address}
    (h : (sampleCommitment height account n).stateUpdates.get? a = some m) : a = account ∧ m = n := by
  rcases get?_insert_eq_some.mp h with h | ⟨-, h⟩
  · exact h
  · cases h

/-- Two commitments to the first two heights of a new domain. -/
theorem commitments_confluent_iff_two :
    Confluent newDomainChain 1 [sampleCommitment 1 ⟨2⟩ 7, sampleCommitment 2 ⟨2⟩ 8] := by
  have hproposed : Proposed newDomainChain 1 newDomain
      [sampleCommitment 1 ⟨2⟩ 7, sampleCommitment 2 ⟨2⟩ 8] := by
    refine ⟨rfl, by simp [sampleCommitment], ?_, rfl, ⟨.inl rfl, .inr rfl, trivial⟩, ?_⟩
    · simp only [mem_cons, not_mem_nil, or_false, forall_eq_or_imp, forall_eq]
      exact ⟨⟨rfl, rfl, .inl rfl⟩, rfl, rfl, .inl rfl⟩
    · rw [pairwise_pair]
      intro a n n' hn hn'
      rw [(sampleCommitment_get? hn).2, (sampleCommitment_get? hn').2]
      decide
  refine (commitments_confluent_iff hproposed .empty (fun _ _ _ hs => nomatch hs)).2
    (fun height _ _ => rfl) ?_ (by decide)
  decide +kernel

/-- The early commitment to height 2 stands in the way of the one to height 1. -/
theorem commitments_not_confluent : Proposed queuedChain 1 newDomain [sampleCommitment 1 ⟨2⟩ 7] ∧
    ¬ Confluent queuedChain 1 [sampleCommitment 1 ⟨2⟩ 7] := by
  refine ⟨⟨by decide +kernel, by simp [sampleCommitment], ?_, rfl, ⟨.inl rfl, trivial⟩,
    pairwise_singleton ..⟩, ?_⟩
  · simp only [mem_singleton, forall_eq]
    exact ⟨rfl, rfl, .inl rfl⟩
  · rintro ⟨height, hash, nonce, hcon⟩
    obtain ⟨c', haccept, -⟩ := hcon _ (.refl _)
    have hnone : (queuedChain.acceptAll [sampleCommitment 1 ⟨2⟩ 7]).isSome = false := by
      decide +kernel
    rw [haccept] at hnone
    cases hnone

end Blockchain

end Budlum
