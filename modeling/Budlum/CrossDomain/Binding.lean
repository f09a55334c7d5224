import Budlum.CrossDomain.EventTree

/-!
# What ids and roots bind

A message id covers every field of its message, the correlation id up to its default. The
root of a domain's events fixes their hashes in order for a given number of events, and not
their number: an odd level is padded with its last node.
-/

namespace Budlum

open DomainEvent List

section

variable {hashFields : List Bytes → Hash32} (hinj : Function.Injective hashFields)

include hinj

/-- Verified messages with one id are equal unless one of them writes the default correlation
id out. -/
theorem CrossDomainMessage.eq_of_messageId_iff {m m' : CrossDomainMessage} (hm : m.Fits)
    (hm' : m'.Fits) (hid : m.messageId = m'.messageId) (hv : m.verifyId hashFields = true)
    (hv' : m'.verifyId hashFields = true) :
    m = m' ↔ m.correlationId.isSome = m'.correlationId.isSome := by
  obtain ⟨hfields, hcorrelation⟩ := same_of_messageId hinj hm hm' hid hv hv'
  constructor
  · rintro rfl
    rfl
  · intro hsome
    have hsame : m.correlationId = m'.correlationId := by
      cases h : m.correlationId <;> cases h' : m'.correlationId <;> simp_all
    rw [← hfields, ← hsame]

/-- An event whose message, if it has one, has the hash of its fields for its id, which is not
the zero id, and does not write the default correlation id out. -/
structure DomainEvent.Canonical (hashFields : List Bytes → Hash32) (e : DomainEvent) : Prop where
  fits : e.Fits
  verified : ∀ m, e.message = some m → m.verifyId hashFields = true
  nonzero : ∀ m, e.message = some m → m.messageId ≠ .zero
  correlation : ∀ m, e.message = some m → m.correlationId ≠ some .zero

end

theorem memo_eq_of_messageId : memo.withId frame = memo :=
  (CrossDomainMessage.eq_of_messageId_iff frame_injective (memoEvent_fits.message memo rfl)
    (memoEvent_fits.message memo rfl) rfl (by decide +kernel) (by decide +kernel)).mpr rfl

/-- No correlation id and the zero id written out. -/
theorem correlation_id_not_bound : ∃ m, memo ≠ m ∧ memo.messageId = m.messageId ∧
    memo.verifyId frame = true ∧ m.verifyId frame = true :=
  ⟨{ memo with correlationId := some Id32.zero }, by decide +kernel⟩

end Budlum
