import Budlum.Execution.Atomicity
import Budlum.Execution.Steps
import Budlum.Execution.Validation

/-!
# What execution does not look at

Transactions read accounts through balances and nonces only, and never read the queue
of domain unfreezes or the four roots that a block header commits to. Two states that
differ in nothing else are `Like` each other: a transaction is valid in both or in
neither, has the same outcome in both, and leaves states that are alike again.

How the account maps may differ is a parameter. Equal maps are the case of two replays
of one chain, equal accounts that of a state with traces of failed transactions.
-/

namespace Budlum

open Machine Exec AccountLedger

/-- A relation between account maps that execution cannot tell apart and keeps. -/
structure LedgerLike (L : AccountLedger → AccountLedger → Prop) : Prop where
  account : ∀ {l l'}, L l l' → ∀ a, l'.account a = l.account a
  getOrCreate : ∀ {l l'}, L l l' → ∀ a, L (l.getOrCreate a) (l'.getOrCreate a)
  write : ∀ {l l'}, L l l' → ∀ a account, L (l.write a account) (l'.write a account)
  flagKeys : ∀ {l l'}, L l l' → L { l with keysDirty := true } { l' with keysDirty := true }

lemma LedgerLike.eq : LedgerLike Eq where
  account h _ := h ▸ rfl
  getOrCreate h _ := h ▸ rfl
  write h _ _ := h ▸ rfl
  flagKeys h := h ▸ rfl

/-- The same where only accounts are written of which `W` holds, as it does of every account
that is read and of what becomes of it. -/
structure LedgerRel (L : AccountLedger → AccountLedger → Prop) (W : Address → Account → Prop) :
    Prop where
  account : ∀ {l l'}, L l l' → ∀ a, l'.account a = l.account a
  getOrCreate : ∀ {l l'}, L l l' → ∀ a, L (l.getOrCreate a) (l'.getOrCreate a)
  write : ∀ {l l'}, L l l' → ∀ a account, W a account → L (l.write a account) (l'.write a account)
  flagKeys : ∀ {l l'}, L l l' → L { l with keysDirty := true } { l' with keysDirty := true }
  read : ∀ {l l'}, L l l' → ∀ a, W a (l.account a)
  update : ∀ {a account}, W a account → ∀ balance nonce, W a ⟨account.publicKey, balance, nonce⟩

lemma LedgerLike.rel (h : LedgerLike L) : LedgerRel L fun _ _ => True where
  account := h.account
  getOrCreate := h.getOrCreate
  write hl a account _ := h.write hl a account
  flagKeys := h.flagKeys
  read _ _ := trivial
  update _ _ _ := trivial

/-- The same accounts, an empty one being the same as none. -/
def SameAccounts (l l' : AccountLedger) : Prop := ∀ a, l'.account a = l.account a

lemma LedgerLike.sameAccounts : LedgerLike SameAccounts where
  account h := h
  getOrCreate h a b := by
    rw [account_getOrCreate, account_getOrCreate]
    exact h b
  write h a account b := by
    rw [account_write, account_write, h b]
  flagKeys h := h

namespace AccountState

variable {T : ModuleTypes}

/-- Equal but for the account map, which differs as `L` allows, and the header fields. -/
inductive Like (L : AccountLedger → AccountLedger → Prop) :
    AccountState T → AccountState T → Prop
  | mk (s : AccountState T) {l : AccountLedger} (h : HeaderPart) (hl : L s.ledger l) :
      Like L s (s.recast l h)

section

variable {L : AccountLedger → AccountLedger → Prop} {W : Address → Account → Prop}
  {s t : AccountState T}

/-- An assignment that neither reads nor writes accounts and header fields. -/
structure Blind (f : AccountState T → AccountState T) : Prop where
  recast : ∀ s l h, f (s.recast l h) = (f s).recast l h
  ledger : ∀ s, (f s).ledger = s.ledger

lemma Blind.like {f : AccountState T → AccountState T} (hf : Blind f) (h : Like L s t) :
    Like L (f s) (f t) := by
  obtain ⟨hp, hl⟩ := h
  rw [hf.recast]
  exact .mk (f s) hp (by rwa [hf.ledger])

lemma Like.account (hL : LedgerRel L W) (h : Like L s t) (a : Address) :
    t.account a = s.account a := by
  obtain ⟨h, hl⟩ := h
  exact hL.account hl a

lemma Like.getNonce (hL : LedgerRel L W) (h : Like L s t) : t.getNonce = s.getNonce := by
  funext a
  rw [getNonce_eq, getNonce_eq, h.account hL]

end

end AccountState

open AccountState

variable {T : ModuleTypes} {L : AccountLedger → AccountLedger → Prop}
  {W : Address → Account → Prop}

lemma LedgerRel.steps (hL : LedgerRel L W) : StepRel (Like (T := T) L) W fun _ => True where
  recast h := by
    obtain ⟨hp, hl⟩ := h
    exact ⟨_, hp, rfl⟩
  account h := h.account hL
  touch h a := by
    obtain ⟨hp, hl⟩ := h
    exact .mk (touch _ a) hp (hL.getOrCreate hl a)
  readable h a := by
    obtain ⟨hp, hl⟩ := h
    exact hL.read hl a
  update hw _ _ _ := hL.update hw _ _
  write h a account hw := by
    obtain ⟨hp, hl⟩ := h
    exact .mk (setAccount _ a account) hp (hL.write hl a account hw)
  flagKeys h := by
    obtain ⟨hp, hl⟩ := h
    exact .mk _ hp (hL.flagKeys hl)
  stake _ _ _ _ := trivial
  bounded _ := trivial
  lower _ _ := trivial
  validator h _ _ _ := by
    obtain ⟨hp, hl⟩ := h
    exact .mk _ hp hl
  share h _ _ := by
    obtain ⟨hp, hl⟩ := h
    exact .mk _ hp hl
  beside h f hf := by
    obtain ⟨hp, hl⟩ := h
    obtain ⟨hrecast, hledger, -⟩ := hf _ _ hp
    rw [hrecast]
    exact .mk _ hp (by rwa [hledger])

/-- Execution cannot tell a state from one with the same accounts, and keeps them the same. -/
lemma AccountState.Same.steps : StepRel (Same (T := T)) (fun _ _ => True) fun _ => True where
  recast h := ⟨_, ⟨_, _, _, _, _⟩, h.2.symm⟩
  account h := h.1
  touch h _ := touch_left_iff.mpr (touch_right_iff.mpr h)
  readable _ _ := trivial
  update _ _ _ _ := trivial
  write h a account _ := by
    refine ⟨fun b => ?_, by rw [← h.2]; rfl⟩
    rw [account_setAccount, account_setAccount, h.1 b]
  flagKeys h := ⟨h.1, by rw [← h.2]⟩
  stake _ _ _ _ := trivial
  bounded _ := trivial
  lower _ _ := trivial
  validator h _ _ _ := ⟨h.1, by rw [← h.2]⟩
  share h _ _ := ⟨h.1, by rw [← h.2]⟩
  beside {s t} h f hf := by
    let header : HeaderPart := ⟨s.pendingDomainUnfreezes, s.bridgeRoot, s.messageRoot,
      s.settlementRoot, s.globalHeaderSummary⟩
    have hself : f s = (f s).recast s.ledger header := (hf s s.ledger header).1
    have hother : f t = (f s).recast t.ledger header :=
      (congrArg f h.2.symm).trans (hf s t.ledger header).1
    have hledger : (f s).ledger = s.ledger := (hf s s.ledger header).2.1
    rw [hother]
    refine ⟨fun a => ?_, congrArg (fun u => { u with ledger := t.ledger }) hself⟩
    show t.account a = (f s).ledger.account a
    rw [hledger]
    exact h.1 a

lemma AccountState.Same.validateTransaction {s t : AccountState T} (h : Same s t) (M : Modules T)
    (tx : Transaction T) : t.validateTransaction M tx = s.validateTransaction M tx := by
  have hnonce : t.getNonce = s.getNonce := funext fun a => by rw [getNonce_eq, getNonce_eq, h.1]
  unfold AccountState.validateTransaction
  rw [hnonce, Same.steps.spendableBalance h, ← h.2]
  rfl

lemma AccountState.Like.validateTransaction {s t : AccountState T} (hL : LedgerRel L W)
    (h : Like L s t) (M : Modules T)
    (tx : Transaction T) : t.validateTransaction M tx = s.validateTransaction M tx := by
  unfold AccountState.validateTransaction
  rw [h.getNonce hL, hL.steps.spendableBalance h]
  obtain ⟨h, hl⟩ := h
  rfl

namespace Executor

variable {M : Modules T} {tx : Transaction T} {ε : Type}

lemma respects_modify {f : AccountState T → AccountState T}
    (h : ∀ s l h, f (s.recast l h) = (f s).recast l h) (hledger : ∀ s, (f s).ledger = s.ledger) :
    Respects (Like L) (modify f : Exec (AccountState T) ε Unit) :=
  .modify fun _ _ hst => Blind.like ⟨h, hledger⟩ hst

lemma respects_read {α : Type} {g : AccountState T → α} (h : ∀ s l h, g (s.recast l h) = g s) :
    Respects (Like L) (read g : Exec (AccountState T) ε α) := by
  refine .read ?_
  rintro s _ ⟨hp, hl⟩
  exact (h s _ hp).symm

lemma respects_applyTransactionChecked (hL : LedgerRel L W) :
    Respects (Like L) (applyTransactionChecked M tx) :=
  hL.steps.applyTransactionChecked trivial

end Executor

end Budlum
