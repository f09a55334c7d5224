import Budlum.Core.AccountState

/-!
# What a transaction does to the state, step by step

The steps that the arms of the executor are made of: debits with a nonce bump,
credits, and calls on one registry. Each has one rule that says when it fails and
which state it leaves.
-/

namespace Budlum

open Machine Exec

/-- `BudlumError::validation`. -/
structure BudlumError where
  code : String
  message : String
deriving DecidableEq, Repr

namespace Executor

variable {T : ModuleTypes} {M : Modules T}

abbrev Effect (T : ModuleTypes) (α : Type) : Type := Exec (AccountState T) BudlumError α

def validation (code message : String) : BudlumError := ⟨code, message⟩

/-- Debit `a` with checked arithmetic and bump its nonce. -/
def debit (a : Address) (amount : ℕ) (message : String) : Effect T Unit := do
  let account ← AccountState.getOrCreate a
  let balance ← ofOption (validation "balance_underflow" message)
    (checkedSub account.balance amount)
  AccountState.writeAccount a
    { account with balance, nonce := satAdd u64Max account.nonce 1 }

def credit (a : Address) (amount : ℕ) (error : BudlumError) : Effect T Unit := do
  let account ← AccountState.getOrCreate a
  let balance ← ofOption error (checkedAdd u64Max account.balance amount)
  AccountState.writeAccount a { account with balance }

/-- Take the fee off the sender and bump its nonce, the last step of most arms. -/
def chargeFee (tx : Transaction T) (message : String) : Effect T Unit :=
  debit tx.sender tx.fee message

section

variable {α : Type} (code : String)

def onBns (x : Exec BnsRegistry BnsError α) : Effect T α :=
  zoom AccountState.bnsRegistry (fun s bnsRegistry => { s with bnsRegistry })
    (fun e => validation code e.text) x.run

def onNft (x : Exec NftRegistry NftError α) : Effect T α :=
  zoom AccountState.nftRegistry (fun s nftRegistry => { s with nftRegistry })
    (fun e => validation code e.text) x.run

def onMarketplace (x : Exec MarketplaceRegistry String α) : Effect T α :=
  zoom AccountState.marketplace (fun s marketplace => { s with marketplace })
    (validation code) x.run

def onBridge (x : Exec BridgeState String α) : Effect T α :=
  zoom AccountState.bridgeState (fun s bridgeState => { s with bridgeState })
    (validation code) x.run

def onAi (x : Exec T.AiRegistry String α) : Effect T α :=
  zoom AccountState.aiRegistry (fun s aiRegistry => { s with aiRegistry })
    (validation code) x.run

def onHub (x : Exec T.HubRegistry String α) : Effect T α :=
  zoom AccountState.budlumxyz (fun s budlumxyz => { s with budlumxyz }) (validation code)
    x.run

def onNotes (x : Exec T.NoteRegistry String α) : Effect T α :=
  zoom AccountState.noteRegistry (fun s noteRegistry => { s with noteRegistry })
    (validation code) x.run

def onGovernance (x : Exec T.Governance String α) : Effect T α :=
  zoom AccountState.governance (fun s governance => { s with governance })
    (validation code) x.run

end

end Executor

namespace AccountState

variable {T : ModuleTypes} {ε : Type} (s : AccountState T) (a b : Address)

def account : Account := s.ledger.account a

@[simp] lemma account_touch : (s.touch a).account b = s.account b :=
  AccountLedger.account_getOrCreate _ _ _

lemma account_setAccount (acc : Account) :
    (s.setAccount a acc).account b = if b = a then acc else s.account b :=
  AccountLedger.account_write _ _ _ _

@[simp] lemma account_setAccount_self (acc : Account) : (s.setAccount a acc).account a = acc :=
  AccountLedger.account_write_self _ _ _

@[simp] lemma setAccount_touch (acc : Account) :
    (s.touch a).setAccount a acc = s.setAccount a acc := by
  simp only [touch, setAccount, AccountLedger.write_getOrCreate]

lemma getBalance_eq : s.getBalance a = (s.account a).balance := rfl

lemma getNonce_eq : s.getNonce a = (s.account a).nonce := rfl

@[simp] lemma getBalance_touch : (s.touch a).getBalance b = s.getBalance b := by
  simp only [getBalance_eq, account_touch]

@[simp] lemma spendableBalance_touch : (s.touch a).spendableBalance b = s.spendableBalance b := by
  unfold spendableBalance
  rw [getBalance_touch]
  rfl

lemma spendableBalance_le : s.spendableBalance a ≤ s.getBalance a := by
  unfold spendableBalance
  split_ifs
  · exact Nat.zero_le _
  · exact Nat.sub_le _ _

@[simp] lemma circulatingSupply_touch : (s.touch a).circulatingSupply = s.circulatingSupply := by
  simp only [circulatingSupply, touch, AccountLedger.getOrCreate, AccountLedger.markDirty]
  split_ifs with hc
  · rfl
  · have hnone : s.ledger.accounts.get? a = none := by simpa [SortedMap.contains] using hc
    simpa [hnone, Account.new] using
      s.ledger.accounts.sumBy_insert Account.balance a (Account.new a)

lemma circulatingSupply_setAccount (acc : Account) :
    (s.setAccount a acc).circulatingSupply + s.getBalance a =
      s.circulatingSupply + acc.balance := by
  have hwrite := (s.touch a).ledger.accounts.sumBy_insert Account.balance a acc
  have hold : (((s.touch a).ledger.accounts.get? a).map Account.balance).getD 0 =
      s.getBalance a := by
    rw [← getBalance_touch s a a, getBalance_eq, account, AccountLedger.account]
    cases (s.touch a).ledger.accounts.get? a <;> rfl
  rw [hold] at hwrite
  rw [← circulatingSupply_touch s a]
  exact hwrite

variable {s a}

variable {E : ε → AccountState T → Prop}

@[simp] lemma wp_getOrCreate {Q : Account → AccountState T → Prop} :
    wp (getOrCreate a) Q E s ↔ Q (s.account a) (s.touch a) := by
  simp only [getOrCreate, wp_rules]
  rw [← account, account_touch]

variable {Q : Unit → AccountState T → Prop}

@[simp] lemma wp_writeAccount {acc : Account} :
    wp (writeAccount a acc) Q E s ↔ Q () (s.setAccount a acc) := Iff.rfl

/-- The rules of an account that is read and written back, for `simp only`. -/
lemma wp_accounts : type_of% @wp_getOrCreate ∧ type_of% @wp_writeAccount ∧
    type_of% @setAccount_touch := ⟨@wp_getOrCreate, @wp_writeAccount, @setAccount_touch⟩

lemma forall_checked {p : Prop} {v : ℕ} {Q : ℕ → Prop} : (∀ x, p ∧ x = v → Q x) ↔ (p → Q v) :=
  ⟨fun h hp => h v ⟨hp, rfl⟩, fun h _ ⟨hp, e⟩ => e ▸ h hp⟩

lemma wp_tryAddBalance {E : String → AccountState T → Prop} {amount : ℕ} :
    wp (tryAddBalance a amount) Q E s ↔
      (s.getBalance a + amount ≤ u64Max →
        Q () (s.setAccount a { s.account a with balance := s.getBalance a + amount })) ∧
      (u64Max < s.getBalance a + amount →
        E s!"balance overflow: {s.getBalance a} + {amount} > u64::MAX" (s.touch a)) := by
  simp only [tryAddBalance, wp_bind, wp_accounts, wp_ofOption, checkedAdd_eq_some,
    checkedAdd_eq_none, getBalance_eq]
  exact and_congr_left fun _ => forall_checked

end AccountState

namespace Executor

open AccountState

variable {T : ModuleTypes} {s : AccountState T} {a : Address} {amount : ℕ}
variable {Q : Unit → AccountState T → Prop} {E : BudlumError → AccountState T → Prop}

/-- The sender's account after a debit. -/
def debited (account : Account) (amount : ℕ) : Account :=
  { account with balance := account.balance - amount, nonce := satAdd u64Max account.nonce 1 }

def credited (account : Account) (amount : ℕ) : Account :=
  { account with balance := account.balance + amount }

lemma wp_debit {message : String} : wp (debit a amount message) Q E s ↔
      (amount ≤ s.getBalance a → Q () (s.setAccount a (debited (s.account a) amount))) ∧
      (s.getBalance a < amount → E (validation "balance_underflow" message) (s.touch a)) := by
  simp only [debit, wp_bind, wp_accounts, wp_ofOption, checkedSub_eq_some, checkedSub_eq_none,
    getBalance_eq, debited]
  exact and_congr_left fun _ => forall_checked

lemma wp_credit {error : BudlumError} : wp (credit a amount error) Q E s ↔
      (s.getBalance a + amount ≤ u64Max → Q () (s.setAccount a (credited (s.account a) amount))) ∧
      (u64Max < s.getBalance a + amount → E error (s.touch a)) := by
  simp only [credit, wp_bind, wp_accounts, wp_ofOption, checkedAdd_eq_some, checkedAdd_eq_none,
    getBalance_eq, credited]
  exact and_congr_left fun _ => forall_checked

lemma wp_debit_of_le {message : String} (h : amount ≤ s.getBalance a) :
    wp (debit a amount message) Q E s ↔ Q () (s.setAccount a (debited (s.account a) amount)) := by
  rw [wp_debit]
  exact ⟨fun hd => hd.1 h, fun hq => ⟨fun _ => hq, fun hlt => absurd h hlt.not_ge⟩⟩

end Executor

end Budlum
