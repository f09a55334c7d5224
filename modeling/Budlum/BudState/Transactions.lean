import Budlum.BudState.State

/-!
# Nested transactions of bud-state

`begin_transaction`, `commit` and `rollback` over the stack of snapshots and the file that
a state is saved in. Blocks that are opened and closed in turn have a meaning of their own:
what is in memory afterwards, and which accounts are saved on the way. The stack machine
computes that meaning, and leaves the stack as it was.

Memory is restored by a rollback whatever was committed inside. The file is not, since an
inner commit saves at once; and a commit that fails to save has closed its transaction
before it tried.
-/

namespace Budlum.BudState

open List SortedMap

/-- The I/O errors that one call of `save_to` meets, step by step. -/
structure SaveFaults where
  serialize : Option String
  create : Option String
  write : Option String
  sync : Option String
  rename : Option String

namespace SaveFaults

def clean : SaveFaults := ⟨none, none, none, none, none⟩

/-- The error that `save_to` returns: of the first step that fails. -/
def error? (faults : SaveFaults) : Option String :=
  (faults.serialize.map ("Failed to serialize state: " ++ ·)).or <|
  (faults.create.map ("Failed to create temp state file: " ++ ·)).or <|
  (faults.write.map ("Failed to write to temp state file: " ++ ·)).or <|
  (faults.sync.map ("Failed to sync temp state file: " ++ ·)).or <|
  faults.rename.map ("Failed to rename temp state file to final: " ++ ·)

end SaveFaults

/-- A state and the file at its path: the accounts written in it, or none if it does not
exist. -/
structure Session where
  state : State
  file : Option Accounts
deriving DecidableEq

namespace Session

/-- `save_atomic`. The file is replaced by the last step, the rename. -/
def saveAtomic (faults : SaveFaults) (s : Session) : Except String Unit × Session :=
  match faults.error? with
  | some e => (.error e, s)
  | none => (.ok (), { s with file := some s.state.accounts })

def setAccount (id : AccountId) (account : Account) (s : Session) : Session :=
  { s with state := { s.state with accounts := s.state.accounts.insert id account } }

def beginTransaction (s : Session) : Session :=
  { s with state := { s.state with backupStack := s.state.accounts :: s.state.backupStack } }

def commit (faults : SaveFaults) (s : Session) : Except String Unit × Session :=
  saveAtomic faults { s with state := { s.state with backupStack := s.state.backupStack.tail } }

def rollback (s : Session) : Session :=
  match s.state.backupStack with
  | [] => s
  | backup :: rest => { s with state := ⟨backup, rest⟩ }

end Session

/-! ## Runs -/

inductive Call where
  | setAccount (id : AccountId) (account : Account)
  | beginTransaction
  | commit (faults : SaveFaults)
  | rollback

def Call.run (s : Session) : Call → Session
  | .setAccount id account => s.setAccount id account
  | .beginTransaction => s.beginTransaction
  | .commit faults => (s.commit faults).2
  | .rollback => s.rollback

def runCalls (s : Session) (calls : List Call) : Session := calls.foldl Call.run s

/-- A well-bracketed piece of a run: a mutation, or a transaction with what happens in it
and the call that ends it. -/
inductive Block where
  | setAccount (id : AccountId) (account : Account)
  | committed (body : List Block) (faults : SaveFaults)
  | rolledBack (body : List Block)

mutual

def Block.calls : Block → List Call
  | .setAccount id account => [.setAccount id account]
  | .committed body faults => .beginTransaction :: callsAll body ++ [.commit faults]
  | .rolledBack body => .beginTransaction :: callsAll body ++ [.rollback]

def callsAll : List Block → List Call
  | [] => []
  | block :: body => block.calls ++ callsAll body

end

mutual

def Block.eval : Block → Accounts → Accounts
  | .setAccount id account, accounts => accounts.insert id account
  | .committed body _, accounts => evalAll body accounts
  | .rolledBack _, accounts => accounts

def evalAll : List Block → Accounts → Accounts
  | [], accounts => accounts
  | block :: body, accounts => evalAll body (block.eval accounts)

end

mutual

def Block.saves : Block → Accounts → List Accounts
  | .setAccount _ _, _ => []
  | .committed body faults, accounts =>
    savesAll body accounts ++ if faults.error? = none then [evalAll body accounts] else []
  | .rolledBack body, accounts => savesAll body accounts

def savesAll : List Block → Accounts → List Accounts
  | [], _ => []
  | block :: body, accounts => block.saves accounts ++ savesAll body (block.eval accounts)

end

def Session.after (s : Session) (accounts : Accounts) (saves : List Accounts) : Session :=
  { state := { s.state with accounts }, file := saves.getLast?.or s.file }

lemma Session.after_after (s : Session) (a b : Accounts) (xs ys : List Accounts) :
    (s.after a xs).after b ys = s.after b (xs ++ ys) := by
  simp [Session.after, getLast?_append, Option.or_assoc]

mutual

lemma runCalls_block (s : Session) : ∀ block : Block, runCalls s block.calls =
    s.after (block.eval s.state.accounts) (block.saves s.state.accounts)
  | .setAccount id account => by
      simp [Block.calls, runCalls, Call.run, Session.setAccount, Session.after, Block.eval,
        Block.saves]
  | .committed body faults => by
      have hbody := runCalls_all s.beginTransaction body
      rw [runCalls] at hbody
      rw [Block.calls, runCalls, cons_append, foldl_cons, foldl_append]
      simp only [Call.run, hbody, foldl_cons, foldl_nil, Session.commit, Session.saveAtomic]
      cases hfault : faults.error? with
      | none => simp [Session.after, Session.beginTransaction, Block.eval, Block.saves, hfault]
      | some e => simp [Session.after, Session.beginTransaction, Block.eval, Block.saves, hfault]
  | .rolledBack body => by
      have hbody := runCalls_all s.beginTransaction body
      rw [runCalls] at hbody
      rw [Block.calls, runCalls, cons_append, foldl_cons, foldl_append]
      simp only [Call.run, hbody, foldl_cons, foldl_nil]
      simp [Session.rollback, Session.after, Session.beginTransaction, Block.eval, Block.saves]

lemma runCalls_all (s : Session) : ∀ body : List Block, runCalls s (callsAll body) =
    s.after (evalAll body s.state.accounts) (savesAll body s.state.accounts)
  | [] => by simp [callsAll, runCalls, Session.after, evalAll, savesAll]
  | block :: body => by
      have hblock := runCalls_block s block
      rw [runCalls] at hblock
      rw [callsAll, runCalls, foldl_append, hblock]
      have hbody := runCalls_all
        (s.after (block.eval s.state.accounts) (block.saves s.state.accounts)) body
      rw [runCalls] at hbody
      rw [hbody, Session.after_after, evalAll, savesAll]
      rfl

end

/-! ## What a rollback restores -/

lemma runCalls_open (s : Session) (body : List Block) :
    runCalls s (.beginTransaction :: callsAll body) = s.beginTransaction.after
      (evalAll body s.state.accounts) (savesAll body s.state.accounts) := by
  rw [runCalls, foldl_cons]
  exact runCalls_all s.beginTransaction body

/-- A rollback restores memory and the snapshots below, whatever was committed inside. The
file is as it was exactly when the last commit inside that saved, if there is one, wrote
what the file held. A commit that fails has closed its transaction: the rollback after it
restores the accounts of the begin exactly when the enclosing transaction has the same
snapshot, or when there is none and nothing has changed. -/
theorem transaction_restored_iff (s : Session) (body : List Block) :
    ((runCalls s (Block.rolledBack body).calls).state = s.state ∧
      ((runCalls s (Block.rolledBack body).calls).file = s.file ↔
        ∀ saved, (savesAll body s.state.accounts).getLast? = some saved → s.file = some saved)) ∧
    ∀ faults e, faults.error? = some e →
      ((runCalls s (.beginTransaction :: callsAll body)).commit faults).1 = .error e ∧
      ((runCalls s (.beginTransaction :: callsAll body)).commit faults).2.state.backupStack =
        s.state.backupStack ∧
      (((runCalls s (.beginTransaction :: callsAll body)).commit faults).2.rollback.state.accounts =
          s.state.accounts ↔
        s.state.backupStack.head?.getD (evalAll body s.state.accounts) = s.state.accounts) := by
  refine ⟨?_, fun faults e hfault => ?_⟩
  · rw [runCalls_block, Block.eval, Block.saves]
    refine ⟨rfl, ?_⟩
    cases hlast : (savesAll body s.state.accounts).getLast? with
    | none => simp [Session.after, hlast]
    | some saved => simp [Session.after, hlast, eq_comm]
  · rw [runCalls_open]
    refine ⟨by simp [Session.commit, Session.saveAtomic, hfault],
      by simp [Session.commit, Session.saveAtomic, hfault, Session.after,
        Session.beginTransaction], ?_⟩
    cases hstack : s.state.backupStack with
    | nil => simp [Session.commit, Session.saveAtomic, hfault, Session.after,
        Session.beginTransaction, Session.rollback, hstack]
    | cons outer rest => simp [Session.commit, Session.saveAtomic, hfault, Session.after,
        Session.beginTransaction, Session.rollback, hstack]

/-- Account 1 is written in an inner transaction that commits, and the outer one is rolled
back: the file has the account. Or its commit meets a full disk and is rolled back: the
account stays in memory. -/
theorem inner_commit_survives_rollback :
    runCalls ⟨⟨empty, []⟩, none⟩ (Block.rolledBack
        [.committed [.setAccount 1 ⟨0, 10, zeroHash, zeroHash⟩] .clean]).calls =
      ⟨⟨.empty, []⟩, some (empty.insert 1 ⟨0, 10, zeroHash, zeroHash⟩)⟩ ∧
    runCalls ⟨⟨.empty, []⟩, none⟩ [.beginTransaction,
        .setAccount 1 ⟨0, 10, zeroHash, zeroHash⟩,
        .commit { SaveFaults.clean with write := some "No space left on device" }, .rollback] =
      ⟨⟨empty.insert 1 ⟨0, 10, zeroHash, zeroHash⟩, []⟩, none⟩ := by
  decide +kernel

end Budlum.BudState
