import Countersign.Proofs.AuditTrail
import Countersign.Proofs.Upkeep

/-!
The journal explains the ledger. Gone through once more, entry by entry, from the books that a
setup has filled, every entry is one that can be made there, and in the end every loan has the
status that it has, every account the balances and holds, and every loan the notes. What an entry
does is told here a second time, apart from the operations that enter it.
-/

namespace Countersign

namespace Table

variable {α β : Type}

def mapped (f : α → β) (table : Table α) : Table β where
  rows := table.rows.map fun row => (row.1, f row.2)
  ascending := by
    rw [List.pairwise_map]
    exact table.ascending

theorem get?_mapped (f : α → β) (table : Table α) (key : Nat) : (table.mapped f).get? key = (table.get? key).map f := by
  have looked (rows : List (Nat × α)) :
      lookup key (rows.map fun row => (row.1, f row.2)) = (lookup key rows).map f := by
    induction rows with
    | nil => rfl
    | cons head rest ih =>
      rw [List.map_cons, lookup, lookup, ih]
      split <;> rfl
  exact looked table.rows

theorem mapped_insert (f : α → β) (table : Table α) (key : Nat) (value : α) :
    (table.insert key value).mapped f = (table.mapped f).insert key (f value) := by
  refine ext_get? fun other => ?_
  rw [get?_mapped, get?_insert, get?_insert, get?_mapped]
  split <;> rfl

theorem insert_of_get? {table : Table α} {key : Nat} {value : α} (found : table.get? key = some value) :
    table.insert key value = table := by
  refine ext_get? fun other => ?_
  rw [get?_insert]
  split
  next same => rw [same, found]
  next => rfl

end Table

/-- An account after a change that is booked on it: of a positive amount that the account has, and
for a hold under a number that is not taken there. -/
def Account.post (account : Account) : Account.Change → Option Account
  | .hold transaction amount => do
    guard (.zero < amount ∧ amount ≤ account.available ∧ account.holds.get? transaction = none)
    let available ← (account.available.sub amount).toOption
    let held ← (account.held.add amount).toOption
    pure { account with
      available := available, held := held, holds := account.holds.insert transaction amount }
  | .withdraw amount => do
    guard (.zero < amount ∧ amount ≤ account.available)
    let available ← (account.available.sub amount).toOption
    pure { account with available := available }
  | .release transaction => do
    let amount ← account.holds.get? transaction
    let held ← (account.held.sub amount).toOption
    let available ← (account.available.add amount).toOption
    pure { account with
      available := available, held := held, holds := account.holds.erase transaction }

/-- What the journal accounts for. -/
structure Statement where
  statuses : Table LoanStatus
  accounts : Table Account
  notes : Table (List String)
deriving DecidableEq

namespace Statement

def move (statement : Statement) (loan : LoanId) (sources : List LoanStatus) (target : LoanStatus) :
    Option Statement := do
  let status ← statement.statuses.get? loan
  guard (status ∈ sources)
  pure { statement with statuses := statement.statuses.insert loan target }

def book (statement : Statement) (id : AccountId) (change : Account.Change) : Option Statement := do
  let account ← statement.accounts.get? id
  let changed ← account.post change
  pure { statement with accounts := statement.accounts.insert id changed }

/-- What an entry of the journal makes of a statement, if it can be made there. -/
def post (statement : Statement) : JournalEntry → Option Statement
  | .submitForApproval loan _ _ => statement.move loan [.submittedAndPendingApproval] .approved
  | .disburse loan _ _ _ => statement.move loan [.approved, .submittedAndPendingApproval] .active
  | .reject loan => statement.move loan [.submittedAndPendingApproval] .rejected
  | .undoApproval loan => statement.move loan [.approved] .submittedAndPendingApproval
  | .forceStatus loan status => statement.move loan LoanStatus.all status
  | .appendNote loan text => do
    let _ ← statement.statuses.get? loan
    pure { statement with
      notes := statement.notes.insert loan ((statement.notes.get? loan).getD [] ++ [text]) }
  | .hold account _ amount transaction => statement.book account (.hold transaction amount)
  | .release account transaction => statement.book account (.release transaction)
  | .withdraw account amount _ _ => statement.book account (.withdraw amount)

def replay (statement : Statement) (entries : List JournalEntry) : Option Statement := entries.foldlM post statement

end Statement

namespace Ledger

def statement (ledger : Ledger) : Statement := ⟨ledger.loans.mapped (·.status), ledger.accounts, ledger.notes⟩

/-- These books came about by what their journal says that was entered since. -/
structure Explained (start ledger : Ledger) : Prop where
  inOrder : ledger.InOrder
  replays : ∃ entries, ledger.journal = start.journal ++ entries ∧
    start.statement.replay entries = some ledger.statement

variable {start before after : Ledger}

theorem Explained.refl (inOrder : start.InOrder) : Explained start start :=
  ⟨inOrder, [], (List.append_nil _).symm, rfl⟩

theorem Explained.enter (explained : Explained start before) (inOrder : after.InOrder) {entry : JournalEntry}
    (entered : after.journal = before.journal ++ [entry]) (posted : before.statement.post entry = some after.statement) :
    Explained start after := by
  obtain ⟨entries, journal, replays⟩ := explained.replays
  refine ⟨inOrder, entries ++ [entry], ?_, ?_⟩
  · rw [entered, journal, List.append_assoc]
  · unfold Statement.replay at replays ⊢
    rw [List.foldlM_append, replays]
    change (before.statement.post entry >>= pure) = _
    rw [posted]
    rfl

theorem Explained.aside (explained : Explained start before) (inOrder : after.InOrder)
    (entered : after.journal = before.journal) (same : after.statement = before.statement) : Explained start after :=
  ⟨inOrder, by rw [entered, same]; exact explained.replays⟩

theorem statement_passed {record : Loan} {loan : LoanId} (found : before.loans.get? loan = some record)
    (target : LoanStatus) (entry : JournalEntry) {sources : List LoanStatus} (allowed : record.status ∈ sources) :
    before.statement.move loan sources target = some (before.passed loan record target entry).statement := by
  have known : before.statement.statuses.get? loan = some record.status := by
    rw [statement, Table.get?_mapped, found, Option.map_some]
  have same : (before.passed loan record target entry).statement =
      { before.statement with statuses := before.statement.statuses.insert loan target } := by
    unfold statement passed
    rw [Table.mapped_insert]
  rw [same, Statement.move, known]
  change (if record.status ∈ sources then some () else none).bind _ = _
  rw [if_pos allowed]
  rfl

theorem statement_moved {id : AccountId} {account changed : Account} {change : Account.Change}
    (found : before.accounts.get? id = some account) (posted : account.post change = some changed) :
    before.statement.book id change = some { before.statement with accounts := before.accounts.insert id changed } := by
  have known : before.statement.accounts.get? id = some account := found
  rw [Statement.book, known]
  change (account.post change >>= fun changed => _) = _
  rw [posted]
  rfl

theorem posts_hold {account changed : Account} {transaction : TransactionId} {amount : Amount}
    (held : account.hold transaction amount.value = .ok changed) (fresh : account.holds.get? transaction = none) :
    account.post (.hold transaction amount.value) = some changed := by
  obtain ⟨covered, available, held, left, more, rfl⟩ := (Account.hold_ok_iff ..).mp held
  have legal : Decimal.zero < amount.value ∧ amount.value ≤ account.available ∧ account.holds.get? transaction = none :=
    ⟨amount.positive, covered, fresh⟩
  rw [Account.post, left, more]
  change (if _ then some () else none).bind _ = _
  rw [if_pos legal]
  rfl

theorem posts_withdraw {account changed : Account} {amount : Amount}
    (withdrawn : account.withdraw amount.value = .ok changed) :
    account.post (.withdraw amount.value) = some changed := by
  obtain ⟨covered, available, left, rfl⟩ := (Account.withdraw_ok_iff ..).mp withdrawn
  have legal : Decimal.zero < amount.value ∧ amount.value ≤ account.available := ⟨amount.positive, covered⟩
  rw [Account.post, left]
  change (if _ then some () else none).bind _ = _
  rw [if_pos legal]
  rfl

theorem posts_release {account changed : Account} {transaction : TransactionId}
    (released : account.release transaction = .ok changed) : account.post (.release transaction) = some changed := by
  obtain ⟨amount, found, held, available, less, more, rfl⟩ := (Account.release_ok_iff ..).mp released
  rw [Account.post, found]
  change (account.held.sub amount).toOption.bind _ = _
  rw [less]
  change (account.available.add amount).toOption.bind _ = _
  rw [more]
  rfl

theorem Filed.posts {loan : LoanId} {status target : LoanStatus} {entry : JournalEntry}
    (filed : Filed loan status entry target) :
    ∃ sources, status ∈ sources ∧ ∀ statement : Statement, statement.post entry = statement.move loan sources target := by
  cases filed with
  | submitted amount date => exact ⟨_, List.mem_singleton_self _, fun _ => rfl⟩
  | disbursed amount date payment ready => exact ⟨_, ready, fun _ => rfl⟩
  | rejected => exact ⟨_, List.mem_singleton_self _, fun _ => rfl⟩
  | undone => exact ⟨_, List.mem_singleton_self _, fun _ => rfl⟩
  | forced =>
    refine ⟨LoanStatus.all, ?_, fun _ => rfl⟩
    cases status <;> decide

/-- No change of the books goes unexplained. -/
theorem explained_upkeep (start : Ledger) (scale : Nat) :
    Upkeep scale (Explained start) (fun _ => True) fun _ => True where
  inOrder _ explained := explained.inOrder
  noted ledger loan record text explained found := by
    refine explained.enter ⟨explained.inOrder.keyed, explained.inOrder.issued⟩ rfl ?_
    have known : ledger.statement.statuses.get? loan = some record.status := by
      rw [statement, Table.get?_mapped, found, Option.map_some]
    rw [Statement.post, known]
    rfl
  passed ledger loan record entry target explained found filed := by
    obtain ⟨sources, allowed, posts⟩ := filed.posts
    refine explained.enter ⟨explained.inOrder.amend found rfl, explained.inOrder.issued⟩ rfl ?_
    rw [posts]
    exact statement_passed found target entry allowed
  pledged ledger loan record lien explained found := by
    refine explained.aside ⟨explained.inOrder.amend found rfl, explained.inOrder.issued⟩ rfl ?_
    have known : (ledger.loans.mapped (·.status)).get? loan = some record.status := by
      rw [Table.get?_mapped, found, Option.map_some]
    unfold statement pledged
    rw [Table.mapped_insert, Table.insert_of_get? known]
  marked ledger loan ids charges explained _ :=
    explained.aside ⟨explained.inOrder.keyed, explained.inOrder.issued⟩ rfl rfl
  numbered ledger explained := explained.aside explained.inOrder.numbered rfl rfl
  held ledger id account changed loan amount explained _ found held :=
    explained.enter ((Called.held loan amount found held).inOrder explained.inOrder) rfl
      (statement_moved found (posts_hold held (explained.inOrder.fresh found)))
  withdrawn ledger id account changed payment amount explained _ found withdrawn :=
    explained.enter ((Called.withdrawn amount payment found withdrawn).inOrder explained.inOrder) rfl
      (statement_moved found (posts_withdraw withdrawn))
  released ledger id account changed transaction explained found released :=
    explained.enter ((Called.released found released).inOrder explained.inOrder) rfl
      (statement_moved found (posts_release released))
  holdSpills _ _ _ _ _ _ _ _ _ _ := trivial
  withdrawSpills _ _ _ _ _ _ _ _ _ := trivial
  releaseSpills _ _ _ _ _ _ _ _ := trivial
  charged _ _ _ _ := by
    split
    · exact fun _ _ => trivial
    · trivial

/-- The calls that change what the journal accounts for and enter nothing. -/
def Call.unexplained : Call → Bool
  | .addLoan _ => true
  | .link .. => true
  | .placeLien .. => true
  | .setStatus .. => true
  | _ => false

theorem Keeps.called {kept : Ledger → Prop} {spill : Decimal.Overflow → Prop} {call : Call}
    (keeps : Keeps kept spill (work call)) {ledger : Ledger} (here : kept ledger) : kept (ledger.called call) := by
  have ended := keeps ledger here
  unfold Ends at ended
  unfold Ledger.called
  cases ran : work call ledger with
  | ok answer after =>
    rw [ran] at ended
    exact ended
  | error stop after =>
    rw [ran] at ended
    exact ended.1

theorem called_explained {call : Call} (explains : call.unexplained = false) (explained : Explained start before) :
    Explained start (before.called call) := by
  have upkeep := explained_upkeep start 0
  have keeping {α : Type} {op : Op α} {wrap : α → Option TransactionId}
      (keeps : Keeps (Explained start) (fun _ => True) op) :
      Keeps (Explained start) (fun _ => True) (do pure (wrap (← op))) :=
    fun ledger here => (keeps ledger here).andThen (fun _ _ kept => kept) fun _ _ stopped => stopped
  cases call with
  | addLoan | link | placeLien | setStatus => cases explains
  | addCharges loan charges => exact explained.aside ⟨explained.inOrder.keyed, explained.inOrder.issued⟩ rfl rfl
  | setLien loan lien => exact (keeping (setLien_keeps upkeep loan lien)).called explained
  | markPaid loan ids => exact (keeping (markPaid_keeps upkeep loan ids)).called explained
  | submit loan amount date => exact (keeping (submit_keeps upkeep loan amount date)).called explained
  | disburse loan date amount payment => exact (keeping (disburse_keeps upkeep loan date amount payment)).called explained
  | reject loan => exact (keeping (reject_keeps upkeep loan)).called explained
  | undoApproval loan => exact (keeping (undoApproval_keeps upkeep loan)).called explained
  | appendNote loan text => exact (keeping (appendNote_keeps upkeep loan text)).called explained
  | forceStatus loan status => exact (keeping (forceStatus_keeps upkeep loan status)).called explained
  | findAccount loan => exact (keeping (findAccount_keeps loan)).called explained
  | hold amount loan account => exact (keeping (hold_keeps upkeep trivial loan account)).called explained
  | release account transaction => exact (keeping (release_keeps upkeep account transaction)).called explained
  | withdraw amount account payment => exact (keeping (withdraw_keeps upkeep trivial account payment)).called explained

theorem called_appends (ledger : Ledger) (call : Call) : ledger.journal <+: (ledger.called call).journal := by
  have ended := work_ends call ledger
  unfold Ends at ended
  unfold called
  cases ran : work call ledger with
  | ok answer after =>
    rw [ran] at ended
    dsimp only at ended ⊢
    cases ended <;> first | exact List.prefix_rfl | exact List.prefix_append _ _
  | error stop after =>
    rw [ran] at ended
    dsimp only at ended ⊢
    cases ended <;> exact List.prefix_rfl

end Ledger

namespace Watched

open Ledger (Explained)

def Incident.explains : Incident → Bool
  | .act (.call call) => !call.unexplained
  | _ => true

variable {settings : Settings} {watched : Watched Desk} {ledger : Ledger}

theorem after_explained (incident : Incident) (explains : incident.explains = true)
    (explained : Explained ledger watched.inner.ledger) :
    Explained ledger (watched.after settings incident).inner.ledger := by
  cases incident with
  | interrupt service after => exact explained
  | mend service => exact explained
  | act act =>
    cases act with
    | call call => exact Ledger.called_explained (by simpa [Incident.explains] using explains) explained
    | event event =>
      cases event with
      | failOn op => exact explained.aside ⟨explained.inOrder.keyed, explained.inOrder.issued⟩ rfl rfl
      | heal op => exact explained.aside ⟨explained.inOrder.keyed, explained.inOrder.issued⟩ rfl rfl
      | command now command =>
        have ended := perform_keeps (Ledger.explained_upkeep ledger settings.moneyScale) explained now command
        unfold Ends at ended
        rw [after]
        split
        next ran =>
          rw [ran] at ended
          exact ended
        next ran =>
          rw [ran] at ended
          exact ended.1

theorem after_appends (inOrder : watched.inner.ledger.InOrder) (incident : Incident) :
    watched.inner.ledger.journal <+: (watched.after settings incident).inner.ledger.journal := by
  cases explains : incident.explains with
  | true =>
    have explained : Explained watched.inner.ledger (watched.after settings incident).inner.ledger :=
      after_explained incident explains (.refl inOrder)
    obtain ⟨entries, journal, _⟩ := explained.replays
    rw [journal]
    exact List.prefix_append _ _
  | false =>
    cases incident with
    | interrupt | mend => cases explains
    | act act =>
      cases act with
      | call call => exact Ledger.called_appends _ call
      | event event => cases explains

theorem run_explained (incidents : List Incident) (explains : ∀ incident ∈ incidents, incident.explains = true)
    (explained : Explained ledger watched.inner.ledger) :
    Explained ledger (watched.run settings incidents).inner.ledger := by
  induction incidents generalizing watched with
  | nil => exact explained
  | cons incident rest ih =>
    refine ih (fun later mem => explains later (List.mem_cons_of_mem _ mem)) ?_
    exact after_explained incident (explains incident List.mem_cons_self) explained

/-- On every run from a setup on which nothing is changed past the journal, the journal can be gone
through from the installed books, and leads to the books as they are; and no entry in it is ever
changed or taken back. -/
theorem journal_explains {setup : Setup} {desk : Desk} (installed : setup.install .empty = .ok () desk)
    (settings : Settings) (incidents : List Incident) (explains : ∀ incident ∈ incidents, incident.explains = true) :
    let watched := (start desk).run settings incidents
    desk.ledger.statement.replay watched.inner.ledger.journal = some watched.inner.ledger.statement ∧
      ∀ incident, watched.inner.ledger.journal <+: (watched.after settings incident).inner.ledger.journal := by
  intro watched
  have opening := Setup.opens installed
  have explained : Explained desk.ledger watched.inner.ledger := run_explained incidents explains (.refl opening.ledger)
  obtain ⟨entries, journal, replays⟩ := explained.replays
  rw [opening.journal, List.nil_append] at journal
  exact ⟨journal ▸ replays, fun incident => after_appends explained.inOrder incident⟩

/-- The sample is disbursed at the second attempt, while the new lien cannot be recorded; then money
is put on hold from outside. -/
theorem sample_journal_explained :
    let order (command : Command) : Incident := .act (.event (.command .epoch command))
    let incidents := [order (.build 1), order (.approve 1 1 "checked" none none), .act (.event (.failOn .disburse)),
      .interrupt .setLienTransaction 0, order (.approve 1 2 "" none none), .act (.event (.heal .disburse)),
      order (.approve 1 2 "" none none), .act (.call (.hold ⟨.whole 3 (by decide), by decide⟩ none 7))]
    let ledger := ((start Desk.sample).run .standard incidents).inner.ledger
    ledger.journal.map (·.op) = [.appendNote, .submitForApproval, .withdraw, .hold, .release, .hold, .disburse, .release,
      .hold] ∧ Desk.sample.ledger.statement.replay ledger.journal = some ledger.statement := by
  intro order incidents ledger
  have explains : ∀ incident ∈ incidents, incident.explains = true := by decide
  exact ⟨by decide +kernel, (journal_explains Desk.sample_installed .standard incidents explains).1⟩

end Watched

end Countersign
