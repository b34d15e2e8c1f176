import Countersign.Ledger.Account
import Countersign.Ledger.Journal
import Countersign.Money

/-!
The ledger of loans and savings accounts. An operation either goes through and
leaves its entry in the journal, or stops and says why. Operations can be made
to fail, which they notice before anything else. Transactions are numbered from
one on, and a number once taken is not given out again, even when the operation
that took it is refused.
-/

namespace Countersign

structure Ledger where
  loans : Table Loan
  charges : Table (List Charge)
  links : Table AccountId
  accounts : Table Account
  notes : Table (List String)
  journal : List JournalEntry
  failing : List LedgerOp
  lastTransaction : TransactionId
deriving DecidableEq

namespace Ledger

def empty : Ledger := ⟨.empty, .empty, .empty, .empty, .empty, [], [], 0⟩

/-- An operation that may stop early; the ledger keeps what it did until then. -/
abbrev Op (α : Type) := EStateM Stop Ledger α

def refuse {α : Type} (error : LedgerError) : Op α := throw (.refused error)

def check (op : LedgerOp) : Op Unit := do
  if (← get).failing.contains op then refuse (.unavailable (.failing op))

def requireLoan (id : LoanId) : Op Loan := do
  match (← get).loans.get? id with
  | some loan => pure loan
  | none => refuse (.notFound (.loan id))

def putLoan (id : LoanId) (loan : Loan) : Op Unit :=
  modify fun ledger => { ledger with loans := ledger.loans.insert id loan }

def requireAccount (id : AccountId) : Op Account := do
  match (← get).accounts.get? id with
  | some account => pure account
  | none => refuse (.notFound (.account id))

def requireLink (loan : LoanId) : Op AccountId := do
  match (← get).links.get? loan with
  | some account => pure account
  | none => refuse (.notFound (.linkedAccount loan))

def changeAccount (id : AccountId) (change : Account → Except Stop Account) : Op Unit := do
  match change (← requireAccount id) with
  | .ok account => modify fun ledger => { ledger with accounts := ledger.accounts.insert id account }
  | .error stop => throw stop

def enter (entry : JournalEntry) : Op Unit :=
  modify fun ledger => { ledger with journal := ledger.journal ++ [entry] }

def nextTransaction : Op TransactionId :=
  modifyGet fun ledger =>
    (ledger.lastTransaction + 1, { ledger with lastTransaction := ledger.lastTransaction + 1 })

def transition (id : LoanId) (sources : List LoanStatus) (target : LoanStatus) : Op Unit := do
  let loan ← requireLoan id
  if sources.contains loan.status then putLoan id { loan with status := target }
  else refuse (.rejected (.wrongStatus id loan.status target))

/-! Operations on loans. -/

def submit (loan : LoanId) (amount : Decimal) (date : ValueDate) : Op Unit := do
  check .submitForApproval
  transition loan [.submittedAndPendingApproval] .approved
  enter (.submitForApproval loan amount date)

def disburse (loan : LoanId) (date : ValueDate) (amount : Decimal)
    (payment : Option PaymentTypeId) : Op Unit := do
  check .disburse
  transition loan [.approved, .submittedAndPendingApproval] .active
  enter (.disburse loan amount date payment)

def reject (loan : LoanId) : Op Unit := do
  check .reject
  transition loan [.submittedAndPendingApproval] .rejected
  enter (.reject loan)

def undoApproval (loan : LoanId) : Op Unit := do
  check .undoApproval
  transition loan [.approved] .submittedAndPendingApproval
  enter (.undoApproval loan)

def appendNote (loan : LoanId) (text : String) : Op Unit := do
  check .appendNote
  let _ ← requireLoan loan
  modify fun ledger =>
    { ledger with notes := ledger.notes.insert loan ((ledger.notes.get? loan).getD [] ++ [text]) }
  enter (.appendNote loan text)

def forceStatus (id : LoanId) (status : LoanStatus) : Op Unit := do
  check .forceStatus
  let loan ← requireLoan id
  putLoan id { loan with status := status }
  enter (.forceStatus id status)

/-! Operations on savings accounts. -/

def hold (amount : Amount) (loan : Option LoanId) (account : AccountId) : Op TransactionId := do
  check .hold
  let transaction ← nextTransaction
  changeAccount account (·.hold transaction amount.value)
  enter (.hold account loan amount.value transaction)
  pure transaction

def release (account : AccountId) (transaction : TransactionId) : Op Unit := do
  check .release
  changeAccount account (·.release transaction)
  enter (.release account transaction)

def withdraw (amount : Amount) (account : AccountId) (payment : PaymentTypeId) :
    Op TransactionId := do
  check .withdraw
  let transaction ← nextTransaction
  changeAccount account (·.withdraw amount.value)
  enter (.withdraw account amount.value payment transaction)
  pure transaction

def findAccount (loan : LoanId) : Op AccountId := do
  check .findAccount
  requireLink loan

/-! What is read and noted about a loan without an entry in the journal. -/

def loan? (ledger : Ledger) (id : LoanId) : Option Loan := ledger.loans.get? id

def account? (ledger : Ledger) (id : AccountId) : Option Account := ledger.accounts.get? id

def chargesOf (ledger : Ledger) (loan : LoanId) : List Charge :=
  (ledger.charges.get? loan).getD []

def notesOf (ledger : Ledger) (loan : LoanId) : List String := (ledger.notes.get? loan).getD []

def scheduledLoans (ledger : Ledger) : List LoanId :=
  (ledger.loans.values.filter (·.scheduleActive)).map (·.id)

def markPaid (loan : LoanId) (ids : List ChargeId) : Op Unit := do
  match (← get).charges.get? loan with
  | none => refuse (.notFound (.charges loan))
  | some charges =>
    let marked := charges.map fun charge => if ids.contains charge.id then charge.settled else charge
    modify fun ledger => { ledger with charges := ledger.charges.insert loan marked }

def setLien (id : LoanId) (transaction : Option TransactionId) : Op Unit := do
  let loan ← requireLoan id
  putLoan id { loan with lien := transaction }

/-! Keeping the books from outside of the workflow. -/

def addLoan (ledger : Ledger) (loan : Loan) : Ledger :=
  { ledger with loans := ledger.loans.insert loan.id loan }

def addCharges (ledger : Ledger) (loan : LoanId) (charges : List Charge) : Ledger :=
  { ledger with charges := ledger.charges.insert loan (ledger.chargesOf loan ++ charges) }

/-- Links a loan to an account, which is opened unless it exists. -/
def link (ledger : Ledger) (loan : LoanId) (account : AccountId) (available : Decimal) : Ledger :=
  { ledger with
    accounts :=
      if ledger.accounts.contains account then ledger.accounts
      else ledger.accounts.insert account (.opened account available)
    links := ledger.links.insert loan account }

/-- Holds money on the linked account and records the hold as the loan's lien. -/
def placeLien (id : LoanId) (amount : Decimal) : Op TransactionId := do
  let account ← requireLink id
  let transaction ← nextTransaction
  changeAccount account (·.hold transaction amount)
  setLien id (some transaction)
  pure transaction

def setStatus (id : LoanId) (status : LoanStatus) : Op Unit := do
  let loan ← requireLoan id
  putLoan id { loan with status := status }

def failOn (ledger : Ledger) (op : LedgerOp) : Ledger :=
  { ledger with failing := if ledger.failing.contains op then ledger.failing else op :: ledger.failing }

def heal (ledger : Ledger) (op : LedgerOp) : Ledger :=
  { ledger with failing := ledger.failing.filter (· ≠ op) }

def count (ledger : Ledger) (op : LedgerOp) : Nat := ledger.journal.countP (·.op == op)

end Ledger

end Countersign
