import Countersign.Approver
import Countersign.Command
import Countersign.Money
import Countersign.Template

/-!
What the engine works with: a store of chains, the ledger, and a directory, each
reached through functions that act on some state. The engine knows nothing of
that state, so the same commands run on the books alone or on books that are
watched and interrupted.

A service of the ledger answers with the ledger's own error, which is left to
the engine to judge; a service of the store or of the directory that is out of
order ends the command.
-/

namespace Countersign

/-- Why a command ends early: it fails, or a sum of money does not fit. -/
inductive Stop where
  | failed (error : CommandError)
  | overflow (what : Decimal.Overflow)
deriving DecidableEq

/-- Work on a state that may stop early; the state keeps what was done until then. -/
abbrev Work (σ α : Type) := EStateM Stop σ α

namespace Work

def fail {σ α : Type} (error : CommandError) : Work σ α := throw (.failed error)

def sum {σ : Type} : Except Decimal.Overflow Decimal → Work σ Decimal
  | .ok total => pure total
  | .error what => throw (.overflow what)

def demand {σ α : Type} (task : LedgerTask) (call : Work σ (Except LedgerError α)) : Work σ α := do
  match ← call with
  | .ok answer => pure answer
  | .error _ => fail (.ledgerFailed task)

end Work

structure Services (σ : Type) where
  createChain : Timestamp → List Draft → Work σ (List Step)
  commit : Batch → Work σ Unit
  findStep : StepId → Work σ (Option Step)
  /-- The steps of a loan by rank. -/
  stepsOf : LoanId → Work σ (List Step)
  historyOf : StepId → Work σ (List HistoryRow)
  pendingLoads : List ApproverId → Work σ Loads
  allSteps : Work σ (List Step)
  template : ProductId → Work σ (Option Template)
  /-- The active approvers who hold a role, in the order of the directory. -/
  activeApprovers : RoleId → Work σ (List Approver)
  findApprover : ApproverId → Work σ (Option Approver)
  submit : LoanId → Decimal → ValueDate → String → Work σ (Except LedgerError Unit)
  disburse : LoanId → ValueDate → Decimal → Option PaymentTypeId → String →
    Work σ (Except LedgerError Unit)
  hold : Amount → Option LoanId → AccountId → String → Work σ (Except LedgerError TransactionId)
  release : AccountId → TransactionId → Work σ (Except LedgerError Unit)
  withdraw : Amount → AccountId → String → PaymentTypeId → Work σ (Except LedgerError TransactionId)
  reject : LoanId → ValueDate → String → Work σ (Except LedgerError Unit)
  undoApproval : LoanId → String → Work σ (Except LedgerError Unit)
  appendNote : LoanId → String → Work σ (Except LedgerError Unit)
  findAccount : LoanId → Work σ (Except LedgerError AccountId)
  findLoan : LoanId → Work σ (Except LedgerError (Option Loan))
  /-- The loans with an active approval schedule, by id. -/
  scheduledLoans : Work σ (Except LedgerError (List LoanId))
  chargesOf : LoanId → Work σ (Except LedgerError (List Charge))
  markPaid : LoanId → List ChargeId → Work σ (Except LedgerError Unit)
  setLien : LoanId → Option TransactionId → Work σ (Except LedgerError Unit)
  forceStatus : LoanId → LoanStatus → Work σ (Except LedgerError Unit)

end Countersign
