import Countersign.Decimal.Basic
import Countersign.Loan
import Countersign.Step
import Countersign.Template

/-!
Why the ledger refuses an operation and why a command fails. A command that
fails in the ledger tells only what it was doing there, never the ledger's own
reason.
-/

namespace Countersign

inductive LedgerOp where
  | submitForApproval
  | disburse
  | hold
  | release
  | withdraw
  | reject
  | undoApproval
  | appendNote
  | findAccount
  | forceStatus
deriving DecidableEq, Repr

namespace LedgerOp

def all : List LedgerOp :=
  [.submitForApproval, .disburse, .hold, .release, .withdraw, .reject, .undoApproval, .appendNote,
    .findAccount, .forceStatus]

def name : LedgerOp → String
  | .submitForApproval => "SubmitForApproval"
  | .disburse => "Disburse"
  | .hold => "Hold"
  | .release => "Release"
  | .withdraw => "Withdraw"
  | .reject => "Reject"
  | .undoApproval => "UndoApproval"
  | .appendNote => "AppendNote"
  | .findAccount => "FindAccount"
  | .forceStatus => "ForceStatus"

end LedgerOp

inductive Missing where
  | loan (loan : LoanId)
  | account (account : AccountId)
  | linkedAccount (loan : LoanId)
  | charges (loan : LoanId)
  | hold (transaction : TransactionId) (account : AccountId)
deriving DecidableEq

def Missing.name : Missing → String
  | .loan id => s!"loan {id}"
  | .account id => s!"savings account {id}"
  | .linkedAccount id => s!"savings account linked to loan {id}"
  | .charges id => s!"charges of loan {id}"
  | .hold transaction id => s!"hold transaction {transaction} on savings account {id}"

inductive Rejection where
  | insufficientFunds (account : AccountId)
  | insufficientToHold (account : AccountId)
  | wrongStatus (loan : LoanId) (status wanted : LoanStatus)
deriving DecidableEq

def Rejection.message : Rejection → String
  | .insufficientFunds account => s!"insufficient funds in savings account {account}"
  | .insufficientToHold account => s!"insufficient funds to hold in savings account {account}"
  | .wrongStatus loan status wanted => s!"loan {loan} is {status.label}, cannot move to {wanted.label}"

inductive Service where
  | createChain
  | commit
  | findById
  | findByLoanId
  | history
  | pendingLoads
  | allSteps
  | chainTemplate
  | activeApprovers
  | findApprover
  | findLoan
  | loansWithActiveSchedule
  | upfrontCharges
  | markChargesPaid
  | setLienTransaction
  | forceStatus
deriving DecidableEq, Repr

namespace Service

def all : List Service :=
  [.createChain, .commit, .findById, .findByLoanId, .history, .pendingLoads, .allSteps,
    .chainTemplate, .activeApprovers, .findApprover, .findLoan, .loansWithActiveSchedule,
    .upfrontCharges, .markChargesPaid, .setLienTransaction, .forceStatus]

def name : Service → String
  | .createChain => "create_chain"
  | .commit => "commit"
  | .findById => "find_by_id"
  | .findByLoanId => "find_by_loan_id"
  | .history => "history"
  | .pendingLoads => "pending_loads"
  | .allSteps => "all_steps"
  | .chainTemplate => "chain_template"
  | .activeApprovers => "active_approvers"
  | .findApprover => "find_approver"
  | .findLoan => "find_loan"
  | .loansWithActiveSchedule => "loans_with_active_schedule"
  | .upfrontCharges => "upfront_charges"
  | .markChargesPaid => "mark_charges_paid"
  | .setLienTransaction => "set_lien_transaction"
  | .forceStatus => "force_status"

end Service

inductive Outage where
  | failing (op : LedgerOp)
  | down (service : Service)
deriving DecidableEq

def Outage.message : Outage → String
  | .failing op => s!"{op.name} failed"
  | .down service => s!"{service.name} is down"

inductive LedgerError where
  | notFound (what : Missing)
  | rejected (why : Rejection)
  | unavailable (outage : Outage)
deriving DecidableEq

def LedgerError.message : LedgerError → String
  | .notFound what => s!"{what.name} not found"
  | .rejected why => s!"ledger rejected the operation: {why.message}"
  | .unavailable outage => s!"ledger unavailable: {outage.message}"

inductive LedgerTask where
  | loadLoan
  | appendNote
  | submitLoan
  | findAccount
  | loadCharges
  | withdrawFees
  | markFeesPaid
  | holdCharges
  | disburseLoan
  | markHoldsPaid
  | releasePreviousLien
  | recordLien
  | repairStatus
  | rejectLoan
  | releaseLien
  | undoApproval
  | listScheduled
deriving DecidableEq, Repr

def LedgerTask.name : LedgerTask → String
  | .loadLoan => "load loan"
  | .appendNote => "append note"
  | .submitLoan => "submit loan for approval"
  | .findAccount => "find linked savings account"
  | .loadCharges => "load upfront charges"
  | .withdrawFees => "withdraw upfront fees"
  | .markFeesPaid => "mark upfront fees paid"
  | .holdCharges => "hold upfront charges"
  | .disburseLoan => "disburse loan"
  | .markHoldsPaid => "mark upfront holds paid"
  | .releasePreviousLien => "release previous lien"
  | .recordLien => "record lien"
  | .repairStatus => "repair loan status"
  | .rejectLoan => "reject loan"
  | .releaseLien => "release lien"
  | .undoApproval => "undo loan approval"
  | .listScheduled => "list loans with active approval schedule"

inductive StateViolation where
  | foreignStep (step : StepId) (loan : LoanId)
  | notPending (step : StepId) (status : StepStatus)
  | foreignTarget (target : StepId) (loan : LoanId)
  | targetNotApproved (target : StepId) (status : StepStatus)
  | targetNotBelow (target : StepId) (targetRank rank : Nat)
deriving DecidableEq

def StateViolation.message : StateViolation → String
  | .foreignStep step loan => s!"step {step} does not belong to loan {loan}"
  | .notPending step status =>
    s!"step {step} is {status.name}, only a PENDING step can be acted on"
  | .foreignTarget target loan => s!"undo target {target} does not belong to loan {loan}"
  | .targetNotApproved target status => s!"undo target {target} is {status.name}, expected APPROVED"
  | .targetNotBelow target targetRank rank =>
    s!"undo target {target} has rank {targetRank}, expected a rank below {rank}"

inductive Invalid where
  | amountNotPositive
  | template (fault : Template.Fault)
  | templateExists (product : ProductId)
  | lienRefused (loan : LoanId) (cause : LedgerError)
deriving DecidableEq

def Invalid.message : Invalid → String
  | .amountNotPositive => "Amount must be positive"
  | .template broken => broken.message
  | .templateExists product => s!"Product {product} already has an approval chain template"
  | .lienRefused loan cause => s!"Cannot place lien for loan {loan}: {cause.message}"

inductive CommandError where
  | invalidState (violation : StateViolation)
  | undoNotAllowed (step : StepId)
  | stepNotFound (step : StepId)
  | loanNotFound (loan : LoanId)
  | approverNotFound (approver : ApproverId)
  | noEligibleApprover (role : RoleId)
  | chainExists (loan : LoanId)
  | ledgerFailed (task : LedgerTask)
  | invalid (what : Invalid)
  | down (service : Service)
deriving DecidableEq

def CommandError.message : CommandError → String
  | .invalidState violation => s!"Invalid approval state: {violation.message}"
  | .undoNotAllowed step => s!"Step {step} cannot be undone: no approved step to return to"
  | .stepNotFound step => s!"Approval step {step} not found"
  | .loanNotFound loan => s!"Loan {loan} not found"
  | .approverNotFound approver => s!"Approver {approver} not found or inactive"
  | .noEligibleApprover role => s!"No eligible approver for authority role {role}"
  | .chainExists loan => s!"Loan {loan} already has an approval chain"
  | .ledgerFailed task => s!"Data integrity issue while executing '{task.name}'"
  | .invalid what => s!"Validation error: {what.message}"
  | .down service => s!"Internal error: {service.name} is down"

end Countersign
