import Countersign.Calendar.Date
import Countersign.Error
import Countersign.Ledger.Journal

/-!
The commands of the workflow and what they answer. An outcome lists what a
command changed; a build may instead leave a loan aside for a reason that an
operator has to mend.
-/

namespace Countersign

inductive Command where
  | scan
  | build (loan : LoanId)
  | approve (loan : LoanId) (step : StepId) (note : String) (date : Option Date)
      (payment : Option PaymentTypeId)
  | reject (loan : LoanId) (step : StepId) (note : String)
  /-- Without a target the nearest approved step below is meant. -/
  | undo (loan : LoanId) (step : StepId) (note : String) (target : Option StepId)
  | reassign (loan : LoanId) (step : StepId) (note : String) (approver : ApproverId)
deriving DecidableEq

inductive Change where
  | submittedForApproval
  | nextStep (step : StepId) (approver : Option ApproverId)
  | disbursed (date : ValueDate)
  | savingsAccount (account : AccountId)
  | feesWithdrawn (total : Decimal) (transaction : TransactionId)
  | amountHeld (total : Decimal) (transaction : TransactionId)
  | released (transaction : TransactionId)
  | settlementIncomplete (tasks : List LedgerTask)
  | statusRepaired
  | approvalUndone
  | undoneTo (step : StepId)
  | status (status : StepStatus)
  | reassigned (previous : Option ApproverId) (approver : ApproverId)
  | chainCreated (steps : List StepId) (approvers : List (Option ApproverId))
deriving DecidableEq

structure Outcome where
  loan : LoanId
  step : Option StepId
  changes : List Change
deriving DecidableEq

inductive SkipReason where
  | noTemplate
  | noCoveringAuthority
  | noEligibleApprovers
deriving DecidableEq, Repr

def SkipReason.name : SkipReason → String
  | .noTemplate => "no_template"
  | .noCoveringAuthority => "no_covering_authority"
  | .noEligibleApprovers => "no_eligible_approvers"

inductive Build where
  | created (outcome : Outcome)
  | skipped (loan : LoanId) (reason : SkipReason)
deriving DecidableEq

structure ScanReport where
  created : List LoanId
  skipped : List (LoanId × SkipReason)
  failed : List LoanId
deriving DecidableEq

inductive Answer where
  | done (outcome : Outcome)
  | built (build : Build)
  | scanned (report : ScanReport)
deriving DecidableEq

end Countersign
