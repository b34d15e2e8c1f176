import Countersign.Calendar.Date
import Countersign.Decimal.Basic
import Countersign.Identifier

/-!
Loans and their charges, as the ledger holds them.
-/

namespace Countersign

inductive LoanStatus where
  | submittedAndPendingApproval
  | approved
  | active
  | rejected
  | closed
deriving DecidableEq, Repr

namespace LoanStatus

def all : List LoanStatus := [.submittedAndPendingApproval, .approved, .active, .rejected, .closed]

def name : LoanStatus → String
  | .submittedAndPendingApproval => "submitted_and_pending_approval"
  | .approved => "approved"
  | .active => "active"
  | .rejected => "rejected"
  | .closed => "closed"

/-- The name in the ledger's messages. -/
def label : LoanStatus → String
  | .submittedAndPendingApproval => "SubmittedAndPendingApproval"
  | .approved => "Approved"
  | .active => "Active"
  | .rejected => "Rejected"
  | .closed => "Closed"

end LoanStatus

structure Loan where
  id : LoanId
  product : ProductId
  principal : Decimal
  status : LoanStatus
  expectedDisbursement : Option Date
  /-- The hold that is placed on the linked savings account for this loan. -/
  lien : Option TransactionId
  scheduleActive : Bool
deriving DecidableEq

inductive ChargeKind where
  /-- Taken from the linked savings account when the loan is disbursed. -/
  | upfrontFee
  /-- Held on the linked savings account when the loan is disbursed. -/
  | upfrontHold
  | other
deriving DecidableEq, Repr

namespace ChargeKind

def all : List ChargeKind := [.upfrontFee, .upfrontHold, .other]

def name : ChargeKind → String
  | .upfrontFee => "upfront_fee"
  | .upfrontHold => "upfront_hold"
  | .other => "other"

end ChargeKind

structure Charge where
  id : ChargeId
  kind : ChargeKind
  outstanding : Decimal
  fullyPaid : Bool
deriving DecidableEq

namespace Charge

def isOutstanding (charge : Charge) (kind : ChargeKind) : Bool :=
  charge.kind == kind && !charge.fullyPaid && decide (Decimal.zero < charge.outstanding)

def settled (charge : Charge) : Charge :=
  { charge with fullyPaid := true, outstanding := .zero }

end Charge

end Countersign
