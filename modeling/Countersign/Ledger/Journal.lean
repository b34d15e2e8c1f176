import Countersign.Calendar.Date
import Countersign.Error

/-!
The journal has one entry for each operation that the ledger carried out, in
their order.
-/

namespace Countersign

/-- The day that an operation counts for: a day that was named, or the day on
which the operation is carried out. -/
inductive ValueDate where
  | on (date : Date)
  | today
deriving DecidableEq

def ValueDate.toText : ValueDate → String
  | .on date => date.toText
  | .today => "TODAY"

inductive JournalEntry where
  | submitForApproval (loan : LoanId) (amount : Decimal) (date : ValueDate)
  | disburse (loan : LoanId) (amount : Decimal) (date : ValueDate) (payment : Option PaymentTypeId)
  | hold (account : AccountId) (loan : Option LoanId) (amount : Decimal) (transaction : TransactionId)
  | release (account : AccountId) (transaction : TransactionId)
  | withdraw (account : AccountId) (amount : Decimal) (payment : PaymentTypeId)
      (transaction : TransactionId)
  | reject (loan : LoanId)
  | undoApproval (loan : LoanId)
  | appendNote (loan : LoanId) (text : String)
  | forceStatus (loan : LoanId) (status : LoanStatus)
deriving DecidableEq

def JournalEntry.op : JournalEntry → LedgerOp
  | .submitForApproval .. => .submitForApproval
  | .disburse .. => .disburse
  | .hold .. => .hold
  | .release .. => .release
  | .withdraw .. => .withdraw
  | .reject .. => .reject
  | .undoApproval .. => .undoApproval
  | .appendNote .. => .appendNote
  | .forceStatus .. => .forceStatus

end Countersign
