import Countersign.Services

/-!
Services under watch. Each call of the ledger's gateway is noted with its
outcome, and each service of the store, the directory and the loan records can
be put out of order, at once or after some more calls. A call that is cut off
does not reach the service behind it.
-/

namespace Countersign

inductive GatewayCall where
  | submit (loan : LoanId) (amount : Decimal) (date : ValueDate) (note : String)
  | disburse (loan : LoanId) (date : ValueDate) (amount : Decimal)
      (payment : Option PaymentTypeId) (note : String)
  | hold (amount : Decimal) (loan : Option LoanId) (account : AccountId) (note : String)
  | release (account : AccountId) (transaction : TransactionId)
  | withdraw (amount : Decimal) (account : AccountId) (note : String) (payment : PaymentTypeId)
  | reject (loan : LoanId) (date : ValueDate) (note : String)
  | undoApproval (loan : LoanId) (note : String)
  | appendNote (loan : LoanId) (text : String)
  | findAccount (loan : LoanId)
deriving DecidableEq

/-- A call with its outcome: an error, or the id that was answered, if any. -/
structure Traced where
  call : GatewayCall
  outcome : Except LedgerError (Option Nat)

structure Watched (σ : Type) where
  inner : σ
  trace : List Traced
  /-- How many more calls each broken service lets through. -/
  broken : List (Service × Nat)

namespace Watched

variable {σ α : Type}

def start (inner : σ) : Watched σ := ⟨inner, [], []⟩

def interrupt (watched : Watched σ) (service : Service) (after : Nat) : Watched σ :=
  { watched with broken := (service, after) :: watched.broken.filter (·.1 ≠ service) }

def mend (watched : Watched σ) (service : Service) : Watched σ :=
  { watched with broken := watched.broken.filter (·.1 ≠ service) }

def within (work : Work σ α) : Work (Watched σ) α := fun watched =>
  match work watched.inner with
  | .ok answer inner => .ok answer { watched with inner := inner }
  | .error stop inner => .error stop { watched with inner := inner }

/-- Whether a service takes a call; a broken one counts down first. -/
def letThrough (service : Service) : Work (Watched σ) Bool :=
  modifyGet fun watched =>
    match watched.broken.lookup service with
    | none => (true, watched)
    | some 0 => (false, watched)
    | some (left + 1) => (true, watched.interrupt service left)

def guarded (service : Service) (work : Work σ α) : Work (Watched σ) α := do
  if ← letThrough service then within work else Work.fail (.down service)

def guardedLedger (service : Service) (work : Work σ (Except LedgerError α)) :
    Work (Watched σ) (Except LedgerError α) := do
  if ← letThrough service then within work else pure (.error (.unavailable (.down service)))

def traced (call : GatewayCall) (id? : α → Option Nat) (work : Work σ (Except LedgerError α)) :
    Work (Watched σ) (Except LedgerError α) := do
  let answer ← within work
  modify fun watched => { watched with trace := watched.trace ++ [⟨call, answer.map id?⟩] }
  pure answer

def services (inner : Services σ) : Services (Watched σ) where
  createChain now drafts := guarded .createChain (inner.createChain now drafts)
  commit batch := guarded .commit (inner.commit batch)
  findStep step := guarded .findById (inner.findStep step)
  stepsOf loan := guarded .findByLoanId (inner.stepsOf loan)
  historyOf step := guarded .history (inner.historyOf step)
  pendingLoads approvers := guarded .pendingLoads (inner.pendingLoads approvers)
  allSteps := guarded .allSteps inner.allSteps
  template product := guarded .chainTemplate (inner.template product)
  activeApprovers role := guarded .activeApprovers (inner.activeApprovers role)
  findApprover approver := guarded .findApprover (inner.findApprover approver)
  submit loan amount date note :=
    traced (.submit loan amount date note) (fun _ => none) (inner.submit loan amount date note)
  disburse loan date amount payment note :=
    traced (.disburse loan date amount payment note) (fun _ => none)
      (inner.disburse loan date amount payment note)
  hold amount loan account note :=
    traced (.hold amount.value loan account note) some (inner.hold amount loan account note)
  release account transaction :=
    traced (.release account transaction) (fun _ => none) (inner.release account transaction)
  withdraw amount account note payment :=
    traced (.withdraw amount.value account note payment) some
      (inner.withdraw amount account note payment)
  reject loan date note :=
    traced (.reject loan date note) (fun _ => none) (inner.reject loan date note)
  undoApproval loan note :=
    traced (.undoApproval loan note) (fun _ => none) (inner.undoApproval loan note)
  appendNote loan text := traced (.appendNote loan text) (fun _ => none) (inner.appendNote loan text)
  findAccount loan := traced (.findAccount loan) some (inner.findAccount loan)
  findLoan loan := guardedLedger .findLoan (inner.findLoan loan)
  scheduledLoans := guardedLedger .loansWithActiveSchedule inner.scheduledLoans
  chargesOf loan := guardedLedger .upfrontCharges (inner.chargesOf loan)
  markPaid loan charges := guardedLedger .markChargesPaid (inner.markPaid loan charges)
  setLien loan transaction := guardedLedger .setLienTransaction (inner.setLien loan transaction)
  forceStatus loan status := guardedLedger .forceStatus (inner.forceStatus loan status)

end Watched

end Countersign
