import Countersign.Services
import Countersign.Settings

/-!
The engine carries out the commands of the workflow one at a time. A command
first checks whether it may go ahead, then has the ledger do its part, and last
hands all step changes to the store as one batch. So a command that fails in the
ledger leaves the chain as it was.

Whatever an attempt got done in the ledger before it failed is not done again,
so a failed command can be tried again until it succeeds.
-/

namespace Countersign

structure Engine (σ : Type) where
  services : Services σ
  settings : Settings
  now : Timestamp

/-- The lowest queued step above a rank, of steps in the order of their ranks. -/
def queuedAbove (steps : List Step) (rank : Nat) : Option Step :=
  steps.find? fun step => decide (rank < step.rank) && step.status == .queue

def approvedBelow (steps : List Step) (rank : Nat) : Option Step :=
  steps.reverse.find? fun step => decide (step.rank < rank) && step.status == .approved

namespace Engine

variable {σ : Type}

def requireLoan (engine : Engine σ) (id : LoanId) : Work σ Loan := do
  match ← Work.demand .loadLoan (engine.services.findLoan id) with
  | some loan => pure loan
  | none => Work.fail (.loanNotFound id)

def openStep (engine : Engine σ) (loan : LoanId) (id : StepId) : Work σ Step := do
  match ← engine.services.findStep id with
  | none => Work.fail (.stepNotFound id)
  | some step =>
    if step.loan ≠ loan then Work.fail (.invalidState (.foreignStep id loan))
    else if step.status ≠ .pending then Work.fail (.invalidState (.notPending id step.status))
    else pure step

/-- A note of blanks alone is no note. -/
def leaveNote (engine : Engine σ) (loan : LoanId) (note : String) : Work σ Unit :=
  if Blank.isVoid note then pure ()
  else Work.demand .appendNote (engine.services.appendNote loan note)

end Engine

end Countersign
