import Countersign.Engine.Settlement

/-!
The decisions that can be taken at the pending step of a loan: to approve it, to
reject the loan, to send it back to an earlier step, and to hand the step to
somebody else. Each is checked first; then the ledger does its part, and what comes
of it for the steps goes to the store last.
-/

namespace Countersign.Engine

variable {σ : Type}

/-- Has the ledger do its part and then hands the step changes that come of it to the
store as one batch. -/
def carryOut (engine : Engine σ) (loan : LoanId) (step : StepId)
    (part : Work σ (Batch × List Change)) : Work σ Outcome := do
  let (batch, changes) ← part
  engine.services.commit batch
  pure ⟨loan, some step, changes⟩

/-- Submits the loan with its first approval, unless the ledger has it approved or
disbursed already. -/
def submitFirst (engine : Engine σ) (step : Step) (loan : Loan) (date : ValueDate)
    (note : String) : Work σ (List Change) := do
  if step.rank = 0 ∧ loan.status ≠ .approved ∧ loan.status ≠ .active then
    Work.demand .submitLoan (engine.services.submit loan.id loan.principal date note)
    pure [.submittedForApproval]
  else pure []

/-- Makes the next queued step the pending one, or disburses the loan when there is
none. A loan that is active already is not disbursed again. -/
def advance (engine : Engine σ) (step : Step) (loan : Loan) (steps : List Step) (date : ValueDate)
    (payment : Option PaymentTypeId) (note : String) : Work σ (Batch × List Change) := do
  match queuedAbove steps step.rank with
  | some next =>
    pure (Batch.empty.transition next .pending engine.now, [.nextStep next.id next.approver])
  | none =>
    if loan.status = .active then pure (.empty, [])
    else do pure (.empty, ← engine.disburse loan date payment note)

/-- The day of the disbursal: the one given, else the one the loan expects. -/
def valueDate (date : Option Date) (loan : Loan) : ValueDate :=
  match date.or loan.expectedDisbursement with
  | some date => .on date
  | none => .today

def approvePart (engine : Engine σ) (step : Step) (loan : Loan) (steps : List Step) (note : String)
    (date : ValueDate) (payment : Option PaymentTypeId) : Work σ (Batch × List Change) := do
  engine.leaveNote loan.id note
  let submitted ← engine.submitFirst step loan date note
  let (batch, moved) ← engine.advance step loan steps date payment note
  pure (batch.transition step .approved engine.now, submitted ++ moved ++ [.status .approved])

def approve (engine : Engine σ) (loan : LoanId) (step : StepId) (note : String)
    (date : Option Date) (payment : Option PaymentTypeId) : Work σ Outcome := do
  let step ← engine.openStep loan step
  let loan ← engine.requireLoan loan
  let steps ← engine.services.stepsOf loan.id
  engine.carryOut loan.id step.id
    (engine.approvePart step loan steps note (valueDate date loan) payment)

def repairStatus (engine : Engine σ) (loan : Loan) : Work σ (List Change) := do
  if loan.status = .submittedAndPendingApproval then pure []
  else do
    Work.demand .repairStatus (engine.services.forceStatus loan.id .submittedAndPendingApproval)
    pure [.statusRepaired]

/-- Has the ledger reject the loan, which it does only for a loan still awaiting
approval; a loan rejected already is left alone. -/
def refuseLoan (engine : Engine σ) (loan : Loan) (note : String) : Work σ (List Change) := do
  if loan.status = .rejected then pure []
  else do
    let repaired ← engine.repairStatus loan
    Work.demand .rejectLoan (engine.services.reject loan.id .today note)
    pure repaired

/-- Releases the lien of a loan, if it has one; a hold that is gone already counts
as released. -/
def releaseLien (engine : Engine σ) (loan : Loan) : Work σ (List Change) := do
  match loan.lien with
  | none => pure []
  | some lien => do
    let account ← Work.demand .findAccount (engine.services.findAccount loan.id)
    match ← engine.services.release account lien with
    | .ok _ => pure ()
    | .error (.notFound _) => pure ()
    | .error _ => Work.fail (.ledgerFailed .releaseLien)
    Work.demand .recordLien (engine.services.setLien loan.id none)
    pure [.released lien]

def rejectPart (engine : Engine σ) (step : Step) (loan : Loan) (note : String) :
    Work σ (Batch × List Change) := do
  engine.leaveNote loan.id note
  let rejected ← engine.refuseLoan loan note
  let released ← engine.releaseLien loan
  pure (Batch.empty.transition step .rejected engine.now, rejected ++ released ++ [.status .rejected])

def reject (engine : Engine σ) (loan : LoanId) (step : StepId) (note : String) :
    Work σ Outcome := do
  let step ← engine.openStep loan step
  let loan ← engine.requireLoan loan
  engine.carryOut loan.id step.id (engine.rejectPart step loan note)

/-- The step to go back to: an approved step of the loan below the pending one. -/
def undoTarget (engine : Engine σ) (loan : LoanId) (step : Step) (target : Option StepId) :
    Work σ Step := do
  let steps ← engine.services.stepsOf loan
  match target with
  | none =>
    match approvedBelow steps step.rank with
    | some found => pure found
    | none => Work.fail (.undoNotAllowed step.id)
  | some id =>
    match steps.find? (·.id == id) with
    | none => do
      match ← engine.services.findStep id with
      | some _ => Work.fail (.invalidState (.foreignTarget id loan))
      | none => Work.fail (.stepNotFound id)
    | some found =>
      if found.status ≠ .approved then
        Work.fail (.invalidState (.targetNotApproved id found.status))
      else if step.rank ≤ found.rank then
        Work.fail (.invalidState (.targetNotBelow id found.rank step.rank))
      else pure found

def undoSubmission (engine : Engine σ) (loan : Loan) (note : String) : Work σ (List Change) := do
  if loan.status = .approved then
    Work.demand .undoApproval (engine.services.undoApproval loan.id note)
    pure [.approvalUndone]
  else pure []

def undoPart (engine : Engine σ) (step found : Step) (loan : Loan) (note : String) :
    Work σ (Batch × List Change) := do
  engine.leaveNote loan.id note
  let undone ← engine.undoSubmission loan note
  pure ((Batch.empty.transition found .pending engine.now).transition step .queue engine.now,
    undone ++ [.undoneTo found.id, .status .queue])

def undo (engine : Engine σ) (loan : LoanId) (step : StepId) (note : String)
    (target : Option StepId) : Work σ Outcome := do
  let step ← engine.openStep loan step
  if step.rank = 0 then Work.fail (.undoNotAllowed step.id)
  else do
    let found ← engine.undoTarget loan step target
    let loan ← engine.requireLoan loan
    engine.carryOut loan.id step.id (engine.undoPart step found loan note)

def handoverNote (step : Step) (approver : ApproverId) (note : String) : String :=
  let previous := match step.approver with
    | some id => toString id
    | none => "unassigned"
  let text := s!"Approval step {step.rank} reassigned from {previous} to {approver}"
  if Blank.isVoid note then text else s!"{text}: {Blank.trimText note}"

def reassignPart (engine : Engine σ) (step : Step) (loan : LoanId) (note : String)
    (approver : ApproverId) : Work σ (Batch × List Change) := do
  engine.leaveNote loan (handoverNote step approver note)
  let handed := { step with approver := some approver, modified := engine.now }
  pure ((Batch.empty.stage handed).record step.id .reassigned engine.now,
    [.reassigned step.approver approver])

/-- Hands the step over; to the approver who has it already, nothing is done. -/
def reassign (engine : Engine σ) (loan : LoanId) (step : StepId) (note : String)
    (approver : ApproverId) : Work σ Outcome := do
  let step ← engine.openStep loan step
  if step.approver = some approver then pure ⟨loan, some step.id, []⟩
  else do
    match (← engine.services.findApprover approver).filter (·.active) with
    | none => Work.fail (.approverNotFound approver)
    | some _ => engine.carryOut loan step.id (engine.reassignPart step loan note approver)

end Countersign.Engine
