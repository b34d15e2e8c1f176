import Countersign.Engine.Basic

/-!
Upfront charges are settled around the disbursal of a loan. Before it the fees
are withdrawn and marked paid, and the charges to be held are put on hold for
the time being. When the disbursal fails that hold is released again; when it
succeeds the hold becomes the loan's lien in the place of an earlier one. A loan
without a linked savings account has nothing to settle.
-/

namespace Countersign

structure Booking where
  charges : List ChargeId
  total : Decimal
  transaction : TransactionId
deriving DecidableEq

structure Settlement where
  account : AccountId
  fees : Option Booking
  hold : Option Booking
deriving DecidableEq

namespace Charge

def outstandingOf (charges : List Charge) (kind : ChargeKind) : List Charge :=
  charges.filter (·.isOutstanding kind)

/-- What is outstanding, summed as it stands and rounded once. -/
def total (charges : List Charge) (scale : Nat) : Except Decimal.Overflow Decimal :=
  (Decimal.sum (charges.map (·.outstanding))).map (Decimal.round scale)

end Charge

namespace Engine

variable {σ : Type}

/-- The charges of a kind that are outstanding, with their sum if it is positive. -/
def due (engine : Engine σ) (charges : List Charge) (kind : ChargeKind) :
    Work σ (Option (List ChargeId × Amount)) := do
  let outstanding := Charge.outstandingOf charges kind
  let total ← Work.sum (Charge.total outstanding engine.settings.moneyScale)
  pure ((Amount.of? total).map fun amount => (outstanding.map (·.id), amount))

def withdrawFees (engine : Engine σ) (loan : Loan) (account : AccountId) (charges : List Charge)
    (payment : Option PaymentTypeId) : Work σ (Option Booking) := do
  match ← engine.due charges .upfrontFee with
  | none => pure none
  | some (ids, amount) => do
    let transaction ← Work.demand .withdrawFees
      (engine.services.withdraw amount account s!"Upfront fees for loan {loan.id}"
        (payment.getD engine.settings.feePaymentType))
    Work.demand .markFeesPaid (engine.services.markPaid loan.id ids)
    pure (some ⟨ids, amount.value, transaction⟩)

def holdCharges (engine : Engine σ) (loan : Loan) (account : AccountId) (charges : List Charge) :
    Work σ (Option Booking) := do
  match ← engine.due charges .upfrontHold with
  | none => pure none
  | some (ids, amount) => do
    let transaction ← Work.demand .holdCharges
      (engine.services.hold amount (some loan.id) account s!"Upfront hold for loan {loan.id}")
    pure (some ⟨ids, amount.value, transaction⟩)

def settleBefore (engine : Engine σ) (loan : Loan) (payment : Option PaymentTypeId) :
    Work σ (Option Settlement) := do
  match ← engine.services.findAccount loan.id with
  | .error (.notFound _) => pure none
  | .error _ => Work.fail (.ledgerFailed .findAccount)
  | .ok account => do
    let charges ← Work.demand .loadCharges (engine.services.chargesOf loan.id)
    let fees ← engine.withdrawFees loan account charges payment
    let hold ← engine.holdCharges loan account charges
    pure (some ⟨account, fees, hold⟩)

/-- What is done when the disbursal failed; a release that fails too is let be. -/
def unsettle (engine : Engine σ) (settlement : Option Settlement) : Work σ Unit := do
  match settlement with
  | some ⟨account, _, some hold⟩ => do
    let _ ← engine.services.release account hold.transaction
  | _ => pure ()

/-- Whether a call of the ledger went through; what stops the command stops it here too. -/
def succeeds {α : Type} (call : Work σ (Except LedgerError α)) : Work σ Bool := do
  match ← call with
  | .ok _ => pure true
  | .error _ => pure false

def markHoldsPaid (engine : Engine σ) (loan : Loan) (hold : Option Booking) :
    Work σ (List LedgerTask) := do
  match hold with
  | none => pure []
  | some booking => do
    if ← succeeds (engine.services.markPaid loan.id booking.charges) then pure []
    else pure [.markHoldsPaid]

/-- Releases the lien that the loan had so far; a hold that is gone already counts
as released. -/
def releasePrevious (engine : Engine σ) (loan : Loan) (account : AccountId) :
    Work σ (Option TransactionId × List LedgerTask) := do
  match loan.lien with
  | none => pure (none, [])
  | some previous => do
    match ← engine.services.release account previous with
    | .ok _ => pure (some previous, [])
    | .error (.notFound _) => pure (some previous, [])
    | .error _ => pure (none, [.releasePreviousLien])

/-- Records the new lien. An earlier one that could not be released stays recorded. -/
def recordLien (engine : Engine σ) (loan : Loan) (lien released : Option TransactionId) :
    Work σ (List LedgerTask) := do
  if (loan.lien.isNone || released.isSome) && (lien.isSome || released.isSome) then
    if ← succeeds (engine.services.setLien loan.id lien) then pure [] else pure [.recordLien]
  else pure []

/-- What is done after the disbursal. The loan is disbursed by then, so what does
not go through is reported and does not fail the command. -/
def settleAfter (engine : Engine σ) (loan : Loan) (settlement : Option Settlement) :
    Work σ (List Change) := do
  match settlement with
  | none => pure []
  | some ⟨account, fees, hold⟩ => do
    let unmarked ← engine.markHoldsPaid loan hold
    let (released, unreleased) ← engine.releasePrevious loan account
    let unrecorded ← engine.recordLien loan (hold.map (·.transaction)) released
    let incomplete := unmarked ++ unreleased ++ unrecorded
    pure (.savingsAccount account ::
      (fees.map fun booking => .feesWithdrawn booking.total booking.transaction).toList ++
      (hold.map fun booking => .amountHeld booking.total booking.transaction).toList ++
      (released.map .released).toList ++
      if incomplete.isEmpty then [] else [.settlementIncomplete incomplete])

def disburse (engine : Engine σ) (loan : Loan) (date : ValueDate) (payment : Option PaymentTypeId)
    (note : String) : Work σ (List Change) := do
  let settlement ← engine.settleBefore loan payment
  match ← engine.services.disburse loan.id date loan.principal payment note with
  | .error _ => do
    engine.unsettle settlement
    Work.fail (.ledgerFailed .disburseLoan)
  | .ok _ => do
    let settled ← engine.settleAfter loan settlement
    pure (.disbursed date :: settled)

end Engine

end Countersign
