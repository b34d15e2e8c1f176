import Countersign.Command
import Countersign.Json.Decode

/-!
Outcomes in JSON: the changes of a command are the fields of one object.
-/

namespace Countersign

def Change.fields : Change → List (String × Json)
  | .submittedForApproval => [("submittedForApproval", .bool true)]
  | .nextStep step approver =>
    [("nextStepId", .ofNat step), ("nextApproverId", .ofOption .ofNat approver)]
  | .disbursed date => [("disbursed", .bool true), ("disbursementDate", .ofText date.toText)]
  | .savingsAccount account => [("savingsAccountId", .ofNat account)]
  | .feesWithdrawn total transaction =>
    [("feesWithdrawn", .ofDecimal total), ("withdrawalTransactionId", .ofNat transaction)]
  | .amountHeld total transaction =>
    [("amountHeld", .ofDecimal total), ("lienTransactionId", .ofNat transaction)]
  | .released transaction => [("releasedTransactionId", .ofNat transaction)]
  | .settlementIncomplete tasks =>
    [("settlementIncomplete", .ofList (fun task => .ofText task.name) tasks)]
  | .statusRepaired => [("statusRepaired", .bool true)]
  | .approvalUndone => [("approvalUndone", .bool true)]
  | .undoneTo step => [("undoToStepId", .ofNat step)]
  | .status reached => [("status", .ofText reached.name)]
  | .reassigned previous approver =>
    [("previousApproverId", .ofOption .ofNat previous), ("assignedApproverId", .ofNat approver)]
  | .chainCreated steps approvers =>
    [("stepIds", .ofList .ofNat steps),
      ("assignedApproverIds", .ofList (.ofOption .ofNat) approvers)]

def Outcome.toJson (outcome : Outcome) : Json := .record [
  ("loanId", .ofNat outcome.loan),
  ("stepId", .ofOption .ofNat outcome.step),
  ("changes", .record (outcome.changes.flatMap Change.fields))]

end Countersign
