import Countersign.Json.Decode
import Countersign.Step

/-!
Steps and history rows in JSON.
-/

namespace Countersign

def Json.timestamp? (j : Json) : Option Timestamp := j.text? >>= Timestamp.ofText?

def Json.ofTimestamp (time : Timestamp) : Json := .ofText time.toText

namespace StepStatus

def choices : List (String × StepStatus) := all.map fun status => (status.name, status)

def ofJson? : Json → Option StepStatus := Json.choice? choices Json.isNull

def toJson (status : StepStatus) : Json := .ofText status.name

end StepStatus

namespace Step

def fieldNames : List String :=
  ["id", "loanId", "rank", "status", "assignedApproverId", "createdAt", "modifiedAt"]

def ofJson? (j : Json) : Option Step := do
  let fields ← Json.fields? fieldNames j
  some {
    id := ← fields.required "id" Json.id?
    loan := ← fields.required "loanId" Json.id?
    rank := ← fields.required "rank" Json.small?
    status := ← fields.required "status" StepStatus.ofJson?
    approver := ← fields.optional "assignedApproverId" Json.id?
    created := ← fields.required "createdAt" Json.timestamp?
    modified := ← fields.required "modifiedAt" Json.timestamp? }

def toJson (step : Step) : Json := .record [
  ("id", .ofNat step.id),
  ("loanId", .ofNat step.loan),
  ("rank", .ofNat step.rank),
  ("status", step.status.toJson),
  ("assignedApproverId", .ofOption .ofNat step.approver),
  ("createdAt", .ofTimestamp step.created),
  ("modifiedAt", .ofTimestamp step.modified)]

end Step

namespace HistoryRow

def fieldNames : List String := ["stepId", "status", "timestamp"]

def ofJson? (j : Json) : Option HistoryRow := do
  let fields ← Json.fields? fieldNames j
  some {
    step := ← fields.required "stepId" Json.id?
    status := ← fields.required "status" StepStatus.ofJson?
    time := ← fields.required "timestamp" Json.timestamp? }

def toJson (row : HistoryRow) : Json := .record [
  ("stepId", .ofNat row.step),
  ("status", row.status.toJson),
  ("timestamp", .ofTimestamp row.time)]

end HistoryRow

end Countersign
