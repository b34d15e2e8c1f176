import Countersign.Json.Decode
import Countersign.Loan

/-!
Loans and charges in JSON.
-/

namespace Countersign

def Json.date? (j : Json) : Option Date := j.text? >>= fun text => (Date.ofText text).toOption

def Json.ofDate (date : Date) : Json := .ofText date.toText

namespace LoanStatus

def choices : List (String × LoanStatus) := all.map fun status => (status.name, status)

def ofJson? : Json → Option LoanStatus := Json.choice? choices Json.isNull

def toJson (status : LoanStatus) : Json := .ofText status.name

end LoanStatus

namespace Loan

def fieldNames : List String :=
  ["id", "productId", "principal", "status", "expectedDisbursementDate", "lienTransactionId",
    "approvalScheduleActive"]

/-- Reads the fields of a loan, the status by a reader of its own. -/
def ofFields? (status? : Json → Option LoanStatus) (fields : Json.Fields) : Option Loan := do
  some {
    id := ← fields.required "id" Json.id?
    product := ← fields.required "productId" Json.id?
    principal := ← fields.required "principal" Json.decimal?
    status := ← fields.required "status" status?
    expectedDisbursement :=
      ← fields.withDefault "expectedDisbursementDate" (Json.nullable? Json.date?) none
    lien := ← fields.withDefault "lienTransactionId" (Json.nullable? Json.id?) none
    scheduleActive := ← fields.withDefault "approvalScheduleActive" Json.bool? false }

def ofJson? (j : Json) : Option Loan :=
  Json.fields? fieldNames j >>= ofFields? LoanStatus.ofJson?

def toJson (loan : Loan) : Json := .record [
  ("id", .ofNat loan.id),
  ("productId", .ofNat loan.product),
  ("principal", .ofDecimal loan.principal),
  ("status", loan.status.toJson),
  ("expectedDisbursementDate", .ofOption .ofDate loan.expectedDisbursement),
  ("lienTransactionId", .ofOption .ofNat loan.lien),
  ("approvalScheduleActive", .bool loan.scheduleActive)]

end Loan

namespace ChargeKind

def choices : List (String × ChargeKind) := all.map fun kind => (kind.name, kind)

def ofJson? : Json → Option ChargeKind := Json.choice? choices Json.isNull

end ChargeKind

namespace Charge

def fieldNames : List String := ["id", "kind", "amountOutstanding", "fullyPaid"]

def ofJson? (j : Json) : Option Charge := do
  let fields ← Json.fields? fieldNames j
  some {
    id := ← fields.required "id" Json.id?
    kind := ← fields.required "kind" ChargeKind.ofJson?
    outstanding := ← fields.required "amountOutstanding" Json.decimal?
    fullyPaid := ← fields.withDefault "fullyPaid" Json.bool? false }

def toJson (charge : Charge) : Json := .record [
  ("id", .ofNat charge.id),
  ("kind", .ofText charge.kind.name),
  ("amountOutstanding", .ofDecimal charge.outstanding),
  ("fullyPaid", .bool charge.fullyPaid)]

end Charge

end Countersign
