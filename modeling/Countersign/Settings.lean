import Countersign.Identifier
import Countersign.Json.Decode

/-!
What the operator can tune: the decimals of ledger amounts, and the payment type
of fee withdrawals when an approval names none.
-/

namespace Countersign

structure Settings where
  moneyScale : Nat
  feePaymentType : PaymentTypeId
deriving DecidableEq

namespace Settings

def standard : Settings := ⟨2, 1⟩

def fieldNames : List String := ["moneyScale", "feePaymentTypeId"]

def ofJson? (j : Json) : Option Settings := do
  let fields ← Json.fields? fieldNames j
  some {
    moneyScale := ← fields.withDefault "moneyScale" Json.small? standard.moneyScale
    feePaymentType := ← fields.withDefault "feePaymentTypeId" Json.id? standard.feePaymentType }

def toJson (settings : Settings) : Json := .record [
  ("moneyScale", .ofNat settings.moneyScale),
  ("feePaymentTypeId", .ofNat settings.feePaymentType)]

end Settings

end Countersign
