/-!
Identifiers are natural numbers, one name for each kind of thing identified.
Those that come from outside have 64 bits; the readers see to it.
-/

namespace Countersign

abbrev LoanId := Nat
abbrev StepId := Nat
abbrev ApproverId := Nat
abbrev RoleId := Nat
abbrev ProductId := Nat
abbrev AccountId := Nat
abbrev ChargeId := Nat
abbrev TransactionId := Nat
abbrev PaymentTypeId := Nat

end Countersign
