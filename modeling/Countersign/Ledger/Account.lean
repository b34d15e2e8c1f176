import Countersign.Error
import Countersign.Table

/-!
Savings accounts. Money on hold is set apart from what is available, one hold
per transaction; a release gives back exactly what its hold set apart.
-/

namespace Countersign

/-- Why an operation of the ledger ends early: the ledger refuses it, or a sum of
money does not fit. -/
inductive Ledger.Stop where
  | refused (error : LedgerError)
  | overflow (what : Decimal.Overflow)
deriving DecidableEq

structure Account where
  id : AccountId
  available : Decimal
  held : Decimal
  holds : Table Decimal
deriving DecidableEq

namespace Account

def opened (id : AccountId) (available : Decimal) : Account := ⟨id, available, .zero, .empty⟩

def sum (result : Except Decimal.Overflow Decimal) : Except Ledger.Stop Decimal :=
  result.mapError .overflow

def withdraw (account : Account) (amount : Decimal) : Except Ledger.Stop Account :=
  if amount ≤ account.available then do
    let available ← sum (account.available.sub amount)
    .ok { account with available := available }
  else .error (.refused (.rejected (.insufficientFunds account.id)))

def hold (account : Account) (transaction : TransactionId) (amount : Decimal) :
    Except Ledger.Stop Account :=
  if amount ≤ account.available then do
    let available ← sum (account.available.sub amount)
    let held ← sum (account.held.add amount)
    .ok { account with
      available := available, held := held, holds := account.holds.insert transaction amount }
  else .error (.refused (.rejected (.insufficientToHold account.id)))

def release (account : Account) (transaction : TransactionId) : Except Ledger.Stop Account :=
  match account.holds.get? transaction with
  | none => .error (.refused (.notFound (.hold transaction account.id)))
  | some amount => do
    let held ← sum (account.held.sub amount)
    let available ← sum (account.available.add amount)
    .ok { account with
      available := available, held := held, holds := account.holds.erase transaction }

end Account

end Countersign
