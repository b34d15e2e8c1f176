import Countersign.Ledger.Basic

/-!
What the steps of a ledger operation come to on a given ledger. Each statement
tells the answer and the ledger after it, so that an operation can be followed
from step to step without opening the monad.
-/

namespace Countersign.Ledger

theorem check_apply (op : LedgerOp) (ledger : Ledger) :
    check op ledger =
      if ledger.failing.contains op then .error (.refused (.unavailable (.failing op))) ledger
      else .ok () ledger := by
  change (if ledger.failing.contains op then refuse (.unavailable (.failing op))
    else pure () : Op Unit) ledger = _
  split <;> rfl

theorem requireLoan_apply (id : LoanId) (ledger : Ledger) :
    requireLoan id ledger =
      match ledger.loans.get? id with
      | some loan => .ok loan ledger
      | none => .error (.refused (.notFound (.loan id))) ledger := by
  change (match ledger.loans.get? id with
    | some found => pure found
    | none => refuse (.notFound (.loan id)) : Op Loan) ledger = _
  cases ledger.loans.get? id <;> rfl

theorem requireAccount_apply (id : AccountId) (ledger : Ledger) :
    requireAccount id ledger =
      match ledger.accounts.get? id with
      | some account => .ok account ledger
      | none => .error (.refused (.notFound (.account id))) ledger := by
  change (match ledger.accounts.get? id with
    | some found => pure found
    | none => refuse (.notFound (.account id)) : Op Account) ledger = _
  cases ledger.accounts.get? id <;> rfl

theorem requireLink_apply (loan : LoanId) (ledger : Ledger) :
    requireLink loan ledger =
      match ledger.links.get? loan with
      | some account => .ok account ledger
      | none => .error (.refused (.notFound (.linkedAccount loan))) ledger := by
  change (match ledger.links.get? loan with
    | some found => pure found
    | none => refuse (.notFound (.linkedAccount loan)) : Op AccountId) ledger = _
  cases ledger.links.get? loan <;> rfl

theorem changeAccount_apply (id : AccountId) (change : Account → Except Stop Account)
    (ledger : Ledger) :
    changeAccount id change ledger =
      match ledger.accounts.get? id with
      | none => .error (.refused (.notFound (.account id))) ledger
      | some account =>
        match change account with
        | .ok changed => .ok () { ledger with accounts := ledger.accounts.insert id changed }
        | .error stop => .error stop ledger := by
  simp only [changeAccount, bind, EStateM.bind, requireAccount_apply]
  cases ledger.accounts.get? id with
  | none => rfl
  | some account =>
    dsimp only
    cases change account <;> rfl

theorem transition_apply (id : LoanId) (sources : List LoanStatus) (target : LoanStatus)
    (ledger : Ledger) :
    transition id sources target ledger =
      match ledger.loans.get? id with
      | none => .error (.refused (.notFound (.loan id))) ledger
      | some loan =>
        if sources.contains loan.status then
          .ok () { ledger with loans := ledger.loans.insert id { loan with status := target } }
        else .error (.refused (.rejected (.wrongStatus id loan.status target))) ledger := by
  simp only [transition, bind, EStateM.bind, requireLoan_apply]
  cases ledger.loans.get? id with
  | none => rfl
  | some loan =>
    dsimp only
    split <;> rfl

end Countersign.Ledger
