import Countersign.Proofs.AccountChange
import Countersign.Proofs.LedgerMove

/-!
The order in the ledger that every command relies on and none disturbs: a loan stands under
its own id, and a hold has the number of a transaction that was given out.
-/

namespace Countersign.Ledger

structure InOrder (ledger : Ledger) : Prop where
  keyed : ∀ id loan, ledger.loans.get? id = some loan → loan.id = id
  issued : ∀ id account transaction amount, ledger.accounts.get? id = some account →
    account.holds.get? transaction = some amount → transaction ≤ ledger.lastTransaction

variable {loan : LoanId} {ledger : Ledger}

theorem InOrder.insert_loan (inOrder : ledger.InOrder) {id : LoanId} {record : Loan} (named : record.id = id) :
    ∀ other found, (ledger.loans.insert id record).get? other = some found → found.id = other := by
  intro other found is
  rw [Table.get?_insert] at is
  by_cases same : other = id
  · rw [if_pos same] at is
    cases is
    exact named.trans same.symm
  · rw [if_neg same] at is
    exact inOrder.keyed other found is

theorem InOrder.insert_account (inOrder : ledger.InOrder) {id : AccountId} {changed : Account} {last : TransactionId}
    (later : ledger.lastTransaction ≤ last)
    (issued : ∀ transaction amount, changed.holds.get? transaction = some amount → transaction ≤ last) :
    ∀ other account transaction amount, (ledger.accounts.insert id changed).get? other = some account →
      account.holds.get? transaction = some amount → transaction ≤ last := by
  intro other account transaction amount is held
  rw [Table.get?_insert] at is
  by_cases same : other = id
  · rw [if_pos same] at is
    cases is
    exact issued transaction amount held
  · rw [if_neg same] at is
    exact Nat.le_trans (inOrder.issued other account transaction amount is held) later

theorem InOrder.fresh (inOrder : ledger.InOrder) {id : AccountId} {account : Account}
    (found : ledger.accounts.get? id = some account) : account.holds.get? (ledger.lastTransaction + 1) = none := by
  cases held : account.holds.get? (ledger.lastTransaction + 1) with
  | none => rfl
  | some amount => exact absurd (inOrder.issued id account _ amount found held) (Nat.not_succ_le_self _)

theorem InOrder.hold (inOrder : ledger.InOrder) {id : AccountId} {account changed : Account} {amount : Decimal}
    (found : ledger.accounts.get? id = some account)
    (held : account.hold (ledger.lastTransaction + 1) amount = .ok changed) (transaction : TransactionId)
    (sum : Decimal) (is : changed.holds.get? transaction = some sum) : transaction ≤ ledger.lastTransaction + 1 := by
  obtain ⟨_, _, _, _, _, rfl⟩ := (Account.hold_ok_iff ..).mp held
  rw [Table.get?_insert] at is
  by_cases new : transaction = ledger.lastTransaction + 1
  · exact Nat.le_of_eq new
  · rw [if_neg new] at is
    exact Nat.le_succ_of_le (inOrder.issued id account transaction sum found is)

theorem InOrder.release (inOrder : ledger.InOrder) {id : AccountId} {account changed : Account}
    {gone : TransactionId} (found : ledger.accounts.get? id = some account)
    (released : account.release gone = .ok changed) (transaction : TransactionId)
    (sum : Decimal) (is : changed.holds.get? transaction = some sum) : transaction ≤ ledger.lastTransaction := by
  obtain ⟨_, _, _, _, _, _, rfl⟩ := (Account.release_ok_iff ..).mp released
  rw [Table.get?_erase] at is
  by_cases same : transaction = gone
  · rw [if_pos same] at is
    cases is
  · rw [if_neg same] at is
    exact inOrder.issued id account transaction sum found is

theorem Move.inOrder {after : Ledger} (move : Move loan ledger after) (inOrder : ledger.InOrder) : after.InOrder := by
  cases move with
  | note text => exact ⟨inOrder.keyed, inOrder.issued⟩
  | pass found passage =>
    have named := inOrder.keyed _ _ found
    exact ⟨inOrder.insert_loan named, inOrder.issued⟩
  | lien found lien =>
    have named := inOrder.keyed _ _ found
    exact ⟨inOrder.insert_loan named, inOrder.issued⟩
  | mark found ids => exact ⟨inOrder.keyed, inOrder.issued⟩
  | number =>
    refine ⟨inOrder.keyed, fun id account transaction amount found held => ?_⟩
    exact Nat.le_succ_of_le (inOrder.issued id account transaction amount found held)
  | hold amount linked found held =>
    exact ⟨inOrder.keyed, inOrder.insert_account (Nat.le_succ _) (inOrder.hold found held)⟩
  | withdraw amount payment linked found withdrawn =>
    obtain ⟨_, _, _, rfl⟩ := (Account.withdraw_ok_iff ..).mp withdrawn
    refine ⟨inOrder.keyed, inOrder.insert_account (Nat.le_succ _) fun transaction sum held => ?_⟩
    exact Nat.le_succ_of_le (inOrder.issued _ _ transaction sum found held)
  | release linked found released =>
    exact ⟨inOrder.keyed, inOrder.insert_account (Nat.le_refl _) (inOrder.release found released)⟩

theorem Disbursal.inOrder {after : Ledger} (disbursal : Disbursal loan ledger after) (inOrder : ledger.InOrder) :
    after.InOrder := by
  cases disbursal with
  | paid amount date payment found ready =>
    have named := inOrder.keyed _ _ found
    exact ⟨inOrder.insert_loan named, inOrder.issued⟩

theorem Course.inOrder {after : Ledger} (course : Course loan ledger after) (inOrder : ledger.InOrder) :
    after.InOrder :=
  course.keeps InOrder (fun _ _ => Move.inOrder) (fun _ _ => Disbursal.inOrder) inOrder

theorem Path.inOrder {after : Ledger} (path : Path loan ledger after) (inOrder : ledger.InOrder) : after.InOrder :=
  path.keeps InOrder (fun _ _ => Move.inOrder) inOrder

end Countersign.Ledger
