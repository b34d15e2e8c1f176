import Countersign.Desk
import Countersign.Engine.Basic
import Countersign.Proofs.AccountChange
import Countersign.Proofs.LedgerOperation

/-!
Services that lose nothing. They are those of the desk, but money that is moved on an
account has to move its balances by exactly its value; where a sum would give up decimals
that count, it is taken as one that does not fit.
-/

namespace Countersign

namespace Ledger

def balances (ledger : Ledger) (id : AccountId) : Option (Int × Int) :=
  (ledger.account? id).map fun account => (account.available.units, account.held.units)

/-- The operation, if it moves the balances of the account by exactly this much. -/
def exactly {α : Type} (id : AccountId) (available held : Int) (op : Op α) : Op α := fun ledger =>
  match op ledger with
  | .ok answer after =>
    if after.balances id = (ledger.balances id).map fun (a, h) => (a + available, h + held) then .ok answer after
    else .error (.overflow .addition) after
  | .error stop after => .error stop after

def holdOf (ledger : Ledger) (id : AccountId) (transaction : TransactionId) : Option Decimal :=
  (ledger.account? id).bind (·.holds.get? transaction)

def heldFor (ledger : Ledger) (id : AccountId) (transaction : TransactionId) : Int :=
  ((ledger.holdOf id transaction).map Decimal.units).getD 0

def exactHold (amount : Amount) (loan : Option LoanId) (account : AccountId) : Op TransactionId :=
  exactly account (-amount.value.units) amount.value.units (hold amount loan account)

def exactWithdraw (amount : Amount) (account : AccountId) (payment : PaymentTypeId) : Op TransactionId :=
  exactly account (-amount.value.units) 0 (withdraw amount account payment)

def exactRelease (account : AccountId) (transaction : TransactionId) : Op Unit := fun ledger =>
  exactly account (ledger.heldFor account transaction) (-ledger.heldFor account transaction)
    (release account transaction) ledger

end Ledger

def Desk.exactServices : Services Desk :=
  { Desk.services with
    hold := fun amount loan account _ => Desk.onLedger (Ledger.exactHold amount loan account)
    release := fun account transaction => Desk.onLedger (Ledger.exactRelease account transaction)
    withdraw := fun amount account _ payment => Desk.onLedger (Ledger.exactWithdraw amount account payment) }

/-- The engine at work on a desk where nothing is lost. -/
abbrev Desk.exactEngine (settings : Settings) (now : Timestamp) : Engine Desk := ⟨Desk.exactServices, settings, now⟩

namespace Ledger

theorem exactly_ends {α : Type} {id : AccountId} {available held : Int} {op : Op α} {ledger : Ledger}
    {done : α → Ledger → Prop} {stopped : Stop → Ledger → Prop} (call : Ends op ledger done stopped) :
    Ends (exactly id available held op) ledger
      (fun answer after => done answer after ∧
        after.balances id = (ledger.balances id).map fun (a, h) => (a + available, h + held))
      fun stop after => (∃ what, stop = .overflow what) ∨ stopped stop after := by
  unfold Ends exactly
  unfold Ends at call
  cases ran : op ledger with
  | ok answer after =>
    rw [ran] at call
    dsimp only at call ⊢
    by_cases same : after.balances id = (ledger.balances id).map fun (a, h) => (a + available, h + held)
    · rw [if_pos same]
      exact ⟨call, same⟩
    · rw [if_neg same]
      exact Or.inl ⟨_, rfl⟩
  | error stop after =>
    rw [ran] at call
    exact Or.inr call

theorem shifts_of_balances {before after : Ledger} {id : AccountId} {account changed : Account}
    {available held : Int} (found : before.accounts.get? id = some account)
    (foundAfter : after.accounts.get? id = some changed)
    (balances : after.balances id = (before.balances id).map fun (a, h) => (a + available, h + held)) :
    account.Shifts available held changed := by
  unfold Ledger.balances account? at balances
  rw [found, foundAfter] at balances
  obtain ⟨movedAvailable, movedHeld⟩ := Prod.mk.inj (Option.some_inj.mp balances)
  exact ⟨movedAvailable, movedHeld⟩

theorem exactWithdraw_ends (amount : Amount) (id : AccountId) (payment : PaymentTypeId) (ledger : Ledger) :
    Ends (exactWithdraw amount id payment) ledger
      (fun _ after => ∃ account changed, ledger.accounts.get? id = some account ∧
        account.withdraw amount.value = .ok changed ∧ account.Shifts (-amount.value.units) 0 changed ∧
          after = ledger.numbered.moved id changed
            (.withdraw id amount.value payment (ledger.lastTransaction + 1))) fun _ _ => True := by
  refine (exactly_ends (move_ends .withdraw id (fun _ account => account.withdraw amount.value)
    (.withdraw id amount.value payment) ledger)).imp ?_ fun _ _ _ => trivial
  intro _ _ ended
  obtain ⟨⟨_, rfl, account, changed, found, withdrawn, rfl⟩, balances⟩ := ended
  exact ⟨account, changed, found, withdrawn, shifts_of_balances found (Table.get?_insert_self ..) balances, rfl⟩

theorem exactHold_ends (amount : Amount) (loan : Option LoanId) (id : AccountId) (ledger : Ledger) :
    Ends (exactHold amount loan id) ledger
      (fun transaction after => transaction = ledger.lastTransaction + 1 ∧ ∃ account changed,
        ledger.accounts.get? id = some account ∧ account.hold transaction amount.value = .ok changed ∧
          account.Shifts (-amount.value.units) amount.value.units changed ∧
          after = ledger.numbered.moved id changed
            (.hold id loan amount.value (ledger.lastTransaction + 1))) fun _ _ => True := by
  refine (exactly_ends (move_ends .hold id (fun transaction account => account.hold transaction amount.value)
    (.hold id loan amount.value) ledger)).imp ?_ fun _ _ _ => trivial
  intro _ _ ended
  obtain ⟨⟨_, rfl, account, changed, found, held, rfl⟩, balances⟩ := ended
  exact ⟨rfl, account, changed, found, held, shifts_of_balances found (Table.get?_insert_self ..) balances, rfl⟩

theorem exactRelease_ends (id : AccountId) (transaction : TransactionId) (ledger : Ledger) :
    Ends (exactRelease id transaction) ledger
      (fun _ after => ∃ account changed amount, ledger.accounts.get? id = some account ∧
        account.holds.get? transaction = some amount ∧ account.release transaction = .ok changed ∧
          account.Shifts amount.units (-amount.units) changed ∧
            after = ledger.moved id changed (.release id transaction))
      fun stop after => (∃ what, stop = .overflow what) ∨ after = ledger ∧
        (.release ∈ ledger.failing ∧ stop = .refused (.unavailable (.failing .release)) ∨
          ledger.accounts.get? id = none ∧ stop = .refused (.notFound (.account id)) ∨
          ∃ account, ledger.accounts.get? id = some account ∧ account.holds.get? transaction = none ∧
            stop = .refused (.notFound (.hold transaction account.id))) := by
  apply (exactly_ends (release_ends id transaction ledger)).imp
  · intro _ _ ended
    obtain ⟨⟨_, account, changed, found, released, rfl⟩, balances⟩ := ended
    have shifts := shifts_of_balances found (Table.get?_insert_self ..) balances
    obtain ⟨amount, held, _⟩ := (Account.release_ok_iff ..).mp released
    have givenBack : ledger.heldFor id transaction = amount.units := by
      unfold heldFor holdOf account?
      rw [found, Option.bind_some, held]
      rfl
    rw [givenBack] at shifts
    exact ⟨account, changed, amount, found, held, released, shifts, rfl⟩
  · intro stop after ended
    rcases ended with overflow | ⟨failing | missing | ⟨account, found, stopped⟩, rfl⟩
    · exact Or.inl overflow
    · exact Or.inr ⟨rfl, Or.inl failing⟩
    · exact Or.inr ⟨rfl, Or.inr (Or.inl missing)⟩
    · rcases Account.release_error stopped with ⟨gone, is⟩ | overflow
      · exact Or.inr ⟨rfl, Or.inr (Or.inr ⟨account, found, gone, is⟩)⟩
      · exact Or.inl overflow

end Ledger

end Countersign
