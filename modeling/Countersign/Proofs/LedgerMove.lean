import Countersign.Proofs.LedgerOperation
import Mathlib.Logic.Relation

/-!
What can happen to the books on behalf of a loan. A move is one change that an
operation makes; paying the loan out is set apart from the moves, since nothing takes
it back. Whatever a command does in the ledger is a path of moves, or two of them with
one disbursal between.
-/

namespace Countersign.Ledger

open Relation (ReflTransGen)

/-- The changes of a loan's status that are not its disbursal, each with its entry. -/
inductive Passage (loan : LoanId) : LoanStatus → JournalEntry → LoanStatus → Prop where
  | submitted (amount : Decimal) (date : ValueDate) :
      Passage loan .submittedAndPendingApproval (.submitForApproval loan amount date) .approved
  | rejected : Passage loan .submittedAndPendingApproval (.reject loan) .rejected
  | undone : Passage loan .approved (.undoApproval loan) .submittedAndPendingApproval
  | forced (status : LoanStatus) :
      Passage loan status (.forceStatus loan .submittedAndPendingApproval) .submittedAndPendingApproval

inductive Move (loan : LoanId) : Ledger → Ledger → Prop where
  | note {ledger : Ledger} (text : String) : Move loan ledger (ledger.noted loan text)
  | pass {ledger : Ledger} {record : Loan} {entry : JournalEntry} {target : LoanStatus}
      (found : ledger.loans.get? loan = some record) (passage : Passage loan record.status entry target) :
      Move loan ledger (ledger.passed loan record target entry)
  | lien {ledger : Ledger} {record : Loan} (found : ledger.loans.get? loan = some record)
      (lien : Option TransactionId) : Move loan ledger (ledger.pledged loan record lien)
  | mark {ledger : Ledger} {charges : List Charge} (found : ledger.charges.get? loan = some charges)
      (ids : List ChargeId) : Move loan ledger (ledger.withMarked loan ids charges)
  | number {ledger : Ledger} : Move loan ledger ledger.numbered
  | hold {ledger : Ledger} {id : AccountId} {account changed : Account} (amount : Amount)
      (linked : ledger.links.get? loan = some id) (found : ledger.accounts.get? id = some account)
      (held : account.hold (ledger.lastTransaction + 1) amount.value = .ok changed) :
      Move loan ledger (ledger.numbered.moved id changed
        (.hold id (some loan) amount.value (ledger.lastTransaction + 1)))
  | withdraw {ledger : Ledger} {id : AccountId} {account changed : Account} (amount : Amount)
      (payment : PaymentTypeId) (linked : ledger.links.get? loan = some id)
      (found : ledger.accounts.get? id = some account) (withdrawn : account.withdraw amount.value = .ok changed) :
      Move loan ledger (ledger.numbered.moved id changed
        (.withdraw id amount.value payment (ledger.lastTransaction + 1)))
  | release {ledger : Ledger} {id : AccountId} {account changed : Account} {transaction : TransactionId}
      (linked : ledger.links.get? loan = some id) (found : ledger.accounts.get? id = some account)
      (released : account.release transaction = .ok changed) :
      Move loan ledger (ledger.moved id changed (.release id transaction))

inductive Disbursal (loan : LoanId) : Ledger → Ledger → Prop where
  | paid {ledger : Ledger} {record : Loan} (amount : Decimal) (date : ValueDate) (payment : Option PaymentTypeId)
      (found : ledger.loans.get? loan = some record)
      (ready : record.status ∈ [LoanStatus.approved, .submittedAndPendingApproval]) :
      Disbursal loan ledger (ledger.passed loan record .active (.disburse loan amount date payment))

def statusOf (ledger : Ledger) (loan : LoanId) : Option LoanStatus := (ledger.loan? loan).map (·.status)

theorem statusOf_found {ledger : Ledger} {loan : LoanId} {record : Loan}
    (found : ledger.loans.get? loan = some record) : ledger.statusOf loan = some record.status := by
  rw [statusOf, loan?, found, Option.map_some]

/-- The ledger has done with the loan. -/
def ClosedOff (ledger : Ledger) (loan : LoanId) : Prop :=
  ledger.statusOf loan = some .rejected ∨ ledger.statusOf loan = some .closed

instance (ledger : Ledger) (loan : LoanId) : Decidable (ledger.ClosedOff loan) :=
  inferInstanceAs (Decidable (_ ∨ _))

theorem closedOff_iff {ledger : Ledger} {loan : LoanId} {status : LoanStatus}
    (known : ledger.statusOf loan = some status) :
    ledger.ClosedOff loan ↔ status = .rejected ∨ status = .closed := by
  rw [ClosedOff, known, Option.some_inj, Option.some_inj]

/-- A move after which the loan has the status it had before. -/
structure QuietMove (loan : LoanId) (before after : Ledger) : Prop where
  move : Move loan before after
  status : after.statusOf loan = before.statusOf loan

abbrev Path (loan : LoanId) : Ledger → Ledger → Prop := ReflTransGen (Move loan)

abbrev QuietPath (loan : LoanId) : Ledger → Ledger → Prop := ReflTransGen (QuietMove loan)

/-- The loan is paid out on the way, and keeps its status from then on. -/
inductive Payout (loan : LoanId) : Ledger → Ledger → Prop where
  | intro {before ready disbursed after : Ledger} (earlier : Path loan before ready)
      (disbursal : Disbursal loan ready disbursed) (later : QuietPath loan disbursed after) :
      Payout loan before after

/-- What one command may do: the loan is paid out once at most. -/
inductive Course (loan : LoanId) (before after : Ledger) : Prop where
  | unpaid (path : Path loan before after) : Course loan before after
  | paid (payout : Payout loan before after) : Course loan before after

theorem QuietPath.path {loan : LoanId} {before after : Ledger} (quiet : QuietPath loan before after) :
    Path loan before after :=
  Relation.ReflTransGen.mono (fun _ _ => QuietMove.move) _ _ quiet

theorem QuietPath.status {loan : LoanId} {before after : Ledger} (quiet : QuietPath loan before after) :
    after.statusOf loan = before.statusOf loan := by
  induction quiet with
  | refl => rfl
  | tail _ quietly ih => exact quietly.status.trans ih

theorem Path.keeps {loan : LoanId} {before after : Ledger} (Kept : Ledger → Prop)
    (moves : ∀ a b, Move loan a b → Kept a → Kept b) (path : Path loan before after) (kept : Kept before) :
    Kept after := by
  induction path with
  | refl => exact kept
  | tail _ move ih => exact moves _ _ move ih

section

variable {loan : LoanId} {before middle after : Ledger}

theorem Payout.after_path (path : Path loan before middle) (payout : Payout loan middle after) :
    Payout loan before after := by
  cases payout with
  | intro earlier disbursal later => exact .intro (path.trans earlier) disbursal later

theorem Course.after_path (path : Path loan before middle) (course : Course loan middle after) :
    Course loan before after := by
  cases course with
  | unpaid rest => exact .unpaid (path.trans rest)
  | paid payout => exact .paid (payout.after_path path)

theorem Course.keeps (Kept : Ledger → Prop) (moves : ∀ a b, Move loan a b → Kept a → Kept b)
    (disburses : ∀ a b, Disbursal loan a b → Kept a → Kept b) (course : Course loan before after)
    (kept : Kept before) : Kept after := by
  cases course with
  | unpaid path => exact path.keeps Kept moves kept
  | paid payout =>
    cases payout with
    | intro earlier disbursal later =>
      exact later.path.keeps Kept moves (disburses _ _ disbursal (earlier.keeps Kept moves kept))

end

/-! What no command touches. -/

theorem Path.links {loan : LoanId} {before after : Ledger} (path : Path loan before after) :
    after.links = before.links := by
  refine path.keeps (fun ledger => ledger.links = before.links) ?_ rfl
  intro a b move kept
  rw [← kept]
  cases move <;> rfl

theorem Path.failing {loan : LoanId} {before after : Ledger} (path : Path loan before after) :
    after.failing = before.failing := by
  refine path.keeps (fun ledger => ledger.failing = before.failing) ?_ rfl
  intro a b move kept
  rw [← kept]
  cases move <;> rfl

theorem Path.numbers {loan : LoanId} {before after : Ledger} (path : Path loan before after) :
    before.lastTransaction ≤ after.lastTransaction := by
  refine path.keeps (fun ledger => before.lastTransaction ≤ ledger.lastTransaction) ?_ (Nat.le_refl _)
  intro a b move kept
  apply Nat.le_trans kept
  cases move <;> first | exact Nat.le_refl _ | exact Nat.le_succ _

end Countersign.Ledger
