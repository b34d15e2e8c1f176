import Countersign.Proofs.ExactServices
import Countersign.Proofs.LedgerOrder
import Countersign.Proofs.SettlementPart

/-!
The settlement of a loan, deed by deed. A command may break off after any of them, so the
standing that it has reached tells what is left to be done: whether a hold is placed that
nothing is recorded of yet, or a lien released that is still recorded. Whatever holds of
every standing is shown once for each deed, and carries over to all that a command does.
-/

namespace Countersign.Ledger

/-- How far the settlement of a loan has come. -/
inductive Standing where
  | begun
  /-- The fees among these charges are paid, and a hold may have been placed for the disbursal. -/
  | ready (charges : List Charge) (hold : Option Booking)
  /-- The loan is paid out or turned down; its lien is to give way to the hold. -/
  | ending (hold : Option Booking)
  /-- The lien that the loan had is off the account, and still recorded. -/
  | freed (hold : Option Booking)
  | closed

namespace Standing

/-- A command that fails leaves no hold that it placed for the time being. -/
inductive Resting : Standing → Prop where
  | begun : Resting .begun
  | ready (charges : List Charge) : Resting (.ready charges none)

/-- A command that is done has settled nothing or everything. -/
inductive Done : Standing → Prop where
  | begun : Done .begun
  | closed : Done .closed

def hold : Standing → Option Booking
  | .begun => none
  | .ready _ hold => hold
  | .ending hold => hold
  | .freed hold => hold
  | .closed => none

def loaded : Standing → Option (List Charge)
  | .ready charges _ => some charges
  | _ => none

/-- A lien is recorded that is off the account already. -/
def Freed : Standing → Prop
  | .freed _ => True
  | _ => False

variable {standing : Standing}

theorem hold_eq_none (between : standing.Done ∨ standing.Resting) : standing.hold = none := by
  rcases between with done | resting
  · cases done <;> rfl
  · cases resting <;> rfl

theorem not_freed (between : standing.Done ∨ standing.Resting) : ¬standing.Freed := by
  rcases between with done | resting
  · cases done <;> exact id
  · cases resting <;> exact id

end Standing

open Standing

/-- What is done to settle a loan, one thing at a time. -/
inductive Deed (scale : Nat) (loan : LoanId) : Standing → Ledger → Standing → Ledger → Prop where
  /-- A number is used up although the account refused. -/
  | number {standing : Standing} {ledger : Ledger} : Deed scale loan standing ledger standing ledger.numbered
  | collect {ledger : Ledger} {id : AccountId} {account changed : Account} {charges : List Charge}
      {ids : List ChargeId} {amount : Amount} (payment : PaymentTypeId)
      (linked : ledger.links.get? loan = some id) (found : ledger.accounts.get? id = some account)
      (withdrawn : account.withdraw amount.value = .ok changed) (listed : ledger.charges.get? loan = some charges)
      (due : Charge.due charges .upfrontFee scale = .ok (some (ids, amount))) :
      Deed scale loan .begun ledger (.ready charges none)
        ((ledger.numbered.moved id changed
          (.withdraw id amount.value payment (ledger.lastTransaction + 1))).withMarked loan ids charges)
  | exempt {ledger : Ledger} (due : Charge.due (ledger.chargesOf loan) .upfrontFee scale = .ok none) :
      Deed scale loan .begun ledger (.ready (ledger.chargesOf loan) none) ledger
  | hold {ledger : Ledger} {id : AccountId} {account changed : Account} {charges : List Charge}
      {ids : List ChargeId} {amount : Amount} (linked : ledger.links.get? loan = some id)
      (found : ledger.accounts.get? id = some account)
      (held : account.hold (ledger.lastTransaction + 1) amount.value = .ok changed)
      (due : Charge.due charges .upfrontHold scale = .ok (some (ids, amount))) :
      Deed scale loan (.ready charges none) ledger
        (.ready charges (some ⟨ids, amount.value, ledger.lastTransaction + 1⟩))
        (ledger.numbered.moved id changed (.hold id (some loan) amount.value (ledger.lastTransaction + 1)))
  | giveBack {ledger : Ledger} {id : AccountId} {account changed : Account} {charges : List Charge}
      {hold : Booking} (linked : ledger.links.get? loan = some id) (found : ledger.accounts.get? id = some account)
      (released : account.release hold.transaction = .ok changed) :
      Deed scale loan (.ready charges (some hold)) ledger (.ready charges none)
        (ledger.moved id changed (.release id hold.transaction))
  | strand {ledger : Ledger} {id : AccountId} {charges : List Charge} {hold : Booking}
      (linked : ledger.links.get? loan = some id)
      (stays : .release ∈ ledger.failing ∨ ledger.holdOf id hold.transaction = none) :
      Deed scale loan (.ready charges (some hold)) ledger (.ready charges none) ledger
  | payUnlinked {ledger after : Ledger} (unlinked : ledger.links.get? loan = none)
      (disbursal : Disbursal loan ledger after) : Deed scale loan .begun ledger (.ending none) after
  | pay {ledger after : Ledger} {charges : List Charge} {hold : Option Booking}
      (disbursal : Disbursal loan ledger after) :
      Deed scale loan (.ready charges hold) ledger (.ending hold) after
  | turnDown {ledger : Ledger} (rejected : ledger.statusOf loan = some .rejected) :
      Deed scale loan .begun ledger (.ending none) ledger
  | mark {ledger : Ledger} {charges : List Charge} {hold : Booking} (listed : ledger.charges.get? loan = some charges) :
      Deed scale loan (.ending (some hold)) ledger (.ending (some hold))
        (ledger.withMarked loan hold.charges charges)
  | free {ledger : Ledger} {record : Loan} {lien : TransactionId} {id : AccountId} {account changed : Account}
      {hold : Option Booking} (known : ledger.loans.get? loan = some record) (pledge : record.lien = some lien)
      (linked : ledger.links.get? loan = some id) (found : ledger.accounts.get? id = some account)
      (released : account.release lien = .ok changed) :
      Deed scale loan (.ending hold) ledger (.freed hold) (ledger.moved id changed (.release id lien))
  | missing {ledger : Ledger} {record : Loan} {lien : TransactionId} {id : AccountId} {hold : Option Booking}
      (known : ledger.loans.get? loan = some record) (pledge : record.lien = some lien)
      (linked : ledger.links.get? loan = some id) (gone : ledger.holdOf id lien = none) :
      Deed scale loan (.ending hold) ledger (.freed hold) ledger
  | keep {ledger : Ledger} {record : Loan} {lien : TransactionId} {hold : Option Booking}
      (known : ledger.loans.get? loan = some record) (pledge : record.lien = some lien)
      (failing : .release ∈ ledger.failing) : Deed scale loan (.ending hold) ledger .closed ledger
  | exchange {ledger : Ledger} {record : Loan} {hold : Option Booking}
      (known : ledger.loans.get? loan = some record) :
      Deed scale loan (.freed hold) ledger .closed (ledger.pledged loan record (hold.map (·.transaction)))
  | pledge {ledger : Ledger} {record : Loan} {hold : Booking} (known : ledger.loans.get? loan = some record)
      (unpledged : record.lien = none) :
      Deed scale loan (.ending (some hold)) ledger .closed (ledger.pledged loan record (some hold.transaction))
  | close {ledger : Ledger} (nothing : ledger.links.get? loan = none ∨
        ∃ record, ledger.loans.get? loan = some record ∧ record.lien = none) :
      Deed scale loan (.ending none) ledger .closed ledger

inductive Deeds (scale : Nat) (loan : LoanId) (standing : Standing) (ledger : Ledger) :
    Standing → Ledger → Prop where
  | nothing : Deeds scale loan standing ledger standing ledger
  | further {middle after : Standing} {between later : Ledger}
      (earlier : Deeds scale loan standing ledger middle between)
      (deed : Deed scale loan middle between after later) : Deeds scale loan standing ledger after later

/-- What a decision may file before it comes to the settlement. -/
inductive Filing (loan : LoanId) : Ledger → Ledger → Prop where
  | note {ledger : Ledger} (text : String) : Filing loan ledger (ledger.noted loan text)
  | pass {ledger : Ledger} {record : Loan} {entry : JournalEntry} {target : LoanStatus}
      (found : ledger.loans.get? loan = some record) (passage : Passage loan record.status entry target) :
      Filing loan ledger (ledger.passed loan record target entry)

abbrev Filings (loan : LoanId) : Ledger → Ledger → Prop := Relation.ReflTransGen (Filing loan)

/-- All that a command does in the ledger, and the standing that it gets to. -/
inductive Conduct (scale : Nat) (loan : LoanId) (before : Ledger) (standing : Standing) (after : Ledger) : Prop where
  | intro {settling : Ledger} (filings : Filings loan before settling)
      (deeds : Deeds scale loan .begun settling standing after) : Conduct scale loan before standing after

section

variable {scale : Nat} {loan : LoanId} {standing middle reached : Standing} {before between after : Ledger}

theorem Deeds.single (deed : Deed scale loan standing before reached after) :
    Deeds scale loan standing before reached after :=
  .further .nothing deed

theorem Deeds.trans (first : Deeds scale loan standing before middle between)
    (rest : Deeds scale loan middle between reached after) : Deeds scale loan standing before reached after := by
  induction rest with
  | nothing => exact first
  | further _ deed ih => exact .further ih deed

theorem Deeds.keeps (Kept : Standing → Ledger → Prop)
    (deed : ∀ {s a s' b}, Deed scale loan s a s' b → Kept s a → Kept s' b)
    (deeds : Deeds scale loan standing before reached after) (kept : Kept standing before) : Kept reached after := by
  induction deeds with
  | nothing => exact kept
  | further _ last ih => exact deed last ih

theorem Filing.move (filing : Filing loan before after) : Move loan before after := by
  cases filing with
  | note text => exact .note text
  | pass found passage => exact .pass found passage

theorem Deed.moves (deed : Deed scale loan standing before reached after) :
    Path loan before after ∨ Disbursal loan before after := by
  cases deed with
  | number => exact Or.inl (.single .number)
  | @collect _ id _ changed charges ids amount payment linked found withdrawn listed due =>
    have unmarked : (before.numbered.moved id changed
        (.withdraw id amount.value payment (before.lastTransaction + 1))).charges.get? loan = some charges := listed
    exact Or.inl (.tail (.single (.withdraw amount payment linked found withdrawn)) (.mark unmarked ids))
  | exempt due => exact Or.inl .refl
  | hold linked found held due => exact Or.inl (.single (.hold _ linked found held))
  | giveBack linked found released => exact Or.inl (.single (.release linked found released))
  | strand linked stays => exact Or.inl .refl
  | payUnlinked unlinked disbursal => exact Or.inr disbursal
  | pay disbursal => exact Or.inr disbursal
  | turnDown rejected => exact Or.inl .refl
  | mark listed => exact Or.inl (.single (.mark listed _))
  | free known pledge linked found released => exact Or.inl (.single (.release linked found released))
  | missing known pledge linked gone => exact Or.inl .refl
  | keep known pledge failing => exact Or.inl .refl
  | exchange known => exact Or.inl (.single (.lien known _))
  | pledge known unpledged => exact Or.inl (.single (.lien known _))
  | close nothing => exact Or.inl .refl

theorem Deed.inOrder (deed : Deed scale loan standing before reached after) (inOrder : before.InOrder) :
    after.InOrder := by
  rcases deed.moves with path | disbursal
  · exact path.inOrder inOrder
  · exact disbursal.inOrder inOrder

theorem Deed.links (deed : Deed scale loan standing before reached after) : after.links = before.links := by
  rcases deed.moves with path | disbursal
  · exact path.links
  · cases disbursal
    rfl

theorem Deed.failing (deed : Deed scale loan standing before reached after) : after.failing = before.failing := by
  rcases deed.moves with path | disbursal
  · exact path.failing
  · cases disbursal
    rfl

theorem Deed.loans (deed : Deed scale loan standing before reached after)
    (early : reached = .begun ∨ ∃ charges hold, reached = .ready charges hold) :
    (standing = .begun ∨ ∃ charges hold, standing = .ready charges hold) ∧ after.loans = before.loans := by
  cases deed <;> simp_all [numbered, moved, withMarked]

theorem Deeds.loans (deeds : Deeds scale loan standing before reached after)
    (early : reached = .begun ∨ ∃ charges hold, reached = .ready charges hold) : after.loans = before.loans := by
  induction deeds with
  | nothing => rfl
  | further _ deed ih =>
    obtain ⟨earlier, same⟩ := deed.loans early
    exact same.trans (ih earlier)

theorem Deeds.links (deeds : Deeds scale loan standing before reached after) : after.links = before.links :=
  deeds.keeps (fun _ ledger => ledger.links = before.links) (fun deed kept => deed.links.trans kept) rfl

theorem Filings.keeps (Kept : Ledger → Prop) (files : ∀ {a b : Ledger}, Filing loan a b → Kept a → Kept b)
    (filings : Filings loan before after) (kept : Kept before) : Kept after := by
  induction filings with
  | refl => exact kept
  | tail _ filing ih => exact files filing ih

/-- What every filing keeps while the settlement has not begun, and every deed from one standing
to the next, is kept by all that a command does. -/
theorem Conduct.keeps (Kept : Standing → Ledger → Prop)
    (files : ∀ {a b : Ledger}, Filing loan a b → Kept .begun a → Kept .begun b)
    (deed : ∀ {s a s' b}, Deed scale loan s a s' b → a.InOrder → Kept s a → Kept s' b)
    (conduct : Conduct scale loan before standing after) (inOrder : before.InOrder) (kept : Kept .begun before) :
    Kept standing after := by
  cases conduct with
  | intro filings deeds =>
    have filed := filings.keeps (fun ledger => ledger.InOrder ∧ Kept .begun ledger)
      (fun filing kept => ⟨filing.move.inOrder kept.1, files filing kept.2⟩) ⟨inOrder, kept⟩
    have settled := deeds.keeps (fun standing ledger => ledger.InOrder ∧ Kept standing ledger)
      (fun last kept => ⟨last.inOrder kept.1, deed last kept.1 kept.2⟩) filed
    exact settled.2

end

end Countersign.Ledger
