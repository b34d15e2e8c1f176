import Countersign.Proofs.CommandConduct
import Countersign.Proofs.Disbursement

/-!
What a rejected loan has paid. Fees are collected before the disbursal and not given back
when that fails, so a loan may be rejected that has paid them. It takes a command about it that
failed with the fees withdrawn: where there is none, the fees of a loan that was not paid out
are as they were installed.
-/

namespace Countersign

namespace Ledger

/-- What it takes for the charges of a loan to have changed, at each standing of its settlement:
a withdrawal, and from the disbursal on the payout. -/
def Standing.Excuses (same withdrawn paid : Prop) : Standing → Prop
  | .begun => same
  | .ready _ _ => same ∨ withdrawn
  | .ending hold => same ∧ hold = none ∨ paid
  | .freed hold => same ∧ hold = none ∨ paid
  | .closed => same ∨ paid

/-- How far the charges are as they were to start with. -/
structure Spending (start : Ledger) (loan : LoanId) (standing : Standing) (ledger : Ledger) : Prop where
  journal : start.journal <+: ledger.journal
  others : ∀ other, other ≠ loan → ledger.chargesOf other = start.chargesOf other
  own : standing.Excuses (ledger.chargesOf loan = start.chargesOf loan)
    (start.count .withdraw < ledger.count .withdraw) (0 < ledger.paidOut loan)

variable {scale : Nat} {loan other : LoanId} {standing reached : Standing} {start before after : Ledger}

/-! Entries stay in the journal, and charges of other loans as they are. -/

theorem Move.journal (move : Move loan before after) : before.journal <+: after.journal := by
  cases move <;> first | exact List.prefix_rfl | exact List.prefix_append ..

theorem Move.chargesOf_other (move : Move loan before after) (different : other ≠ loan) :
    after.chargesOf other = before.chargesOf other := by
  cases move with
  | mark found ids =>
    unfold chargesOf withMarked
    rw [Table.get?_insert, if_neg different]
  | _ => rfl

theorem Deed.journal (deed : Deed scale loan standing before reached after) : before.journal <+: after.journal := by
  rcases deed.moves with path | disbursal
  · exact path.keeps (fun ledger => before.journal <+: ledger.journal)
      (fun _ _ move kept => kept.trans move.journal) List.prefix_rfl
  · cases disbursal
    exact List.prefix_append ..

theorem Deed.chargesOf_other (deed : Deed scale loan standing before reached after) (different : other ≠ loan) :
    after.chargesOf other = before.chargesOf other := by
  rcases deed.moves with path | disbursal
  · exact path.keeps (fun ledger => ledger.chargesOf other = before.chargesOf other)
      (fun _ _ move kept => (move.chargesOf_other different).trans kept) rfl
  · cases disbursal
    rfl

theorem count_le (journal : before.journal <+: after.journal) (op : LedgerOp) : before.count op ≤ after.count op :=
  journal.sublist.countP_le

theorem count_withdraw {id : AccountId} {amount : Decimal} {payment : PaymentTypeId} {transaction : TransactionId}
    (journal : after.journal = before.journal ++ [.withdraw id amount payment transaction]) :
    before.count .withdraw < after.count .withdraw := by
  unfold count
  rw [journal, List.countP_append]
  exact Nat.lt_succ_self _

theorem paidOut_le (journal : before.journal <+: after.journal) (loan : LoanId) :
    before.paidOut loan ≤ after.paidOut loan :=
  journal.sublist.countP_le

/-! One deed. -/

theorem Deed.spending (deed : Deed scale loan standing before reached after)
    (spending : Spending start loan standing before) : Spending start loan reached after where
  journal := spending.journal.trans deed.journal
  others other different := (deed.chargesOf_other different).trans (spending.others other different)
  own := by
    have own := spending.own
    have withdrawn (more : start.count .withdraw < before.count .withdraw) :
        start.count .withdraw < after.count .withdraw :=
      Nat.lt_of_lt_of_le more (count_le deed.journal .withdraw)
    have paid (out : 0 < before.paidOut loan) : 0 < after.paidOut loan :=
      Nat.lt_of_lt_of_le out (paidOut_le deed.journal loan)
    have pays (disbursal : Disbursal loan before after) : 0 < after.paidOut loan := by
      rw [(Payout.intro .refl disbursal .refl).paid.1]
      exact Nat.succ_pos _
    cases deed with
    | number => exact own
    | collect payment linked found withdrawal listed due =>
      exact Or.inr (Nat.lt_of_le_of_lt (count_le spending.journal .withdraw) (count_withdraw rfl))
    | exempt due => exact Or.inl own
    | hold linked found held due => exact own.imp id withdrawn
    | giveBack linked found released => exact own.imp id withdrawn
    | strand linked stays => exact own
    | payUnlinked unlinked disbursal => exact Or.inr (pays disbursal)
    | pay disbursal => exact Or.inr (pays disbursal)
    | turnDown rejected => exact Or.inl ⟨own, rfl⟩
    | mark listed => exact Or.inr (paid (own.resolve_left fun ⟨_, without⟩ => nomatch without))
    | free known pledge linked found released => exact own.imp id paid
    | missing known pledge linked gone => exact own
    | keep known pledge failing => exact own.imp And.left id
    | exchange known => exact own.imp And.left id
    | pledge known unpledged => exact own.imp And.left id
    | close nothing => exact own.imp And.left id

theorem Filing.spending (filing : Filing loan before after) (spending : Spending start loan .begun before) :
    Spending start loan .begun after := by
  have same : after.chargesOf loan = before.chargesOf loan := by cases filing <;> rfl
  exact ⟨spending.journal.trans filing.move.journal,
    fun other different => (filing.move.chargesOf_other different).trans (spending.others other different),
    same.trans spending.own⟩

theorem Conduct.spending (conduct : Conduct scale loan before standing after) (inOrder : before.InOrder) :
    Spending before loan standing after :=
  conduct.keeps (Spending before loan) Filing.spending (fun deed _ => deed.spending) inOrder
    ⟨List.prefix_rfl, fun _ _ => rfl, rfl⟩

/-- Where a command has changed the charges of a loan, it has paid it out or, short of that, withdrawn
for it. -/
theorem Spending.excuses (spending : Spending before loan standing after) (settled : standing.Done ∨ standing.Resting)
    (other : LoanId) :
    after.chargesOf other = before.chargesOf other ∨ 0 < after.paidOut other ∨
      other = loan ∧ ¬standing.Done ∧ before.count .withdraw < after.count .withdraw := by
  by_cases own : other = loan
  · subst own
    have excuse := spending.own
    rcases settled with done | resting
    · cases done with
      | begun => exact Or.inl excuse
      | closed => exact excuse.imp id Or.inl
    · cases resting with
      | begun => exact Or.inl excuse
      | ready charges => exact excuse.imp id fun withdrawn => Or.inr ⟨rfl, nofun, withdrawn⟩
  · exact Or.inl (spending.others other own)

end Ledger

namespace Desk

open Ledger (Standing Spending)

/-- A command about the loan that fails and has withdrawn fees nonetheless. -/
def keepsFees (settings : Settings) (loan : LoanId) (desk : Desk) (event : Event) : Bool :=
  event.loan? = some loan && desk.fails settings event &&
    desk.ledger.count .withdraw != (desk.after settings event).ledger.count .withdraw

/-- The loan was paid out, or its charges are as they were to start with. -/
def Unspent (start : Desk) (loan : LoanId) (desk : Desk) : Prop :=
  desk.ledger.chargesOf loan = start.ledger.chargesOf loan ∨ 0 < desk.ledger.paidOut loan

theorem command_spending {settings : Settings} {desk : Desk} {now : Timestamp} {command : Command} {loan : LoanId}
    (orderly : desk.Orderly) (fits : desk.overflows settings (.command now command) = false)
    (about : command.loan? = some loan) :
    ∃ standing : Standing, (standing.Done ∨ desk.fails settings (.command now command) = true ∧ standing.Resting) ∧
      Spending desk.ledger loan standing (desk.after settings (.command now command)).ledger := by
  rcases command_conducts_on orderly about fits with ⟨_, done, conduct⟩ | ⟨failed, _, resting, conduct⟩
  · exact ⟨_, Or.inl done, conduct.spending orderly.ledger⟩
  · exact ⟨_, Or.inr ⟨failed, resting⟩, conduct.spending orderly.ledger⟩

theorem Unspent.after {settings : Settings} {start desk : Desk} {loan : LoanId} {event : Event}
    (orderly : desk.Orderly) (fits : desk.overflows settings event = false)
    (returns : desk.keepsFees settings loan event = false) (unspent : Unspent start loan desk) :
    Unspent start loan (desk.after settings event) := by
  cases event with
  | command now command =>
    cases about : command.loan? with
    | none =>
      unfold Unspent
      rw [scan_ledger settings now orderly about]
      exact unspent
    | some other =>
      obtain ⟨standing, ended, spending⟩ := command_spending orderly fits about
      rcases spending.excuses (ended.imp id And.right) loan with same | paid | ⟨rfl, undone, more⟩
      · apply unspent.imp
        · exact fun was => same.trans was
        · exact fun paid => Nat.lt_of_lt_of_le paid (Ledger.paidOut_le spending.journal loan)
      · exact Or.inr paid
      · have named : (Event.command now command).loan? = some loan := about
        have failed := (ended.resolve_left undone).1
        rw [keepsFees, decide_eq_true named, failed, Bool.true_and, Bool.true_and, bne_eq_false_iff_eq] at returns
        exact absurd returns (Nat.ne_of_lt more)
  | failOn op => exact unspent
  | heal op => exact unspent

/-- On every run in which all sums fit and no command about a loan has failed with fees withdrawn,
the loan has, when it is rejected, the charges that it was installed with. -/
theorem rejected_loan_paid_nothing {setup : Setup} {start : Desk} (installed : setup.install .empty = .ok () start)
    (events : List Event) (calm : start.calm setup.settings events = true) (loan : LoanId)
    (returns : start.never setup.settings (keepsFees setup.settings loan) events = true)
    (rejected : (start.run setup.settings events).ledger.statusOf loan = some .rejected) :
    (start.run setup.settings events).ledger.chargesOf loan = start.ledger.chargesOf loan := by
  have opening := Setup.opens installed
  have unspent : Unspent start loan (start.run setup.settings events) :=
    calm_run_avoids (Unspent start loan) events (fun _ orderly fits returns => Unspent.after orderly fits returns)
      calm returns opening.orderly (Or.inl rfl)
  have agrees := (run_agrees opening events calm loan).2
  have unfinished : ¬Chain.Finished ((start.run setup.settings events).chains.chainOf loan) := by
    intro finished
    cases rejected.symm.trans (agrees.finished finished).1
  apply unspent.resolve_right
  rw [agrees.unpaid unfinished]
  exact Nat.lt_irrefl 0

end Desk

/-- The sample with more to be held than there is on the account. -/
def Setup.scarce : Setup :=
  { sample with loans := sample.loans.map fun entry =>
      { entry with charges := entry.charges.map fun charge =>
          if charge.kind = .upfrontHold then { charge with outstanding := .whole 1000 (by decide) } else charge } }

/-- The same with the loan of the sample as a second one. -/
def Setup.uneven : Setup :=
  { scarce with loans := scarce.loans ++ sample.loans.map fun entry => { entry with loan := { entry.loan with id := 2 } } }

def Desk.scarce : Desk :=
  match Setup.scarce.install .empty with
  | .ok _ desk => desk
  | .error _ desk => desk

def Desk.uneven : Desk :=
  match Setup.uneven.install .empty with
  | .ok _ desk => desk
  | .error _ desk => desk

/-- The first of two loans does not get its fee back when its last approval fails. The second is
turned down after that, without having paid. -/
theorem Desk.uneven_rejected_unpaid :
    let events := [.command .epoch (.build 1), .command .epoch (.build 2), .command .epoch (.approve 1 1 "" none none),
      .command .epoch (.approve 1 2 "" none none), .command .epoch (.reject 2 3 "")]
    let desk := uneven.run .standard events
    uneven.never .standard (keepsFees .standard 1) events = false ∧ desk.ledger.statusOf 2 = some .rejected ∧
      desk.ledger.chargesOf 2 = uneven.ledger.chargesOf 2 := by
  intro events desk
  have installed : Setup.uneven.install .empty = .ok () uneven := rfl
  have rejected : desk.ledger.statusOf 2 = some .rejected := by decide +kernel
  exact ⟨by decide +kernel, rejected,
    rejected_loan_paid_nothing installed events (by decide +kernel) 2 (by decide +kernel) rejected⟩

/-- Where there is too little to be held, the last approval fails with the fee withdrawn, and when the
loan is rejected after that its fee is paid. -/
theorem Desk.scarce_rejected_paid :
    let fee : Charge := ⟨1, .upfrontFee, .whole 10 (by decide), false⟩
    let events := [.command .epoch (.build 1), .command .epoch (.approve 1 1 "" none none),
      .command .epoch (.approve 1 2 "" none none), .command .epoch (.reject 1 2 "")]
    let ledger := (scarce.run .standard events).ledger
    Setup.scarce.install .empty = .ok () scarce ∧ scarce.calm .standard events = true ∧
      (∀ entry ∈ Setup.scarce.loans, entry.loan.status ≠ .rejected) ∧ fee ∈ scarce.ledger.chargesOf 1 ∧
        ledger.statusOf 1 = some .rejected ∧ fee ∉ ledger.chargesOf 1 ∧ fee.settled ∈ ledger.chargesOf 1 :=
  ⟨rfl, by decide +kernel, by decide, by decide +kernel, by decide +kernel, by decide +kernel, by decide +kernel⟩

end Countersign
