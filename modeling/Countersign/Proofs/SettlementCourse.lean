import Countersign.Proofs.DisbursalAgain
import Countersign.Proofs.SettlementDeed

/-!
The deeds of a disbursal. What is done before it gets the settlement ready, what is done
when it fails takes the hold back, and what is done after it closes the settlement. So a
disbursal that fails leaves the settlement where it can rest, and one that is done leaves
nothing to be settled.
-/

namespace Countersign

open Ledger (Deed Deeds Standing Disbursal)
open Desk (Through)

abbrev Desk.Settles (scale : Nat) (loan : LoanId) (standing : Standing) (before : Desk) (reached : Standing)
    (after : Desk) : Prop :=
  Through (fun a b => Deeds scale loan standing a reached b) before after

/-- A sum that did not fit: of where it leaves the settlement nothing is said. -/
def Stop.Overflows (stop : Stop) : Prop := ∃ what, stop = .overflow what

theorem Stop.Overflows.not_failed {stop : Stop} (overflows : stop.Overflows) (error : CommandError) :
    stop ≠ .failed error := by
  obtain ⟨what, rfl⟩ := overflows
  exact nofun

namespace Desk

variable {scale : Nat} {loan : LoanId} {standing middle reached : Standing} {before between after : Desk}

theorem Settles.nothing (desk : Desk) : Settles scale loan standing desk standing desk := ⟨.nothing, rfl, rfl⟩

theorem Settles.deed {ledger : Ledger} (deed : Deed scale loan standing before.ledger reached ledger) :
    Settles scale loan standing before reached { before with ledger := ledger } :=
  .intro (.single deed)

theorem Settles.trans (first : Settles scale loan standing before middle between)
    (rest : Settles scale loan middle between reached after) : Settles scale loan standing before reached after :=
  ⟨first.ledger.trans rest.ledger, rest.chains.trans first.chains, rest.directory.trans first.directory⟩

def Rests (scale : Nat) (loan : LoanId) (before after : Desk) : Prop :=
  ∃ standing, standing.Resting ∧ Settles scale loan .begun before standing after

inductive Readied (scale : Nat) (loan : LoanId) (before : Desk) : Option Settlement → Desk → Prop where
  | unlinked (missing : before.ledger.links.get? loan = none) : Readied scale loan before none before
  | linked {account : AccountId} {charges : List Charge} {fees hold : Option Booking} {after : Desk}
      (link : before.ledger.links.get? loan = some account)
      (settles : Settles scale loan .begun before (.ready charges hold) after) :
      Readied scale loan before (some ⟨account, fees, hold⟩) after

namespace Readied

variable {settlement : Option Settlement}

theorem loans (readied : Readied scale loan before settlement after) : after.ledger.loans = before.ledger.loans := by
  cases readied with
  | unlinked missing => rfl
  | linked link settles => exact settles.ledger.loans (Or.inr ⟨_, _, rfl⟩)

theorem links (readied : Readied scale loan before settlement after) :
    after.ledger.links.get? loan = settlement.map (·.account) := by
  cases readied with
  | unlinked missing => exact missing
  | linked link settles =>
    rw [settles.ledger.links]
    exact link

theorem paid (readied : Readied scale loan before settlement after) {ledger : Ledger}
    (disbursal : Disbursal loan after.ledger ledger) :
    Settles scale loan .begun before (.ending (settlement.bind (·.hold))) { after with ledger := ledger } := by
  cases readied with
  | unlinked missing => exact .deed (.payUnlinked missing disbursal)
  | linked link settles => exact settles.trans (.deed (.pay disbursal))

end Readied

end Desk

namespace Ledger

inductive Released (id : AccountId) (transaction : TransactionId) (ledger : Ledger) :
    Except LedgerError Unit → Ledger → Prop where
  | freed {account changed : Account} (found : ledger.accounts.get? id = some account)
      (released : account.release transaction = .ok changed) :
      Released id transaction ledger (.ok ()) (ledger.moved id changed (.release id transaction))
  | missing (what : Missing) (gone : ledger.holdOf id transaction = none) :
      Released id transaction ledger (.error (.notFound what)) ledger
  | failing (failing : .release ∈ ledger.failing) :
      Released id transaction ledger (.error (.unavailable (.failing .release))) ledger

theorem release_replies (id : AccountId) (transaction : TransactionId) (desk : Desk) :
    Ends (Desk.onLedger (release id transaction)) desk
      (fun reply after => ∃ ledger, after = { desk with ledger := ledger } ∧
        Released id transaction desk.ledger reply ledger)
      fun stop _ => stop.Overflows := by
  apply (onLedger_ends (release_ends id transaction desk.ledger)).imp
  · intro _ _ ended
    rcases ended with ⟨ledger, rfl, ⟨_, rfl, _, _, _, found, released, rfl⟩ | ⟨error, rfl, stopped, rfl⟩⟩
    · exact ⟨_, rfl, .freed found released⟩
    · refine ⟨_, rfl, ?_⟩
      rcases stopped with ⟨failing, is⟩ | ⟨missing, is⟩ | ⟨account, found, refused⟩
      · cases is
        exact .failing failing
      · cases is
        refine .missing _ ?_
        rw [holdOf, account?, missing, Option.bind_none]
      · rcases Account.release_error refused with ⟨gone, is⟩ | ⟨_, is⟩
        · cases is
          refine .missing _ ?_
          rw [holdOf, account?, found, Option.bind_some, gone]
        · cases is
  · intro _ _ ended
    obtain ⟨_, rfl, what, rfl, _⟩ := ended
    exact ⟨what, rfl⟩

theorem listed_of_due {ledger : Ledger} {loan : LoanId} {kind : ChargeKind} {scale : Nat} {ids : List ChargeId}
    {amount : Amount} (due : Charge.due (ledger.chargesOf loan) kind scale = .ok (some (ids, amount))) :
    ledger.charges.get? loan = some (ledger.chargesOf loan) := by
  unfold chargesOf at due ⊢
  cases found : ledger.charges.get? loan with
  | some charges => rfl
  | none =>
    rw [found, Option.getD_none, Charge.due_of_nothing rfl] at due
    cases due

end Ledger

namespace Engine

open Desk (Settles Rests Readied)

variable (settings : Settings) (now : Timestamp)

theorem due_ends (charges : List Charge) (kind : ChargeKind) (desk : Desk) :
    Ends ((Desk.engine settings now).due charges kind) desk
      (fun due after => after = desk ∧ Charge.due charges kind settings.moneyScale = .ok due)
      fun stop _ => stop.Overflows := by
  unfold Ends
  rw [due_apply]
  cases Charge.due charges kind settings.moneyScale with
  | ok due => exact ⟨rfl, rfl⟩
  | error what => exact ⟨what, rfl⟩

theorem withdrawFees_settles {desk : Desk} {loan : Loan} {account : AccountId} {charges : List Charge}
    (linked : desk.ledger.links.get? loan.id = some account) (charged : charges = desk.ledger.chargesOf loan.id)
    (payment : Option PaymentTypeId) :
    Ends ((Desk.engine settings now).withdrawFees loan account charges payment) desk
      (fun _ after => Settles settings.moneyScale loan.id .begun desk (.ready charges none) after)
      fun stop after => stop.Overflows ∨ Settles settings.moneyScale loan.id .begun desk .begun after := by
  subst charged
  refine (due_ends settings now _ .upfrontFee desk).andThen ?_ fun _ _ => Or.inl
  intro answer _ ended
  obtain ⟨rfl, due⟩ := ended
  rcases answer with _ | ⟨ids, amount⟩
  · exact .deed (.exempt due)
  · have listed := Ledger.listed_of_due due
    apply (demand_ends _ (Ledger.move_ends .withdraw account (fun _ account => account.withdraw amount.value)
      (.withdraw account amount.value _) _)).andThen
    · intro _ _ ended
      obtain ⟨_, rfl, _, rfl, _, changed, found, withdrawn, rfl⟩ := ended
      apply (demand_ends _ (Ledger.markPaid_ends loan.id ids _)).andThen
      · intro _ _ ended
        obtain ⟨_, rfl, _, same, rfl⟩ := ended
        cases listed.symm.trans same
        exact .deed (.collect _ linked found withdrawn listed due)
      · intro _ _ ended
        rcases ended with ⟨_, _, ⟨_, _, missing, _⟩ | ⟨_, _, missing, _⟩⟩ <;> cases listed.symm.trans missing
    · intro _ _ ended
      rcases ended with ⟨_, rfl, ⟨_, rfl, ⟨_, _, rfl⟩ | ⟨_, rfl⟩⟩ | ⟨what, rfl, _⟩⟩
      · exact Or.inr (.nothing _)
      · exact Or.inr (.deed .number)
      · exact Or.inl ⟨what, rfl⟩

theorem holdCharges_settles {desk : Desk} {loan : Loan} {account : AccountId}
    (linked : desk.ledger.links.get? loan.id = some account) (charges : List Charge) :
    Ends ((Desk.engine settings now).holdCharges loan account charges) desk
      (fun hold after => Settles settings.moneyScale loan.id (.ready charges none) desk (.ready charges hold) after)
      fun stop after => stop.Overflows ∨
        Settles settings.moneyScale loan.id (.ready charges none) desk (.ready charges none) after := by
  refine (due_ends settings now charges .upfrontHold desk).andThen ?_ fun _ _ => Or.inl
  intro answer _ ended
  obtain ⟨rfl, due⟩ := ended
  rcases answer with _ | ⟨ids, amount⟩
  · exact .nothing _
  · apply (demand_ends _ (Ledger.move_ends .hold account
      (fun transaction account => account.hold transaction amount.value)
      (.hold account (some loan.id) amount.value) _)).andThen
    · intro _ _ ended
      obtain ⟨_, rfl, _, rfl, _, changed, found, held, rfl⟩ := ended
      exact .deed (.hold linked found held due)
    · intro _ _ ended
      rcases ended with ⟨_, rfl, ⟨_, rfl, ⟨_, _, rfl⟩ | ⟨_, rfl⟩⟩ | ⟨what, rfl, _⟩⟩
      · exact Or.inr (.nothing _)
      · exact Or.inr (.deed .number)
      · exact Or.inl ⟨what, rfl⟩

theorem settleBefore_readies (loan : Loan) (payment : Option PaymentTypeId) (desk : Desk) :
    Ends ((Desk.engine settings now).settleBefore loan payment) desk
      (fun settlement after => Readied settings.moneyScale loan.id desk settlement after)
      fun stop after => stop.Overflows ∨ Rests settings.moneyScale loan.id desk after := by
  unfold settleBefore
  apply (onLedger_ends (Ledger.findAccount_ends loan.id desk.ledger)).andThen
  · intro _ _ ended
    rcases ended with ⟨_, rfl, ⟨account, rfl, _, linked, rfl⟩ | ⟨error, rfl, reason, rfl⟩⟩
    · apply (loadCharges_ends settings now loan.id _).certainly
      intro charges _ ended
      obtain ⟨charged, rfl⟩ := ended
      apply (withdrawFees_settles settings now linked charged payment).andThen
      · intro fees paid collected
        have linked' : paid.ledger.links.get? loan.id = some account := by
          rw [collected.ledger.links]
          exact linked
        apply (holdCharges_settles settings now linked' charges).andThen
        · exact fun hold ready held => .linked linked (collected.trans held)
        · exact fun _ _ stopped => stopped.imp id fun settles => ⟨_, .ready charges, collected.trans settles⟩
      · exact fun _ _ stopped => stopped.imp id fun settles => ⟨_, .begun, settles⟩
    · rcases reason with ⟨_, is⟩ | ⟨missing, is⟩
      · cases is
        exact Or.inr ⟨_, .begun, .nothing _⟩
      · cases is
        exact .unlinked missing
  · intro _ _ ended
    obtain ⟨_, rfl, what, rfl, _⟩ := ended
    exact Or.inl ⟨what, rfl⟩

theorem unsettle_settles {loan : LoanId} {settlement : Option Settlement} {desk ready : Desk}
    (readied : Readied settings.moneyScale loan desk settlement ready) :
    Ends ((Desk.engine settings now).unsettle settlement) ready
      (fun _ after => Rests settings.moneyScale loan desk after) fun stop _ => stop.Overflows := by
  have linked := readied.links
  cases readied with
  | unlinked missing => exact ⟨_, .begun, .nothing _⟩
  | @linked account charges fees hold _ link settles =>
    cases hold with
    | none => exact ⟨_, .ready charges, settles⟩
    | some booking =>
      refine (Ledger.release_replies account booking.transaction ready).andThen ?_ fun _ _ overflows => overflows
      intro _ _ ended
      obtain ⟨_, rfl, replied⟩ := ended
      refine ⟨_, .ready charges, settles.trans ?_⟩
      cases replied with
      | freed found released => exact .deed (.giveBack linked found released)
      | missing what gone => exact .deed (.strand linked (Or.inr gone))
      | failing failing => exact .deed (.strand linked (Or.inl failing))

theorem markHoldsPaid_settles {loan : Loan} (hold : Option Booking) (desk : Desk) :
    Ends ((Desk.engine settings now).markHoldsPaid loan hold) desk
      (fun _ after => Settles settings.moneyScale loan.id (.ending hold) desk (.ending hold) after ∧
        after.ledger.loans = desk.ledger.loans)
      fun _ _ => False := by
  apply (markHoldsPaid_ends settings now loan hold desk).imp
  · intro _ _ same
    obtain rfl := same
    refine ⟨?_, Ledger.charged_loans desk.ledger loan.id _⟩
    cases hold with
    | none => exact .nothing _
    | some booking =>
      unfold Ledger.charged
      cases listed : desk.ledger.charges.get? loan.id with
      | none => exact .nothing _
      | some charges => exact .deed (.mark listed)
  · exact fun _ _ no => no

/-- What becomes of the lien that the loan had: there was none, it is off the account, or it
could not be released. -/
inductive Relieved (scale : Nat) (loan : Loan) (hold : Option Booking) (before : Desk) :
    Option TransactionId → Desk → Prop where
  | unpledged (without : loan.lien = none) : Relieved scale loan hold before none before
  | freed {previous : TransactionId} {after : Desk} (pledge : loan.lien = some previous)
      (settles : Settles scale loan.id (.ending hold) before (.freed hold) after) :
      Relieved scale loan hold before (some previous) after
  | failing {previous : TransactionId} (pledge : loan.lien = some previous)
      (failing : .release ∈ before.ledger.failing) : Relieved scale loan hold before none before

section

variable {loan record : Loan} {desk : Desk} (known : desk.ledger.loans.get? loan.id = some record)
  (sameLien : record.lien = loan.lien)
include known sameLien

theorem releasePrevious_settles {account : AccountId} (linked : desk.ledger.links.get? loan.id = some account)
    (hold : Option Booking) :
    Ends ((Desk.engine settings now).releasePrevious loan account) desk
      (fun answer after => Relieved settings.moneyScale loan hold desk answer.1 after ∧
        after.ledger.loans = desk.ledger.loans)
      fun stop _ => stop.Overflows := by
  unfold releasePrevious
  cases pledge : loan.lien with
  | none => exact ⟨.unpledged pledge, rfl⟩
  | some previous =>
    refine (Ledger.release_replies account previous desk).andThen ?_ fun _ _ overflows => overflows
    intro _ _ ended
    obtain ⟨_, rfl, replied⟩ := ended
    cases replied with
    | freed found released =>
      exact ⟨.freed pledge (.deed (.free known (sameLien.trans pledge) linked found released)), rfl⟩
    | missing what gone => exact ⟨.freed pledge (.deed (.missing known (sameLien.trans pledge) linked gone)), rfl⟩
    | failing failing => exact ⟨.failing pledge failing, rfl⟩

theorem recordLien_settles {hold : Option Booking} {released : Option TransactionId} {after : Desk}
    (relieved : Relieved settings.moneyScale loan hold desk released after)
    (sameLoans : after.ledger.loans = desk.ledger.loans) :
    Ends ((Desk.engine settings now).recordLien loan (hold.map (·.transaction)) released) after
      (fun _ later => Settles settings.moneyScale loan.id (.ending hold) desk .closed later) fun _ _ => False := by
  apply (recordLien_ends settings now loan _ released after).imp
  · intro _ _ same
    obtain rfl := same
    rw [← sameLoans] at known
    have recorded (lien : Option TransactionId) :
        after.ledger.relined loan.id lien = after.ledger.pledged loan.id record lien := by
      unfold Ledger.relined
      rw [known]
    cases relieved with
    | unpledged without =>
      unfold Ledger.withLien
      rw [without]
      cases hold with
      | none => exact .deed (.close (Or.inr ⟨record, known, sameLien.trans without⟩))
      | some booking =>
        rw [if_pos (by rfl), recorded]
        exact .deed (.pledge known (sameLien.trans without))
    | freed pledge settles =>
      unfold Ledger.withLien
      rw [pledge, if_pos (by simp), recorded]
      exact settles.trans (.deed (.exchange known))
    | failing pledge failing =>
      unfold Ledger.withLien
      rw [pledge, if_neg (by simp)]
      exact .deed (.keep known (sameLien.trans pledge) failing)
  · exact fun _ _ no => no

theorem settleAfter_settles {settlement : Option Settlement}
    (linked : desk.ledger.links.get? loan.id = settlement.map (·.account)) :
    Ends ((Desk.engine settings now).settleAfter loan settlement) desk
      (fun _ after =>
        Settles settings.moneyScale loan.id (.ending (settlement.bind (·.hold))) desk .closed after)
      fun stop _ => stop.Overflows := by
  rcases settlement with _ | ⟨account, fees, hold⟩
  · exact .deed (.close (Or.inl linked))
  · apply (markHoldsPaid_settles settings now hold desk).certainly
    intro _ marked ended
    obtain ⟨first, sameLoans⟩ := ended
    have sameLinks : marked.ledger.links = desk.ledger.links := first.ledger.links
    refine (releasePrevious_settles settings now (sameLoans ▸ known) sameLien (sameLinks ▸ linked) hold).andThen ?_
      fun _ _ overflows => overflows
    intro answer relieved ended
    obtain ⟨released, _⟩ := answer
    obtain ⟨second, stillLoans⟩ := ended
    apply (recordLien_settles settings now (sameLoans ▸ known) sameLien second stillLoans).certainly
    exact fun _ _ third => first.trans third

end

/-- A disbursal that is done leaves nothing to be settled, and one that fails leaves the
settlement where it can rest. -/
theorem disburse_settles {loan record : Loan} {desk : Desk} (known : desk.ledger.loans.get? loan.id = some record)
    (sameLien : record.lien = loan.lien) (date : ValueDate) (payment : Option PaymentTypeId) (note : String) :
    Ends ((Desk.engine settings now).disburse loan date payment note) desk
      (fun _ after => Settles settings.moneyScale loan.id .begun desk .closed after)
      fun stop after => stop.Overflows ∨ Rests settings.moneyScale loan.id desk after := by
  unfold disburse
  refine (settleBefore_readies settings now loan payment desk).andThen ?_ fun _ _ stopped => stopped
  intro settlement ready readied
  apply (onLedger_ends (Ledger.pass_ends .disburse loan.id _ .active
    (.disburse loan.id loan.principal date payment) ready.ledger)).andThen
  · intro _ _ ended
    rcases ended with ⟨_, rfl, ⟨_, rfl, _, found, same, allowed, rfl⟩ | ⟨_, rfl, _, _, rfl⟩⟩
    · rw [← readied.loans] at known
      cases known.symm.trans same
      have paid := readied.paid (.paid loan.principal date payment same allowed)
      let disbursed : Desk := { ready with
        ledger := ready.ledger.passed loan.id record .active (.disburse loan.id loan.principal date payment) }
      have active : disbursed.ledger.loans.get? loan.id = some { record with status := .active } :=
        Table.get?_insert_self ..
      have linked : disbursed.ledger.links.get? loan.id = settlement.map (·.account) := readied.links
      apply (settleAfter_settles settings now active sameLien linked).andThen
      · exact fun _ _ later => paid.trans later
      · exact fun _ _ => Or.inl
    · refine (unsettle_settles settings now readied).andThen ?_ fun _ _ => Or.inl
      exact fun _ _ rests => Or.inr rests
  · intro _ _ ended
    obtain ⟨_, rfl, _, rfl, _, ⟨_, isRefusal⟩, _⟩ := ended
    cases isRefusal

end Engine

end Countersign
