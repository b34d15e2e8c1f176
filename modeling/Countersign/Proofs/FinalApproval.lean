import Countersign.Proofs.CommandAgain
import Countersign.Proofs.Retention
import Countersign.Proofs.SettlementSums

/-!
The last approval of a loan, from end to end. Where no operation fails and no sum loses anything it
goes through just where the linked account covers the fees and what is to be held. Then the loan is
paid out and its charges are paid, the fees are gone from the account, and a new hold stands in the
place of the earlier lien.
-/

namespace Countersign

namespace Ledger

/-- How a loan stands in books in which nothing fails: its record, its charges and its account. The
numbers given out are at least up to the last one named. -/
structure Stands (loan : LoanId) (id : AccountId) (last : TransactionId) (record : Loan) (charges : List Charge)
    (account : Account) (ledger : Ledger) : Prop where
  known : ledger.loans.get? loan = some record
  charged : ledger.chargesOf loan = charges
  linked : ledger.links.get? loan = some id
  found : ledger.accounts.get? id = some account
  working : ledger.failing = []
  inOrder : ledger.InOrder
  numbers : last ≤ ledger.lastTransaction

variable {loan : LoanId} {id : AccountId} {last : TransactionId} {record : Loan} {charges : List Charge}
  {account : Account} {ledger after : Ledger}

theorem Course.numbers (course : Course loan ledger after) : ledger.lastTransaction ≤ after.lastTransaction := by
  cases course with
  | unpaid path => exact path.numbers
  | paid payout =>
    obtain ⟨earlier, ⟨_, _, _, _, _⟩, later⟩ := payout
    exact Nat.le_trans earlier.numbers later.path.numbers

theorem charged_path (ledger : Ledger) (loan : LoanId) (ids : Option (List ChargeId)) :
    Path loan ledger (ledger.charged loan ids) := by
  unfold charged
  split
  next listed => exact .single (.mark listed _)
  next => exact .refl

theorem chargesOf_charged (ledger : Ledger) (loan : LoanId) (ids : List ChargeId) :
    (ledger.charged loan (some ids)).chargesOf loan = marked ids (ledger.chargesOf loan) := by
  unfold charged chargesOf
  cases listed : ledger.charges.get? loan with
  | none => exact congrArg (Option.getD · []) listed
  | some charges => exact congrArg (Option.getD · []) (Table.get?_insert_self ..)

namespace Stands

variable (stands : Stands loan id last record charges account ledger)
include stands

theorem course (course : Course loan ledger after) {amended : Loan} {rest : List Charge} {changed : Account}
    (known : after.loans.get? loan = some amended) (charged : after.chargesOf loan = rest)
    (found : after.accounts.get? id = some changed) : Stands loan id last amended rest changed after where
  known := known
  charged := charged
  linked := course.retains.links ▸ stands.linked
  found := found
  working := course.failing.trans stands.working
  inOrder := course.inOrder stands.inOrder
  numbers := Nat.le_trans stands.numbers course.numbers

theorem works (op : LedgerOp) : op ∉ ledger.failing := by
  rw [stands.working]
  exact List.not_mem_nil

theorem noted (text : String) : Stands loan id last record charges account (ledger.noted loan text) :=
  stands.course (.unpaid (.single (.note text))) stands.known stands.charged stands.found

theorem passed {target : LoanStatus} {entry : JournalEntry}
    (course : Course loan ledger (ledger.passed loan record target entry)) :
    Stands loan id last { record with status := target } charges account (ledger.passed loan record target entry) :=
  stands.course course (Table.get?_insert_self ..) stands.charged stands.found

theorem marked (ids : List ChargeId) :
    Stands loan id last record (Ledger.marked ids charges) account (ledger.charged loan (some ids)) := by
  refine stands.course (.unpaid (charged_path ledger loan _)) ?_ ?_ ?_
  · rw [charged_loans, stands.known]
  · rw [chargesOf_charged, stands.charged]
  · unfold Ledger.charged
    split <;> exact stands.found

theorem markPaid (listed : ledger.charges.get? loan = some charges) (ids : List ChargeId) :
    Ends (Ledger.markPaid loan ids) ledger
      (fun _ after => Stands loan id last record (Ledger.marked ids charges) account after) fun _ _ => False := by
  apply ((markPaid_charges ledger loan ids).and (markPaid_ends loan ids ledger)).imp
  · intro _ _ ended
    exact ended.1 ▸ stands.marked ids
  · intro _ _ ended
    cases listed.symm.trans ended.2.1

theorem withLien {snapshot : Loan} (same : snapshot.id = loan) (sameLien : record.lien = snapshot.lien)
    (lien : Option TransactionId) :
    Stands loan id last { record with lien := lien } charges account
      (ledger.withLien snapshot lien snapshot.lien) := by
  subst same
  unfold Ledger.withLien relined
  rw [stands.known]
  split
  next =>
    exact stands.course (.unpaid (.single (.lien stands.known lien))) (Table.get?_insert_self ..) stands.charged
      stands.found
  next unneeded =>
    have neither : lien = none ∧ snapshot.lien = none := by
      cases lien <;> cases pledge : snapshot.lien <;> simp [pledge] at unneeded ⊢
    have unchanged : { record with lien := lien } = record := by rw [neither.1, ← neither.2, ← sameLien]
    rw [unchanged]
    exact stands

theorem findAccount : Ends (Ledger.findAccount loan) ledger (fun answer after => answer = id ∧ after = ledger)
    fun _ _ => False := by
  apply (findAccount_ends loan ledger).imp
  · intro _ _ ended
    obtain ⟨_, linked, same⟩ := ended
    exact ⟨Option.some_inj.mp (linked.symm.trans stands.linked), same⟩
  · intro _ _ ended
    obtain ⟨⟨failing, _⟩ | ⟨missing, _⟩, _⟩ := ended
    · exact stands.works _ failing
    · cases stands.linked.symm.trans missing

theorem withdraw (amount : Amount) (payment : PaymentTypeId)
    (fits : amount.value ≤ account.available → Decimal.Fits (account.available.units - amount.value.units)) :
    Ends (Ledger.withdraw amount id payment) ledger
      (fun _ after => amount.value ≤ account.available ∧ ∃ paid, account.Shifts (-amount.value.units) 0 paid ∧
        paid.holds = account.holds ∧ Stands loan id last record charges paid after)
      fun _ _ => ¬amount.value ≤ account.available := by
  by_cases covered : amount.value ≤ account.available
  · obtain ⟨paid, withdrawn, shifts, holds⟩ := Account.withdraw_fits covered (fits covered)
    apply (move_known .withdraw id (fun _ account => account.withdraw amount.value) (.withdraw id amount.value payment)
      stands.found withdrawn).imp
    · intro _ _ ended
      obtain ⟨rfl, rfl⟩ := ended
      have move := Course.unpaid (.single (.withdraw amount payment stands.linked stands.found withdrawn))
      exact ⟨covered, paid, shifts, holds, stands.course move stands.known stands.charged (Table.get?_insert_self ..)⟩
    · intro _ _ ended
      exact absurd ended.1 (stands.works _)
  · refine (move_ends .withdraw id (fun _ account => account.withdraw amount.value) (.withdraw id amount.value payment)
      ledger).imp ?_ fun _ _ _ => covered
    intro _ _ ended
    obtain ⟨_, _, _, _, found, withdrawn, _⟩ := ended
    cases stands.found.symm.trans found
    exact absurd ((Account.withdraw_ok_iff ..).mp withdrawn).1 covered

theorem hold (amount : Amount)
    (fits : amount.value ≤ account.available → Decimal.Fits (account.available.units - amount.value.units) ∧
      Decimal.Fits (account.held.units + amount.value.units)) :
    Ends (Ledger.hold amount (some loan) id) ledger
      (fun new after => amount.value ≤ account.available ∧ last < new ∧ account.holds.get? new = none ∧
        ∃ held, account.Shifts (-amount.value.units) amount.value.units held ∧
          held.holds = account.holds.insert new amount.value ∧ Stands loan id last record charges held after)
      fun _ _ => ¬amount.value ≤ account.available := by
  by_cases covered : amount.value ≤ account.available
  · obtain ⟨fitsAvailable, fitsHeld⟩ := fits covered
    obtain ⟨changed, held, shifts, holds⟩ :=
      Account.hold_fits covered fitsAvailable fitsHeld (ledger.lastTransaction + 1)
    apply (move_known .hold id (fun transaction account => account.hold transaction amount.value)
      (.hold id (some loan) amount.value) stands.found held).imp
    · intro _ _ ended
      obtain ⟨rfl, rfl⟩ := ended
      have move := Course.unpaid (.single (.hold amount stands.linked stands.found held))
      exact ⟨covered, Nat.lt_succ_of_le stands.numbers, stands.inOrder.fresh stands.found, changed, shifts, holds,
        stands.course move stands.known stands.charged (Table.get?_insert_self ..)⟩
    · intro _ _ ended
      exact absurd ended.1 (stands.works _)
  · refine (move_ends .hold id (fun transaction account => account.hold transaction amount.value)
      (.hold id (some loan) amount.value) ledger).imp ?_ fun _ _ _ => covered
    intro _ _ ended
    obtain ⟨_, _, _, _, found, held, _⟩ := ended
    cases stands.found.symm.trans found
    exact absurd ((Account.hold_ok_iff ..).mp held).1 covered

theorem release (lien : TransactionId)
    (fitsHeld : Decimal.Fits (account.held.units - account.heldFor (some lien)))
    (fits : Decimal.Fits (account.available.units + account.heldFor (some lien))) :
    Ends (Ledger.release id lien) ledger
      (fun _ after => ∃ freed, account.Shifts (account.heldFor (some lien)) (-account.heldFor (some lien)) freed ∧
        freed.holds = account.holdsBut (some lien) ∧ Stands loan id last record charges freed after)
      fun stop after => (∃ what, stop = .refused (.notFound what)) ∧ account.holds.get? lien = none ∧ after = ledger := by
  apply (release_ends id lien ledger).imp
  · intro _ _ ended
    obtain ⟨_, _, freed, found, released, rfl⟩ := ended
    cases stands.found.symm.trans found
    obtain ⟨amount, there, _⟩ := (Account.release_ok_iff ..).mp released
    rw [Account.heldFor_some, there] at fitsHeld fits ⊢
    obtain ⟨_, known, shifts, holds⟩ := Account.release_fits there fitsHeld fits
    cases released.symm.trans known
    have move := Course.unpaid (.single (.release stands.linked stands.found released))
    exact ⟨freed, shifts, holds, stands.course move stands.known stands.charged (Table.get?_insert_self ..)⟩
  · intro stop _ ended
    obtain ⟨⟨failing, _⟩ | ⟨missing, _⟩ | ⟨_, found, refused⟩, same⟩ := ended
    · exact absurd failing (stands.works _)
    · cases stands.found.symm.trans missing
    · cases stands.found.symm.trans found
      cases there : account.holds.get? lien with
      | none =>
        rw [Account.release, there] at refused
        exact ⟨⟨_, (Except.error.inj refused).symm⟩, rfl, same⟩
      | some amount =>
        rw [Account.heldFor_some, there] at fitsHeld fits
        obtain ⟨_, known, _⟩ := Account.release_fits there fitsHeld fits
        cases refused.symm.trans known

end Stands

end Ledger

inductive Account.Placed (account : Account) (last : TransactionId) (ids : List ChargeId) (owed : Int) :
    Option Booking → Account → Prop where
  | nothing (unowed : owed = 0) : Placed account last ids owed none account
  | hold {booking : Booking} {held : Account} (positive : 0 < owed) (counted : booking.charges = ids)
      (value : booking.total.units = owed) (later : last < booking.transaction)
      (unused : account.holds.get? booking.transaction = none) (shifts : account.Shifts (-owed) owed held)
      (holds : held.holds = account.holds.insert booking.transaction booking.total) :
      Placed account last ids owed (some booking) held

namespace Account.Placed

variable {account paid held : Account} {last : TransactionId} {ids : List ChargeId} {owed : Int} {hold : Option Booking}
  {lien : Option TransactionId} (placed : paid.Placed last ids owed hold held)
include placed

theorem shifts : paid.Shifts (-owed) owed held := by
  cases placed with
  | nothing unowed =>
    subst unowed
    exact .nothing paid
  | hold positive counted value later unused shifts holds => exact shifts

variable (holds : paid.holds = account.holds) (issued : ∀ number, lien = some number → number ≤ last)
include holds issued

theorem heldFor : held.heldFor lien = account.heldFor lien := by
  cases placed with
  | nothing unowed =>
    unfold Account.heldFor
    rw [holds]
  | @hold booking _ positive counted value later unused shifts inserted =>
    cases lien with
    | none => rfl
    | some number =>
      have earlier : number ≠ booking.transaction := Nat.ne_of_lt (Nat.lt_of_le_of_lt (issued number rfl) later)
      rw [heldFor_some, heldFor_some, inserted, Table.get?_insert, if_neg earlier, holds]

theorem renewed : account.Renewed last lien owed (hold.map (·.transaction)) (held.holdsBut lien) := by
  cases placed with
  | nothing unowed =>
    have same : paid.holdsBut lien = account.holdsBut lien := by
      unfold holdsBut
      rw [holds]
    rw [same]
    exact .free unowed
  | @hold booking _ positive counted value later unused shifts inserted =>
    have same : held.holdsBut lien = (account.holdsBut lien).insert booking.transaction booking.total := by
      unfold holdsBut
      rw [inserted, holds]
      cases lien with
      | none => rfl
      | some number =>
        exact Table.erase_insert_of_ne _ (Nat.ne_of_gt (Nat.lt_of_le_of_lt (issued number rfl) later)) booking.total
    rw [same]
    exact .held positive value later (holds ▸ unused)

end Account.Placed

structure Ledger.Settled (loan : LoanId) (id : AccountId) (last : TransactionId) (charges : List Charge)
    (lien : Option TransactionId) (account : Account) (fee owed pledge : Int) (ledger : Ledger) : Prop where
  status : ledger.statusOf loan = some .active
  charges : ledger.chargesOf loan = Charge.paidFor charges fee owed
  account : ∃ settled, ledger.accounts.get? id = some settled ∧
    account.Shifts (pledge - fee - owed) (owed - pledge) settled ∧
    account.Renewed last lien owed (ledger.lienOf loan) settled.holds

namespace Engine

open Ledger (Stands Settled)
open Account (Placed)

variable (settings : Settings) (now : Timestamp) {loan record : Loan} {id : AccountId} {last : TransactionId}
  {charges : List Charge} {lien : Option TransactionId} {account : Account} {fee owed pledge : Int} {desk : Desk}

theorem withdrawFees_takes (stands : Stands loan.id id last record charges account desk.ledger)
    (payment : Option PaymentTypeId)
    (reckoning : Reckoning settings.moneyScale last charges lien account fee owed pledge) :
    Ends ((Desk.engine settings now).withdrawFees loan id charges payment) desk
      (fun _ after => account.Covers fee ∧ ∃ paid, account.Shifts (-fee) 0 paid ∧ paid.holds = account.holds ∧
        Stands loan.id id last record (Charge.paidFor charges fee 0) paid after.ledger)
      fun _ _ => ¬account.Covers fee := by
  have sums := Charge.due_owed reckoning.fees settings.moneyScale
  rw [reckoning.isFee] at sums
  rcases sums with ⟨nothing, due⟩ | ⟨amount, value, due⟩
  · apply due_andThen settings now due
    rw [nothing, Charge.paidFor_nothing]
    exact ⟨Or.inl rfl, account, .nothing account, rfl, stands⟩
  · have positive : 0 < fee := value ▸ amount.positive
    have fits (covered : amount.value ≤ account.available) :
        Decimal.Fits (account.available.units - amount.value.units) := by
      rw [value]
      exact reckoning.exactly.withdrawn (value ▸ covered)
    rw [Account.covers_amount value]
    apply due_andThen settings now due
    refine (demand_unless _ (stands.withdraw amount _ fits)).andThen ?_ fun _ _ uncovered => uncovered
    intro _ _ ended
    obtain ⟨ledger, rfl, covered, paid, shifts, holds, stands⟩ := ended
    have listed : ledger.charges.get? loan.id = some charges :=
      stands.charged ▸ Ledger.listed_of_due (stands.charged.symm ▸ due)
    apply (demand_unless _ (stands.markPaid listed _)).certainly
    intro _ _ ended
    obtain ⟨_, rfl, marked⟩ := ended
    rw [Charge.paidFor_fees reckoning.distinct positive] at marked
    rw [value] at shifts
    exact ⟨covered, paid, shifts, holds, marked⟩

theorem holdCharges_places {paid : Account} {rest : List Charge}
    (stands : Stands loan.id id last record rest paid desk.ledger)
    (reckoning : Reckoning settings.moneyScale last charges lien account fee owed pledge)
    (fits : paid.Covers owed → Decimal.Fits (paid.available.units - owed) ∧ Decimal.Fits (paid.held.units + owed)) :
    Ends ((Desk.engine settings now).holdCharges loan id charges) desk
      (fun hold after => paid.Covers owed ∧ ∃ held,
        paid.Placed last ((Charge.outstandingOf charges .upfrontHold).map (·.id)) owed hold held ∧
          Stands loan.id id last record rest held after.ledger)
      fun _ _ => ¬paid.Covers owed := by
  have sums := Charge.due_owed reckoning.holds settings.moneyScale
  rw [reckoning.isHold] at sums
  rcases sums with ⟨nothing, due⟩ | ⟨amount, value, due⟩
  · apply due_andThen settings now due
    exact ⟨Or.inl nothing, paid, .nothing nothing, stands⟩
  · have positive : 0 < owed := value ▸ amount.positive
    rw [← value, Account.covers_amount rfl] at fits
    rw [Account.covers_amount value]
    apply due_andThen settings now due
    refine (demand_unless _ (stands.hold amount fits)).andThen ?_ fun _ _ uncovered => uncovered
    intro new _ ended
    obtain ⟨ledger, rfl, covered, later, unused, held, shifts, holds, stands⟩ := ended
    rw [value] at shifts
    exact ⟨covered, held, .hold positive rfl value later unused shifts holds, stands⟩

/-- Everything before the disbursal is done just where the account covers all of it. -/
theorem settleBefore_covers (stands : Stands loan.id id last record charges account desk.ledger)
    (payment : Option PaymentTypeId)
    (reckoning : Reckoning settings.moneyScale last charges lien account fee owed pledge) :
    Ends ((Desk.engine settings now).settleBefore loan payment) desk
      (fun settlement after => account.Covers (fee + owed) ∧ ∃ fees hold paid held, settlement = some ⟨id, fees, hold⟩ ∧
        account.Shifts (-fee) 0 paid ∧ paid.holds = account.holds ∧
        paid.Placed last ((Charge.outstandingOf charges .upfrontHold).map (·.id)) owed hold held ∧
          Stands loan.id id last record (Charge.paidFor charges fee 0) held after.ledger)
      fun _ _ => ¬account.Covers (fee + owed) := by
  have feeNonneg : 0 ≤ fee := reckoning.isFee ▸ Charge.owed_nonneg charges .upfrontFee _
  have owedNonneg : 0 ≤ owed := reckoning.isHold ▸ Charge.owed_nonneg charges .upfrontHold _
  apply (onLedger_ends stands.findAccount).andThen
  · intro _ _ ended
    obtain ⟨_, rfl, ⟨_, rfl, rfl, rfl⟩ | ⟨_, _, no⟩⟩ := ended
    · apply (loadCharges_ends settings now loan.id desk).certainly
      intro _ desk ended
      obtain ⟨rfl, rfl⟩ := ended
      rw [stands.charged]
      apply (withdrawFees_takes settings now stands payment reckoning).andThen
      · intro fees between ended
        obtain ⟨coveredFee, paid, shifts, holds, stands⟩ := ended
        have covers := Account.covers_add feeNonneg owedNonneg shifts
        have fits (covered : paid.Covers owed) :
            Decimal.Fits (paid.available.units - owed) ∧ Decimal.Fits (paid.held.units + owed) := by
          have all := covers.mpr ⟨coveredFee, covered⟩
          rw [shifts.1, shifts.2, Int.add_zero]
          exact ⟨reckoning.exactly.available all, reckoning.exactly.held all⟩
        apply (holdCharges_places settings now stands reckoning fits).andThen
        · intro hold after ended
          obtain ⟨coveredHold, held, placed, stands⟩ := ended
          exact ⟨covers.mpr ⟨coveredFee, coveredHold⟩, fees, hold, paid, held, rfl, shifts, holds, placed, stands⟩
        · exact fun _ _ uncovered all => uncovered (covers.mp all).2
      · exact fun _ _ uncovered all => uncovered (all.left feeNonneg owedNonneg)
    · exact no.elim
  · intro _ _ ended
    obtain ⟨_, _, _, _, no⟩ := ended
    exact no.elim

theorem markHoldsPaid_pays {paid held : Account} {hold : Option Booking}
    (stands : Stands loan.id id last record (Charge.paidFor charges fee 0) held desk.ledger)
    (placed : paid.Placed last ((Charge.outstandingOf charges .upfrontHold).map (·.id)) owed hold held)
    (distinct : (charges.map (·.id)).Nodup) :
    Ends ((Desk.engine settings now).markHoldsPaid loan hold) desk
      (fun _ after => Stands loan.id id last record (Charge.paidFor charges fee owed) held after.ledger)
      fun _ _ => False := by
  apply (markHoldsPaid_ends settings now loan hold desk).imp ?_ fun _ _ no => no
  intro _ _ ended
  obtain rfl := ended
  cases placed with
  | nothing unowed =>
    subst unowed
    exact stands
  | hold positive counted value later unused shifts holds =>
    rw [← Charge.paidFor_holds distinct fee positive, ← counted]
    exact stands.marked _

theorem releasePrevious_frees {rest : List Charge} (stands : Stands loan.id id last record rest account desk.ledger)
    (fitsHeld : Decimal.Fits (account.held.units - account.heldFor loan.lien))
    (fits : Decimal.Fits (account.available.units + account.heldFor loan.lien)) :
    Ends ((Desk.engine settings now).releasePrevious loan id) desk
      (fun answer after => answer.1 = loan.lien ∧ ∃ freed,
        account.Shifts (account.heldFor loan.lien) (-account.heldFor loan.lien) freed ∧
          freed.holds = account.holdsBut loan.lien ∧ Stands loan.id id last record rest freed after.ledger)
      fun _ _ => False := by
  unfold releasePrevious
  cases pledge : loan.lien with
  | none => exact ⟨rfl, account, .nothing account, rfl, stands⟩
  | some lien =>
    rw [pledge] at fitsHeld fits
    apply (onLedger_ends (stands.release lien fitsHeld fits)).andThen
    · intro _ _ ended
      obtain ⟨_, rfl, ⟨_, rfl, freed, shifts, holds, stands⟩ | ⟨_, rfl, ⟨what, is⟩, gone, rfl⟩⟩ := ended
      · exact ⟨rfl, freed, shifts, holds, stands⟩
      · cases is
        rw [Account.heldFor_some, gone]
        exact ⟨rfl, account, .nothing account, (Table.erase_of_none gone).symm, stands⟩
    · intro _ _ ended
      obtain ⟨_, _, _, _, ⟨_, no⟩, _⟩ := ended
      cases no

theorem settleAfter_renews {paid held : Account} {fees hold : Option Booking}
    (stands : Stands loan.id id last record (Charge.paidFor charges fee 0) held desk.ledger)
    (sameLien : record.lien = loan.lien) (shifts : account.Shifts (-fee) 0 paid) (holds : paid.holds = account.holds)
    (placed : paid.Placed last ((Charge.outstandingOf charges .upfrontHold).map (·.id)) owed hold held)
    (covered : account.Covers (fee + owed))
    (reckoning : Reckoning settings.moneyScale last charges loan.lien account fee owed pledge) :
    Ends ((Desk.engine settings now).settleAfter loan (some ⟨id, fees, hold⟩)) desk
      (fun _ after => ∃ settled, account.Shifts (pledge - fee - owed) (owed - pledge) settled ∧
        account.Renewed last loan.lien owed (hold.map (·.transaction)) settled.holds ∧
        Stands loan.id id last { record with lien := hold.map (·.transaction) } (Charge.paidFor charges fee owed) settled
          after.ledger)
      fun _ _ => False := by
  have samePledge := (placed.heldFor holds reckoning.issued).trans reckoning.isPledge
  obtain ⟨heldAvailable, heldHeld⟩ := shifts.trans placed.shifts
  have fitsHeld : Decimal.Fits (held.held.units - held.heldFor loan.lien) := by
    rw [samePledge, heldHeld, Int.zero_add]
    exact reckoning.exactly.released covered
  have fits : Decimal.Fits (held.available.units + held.heldFor loan.lien) := by
    rw [samePledge, heldAvailable, ← Int.add_assoc]
    exact reckoning.exactly.returned covered
  apply (markHoldsPaid_pays settings now stands placed reckoning.distinct).certainly
  intro _ marked stands
  apply (releasePrevious_frees settings now stands fitsHeld fits).certainly
  intro answered freed ended
  obtain ⟨released, tasks⟩ := answered
  obtain ⟨rfl, settled, returned, holdsBut, stands⟩ := ended
  apply (recordLien_ends settings now loan (hold.map (·.transaction)) loan.lien freed).certainly
  intro _ _ same
  obtain rfl := same
  refine ⟨settled, ?_, ?_, stands.withLien rfl sameLien _⟩
  · obtain ⟨settledAvailable, settledHeld⟩ := returned
    constructor <;> omega
  · rw [holdsBut]
    exact placed.renewed holds reckoning.issued

/-- A loan that is to be paid out is, just where the account covers its settlement. -/
theorem disburse_covers (stands : Stands loan.id id last record charges account desk.ledger)
    (ready : record.status ∈ [LoanStatus.approved, .submittedAndPendingApproval]) (sameLien : record.lien = loan.lien)
    (date : ValueDate) (payment : Option PaymentTypeId) (note : String)
    (reckoning : Reckoning settings.moneyScale last charges loan.lien account fee owed pledge) :
    Ends ((Desk.engine settings now).disburse loan date payment note) desk
      (fun _ after => account.Covers (fee + owed) ∧
        Settled loan.id id last charges loan.lien account fee owed pledge after.ledger)
      fun _ _ => ¬account.Covers (fee + owed) := by
  unfold disburse
  refine (settleBefore_covers settings now stands payment reckoning).andThen ?_ fun _ _ uncovered => uncovered
  intro _ readied ended
  obtain ⟨covered, fees, hold, paid, held, rfl, shifts, holds, placed, stands⟩ := ended
  apply (onLedger_ends (Ledger.pass_ends .disburse loan.id [.approved, .submittedAndPendingApproval] .active
    (.disburse loan.id loan.principal date payment) readied.ledger)).andThen
  · intro _ _ ended
    obtain ⟨_, rfl, ⟨_, rfl, _, _, known, _, rfl⟩ | ⟨_, rfl, failing | wrong, _, _⟩⟩ := ended
    · cases stands.known.symm.trans known
      have disbursal := Ledger.Disbursal.paid loan.principal date payment known ready
      have active := stands.passed (.paid (.intro .refl disbursal .refl))
      have activeLien : { record with status := .active }.lien = loan.lien := sameLien
      apply Ends.certainly (settleAfter_renews settings now active activeLien shifts holds placed covered reckoning)
      intro _ after ended
      obtain ⟨settled, moved, renewed, stands⟩ := ended
      refine ⟨covered, Ledger.statusOf_found stands.known, stands.charged, settled, stands.found, moved, ?_⟩
      rw [Ledger.lienOf_of_get? stands.known]
      exact renewed
    · exact absurd failing (stands.works _)
    · exact absurd ready (wrong record stands.known)
  · intro _ _ ended
    obtain ⟨_, _, _, _, _, ⟨_, no⟩, _⟩ := ended
    cases no

theorem approvePart_covers (stands : Stands loan.id id last loan charges account desk.ledger)
    (status : loan.status = .submittedAndPendingApproval ∨ loan.status = .approved) (step : Step) {steps : List Step}
    (final : queuedAbove steps step.rank = none) (note : String) (date : ValueDate) (payment : Option PaymentTypeId)
    (reckoning : Reckoning settings.moneyScale last charges loan.lien account fee owed pledge) :
    Ends ((Desk.engine settings now).approvePart step loan steps note date payment) desk
      (fun _ after => account.Covers (fee + owed) ∧
        Settled loan.id id last charges loan.lien account fee owed pledge after.ledger)
      fun _ _ => ¬account.Covers (fee + owed) := by
  have ready : loan.status ∈ [LoanStatus.approved, .submittedAndPendingApproval] := by
    rcases status with submitted | approved
    · simp [submitted]
    · simp [approved]
  have unpaid : loan.status ≠ .active := by
    rcases status with submitted | approved
    · simp [submitted]
    · simp [approved]
  unfold approvePart advance
  rw [final]
  apply (leaveNote_ends settings now loan.id note desk).andThen
  · intro _ noted ended
    have stands : Stands loan.id id last loan charges account noted.ledger := by
      rcases ended with rfl | ⟨text, rfl⟩
      · exact stands
      · exact stands.noted text
    apply (submitFirst_ends settings now step date note stands.known).andThen
    · intro _ submitted ended
      obtain ⟨record, stands, ready, sameLien⟩ : ∃ record, Stands loan.id id last record charges account submitted.ledger ∧
          record.status ∈ [LoanStatus.approved, .submittedAndPendingApproval] ∧ record.lien = loan.lien := by
        rcases ended with ⟨_, rfl⟩ | ⟨_, pending, rfl⟩
        · exact ⟨loan, stands, ready, rfl⟩
        · have passage : Ledger.Passage loan.id loan.status (.submitForApproval loan.id loan.principal date) .approved :=
            pending ▸ .submitted _ _
          exact ⟨_, stands.passed (.unpaid (.single (.pass stands.known passage))), List.mem_cons_self, rfl⟩
      dsimp only
      rw [if_neg unpaid, bind_assoc]
      exact (disburse_covers settings now stands ready sameLien date payment note reckoning).andThen
        (fun _ _ settled => settled) fun _ _ uncovered => uncovered
    · intro _ _ ended
      obtain ⟨_, needed, failing | elsewhere, _⟩ := ended
      · exact absurd failing (stands.works _)
      · exact absurd (status.resolve_right needed.2.1) elsewhere
  · intro _ _ ended
    obtain ⟨_, failing | missing, _⟩ := ended
    · exact absurd failing (stands.works _)
    · cases stands.known.symm.trans missing

theorem approve_covers (orderly : desk.Orderly) (stands : Stands loan.id id last loan charges account desk.ledger)
    {step : Step} (mem : step ∈ desk.chains.chainOf loan.id) (pending : step.status = .pending)
    (final : queuedAbove (desk.chains.chainOf loan.id) step.rank = none)
    (status : loan.status = .submittedAndPendingApproval ∨ loan.status = .approved) (note : String)
    (date : Option Date) (payment : Option PaymentTypeId)
    (reckoning : Reckoning settings.moneyScale last charges loan.lien account fee owed pledge) :
    Ends ((Desk.engine settings now).perform (.approve loan.id step.id note date payment)) desk
      (fun _ after => account.Covers (fee + owed) ∧
        Settled loan.id id last charges loan.lien account fee owed pledge after.ledger ∧
        ∀ other ∈ after.chains.stepsOf loan.id, other.status = .approved)
      fun _ _ => ¬account.Covers (fee + owed) := by
  obtain ⟨stored, owned⟩ := ChainStore.mem_chainOf.mp mem
  have waits := (orderly.chains.sound.find?_eq_some_iff ..).mpr ⟨stored, rfl⟩
  apply (ends_bind _ _ _ _ _).mpr
  apply (openStep_finds settings now waits owned pending).certainly
  intro step desk ended
  obtain ⟨rfl, rfl⟩ := ended
  apply (requireLoan_finds settings now stands.known).certainly
  intro loan desk ended
  obtain ⟨rfl, rfl⟩ := ended
  apply read_andThen
  rw [orderly.chains.stepsOf_eq]
  have part := (approvePart_covers settings now stands status step final note (valueDate date loan) payment
    reckoning).and (approvePart_batch settings now stands.known)
  refine (carryOut_ends settings now part ?_).imp (fun _ _ ended => ended) fun _ _ ended => ended.1
  intro _ after ended
  obtain ⟨⟨covered, settled⟩, batch, sameChains⟩ := ended
  obtain ⟨chains, committed, turned⟩ := orderly.chains.approval_finishes mem pending now final
  rw [batch, sameChains, final]
  refine ⟨chains, committed, covered, settled, fun other listed => ?_⟩
  rw [turned.regular.stepsOf_eq] at listed
  exact turned.form.approved other listed

end Engine

namespace Desk

variable {settings : Settings} {desk : Desk}

/-- The last approval of a loan that is to be paid out goes through just where the linked account has
enough for the fees and for what is to be held, or nothing is owed. Then the loan is active and its
chain approved, the charges that were counted are paid, and the account has given the fees and what
is held, and got the earlier lien back. That lien is gone, and there is a new hold, which the loan
records as its lien, just where there was anything to hold. -/
theorem final_approval_settles (reachable : Reachable settings desk) (working : desk.ledger.failing = [])
    {loan : LoanId} {step : Step} (mem : step ∈ desk.chains.stepsOf loan) (pending : step.status = .pending)
    (only : ∀ other ∈ desk.chains.stepsOf loan, other.status ≠ .approved → other = step)
    (status : desk.ledger.statusOf loan = some .submittedAndPendingApproval ∨
      desk.ledger.statusOf loan = some .approved)
    {id : AccountId} {account : Account} (linked : desk.ledger.links.get? loan = some id)
    (found : desk.ledger.accounts.get? id = some account) {fee hold pledge : Int}
    (reckoning : Reckoning settings.moneyScale desk.ledger.lastTransaction (desk.ledger.chargesOf loan)
      (desk.ledger.lienOf loan) account fee hold pledge)
    (note : String) (date : Option Date) (payment : Option PaymentTypeId) (now : Timestamp) :
    let approve := (Desk.engine settings now).perform (.approve loan step.id note date payment)
    ((∃ answer after, approve desk = .ok answer after) ↔ fee + hold = 0 ∨ fee + hold ≤ account.available.units) ∧
      ∀ answer after, approve desk = .ok answer after →
        after.ledger.statusOf loan = some .active ∧
        (∀ other ∈ after.chains.stepsOf loan, other.status = .approved) ∧
        after.ledger.chargesOf loan = Charge.paidFor (desk.ledger.chargesOf loan) fee hold ∧
        ∃ settled, after.ledger.accounts.get? id = some settled ∧
          account.Shifts (pledge - fee - hold) (hold - pledge) settled ∧
          account.Renewed desk.ledger.lastTransaction (desk.ledger.lienOf loan) hold (after.ledger.lienOf loan)
            settled.holds := by
  intro approve
  have orderly := reachable.orderly
  rw [orderly.chains.stepsOf_eq] at mem only
  obtain ⟨stored, owned⟩ := ChainStore.mem_chainOf.mp mem
  have waits := (orderly.chains.sound.find?_eq_some_iff ..).mpr ⟨stored, rfl⟩
  obtain ⟨record, known⟩ := reachable.founded.loans loan (List.ne_nil_of_mem mem)
  obtain rfl := orderly.ledger.keyed loan record known
  have stands : Ledger.Stands record.id id desk.ledger.lastTransaction record (desk.ledger.chargesOf record.id) account
      desk.ledger := ⟨known, rfl, linked, found, working, orderly.ledger, Nat.le_refl _⟩
  rw [Ledger.statusOf_found known, Option.some_inj, Option.some_inj] at status
  rw [Ledger.lienOf_of_get? known] at reckoning ⊢
  have final : queuedAbove (desk.chains.chainOf record.id) step.rank = none := by
    refine List.find?_eq_none.mpr fun other listed chosen => ?_
    simp only [Bool.and_eq_true, beq_iff_eq] at chosen
    have same := only other listed (by simp [chosen.2])
    rw [same, pending] at chosen
    cases chosen.2
  have ends := Engine.approve_covers settings now orderly stands mem pending final status note date payment reckoning
  refine ⟨⟨fun approved => ?_, fun covered => ?_⟩, fun answer after approved => ?_⟩
  · obtain ⟨answer, after, ran⟩ := approved
    exact (ends.of_ok ran).1
  · obtain ⟨answer, after, ran, _⟩ := (ends.imp (fun _ _ ended => ended) fun _ _ uncovered => uncovered covered).exists_ok
    exact ⟨answer, after, ran⟩
  · obtain ⟨_, settled, finished⟩ := ends.of_ok approved
    exact ⟨settled.status, finished, settled.charges, settled.account⟩

/-- The second approval of the sample takes a fee of ten, holds twenty and gives back the earlier five. -/
theorem halfway_settles :
    ∃ answer after settled,
      (Desk.engine .standard .epoch).perform (.approve 1 2 "" none none) halfway = .ok answer after ∧
      after.ledger.statusOf 1 = some .active ∧ after.ledger.accounts.get? 7 = some settled ∧
      settled.available.units = 470 * 10 ^ 28 ∧ settled.held.units = 20 * 10 ^ 28 := by
  obtain ⟨step, mem, two, pending, only⟩ : ∃ step ∈ halfway.chains.stepsOf 1, step.id = 2 ∧ step.status = .pending ∧
      ∀ other ∈ halfway.chains.stepsOf 1, other.status ≠ .approved → other = step := by decide +kernel
  obtain ⟨account, found, available, held, pledge⟩ : ∃ account, halfway.ledger.accounts.get? 7 = some account ∧
      account.available.units = 495 * 10 ^ 28 ∧ account.held.units = 5 * 10 ^ 28 ∧
      account.heldFor (halfway.ledger.lienOf 1) = 5 * 10 ^ 28 :=
    ⟨_, rfl, by decide +kernel, by decide +kernel, by decide +kernel⟩
  have exactly : account.Exact (10 * 10 ^ 28) (20 * 10 ^ 28) (5 * 10 ^ 28) := by
    constructor <;> simp only [available, held]
    · exact fun _ => ⟨.whole 485 (by decide), by decide +kernel⟩
    · exact fun _ => ⟨.whole 465 (by decide), by decide +kernel⟩
    · exact fun _ => ⟨.whole 25 (by decide), by decide +kernel⟩
    · exact fun _ => ⟨.whole 20 (by decide), by decide +kernel⟩
    · exact fun _ => ⟨.whole 470 (by decide), by decide +kernel⟩
  have reckoning : Reckoning Settings.standard.moneyScale halfway.ledger.lastTransaction (halfway.ledger.chargesOf 1)
      (halfway.ledger.lienOf 1) account (10 * 10 ^ 28) (20 * 10 ^ 28) (5 * 10 ^ 28) := by
    refine ⟨by decide +kernel, by decide +kernel, pledge, by decide +kernel, ?_, ⟨.whole 10 (by decide), rfl, ?_⟩,
      ⟨.whole 20 (by decide), rfl, ?_⟩, exactly⟩
    · intro number is
      have one : halfway.ledger.lienOf 1 = some 1 := by decide +kernel
      cases one.symm.trans is
      decide +kernel
    · decide +kernel
    · decide +kernel
  obtain ⟨succeeds, settles⟩ := final_approval_settles halfway_reachable (by decide +kernel) mem pending only (by decide +kernel)
    (by decide +kernel) found reckoning "" none none .epoch
  rw [two] at succeeds settles
  obtain ⟨answer, after, ran⟩ := succeeds.mpr (Or.inr (by rw [available]; decide))
  obtain ⟨active, _, _, settled, known, ⟨settledAvailable, settledHeld⟩, _⟩ := settles answer after ran
  rw [available] at settledAvailable
  rw [held] at settledHeld
  exact ⟨answer, after, settled, ran, active, known, by omega, by omega⟩

end Desk

end Countersign
