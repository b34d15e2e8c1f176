import Countersign.Proofs.LedgerPart

/-!
Settling the upfront charges and disbursing a loan. Everything before the disbursal, and
all that is undone when it fails, is a path of moves on the books of the loan; so is what
follows the disbursal, and there the loan keeps its status.
-/

namespace Countersign

open Relation (ReflTransGen)
open Ledger (Move QuietMove Path QuietPath Course Disbursal)
open Desk (Through)
open Work (Within Halted within_pure within_demand within_onLedger)

/-! The operations that settling calls, as moves. -/

namespace Ledger

variable {loan : LoanId} {ledger : Ledger}

theorem statusOf_insert (ledger : Ledger) (loan : LoanId) (record : Loan) :
    statusOf { ledger with loans := ledger.loans.insert loan record } loan = some record.status := by
  unfold statusOf loan?
  rw [Table.get?_insert, if_pos rfl, Option.map_some]

theorem markPaid_moves (loan : LoanId) (ids : List ChargeId) (ledger : Ledger) :
    Ends (markPaid loan ids) ledger (fun _ after => QuietPath loan ledger after)
      fun _ after => QuietPath loan ledger after := by
  apply (markPaid_ends loan ids ledger).imp
  · intro _ _ ended
    obtain ⟨charges, found, rfl⟩ := ended
    exact .single ⟨.mark found ids, rfl⟩
  · intro _ _ ended
    obtain ⟨_, _, rfl⟩ := ended
    exact .refl

theorem setLien_moves (loan : LoanId) (lien : Option TransactionId) (ledger : Ledger) :
    Ends (setLien loan lien) ledger (fun _ after => QuietPath loan ledger after)
      fun _ after => QuietPath loan ledger after := by
  apply (setLien_ends loan lien ledger).imp
  · intro _ _ ended
    obtain ⟨record, found, rfl⟩ := ended
    refine .single ⟨.lien found lien, ?_⟩
    rw [statusOf_found found]
    exact statusOf_insert ..
  · intro _ _ ended
    obtain ⟨_, _, rfl⟩ := ended
    exact .refl

theorem withdraw_moves {account : AccountId} (amount : Amount) (payment : PaymentTypeId)
    (linked : ledger.links.get? loan = some account) :
    Ends (withdraw amount account payment) ledger (fun _ after => QuietPath loan ledger after)
      fun _ after => QuietPath loan ledger after := by
  refine (move_ends .withdraw account (fun _ account => account.withdraw amount.value)
    (.withdraw account amount.value payment) ledger).imp ?_ ?_
  · intro _ _ ended
    obtain ⟨_, rfl, _, changed, found, withdrawn, rfl⟩ := ended
    exact .single ⟨.withdraw amount payment linked found withdrawn, rfl⟩
  · intro _ _ ended
    rcases ended with ⟨_, _, rfl⟩ | ⟨_, rfl⟩
    · exact .refl
    · exact .single ⟨.number, rfl⟩

theorem hold_moves {account : AccountId} (amount : Amount) (linked : ledger.links.get? loan = some account) :
    Ends (hold amount (some loan) account) ledger (fun _ after => QuietPath loan ledger after)
      fun _ after => QuietPath loan ledger after := by
  refine (move_ends .hold account (fun transaction account => account.hold transaction amount.value)
    (.hold account (some loan) amount.value) ledger).imp ?_ ?_
  · intro _ _ ended
    obtain ⟨_, rfl, _, changed, found, held, rfl⟩ := ended
    exact .single ⟨.hold amount linked found held, rfl⟩
  · intro _ _ ended
    rcases ended with ⟨_, _, rfl⟩ | ⟨_, rfl⟩
    · exact .refl
    · exact .single ⟨.number, rfl⟩

theorem release_moves {account : AccountId} (transaction : TransactionId)
    (linked : ledger.links.get? loan = some account) :
    Ends (release account transaction) ledger (fun _ after => QuietPath loan ledger after)
      fun _ after => QuietPath loan ledger after := by
  apply (release_ends account transaction ledger).imp
  · intro _ _ ended
    obtain ⟨_, _, changed, found, released, rfl⟩ := ended
    exact .single ⟨.release linked found released, rfl⟩
  · intro _ _ ended
    obtain ⟨_, rfl⟩ := ended
    exact .refl

end Ledger

def Charge.due (charges : List Charge) (kind : ChargeKind) (scale : Nat) :
    Except Decimal.Overflow (Option (List ChargeId × Amount)) :=
  (total (outstandingOf charges kind) scale).map fun total =>
    (Amount.of? total).map fun amount => ((outstandingOf charges kind).map (·.id), amount)

namespace Engine

variable (settings : Settings) (now : Timestamp) {desk : Desk}

theorem due_apply (engine : Engine Desk) (charges : List Charge) (kind : ChargeKind) (desk : Desk) :
    engine.due charges kind desk =
      match Charge.due charges kind engine.settings.moneyScale with
      | .ok due => .ok due desk
      | .error what => .error (.overflow what) desk := by
  unfold due Charge.due Work.sum
  cases Charge.total (Charge.outstandingOf charges kind) engine.settings.moneyScale <;> rfl

theorem due_within {loan : LoanId} (charges : List Charge) (kind : ChargeKind) :
    Within Stop.OfLedger (QuietMove loan) ((Desk.engine settings now).due charges kind) desk := by
  unfold Within Ends
  rw [due_apply]
  cases Charge.due charges kind settings.moneyScale with
  | ok due => exact .refl _ _
  | error what => exact ⟨.overflow what, .refl _ _⟩

variable {loan : Loan} {account : AccountId} (linked : desk.ledger.links.get? loan.id = some account)
include linked

theorem withdrawFees_within (charges : List Charge) (payment : Option PaymentTypeId) :
    Within Stop.OfLedger (QuietMove loan.id) ((Desk.engine settings now).withdrawFees loan account charges payment)
      desk := by
  apply (due_within settings now charges .upfrontFee).bind
  intro answered computed known
  rcases answered with _ | ⟨ids, amount⟩
  · exact within_pure _
  · apply Within.bind (within_demand _ (Ledger.withdraw_moves amount _ (known.path.linked linked)))
    intro transaction withdrawn _
    apply Within.bind (within_demand _ (Ledger.markPaid_moves loan.id ids _))
    exact fun _ _ _ => within_pure _

theorem holdCharges_within (charges : List Charge) :
    Within Stop.OfLedger (QuietMove loan.id) ((Desk.engine settings now).holdCharges loan account charges) desk := by
  apply (due_within settings now charges .upfrontHold).bind
  intro answered computed known
  rcases answered with _ | ⟨ids, amount⟩
  · exact within_pure _
  · apply Within.bind (within_demand _ (Ledger.hold_moves amount (known.path.linked linked)))
    exact fun _ _ _ => within_pure _

theorem releasePrevious_within :
    Within Stop.OfSum (QuietMove loan.id) ((Desk.engine settings now).releasePrevious loan account) desk := by
  unfold releasePrevious
  cases loan.lien with
  | none => exact within_pure _
  | some previous =>
    apply Within.bind (within_onLedger (Ledger.release_moves previous linked))
    intro answered _ _
    rcases answered with error | _
    · cases error <;> exact within_pure _
    · exact within_pure _

omit linked

theorem markHoldsPaid_within (hold : Option Booking) :
    Within Stop.OfSum (QuietMove loan.id) ((Desk.engine settings now).markHoldsPaid loan hold) desk := by
  cases hold with
  | none => exact within_pure _
  | some booking =>
    apply Within.bind (Within.succeeds (within_onLedger (Ledger.markPaid_moves loan.id booking.charges _)))
    rintro (_ | _) _ _ <;> exact within_pure _

theorem recordLien_within (lien released : Option TransactionId) :
    Within Stop.OfSum (QuietMove loan.id) ((Desk.engine settings now).recordLien loan lien released) desk := by
  unfold recordLien
  split
  · apply Within.bind (Within.succeeds (within_onLedger (Ledger.setLien_moves loan.id lien _)))
    rintro (_ | _) _ _ <;> exact within_pure _
  · exact within_pure _

theorem loadCharges_ends (loan : LoanId) (desk : Desk) :
    Ends (Work.demand .loadCharges ((Desk.engine settings now).services.chargesOf loan)) desk
      (fun charges after => charges = desk.ledger.chargesOf loan ∧ after = desk) fun _ _ => False :=
  ⟨rfl, rfl⟩

/-- Before the disbursal no more is known of the account than that it is the linked one. -/
theorem settleBefore_ends (loan : Loan) (payment : Option PaymentTypeId) (desk : Desk) :
    Ends ((Desk.engine settings now).settleBefore loan payment) desk
      (fun settlement after => Through (QuietPath loan.id) desk after ∧
        ∀ settled, settlement = some settled → desk.ledger.links.get? loan.id = some settled.account)
      fun stop after => stop.OfLedger ∧ Through (QuietPath loan.id) desk after := by
  unfold settleBefore
  apply (onLedger_ends (Ledger.findAccount_ends loan.id desk.ledger)).andThen
  · intro _ _ ended
    rcases ended with ⟨_, rfl, ⟨account, rfl, _, linked, rfl⟩ | ⟨error, rfl, _, rfl⟩⟩
    · apply (loadCharges_ends settings now loan.id _).certainly
      intro charges _ ended
      obtain ⟨_, rfl⟩ := ended
      refine Ends.andThen (withdrawFees_within settings now linked charges payment) ?_ fun _ _ halted => halted
      intro fees charged first
      have still := first.path.linked linked
      apply Ends.andThen (holdCharges_within settings now still charges)
      · intro hold held second
        refine ⟨first.trans second, fun _ settled => ?_⟩
        cases settled
        exact linked
      · exact fun _ _ ⟨ofLedger, second⟩ => ⟨ofLedger, first.trans second⟩
    · cases error with
      | notFound what => exact ⟨.refl _ _, nofun⟩
      | rejected why => exact ⟨.refused .findAccount, .refl _ _⟩
      | unavailable outage => exact ⟨.refused .findAccount, .refl _ _⟩
  · intro _ _ ended
    obtain ⟨_, rfl, what, rfl, _, rfl⟩ := ended
    exact ⟨.overflow what, .refl _ _⟩

theorem unsettle_within {loan : LoanId} (settlement : Option Settlement)
    (linked : ∀ settled, settlement = some settled → desk.ledger.links.get? loan = some settled.account) :
    Within Stop.OfSum (QuietMove loan) ((Desk.engine settings now).unsettle settlement) desk := by
  rcases settlement with _ | ⟨account, fees, _ | hold⟩
  · exact within_pure _
  · exact within_pure _
  · apply Within.bind (within_onLedger (Ledger.release_moves hold.transaction (linked _ rfl)))
    exact fun _ _ _ => within_pure _

theorem settleAfter_within {loan : Loan} (settlement : Option Settlement)
    (linked : ∀ settled, settlement = some settled → desk.ledger.links.get? loan.id = some settled.account) :
    Within Stop.OfSum (QuietMove loan.id) ((Desk.engine settings now).settleAfter loan settlement) desk := by
  rcases settlement with _ | ⟨account, fees, hold⟩
  · exact within_pure _
  · apply Within.bind (markHoldsPaid_within settings now hold)
    intro _ marked first
    apply Within.bind (releasePrevious_within settings now (first.path.linked (linked _ rfl)))
    intro answered _ _
    obtain ⟨released, _⟩ := answered
    apply Within.bind (recordLien_within settings now (hold.map (·.transaction)) released)
    exact fun _ _ _ => within_pure _

theorem disburse_ends (loan : Loan) (date : ValueDate) (payment : Option PaymentTypeId) (note : String)
    (desk : Desk) :
    Ends ((Desk.engine settings now).disburse loan date payment note) desk
      (fun _ after => Through (Ledger.Payout loan.id) desk after) (Halted loan.id desk) := by
  unfold disburse
  apply (settleBefore_ends settings now loan payment desk).andThen
  · intro settlement settled ended
    obtain ⟨before, linked⟩ := ended
    have linked' : ∀ booked, settlement = some booked → settled.ledger.links.get? loan.id = some booked.account :=
      fun booked is => before.path.linked (linked booked is)
    apply (onLedger_ends (Ledger.pass_ends .disburse loan.id _ .active
      (.disburse loan.id loan.principal date payment) settled.ledger)).andThen
    · intro _ _ ended
      rcases ended with ⟨_, rfl, ⟨_, rfl, _, record, found, ready, rfl⟩ | ⟨_, rfl, _, _, rfl⟩⟩
      · have disbursal := Disbursal.paid loan.principal date payment found ready
        refine Ends.andThen (settleAfter_within settings now settlement linked') ?_ ?_
        · intro _ after later
          exact ⟨.intro before.ledger.path disbursal later.ledger, later.chains.trans before.chains,
            later.directory.trans before.directory⟩
        · intro _ after ended
          obtain ⟨⟨what⟩, later⟩ := ended
          exact ⟨.overflow what, ⟨.paid (.intro before.ledger.path disbursal later.ledger),
            later.chains.trans before.chains, later.directory.trans before.directory⟩, nofun⟩
      · apply Ends.andThen (unsettle_within settings now settlement linked')
        · intro _ after later
          exact .of_path (.refused .disburseLoan) (before.trans later).path
        · intro _ after ended
          obtain ⟨⟨what⟩, later⟩ := ended
          exact .of_path (.overflow what) (before.trans later).path
    · intro _ _ ended
      obtain ⟨_, rfl, what, rfl, _, ⟨_, isRefusal⟩, _⟩ := ended
      cases isRefusal
  · exact fun _ _ ⟨ofLedger, before⟩ => .of_path ofLedger before.path

end Engine

end Countersign
