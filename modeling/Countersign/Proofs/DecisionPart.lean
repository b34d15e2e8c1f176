import Countersign.Proofs.SettlementPart

/-!
The ledger's part in each decision: which batch comes of it, what it did to the books of
the loan, and how it can be stopped. The loan that a decision works with is the record
that the ledger had when the decision was checked.
-/

namespace Countersign.Engine

open Ledger (Move QuietMove Path QuietPath Passage)
open Desk (Through)
open Work (Within Halted within_pure within_demand within_onLedger)

variable (settings : Settings) (now : Timestamp)

theorem leaveNote_ends (loan : LoanId) (note : String) (desk : Desk) :
    Ends ((Desk.engine settings now).leaveNote loan note) desk
      (fun _ after => after = desk ∨ ∃ text, after = { desk with ledger := desk.ledger.noted loan text })
      fun stop after => stop = .failed (.ledgerFailed .appendNote) ∧
        (.appendNote ∈ desk.ledger.failing ∨ desk.ledger.loans.get? loan = none) ∧ after = desk := by
  unfold leaveNote
  split
  · exact Or.inl rfl
  · apply (demand_ends _ (Ledger.appendNote_ends loan note desk.ledger)).imp
    · intro _ _ ended
      obtain ⟨_, rfl, _, _, rfl⟩ := ended
      exact Or.inr ⟨note, rfl⟩
    · intro _ _ ended
      rcases ended with ⟨_, rfl, ⟨_, rfl, failing, _, rfl⟩ | ⟨_, rfl, _, ⟨_, isRefusal⟩, _⟩⟩
      · exact ⟨rfl, failing, rfl⟩
      · cases isRefusal

theorem through_noted (loan : LoanId) (text : String) (desk : Desk) :
    Through (QuietPath loan) desk { desk with ledger := desk.ledger.noted loan text } :=
  .intro (.single ⟨.note text, rfl⟩)

theorem leaveNote_andThen {α : Type} {loan : LoanId} {note : String} {desk : Desk} {next : Work Desk α}
    {done : α → Desk → Prop} {stopped : Stop → Desk → Prop}
    (rest : ∀ noted, Through (QuietPath loan) desk noted → noted.ledger.loans = desk.ledger.loans →
      Ends next noted done stopped)
    (halt : ∀ stop after, stop.OfLedger → Through (QuietPath loan) desk after → stopped stop after) :
    Ends (do (Desk.engine settings now).leaveNote loan note; next) desk done stopped := by
  apply (leaveNote_ends settings now loan note desk).andThen
  · intro _ _ ended
    rcases ended with rfl | ⟨text, rfl⟩
    · exact rest _ (.refl _ _) rfl
    · exact rest _ (through_noted loan text desk) rfl
  · intro _ _ ended
    obtain ⟨rfl, _, rfl⟩ := ended
    exact halt _ _ (.refused .appendNote) (.refl _ _)

theorem through_passed {desk : Desk} {loan : LoanId} {record : Loan} {entry : JournalEntry} {target : LoanStatus}
    (found : desk.ledger.loans.get? loan = some record) (passage : Passage loan record.status entry target) :
    Through (Path loan) desk { desk with ledger := desk.ledger.passed loan record target entry } :=
  .intro (.single (.pass found passage))

/-! Approving. -/

/-- The first approval submits a loan that the ledger has neither approved nor disbursed. -/
def NeedsSubmission (step : Step) (loan : Loan) : Prop :=
  step.rank = 0 ∧ loan.status ≠ .approved ∧ loan.status ≠ .active

theorem submitFirst_ends {loan : Loan} {desk : Desk} (step : Step) (date : ValueDate) (note : String)
    (found : desk.ledger.loans.get? loan.id = some loan) :
    Ends ((Desk.engine settings now).submitFirst step loan date note) desk
      (fun _ after => ¬NeedsSubmission step loan ∧ after = desk ∨
        NeedsSubmission step loan ∧ loan.status = .submittedAndPendingApproval ∧
          after = { desk with
            ledger := desk.ledger.passed loan.id loan .approved
              (.submitForApproval loan.id loan.principal date) })
      fun stop after => stop = .failed (.ledgerFailed .submitLoan) ∧ NeedsSubmission step loan ∧
        (.submitForApproval ∈ desk.ledger.failing ∨ loan.status ≠ .submittedAndPendingApproval) ∧ after = desk := by
  unfold submitFirst
  split
  next needed =>
    apply (demand_ends _ (Ledger.pass_ends .submitForApproval loan.id [.submittedAndPendingApproval] .approved
      (.submitForApproval loan.id loan.principal date) desk.ledger)).andThen
    · intro _ _ ended
      obtain ⟨_, rfl, _, record, same, pending, rfl⟩ := ended
      cases found.symm.trans same
      exact Or.inr ⟨needed, List.mem_singleton.mp pending, rfl⟩
    · intro _ _ ended
      rcases ended with ⟨_, rfl, ⟨_, rfl, refused, _, rfl⟩ | ⟨_, rfl, _, ⟨_, isRefusal⟩, _⟩⟩
      · refine ⟨rfl, needed, refused.imp id fun wrong => ?_, rfl⟩
        exact fun pending => wrong loan found (List.mem_singleton.mpr pending)
      · cases isRefusal
  next unneeded => exact Or.inl ⟨unneeded, rfl⟩

def approval (next : Option Step) (step : Step) (now : Timestamp) : Batch :=
  let opened := match next with
    | some next => Batch.empty.transition next .pending now
    | none => .empty
  opened.transition step .approved now

inductive Submits (step : Step) (loan : Loan) : LoanStatus → Prop where
  | first (needed : NeedsSubmission step loan) (pending : loan.status = .submittedAndPendingApproval) :
      Submits step loan .approved
  | later (unneeded : ¬NeedsSubmission step loan) : Submits step loan loan.status

theorem approvePart_ends {loan : Loan} {desk : Desk} (step : Step) (steps : List Step) (note : String)
    (date : ValueDate) (payment : Option PaymentTypeId) (found : desk.ledger.loans.get? loan.id = some loan) :
    Ends ((Desk.engine settings now).approvePart step loan steps note date payment) desk
      (fun answer after => answer.1 = approval (queuedAbove steps step.rank) step now ∧
        ((∃ next, queuedAbove steps step.rank = some next) ∧ Through (Path loan.id) desk after ∧
            (∃ status, Submits step loan status ∧ after.ledger.statusOf loan.id = some status) ∨
          queuedAbove steps step.rank = none ∧
            (loan.status = .active ∧ Through (QuietPath loan.id) desk after ∨
              loan.status ≠ .active ∧ Through (Ledger.Payout loan.id) desk after)))
      (Halted loan.id desk) := by
  unfold approvePart
  refine leaveNote_andThen settings now ?_ fun _ _ ofLedger quiet => .of_path ofLedger quiet.path
  intro noted first sameLoans
  rw [← sameLoans] at found
  apply (submitFirst_ends settings now step date note found).andThen
  · intro submitted ready outcome
    have toReady : Through (Path loan.id) desk ready ∧
        (loan.status = .active → Through (QuietPath loan.id) desk ready) := by
      rcases outcome with ⟨_, rfl⟩ | ⟨needed, pending, rfl⟩
      · exact ⟨first.path, fun _ => first⟩
      · refine ⟨first.path.trans (through_passed found ?_), fun active => absurd active needed.2.2⟩
        rw [pending]
        exact .submitted _ _
    have submits : ∃ status, Submits step loan status ∧ ready.ledger.statusOf loan.id = some status := by
      rcases outcome with ⟨unneeded, rfl⟩ | ⟨needed, pending, rfl⟩
      · exact ⟨_, .later unneeded, Ledger.statusOf_found found⟩
      · exact ⟨_, .first needed pending, Ledger.statusOf_insert ..⟩
    unfold advance
    cases queuedAbove steps step.rank with
    | some next => exact ⟨rfl, Or.inl ⟨⟨next, rfl⟩, toReady.1, submits⟩⟩
    | none =>
      by_cases active : loan.status = .active
      · dsimp only
        rw [if_pos active]
        exact ⟨rfl, Or.inr ⟨rfl, Or.inl ⟨active, toReady.2 active⟩⟩⟩
      · dsimp only
        rw [if_neg active, bind_assoc]
        apply (disburse_ends settings now loan date payment note ready).andThen
        · intro disbursed after payout
          exact ⟨rfl, Or.inr ⟨rfl, Or.inr ⟨active, payout.ledger.after_path toReady.1.ledger,
            payout.chains.trans toReady.1.chains, payout.directory.trans toReady.1.directory⟩⟩⟩
        · exact fun stop after halted => halted.after_path toReady.1
  · intro _ _ ended
    obtain ⟨rfl, _, _, rfl⟩ := ended
    exact .of_path (.refused .submitLoan) first.path

/-! Rejecting. -/

theorem repairStatus_ends {loan : Loan} {desk : Desk} (found : desk.ledger.loans.get? loan.id = some loan) :
    Ends ((Desk.engine settings now).repairStatus loan) desk
      (fun _ after => loan.status = .submittedAndPendingApproval ∧ after = desk ∨
        loan.status ≠ .submittedAndPendingApproval ∧
          after = { desk with
            ledger := desk.ledger.passed loan.id loan .submittedAndPendingApproval
              (.forceStatus loan.id .submittedAndPendingApproval) })
      fun stop after => stop = .failed (.ledgerFailed .repairStatus) ∧ .forceStatus ∈ desk.ledger.failing ∧
        after = desk := by
  unfold repairStatus
  split
  next pending => exact Or.inl ⟨pending, rfl⟩
  next elsewhere =>
    apply (demand_ends _ (Ledger.forceStatus_ends loan.id .submittedAndPendingApproval desk.ledger)).andThen
    · intro _ _ ended
      obtain ⟨_, rfl, _, record, same, rfl⟩ := ended
      cases found.symm.trans same
      exact Or.inr ⟨elsewhere, rfl⟩
    · intro _ _ ended
      rcases ended with ⟨_, rfl, ⟨_, rfl, failing | missing, _, rfl⟩ | ⟨_, rfl, _, ⟨_, isRefusal⟩, _⟩⟩
      · exact ⟨rfl, failing, rfl⟩
      · cases found.symm.trans missing
      · cases isRefusal

theorem rejectLoan_ends {id : LoanId} {record : Loan} {desk : Desk}
    (found : desk.ledger.loans.get? id = some record) (pending : record.status = .submittedAndPendingApproval)
    (note : String) :
    Ends (Work.demand .rejectLoan ((Desk.engine settings now).services.reject id .today note)) desk
      (fun _ after => after = { desk with ledger := desk.ledger.passed id record .rejected (.reject id) })
      fun stop after => stop = .failed (.ledgerFailed .rejectLoan) ∧ .reject ∈ desk.ledger.failing ∧ after = desk := by
  apply (demand_ends _ (Ledger.pass_ends .reject id [.submittedAndPendingApproval] .rejected (.reject id)
    desk.ledger)).imp
  · intro _ _ ended
    obtain ⟨_, rfl, _, _, same, _, rfl⟩ := ended
    cases found.symm.trans same
    rfl
  · intro _ _ ended
    rcases ended with ⟨_, rfl, ⟨_, rfl, failing | wrong, _, rfl⟩ | ⟨_, rfl, _, ⟨_, isRefusal⟩, _⟩⟩
    · exact ⟨rfl, failing, rfl⟩
    · exact absurd (List.mem_singleton.mpr pending) (wrong record found)
    · cases isRefusal

theorem refuseLoan_ends {loan : Loan} {desk : Desk} (note : String)
    (found : desk.ledger.loans.get? loan.id = some loan) :
    Ends ((Desk.engine settings now).refuseLoan loan note) desk
      (fun _ after => after.ledger.loans.get? loan.id = some { loan with status := .rejected } ∧
        Through (Path loan.id) desk after)
      fun stop after => stop.OfLedger ∧ Through (Path loan.id) desk after := by
  unfold refuseLoan
  split
  next rejected =>
    refine ⟨found.trans ?_, .refl _ _⟩
    rw [← rejected]
  next open_ =>
    have toRejected {desk : Desk} {record : Loan} (found : desk.ledger.loans.get? loan.id = some record)
        (pending : record.status = .submittedAndPendingApproval) : Through (Path loan.id) desk
          { desk with ledger := desk.ledger.passed loan.id record .rejected (.reject loan.id) } := by
      apply through_passed found
      rw [pending]
      exact .rejected
    apply (repairStatus_ends settings now found).andThen
    · intro _ _ ended
      rcases ended with ⟨pending, rfl⟩ | ⟨_, rfl⟩
      · apply (rejectLoan_ends settings now found pending note).andThen
        · intro _ _ same
          obtain rfl := same
          exact ⟨Table.get?_insert_self .., toRejected found pending⟩
        · intro _ _ ended
          obtain ⟨rfl, _, rfl⟩ := ended
          exact ⟨.refused .rejectLoan, .refl _ _⟩
      · have repaired := through_passed found (.forced loan.status)
        have found' := Table.get?_insert_self desk.ledger.loans loan.id
          { loan with status := .submittedAndPendingApproval }
        apply (rejectLoan_ends settings now found' rfl note).andThen
        · intro _ _ same
          obtain rfl := same
          exact ⟨Table.get?_insert_self .., repaired.trans (toRejected found' rfl)⟩
        · intro _ _ ended
          obtain ⟨rfl, _, rfl⟩ := ended
          exact ⟨.refused .rejectLoan, repaired⟩
    · intro _ _ ended
      obtain ⟨rfl, _, rfl⟩ := ended
      exact ⟨.refused .repairStatus, .refl _ _⟩

theorem releaseLien_ends {loan record : Loan} {desk : Desk} (found : desk.ledger.loans.get? loan.id = some record)
    (sameLien : record.lien = loan.lien) :
    Ends ((Desk.engine settings now).releaseLien loan) desk
      (fun _ after => after.ledger.loans.get? loan.id = some { record with lien := none } ∧
        Through (Path loan.id) desk after)
      fun stop after => stop.OfLedger ∧ Through (Path loan.id) desk after := by
  unfold releaseLien
  cases pledge : loan.lien with
  | none =>
    refine ⟨found.trans ?_, .refl _ _⟩
    rw [← pledge, ← sameLien]
  | some lien =>
    have unpledged (desk : Desk) (found : desk.ledger.loans.get? loan.id = some record) :
        Ends (do
          Work.demand .recordLien ((Desk.engine settings now).services.setLien loan.id none)
          pure [Change.released lien]) desk
        (fun _ after => after.ledger.loans.get? loan.id = some { record with lien := none } ∧
          Through (Path loan.id) desk after)
        fun stop after => stop.OfLedger ∧ Through (Path loan.id) desk after := by
      apply (demand_ends _ (Ledger.setLien_ends loan.id none desk.ledger)).andThen
      · intro _ _ ended
        obtain ⟨_, rfl, _, same, rfl⟩ := ended
        cases found.symm.trans same
        exact ⟨Table.get?_insert_self .., .intro (.single (.lien found none))⟩
      · intro _ _ ended
        rcases ended with ⟨_, rfl, ⟨_, rfl, _, _, rfl⟩ | ⟨what, rfl, _, _, rfl⟩⟩
        · exact ⟨.refused .recordLien, .refl _ _⟩
        · exact ⟨.overflow what, .refl _ _⟩
    apply (demand_ends _ (Ledger.findAccount_ends loan.id desk.ledger)).andThen
    · intro account _ ended
      obtain ⟨_, rfl, _, linked, rfl⟩ := ended
      apply (onLedger_ends (Ledger.release_ends account lien _)).andThen
      · intro _ _ ended
        rcases ended with ⟨_, rfl, ⟨_, rfl, _, _, changed, stands, gone, rfl⟩ | ⟨error, rfl, _, rfl⟩⟩
        · let released := { desk with ledger := desk.ledger.moved account changed (.release account lien) }
          have freed : Through (Path loan.id) desk released := .intro (.single (.release linked stands gone))
          apply (unpledged released found).imp
          · exact fun _ _ ⟨record, later⟩ => ⟨record, freed.trans later⟩
          · exact fun _ _ ⟨halt, later⟩ => ⟨halt, freed.trans later⟩
        · cases error with
          | notFound what => exact unpledged _ found
          | rejected why => exact ⟨.refused .releaseLien, .refl _ _⟩
          | unavailable outage => exact ⟨.refused .releaseLien, .refl _ _⟩
      · intro _ _ ended
        obtain ⟨_, rfl, what, rfl, _, rfl⟩ := ended
        exact ⟨.overflow what, .refl _ _⟩
    · intro _ _ ended
      rcases ended with ⟨_, rfl, ⟨_, rfl, _, rfl⟩ | ⟨what, rfl, _, rfl⟩⟩
      · exact ⟨.refused .findAccount, .refl _ _⟩
      · exact ⟨.overflow what, .refl _ _⟩

theorem rejectPart_ends {loan : Loan} {desk : Desk} (step : Step) (note : String)
    (found : desk.ledger.loans.get? loan.id = some loan) :
    Ends ((Desk.engine settings now).rejectPart step loan note) desk
      (fun answer after => answer.1 = Batch.empty.transition step .rejected now ∧
        after.ledger.loans.get? loan.id = some { loan with status := .rejected, lien := none } ∧
        Through (Path loan.id) desk after)
      fun stop after => stop.OfLedger ∧ Through (Path loan.id) desk after := by
  unfold rejectPart
  refine leaveNote_andThen settings now ?_ fun _ _ ofLedger quiet => ⟨ofLedger, quiet.path⟩
  intro noted first sameLoans
  rw [← sameLoans] at found
  apply (refuseLoan_ends settings now note found).andThen
  · intro _ _ ended
    obtain ⟨refused, second⟩ := ended
    apply (releaseLien_ends settings now refused rfl).andThen
    · intro _ _ ended
      obtain ⟨freed, third⟩ := ended
      exact ⟨rfl, freed, first.path.trans (second.trans third)⟩
    · intro _ _ ended
      obtain ⟨halt, third⟩ := ended
      exact ⟨halt, first.path.trans (second.trans third)⟩
  · intro _ _ ended
    obtain ⟨halt, second⟩ := ended
    exact ⟨halt, first.path.trans second⟩

/-! Undoing and handing over. -/

theorem undoSubmission_ends {loan : Loan} {desk : Desk} (note : String)
    (found : desk.ledger.loans.get? loan.id = some loan) :
    Ends ((Desk.engine settings now).undoSubmission loan note) desk
      (fun _ after => loan.status ≠ .approved ∧ after = desk ∨
        loan.status = .approved ∧ after = { desk with
          ledger := desk.ledger.passed loan.id loan .submittedAndPendingApproval (.undoApproval loan.id) })
      fun stop after => stop = .failed (.ledgerFailed .undoApproval) ∧ .undoApproval ∈ desk.ledger.failing ∧
        after = desk := by
  unfold undoSubmission
  split
  next approved =>
    apply (demand_ends _ (Ledger.pass_ends .undoApproval loan.id [.approved] .submittedAndPendingApproval
      (.undoApproval loan.id) desk.ledger)).andThen
    · intro _ _ ended
      obtain ⟨_, rfl, _, record, same, _, rfl⟩ := ended
      cases found.symm.trans same
      exact Or.inr ⟨approved, rfl⟩
    · intro _ _ ended
      rcases ended with ⟨_, rfl, ⟨_, rfl, failing | wrong, _, rfl⟩ | ⟨_, rfl, _, ⟨_, isRefusal⟩, _⟩⟩
      · exact ⟨rfl, failing, rfl⟩
      · exact absurd (List.mem_singleton.mpr approved) (wrong loan found)
      · cases isRefusal
  next unapproved => exact Or.inl ⟨unapproved, rfl⟩

def reopening (target step : Step) (now : Timestamp) : Batch :=
  (Batch.empty.transition target .pending now).transition step .queue now

theorem undoPart_ends {loan : Loan} {desk : Desk} (step target : Step) (note : String)
    (found : desk.ledger.loans.get? loan.id = some loan) :
    Ends ((Desk.engine settings now).undoPart step target loan note) desk
      (fun answer after => answer.1 = reopening target step now ∧ Through (Path loan.id) desk after ∧
        ∃ status, (status = loan.status ∨ status = .submittedAndPendingApproval) ∧
          after.ledger.statusOf loan.id = some status)
      fun stop after => stop.OfLedger ∧ Through (Path loan.id) desk after := by
  unfold undoPart
  refine leaveNote_andThen settings now ?_ fun _ _ ofLedger quiet => ⟨ofLedger, quiet.path⟩
  intro noted first sameLoans
  rw [← sameLoans] at found
  apply (undoSubmission_ends settings now note found).andThen
  · intro _ _ ended
    rcases ended with ⟨_, rfl⟩ | ⟨approved, rfl⟩
    · exact ⟨rfl, first.path, _, Or.inl rfl, Ledger.statusOf_found found⟩
    · refine ⟨rfl, first.path.trans (through_passed found ?_), _, Or.inr rfl, Ledger.statusOf_insert ..⟩
      rw [approved]
      exact .undone
  · intro _ _ ended
    obtain ⟨rfl, _, rfl⟩ := ended
    exact ⟨.refused .undoApproval, first.path⟩

def handover (step : Step) (approver : ApproverId) (now : Timestamp) : Batch :=
  (Batch.empty.stage { step with approver := some approver, modified := now }).record step.id .reassigned now

theorem reassignPart_ends (step : Step) (loan : LoanId) (note : String) (approver : ApproverId) (desk : Desk) :
    Ends ((Desk.engine settings now).reassignPart step loan note approver) desk
      (fun answer after => answer.1 = handover step approver now ∧ Through (QuietPath loan) desk after)
      fun stop after => stop.OfLedger ∧ Through (Path loan) desk after := by
  unfold reassignPart
  refine leaveNote_andThen settings now ?_ fun _ _ ofLedger quiet => ⟨ofLedger, quiet.path⟩
  exact fun noted first _ => ⟨rfl, first⟩

end Countersign.Engine
