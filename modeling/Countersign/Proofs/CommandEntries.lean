import Countersign.Proofs.LienKeeping
import Countersign.Proofs.SettlementEntries

/-!
The entries of a command. Each decision files its part first, a note before anything else, and
then settles what follows from it. So what a command adds to the journal is in the order of
its turns whichever way it ends, on a sum that does not fit as well; and a command that
decides nothing adds nothing.
-/

namespace Countersign

open Ledger (Writes Dealing Relieves)

namespace Ledger

/-- The operations of a command in the order in which they have their turn. No command has all of
them. -/
def commandTurns : List LedgerOp :=
  [.appendNote, .submitForApproval, .forceStatus, .reject, .undoApproval, .withdraw, .hold, .disburse, .release]

def Files (loan : LoanId) (turns : List LedgerOp) (before after : Ledger) : Prop :=
  ∃ entries, Writes loan turns entries [] before after

theorem Files.nothing (loan : LoanId) (turns : List LedgerOp) (ledger : Ledger) : Files loan turns ledger ledger :=
  ⟨[], .nothing _ _⟩

end Ledger

abbrev Work.Files {α : Type} (loan : LoanId) (turns : List LedgerOp) (work : Work Desk α) (desk : Desk) : Prop :=
  Leaves (Ledger.Files loan turns) work desk

namespace Work.Deals

variable {α β : Type} {scale : Nat} {loan : LoanId} {lien : Option TransactionId} {turns : List LedgerOp}
  {work : Work Desk α} {desk : Desk}

theorem filed {next : α → Work Desk β} (later : List LedgerOp) (early : .release ∉ turns ∧ .disburse ∉ turns)
    (files : Files loan turns work desk) (rest : ∀ answer after, Deals scale loan lien later (next answer) after) :
    Deals scale loan lien (turns ++ later) (work >>= next) desk := by
  apply Ends.andThen files
  · intro answer middle ended
    obtain ⟨entries, writes⟩ := ended
    have joined {after : Desk} (deals : Ledger.Deals scale loan lien later middle.ledger after.ledger) :
        Ledger.Deals scale loan lien (turns ++ later) desk.ledger after.ledger := by
      obtain ⟨_, _, dealing⟩ := deals
      exact ⟨_, _, Dealing.after_writes writes early dealing⟩
    exact (rest answer middle).imp (fun _ _ => joined) fun _ _ => joined
  · intro _ _ ended
    obtain ⟨entries, writes⟩ := ended
    exact ⟨_, _, (writes.dealing early.1).widen (List.sublist_append_left _ _)⟩

theorem widen {later : List LedgerOp} (deals : Deals scale loan lien turns work desk) (among : turns.Sublist later) :
    Deals scale loan lien later work desk :=
  deals.imp (fun _ _ left => left.widen among) fun _ _ left => left.widen among

end Work.Deals

namespace Engine

variable (settings : Settings) (now : Timestamp) {loan : Loan} {desk : Desk}

/-! What the decisions file. -/

theorem pass_files (task : LedgerTask) (op : LedgerOp) (id : LoanId) (sources : List LoanStatus) (target : LoanStatus)
    (entry : JournalEntry) (turn : entry.op = op) (own : entry.Concerns desk.ledger.links id) :
    Work.Files id [op] (Work.demand task (Desk.onLedger (do
      Ledger.check op
      Ledger.transition id sources target
      Ledger.enter entry))) desk := by
  apply (demand_ends task (Ledger.pass_ends op id sources target entry desk.ledger)).imp
  · intro _ _ ended
    obtain ⟨_, rfl, _, record, _, _, rfl⟩ := ended
    exact ⟨_, .entry turn rfl rfl rfl own⟩
  · intro _ _ ended
    rcases ended with ⟨_, rfl, ⟨_, _, _, _, rfl⟩ | ⟨_, _, _, _, rfl⟩⟩ <;> exact .nothing _ _ _

theorem leaveNote_writes (loan : LoanId) (note : String) (desk : Desk) :
    Work.Files loan [.appendNote] ((Desk.engine settings now).leaveNote loan note) desk := by
  apply (leaveNote_ends settings now loan note desk).imp
  · intro _ _ ended
    rcases ended with rfl | ⟨text, rfl⟩
    · exact .nothing _ _ _
    · exact ⟨[.appendNote loan text], .entry rfl rfl rfl rfl rfl⟩
  · intro _ _ ended
    obtain ⟨_, _, rfl⟩ := ended
    exact .nothing _ _ _

theorem submitFirst_writes (step : Step) (date : ValueDate) (note : String) :
    Work.Files loan.id [.submitForApproval] ((Desk.engine settings now).submitFirst step loan date note) desk := by
  unfold submitFirst
  split
  · exact (pass_files .submitLoan .submitForApproval loan.id _ _ (.submitForApproval loan.id _ date) rfl rfl).map _
  · exact .nothing _ _ _

theorem repairStatus_writes :
    Work.Files loan.id [.forceStatus] ((Desk.engine settings now).repairStatus loan) desk := by
  unfold repairStatus
  split
  · exact .nothing _ _ _
  · apply (demand_ends _ (Ledger.forceStatus_ends loan.id .submittedAndPendingApproval desk.ledger)).andThen
    · intro _ _ ended
      obtain ⟨_, rfl, _, record, _, rfl⟩ := ended
      exact ⟨[.forceStatus loan.id .submittedAndPendingApproval], .entry rfl rfl rfl rfl rfl⟩
    · intro _ _ ended
      rcases ended with ⟨_, rfl, ⟨_, _, _, _, rfl⟩ | ⟨_, _, _, _, rfl⟩⟩ <;> exact .nothing _ _ _

theorem undoSubmission_writes (note : String) :
    Work.Files loan.id [.undoApproval] ((Desk.engine settings now).undoSubmission loan note) desk := by
  unfold undoSubmission
  split
  · exact (pass_files .undoApproval .undoApproval loan.id _ _ (.undoApproval loan.id) rfl rfl).map _
  · exact .nothing _ _ _

/-! The decisions. -/

variable {lien : Option TransactionId}

theorem pure_deals {α : Type} {loan : LoanId} (scale : Nat) (turns : List LedgerOp) (answer : α) :
    Work.Deals scale loan lien turns (pure answer) desk :=
  .unchanged rfl

theorem advance_deals (step : Step) (steps : List Step) (date : ValueDate) (payment : Option PaymentTypeId)
    (note : String) (desk : Desk) :
    Work.Deals settings.moneyScale loan.id loan.lien Ledger.disbursalTurns
      ((Desk.engine settings now).advance step loan steps date payment note) desk := by
  unfold advance
  cases queuedAbove steps step.rank with
  | some next => exact pure_deals _ _ _
  | none =>
    dsimp only
    split
    · exact pure_deals _ _ _
    · exact (disburse_deals settings now loan date payment note desk).map _

theorem approvePart_deals (step : Step) (steps : List Step) (note : String) (date : ValueDate)
    (payment : Option PaymentTypeId) :
    Work.Deals settings.moneyScale loan.id loan.lien Ledger.commandTurns
      ((Desk.engine settings now).approvePart step loan steps note date payment) desk := by
  refine (Work.Deals.filed ([.submitForApproval] ++ Ledger.disbursalTurns) (by decide)
    (leaveNote_writes settings now loan.id note desk) fun _ noted => ?_).widen (by decide)
  refine .filed Ledger.disbursalTurns (by decide) (submitFirst_writes settings now step date note) fun _ ready => ?_
  exact (advance_deals settings now step steps date payment note ready).map _

theorem refuseLoan_writes (note : String) :
    Work.Files loan.id [.forceStatus, .reject] ((Desk.engine settings now).refuseLoan loan note) desk := by
  unfold refuseLoan
  split
  · exact .nothing _ _ _
  · apply (repairStatus_writes settings now).andThen
    · intro _ repaired ended
      obtain ⟨entries, forced⟩ := ended
      have joined {after : Desk} (files : Ledger.Files loan.id [.reject] repaired.ledger after.ledger) :
          Ledger.Files loan.id [.forceStatus, .reject] desk.ledger after.ledger := by
        obtain ⟨_, rejected⟩ := files
        exact ⟨_, forced.trans rejected⟩
      exact (pass_files .rejectLoan .reject loan.id _ _ (.reject loan.id) rfl rfl).andThen (fun _ _ => joined)
        fun _ _ => joined
    · exact fun _ _ ⟨_, forced⟩ => ⟨_, forced.widen (by decide)⟩

theorem releaseLien_relieves : Work.Leaves (Relieves loan) ((Desk.engine settings now).releaseLien loan) desk := by
  unfold releaseLien
  cases pledge : loan.lien with
  | none => exact .nothing loan _
  | some lien =>
    apply (demand_ends _ (Ledger.findAccount_ends loan.id desk.ledger)).andThen
    · intro account _ ended
      obtain ⟨_, rfl, _, linked, rfl⟩ := ended
      have unpledges {freed : Desk} (relieves : Relieves loan desk.ledger freed.ledger) :
          Ends (do
            Work.demand .recordLien ((Desk.engine settings now).services.setLien loan.id none)
            pure [Change.released lien]) freed
            (fun _ after => Relieves loan desk.ledger after.ledger)
            fun _ after => Relieves loan desk.ledger after.ledger := by
        apply (demand_ends _ (Ledger.setLien_ends loan.id none freed.ledger)).andThen
        · intro _ _ ended
          obtain ⟨_, rfl, record, _, rfl⟩ := ended
          exact relieves.silently (.silent _ rfl rfl rfl)
        · intro _ _ ended
          rcases ended with ⟨_, rfl, ⟨_, _, _, _, rfl⟩ | ⟨_, _, _, _, rfl⟩⟩ <;> exact relieves
      refine (release_gives_back linked lien).andThen ?_ fun _ _ gives => gives.relieves pledge
      intro reply _ gives
      have relieves := gives.relieves pledge
      rcases reply with error | _
      · cases error with
        | notFound what => exact unpledges relieves
        | rejected why => exact relieves
        | unavailable outage => exact relieves
      · exact unpledges relieves
    · intro _ _ ended
      rcases ended with ⟨_, rfl, ⟨_, _, _, rfl⟩ | ⟨_, _, _, rfl⟩⟩ <;> exact .nothing loan _

theorem rejectPart_deals (step : Step) (note : String) :
    Work.Deals settings.moneyScale loan.id loan.lien Ledger.commandTurns
      ((Desk.engine settings now).rejectPart step loan note) desk := by
  refine (Work.Deals.filed ([.forceStatus, .reject] ++ [.release]) (by decide)
    (leaveNote_writes settings now loan.id note desk) fun _ noted => ?_).widen (by decide)
  refine .filed [.release] (by decide) (refuseLoan_writes settings now note) fun _ refused => ?_
  have deals : Work.Deals settings.moneyScale loan.id loan.lien [.release]
      ((Desk.engine settings now).releaseLien loan) refused :=
    (releaseLien_relieves settings now).imp (fun _ _ relieves => relieves.deals _) fun _ _ relieves => relieves.deals _
  exact deals.map _

theorem undoPart_deals (step target : Step) (note : String) :
    Work.Deals settings.moneyScale loan.id loan.lien Ledger.commandTurns
      ((Desk.engine settings now).undoPart step target loan note) desk := by
  refine (Work.Deals.filed ([.undoApproval] ++ []) (by decide)
    (leaveNote_writes settings now loan.id note desk) fun _ noted => ?_).widen (by decide)
  refine .filed [] (by decide) (undoSubmission_writes settings now note) fun _ undone => ?_
  exact pure_deals _ _ _

theorem reassignPart_deals (step : Step) (loan : LoanId) (note : String) (approver : ApproverId) :
    Work.Deals settings.moneyScale loan lien Ledger.commandTurns
      ((Desk.engine settings now).reassignPart step loan note approver) desk := by
  refine (Work.Deals.filed [] (by decide) (leaveNote_writes settings now loan _ desk) fun _ noted => ?_).widen
    (by decide)
  exact pure_deals _ _ _

/-! The commands. -/

theorem carryOut_leaves {change : Ledger → Ledger → Prop} {loan : LoanId} {step : StepId}
    {part : Work Desk (Batch × List Change)} (leaves : part.Leaves change desk) :
    Work.Leaves change ((Desk.engine settings now).carryOut loan step part) desk := by
  refine Ends.andThen leaves ?_ fun _ _ changed => changed
  intro answered after changed
  obtain ⟨batch, changes⟩ := answered
  apply (ends_bind _ _ _ _ _).mpr
  change Ends (Desk.commit batch) after _ _
  unfold Ends Desk.commit
  cases after.chains.commit batch <;> exact changed

section

variable {id : LoanId} (orderly : desk.Orderly)
include orderly

theorem build_idles (id : LoanId) :
    Work.Leaves (fun before after => after = before) ((Desk.engine settings now).build id) desk := by
  apply (build_ends settings now orderly.chains id).imp
  · intro _ _ ended
    rcases ended with same | built
    · exact congrArg _ same
    · exact built.ledger
  · exact fun _ _ declined => congrArg _ declined.same

theorem openStep_deals {α : Type} {next : Step → Work Desk α} (step : StepId)
    (rest : ∀ step, Work.Deals settings.moneyScale id lien Ledger.commandTurns (next step) desk) :
    Work.Deals settings.moneyScale id lien Ledger.commandTurns
      ((Desk.engine settings now).openStep id step >>= next) desk := by
  refine openStep_andThen settings now orderly ?_ fun step _ _ => rest step
  exact fun _ _ declined => .unchanged (congrArg _ declined.same)

theorem requireLoan_deals {α : Type} {next : Loan → Work Desk α}
    (rest : ∀ loan, loan.id = id →
      Work.Deals settings.moneyScale loan.id loan.lien Ledger.commandTurns (next loan) desk) :
    Work.Deals settings.moneyScale id (desk.ledger.lienOf id) Ledger.commandTurns
      ((Desk.engine settings now).requireLoan id >>= next) desk := by
  refine requireLoan_andThen settings now orderly ?_ ?_
  · exact fun _ _ declined => .unchanged (congrArg _ declined.same)
  · intro loan same found
    have deals := rest loan same
    rw [← Ledger.lienOf_of_get? found, same] at deals
    exact deals

theorem approve_deals (step : StepId) (note : String) (date : Option Date) (payment : Option PaymentTypeId) :
    Work.Deals settings.moneyScale id (desk.ledger.lienOf id) Ledger.commandTurns
      ((Desk.engine settings now).approve id step note date payment) desk := by
  refine openStep_deals settings now orderly step fun step => ?_
  refine requireLoan_deals settings now orderly fun loan _ => ?_
  exact carryOut_leaves settings now (approvePart_deals settings now step _ note _ payment)

theorem reject_deals (step : StepId) (note : String) :
    Work.Deals settings.moneyScale id (desk.ledger.lienOf id) Ledger.commandTurns
      ((Desk.engine settings now).reject id step note) desk := by
  refine openStep_deals settings now orderly step fun step => ?_
  refine requireLoan_deals settings now orderly fun loan _ => ?_
  exact carryOut_leaves settings now (rejectPart_deals settings now step note)

theorem undo_deals (step : StepId) (note : String) (target : Option StepId) :
    Work.Deals settings.moneyScale id (desk.ledger.lienOf id) Ledger.commandTurns
      ((Desk.engine settings now).undo id step note target) desk := by
  refine openStep_deals settings now orderly step fun step => ?_
  split
  · exact .unchanged rfl
  · refine (undoTarget_ends settings now id step target desk).andThen ?_ ?_
    · intro found desk ended
      obtain ⟨rfl, _⟩ := ended
      refine requireLoan_deals settings now orderly fun loan _ => ?_
      exact carryOut_leaves settings now (undoPart_deals settings now step found note)
    · exact fun _ _ declined => .unchanged (congrArg _ declined.same)

theorem reassign_deals (step : StepId) (note : String) (approver : ApproverId) :
    Work.Deals settings.moneyScale id lien Ledger.commandTurns
      ((Desk.engine settings now).reassign id step note approver) desk := by
  refine openStep_deals settings now orderly step fun step => ?_
  split
  · exact .unchanged rfl
  · apply read_andThen
    split
    · exact .unchanged rfl
    · exact carryOut_leaves settings now (reassignPart_deals settings now step id note approver)

end

end Engine

namespace Desk

variable {settings : Settings} {desk : Desk}

theorem left_of_leaves {change : Ledger → Ledger → Prop} {work : Work Desk Answer}
    (leaves : work.Leaves change desk) : change desk.ledger (left (work desk)).ledger := by
  unfold Work.Leaves Ends at leaves
  unfold left
  cases ran : work desk with
  | ok answer after => simpa only [ran] using leaves
  | error stop after => simpa only [ran] using leaves

variable (settings)

theorem idles_in_ledger (orderly : desk.Orderly) (now : Timestamp) {command : Command}
    (builds : command = .scan ∨ ∃ loan, command = .build loan) :
    (desk.after settings (.command now command)).ledger = desk.ledger := by
  rcases builds with rfl | ⟨loan, rfl⟩
  · exact scan_ledger settings now orderly rfl
  · exact left_of_leaves ((Engine.build_idles settings now orderly loan).map _)

/-- Whichever way a command on a loan ends, it has put this down for the loan. -/
theorem after_dealing (orderly : desk.Orderly) (now : Timestamp) {command : Command} {loan : LoanId}
    (about : command.loan? = some loan) :
    Ledger.Deals settings.moneyScale loan (desk.ledger.lienOf loan) Ledger.commandTurns desk.ledger
      (desk.after settings (.command now command)).ledger := by
  have deals : Work.Deals settings.moneyScale loan (desk.ledger.lienOf loan) Ledger.commandTurns
      ((Desk.engine settings now).perform command) desk := by
    cases command with
    | scan => cases about
    | build target =>
      exact (Engine.build_idles settings now orderly target).andThen (fun _ _ same => .unchanged same)
        fun _ _ same => .unchanged same
    | approve target step note date payment =>
      cases about
      exact (Engine.approve_deals settings now orderly step note date payment).map _
    | reject target step note =>
      cases about
      exact (Engine.reject_deals settings now orderly step note).map _
    | undo target step note back =>
      cases about
      exact (Engine.undo_deals settings now orderly step note back).map _
    | reassign target step note approver =>
      cases about
      exact (Engine.reassign_deals settings now orderly step note approver).map _
  exact left_of_leaves deals

end Desk

end Countersign
