import Countersign.Proofs.BuildEffect
import Countersign.Proofs.LedgerOrder

/-!
What a command comes to as a whole. When it is done, the chain of its loan has turned and
the books of the loan took a matching course; when it is stopped, it was declined before it
did anything, or halted in the ledger with all chains as they were.
-/

namespace Countersign

open Chain (Ongoing Rejected Finished)
open ChainStore (Turned)
open Ledger (Path QuietPath Payout)

/-- The books as they are between commands. -/
structure Desk.Orderly (desk : Desk) : Prop where
  chains : desk.chains.Regular
  ledger : desk.ledger.InOrder

/-- The chain of the loan has a step that waits for a decision. -/
def Desk.Waiting (desk : Desk) (loan : LoanId) : Prop := ∃ step ∈ desk.chains.chainOf loan, step.status = .pending

/-- A decision that was carried out: how the chain turned, and what the ledger did. -/
structure Desk.Decided (loan : LoanId) (form : List Step → Prop) (change : Ledger → Ledger → Prop)
    (before after : Desk) : Prop where
  waiting : before.Waiting loan
  turned : Turned loan form before.chains after.chains
  ledger : change before.ledger after.ledger
  directory : after.directory = before.directory

/-- When a chain goes on, its loan is not closed off by that; where it is closed off already, the
chain does not leave its first step. -/
structure Desk.Heeds (loan : LoanId) (before after : Desk) : Prop where
  closedOff : after.ledger.ClosedOff loan → before.ledger.ClosedOff loan
  first : before.ledger.ClosedOff loan → Chain.Front .pending 0 (before.chains.chainOf loan) →
    Chain.Front .pending 0 (after.chains.chainOf loan)

theorem Desk.Heeds.of_later {loan : LoanId} {before after : Desk} {step : Step}
    (mem : step ∈ before.chains.chainOf loan) (pending : step.status = .pending)
    (closedOff : after.ledger.ClosedOff loan → before.ledger.ClosedOff loan)
    (later : before.ledger.ClosedOff loan → step.rank ≠ 0) : Heeds loan before after where
  closedOff := closedOff
  first closed front := absurd ((front.here step mem).mp pending) (later closed)

/-- What a command on a loan that is done has done. -/
inductive Desk.Effect (loan : LoanId) (before after : Desk) : Prop where
  | idle (same : after = before)
  | built (built : Built loan before after)
  | moved (decided : Decided loan Ongoing (Path loan) before after) (heeds : Heeds loan before after)
  | finished (decided : Decided loan Finished (QuietPath loan) before after)
      (active : before.ledger.statusOf loan = some .active)
  | paid (decided : Decided loan Finished (Payout loan) before after)
  | rejected (decided : Decided loan Rejected (Path loan) before after) {record : Loan}
      (found : after.ledger.loans.get? loan = some record) (refused : record.status = .rejected)
      (freed : record.lien = none)

inductive Desk.Setback (loan : LoanId) (before : Desk) (stop : Stop) (after : Desk) : Prop where
  | declined (declined : Declined before stop after)
  | halted (waiting : before.Waiting loan) (halted : Work.Halted loan before stop after)

namespace Engine

open Desk (Orderly Declined Effect Setback Through)
open Work (Halted)

variable (settings : Settings) (now : Timestamp)

theorem build_effects {desk : Desk} (orderly : desk.Orderly) (loan : LoanId) :
    Ends ((Desk.engine settings now).build loan) desk (fun _ after => Effect loan desk after) (Setback loan desk) := by
  refine (build_ends settings now orderly.chains loan).imp ?_ fun _ _ => .declined
  intro _ _ ended
  rcases ended with same | built
  · exact .idle same
  · exact .built built

section

variable {α : Type} {desk : Desk} {done : α → Desk → Prop} {stopped : Stop → Desk → Prop} (orderly : desk.Orderly)
  (declines : ∀ stop after, Declined desk stop after → stopped stop after)
include orderly declines

theorem openStep_andThen {loan : LoanId} {id : StepId} {next : Step → Work Desk α}
    (rest : ∀ step ∈ desk.chains.chainOf loan, step.status = .pending → Ends (next step) desk done stopped) :
    Ends ((Desk.engine settings now).openStep loan id >>= next) desk done stopped := by
  refine (openStep_ends settings now loan id desk).andThen ?_ declines
  intro step desk ended
  obtain ⟨rfl, found, owned, pending⟩ := ended
  have stored := ((orderly.chains.sound.find?_eq_some_iff id step).mp found).1
  exact rest step (ChainStore.mem_chainOf.mpr ⟨stored, owned⟩) pending

theorem requireLoan_andThen {id : LoanId} {next : Loan → Work Desk α}
    (rest : ∀ loan, loan.id = id → desk.ledger.loans.get? loan.id = some loan → Ends (next loan) desk done stopped) :
    Ends ((Desk.engine settings now).requireLoan id >>= next) desk done stopped := by
  refine (requireLoan_ends settings now id desk).andThen ?_ declines
  intro loan desk ended
  obtain ⟨rfl, found⟩ := ended
  have same := orderly.ledger.keyed id loan found
  exact rest loan same (same ▸ found)

end

theorem NeedsSubmission.of_closedOff {step : Step} {loan : Loan} (first : step.rank = 0)
    (closed : loan.status = .rejected ∨ loan.status = .closed) : NeedsSubmission step loan := by
  refine ⟨first, ?_⟩
  rcases closed with rejected | closed
  · rw [rejected]
    decide
  · rw [closed]
    decide

theorem Submits.heeds {step : Step} {loan : Loan} {status : LoanStatus} {before after : Ledger}
    (submits : Submits step loan status) (found : before.loans.get? loan.id = some loan)
    (known : after.statusOf loan.id = some status) :
    (after.ClosedOff loan.id → before.ClosedOff loan.id) ∧ (before.ClosedOff loan.id → step.rank ≠ 0) := by
  rw [Ledger.closedOff_iff known, Ledger.closedOff_iff (Ledger.statusOf_found found)]
  cases submits with
  | first needed pending =>
    rw [pending]
    exact ⟨fun closed => absurd closed (by decide), fun closed => absurd closed (by decide)⟩
  | later unneeded => exact ⟨id, fun closed first => unneeded (.of_closedOff first closed)⟩

theorem approve_ends {desk : Desk} (orderly : desk.Orderly) (loan : LoanId) (step : StepId) (note : String)
    (date : Option Date) (payment : Option PaymentTypeId) :
    Ends ((Desk.engine settings now).approve loan step note date payment) desk
      (fun _ after => Effect loan desk after) (Setback loan desk) := by
  refine openStep_andThen settings now orderly (fun _ _ => .declined) ?_
  intro step mem pending
  refine requireLoan_andThen settings now orderly (fun _ _ => .declined) ?_
  intro loan same found
  subst same
  apply read_andThen
  rw [orderly.chains.stepsOf_eq]
  have waiting : desk.Waiting loan.id := ⟨step, mem, pending⟩
  refine (carryOut_ends settings now (approvePart_ends settings now step _ note _ payment found) ?_).imp
    (fun _ _ effect => effect) fun _ _ => .halted waiting
  intro answered after ended
  obtain ⟨batch, changes⟩ := answered
  rcases ended with ⟨rfl, ⟨⟨next, following⟩, through, status, submits, known⟩ | ⟨following, rest⟩⟩
  · rw [following, through.chains]
    obtain ⟨chains, committed, turned⟩ := orderly.chains.approval_opens mem pending now following
    refine ⟨chains, committed, .moved ⟨waiting, turned, through.ledger, through.directory⟩ ?_⟩
    apply Desk.Heeds.of_later mem pending
    · exact (submits.heeds found known).1
    · exact (submits.heeds found known).2
  · rw [following]
    obtain ⟨chains, committed, turned⟩ := orderly.chains.approval_finishes mem pending now following
    rcases rest with ⟨active, through⟩ | ⟨_, through⟩
    · rw [through.chains]
      refine ⟨chains, committed, .finished ⟨waiting, turned, through.ledger, through.directory⟩ ?_⟩
      rw [Ledger.statusOf_found found, active]
    · rw [through.chains]
      exact ⟨chains, committed, .paid ⟨waiting, turned, through.ledger, through.directory⟩⟩

theorem reject_ends {desk : Desk} (orderly : desk.Orderly) (loan : LoanId) (step : StepId) (note : String) :
    Ends ((Desk.engine settings now).reject loan step note) desk
      (fun _ after => Effect loan desk after) (Setback loan desk) := by
  refine openStep_andThen settings now orderly (fun _ _ => .declined) ?_
  intro step mem pending
  refine requireLoan_andThen settings now orderly (fun _ _ => .declined) ?_
  intro loan same found
  subst same
  have waiting : desk.Waiting loan.id := ⟨step, mem, pending⟩
  refine (carryOut_ends settings now (rejectPart_ends settings now step note found) ?_).imp
    (fun _ _ effect => effect) fun _ _ ⟨halt, through⟩ => .halted waiting (.of_path halt through)
  intro answered after ended
  obtain ⟨batch, changes⟩ := answered
  obtain ⟨rfl, refused, through⟩ := ended
  rw [through.chains]
  obtain ⟨chains, committed, turned⟩ := orderly.chains.rejection_settles mem pending now
  exact ⟨chains, committed, .rejected ⟨waiting, turned, through.ledger, through.directory⟩ refused rfl rfl⟩

theorem undo_ends {desk : Desk} (orderly : desk.Orderly) (loan : LoanId) (step : StepId) (note : String)
    (target : Option StepId) :
    Ends ((Desk.engine settings now).undo loan step note target) desk
      (fun _ after => Effect loan desk after) (Setback loan desk) := by
  refine openStep_andThen settings now orderly (fun _ _ => .declined) ?_
  intro step mem pending
  split
  · exact .declined (fail_declines _ _)
  · refine (undoTarget_ends settings now loan step target desk).andThen ?_ fun _ _ => .declined
    intro found desk ended
    obtain ⟨rfl, listed, _, lower⟩ := ended
    rw [orderly.chains.stepsOf_eq] at listed
    refine requireLoan_andThen settings now orderly (fun _ _ => .declined) ?_
    intro loan same record
    subst same
    have waiting : desk.Waiting loan.id := ⟨step, mem, pending⟩
    refine (carryOut_ends settings now (undoPart_ends settings now step found note record) ?_).imp
      (fun _ _ effect => effect) fun _ _ ⟨halt, through⟩ => .halted waiting (.of_path halt through)
    intro answered after ended
    obtain ⟨batch, changes⟩ := answered
    obtain ⟨rfl, through, status, undone, known⟩ := ended
    rw [through.chains]
    obtain ⟨chains, committed, turned⟩ := orderly.chains.reopening_turns mem pending now listed lower
    refine ⟨chains, committed, .moved ⟨waiting, turned, through.ledger, through.directory⟩ ?_⟩
    refine Desk.Heeds.of_later mem pending (fun closed => ?_) fun _ => Nat.ne_of_gt (Nat.zero_lt_of_lt lower)
    rcases undone with rfl | rfl
    · exact (Ledger.closedOff_iff (Ledger.statusOf_found record)).mpr ((Ledger.closedOff_iff known).mp closed)
    · exact absurd ((Ledger.closedOff_iff known).mp closed) (by decide)

theorem reassign_ends {desk : Desk} (orderly : desk.Orderly) (loan : LoanId) (step : StepId) (note : String)
    (approver : ApproverId) :
    Ends ((Desk.engine settings now).reassign loan step note approver) desk
      (fun _ after => Effect loan desk after) (Setback loan desk) := by
  refine openStep_andThen settings now orderly (fun _ _ => .declined) ?_
  intro step mem pending
  split
  · exact .idle rfl
  · apply read_andThen
    split
    · exact .declined (fail_declines _ _)
    · have waiting : desk.Waiting loan := ⟨step, mem, pending⟩
      refine (carryOut_ends settings now (reassignPart_ends settings now step loan note approver desk) ?_).imp
        (fun _ _ effect => effect) fun _ _ ⟨halt, through⟩ => .halted waiting (.of_path halt through)
      intro answered after ended
      obtain ⟨batch, changes⟩ := answered
      obtain ⟨rfl, through⟩ := ended
      rw [through.chains]
      obtain ⟨chains, committed, turned, front⟩ := orderly.chains.handover_turns mem pending approver now
      refine ⟨chains, committed, .moved ⟨waiting, turned, through.ledger.path, through.directory⟩ ⟨?_, ?_⟩⟩
      · rw [Ledger.ClosedOff, Ledger.ClosedOff, through.ledger.status]
        exact id
      · intro _ first
        exact (first.here step mem).mp pending ▸ front

end Engine

end Countersign
