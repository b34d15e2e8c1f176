import Countersign.Proofs.CommandConduct
import Countersign.Proofs.Disbursement

/-!
Loans that the ledger has closed off. Nothing but the ledger keeps them from being approved, and
it does so where it is asked to submit them, at the first step. A chain that waits further up goes
on. It takes a rejection that failed with the loan rejected to leave one there: where there is
none, no approval of a loan that is closed off comes to more than a note.
-/

namespace Countersign

/-- The chain of a loan that is closed off waits at its first step, if it waits. -/
def Desk.Shut (loan : LoanId) (desk : Desk) : Prop :=
  desk.ledger.ClosedOff loan → desk.Waiting loan → Chain.Front .pending 0 (desk.chains.chainOf loan)

/-- A command that fails, with nothing of it left but a note. -/
structure Desk.Refused (loan : LoanId) (before : Desk) (stop : Stop) (after : Desk) : Prop where
  failed : ∃ error, stop = .failed error
  noted : after = before ∨ ∃ text, after = { before with ledger := before.ledger.noted loan text }

namespace Engine

open Desk (Orderly Refused Shut)

variable (settings : Settings) (now : Timestamp)

/-! What becomes of an approval. -/

theorem approvePart_refused {loan : Loan} {desk : Desk} {step : Step} (steps : List Step) (note : String)
    (date : ValueDate) (payment : Option PaymentTypeId) (found : desk.ledger.loans.get? loan.id = some loan)
    (closed : loan.status = .rejected ∨ loan.status = .closed) (first : step.rank = 0) :
    Ends ((Desk.engine settings now).approvePart step loan steps note date payment) desk (fun _ _ => False)
      (Refused loan.id desk) := by
  have refused {noted : Desk} (same : noted.ledger.loans = desk.ledger.loans)
      (left : noted = desk ∨ ∃ text, noted = { desk with ledger := desk.ledger.noted loan.id text }) :
      Ends ((Desk.engine settings now).submitFirst step loan date note) noted (fun _ _ => False)
        (Refused loan.id desk) := by
    apply (submitFirst_ends settings now step date note (same ▸ found)).imp
    · intro _ _ ended
      rcases ended with ⟨unneeded, _⟩ | ⟨_, pending, _⟩
      · exact unneeded (.of_closedOff first closed)
      · rw [pending] at closed
        exact absurd closed (by decide)
    · intro _ _ ended
      obtain ⟨rfl, _, _, rfl⟩ := ended
      exact ⟨⟨_, rfl⟩, left⟩
  unfold approvePart
  apply (leaveNote_ends settings now loan.id note desk).andThen
  · intro _ noted left
    have same : noted.ledger.loans = desk.ledger.loans := by
      rcases left with rfl | ⟨text, rfl⟩
      · rfl
      · rfl
    exact (refused same left).stopping
  · intro _ _ ended
    obtain ⟨rfl, _, rfl⟩ := ended
    exact ⟨⟨_, rfl⟩, Or.inl rfl⟩

theorem approve_refused {desk : Desk} (orderly : desk.Orderly) {loan : LoanId} (closed : desk.ledger.ClosedOff loan)
    (shut : Shut loan desk) (step : StepId) (note : String) (date : Option Date) (payment : Option PaymentTypeId) :
    Ends ((Desk.engine settings now).approve loan step note date payment) desk (fun _ _ => False)
      (Refused loan desk) := by
  have declines (stop : Stop) (after : Desk) (declined : Desk.Declined desk stop after) : Refused loan desk stop after :=
    ⟨declined.failed, Or.inl declined.same⟩
  refine openStep_andThen settings now orderly declines ?_
  intro step mem pending
  have first : step.rank = 0 := ((shut closed ⟨step, mem, pending⟩).here step mem).mp pending
  refine requireLoan_andThen settings now orderly declines ?_
  intro record same found
  subst same
  apply read_andThen
  have closed := (Ledger.closedOff_iff (Ledger.statusOf_found found)).mp closed
  exact (approvePart_refused settings now _ note _ payment found closed first).stopping

end Engine

namespace Desk

open Relation (ReflTransGen)

variable {settings : Settings} {loan target : LoanId} {desk later : Desk}

theorem Shut.of_ended (ended : desk.Ended loan) : Shut loan desk :=
  fun _ waiting => absurd waiting ended.not_waiting

theorem Opening.shut (opening : desk.Opening) (loan : LoanId) : Shut loan desk := by
  intro _ waiting
  obtain ⟨step, mem, _⟩ := waiting
  rw [opening.chains] at mem
  exact absurd mem List.not_mem_nil

theorem Effect.shut (effect : Effect target desk later) (shut : Shut loan desk) : Shut loan later := by
  by_cases own : loan = target
  · subst own
    cases effect with
    | idle same => exact same ▸ shut
    | built built => exact fun _ _ => built.front
    -- Everything else begins the chain, ends it or leaves it as it was.
    | moved decided heeds =>
      intro closed _
      have closedBefore := heeds.closedOff closed
      exact heeds.first closedBefore (shut closedBefore decided.waiting)
    | finished decided active => exact .of_ended (Or.inl decided.turned.form)
    | paid decided => exact .of_ended (Or.inl decided.turned.form)
    | rejected decided found refused freed => exact .of_ended (Or.inr decided.turned.form)
  · have spares := effect.spares own
    unfold Shut Ledger.ClosedOff Waiting
    rw [spares.ledger.status, spares.chain]
    exact shut

theorem Shut.effects (shut : Shut loan desk) (effects : ReflTransGen (fun a b => ∃ target, Effect target a b) desk later) :
    Shut loan later := by
  induction effects with
  | refl => exact shut
  | tail _ effect ih =>
    obtain ⟨target, effect⟩ := effect
    exact effect.shut ih

def waitsAbove (desk : Desk) (loan : LoanId) : Bool :=
  (desk.chains.chainOf loan).any fun step => step.status = .pending ∧ step.rank ≠ 0

/-- A command that fails and closes the loan off nonetheless, away from its first step. -/
def closesHalfway (settings : Settings) (loan : LoanId) (desk : Desk) (event : Event) : Bool :=
  let after := desk.after settings event
  desk.fails settings event && !desk.ledger.ClosedOff loan && after.ledger.ClosedOff loan && after.waitsAbove loan

theorem Shut.of_not_waitsAbove (orderly : desk.Orderly) (below : desk.waitsAbove loan = false) : Shut loan desk := by
  intro _ waiting
  obtain ⟨step, mem, pending⟩ := waiting
  have first : step.rank = 0 := by
    have here := List.any_eq_false.mp below step mem
    simpa [pending] using here
  exact first ▸ ((orderly.chains.formed loan).at_pending mem pending).2.2

theorem Shut.failed {event : Event} (orderly : desk.Orderly) (failed : desk.fails settings event = true)
    (whole : desk.closesHalfway settings loan event = false)
    (chains : (desk.after settings event).chains = desk.chains) (shut : Shut loan desk) :
    Shut loan (desk.after settings event) := by
  intro closed waiting
  by_cases closedBefore : desk.ledger.ClosedOff loan
  · unfold Waiting at waiting
    rw [chains] at waiting ⊢
    exact shut closedBefore waiting
  · rw [closesHalfway, failed, decide_eq_false closedBefore, decide_eq_true closed] at whole
    exact Shut.of_not_waitsAbove (orderly.after event) whole closed waiting

theorem Shut.after {event : Event} (orderly : desk.Orderly) (fits : desk.overflows settings event = false)
    (whole : desk.closesHalfway settings loan event = false) (shut : Shut loan desk) :
    Shut loan (desk.after settings event) := by
  cases event with
  | command now command =>
    have ends := perform_ends settings now orderly command
    cases ran : (Desk.engine settings now).perform command desk with
    | ok answer after =>
      rw [Desk.after, ran]
      exact shut.effects (ends.of_ok ran)
    | error stop after =>
      cases stop with
      | overflow what =>
        rw [overflows, ran] at fits
        cases fits
      | failed error =>
        refine shut.failed orderly (by rw [fails, ran]) whole ?_
        rw [Desk.after, ran]
        obtain ⟨target, declined | ⟨_, halted⟩⟩ := ends.of_error ran
        · exact congrArg _ declined.same
        · exact (halted.unpaid error rfl).chains
  | failOn op => exact shut
  | heal op => exact shut

/-- On every run in which all sums fit and no command that failed has closed the loan off away from
its first step, it cannot be approved further once it is closed off: whoever tries leaves a note
at most. -/
theorem closed_loan_refuses {setup : Setup} {start : Desk} (installed : setup.install .empty = .ok () start)
    (events : List Event) (calm : start.calm setup.settings events = true) (loan : LoanId)
    (whole : start.never setup.settings (closesHalfway setup.settings loan) events = true) :
    let desk := start.run setup.settings events
    desk.ledger.ClosedOff loan → ∀ now step note date payment, ∃ error after,
      (Desk.engine setup.settings now).perform (.approve loan step note date payment) desk =
        .error (.failed error) after ∧
      (after = desk ∨ ∃ text, after = { desk with ledger := desk.ledger.noted loan text }) := by
  intro desk closed now step note date payment
  have opening := Setup.opens installed
  have orderly : desk.Orderly := (run_continues setup.settings events opening.orderly).1
  have shut : Shut loan desk :=
    calm_run_avoids (Shut loan) events (fun _ orderly fits whole => Shut.after orderly fits whole) calm whole
      opening.orderly (opening.shut loan)
  have ends : Ends ((Desk.engine setup.settings now).perform (.approve loan step note date payment)) desk
      (fun _ _ => False) (Refused loan desk) :=
    (Engine.approve_refused setup.settings now orderly closed shut step note date payment).stopping
  obtain ⟨_, after, ran, ⟨error, rfl⟩, noted⟩ := ends.exists_error
  exact ⟨error, after, ran, noted⟩

/-- The sample loan that is rejected at its first step, with its lien not released. -/
theorem sample_closed_refuses :
    let desk := sample.run .standard [.command .epoch (.build 1), .failOn .release, .command .epoch (.reject 1 1 "")]
    desk.ledger.ClosedOff 1 ∧ desk.Waiting 1 ∧ ∃ error after,
      (Desk.engine .standard .epoch).perform (.approve 1 1 "" none none) desk = .error (.failed error) after ∧
      (after = desk ∨ ∃ text, after = { desk with ledger := desk.ledger.noted 1 text }) := by
  intro desk
  have closed : desk.ledger.ClosedOff 1 := by decide +kernel
  refine ⟨closed, ⟨_, List.mem_cons_self, rfl⟩, ?_⟩
  exact closed_loan_refuses sample_installed _ (by decide +kernel) 1 (by decide +kernel) closed .epoch 1 "" none none

end Desk

def Setup.tiered : Setup :=
  { sample with
    products := [⟨1, [⟨0, 1, .unbounded⟩, ⟨1, 2, .unbounded⟩, ⟨2, 3, .unbounded⟩]⟩]
    approvers := sample.approvers ++ [⟨3, [3], true⟩] }

def Desk.tiered : Desk :=
  match Setup.tiered.install .empty with
  | .ok _ desk => desk
  | .error _ desk => desk

/-- There a rejection at the second step leaves the loan rejected when it fails. The step is
approved after that, and the approval of the third one withdraws the fee before it fails. -/
theorem Desk.tiered_closed_approved :
    let approve (step : StepId) : Event := .command .epoch (.approve 1 step "" none none)
    let events := [.command .epoch (.build 1), approve 1, .failOn .release, .command .epoch (.reject 1 2 "")]
    let closed := tiered.run .standard events
    let approved := closed.after .standard (approve 2)
    let charged := approved.after .standard (approve 3)
    Setup.tiered.install .empty = .ok () tiered ∧ tiered.calm .standard (events ++ [approve 2, approve 3]) = true ∧
      closed.ledger.ClosedOff 1 ∧ approved.ledger.ClosedOff 1 ∧ charged.ledger.ClosedOff 1 ∧
      (closed.chains.stepsOf 1).map (·.status) = [.approved, .pending, .queue] ∧
      closed.fails .standard (approve 2) = false ∧
      (approved.chains.stepsOf 1).map (·.status) = [.approved, .approved, .pending] ∧
      approved.ledger.count .withdraw = 0 ∧ charged.ledger.count .withdraw = 1 :=
  ⟨rfl, by decide +kernel, by decide +kernel, by decide +kernel, by decide +kernel, by decide +kernel,
    by decide +kernel, by decide +kernel, by decide +kernel, by decide +kernel⟩

end Countersign
