import Countersign.Proofs.ChainDates
import Countersign.Proofs.CommandEffect
import Countersign.Proofs.DecisionAgain

/-!
Commands that are carried out again. What a decision checks stays as it is while attempts
fail, for they leave the chains and the directory alone; so its part in the ledger is taken up
where the last attempt left it, and in the end the store takes the same batch.
-/

namespace Countersign

open Ledger (Alike Stages Fit Concurs)

/-- From these books an attempt goes through and comes to what was done undisturbed, and at
another time to the same but for the dates; or it fails and leaves books to try again from. -/
def Desk.Resumable {α : Type} (work : Timestamp → Work Desk α) (now : Timestamp) (loan : LoanId)
    (start done : Desk) : Prop :=
  ∃ stage, Stages start.ledger stage ∧ ∀ (time : Timestamp) (b : Desk), b.chains = start.chains →
    b.directory = start.directory → stage b.ledger → (.disburse ∈ b.ledger.failing → .release ∉ b.ledger.failing) →
    Ends (work time) b
      (fun _ after => b.ledger.failing = [] →
        Concurs loan done.ledger after.ledger ∧ done.chains.Redated after.chains ∧
          (time = now → after.chains = done.chains))
      fun _ after => b.ledger.failing ≠ [] ∧ stage after.ledger

namespace Engine

open Desk (Resumable)

variable (settings : Settings) (now : Timestamp)

/-! Checks that come out as before. -/

theorem read_rest {α β : Type} {view : Desk → α} {next : α → Work Desk β} {desk : Desk}
    {result : EStateM.Result Stop Desk β} (ran : (Desk.read view >>= next) desk = result) :
    next (view desk) desk = result :=
  ran

theorem openStep_finds {loan : LoanId} {id : StepId} {desk : Desk} {step : Step}
    (found : desk.chains.find? id = some step) (owned : step.loan = loan) (pending : step.status = .pending) :
    Ends ((Desk.engine settings now).openStep loan id) desk (fun answer after => answer = step ∧ after = desk)
      fun _ _ => False := by
  apply read_andThen
  rw [found]
  dsimp only
  rw [if_neg (not_not.mpr owned), if_neg (not_not.mpr pending)]
  exact ⟨rfl, rfl⟩

theorem requireLoan_finds {id : LoanId} {desk : Desk} {loan : Loan} (found : desk.ledger.loans.get? id = some loan) :
    Ends ((Desk.engine settings now).requireLoan id) desk (fun answer after => answer = loan ∧ after = desk)
      fun _ _ => False := by
  change Ends (Desk.read (·.ledger.loans.get? id) >>= _) desk _ _
  apply read_andThen
  rw [found]
  exact ⟨rfl, rfl⟩

/-! An undisturbed run, and the same one with nothing lost, step by step. -/

section

variable {settings now} {α : Type} {start done : Desk} {answer : α}

theorem openStep_ran {loan : LoanId} {id : StepId} {next next' : Step → Work Desk α}
    (ran : ((Desk.engine settings now).openStep loan id >>= next) start = .ok answer done)
    (exactly : ((Desk.exactEngine settings now).openStep loan id >>= next') start = .ok answer done) :
    ∃ step, (start.chains.find? id = some step ∧ step.loan = loan ∧ step.status = .pending) ∧
      next step start = .ok answer done ∧ next' step start = .ok answer done := by
  obtain ⟨step, between, opened, rest⟩ := ran_bind ran
  obtain ⟨_, _, openedToo, restToo⟩ := ran_bind exactly
  cases opened.symm.trans openedToo
  obtain ⟨rfl, known⟩ := (openStep_ends settings now loan id start).of_ok opened
  exact ⟨step, known, rest, restToo⟩

theorem requireLoan_ran {id : LoanId} {next next' : Loan → Work Desk α}
    (ran : ((Desk.engine settings now).requireLoan id >>= next) start = .ok answer done)
    (exactly : ((Desk.exactEngine settings now).requireLoan id >>= next') start = .ok answer done) :
    ∃ loan, start.ledger.loans.get? id = some loan ∧ next loan start = .ok answer done ∧
      next' loan start = .ok answer done := by
  obtain ⟨loan, between, required, rest⟩ := ran_bind ran
  obtain ⟨_, _, requiredToo, restToo⟩ := ran_bind exactly
  cases required.symm.trans requiredToo
  obtain ⟨rfl, found⟩ := (requireLoan_ends settings now id start).of_ok required
  exact ⟨loan, found, rest, restToo⟩

end

theorem carryOut_ran {start done : Desk} {loan : LoanId} {step : StepId} {part : Work Desk (Batch × List Change)}
    {outcome : Outcome} (ran : (Desk.engine settings now).carryOut loan step part start = .ok outcome done) :
    ∃ answer after, part start = .ok answer after ∧ after.chains.commit answer.1 = .ok done.chains ∧
      done.ledger = after.ledger := by
  obtain ⟨⟨batch, changes⟩, after, went, ran⟩ := ran_bind ran
  obtain ⟨_, _, committed, ran⟩ := ran_bind ran
  cases ran
  change Desk.commit batch after = _ at committed
  unfold Desk.commit at committed
  cases taken : after.chains.commit batch with
  | error error =>
    rw [taken] at committed
    cases committed
  | ok chains =>
    rw [taken] at committed
    cases committed
    exact ⟨_, after, went, taken, rfl⟩

theorem carryOut_again {start b done : Desk} {loan : LoanId} {step : StepId} {part : Work Desk (Batch × List Change)}
    (batch : Timestamp → Batch) {stage finish : Ledger → Prop} {stopped : Stop → Desk → Prop} {time : Timestamp}
    (retries : Retries part b (fun after => stage after.ledger)
      fun _ after => b.ledger.failing = [] → finish after.ledger)
    (known : Ends part b (fun answer after => answer.1 = batch time ∧ after.chains = b.chains) stopped)
    (dates : (batch now).Redated (batch time)) (chains : b.chains = start.chains)
    (taken : start.chains.commit (batch now) = .ok done.chains) :
    Ends ((Desk.engine settings time).carryOut loan step part) b
      (fun _ after => b.ledger.failing = [] → finish after.ledger ∧ done.chains.Redated after.chains ∧
        (time = now → after.chains = done.chains))
      fun _ after => b.ledger.failing ≠ [] ∧ stage after.ledger := by
  obtain ⟨_, takenAgain, redated⟩ := ChainStore.commit_redated dates taken
  refine (Ends.and retries known).andThen ?_ fun _ _ both => both.1
  intro answered after ended
  obtain ⟨other, changes⟩ := answered
  obtain ⟨⟨_, finished⟩, same, sameChains⟩ := ended
  apply (ends_bind _ _ _ _ _).mpr
  change Ends (Desk.commit other) after _ _
  unfold Ends Desk.commit
  rw [show other = batch time from same, sameChains, chains, takenAgain]
  refine fun healed => ⟨finished healed, redated, ?_⟩
  intro same
  obtain rfl := same
  exact Except.ok.inj (takenAgain.symm.trans taken)

/-! The batches at another time. -/

theorem approval_redated (next : Option Step) (step : Step) (later : Timestamp) :
    (approval next step now).Redated (approval next step later) := by
  cases next with
  | none => exact (Batch.Redated.refl _).transition ..
  | some next => exact ((Batch.Redated.refl _).transition ..).transition ..

theorem reopening_redated (target step : Step) (later : Timestamp) :
    (reopening target step now).Redated (reopening target step later) :=
  ((Batch.Redated.refl _).transition ..).transition ..

theorem handover_redated (step : Step) (approver : ApproverId) (later : Timestamp) :
    (handover step approver now).Redated (handover step approver later) := by
  have staged : Batch.Redated (Batch.empty.stage { step with approver := some approver, modified := now })
      (Batch.empty.stage { step with approver := some approver, modified := later }) :=
    (Batch.Redated.refl _).stage rfl
  exact staged.record ..

/-! The decisions. -/

theorem approvePart_batch {loan : Loan} {desk : Desk} {step : Step} {steps : List Step} {note : String}
    {date : ValueDate} {payment : Option PaymentTypeId} (found : desk.ledger.loans.get? loan.id = some loan) :
    Ends ((Desk.engine settings now).approvePart step loan steps note date payment) desk
      (fun answer after => answer.1 = approval (queuedAbove steps step.rank) step now ∧ after.chains = desk.chains)
      fun _ _ => True := by
  refine (approvePart_ends settings now step steps note date payment found).imp ?_ fun _ _ _ => trivial
  intro _ _ ended
  rcases ended with ⟨batch, ⟨_, through, _⟩ | ⟨_, ⟨_, through⟩ | ⟨_, through⟩⟩⟩ <;> exact ⟨batch, through.chains⟩

variable {settings now} {start done : Desk} {loan : LoanId} {id : StepId} {note : String} {outcome : Outcome}

theorem approve_resumes {date : Option Date} {payment : Option PaymentTypeId} (orderly : start.Orderly)
    (fit : start.ledger.Fit loan)
    (undisturbed : (Desk.engine settings now).approve loan id note date payment start = .ok outcome done)
    (exactly : (Desk.exactEngine settings now).approve loan id note date payment start = .ok outcome done) :
    Resumable (fun time => (Desk.engine settings time).approve loan id note date payment) now loan start done := by
  obtain ⟨step, ⟨found, owned, pending⟩, rest, restToo⟩ := openStep_ran undisturbed exactly
  obtain ⟨record, known, listing, listingToo⟩ := requireLoan_ran rest restToo
  obtain rfl := orderly.ledger.keyed loan record known
  have carried := read_rest listing
  have carriedToo := read_rest listingToo
  obtain ⟨_, _, went, taken, _⟩ := carryOut_ran settings now carried
  obtain ⟨_, _, wentToo, _, sameLedger⟩ := carryOut_ran settings now carriedToo
  obtain ⟨batch, sameChains⟩ := (approvePart_batch settings now known).of_ok went
  rw [batch, sameChains] at taken
  obtain ⟨stage, stages, resumes⟩ := approvePart_resumes settings now wentToo fit known
  refine ⟨stage, stages, fun time b chains _ reached apart => ?_⟩
  obtain ⟨status, recordAgain, retries⟩ := resumes time b reached apart
  apply (openStep_finds settings time (chains ▸ found) owned pending).certainly
  intro step b ended
  obtain ⟨rfl, rfl⟩ := ended
  apply (requireLoan_finds settings time recordAgain).certainly
  intro _ b ended
  obtain ⟨rfl, rfl⟩ := ended
  apply read_andThen
  rw [chains, sameLedger]
  exact carryOut_again settings now (approval (queuedAbove (start.chains.stepsOf record.id) step.rank) step) retries
    (approvePart_batch settings time recordAgain) (approval_redated now _ step time) chains taken

theorem reject_resumes (orderly : start.Orderly) (fit : start.ledger.Fit loan)
    (undisturbed : (Desk.engine settings now).reject loan id note start = .ok outcome done)
    (exactly : (Desk.exactEngine settings now).reject loan id note start = .ok outcome done) :
    Resumable (fun time => (Desk.engine settings time).reject loan id note) now loan start done := by
  obtain ⟨step, ⟨found, owned, pending⟩, rest, restToo⟩ := openStep_ran undisturbed exactly
  obtain ⟨record, known, carried, carriedToo⟩ := requireLoan_ran rest restToo
  obtain rfl := orderly.ledger.keyed loan record known
  obtain ⟨_, _, went, taken, _⟩ := carryOut_ran settings now carried
  obtain ⟨_, _, wentToo, _, sameLedger⟩ := carryOut_ran settings now carriedToo
  obtain ⟨batch, _, through⟩ := (rejectPart_ends settings now step note known).of_ok went
  rw [batch, through.chains] at taken
  obtain ⟨stage, stages, resumes⟩ := rejectPart_resumes settings now wentToo fit known
  refine ⟨stage, stages, fun time b chains _ reached apart => ?_⟩
  obtain ⟨status, recordAgain, retries⟩ := resumes time b reached apart
  apply (openStep_finds settings time (chains ▸ found) owned pending).certainly
  intro step b ended
  obtain ⟨rfl, rfl⟩ := ended
  apply (requireLoan_finds settings time recordAgain).certainly
  intro _ b ended
  obtain ⟨rfl, rfl⟩ := ended
  rw [sameLedger]
  refine carryOut_again settings now (Batch.empty.transition step .rejected) retries
    ((rejectPart_ends settings time step note recordAgain).imp ?_ fun _ _ stopped => stopped)
    ((Batch.Redated.refl _).transition step .rejected now time) chains taken
  exact fun _ _ ⟨batch, _, through⟩ => ⟨batch, through.chains⟩

theorem undoTarget_again {loan : LoanId} {step found : Step} {target : Option StepId} {start after b : Desk}
    (ran : (Desk.engine settings now).undoTarget loan step target start = .ok found after)
    (chains : b.chains = start.chains) (time : Timestamp) :
    Ends ((Desk.engine settings time).undoTarget loan step target) b (fun answer after => answer = found ∧ after = b)
      fun _ _ => False := by
  have looked := read_rest ran
  apply read_andThen
  rw [chains]
  cases target with
  | none =>
    dsimp only at looked ⊢
    cases nearest : approvedBelow (start.chains.stepsOf loan) step.rank with
    | none =>
      rw [nearest] at looked
      cases looked
    | some other =>
      rw [nearest] at looked
      cases looked
      exact ⟨rfl, rfl⟩
  | some id =>
    dsimp only at looked ⊢
    cases named : (start.chains.stepsOf loan).find? (·.id == id) with
    | none =>
      rw [named] at looked
      have missing := read_rest looked
      cases known : start.chains.find? id <;> rw [known] at missing <;> cases missing
    | some other =>
      rw [named] at looked
      dsimp only at looked ⊢
      by_cases unapproved : other.status ≠ .approved
      · rw [if_pos unapproved] at looked
        cases looked
      · rw [if_neg unapproved] at looked ⊢
        by_cases higher : step.rank ≤ other.rank
        · rw [if_pos higher] at looked
          cases looked
        · rw [if_neg higher] at looked ⊢
          cases looked
          exact ⟨rfl, rfl⟩

theorem undo_resumes {target : Option StepId} (orderly : start.Orderly) (fit : start.ledger.Fit loan)
    (undisturbed : (Desk.engine settings now).undo loan id note target start = .ok outcome done)
    (exactly : (Desk.exactEngine settings now).undo loan id note target start = .ok outcome done) :
    Resumable (fun time => (Desk.engine settings time).undo loan id note target) now loan start done := by
  obtain ⟨step, ⟨found, owned, pending⟩, rest, restToo⟩ := openStep_ran undisturbed exactly
  by_cases first : step.rank = 0
  · rw [if_pos first] at rest
    cases rest
  rw [if_neg first] at rest restToo
  obtain ⟨back, start, looked, further⟩ := ran_bind rest
  obtain ⟨_, _, lookedToo, furtherToo⟩ := ran_bind restToo
  cases looked.symm.trans lookedToo
  obtain ⟨rfl, _⟩ := (undoTarget_ends settings now loan step target _).of_ok looked
  obtain ⟨record, known, carried, carriedToo⟩ := requireLoan_ran further furtherToo
  obtain rfl := orderly.ledger.keyed loan record known
  obtain ⟨_, _, went, taken, _⟩ := carryOut_ran settings now carried
  obtain ⟨_, _, wentToo, _, sameLedger⟩ := carryOut_ran settings now carriedToo
  obtain ⟨batch, through, _⟩ := (undoPart_ends settings now step back note known).of_ok went
  rw [batch, through.chains] at taken
  refine ⟨_, .of_alike (.refl _), fun time b chains _ reached apart => ?_⟩
  obtain ⟨status, recordAgain, retries⟩ := undoPart_resumes settings now wentToo fit known time b reached apart
  apply (openStep_finds settings time (chains ▸ found) owned pending).certainly
  intro step b ended
  obtain ⟨rfl, rfl⟩ := ended
  rw [if_neg first]
  apply (undoTarget_again looked chains time).certainly
  intro back b ended
  obtain ⟨rfl, rfl⟩ := ended
  apply (requireLoan_finds settings time recordAgain).certainly
  intro _ b ended
  obtain ⟨rfl, rfl⟩ := ended
  rw [sameLedger]
  refine carryOut_again settings now (reopening back step) retries
    ((undoPart_ends settings time step back note recordAgain).imp ?_ fun _ _ stopped => stopped)
    (reopening_redated now back step time) chains taken
  exact fun _ _ ⟨batch, through, _⟩ => ⟨batch, through.chains⟩

theorem reassign_resumes {approver : ApproverId} (fit : start.ledger.Fit loan)
    (undisturbed : (Desk.engine settings now).reassign loan id note approver start = .ok outcome done)
    (exactly : (Desk.exactEngine settings now).reassign loan id note approver start = .ok outcome done) :
    Resumable (fun time => (Desk.engine settings time).reassign loan id note approver) now loan start done := by
  obtain ⟨step, ⟨found, owned, pending⟩, rest, restToo⟩ := openStep_ran undisturbed exactly
  by_cases same : step.approver = some approver
  · rw [if_pos same] at rest
    cases rest
    refine ⟨_, .of_alike (.refl _), fun time b chains _ alike _ => ?_⟩
    apply (openStep_finds settings time (chains ▸ found) owned pending).certainly
    intro step b ended
    obtain ⟨rfl, rfl⟩ := ended
    rw [if_pos same]
    exact fun _ => ⟨alike.concurs fit, chains ▸ .refl _, fun _ => chains⟩
  rw [if_neg same] at rest restToo
  have carried := read_rest rest
  have carriedToo := read_rest restToo
  cases known : (start.directory.approver? approver).filter (·.active) with
  | none =>
    rw [known] at carried
    cases carried
  | some taker =>
    rw [known] at carried carriedToo
    obtain ⟨_, _, went, taken, _⟩ := carryOut_ran settings now carried
    obtain ⟨_, _, wentToo, _, sameLedger⟩ := carryOut_ran settings now carriedToo
    obtain ⟨batch, through⟩ := (reassignPart_ends settings now step loan note approver start).of_ok went
    rw [batch, through.chains] at taken
    refine ⟨_, .of_alike (.refl _), fun time b chains directory alike _ => ?_⟩
    apply (openStep_finds settings time (chains ▸ found) owned pending).certainly
    intro step b ended
    obtain ⟨rfl, rfl⟩ := ended
    rw [if_neg same]
    apply read_andThen
    rw [directory, known, sameLedger]
    have retries := (reassignPart_again settings now wentToo fit alike time).imp (fun _ left => left)
      fun _ _ concurs (_ : b.ledger.failing = []) => concurs
    refine carryOut_again settings now (handover step approver) retries
      ((reassignPart_ends settings time step loan note approver b).imp ?_ fun _ _ stopped => stopped)
      (handover_redated now step approver time) chains taken
    exact fun _ _ ⟨batch, through⟩ => ⟨batch, through.chains⟩

end Engine

end Countersign
