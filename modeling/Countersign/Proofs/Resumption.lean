import Countersign.Proofs.Atomicity
import Countersign.Proofs.CommandAgain

/-!
Resuming a decision. A decision that would go through can fail any number of times on the
way, each time for other operations of the ledger; tried again once they all work, it comes
to the same as if nothing had failed.
-/

namespace Countersign

open Ledger (Alike Stages Fit Concurs)

def Command.decides : Command → Option LoanId
  | .scan => none
  | .build _ => none
  | .approve loan _ _ _ _ => some loan
  | .reject loan _ _ => some loan
  | .undo loan _ _ _ => some loan
  | .reassign loan _ _ _ => some loan

namespace Desk

/-- A command is tried any number of times, whatever operations are made to fail, only not
both the disbursal and the release of holds; each time it ends early. -/
inductive Attempts (settings : Settings) (command : Command) (desk : Desk) : Desk → Prop where
  | none : Attempts settings command desk desk
  | again {before after : Desk} (earlier : Attempts settings command desk before) (now : Timestamp)
      (failing : List LedgerOp) (apart : ¬(.disburse ∈ failing ∧ .release ∈ failing)) (stop : Stop)
      (ended : (Desk.engine settings now).perform command (before.withFailing failing) = .error stop after) :
      Attempts settings command desk after

variable {settings : Settings} {now : Timestamp} {command : Command} {loan : LoanId} {start done : Desk}

theorem Resumable.map {α β : Type} {work : Timestamp → Work Desk α}
    (resumable : Resumable work now loan start done) (wrap : α → β) :
    Resumable (fun time => do pure (wrap (← work time))) now loan start done := by
  obtain ⟨stage, stages, resumes⟩ := resumable
  refine ⟨stage, stages, fun time b chains directory reached apart => ?_⟩
  exact (resumes time b chains directory reached apart).andThen (fun _ _ finished => finished) fun _ _ left => left

theorem wrapped_ran {σ : Type} {work : Work σ Outcome} {state after : σ} {answer : Answer}
    (ran : (do pure (Answer.done (← work)) : Work σ Answer) state = .ok answer after) :
    ∃ outcome, answer = .done outcome ∧ work state = .ok outcome after := by
  obtain ⟨outcome, _, went, rest⟩ := ran_bind ran
  cases rest
  exact ⟨outcome, rfl, went⟩

theorem perform_resumes {answer : Answer} (orderly : start.Orderly) (fit : start.ledger.Fit loan)
    (decides : command.decides = some loan)
    (undisturbed : (Desk.engine settings now).perform command start = .ok answer done)
    (exactly : (Desk.exactEngine settings now).perform command start = .ok answer done) :
    Resumable (fun time => (Desk.engine settings time).perform command) now loan start done := by
  cases command with
  | scan => cases decides
  | build => cases decides
  | approve =>
    cases decides
    obtain ⟨outcome, rfl, went⟩ := wrapped_ran undisturbed
    obtain ⟨_, ⟨⟩, wentToo⟩ := wrapped_ran exactly
    exact (Engine.approve_resumes orderly fit went wentToo).map _
  | reject =>
    cases decides
    obtain ⟨outcome, rfl, went⟩ := wrapped_ran undisturbed
    obtain ⟨_, ⟨⟩, wentToo⟩ := wrapped_ran exactly
    exact (Engine.reject_resumes orderly fit went wentToo).map _
  | undo =>
    cases decides
    obtain ⟨outcome, rfl, went⟩ := wrapped_ran undisturbed
    obtain ⟨_, ⟨⟩, wentToo⟩ := wrapped_ran exactly
    exact (Engine.undo_resumes orderly fit went wentToo).map _
  | reassign =>
    cases decides
    obtain ⟨outcome, rfl, went⟩ := wrapped_ran undisturbed
    obtain ⟨_, ⟨⟩, wentToo⟩ := wrapped_ran exactly
    exact (Engine.reassign_resumes fit went wentToo).map _

theorem ended_early {desk after : Desk} {stop : Stop} (orderly : desk.Orderly)
    (ended : (Desk.engine settings now).perform command desk = .error stop after) :
    after.Orderly ∧ after.chains = desk.chains ∧ after.directory = desk.directory := by
  obtain ⟨loan, declined | ⟨_, halted⟩⟩ := (perform_ends settings now orderly command).of_error ended
  · rw [declined.same]
    exact ⟨orderly, rfl, rfl⟩
  · have sameChains := halted.course.chains
    exact ⟨⟨sameChains ▸ orderly.chains, halted.course.ledger.inOrder orderly.ledger⟩, sameChains,
      halted.course.directory⟩

theorem alike_withFailing (ledger : Ledger) (failing : List LedgerOp) :
    Alike ledger { ledger with failing := failing } :=
  ⟨rfl, rfl, rfl, fun _ => rfl, Nat.le_refl _⟩

theorem Attempts.reach {desk spoiled : Desk} {stage : Ledger → Prop} (attempts : Attempts settings command desk spoiled)
    (orderly : desk.Orderly) (stages : Stages desk.ledger stage)
    (step : ∀ (time : Timestamp) (b : Desk), b.chains = desk.chains → b.directory = desk.directory → stage b.ledger →
      (.disburse ∈ b.ledger.failing → .release ∉ b.ledger.failing) →
      Ends ((Desk.engine settings time).perform command) b (fun _ _ => True) fun _ after => stage after.ledger) :
    spoiled.Orderly ∧ spoiled.chains = desk.chains ∧ spoiled.directory = desk.directory ∧ stage spoiled.ledger := by
  induction attempts with
  | none => exact ⟨orderly, rfl, rfl, stages.first⟩
  | @again before after earlier now failing apart stop ended ih =>
    obtain ⟨orderly, chains, directory, reached⟩ := ih
    have switched := stages.alike _ _ (alike_withFailing before.ledger failing) reached
    have ends := step now (before.withFailing failing) chains directory switched fun disburse release =>
      apart ⟨disburse, release⟩
    obtain ⟨orderly, sameChains, sameDirectory⟩ := ended_early (orderly.withFailing failing) ended
    exact ⟨orderly, sameChains.trans chains, sameDirectory.trans directory, ends.of_error ended⟩

/-- A decision that would go through with nothing lost can be tried with any operations made
to fail. When they all work again it goes through, and what counts is as if it had been
carried out at once: the steps, but for the time noted on them, and the statuses that each
of them had, the statuses of the loans, the charges, the balances, and the lien of the loan. -/
theorem failed_attempts_resume {desk spoiled done : Desk} {command : Command} {loan : LoanId} {answer : Answer}
    (reachable : Reachable settings desk) (decides : command.decides = some loan)
    (distinct : ((desk.ledger.chargesOf loan).map (·.id)).Nodup)
    (issued : ∀ record, desk.ledger.loan? loan = some record → ∀ transaction, record.lien = some transaction →
      transaction ≤ desk.ledger.lastTransaction)
    (undisturbed : (Desk.engine settings now).perform command (desk.withFailing []) = .ok answer done)
    (exactly : (Desk.exactEngine settings now).perform command (desk.withFailing []) = .ok answer done)
    (attempts : Attempts settings command desk spoiled) (later : Timestamp) :
    ∃ reply final, (Desk.engine settings later).perform command (spoiled.withFailing []) = .ok reply final ∧
      Concurs loan done.ledger final.ledger ∧
      (∀ loan, (final.chains.stepsOf loan).map Step.undated = (done.chains.stepsOf loan).map Step.undated) ∧
      (∀ step, (final.chains.historyOf step).map (·.status) = (done.chains.historyOf step).map (·.status)) ∧
      (later = now → final.chains = done.chains) := by
  have orderly := reachable.orderly.withFailing []
  have fit : (desk.withFailing []).ledger.Fit loan := ⟨rfl, orderly.ledger, distinct, issued⟩
  obtain ⟨stage, stages, resumes⟩ := perform_resumes orderly fit decides undisturbed exactly
  have first : Stages desk.ledger stage :=
    ⟨stages.alike _ _ (alike_withFailing (desk.withFailing []).ledger desk.ledger.failing) stages.first, stages.alike⟩
  obtain ⟨_, chains, directory, reached⟩ := attempts.reach reachable.orderly first
    fun time b chains directory reached apart => (resumes time b chains directory reached apart).imp
      (fun _ _ _ => trivial) fun _ _ left => left.2
  have ends := resumes later (spoiled.withFailing []) chains directory
    (stages.alike _ _ (alike_withFailing spoiled.ledger []) reached) nofun
  obtain ⟨reply, final, went, concurs, redated, same⟩ :=
    (ends.imp (fun _ _ finished => finished rfl) fun _ _ left => left.1 rfl).exists_ok
  exact ⟨reply, final, went, concurs, redated.stepsOf, redated.historyOf, same⟩

/-- The last approval of the sample fails once at the disbursal and once at the hold. -/
theorem last_approval_resumes :
    let approve desk := (Desk.engine .standard .epoch).perform (.approve 1 2 "" none none) desk
    ∃ first stop second stop' answer done reply final,
      approve (halfway.withFailing [.disburse]) = .error stop first ∧
      approve (first.withFailing [.hold]) = .error stop' second ∧
      approve (halfway.withFailing []) = .ok answer done ∧ approve (second.withFailing []) = .ok reply final ∧
      Concurs 1 done.ledger final.ledger ∧ final.chains = done.chains := by
  intro approve
  obtain ⟨first, stop, second, stop', failedFirst, failedAgain⟩ : ∃ first stop second stop',
      approve (halfway.withFailing [.disburse]) = .error stop first ∧
      approve (first.withFailing [.hold]) = .error stop' second := ⟨_, _, _, _, rfl, rfl⟩
  obtain ⟨answer, done, undisturbed, exactly⟩ : ∃ answer done, approve (halfway.withFailing []) = .ok answer done ∧
      (Desk.exactEngine .standard .epoch).perform (.approve 1 2 "" none none) (halfway.withFailing []) =
        .ok answer done := ⟨_, _, rfl, rfl⟩
  have attempts : Attempts .standard (.approve 1 2 "" none none) halfway second :=
    .again (.again .none .epoch _ (by decide) _ failedFirst) .epoch _ (by decide) _ failedAgain
  obtain ⟨reply, final, went, concurs, _, _, same⟩ := failed_attempts_resume halfway_reachable rfl
    (by decide +kernel) (by decide +kernel) undisturbed exactly attempts .epoch
  exact ⟨first, stop, second, stop', answer, done, reply, final, failedFirst, failedAgain, undisturbed, went, concurs,
    same rfl⟩

end Desk

end Countersign
