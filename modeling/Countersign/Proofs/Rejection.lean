import Countersign.Proofs.CommandAgain
import Countersign.Proofs.LienKeeping
import Countersign.Proofs.Retention

/-!
Rejecting, call by call. A loan that does not await approval is first forced back to where it
does, and rejected from there; its lien is released after that. So a rejection that fails leaves
the status that the loan had, or a rejected loan, or a loan that was forced back and no more. Where
no operation fails, nothing stands in the way of a rejection but a lien without a linked account.
-/

namespace Countersign

theorem ChainStore.Regular.rejection_stored {store : ChainStore} {loan : LoanId} {step : Step} (regular : store.Regular)
    (mem : step ∈ store.chainOf loan) (now : Timestamp) :
    ∃ after, store.commit (Batch.empty.transition step .rejected now) = .ok after ∧
      after.find? step.id = some { step with status := .rejected, modified := now } := by
  let batch := Batch.empty.transition step .rejected now
  let rejected : Step := { step with status := .rejected, modified := now }
  have known : ∀ update ∈ batch.updates, ∃ stored ∈ store.chainOf loan, Succeeds update stored := by
    intro update listed
    cases List.mem_singleton.mp listed
    exact ⟨step, mem, rfl, rfl, rfl⟩
  obtain ⟨after, committed, revised⟩ := commit_revises regular.sound known
  have stored : rejected ∈ after.chainOf loan := by
    rw [revised.chain]
    exact List.mem_map.mpr ⟨step, mem, if_pos rfl⟩
  exact ⟨after, committed, (revised.sound.find?_eq_some_iff ..).mpr ⟨(mem_chainOf.mp stored).1, rfl⟩⟩

namespace Engine

open Desk (Declined Orderly Through)
open Ledger (Path)

/-- How a loan may fail to be rejected in the ledger, and what is left then. -/
inductive Unrefused (loan : Loan) (desk : Desk) : Stop → Desk → Prop where
  | unrepaired (failing : .forceStatus ∈ desk.ledger.failing) :
      Unrefused loan desk (.failed (.ledgerFailed .repairStatus)) desk
  | awaiting (failing : .reject ∈ desk.ledger.failing) (pending : loan.status = .submittedAndPendingApproval) :
      Unrefused loan desk (.failed (.ledgerFailed .rejectLoan)) desk
  /-- The loan was forced back, and stays there. -/
  | repaired (failing : .reject ∈ desk.ledger.failing) (elsewhere : loan.status ≠ .submittedAndPendingApproval)
      (unsettled : loan.status ≠ .rejected) :
      Unrefused loan desk (.failed (.ledgerFailed .rejectLoan))
        { desk with
          ledger := desk.ledger.passed loan.id loan .submittedAndPendingApproval
            (.forceStatus loan.id .submittedAndPendingApproval) }

/-- How the lien of a loan may fail to be released: the ledger is then as it was. -/
inductive Unreleased (loan : LoanId) (desk : Desk) : Stop → Desk → Prop where
  | overflow (what : Decimal.Overflow) : Unreleased loan desk (.overflow what) desk
  | unanswered (failing : .findAccount ∈ desk.ledger.failing) :
      Unreleased loan desk (.failed (.ledgerFailed .findAccount)) desk
  | unlinked (pledged : desk.ledger.lienOf loan ≠ none) (missing : desk.ledger.links.get? loan = none) :
      Unreleased loan desk (.failed (.ledgerFailed .findAccount)) desk
  | held (failing : .release ∈ desk.ledger.failing) : Unreleased loan desk (.failed (.ledgerFailed .releaseLien)) desk

/-- How a rejection may be stopped: at its note, in the ledger, or at the lien of the loan that the
ledger has rejected by then. -/
inductive Unrejected (loan : Loan) (desk : Desk) (stop : Stop) (after : Desk) : Prop where
  | note (failing : .appendNote ∈ desk.ledger.failing) (task : stop = .failed (.ledgerFailed .appendNote))
      (same : after = desk)
  | refusal (noted : Desk) (through : Through (Path loan.id) desk noted)
      (sameLoans : noted.ledger.loans = desk.ledger.loans) (unrefused : Unrefused loan noted stop after)
  | release (refused : Desk) (through : Through (Path loan.id) desk refused)
      (rejected : refused.ledger.loans.get? loan.id = some { loan with status := .rejected })
      (unreleased : Unreleased loan.id refused stop after)

variable (settings : Settings) (now : Timestamp)

theorem refuseLoan_stops {loan : Loan} {desk : Desk} (note : String)
    (found : desk.ledger.loans.get? loan.id = some loan) :
    Ends ((Desk.engine settings now).refuseLoan loan note) desk (fun _ _ => True) (Unrefused loan desk) := by
  unfold refuseLoan
  split
  next => trivial
  next unsettled =>
    apply (repairStatus_ends settings now found).andThen
    · intro _ _ ended
      rcases ended with ⟨pending, rfl⟩ | ⟨elsewhere, rfl⟩
      · refine (rejectLoan_ends settings now found pending note).andThen (fun _ _ _ => trivial) ?_
        intro _ _ ended
        obtain ⟨rfl, failing, rfl⟩ := ended
        exact .awaiting failing pending
      · refine (rejectLoan_ends settings now (Table.get?_insert_self ..) rfl note).andThen (fun _ _ _ => trivial) ?_
        intro _ _ ended
        obtain ⟨rfl, failing, rfl⟩ := ended
        exact .repaired failing elsewhere unsettled
    · intro _ _ ended
      obtain ⟨rfl, failing, rfl⟩ := ended
      exact .unrepaired failing

theorem releaseLien_stops {loan record : Loan} {desk : Desk} (found : desk.ledger.loans.get? loan.id = some record)
    (sameLien : record.lien = loan.lien) :
    Ends ((Desk.engine settings now).releaseLien loan) desk (fun _ _ => True) (Unreleased loan.id desk) := by
  unfold releaseLien
  cases pledge : loan.lien with
  | none => trivial
  | some lien =>
    have pledged : desk.ledger.lienOf loan.id ≠ none := by
      rw [Ledger.lienOf_of_get? found, sameLien, pledge]
      exact Option.some_ne_none lien
    -- The loan is known, so its lien can be recorded.
    have records (freed : Desk) (known : freed.ledger.loans.get? loan.id = some record) :
        Ends (do
          Work.demand .recordLien ((Desk.engine settings now).services.setLien loan.id none)
          pure [Change.released lien]) freed (fun _ _ => True) (Unreleased loan.id desk) := by
      refine (demand_ends _ (Ledger.setLien_ends loan.id none freed.ledger)).andThen (fun _ _ _ => trivial) ?_
      intro _ _ ended
      rcases ended with ⟨_, _, ⟨_, _, missing, _⟩ | ⟨_, _, missing, _⟩⟩ <;> cases known.symm.trans missing
    apply (demand_ends _ (Ledger.findAccount_ends loan.id desk.ledger)).andThen
    · intro account _ ended
      obtain ⟨_, rfl, _, linked, rfl⟩ := ended
      have releases := (Ledger.release_replies account lien desk).and
        (onLedger_ends (Ledger.release_ends account lien desk.ledger))
      apply releases.andThen
      · intro _ _ ended
        obtain ⟨⟨_, rfl, replied⟩, _⟩ := ended
        cases replied with
        | freed there released => exact records _ found
        | missing what gone => exact records _ found
        | failing failing => exact .held failing
      · intro _ _ ended
        obtain ⟨_, _, rfl, what, rfl, _, rfl⟩ := ended
        exact .overflow what
    · intro _ _ ended
      obtain ⟨_, rfl, ⟨_, rfl, ⟨failing, _⟩ | ⟨missing, _⟩, rfl⟩ | ⟨_, _, ⟨_, is⟩ | ⟨_, is⟩, _⟩⟩ := ended
      · exact .unanswered failing
      · exact .unlinked pledged missing
      · cases is
      · cases is

theorem rejectPart_stops {loan : Loan} {desk : Desk} (step : Step) (note : String)
    (found : desk.ledger.loans.get? loan.id = some loan) :
    Ends ((Desk.engine settings now).rejectPart step loan note) desk (fun _ _ => True) (Unrejected loan desk) := by
  unfold rejectPart
  apply (leaveNote_ends settings now loan.id note desk).andThen
  · intro _ noted ended
    obtain ⟨through, sameLoans⟩ : Through (Path loan.id) desk noted ∧ noted.ledger.loans = desk.ledger.loans := by
      rcases ended with rfl | ⟨text, rfl⟩
      · exact ⟨.refl _ _, rfl⟩
      · exact ⟨(through_noted loan.id text desk).path, rfl⟩
    rw [← sameLoans] at found
    apply ((refuseLoan_ends settings now note found).and (refuseLoan_stops settings now note found)).andThen
    · intro _ refused ended
      obtain ⟨⟨rejected, later⟩, _⟩ := ended
      refine (releaseLien_stops settings now rejected rfl).andThen (fun _ _ _ => trivial) ?_
      exact fun _ _ unreleased => .release refused (through.trans later) rejected unreleased
    · exact fun _ _ ended => .refusal noted through sameLoans ended.2
  · intro _ _ ended
    obtain ⟨rfl, failing | missing, rfl⟩ := ended
    · exact .note failing rfl rfl
    · cases found.symm.trans missing

theorem carryOut_rejects {desk : Desk} {loan : Loan} {step : Step} (orderly : desk.Orderly)
    (mem : step ∈ desk.chains.chainOf loan.id) (found : desk.ledger.loans.get? loan.id = some loan) (note : String) :
    Ends ((Desk.engine settings now).carryOut loan.id step.id ((Desk.engine settings now).rejectPart step loan note)) desk
      (fun _ after => after.chains.find? step.id = some { step with status := .rejected, modified := now } ∧
        after.ledger.loans.get? loan.id = some { loan with status := .rejected, lien := none })
      (Unrejected loan desk) := by
  have part := (rejectPart_ends settings now step note found).and (rejectPart_stops settings now step note found)
  refine (carryOut_ends settings now part ?_).imp (fun _ _ ended => ended) fun _ _ ended => ended.2
  intro answered after ended
  obtain ⟨batch, changes⟩ := answered
  obtain ⟨⟨rfl, rejected, through⟩, _⟩ := ended
  obtain ⟨chains, committed, stored⟩ := orderly.chains.rejection_stored mem now
  exact ⟨chains, through.chains ▸ committed, stored, rejected⟩

theorem reject_stops {desk : Desk} (orderly : desk.Orderly) (loan : LoanId) (step : StepId) (note : String) :
    Ends ((Desk.engine settings now).reject loan step note) desk (fun _ _ => True)
      fun stop after => Declined desk stop after ∨ ∃ record, record.id = loan ∧
        desk.ledger.loans.get? loan = some record ∧ Unrejected record desk stop after := by
  refine openStep_andThen settings now orderly (fun _ _ => Or.inl) ?_
  intro step mem _
  refine requireLoan_andThen settings now orderly (fun _ _ => Or.inl) ?_
  intro record same found
  subst same
  refine (carryOut_rejects settings now orderly mem found note).imp (fun _ _ _ => trivial) ?_
  exact fun _ _ unrejected => Or.inr ⟨record, rfl, found, unrejected⟩

/-- What the status of a loan is after a rejection that was stopped. -/
theorem Unrejected.status {loan : Loan} {desk after : Desk} {stop : Stop}
    (unrejected : Unrejected loan desk stop after) :
    after.ledger.statusOf loan.id = desk.ledger.statusOf loan.id ∨ after.ledger.statusOf loan.id = some .rejected ∨
      stop = .failed (.ledgerFailed .rejectLoan) ∧ .reject ∈ desk.ledger.failing ∧
        after.ledger.statusOf loan.id = some .submittedAndPendingApproval := by
  cases unrejected with
  | note failing task same => exact Or.inl (same ▸ rfl)
  | refusal noted through sameLoans unrefused =>
    have sameStatus : noted.ledger.statusOf loan.id = desk.ledger.statusOf loan.id := by
      rw [Ledger.statusOf, Ledger.statusOf, Ledger.loan?, Ledger.loan?, sameLoans]
    cases unrefused with
    | unrepaired failing => exact Or.inl sameStatus
    | awaiting failing pending => exact Or.inl sameStatus
    | repaired failing elsewhere unsettled =>
      exact Or.inr (Or.inr ⟨rfl, through.ledger.failing ▸ failing, Ledger.statusOf_insert ..⟩)
  | release refused through rejected unreleased =>
    have status : refused.ledger.statusOf loan.id = some .rejected := Ledger.statusOf_found rejected
    cases unreleased <;> exact Or.inr (Or.inl status)

/-- Where no operation fails, only a sum or a lien without an account stops a rejection. -/
theorem Unrejected.works {loan : Loan} {desk after : Desk} {stop : Stop} (unrejected : Unrejected loan desk stop after)
    (found : desk.ledger.loans.get? loan.id = some loan) (working : desk.ledger.failing = []) :
    stop.Overflows ∨ stop = .failed (.ledgerFailed .findAccount) ∧ desk.ledger.lienOf loan.id ≠ none ∧
      desk.ledger.links.get? loan.id = none := by
  have works {failing : List LedgerOp} (same : failing = desk.ledger.failing) (op : LedgerOp) : op ∉ failing := by
    rw [same, working]
    exact List.not_mem_nil
  cases unrejected with
  | note failing task same => exact absurd failing (works rfl _)
  | refusal noted through sameLoans unrefused =>
    have none := works through.ledger.failing
    cases unrefused with
    | unrepaired failing => exact absurd failing (none _)
    | awaiting failing pending => exact absurd failing (none _)
    | repaired failing elsewhere unsettled => exact absurd failing (none _)
  | release refused through rejected unreleased =>
    have none := works through.ledger.failing
    cases unreleased with
    | overflow what => exact Or.inl ⟨what, rfl⟩
    | unanswered failing => exact absurd failing (none _)
    | unlinked pledged missing =>
      rw [Ledger.lienOf_of_get? rejected] at pledged
      rw [through.ledger.links] at missing
      exact Or.inr ⟨rfl, Ledger.lienOf_of_get? found ▸ pledged, missing⟩
    | held failing => exact absurd failing (none _)

end Engine

namespace Desk

variable {settings : Settings} {desk : Desk}

/-- A rejection that fails leaves the status that the loan had, or a rejected loan, unless it was the
rejection in the ledger that failed: then a loan that had to be forced back awaits approval. -/
theorem failed_rejection_status (reachable : Reachable settings desk) (failing : List LedgerOp) (now : Timestamp)
    (loan : LoanId) (step : StepId) (note : String) (error : CommandError) (after : Desk)
    (failed : (Desk.engine settings now).perform (.reject loan step note) (desk.withFailing failing) =
      .error (.failed error) after) :
    after.ledger.statusOf loan = desk.ledger.statusOf loan ∨ after.ledger.statusOf loan = some .rejected ∨
      error = .ledgerFailed .rejectLoan ∧ .reject ∈ failing ∧
        after.ledger.statusOf loan = some .submittedAndPendingApproval := by
  have orderly := reachable.orderly.withFailing failing
  have ends : Ends ((Desk.engine settings now).perform (.reject loan step note)) (desk.withFailing failing)
      (fun _ _ => True) fun stop after => Declined (desk.withFailing failing) stop after ∨ ∃ record, record.id = loan ∧
        desk.ledger.loans.get? loan = some record ∧ Engine.Unrejected record (desk.withFailing failing) stop after :=
    (Engine.reject_stops settings now orderly loan step note).andThen (fun _ _ _ => trivial) fun _ _ ended => ended
  rcases ends.of_error failed with declined | ⟨record, rfl, found, unrejected⟩
  · rw [declined.same]
    exact Or.inl rfl
  · rcases unrejected.status with same | rejected | ⟨is, failing, status⟩
    · exact Or.inl same
    · exact Or.inr (Or.inl rejected)
    · cases is
      exact Or.inr (Or.inr ⟨rfl, failing, status⟩)

/-- With releases failing, the approved loan of the sample is rejected all the same. -/
theorem halfway_rejection_status :
    ∃ error after, (Desk.engine .standard .epoch).perform (.reject 1 2 "") (halfway.withFailing [.release]) =
      .error (.failed error) after ∧
      (after.ledger.statusOf 1 = halfway.ledger.statusOf 1 ∨ after.ledger.statusOf 1 = some .rejected ∨
        error = .ledgerFailed .rejectLoan ∧ .reject ∈ [LedgerOp.release] ∧
          after.ledger.statusOf 1 = some .submittedAndPendingApproval) :=
  ⟨_, _, rfl, failed_rejection_status halfway_reachable [.release] .epoch 1 2 "" _ _ rfl⟩

/-- On every run in which no operation is made to fail, the pending step of a loan can be rejected,
whatever the status of the loan, unless it has a lien and no linked account: the step is rejected then,
and so is the loan, which has no lien any more. -/
theorem pending_step_rejected {setup : Setup} {start : Desk} (installed : setup.install .empty = .ok () start)
    (events : List Event) (untouched : ∀ op, .failOn op ∉ events) {loan : LoanId} {step : Step}
    (mem : step ∈ (start.run setup.settings events).chains.stepsOf loan) (pending : step.status = .pending)
    (now : Timestamp) (note : String) :
    let desk := start.run setup.settings events
    Ends ((Desk.engine setup.settings now).perform (.reject loan step.id note)) desk
      (fun _ after => after.chains.find? step.id = some { step with status := .rejected, modified := now } ∧
        after.ledger.statusOf loan = some .rejected ∧ after.ledger.lienOf loan = none)
      fun stop _ => stop.Overflows ∨
        stop = .failed (.ledgerFailed .findAccount) ∧ desk.ledger.lienOf loan ≠ none ∧
          desk.ledger.links.get? loan = none := by
  intro desk
  have opening := Setup.opens installed
  have reachable : Reachable setup.settings desk := ⟨setup, start, events, rfl, installed, rfl⟩
  have orderly := reachable.orderly
  have working : desk.ledger.failing = [] := run_works events untouched opening.orderly opening.working
  rw [orderly.chains.stepsOf_eq] at mem
  obtain ⟨stored, owned⟩ := ChainStore.mem_chainOf.mp mem
  obtain ⟨record, found⟩ := reachable.founded.loans loan (List.ne_nil_of_mem mem)
  have waits := (orderly.chains.sound.find?_eq_some_iff ..).mpr ⟨stored, rfl⟩
  obtain rfl := orderly.ledger.keyed loan record found
  have rejects : Ends ((Desk.engine setup.settings now).reject record.id step.id note) desk
      (fun _ after => after.chains.find? step.id = some { step with status := .rejected, modified := now } ∧
        after.ledger.loans.get? record.id = some { record with status := .rejected, lien := none })
      (Engine.Unrejected record desk) := by
    apply (Engine.openStep_finds setup.settings now waits owned pending).certainly
    intro _ _ ended
    obtain ⟨rfl, rfl⟩ := ended
    apply (Engine.requireLoan_finds setup.settings now found).certainly
    intro _ _ ended
    obtain ⟨rfl, rfl⟩ := ended
    exact Engine.carryOut_rejects setup.settings now orderly mem found note
  refine rejects.andThen ?_ fun _ _ unrejected => unrejected.works found working
  intro _ after ended
  obtain ⟨rejected, known⟩ := ended
  exact ⟨rejected, Ledger.statusOf_found known, Ledger.lienOf_of_get? known⟩

/-- The second step of the sample, with the loan approved and a lien on its account. -/
theorem halfway_rejected :
    ∃ answer after, (Desk.engine .standard .epoch).perform (.reject 1 2 "") halfway = .ok answer after ∧
      after.ledger.statusOf 1 = some .rejected ∧ after.ledger.lienOf 1 = none := by
  have pending : ∃ step ∈ halfway.chains.stepsOf 1, step.id = 2 ∧ step.status = .pending := by decide +kernel
  obtain ⟨step, mem, two, waits⟩ := pending
  have ends := pending_step_rejected sample_installed _ (by simp) mem waits .epoch ""
  rw [two] at ends
  exact ⟨_, _, rfl, (ends.of_ok rfl).2⟩

end Desk

def Setup.active : Setup :=
  { sample with loans := sample.loans.map fun entry => { entry with loan := { entry.loan with status := .active } } }

def Desk.active : Desk :=
  match Setup.active.install .empty with
  | .ok _ desk => desk
  | .error _ desk => desk

/-- There a rejection that fails leaves the loan as one that awaits approval. The approvals that
follow pay it out, as they would not have done before. -/
theorem Desk.active_forced_back :
    let approve (step : StepId) : Event := .command .epoch (.approve 1 step "" none none)
    let built := active.run .standard [.command .epoch (.build 1), .failOn .reject]
    Setup.active.install .empty = .ok () active ∧ built.ledger.statusOf 1 = some .active ∧
      (built.run .standard [approve 1, approve 2]).ledger.count .disburse = 0 ∧
      ∃ after, (Desk.engine .standard .epoch).perform (.reject 1 1 "") built =
          .error (.failed (.ledgerFailed .rejectLoan)) after ∧
        after.ledger.statusOf 1 = some .submittedAndPendingApproval ∧
        (after.run .standard [approve 1, approve 2]).ledger.count .disburse = 1 :=
  ⟨rfl, by decide +kernel, by decide +kernel, _, rfl, by decide +kernel, by decide +kernel⟩

def Setup.unlinked : Setup :=
  { sample with
    loans := sample.loans.map fun entry =>
      { entry with loan := { entry.loan with lien := some 3 }, savings := none } }

def Desk.unlinked : Desk :=
  match Setup.unlinked.install .empty with
  | .ok _ desk => desk
  | .error _ desk => desk

/-- There no rejection goes through: the loan is rejected, its lien stays, and so does the pending step. -/
theorem Desk.unlinked_not_rejected :
    let desk := unlinked.run .standard [.command .epoch (.build 1)]
    Setup.unlinked.install .empty = .ok () unlinked ∧ (desk.chains.stepsOf 1).map (·.status) = [.pending, .queue] ∧
      ∃ after, (Desk.engine .standard .epoch).perform (.reject 1 1 "") desk =
          .error (.failed (.ledgerFailed .findAccount)) after ∧
        (after.chains.stepsOf 1).map (·.status) = [.pending, .queue] ∧
        after.ledger.statusOf 1 = some .rejected ∧ after.ledger.lienOf 1 = some 3 :=
  ⟨rfl, by decide +kernel, _, rfl, by decide +kernel, by decide +kernel, by decide +kernel⟩

end Countersign
