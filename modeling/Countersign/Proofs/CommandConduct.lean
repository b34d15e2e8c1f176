import Countersign.Proofs.Run
import Countersign.Proofs.SettlementCourse

/-!
What a command does in the ledger, told by its deeds. It files what it decides and then
settles what follows from it. A command that is done has settled nothing or everything; one
that fails leaves the settlement where it can rest. So what is kept from one such place to
the next, every run in which all sums fit keeps.
-/

namespace Countersign

open Ledger (Deed Deeds Standing Filing Filings Conduct)
open Desk (Settles Rests)

/-- The loan that a command is about; a scan looks at all of them. -/
def Command.loan? : Command → Option LoanId
  | .scan => none
  | .build loan => some loan
  | .approve loan _ _ _ _ => some loan
  | .reject loan _ _ => some loan
  | .undo loan _ _ _ => some loan
  | .reassign loan _ _ _ => some loan

def Event.loan? : Event → Option LoanId
  | .command _ called => called.loan?
  | .failOn _ => none
  | .heal _ => none

def Desk.Conducts (scale : Nat) (loan : LoanId) (reach : Standing → Prop) (before after : Desk) : Prop :=
  ∃ standing, reach standing ∧ Conduct scale loan before.ledger standing after.ledger

/-- Where the ledger fails a command, the settlement is left where it can rest. -/
def Desk.Aborts (scale : Nat) (loan : LoanId) (before : Desk) (stop : Stop) (after : Desk) : Prop :=
  ∀ task, stop = .failed (.ledgerFailed task) → Conducts scale loan Standing.Resting before after

namespace Desk

variable {scale : Nat} {loan : LoanId} {reach : Standing → Prop} {before filed after : Desk} {stop : Stop}

theorem Conducts.of_filings (begun : reach .begun) (filings : Filings loan before.ledger after.ledger) :
    Conducts scale loan reach before after :=
  ⟨.begun, begun, .intro filings .nothing⟩

theorem Conducts.of_settles {standing : Standing} (reached : reach standing)
    (filings : Filings loan before.ledger filed.ledger) (settles : Settles scale loan .begun filed standing after) :
    Conducts scale loan reach before after :=
  ⟨standing, reached, .intro filings settles.ledger⟩

theorem Conducts.idle (begun : reach .begun) (same : after.ledger = before.ledger) :
    Conducts scale loan reach before after :=
  .of_filings begun (same ▸ .refl)

theorem Aborts.of_filings (filings : Filings loan before.ledger after.ledger) :
    Aborts scale loan before stop after :=
  fun _ _ => .of_filings .begun filings

theorem Aborts.of_rests (filings : Filings loan before.ledger filed.ledger)
    (rests : stop.Overflows ∨ Rests scale loan filed after) : Aborts scale loan before stop after := by
  intro task failed
  rcases rests with overflows | ⟨standing, resting, settles⟩
  · exact absurd failed (overflows.not_failed _)
  · exact .of_settles resting filings settles

theorem Declined.aborts (declined : Declined before stop after) : Aborts scale loan before stop after :=
  .of_filings (declined.same ▸ .refl)

end Desk

namespace Engine

open Desk (Conducts Aborts Orderly)

variable (settings : Settings) (now : Timestamp)

/-! The parts of the decisions. -/

theorem leaveNote_files {α : Type} {loan : LoanId} {note : String} {desk : Desk} {next : Work Desk α}
    {done : α → Desk → Prop} {stopped : Stop → Desk → Prop}
    (rest : ∀ noted, Filings loan desk.ledger noted.ledger → noted.ledger.loans = desk.ledger.loans →
      Ends next noted done stopped)
    (halt : ∀ stop, stopped stop desk) :
    Ends (do (Desk.engine settings now).leaveNote loan note; next) desk done stopped := by
  apply (leaveNote_ends settings now loan note desk).andThen
  · intro _ _ ended
    rcases ended with rfl | ⟨text, rfl⟩
    · exact rest _ .refl rfl
    · exact rest _ (.single (.note text)) rfl
  · intro stop _ ended
    obtain ⟨_, _, rfl⟩ := ended
    exact halt stop

theorem approvePart_conducts {loan : Loan} {desk : Desk} (step : Step) (steps : List Step) (note : String)
    (date : ValueDate) (payment : Option PaymentTypeId) (found : desk.ledger.loans.get? loan.id = some loan) :
    Ends ((Desk.engine settings now).approvePart step loan steps note date payment) desk
      (fun _ after => Conducts settings.moneyScale loan.id Standing.Done desk after)
      (Aborts settings.moneyScale loan.id desk) := by
  unfold approvePart
  refine leaveNote_files settings now ?_ fun _ => .of_filings .refl
  intro noted filings sameLoans
  rw [← sameLoans] at found
  apply (submitFirst_ends settings now step date note found).andThen
  · intro submitted ready ended
    obtain ⟨record, known, sameLien, filed⟩ : ∃ record, ready.ledger.loans.get? loan.id = some record ∧
        record.lien = loan.lien ∧ Filings loan.id desk.ledger ready.ledger := by
      rcases ended with ⟨_, rfl⟩ | ⟨_, pending, rfl⟩
      · exact ⟨loan, found, rfl, filings⟩
      · refine ⟨_, Table.get?_insert_self .., rfl, filings.tail (.pass found ?_)⟩
        rw [pending]
        exact .submitted _ _
    unfold advance
    cases queuedAbove steps step.rank with
    | some next => exact .of_filings .begun filed
    | none =>
      by_cases active : loan.status = .active
      · dsimp only
        rw [if_pos active]
        exact .of_filings .begun filed
      · dsimp only
        rw [if_neg active, bind_assoc]
        apply (disburse_settles settings now known sameLien date payment note).andThen
        · exact fun _ _ settles => .of_settles .closed filed settles
        · exact fun _ _ rests => .of_rests filed rests
  · intro _ _ ended
    obtain ⟨_, _, _, rfl⟩ := ended
    exact .of_filings filings

theorem refuseLoan_files {loan : Loan} {desk : Desk} (note : String)
    (found : desk.ledger.loans.get? loan.id = some loan) :
    Ends ((Desk.engine settings now).refuseLoan loan note) desk
      (fun _ after => Filings loan.id desk.ledger after.ledger ∧
        after.ledger.loans.get? loan.id = some { loan with status := .rejected })
      fun _ after => Filings loan.id desk.ledger after.ledger := by
  unfold refuseLoan
  split
  next rejected =>
    refine ⟨.refl, found.trans ?_⟩
    rw [← rejected]
  next unsettled =>
    have refuses {repaired : Desk} {record : Loan} (known : repaired.ledger.loans.get? loan.id = some record)
        (pending : record.status = .submittedAndPendingApproval)
        (filings : Filings loan.id desk.ledger repaired.ledger) :
        Ends (Work.demand .rejectLoan ((Desk.engine settings now).services.reject loan.id .today note)) repaired
          (fun _ after => Filings loan.id desk.ledger after.ledger ∧
            after.ledger.loans.get? loan.id = some { record with status := .rejected })
          fun _ after => Filings loan.id desk.ledger after.ledger := by
      apply (rejectLoan_ends settings now known pending note).imp
      · intro _ _ same
        obtain rfl := same
        refine ⟨filings.tail (.pass known ?_), Table.get?_insert_self ..⟩
        rw [pending]
        exact .rejected
      · intro _ _ ended
        obtain ⟨_, _, rfl⟩ := ended
        exact filings
    apply (repairStatus_ends settings now found).andThen
    · intro _ _ ended
      rcases ended with ⟨pending, rfl⟩ | ⟨_, rfl⟩
      · exact (refuses found pending .refl).andThen (fun _ _ ended => ended) fun _ _ ended => ended
      · let repaired : Desk := { desk with
          ledger := desk.ledger.passed loan.id loan .submittedAndPendingApproval
            (.forceStatus loan.id .submittedAndPendingApproval) }
        have known : repaired.ledger.loans.get? loan.id = some { loan with status := .submittedAndPendingApproval } :=
          Table.get?_insert_self ..
        have forced : Filings loan.id desk.ledger repaired.ledger := .single (.pass found (.forced loan.status))
        exact (refuses known rfl forced).andThen (fun _ _ ended => ended) fun _ _ ended => ended
    · intro _ _ ended
      obtain ⟨_, _, rfl⟩ := ended
      exact .refl

theorem releaseLien_settles {loan record : Loan} {desk : Desk} (known : desk.ledger.loans.get? loan.id = some record)
    (sameLien : record.lien = loan.lien) (rejected : record.status = .rejected) :
    Ends ((Desk.engine settings now).releaseLien loan) desk
      (fun _ after => Settles settings.moneyScale loan.id .begun desk .closed after)
      fun stop after => stop.Overflows ∨ Rests settings.moneyScale loan.id desk after := by
  have refused : desk.ledger.statusOf loan.id = some .rejected := by
    rw [Ledger.statusOf_found known, rejected]
  have turned : Settles settings.moneyScale loan.id .begun desk (.ending none) desk := .deed (.turnDown refused)
  unfold releaseLien
  cases pledge : loan.lien with
  | none => exact turned.trans (.deed (.close (Or.inr ⟨record, known, sameLien.trans pledge⟩)))
  | some lien =>
    have pledged := sameLien.trans pledge
    have unpledges {freed : Desk} (known : freed.ledger.loans.get? loan.id = some record)
        (settles : Settles settings.moneyScale loan.id .begun desk (.freed none) freed) :
        Ends (do
          Work.demand .recordLien ((Desk.engine settings now).services.setLien loan.id none)
          pure [Change.released lien]) freed
        (fun _ after => Settles settings.moneyScale loan.id .begun desk .closed after)
        fun stop after => stop.Overflows ∨ Rests settings.moneyScale loan.id desk after := by
      apply (demand_ends _ (Ledger.setLien_ends loan.id none freed.ledger)).andThen
      · intro _ _ ended
        obtain ⟨_, rfl, _, same, rfl⟩ := ended
        cases known.symm.trans same
        exact settles.trans (.deed (.exchange known))
      · intro _ _ ended
        rcases ended with ⟨_, rfl, ⟨_, _, missing, _⟩ | ⟨_, _, missing, _⟩⟩ <;> cases known.symm.trans missing
    apply (demand_ends _ (Ledger.findAccount_ends loan.id desk.ledger)).andThen
    · intro account _ ended
      obtain ⟨_, rfl, _, linked, rfl⟩ := ended
      refine (Ledger.release_replies account lien desk).andThen ?_ fun _ _ => Or.inl
      intro _ _ ended
      obtain ⟨_, rfl, replied⟩ := ended
      cases replied with
      | freed found released =>
        have freed : Settles settings.moneyScale loan.id (.ending none) desk (.freed none) _ :=
          .deed (.free known pledged linked found released)
        exact unpledges known (turned.trans freed)
      | missing what gone =>
        have freed : Settles settings.moneyScale loan.id (.ending none) desk (.freed none) desk :=
          .deed (.missing known pledged linked gone)
        exact unpledges known (turned.trans freed)
      | failing failing => exact Or.inr ⟨_, .begun, .nothing desk⟩
    · intro _ _ ended
      rcases ended with ⟨_, rfl, ⟨_, rfl, _, rfl⟩ | ⟨what, rfl, _, rfl⟩⟩
      · exact Or.inr ⟨_, .begun, .nothing desk⟩
      · exact Or.inl ⟨what, rfl⟩

theorem rejectPart_conducts {loan : Loan} {desk : Desk} (step : Step) (note : String)
    (found : desk.ledger.loans.get? loan.id = some loan) :
    Ends ((Desk.engine settings now).rejectPart step loan note) desk
      (fun _ after => Conducts settings.moneyScale loan.id Standing.Done desk after)
      (Aborts settings.moneyScale loan.id desk) := by
  unfold rejectPart
  refine leaveNote_files settings now ?_ fun _ => .of_filings .refl
  intro noted filings sameLoans
  rw [← sameLoans] at found
  apply (refuseLoan_files settings now note found).andThen
  · intro _ _ ended
    obtain ⟨refused, known⟩ := ended
    have filed := filings.trans refused
    apply (releaseLien_settles settings now known rfl rfl).andThen
    · exact fun _ _ settles => .of_settles .closed filed settles
    · exact fun _ _ rests => .of_rests filed rests
  · exact fun _ _ refused => .of_filings (filings.trans refused)

theorem undoPart_conducts {loan : Loan} {desk : Desk} (step target : Step) (note : String)
    (found : desk.ledger.loans.get? loan.id = some loan) :
    Ends ((Desk.engine settings now).undoPart step target loan note) desk
      (fun _ after => Conducts settings.moneyScale loan.id Standing.Done desk after)
      (Aborts settings.moneyScale loan.id desk) := by
  unfold undoPart
  refine leaveNote_files settings now ?_ fun _ => .of_filings .refl
  intro noted filings sameLoans
  rw [← sameLoans] at found
  apply (undoSubmission_ends settings now note found).andThen
  · intro _ _ ended
    rcases ended with ⟨_, rfl⟩ | ⟨approved, rfl⟩
    · exact .of_filings .begun filings
    · refine .of_filings .begun (filings.tail (.pass found ?_))
      rw [approved]
      exact .undone
  · intro _ _ ended
    obtain ⟨_, _, rfl⟩ := ended
    exact .of_filings filings

theorem reassignPart_conducts (step : Step) (loan : LoanId) (note : String) (approver : ApproverId) (desk : Desk) :
    Ends ((Desk.engine settings now).reassignPart step loan note approver) desk
      (fun _ after => Conducts settings.moneyScale loan Standing.Done desk after)
      (Aborts settings.moneyScale loan desk) := by
  unfold reassignPart
  refine leaveNote_files settings now ?_ fun _ => .of_filings .refl
  exact fun noted filings _ => .of_filings .begun filings

/-! The commands. -/

theorem carryOut_conducts {scale : Nat} {loan : LoanId} {step : StepId} {part : Work Desk (Batch × List Change)}
    {desk : Desk} (conducts : Ends part desk (fun _ after => Conducts scale loan Standing.Done desk after)
      (Aborts scale loan desk)) :
    Ends ((Desk.engine settings now).carryOut loan step part) desk
      (fun _ after => Conducts scale loan Standing.Done desk after) (Aborts scale loan desk) := by
  refine conducts.andThen ?_ fun _ _ aborts => aborts
  intro answered after conducted
  obtain ⟨batch, changes⟩ := answered
  apply (ends_bind _ _ _ _ _).mpr
  change Ends (Desk.commit batch) after _ _
  unfold Ends Desk.commit
  cases committed : after.chains.commit batch with
  | ok chains => exact conducted
  | error error =>
    intro task failed
    cases failed
    unfold ChainStore.commit at committed
    split at committed <;> cases committed

variable {desk : Desk}

theorem build_conducts (regular : desk.chains.Regular) (loan : LoanId) :
    Ends ((Desk.engine settings now).build loan) desk
      (fun _ after => Conducts settings.moneyScale loan Standing.Done desk after)
      (Aborts settings.moneyScale loan desk) := by
  refine (build_ends settings now regular loan).imp ?_ fun _ _ declined => declined.aborts
  intro _ _ ended
  rcases ended with same | built
  · exact .idle .begun (congrArg _ same)
  · exact .idle .begun built.ledger

theorem scan_idles (regular : desk.chains.Regular) :
    Ends (Desk.engine settings now).scan desk (fun _ after => after.ledger = desk.ledger) fun _ _ => False := by
  refine (scan_ends settings now regular).imp ?_ fun _ _ no => no
  intro _ after builds
  induction builds with
  | refl => rfl
  | tail _ build ih =>
    obtain ⟨_, built⟩ := build
    exact built.ledger.trans ih

theorem approve_conducts (orderly : desk.Orderly) (loan : LoanId) (step : StepId) (note : String)
    (date : Option Date) (payment : Option PaymentTypeId) :
    Ends ((Desk.engine settings now).approve loan step note date payment) desk
      (fun _ after => Conducts settings.moneyScale loan Standing.Done desk after)
      (Aborts settings.moneyScale loan desk) := by
  refine openStep_andThen settings now orderly (fun _ _ declined => declined.aborts) ?_
  intro step _ _
  refine requireLoan_andThen settings now orderly (fun _ _ declined => declined.aborts) ?_
  intro loan same found
  subst same
  apply read_andThen
  exact carryOut_conducts settings now (approvePart_conducts settings now step _ note _ payment found)

theorem reject_conducts (orderly : desk.Orderly) (loan : LoanId) (step : StepId) (note : String) :
    Ends ((Desk.engine settings now).reject loan step note) desk
      (fun _ after => Conducts settings.moneyScale loan Standing.Done desk after)
      (Aborts settings.moneyScale loan desk) := by
  refine openStep_andThen settings now orderly (fun _ _ declined => declined.aborts) ?_
  intro step _ _
  refine requireLoan_andThen settings now orderly (fun _ _ declined => declined.aborts) ?_
  intro loan same found
  subst same
  exact carryOut_conducts settings now (rejectPart_conducts settings now step note found)

theorem undo_conducts (orderly : desk.Orderly) (loan : LoanId) (step : StepId) (note : String)
    (target : Option StepId) :
    Ends ((Desk.engine settings now).undo loan step note target) desk
      (fun _ after => Conducts settings.moneyScale loan Standing.Done desk after)
      (Aborts settings.moneyScale loan desk) := by
  refine openStep_andThen settings now orderly (fun _ _ declined => declined.aborts) ?_
  intro step _ _
  split
  · exact .of_filings .refl
  · refine (undoTarget_ends settings now loan step target desk).andThen ?_ fun _ _ declined => declined.aborts
    intro found desk ended
    obtain ⟨rfl, _⟩ := ended
    refine requireLoan_andThen settings now orderly (fun _ _ declined => declined.aborts) ?_
    intro loan same known
    subst same
    exact carryOut_conducts settings now (undoPart_conducts settings now step found note known)

theorem reassign_conducts (orderly : desk.Orderly) (loan : LoanId) (step : StepId) (note : String) (approver : ApproverId) :
    Ends ((Desk.engine settings now).reassign loan step note approver) desk
      (fun _ after => Conducts settings.moneyScale loan Standing.Done desk after)
      (Aborts settings.moneyScale loan desk) := by
  refine openStep_andThen settings now orderly (fun _ _ declined => declined.aborts) ?_
  intro step _ _
  split
  · exact .idle .begun rfl
  · apply read_andThen
    split
    · exact .of_filings .refl
    · exact carryOut_conducts settings now (reassignPart_conducts settings now step loan note approver desk)

end Engine

namespace Desk

open Engine

variable (settings : Settings) (now : Timestamp) {desk : Desk}

/-- What a command does in the ledger it does for the loan that it is about, where it is done and
where it fails. -/
theorem perform_conducts_for (orderly : desk.Orderly) (command : Command) {loan : LoanId}
    (about : ∀ other, command.loan? = some other → other = loan) :
    Ends ((Desk.engine settings now).perform command) desk
      (fun _ after => Conducts settings.moneyScale loan Standing.Done desk after)
      fun stop after => ∀ error, stop = .failed error →
        Conducts settings.moneyScale loan Standing.Resting desk after := by
  have single {α : Type} {work : Work Desk α} {wrap : α → Answer}
      (ends : Ends work desk (fun _ after => Conducts settings.moneyScale loan Standing.Done desk after)
        (Aborts settings.moneyScale loan desk)) :
      Ends (do pure (wrap (← work))) desk
        (fun _ after => Conducts settings.moneyScale loan Standing.Done desk after)
        (Aborts settings.moneyScale loan desk) :=
    ends.andThen (fun _ _ conducts => conducts) fun _ _ aborts => aborts
  have aborted : Ends ((Desk.engine settings now).perform command) desk
      (fun _ after => Conducts settings.moneyScale loan Standing.Done desk after)
      (Aborts settings.moneyScale loan desk) := by
    cases command with
    | scan =>
      apply (scan_idles settings now orderly.chains).certainly
      exact fun _ _ same => .idle .begun same
    | build target =>
      obtain rfl := about target rfl
      exact single (build_conducts settings now orderly.chains target)
    | approve target step note date payment =>
      obtain rfl := about target rfl
      exact single (approve_conducts settings now orderly target step note date payment)
    | reject target step note =>
      obtain rfl := about target rfl
      exact single (reject_conducts settings now orderly target step note)
    | undo target step note back =>
      obtain rfl := about target rfl
      exact single (undo_conducts settings now orderly target step note back)
    | reassign target step note approver =>
      obtain rfl := about target rfl
      exact single (reassign_conducts settings now orderly target step note approver)
  refine (aborted.and (perform_ends settings now orderly command)).imp (fun _ _ ended => ended.1) ?_
  intro stop after ended error failed
  obtain ⟨aborts, other, setback⟩ := ended
  subst failed
  cases setback with
  | declined declined => exact .idle .begun (congrArg _ declined.same)
  | halted waiting halted =>
    cases halted.ofLedger with
    | refused task => exact aborts task rfl

theorem scan_ledger (orderly : desk.Orderly) {command : Command} (scan : command.loan? = none) :
    (desk.after settings (.command now command)).ledger = desk.ledger := by
  have ends : Ends ((Desk.engine settings now).perform command) desk (fun _ after => after.ledger = desk.ledger)
      fun _ _ => False := by
    cases command with
    | scan => exact (scan_idles settings now orderly.chains).andThen (fun _ _ same => same) fun _ _ no => no
    | _ => cases scan
  obtain ⟨answer, after, ran, same⟩ := ends.exists_ok
  rw [Desk.after, ran]
  exact same

variable {settings now}

theorem Orderly.after (orderly : desk.Orderly) (event : Event) : (desk.after settings event).Orderly :=
  (run_keeps (fun _ => True) (fun _ _ _ _ _ => trivial) (fun _ _ _ _ _ => trivial) [event] orderly trivial).1

def fails (settings : Settings) (desk : Desk) : Event → Bool
  | .command now command =>
    match (Desk.engine settings now).perform command desk with
    | .error (.failed _) _ => true
    | _ => false
  | _ => false

theorem command_conducts_for (orderly : desk.Orderly) {command : Command} {loan : LoanId}
    (about : ∀ other, command.loan? = some other → other = loan)
    (fits : desk.overflows settings (.command now command) = false) :
    let after := desk.after settings (.command now command)
    Conducts settings.moneyScale loan Standing.Done desk after ∨
      desk.fails settings (.command now command) = true ∧
        Conducts settings.moneyScale loan Standing.Resting desk after := by
  have ends := perform_conducts_for settings now orderly command about
  unfold Ends at ends
  dsimp only [overflows] at fits
  dsimp only [fails, Desk.after]
  generalize (Desk.engine settings now).perform command desk = result at ends fits ⊢
  cases result with
  | ok answer after => exact Or.inl ends
  | error stop after =>
    cases stop with
    | failed error => exact Or.inr ⟨rfl, ends error rfl⟩
    | overflow what => cases fits

theorem command_conducts_on (orderly : desk.Orderly) {command : Command} {loan : LoanId}
    (about : command.loan? = some loan) (fits : desk.overflows settings (.command now command) = false) :
    let after := desk.after settings (.command now command)
    Conducts settings.moneyScale loan Standing.Done desk after ∨
      desk.fails settings (.command now command) = true ∧
        Conducts settings.moneyScale loan Standing.Resting desk after :=
  command_conducts_for orderly (fun _ named => Option.some_inj.mp (named.symm.trans about)) fits

theorem command_conducts (orderly : desk.Orderly) {command : Command}
    (fits : desk.overflows settings (.command now command) = false) :
    let after := desk.after settings (.command now command)
    (∃ loan, Conducts settings.moneyScale loan Standing.Done desk after) ∨
      desk.fails settings (.command now command) = true ∧
        ∃ loan, Conducts settings.moneyScale loan Standing.Resting desk after := by
  have about (other : LoanId) (is : command.loan? = some other) : other = command.loan?.getD 0 := by
    rw [is, Option.getD_some]
  rcases command_conducts_for orderly about fits with done | ⟨fails, resting⟩
  · exact Or.inl ⟨_, done⟩
  · exact Or.inr ⟨fails, _, resting⟩

/-- No event is of this kind where it comes. -/
def never (settings : Settings) (kind : Desk → Event → Bool) (desk : Desk) : List Event → Bool
  | [] => true
  | event :: rest => !kind desk event && (desk.after settings event).never settings kind rest

theorem never_false (desk : Desk) (events : List Event) :
    desk.never settings (fun _ _ => false) events = true := by
  induction events generalizing desk with
  | nil => rfl
  | cons event rest ih => exact ih (desk.after settings event)

/-- What every event keeps in which all sums fit and that is not of a certain kind, a run of such
events keeps. -/
theorem calm_run_avoids (Kept : Desk → Prop) {kind : Desk → Event → Bool} (events : List Event)
    (step : ∀ {desk event}, event ∈ events → desk.Orderly → desk.overflows settings event = false →
      kind desk event = false → Kept desk → Kept (desk.after settings event))
    (calm : desk.calm settings events = true) (avoids : desk.never settings kind events = true)
    (orderly : desk.Orderly) (kept : Kept desk) : Kept (desk.run settings events) := by
  induction events generalizing desk with
  | nil => exact kept
  | cons event rest ih =>
    rw [Desk.calm, Bool.and_eq_true, Bool.not_eq_true'] at calm
    rw [never, Bool.and_eq_true, Bool.not_eq_true'] at avoids
    refine ih (fun mem => step (List.mem_cons_of_mem _ mem)) calm.2 avoids.2 (orderly.after event) ?_
    exact step List.mem_cons_self orderly calm.1 avoids.1 kept

theorem calm_run_conducts (Kept : Ledger → Prop) (events : List Event)
    (conducted : ∀ {loan : LoanId} {standing : Standing} {before after : Ledger},
      standing.Done ∨ standing.Resting → before.InOrder → Conduct settings.moneyScale loan before standing after →
        Kept before → Kept after)
    (failed : ∀ op, .failOn op ∈ events → ∀ ledger : Ledger, Kept ledger → Kept (ledger.failOn op))
    (healed : ∀ op (ledger : Ledger), Kept ledger → Kept (ledger.heal op))
    (calm : desk.calm settings events = true) (orderly : desk.Orderly) (kept : Kept desk.ledger) :
    Kept (desk.run settings events).ledger := by
  refine calm_run_avoids (fun desk => Kept desk.ledger) events ?_ calm (never_false desk events) orderly kept
  intro desk event mem orderly fits _ kept
  cases event with
  | command now command =>
    rcases command_conducts orderly fits with ⟨_, _, done, conduct⟩ | ⟨_, _, _, resting, conduct⟩
    · exact conducted (Or.inl done) orderly.ledger conduct kept
    · exact conducted (Or.inr resting) orderly.ledger conduct kept
  | failOn op => exact failed op mem _ kept
  | heal op => exact healed op _ kept

end Desk

end Countersign
