import Countersign.Proofs.ChainForm
import Countersign.Proofs.LedgerPart

/-!
What a command checks before it does anything. A check leaves the desk as it is, whether it
lets the command pass or not.
-/

namespace Countersign

/-- A command that fails before it has done anything. -/
structure Desk.Declined (before : Desk) (stop : Stop) (after : Desk) : Prop where
  failed : ∃ error, stop = .failed error
  same : after = before

theorem read_andThen {α β : Type} {view : Desk → α} {next : α → Work Desk β} {desk : Desk}
    {done : β → Desk → Prop} {stopped : Stop → Desk → Prop} (rest : Ends (next (view desk)) desk done stopped) :
    Ends (Desk.read view >>= next) desk done stopped :=
  rest

namespace Engine

open Desk (Declined)

variable (settings : Settings) (now : Timestamp)

theorem fail_declines (error : CommandError) (desk : Desk) : Declined desk (.failed error) desk := ⟨⟨error, rfl⟩, rfl⟩

theorem openStep_ends (loan : LoanId) (id : StepId) (desk : Desk) :
    Ends ((Desk.engine settings now).openStep loan id) desk
      (fun step after => after = desk ∧ desk.chains.find? id = some step ∧ step.loan = loan ∧ step.status = .pending)
      (Declined desk) := by
  apply read_andThen
  cases desk.chains.find? id with
  | none => exact fail_declines _ _
  | some step =>
    dsimp only
    by_cases foreign : step.loan ≠ loan
    · rw [if_pos foreign]
      exact fail_declines _ _
    · rw [if_neg foreign]
      by_cases decided : step.status ≠ .pending
      · rw [if_pos decided]
        exact fail_declines _ _
      · rw [if_neg decided]
        exact ⟨rfl, rfl, not_not.mp foreign, not_not.mp decided⟩

theorem requireLoan_apply (id : LoanId) (desk : Desk) :
    (Desk.engine settings now).requireLoan id desk =
      (desk.ledger.loan? id).elim (.error (.failed (.loanNotFound id)) desk) fun loan => .ok loan desk := by
  change (Desk.read (·.ledger.loan? id) >>= _) desk = _
  change EStateM.bind (Desk.read (·.ledger.loan? id)) _ desk = _
  rw [EStateM.bind, Desk.read]
  dsimp only
  cases desk.ledger.loan? id <;> rfl

theorem requireLoan_ends (id : LoanId) (desk : Desk) :
    Ends ((Desk.engine settings now).requireLoan id) desk
      (fun loan after => after = desk ∧ desk.ledger.loans.get? id = some loan) (Declined desk) := by
  unfold Ends
  rw [requireLoan_apply, Ledger.loan?]
  cases desk.ledger.loans.get? id with
  | none => exact fail_declines _ _
  | some loan => exact ⟨rfl, rfl⟩

theorem undoTarget_ends (loan : LoanId) (step : Step) (target : Option StepId) (desk : Desk) :
    Ends ((Desk.engine settings now).undoTarget loan step target) desk
      (fun found after => after = desk ∧ found ∈ desk.chains.stepsOf loan ∧ found.status = .approved ∧
        found.rank < step.rank)
      (Declined desk) := by
  apply read_andThen
  generalize desk.chains.stepsOf loan = steps
  cases target with
  | none =>
    cases nearest : approvedBelow steps step.rank with
    | none => exact fail_declines _ _
    | some found =>
      obtain ⟨mem, lower, approved⟩ := Chain.approvedBelow_some nearest
      exact ⟨rfl, mem, approved, lower⟩
  | some id =>
    cases named : steps.find? (·.id == id) with
    | none =>
      simp only [named]
      apply read_andThen
      cases desk.chains.find? id <;> exact fail_declines _ _
    | some found =>
      simp only [named]
      have mem := List.mem_of_find?_eq_some named
      by_cases unapproved : found.status ≠ .approved
      · rw [if_pos unapproved]
        exact fail_declines _ _
      · rw [if_neg unapproved]
        by_cases higher : step.rank ≤ found.rank
        · rw [if_pos higher]
          exact fail_declines _ _
        · rw [if_neg higher]
          exact ⟨rfl, mem, not_not.mp unapproved, Nat.lt_of_not_le higher⟩

theorem carryOut_ends {loan : LoanId} {step : StepId} {part : Work Desk (Batch × List Change)} {desk : Desk}
    {done : Batch × List Change → Desk → Prop} {stopped : Stop → Desk → Prop} {finish : Desk → Prop}
    (ends : Ends part desk done stopped)
    (takes : ∀ answer after, done answer after → ∃ chains, after.chains.commit answer.1 = .ok chains ∧
      finish { after with chains := chains }) :
    Ends ((Desk.engine settings now).carryOut loan step part) desk (fun _ after => finish after) stopped := by
  refine ends.andThen ?_ fun _ _ halted => halted
  intro answered after ended
  obtain ⟨batch, changes⟩ := answered
  obtain ⟨chains, committed, finished⟩ := takes _ after ended
  apply (ends_bind _ _ _ _ _).mpr
  change Ends (Desk.commit batch) after _ _
  unfold Ends Desk.commit
  rw [committed]
  exact finished

end Engine

end Countersign
