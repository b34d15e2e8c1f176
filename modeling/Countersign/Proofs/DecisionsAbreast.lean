import Countersign.Proofs.Abreast
import Countersign.Proofs.Resumption

/-!
The decisions of the engine, run side by side. Under services that answer both runs alike, each
part of a decision keeps in step: it reads the same of the loan, or what stands for the same, asks
the ledger for the same, and comes to the same batch but for its dates.
-/

namespace Countersign

open Pairing (InStep)

namespace Engine

variable {σ τ : Type} {pairing : Pairing σ τ} {settings : Settings} {loan : LoanId} {one : Services σ}
  {other : Services τ} (paired : Services.Paired pairing settings loan one other) (now later : Timestamp)

include paired

/-! Checks. -/

theorem requireLoan_abreast :
    pairing.InStep (fun record record' => record.id = loan ∧ record.Like pairing.number record')
      (requireLoan ⟨one, settings, now⟩ loan) (requireLoan ⟨other, settings, later⟩ loan) := by
  refine (InStep.demand paired.findLoan .loadLoan).andThen ?_
  intro _ _ found
  cases found with
  | some alike => exact .answer alike
  | none => exact .fail _

theorem openStep_abreast (id : StepId) :
    pairing.InStep (fun step step' => step = step' ∧ pairing.step step)
      (openStep ⟨one, settings, now⟩ loan id) (openStep ⟨other, settings, later⟩ loan id) := by
  refine (paired.findStep id).andThen ?_
  intro _ _ found
  cases found with
  | none => exact .fail _
  | @some step step' alike =>
    rcases alike with ⟨rfl, owned⟩ | ⟨foreign, foreign'⟩
    · dsimp only
      split
      · exact .fail _
      · split
        · exact .fail _
        · exact .answer ⟨rfl, owned⟩
    · dsimp only
      rw [if_pos foreign, if_pos foreign']
      exact .fail _

theorem leaveNote_abreast (note : String) :
    pairing.InStep (fun _ _ => True) (leaveNote ⟨one, settings, now⟩ loan note)
      (leaveNote ⟨other, settings, later⟩ loan note) := by
  unfold leaveNote
  split
  · exact .answer trivial
  · exact ((paired.appendNote note).demand .appendNote).imp fun _ _ _ => trivial

/-! The settlement of charges. -/

theorem due_abreast {charges : List Charge} (known : pairing.charges charges) (kind : ChargeKind) :
    pairing.InStep (fun due due' => due = due' ∧ ∀ ids amount, due = some (ids, amount) → pairing.amount amount)
      (due ⟨one, settings, now⟩ charges kind) (due ⟨other, settings, later⟩ charges kind) := by
  have sums := paired.sums charges kind known
  unfold due
  dsimp only
  cases summed : Charge.total (Charge.outstandingOf charges kind) settings.moneyScale with
  | ok total =>
    rw [summed] at sums
    refine InStep.answer ⟨rfl, fun ids amount isDue => ?_⟩
    obtain ⟨_, isAmount, same⟩ := Option.map_eq_some_iff.mp isDue
    cases same
    exact sums amount isAmount
  | error what =>
    rw [summed] at sums
    exact fun _ _ working => ⟨rfl, sums, pairing.rests _ _ working⟩

theorem withdrawFees_abreast {record : Loan} (same : record.id = loan) (lien : Option TransactionId)
    {account : AccountId} (movable : pairing.account account) {charges : List Charge}
    (known : pairing.charges charges) (payment : Option PaymentTypeId) :
    pairing.InStep (fun _ _ => True) (withdrawFees ⟨one, settings, now⟩ record account charges payment)
      (withdrawFees ⟨other, settings, later⟩ { record with lien := lien } account charges payment) := by
  subst same
  refine (due_abreast paired now later known .upfrontFee).andThen ?_
  rintro due _ ⟨rfl, positive⟩
  cases due with
  | none => exact .answer trivial
  | some due =>
    obtain ⟨ids, amount⟩ := due
    refine (InStep.demand (paired.withdraw amount account _ _ (positive ids amount rfl) movable) .withdrawFees).andThen ?_
    intro _ _ _
    refine (InStep.demand (paired.markPaid ids) .markFeesPaid).andThen ?_
    exact fun _ _ _ => .answer trivial

theorem holdCharges_abreast {record : Loan} (same : record.id = loan) (lien : Option TransactionId)
    {account : AccountId} (movable : pairing.account account) {charges : List Charge}
    (known : pairing.charges charges) :
    pairing.InStep (Option.Rel (Booking.Like pairing.number))
      (holdCharges ⟨one, settings, now⟩ record account charges)
      (holdCharges ⟨other, settings, later⟩ { record with lien := lien } account charges) := by
  subst same
  refine (due_abreast paired now later known .upfrontHold).andThen ?_
  rintro due _ ⟨rfl, positive⟩
  cases due with
  | none => exact .answer .none
  | some due =>
    obtain ⟨ids, amount⟩ := due
    refine (InStep.demand (paired.hold amount account _ (positive ids amount rfl) movable) .holdCharges).andThen ?_
    exact fun _ _ stands => .answer (.some ⟨rfl, stands⟩)

theorem settleBefore_abreast {record : Loan} (same : record.id = loan) (lien : Option TransactionId)
    (payment : Option PaymentTypeId) :
    pairing.InStep (Option.Rel pairing.Settled) (settleBefore ⟨one, settings, now⟩ record payment)
      (settleBefore ⟨other, settings, later⟩ { record with lien := lien } payment) := by
  subst same
  refine paired.findAccount.andThen ?_
  intro _ _ found
  cases found with
  | notFound => exact .answer .none
  | rejected | unavailable => exact .fail _
  | @done account _ linked =>
    obtain ⟨rfl, movable⟩ := linked
    refine (InStep.demand paired.chargesOf .loadCharges).andThen ?_
    rintro charges _ ⟨rfl, known⟩
    refine (withdrawFees_abreast paired now later rfl lien movable known payment).andThen ?_
    intro _ _ _
    refine (holdCharges_abreast paired now later rfl lien movable known).andThen ?_
    exact fun _ _ alike => .answer (.some ⟨rfl, movable, alike⟩)

theorem unsettle_abreast {settlement settlement' : Option Settlement}
    (settled : Option.Rel pairing.Settled settlement settlement') :
    pairing.InStep (fun _ _ => True) (unsettle ⟨one, settings, now⟩ settlement)
      (unsettle ⟨other, settings, later⟩ settlement') := by
  cases settled with
  | none => exact .answer trivial
  | @some settlement settlement' settled =>
    obtain ⟨account, fees, hold⟩ := settlement
    obtain ⟨account', fees', hold'⟩ := settlement'
    obtain ⟨rfl, movable, alike⟩ := settled
    cases alike with
    | none => exact .answer trivial
    | some booked =>
      refine (paired.release account _ _ movable booked.2).andThen ?_
      exact fun _ _ _ => .answer trivial

theorem markHoldsPaid_abreast {record : Loan} (same : record.id = loan) (lien : Option TransactionId)
    {hold hold' : Option Booking} (alike : Option.Rel (Booking.Like pairing.number) hold hold') :
    pairing.InStep (fun _ _ => True) (markHoldsPaid ⟨one, settings, now⟩ record hold)
      (markHoldsPaid ⟨other, settings, later⟩ { record with lien := lien } hold') := by
  subst same
  cases alike with
  | none => exact .answer trivial
  | @some booking booking' booked =>
    unfold markHoldsPaid
    dsimp only
    rw [← booked.1]
    refine (InStep.succeeds (paired.markPaid booking.charges)).andThen ?_
    rintro marked _ rfl
    cases marked <;> exact .answer trivial

theorem releasePrevious_abreast {record : Loan} {lien : Option TransactionId}
    (numbers : Option.Rel pairing.number record.lien lien) {account : AccountId} (movable : pairing.account account) :
    pairing.InStep (fun released released' => Option.Rel pairing.number released.1 released'.1)
      (releasePrevious ⟨one, settings, now⟩ record account)
      (releasePrevious ⟨other, settings, later⟩ { record with lien := lien } account) := by
  unfold releasePrevious
  dsimp only
  generalize record.lien = former at numbers ⊢
  cases numbers with
  | none => exact .answer .none
  | @some previous previous' stands =>
    refine (paired.release account previous previous' movable stands).andThen ?_
    intro _ _ released
    cases released with
    | done | notFound => exact .answer (.some stands)
    | rejected | unavailable => exact .answer .none

theorem recordLien_abreast {record : Loan} (same : record.id = loan) {lien : Option TransactionId}
    (numbers : Option.Rel pairing.number record.lien lien) {hold hold' released released' : Option TransactionId}
    (holds : Option.Rel pairing.number hold hold') (releases : Option.Rel pairing.number released released') :
    pairing.InStep (fun _ _ => True) (recordLien ⟨one, settings, now⟩ record hold released)
      (recordLien ⟨other, settings, later⟩ { record with lien := lien } hold' released') := by
  subst same
  have taken : lien.isNone = record.lien.isNone := by
    generalize record.lien = former at numbers ⊢
    cases numbers <;> rfl
  have placed : hold'.isSome = hold.isSome := by cases holds <;> rfl
  have freed : released'.isSome = released.isSome := by cases releases <;> rfl
  unfold recordLien
  dsimp only
  rw [taken, placed, freed]
  split
  · refine (InStep.succeeds (paired.setLien hold hold' holds)).andThen ?_
    rintro recorded _ rfl
    cases recorded <;> exact .answer trivial
  · exact .answer trivial

theorem settleAfter_abreast {record : Loan} (same : record.id = loan) {lien : Option TransactionId}
    (numbers : Option.Rel pairing.number record.lien lien) {settlement settlement' : Option Settlement}
    (settled : Option.Rel pairing.Settled settlement settlement') :
    pairing.InStep (fun _ _ => True) (settleAfter ⟨one, settings, now⟩ record settlement)
      (settleAfter ⟨other, settings, later⟩ { record with lien := lien } settlement') := by
  cases settled with
  | none => exact .answer trivial
  | @some settlement settlement' settled =>
    obtain ⟨account, fees, hold⟩ := settlement
    obtain ⟨account', fees', hold'⟩ := settlement'
    obtain ⟨rfl, movable, alike⟩ := settled
    refine (markHoldsPaid_abreast paired now later same lien alike).andThen ?_
    intro _ _ _
    refine (releasePrevious_abreast paired now later numbers movable).andThen ?_
    intro released released' releases
    have holds : Option.Rel pairing.number (hold.map (·.transaction)) (hold'.map (·.transaction)) := by
      cases alike with
      | none => exact .none
      | some booked => exact .some booked.2
    refine (recordLien_abreast paired now later same numbers holds releases).andThen ?_
    exact fun _ _ _ => .answer trivial

theorem disburse_abreast {record : Loan} (same : record.id = loan) {lien : Option TransactionId}
    (numbers : Option.Rel pairing.number record.lien lien) (date : ValueDate) (payment : Option PaymentTypeId)
    (note : String) :
    pairing.InStep (fun _ _ => True) (disburse ⟨one, settings, now⟩ record date payment note)
      (disburse ⟨other, settings, later⟩ { record with lien := lien } date payment note) := by
  refine (settleBefore_abreast paired now later same lien payment).andThen ?_
  intro settlement settlement' settled
  have paid : pairing.InStep (Replies fun _ _ => True) (one.disburse record.id date record.principal payment note)
      (other.disburse record.id date record.principal payment note) :=
    same ▸ paired.disburse date record.principal payment note
  refine paid.andThen ?_
  intro _ _ replies
  cases replies with
  | done =>
    refine (settleAfter_abreast paired now later same numbers settled).andThen ?_
    exact fun _ _ _ => .answer trivial
  | notFound | rejected | unavailable =>
    refine (unsettle_abreast paired now later settled).andThen ?_
    exact fun _ _ _ => .fail _

/-! What the ledger does for each decision, and the batch that comes of it. -/

theorem submitFirst_abreast {record : Loan} (same : record.id = loan) (lien : Option TransactionId) (step : Step)
    (date : ValueDate) (note : String) :
    pairing.InStep (fun _ _ => True) (submitFirst ⟨one, settings, now⟩ step record date note)
      (submitFirst ⟨other, settings, later⟩ step { record with lien := lien } date note) := by
  subst same
  unfold submitFirst
  dsimp only
  split
  · refine (InStep.demand (paired.submit record.principal date note) .submitLoan).andThen ?_
    exact fun _ _ _ => .answer trivial
  · exact .answer trivial

theorem advance_abreast {record : Loan} (same : record.id = loan) {lien : Option TransactionId}
    (numbers : Option.Rel pairing.number record.lien lien) (step : Step) {steps : List Step}
    (owned : ∀ step ∈ steps, pairing.step step) (date : ValueDate) (payment : Option PaymentTypeId) (note : String) :
    pairing.InStep (fun answer answer' => Batch.Matching pairing.step answer.1 answer'.1)
      (advance ⟨one, settings, now⟩ step record steps date payment note)
      (advance ⟨other, settings, later⟩ step { record with lien := lien } steps date payment note) := by
  unfold advance
  cases isNext : queuedAbove steps step.rank with
  | some next =>
    have owns := owned next (List.mem_of_find?_eq_some isNext)
    exact .answer (Batch.Matching.empty.transition owns .pending now later)
  | none =>
    dsimp only
    split
    · exact .answer .empty
    · refine (disburse_abreast paired now later same numbers date payment note).andThen ?_
      exact fun _ _ _ => .answer .empty

theorem approvePart_abreast {record : Loan} (same : record.id = loan) {lien : Option TransactionId}
    (numbers : Option.Rel pairing.number record.lien lien) {step : Step} (owns : pairing.step step) {steps : List Step}
    (owned : ∀ step ∈ steps, pairing.step step) (note : String) (date : ValueDate) (payment : Option PaymentTypeId) :
    pairing.InStep (fun answer answer' => Batch.Matching pairing.step answer.1 answer'.1)
      (approvePart ⟨one, settings, now⟩ step record steps note date payment)
      (approvePart ⟨other, settings, later⟩ step { record with lien := lien } steps note date payment) := by
  subst same
  refine (leaveNote_abreast paired now later note).andThen ?_
  intro _ _ _
  refine (submitFirst_abreast paired now later rfl lien step date note).andThen ?_
  intro _ _ _
  refine (advance_abreast paired now later rfl numbers step owned date payment note).andThen ?_
  exact fun _ _ alike => .answer (alike.transition owns .approved now later)

theorem repairStatus_abreast {record : Loan} (same : record.id = loan) (lien : Option TransactionId) :
    pairing.InStep (fun _ _ => True) (repairStatus ⟨one, settings, now⟩ record)
      (repairStatus ⟨other, settings, later⟩ { record with lien := lien }) := by
  subst same
  unfold repairStatus
  dsimp only
  split
  · exact .answer trivial
  · refine (InStep.demand paired.forceStatus .repairStatus).andThen ?_
    exact fun _ _ _ => .answer trivial

theorem refuseLoan_abreast {record : Loan} (same : record.id = loan) (lien : Option TransactionId) (note : String) :
    pairing.InStep (fun _ _ => True) (refuseLoan ⟨one, settings, now⟩ record note)
      (refuseLoan ⟨other, settings, later⟩ { record with lien := lien } note) := by
  subst same
  unfold refuseLoan
  dsimp only
  split
  · exact .answer trivial
  · refine (repairStatus_abreast paired now later rfl lien).andThen ?_
    intro _ _ _
    refine (InStep.demand (paired.reject .today note) .rejectLoan).andThen ?_
    exact fun _ _ _ => .answer trivial

theorem releaseLien_abreast {record : Loan} (same : record.id = loan) {lien : Option TransactionId}
    (numbers : Option.Rel pairing.number record.lien lien) :
    pairing.InStep (fun _ _ => True) (releaseLien ⟨one, settings, now⟩ record)
      (releaseLien ⟨other, settings, later⟩ { record with lien := lien }) := by
  subst same
  unfold releaseLien
  dsimp only
  generalize record.lien = former at numbers ⊢
  cases numbers with
  | none => exact .answer trivial
  | @some previous previous' stands =>
    refine (InStep.demand paired.findAccount .findAccount).andThen ?_
    rintro account _ ⟨rfl, movable⟩
    have recorded := InStep.demand (paired.setLien none none .none) .recordLien
    refine (paired.release account previous previous' movable stands).andThen ?_
    intro _ _ released
    cases released with
    | done | notFound => exact recorded.andThen fun _ _ _ => .answer trivial
    | rejected | unavailable => exact .fail _

theorem rejectPart_abreast {record : Loan} (same : record.id = loan) {lien : Option TransactionId}
    (numbers : Option.Rel pairing.number record.lien lien) {step : Step} (owns : pairing.step step) (note : String) :
    pairing.InStep (fun answer answer' => Batch.Matching pairing.step answer.1 answer'.1)
      (rejectPart ⟨one, settings, now⟩ step record note)
      (rejectPart ⟨other, settings, later⟩ step { record with lien := lien } note) := by
  subst same
  refine (leaveNote_abreast paired now later note).andThen ?_
  intro _ _ _
  refine (refuseLoan_abreast paired now later rfl lien note).andThen ?_
  intro _ _ _
  refine (releaseLien_abreast paired now later rfl numbers).andThen ?_
  exact fun _ _ _ => .answer (Batch.Matching.empty.transition owns .rejected now later)

theorem undoTarget_abreast (step : Step) (target : Option StepId) :
    pairing.InStep (fun found found' => found = found' ∧ pairing.step found)
      (undoTarget ⟨one, settings, now⟩ loan step target) (undoTarget ⟨other, settings, later⟩ loan step target) := by
  refine paired.stepsOf.andThen ?_
  rintro steps _ ⟨rfl, owned⟩
  cases target with
  | none =>
    dsimp only
    cases isFound : approvedBelow steps step.rank with
    | some found => exact .answer ⟨rfl, owned found (List.mem_reverse.mp (List.mem_of_find?_eq_some isFound))⟩
    | none => exact .fail _
  | some id =>
    dsimp only
    cases isFound : steps.find? (·.id == id) with
    | none =>
      refine (paired.findStep id).andThen ?_
      intro _ _ elsewhere
      cases elsewhere with
      | some | none => exact .fail _
    | some found =>
      dsimp only
      split
      · exact .fail _
      · split
        · exact .fail _
        · exact .answer ⟨rfl, owned found (List.mem_of_find?_eq_some isFound)⟩

theorem undoPart_abreast {record : Loan} (same : record.id = loan) (lien : Option TransactionId) {step found : Step}
    (owns : pairing.step step) (owned : pairing.step found) (note : String) :
    pairing.InStep (fun answer answer' => Batch.Matching pairing.step answer.1 answer'.1)
      (undoPart ⟨one, settings, now⟩ step found record note)
      (undoPart ⟨other, settings, later⟩ step found { record with lien := lien } note) := by
  subst same
  refine (leaveNote_abreast paired now later note).andThen ?_
  intro _ _ _
  have undone : pairing.InStep (fun _ _ => True) (undoSubmission ⟨one, settings, now⟩ record note)
      (undoSubmission ⟨other, settings, later⟩ { record with lien := lien } note) := by
    unfold undoSubmission
    dsimp only
    split
    · refine (InStep.demand (paired.undoApproval note) .undoApproval).andThen ?_
      exact fun _ _ _ => .answer trivial
    · exact .answer trivial
  refine undone.andThen ?_
  intro _ _ _
  exact .answer ((Batch.Matching.empty.transition owned .pending now later).transition owns .queue now later)

theorem reassignPart_abreast {step : Step} (owns : pairing.step step) (note : String) (approver : ApproverId) :
    pairing.InStep (fun answer answer' => Batch.Matching pairing.step answer.1 answer'.1)
      (reassignPart ⟨one, settings, now⟩ step loan note approver)
      (reassignPart ⟨other, settings, later⟩ step loan note approver) := by
  refine (leaveNote_abreast paired now later (handoverNote step approver note)).andThen ?_
  intro _ _ _
  let handed (time : Timestamp) : Step := { step with approver := some approver, modified := time }
  have staged (time : Timestamp) : (Batch.empty.stage (handed time)).Concerns pairing.step :=
    Batch.Matching.empty.concerns.stage owns rfl rfl rfl
  have alike : Batch.Redated (Batch.empty.stage (handed now)) (Batch.empty.stage (handed later)) :=
    (Batch.Redated.refl .empty).stage rfl
  exact .answer ⟨alike.record step.id .reassigned now later, (staged now).record owns .reassigned now,
    (staged later).record owns .reassigned later⟩

/-! The decisions. -/

theorem carryOut_abreast {part : Work σ (Batch × List Change)} {part' : Work τ (Batch × List Change)} (step : StepId)
    (alike : pairing.InStep (fun answer answer' => Batch.Matching pairing.step answer.1 answer'.1) part part') :
    pairing.Concludes (carryOut ⟨one, settings, now⟩ loan step part)
      (carryOut ⟨other, settings, later⟩ loan step part') := by
  refine alike.andConclude ?_
  intro answer answer' batches a b working
  refine (paired.commit answer.1 answer'.1 batches a b working).andThen ?_ fun _ _ _ _ halts => halts
  exact fun _ _ _ _ agree => agree

theorem approve_abreast (step : StepId) (note : String) (date : Option Date) (payment : Option PaymentTypeId) :
    pairing.Concludes (approve ⟨one, settings, now⟩ loan step note date payment)
      (approve ⟨other, settings, later⟩ loan step note date payment) := by
  refine (openStep_abreast paired now later step).andConclude ?_
  rintro step _ ⟨rfl, owns⟩
  refine (requireLoan_abreast paired now later).andConclude ?_
  rintro record _ ⟨rfl, lien, rfl, numbers⟩
  refine paired.stepsOf.andConclude ?_
  rintro steps _ ⟨rfl, owned⟩
  exact carryOut_abreast paired now later step.id
    (approvePart_abreast paired now later rfl numbers owns owned note (valueDate date record) payment)

theorem reject_abreast (step : StepId) (note : String) :
    pairing.Concludes (reject ⟨one, settings, now⟩ loan step note)
      (reject ⟨other, settings, later⟩ loan step note) := by
  refine (openStep_abreast paired now later step).andConclude ?_
  rintro step _ ⟨rfl, owns⟩
  refine (requireLoan_abreast paired now later).andConclude ?_
  rintro record _ ⟨rfl, lien, rfl, numbers⟩
  exact carryOut_abreast paired now later step.id (rejectPart_abreast paired now later rfl numbers owns note)

theorem undo_abreast (step : StepId) (note : String) (target : Option StepId) :
    pairing.Concludes (undo ⟨one, settings, now⟩ loan step note target)
      (undo ⟨other, settings, later⟩ loan step note target) := by
  refine (openStep_abreast paired now later step).andConclude ?_
  rintro step _ ⟨rfl, owns⟩
  split
  · exact .fail _
  · refine (undoTarget_abreast paired now later step target).andConclude ?_
    rintro found _ ⟨rfl, owned⟩
    refine (requireLoan_abreast paired now later).andConclude ?_
    rintro record _ ⟨rfl, lien, rfl, numbers⟩
    exact carryOut_abreast paired now later step.id (undoPart_abreast paired now later rfl lien owns owned note)

theorem reassign_abreast (step : StepId) (note : String) (approver : ApproverId) :
    pairing.Concludes (reassign ⟨one, settings, now⟩ loan step note approver)
      (reassign ⟨other, settings, later⟩ loan step note approver) := by
  refine (openStep_abreast paired now later step).andConclude ?_
  rintro step _ ⟨rfl, owns⟩
  split
  · exact .answer _ _
  · refine (paired.findApprover approver).andConclude ?_
    rintro found _ rfl
    cases found.filter (·.active) with
    | none => exact .fail _
    | some _ =>
      exact carryOut_abreast paired now later step.id (reassignPart_abreast paired now later owns note approver)

theorem perform_abreast {command : Command} (decides : command.decides = some loan) :
    pairing.Concludes (perform ⟨one, settings, now⟩ command) (perform ⟨other, settings, later⟩ command) := by
  have wrapped {work : Work σ Outcome} {work' : Work τ Outcome} (alike : pairing.Concludes work work') :
      pairing.Concludes (do pure (Answer.done (← work))) (do pure (Answer.done (← work'))) := by
    intro a b working
    exact (alike a b working).andThen (fun _ _ _ _ agree => agree) fun _ _ _ _ halts => halts
  cases command with
  | scan | build => cases decides
  | approve _ step note date payment =>
    cases decides
    exact wrapped (approve_abreast paired now later step note date payment)
  | reject _ step note =>
    cases decides
    exact wrapped (reject_abreast paired now later step note)
  | undo _ step note target =>
    cases decides
    exact wrapped (undo_abreast paired now later step note target)
  | reassign _ step note approver =>
    cases decides
    exact wrapped (reassign_abreast paired now later step note approver)

end Engine

end Countersign
