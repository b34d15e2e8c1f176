import Countersign.Engine.Perform
import Countersign.Proofs.BatchStaging
import Countersign.Proofs.ChainDates
import Countersign.Proofs.Ending

/-!
Two runs of one decision, side by side. The two start from states of which it is known in what
they agree, and every service answers both runs alike; then the runs take the same branches, stop
for the same reason or are both done, and leave states that agree again. What agreeing means is
left open: a `Pairing` says it, and `Services.Paired` says that the services abide by it.
-/

namespace Countersign

section

variable {ε ε' σ τ α β γ δ : Type}

/-- From these states both pieces of work are done, or both are stopped. -/
def Abreast (one : EStateM ε σ α) (other : EStateM ε' τ β) (a : σ) (b : τ) (done : α → β → σ → τ → Prop)
    (stopped : ε → ε' → σ → τ → Prop) : Prop :=
  match one a, other b with
  | .ok x a, .ok y b => done x y a b
  | .error s a, .error t b => stopped s t a b
  | _, _ => False

namespace Abreast

variable {one : EStateM ε σ α} {other : EStateM ε' τ β} {a : σ} {b : τ} {done done' : α → β → σ → τ → Prop}
  {stopped stopped' : ε → ε' → σ → τ → Prop}

theorem imp (abreast : Abreast one other a b done stopped) (finish : ∀ x y a b, done x y a b → done' x y a b)
    (halt : ∀ s t a b, stopped s t a b → stopped' s t a b) : Abreast one other a b done' stopped' := by
  unfold Abreast at abreast ⊢
  cases ran : one a <;> cases ran' : other b <;> rw [ran, ran'] at abreast
  · exact finish _ _ _ _ abreast
  · exact abreast.elim
  · exact abreast.elim
  · exact halt _ _ _ _ abreast

theorem andThen {next : α → EStateM ε σ γ} {next' : β → EStateM ε' τ δ} {middle : α → β → σ → τ → Prop}
    {early : ε → ε' → σ → τ → Prop} {done : γ → δ → σ → τ → Prop} (first : Abreast one other a b middle early)
    (rest : ∀ x y a b, middle x y a b → Abreast (next x) (next' y) a b done stopped)
    (halt : ∀ s t a b, early s t a b → stopped s t a b) :
    Abreast (one >>= next) (other >>= next') a b done stopped := by
  change match EStateM.bind one next a, EStateM.bind other next' b with
    | .ok x a, .ok y b => done x y a b
    | .error s a, .error t b => stopped s t a b
    | _, _ => False
  unfold EStateM.bind
  unfold Abreast at first
  cases ran : one a <;> cases ran' : other b <;> rw [ran, ran'] at first
  · exact rest _ _ _ _ first
  · exact first.elim
  · exact first.elim
  · exact halt _ _ _ _ first

theorem of_ok {x : α} {y : β} {a' : σ} {b' : τ} (ran : one a = .ok x a') (ran' : other b = .ok y b')
    (ends : done x y a' b') : Abreast one other a b done stopped := by
  unfold Abreast
  rw [ran, ran']
  exact ends

theorem of_error {s : ε} {t : ε'} {a' : σ} {b' : τ} (ran : one a = .error s a') (ran' : other b = .error t b')
    (ends : stopped s t a' b') : Abreast one other a b done stopped := by
  unfold Abreast
  rw [ran, ran']
  exact ends

end Abreast

end

/-- Answers of the ledger to two runs: both calls went through, or both were refused in the same
way, if not with the same words. -/
inductive Replies {α β : Type} (answers : α → β → Prop) : Except LedgerError α → Except LedgerError β → Prop
  | done {x : α} {y : β} (alike : answers x y) : Replies answers (.ok x) (.ok y)
  | notFound (what what' : Missing) : Replies answers (.error (.notFound what)) (.error (.notFound what'))
  | rejected (why why' : Rejection) : Replies answers (.error (.rejected why)) (.error (.rejected why'))
  | unavailable (outage : Outage) : Replies answers (.error (.unavailable outage)) (.error (.unavailable outage))

/-- The records of one loan in two ledgers: all the same, but that the liens may have other numbers. -/
def Loan.Like (number : TransactionId → TransactionId → Prop) (loan loan' : Loan) : Prop :=
  ∃ lien, loan' = { loan with lien := lien } ∧ Option.Rel number loan.lien lien

def Booking.Like (number : TransactionId → TransactionId → Prop) (booking booking' : Booking) : Prop :=
  booking.charges = booking'.charges ∧ number booking.transaction booking'.transaction

namespace Batch

structure Concerns (own : Step → Prop) (batch : Batch) : Prop where
  updates : ∀ update ∈ batch.updates, ∃ step, own step ∧ update.id = step.id ∧ update.loan = step.loan ∧
    update.rank = step.rank
  history : ∀ row ∈ batch.history, ∃ step, own step ∧ row.step = step.id

structure Matching (own : Step → Prop) (batch batch' : Batch) : Prop where
  redated : Redated batch batch'
  concerns : batch.Concerns own
  concerns' : batch'.Concerns own

variable {own : Step → Prop} {batch batch' : Batch}

theorem mem_stageIn {step update : Step} {staged : List Step} (mem : update ∈ stageIn step staged) :
    update = step ∨ update ∈ staged := by
  induction staged with
  | nil => exact Or.inl (List.mem_singleton.mp mem)
  | cons first rest ih =>
    unfold stageIn at mem
    split at mem
    · rcases List.mem_cons.mp mem with same | later
      · exact Or.inl same
      · exact Or.inr (List.mem_cons_of_mem _ later)
    · rcases List.mem_cons.mp mem with same | later
      · exact Or.inr (same ▸ List.mem_cons_self)
      · exact (ih later).imp id (List.mem_cons_of_mem _)

theorem Concerns.stage (concerns : batch.Concerns own) {step update : Step} (owned : own step)
    (id : update.id = step.id) (loan : update.loan = step.loan) (rank : update.rank = step.rank) :
    (batch.stage update).Concerns own := by
  refine ⟨fun staged mem => ?_, concerns.history⟩
  rcases mem_stageIn mem with rfl | earlier
  · exact ⟨step, owned, id, loan, rank⟩
  · exact concerns.updates staged earlier

theorem Concerns.record (concerns : batch.Concerns own) {step : Step} (owned : own step) (status : StepStatus)
    (time : Timestamp) : (batch.record step.id status time).Concerns own := by
  refine ⟨concerns.updates, fun row mem => ?_⟩
  rcases List.mem_append.mp mem with earlier | new
  · exact concerns.history row earlier
  · exact ⟨step, owned, congrArg HistoryRow.step (List.mem_singleton.mp new)⟩

theorem Concerns.transition (concerns : batch.Concerns own) {step : Step} (owned : own step) (status : StepStatus)
    (time : Timestamp) : (batch.transition step status time).Concerns own := by
  have staged : (batch.stage { step with status := status, modified := time }).Concerns own :=
    concerns.stage owned rfl rfl rfl
  exact staged.record owned status time

theorem Matching.empty : Matching own .empty .empty :=
  have nothing : Batch.empty.Concerns own :=
    ⟨fun _ mem => absurd mem List.not_mem_nil, fun _ mem => absurd mem List.not_mem_nil⟩
  ⟨.refl _, nothing, nothing⟩

theorem Matching.transition (alike : Matching own batch batch') {step : Step} (owned : own step) (status : StepStatus)
    (now later : Timestamp) : Matching own (batch.transition step status now) (batch'.transition step status later) where
  redated := alike.redated.transition step status now later
  concerns := alike.concerns.transition owned status now
  concerns' := alike.concerns'.transition owned status later

end Batch

/-- What two runs have in common. -/
structure Pairing (σ τ : Type) where
  /-- How the states agree while the ledger does its part. -/
  working : σ → τ → Prop
  /-- How they agree in the end. -/
  left : σ → τ → Prop
  /-- Transactions that stand for each other. -/
  number : TransactionId → TransactionId → Prop
  /-- The steps that both runs find. -/
  step : Step → Prop
  /-- The accounts that money is moved on. -/
  account : AccountId → Prop
  /-- The amounts that are moved. -/
  amount : Amount → Prop
  charges : List Charge → Prop
  /-- The reasons for which the runs may stop. -/
  stop : Stop → Prop
  rests : ∀ a b, working a b → left a b
  fails : ∀ error, stop (.failed error)

namespace Pairing

variable {σ τ α β γ δ : Type} (pairing : Pairing σ τ)

def Halts (s t : Stop) (a : σ) (b : τ) : Prop := s = t ∧ pairing.stop s ∧ pairing.left a b

def InStep (answers : α → β → Prop) (one : Work σ α) (other : Work τ β) : Prop :=
  ∀ a b, pairing.working a b →
    Abreast one other a b (fun x y a b => answers x y ∧ pairing.working a b) pairing.Halts

def Concludes (one : Work σ α) (other : Work τ β) : Prop :=
  ∀ a b, pairing.working a b → Abreast one other a b (fun _ _ a b => pairing.left a b) pairing.Halts

structure Settled (settlement settlement' : Settlement) : Prop where
  account : settlement.account = settlement'.account
  movable : pairing.account settlement.account
  hold : Option.Rel (Booking.Like pairing.number) settlement.hold settlement'.hold

namespace InStep

variable {pairing} {answers : α → β → Prop} {one : Work σ α} {other : Work τ β}

theorem answer {x : α} {y : β} (alike : answers x y) : pairing.InStep answers (pure x) (pure y) :=
  fun _ _ working => ⟨alike, working⟩

theorem fail (error : CommandError) : pairing.InStep answers (Work.fail error) (Work.fail error) :=
  fun _ _ working => ⟨rfl, pairing.fails error, pairing.rests _ _ working⟩

theorem andThen {next : α → Work σ γ} {next' : β → Work τ δ} {replies : γ → δ → Prop}
    (first : pairing.InStep answers one other)
    (rest : ∀ x y, answers x y → pairing.InStep replies (next x) (next' y)) :
    pairing.InStep replies (one >>= next) (other >>= next') := by
  intro a b working
  refine (first a b working).andThen ?_ fun _ _ _ _ halts => halts
  intro x y a b ended
  exact rest x y ended.1 a b ended.2

theorem imp {replies : α → β → Prop} (abreast : pairing.InStep answers one other)
    (weaker : ∀ x y, answers x y → replies x y) : pairing.InStep replies one other := by
  intro a b working
  exact (abreast a b working).imp (fun x y _ _ ended => ⟨weaker x y ended.1, ended.2⟩) fun _ _ _ _ halts => halts

theorem andConclude {next : α → Work σ γ} {next' : β → Work τ δ} (first : pairing.InStep answers one other)
    (rest : ∀ x y, answers x y → pairing.Concludes (next x) (next' y)) :
    pairing.Concludes (one >>= next) (other >>= next') := by
  intro a b working
  refine (first a b working).andThen ?_ fun _ _ _ _ halts => halts
  intro x y a b ended
  exact rest x y ended.1 a b ended.2

variable {call : Work σ (Except LedgerError α)} {call' : Work τ (Except LedgerError β)}

theorem demand (alike : pairing.InStep (Replies answers) call call') (task : LedgerTask) :
    pairing.InStep answers (Work.demand task call) (Work.demand task call') := by
  apply alike.andThen
  intro _ _ replies
  cases replies with
  | done alike => exact .answer alike
  | notFound | rejected | unavailable => exact .fail _

theorem succeeds (alike : pairing.InStep (Replies answers) call call') :
    pairing.InStep Eq (Engine.succeeds call) (Engine.succeeds call') := by
  apply alike.andThen
  intro _ _ replies
  cases replies with
  | done | notFound | rejected | unavailable => exact .answer rfl

end InStep

variable {pairing}

theorem Concludes.fail (error : CommandError) :
    pairing.Concludes (Work.fail error : Work σ α) (Work.fail error : Work τ β) :=
  fun _ _ working => ⟨rfl, pairing.fails error, pairing.rests _ _ working⟩

theorem Concludes.answer (x : α) (y : β) : pairing.Concludes (pure x) (pure y) :=
  fun _ _ working => pairing.rests _ _ working

end Pairing

open Pairing (InStep)

/-- Services that answer both runs of a decision about a loan alike. -/
structure Services.Paired {σ τ : Type} (pairing : Pairing σ τ) (settings : Settings) (loan : LoanId)
    (one : Services σ) (other : Services τ) : Prop where
  commit : ∀ batch batch', Batch.Matching pairing.step batch batch' →
    pairing.Concludes (one.commit batch) (other.commit batch')
  findStep : ∀ id, pairing.InStep
    (Option.Rel fun step step' => step = step' ∧ pairing.step step ∨ step.loan ≠ loan ∧ step'.loan ≠ loan)
    (one.findStep id) (other.findStep id)
  stepsOf : pairing.InStep (fun steps steps' => steps = steps' ∧ ∀ step ∈ steps, pairing.step step)
    (one.stepsOf loan) (other.stepsOf loan)
  findApprover : ∀ approver, pairing.InStep Eq (one.findApprover approver) (other.findApprover approver)
  submit : ∀ amount date note, pairing.InStep (Replies fun _ _ => True) (one.submit loan amount date note)
    (other.submit loan amount date note)
  disburse : ∀ date amount payment note, pairing.InStep (Replies fun _ _ => True) (one.disburse loan date amount payment note)
    (other.disburse loan date amount payment note)
  hold : ∀ amount account note, pairing.amount amount → pairing.account account →
    pairing.InStep (Replies pairing.number) (one.hold amount (some loan) account note)
      (other.hold amount (some loan) account note)
  release : ∀ account transaction transaction', pairing.account account → pairing.number transaction transaction' →
    pairing.InStep (Replies fun _ _ => True) (one.release account transaction) (other.release account transaction')
  withdraw : ∀ amount account note payment, pairing.amount amount → pairing.account account →
    pairing.InStep (Replies pairing.number) (one.withdraw amount account note payment)
      (other.withdraw amount account note payment)
  reject : ∀ date note, pairing.InStep (Replies fun _ _ => True) (one.reject loan date note) (other.reject loan date note)
  undoApproval : ∀ note, pairing.InStep (Replies fun _ _ => True) (one.undoApproval loan note) (other.undoApproval loan note)
  appendNote : ∀ text, pairing.InStep (Replies fun _ _ => True) (one.appendNote loan text) (other.appendNote loan text)
  findAccount : pairing.InStep (Replies fun account account' => account = account' ∧ pairing.account account)
    (one.findAccount loan) (other.findAccount loan)
  findLoan : pairing.InStep
    (Replies (Option.Rel fun record record' => record.id = loan ∧ record.Like pairing.number record'))
    (one.findLoan loan) (other.findLoan loan)
  chargesOf : pairing.InStep (Replies fun charges charges' => charges = charges' ∧ pairing.charges charges)
    (one.chargesOf loan) (other.chargesOf loan)
  markPaid : ∀ ids, pairing.InStep (Replies fun _ _ => True) (one.markPaid loan ids) (other.markPaid loan ids)
  setLien : ∀ lien lien', Option.Rel pairing.number lien lien' →
    pairing.InStep (Replies fun _ _ => True) (one.setLien loan lien) (other.setLien loan lien')
  forceStatus : pairing.InStep (Replies fun _ _ => True) (one.forceStatus loan .submittedAndPendingApproval)
    (other.forceStatus loan .submittedAndPendingApproval)
  /-- The sums of these charges are amounts to be moved, or one of the reasons to stop. -/
  sums : ∀ charges kind, pairing.charges charges →
    match Charge.total (Charge.outstandingOf charges kind) settings.moneyScale with
    | .ok total => ∀ amount, Amount.of? total = some amount → pairing.amount amount
    | .error what => pairing.stop (.overflow what)

end Countersign
