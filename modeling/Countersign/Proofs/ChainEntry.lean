import Countersign.Proofs.ChainServices
import Countersign.Proofs.ChainTurn
import Mathlib.Logic.Relation

/-!
What commands write to the store of chains: a chain of new steps, or a batch in which every change
of a step goes with the row that tells of it. All that a command does before is beside the chains,
so whatever is out of order there, nothing else is ever written.
-/

namespace Countersign

open Work (Beside Aside fail_beside)

variable {σ : Type} {chains : σ → ChainStore} {engine : Engine σ} {store : ChainStore}

/-! What a decision does before its batch. -/

namespace Engine

section

variable (serve : engine.services.Serve chains)
include serve

theorem requireLoan_aside (id : LoanId) : Aside chains (engine.requireLoan id) := by
  apply ((serve.findLoan id).demand _).andThen
  rintro (_ | loan)
  · exact fun _ => fail_beside _
  · exact .answer loan

theorem leaveNote_aside (loan : LoanId) (note : String) : Aside chains (engine.leaveNote loan note) := by
  unfold leaveNote
  split
  · exact .answer ()
  · exact (serve.appendNote loan note).demand _

theorem submitFirst_aside (step : Step) (loan : Loan) (date : ValueDate) (note : String) :
    Aside chains (engine.submitFirst step loan date note) := by
  unfold submitFirst
  split
  · exact ((serve.submit _ _ _ _).demand _).andThen fun _ => .answer _
  · exact .answer _

omit serve in
theorem due_aside (charges : List Charge) (kind : ChargeKind) : Aside chains (engine.due charges kind) :=
  (Aside.sum _).andThen fun _ => .answer _

theorem withdrawFees_aside (loan : Loan) (account : AccountId) (charges : List Charge)
    (payment : Option PaymentTypeId) : Aside chains (engine.withdrawFees loan account charges payment) := by
  apply (due_aside charges .upfrontFee).andThen
  rintro (_ | ⟨ids, amount⟩)
  · exact .answer _
  · apply ((serve.withdraw _ _ _ _).demand _).andThen
    exact fun _ => ((serve.markPaid _ _).demand _).andThen fun _ => .answer _

theorem holdCharges_aside (loan : Loan) (account : AccountId) (charges : List Charge) :
    Aside chains (engine.holdCharges loan account charges) := by
  apply (due_aside charges .upfrontHold).andThen
  rintro (_ | ⟨ids, amount⟩)
  · exact .answer _
  · exact ((serve.hold _ _ _ _).demand _).andThen fun _ => .answer _

theorem settleBefore_aside (loan : Loan) (payment : Option PaymentTypeId) :
    Aside chains (engine.settleBefore loan payment) := by
  apply (serve.findAccount loan.id).andThen
  intro found
  split
  · exact .answer _
  · exact fun _ => fail_beside _
  · apply ((serve.chargesOf loan.id).demand _).andThen
    intro charges
    apply (withdrawFees_aside serve loan _ charges payment).andThen
    exact fun _ => (holdCharges_aside serve loan _ charges).andThen fun _ => .answer _

theorem unsettle_aside (settlement : Option Settlement) : Aside chains (engine.unsettle settlement) := by
  unfold unsettle
  split
  · exact (serve.release _ _).andThen fun _ => .answer _
  · exact .answer _

theorem markHoldsPaid_aside (loan : Loan) (hold : Option Booking) : Aside chains (engine.markHoldsPaid loan hold) := by
  unfold markHoldsPaid
  split
  · exact .answer _
  · apply (serve.markPaid _ _).succeeds.andThen
    intro marked
    split <;> exact .answer _

theorem releasePrevious_aside (loan : Loan) (account : AccountId) :
    Aside chains (engine.releasePrevious loan account) := by
  unfold releasePrevious
  split
  · exact .answer _
  · apply (serve.release _ _).andThen
    intro released
    split <;> exact .answer _

theorem recordLien_aside (loan : Loan) (lien released : Option TransactionId) :
    Aside chains (engine.recordLien loan lien released) := by
  unfold recordLien
  split
  · apply (serve.setLien _ _).succeeds.andThen
    intro recorded
    split <;> exact .answer _
  · exact .answer _

theorem settleAfter_aside (loan : Loan) (settlement : Option Settlement) :
    Aside chains (engine.settleAfter loan settlement) := by
  unfold settleAfter
  split
  · exact .answer _
  · apply (markHoldsPaid_aside serve loan _).andThen
    intro unmarked
    apply (releasePrevious_aside serve loan _).andThen
    exact fun _ => (recordLien_aside serve loan _ _).andThen fun _ => .answer _

theorem disburse_aside (loan : Loan) (date : ValueDate) (payment : Option PaymentTypeId) (note : String) :
    Aside chains (engine.disburse loan date payment note) := by
  apply (settleBefore_aside serve loan payment).andThen
  intro settlement
  apply (serve.disburse _ _ _ _ _).andThen
  rintro (_ | _)
  · exact (unsettle_aside serve settlement).andThen fun _ _ => fail_beside _
  · exact (settleAfter_aside serve loan settlement).andThen fun _ => .answer _

theorem refuseLoan_aside (loan : Loan) (note : String) : Aside chains (engine.refuseLoan loan note) := by
  have repairs : Aside chains (engine.repairStatus loan) := by
    unfold repairStatus
    split
    · exact .answer _
    · exact ((serve.forceStatus _ _).demand _).andThen fun _ => .answer _
  unfold refuseLoan
  split
  · exact .answer _
  · exact repairs.andThen fun _ => ((serve.reject _ _ _).demand _).andThen fun _ => .answer _

theorem releaseLien_aside (loan : Loan) : Aside chains (engine.releaseLien loan) := by
  unfold releaseLien
  split
  · exact .answer _
  next lien _ =>
    have unrecords : Aside chains (do
        Work.demand .recordLien (engine.services.setLien loan.id none)
        pure [Change.released lien]) :=
      ((serve.setLien _ _).demand _).andThen fun _ => .answer _
    apply ((serve.findAccount _).demand _).andThen
    intro account
    apply (serve.release _ _).andThen
    intro released
    split
    · exact unrecords
    · exact unrecords
    · exact fun _ => fail_beside _

theorem undoSubmission_aside (loan : Loan) (note : String) : Aside chains (engine.undoSubmission loan note) := by
  unfold undoSubmission
  split
  · exact ((serve.undoApproval _ _).demand _).andThen fun _ => .answer _
  · exact .answer _

end

end Engine

namespace Step

theorem insertByRank_perm (step : Step) (steps : List Step) : (insertByRank step steps).Perm (step :: steps) := by
  induction steps with
  | nil => exact .rfl
  | cons next rest ih =>
    rw [insertByRank]
    split
    · exact .rfl
    · exact (ih.cons next).trans (.swap step next rest)

theorem byRank_perm (steps : List Step) : (byRank steps).Perm steps := by
  induction steps with
  | nil => exact .rfl
  | cons step rest ih => exact (insertByRank_perm step _).trans (ih.cons step)

end Step

/-! Batches that tell of what they change. -/

/-- Which status comes after which. A step that changes hands keeps the status it has. -/
def StepStatus.leadsTo : StepStatus → StepStatus → Bool
  | .queue, .pending => true
  | .pending, .approved => true
  | .pending, .rejected => true
  | .pending, .queue => true
  | .approved, .pending => true
  | _, _ => false

inductive Step.Amended (known : Step) : Step → HistoryRow → Prop where
  | moved (status : StepStatus) (now : Timestamp) (leads : known.status.leadsTo status = true) :
      Amended known { known with status := status, modified := now } ⟨known.id, status, now⟩
  | handed (approver : ApproverId) (now : Timestamp) (pending : known.status = .pending) :
      Amended known { known with approver := some approver, modified := now } ⟨known.id, .reassigned, now⟩

def ChainStore.Amends (store : ChainStore) (update : Step) (row : HistoryRow) : Prop :=
  ∃ known ∈ store.allSteps, known.Amended update row

/-- Each update goes with a row, and no step is updated twice. -/
structure Batch.Tells (batch : Batch) (store : ChainStore) : Prop where
  paired : List.Forall₂ store.Amends batch.updates batch.history
  distinct : (batch.updates.map (·.id)).Nodup

namespace ChainStore

inductive Entered (before : ChainStore) : ChainStore → Prop where
  | chain (now : Timestamp) (drafts : List Draft) : Entered before (before.create now drafts).2
  | batch {batch : Batch} {after : ChainStore} (tells : batch.Tells before) (taken : before.commit batch = .ok after) :
      Entered before after

variable {step other : Step} {status status' : StepStatus}

theorem moved_tells (mem : step ∈ store.allSteps) (leads : step.status.leadsTo status = true) (now : Timestamp) :
    (Batch.empty.transition step status now).Tells store :=
  ⟨.cons ⟨step, mem, .moved status now leads⟩ .nil, List.nodup_singleton _⟩

theorem Sound.moved_tells (sound : store.Sound) (mem : step ∈ store.allSteps) (otherMem : other ∈ store.allSteps)
    (leads : step.status.leadsTo status = true) (otherLeads : other.status.leadsTo status' = true)
    (different : step.status ≠ other.status) (now : Timestamp) :
    ((Batch.empty.transition step status now).transition other status' now).Tells store := by
  have apart : step.id ≠ other.id := fun same => different (congrArg _ (sound.eq_of_id mem otherMem same))
  have updates := updates_two apart status status' now
  constructor
  · rw [updates]
    exact .cons ⟨step, mem, .moved status now leads⟩ (.cons ⟨other, otherMem, .moved status' now otherLeads⟩ .nil)
  · rw [updates]
    exact List.nodup_cons.mpr ⟨fun listed => apart (List.mem_singleton.mp listed), List.nodup_singleton _⟩

theorem handed_tells (mem : step ∈ store.allSteps) (pending : step.status = .pending) (approver : ApproverId)
    (now : Timestamp) : (Engine.handover step approver now).Tells store :=
  ⟨.cons ⟨step, mem, .handed approver now pending⟩ .nil, List.nodup_singleton _⟩

theorem mem_stepsOf {loan : LoanId} : step ∈ store.stepsOf loan ↔ step ∈ store.allSteps ∧ step.loan = loan := by
  rw [stepsOf, (Step.byRank_perm _).mem_iff, List.mem_filter, beq_iff_eq]

theorem mem_of_find? {id : StepId} (found : store.find? id = some step) : step ∈ store.allSteps :=
  (Table.mem_values_iff ..).mpr ⟨id, found⟩

end ChainStore

open ChainStore (Entered)
open Relation (ReflTransGen)

/-! Commands. -/

namespace Work

variable {α β : Type} {work : Work σ α} {next : α → Work σ β} {told : α → Prop}

def Enters (chains : σ → ChainStore) (store : ChainStore) (work : Work σ α) : Prop :=
  ∀ state, chains state = store →
    Ends work state (fun _ after => ReflTransGen Entered store (chains after))
      fun _ after => ReflTransGen Entered store (chains after)

theorem Beside.enters (beside : Beside chains store told work) : Enters chains store work :=
  fun state same => (beside state same).imp (fun _ _ ended => ended.2 ▸ .refl) fun _ _ kept => kept ▸ .refl

theorem answer_enters (answer : α) : Enters chains store (pure answer) := (Aside.answer answer store).enters

theorem fail_enters (error : CommandError) : Enters chains store (fail error : Work σ α) :=
  (fail_beside error : Beside chains store (fun _ => True) _).enters

theorem Beside.entering (first : Beside chains store told work)
    (rest : ∀ answer, told answer → Enters chains store (next answer)) : Enters chains store (work >>= next) := by
  intro state same
  refine (first state same).andThen ?_ fun _ _ kept => kept ▸ .refl
  intro answer after ended
  exact rest answer ended.1 after ended.2

theorem Enters.andThen (first : Enters chains store work) (rest : ∀ answer store, Enters chains store (next answer)) :
    Enters chains store (work >>= next) := by
  intro state same
  refine (first state same).andThen ?_ fun _ _ entered => entered
  intro answer after entered
  exact (rest answer _ after rfl).imp (fun _ _ => entered.trans) fun _ _ => entered.trans

theorem Enters.foldlM {items : List β} {step : α → β → Work σ α}
    (each : ∀ answer item store, Enters chains store (step answer item)) (answer : α) :
    Enters chains store (items.foldlM step answer) := by
  induction items generalizing answer store with
  | nil => exact answer_enters _
  | cons item rest ih =>
    rw [List.foldlM_cons]
    exact (each answer item store).andThen fun answer _ => ih answer

end Work

open Work (Enters answer_enters fail_enters)

namespace Engine

section

variable (serve : engine.services.Serve chains)
include serve

/-! Building. -/

theorem assign_aside (loan : LoanId) (link : ChainLink) : Aside chains (engine.assign loan link) := by
  apply (serve.activeApprovers link.role).andThen
  exact fun candidates => (serve.pendingLoads _).andThen fun _ => .answer _

theorem build_enters (id : LoanId) : Enters chains store (engine.build id) := by
  apply (serve.stepsOf id store).entering
  intro steps _
  split
  · exact fail_enters _
  · apply (requireLoan_aside serve id store).entering
    intro loan _
    apply (serve.template loan.product store).entering
    intro found _
    split
    · exact answer_enters _
    · dsimp only
      split
      · exact answer_enters _
      · apply (Beside.mapM fun link => assign_aside serve id link store).entering
        intro drafts _
        split
        · exact answer_enters _
        · intro state same
          subst same
          refine (serve.createChain engine.now drafts state).andThen ?_ fun _ _ kept => kept ▸ .refl
          intro _ after created
          have entered : (chains state).Entered (chains after) := created ▸ .chain engine.now drafts
          exact .single entered

theorem scan_enters : Enters chains store engine.scan := by
  have waits : Beside chains store (fun _ => True) engine.awaitingChain := by
    apply (serve.scheduledLoans.demand _ store).andThen
    exact fun scheduled _ => .filterM fun id => (serve.stepsOf id store).andThen fun _ _ => .answer trivial
  have each (report : ScanReport) (id : LoanId) (store : ChainStore) :
      Enters chains store (engine.scanLoan report id) := by
    intro state same
    have built := build_enters serve id state same
    unfold Ends at built
    unfold Ends scanLoan
    cases ran : engine.build id state with
    | ok answer after =>
      rw [ran] at built
      cases answer <;> exact built
    | error stop after =>
      rw [ran] at built
      cases stop <;> exact built
  exact waits.entering fun waiting _ => .foldlM each _

/-! Deciding. -/

theorem openStep_beside (loan : LoanId) (id : StepId) :
    Beside chains store (fun step => step ∈ store.allSteps ∧ step.status = .pending) (engine.openStep loan id) := by
  apply (serve.findStep id store).andThen
  rintro (_ | step) found
  · exact fail_beside _
  · dsimp only
    split
    · exact fail_beside _
    · split
      · exact fail_beside _
      next undecided => exact .answer ⟨ChainStore.mem_of_find? found.symm, not_not.mp undecided⟩

theorem undoTarget_beside (loan : LoanId) (step : Step) (target : Option StepId) :
    Beside chains store (fun found => found ∈ store.allSteps ∧ found.status = .approved)
      (engine.undoTarget loan step target) := by
  apply (serve.stepsOf loan store).andThen
  rintro steps rfl
  cases target with
  | none =>
    dsimp only
    split
    next found nearest =>
      obtain ⟨mem, _, approved⟩ := Chain.approvedBelow_some nearest
      exact .answer ⟨(ChainStore.mem_stepsOf.mp mem).1, approved⟩
    next => exact fail_beside _
  | some id =>
    dsimp only
    split
    next =>
      apply (serve.findStep id store).andThen
      rintro (_ | _) _ <;> exact fail_beside _
    next found named =>
      split
      · exact fail_beside _
      next approved =>
        split
        · exact fail_beside _
        · exact .answer ⟨(ChainStore.mem_stepsOf.mp (List.mem_of_find?_eq_some named)).1, not_not.mp approved⟩

theorem carryOut_enters {loan : LoanId} {step : StepId} {part : Work σ (Batch × List Change)}
    (beside : Beside chains store (fun answer => answer.1.Tells store) part) :
    Enters chains store (engine.carryOut loan step part) := by
  apply beside.entering
  intro answer tells state same
  obtain ⟨batch, changes⟩ := answer
  subst same
  refine (serve.commit batch state).andThen ?_ fun _ _ kept => kept ▸ .refl
  exact fun _ after taken => .single (.batch tells taken)

section

variable (sound : store.Sound)
include sound

theorem advance_tells {step : Step} (mem : step ∈ store.allSteps) (pending : step.status = .pending) (loan : Loan)
    (date : ValueDate) (payment : Option PaymentTypeId) (note : String) :
    Beside chains store (fun answer => (answer.1.transition step .approved engine.now).Tells store)
      (engine.advance step loan (store.stepsOf loan.id) date payment note) := by
  have approves : step.status.leadsTo .approved = true := by rw [pending]; rfl
  unfold advance
  split
  next next following =>
    obtain ⟨_, queued⟩ : step.rank < next.rank ∧ next.status = .queue := by simpa using List.find?_some following
    have nextMem := (ChainStore.mem_stepsOf.mp (List.mem_of_find?_eq_some following)).1
    have opens : next.status.leadsTo .pending = true := by rw [queued]; rfl
    have different : next.status ≠ step.status := by rw [queued, pending]; decide
    exact .answer (sound.moved_tells nextMem mem opens approves different engine.now)
  next =>
    have closes := ChainStore.moved_tells mem approves engine.now
    split
    · exact .answer closes
    · exact (disburse_aside serve loan date payment note store).andThen fun _ _ => .answer closes

theorem approve_enters (loan : LoanId) (step : StepId) (note : String) (date : Option Date)
    (payment : Option PaymentTypeId) : Enters chains store (engine.approve loan step note date payment) := by
  apply (openStep_beside serve loan step).entering
  intro step ready
  obtain ⟨mem, pending⟩ := ready
  apply (requireLoan_aside serve loan store).entering
  intro loan _
  apply (serve.stepsOf loan.id store).entering
  rintro steps rfl
  -- the store is written to last; until then it is the one that the steps were read from
  apply carryOut_enters serve
  apply (leaveNote_aside serve loan.id note store).andThen
  intro _ _
  apply (submitFirst_aside serve step loan _ note store).andThen
  intro submitted _
  apply (advance_tells serve sound mem pending loan _ payment note).andThen
  rintro ⟨batch, moved⟩ tells
  exact .answer tells

omit sound in
theorem reject_enters (loan : LoanId) (step : StepId) (note : String) :
    Enters chains store (engine.reject loan step note) := by
  apply (openStep_beside serve loan step).entering
  intro step ready
  obtain ⟨mem, pending⟩ := ready
  apply (requireLoan_aside serve loan store).entering
  intro loan _
  apply carryOut_enters serve
  apply (leaveNote_aside serve loan.id note store).andThen
  intro _ _
  apply (refuseLoan_aside serve loan note store).andThen
  intro _ _
  apply (releaseLien_aside serve loan store).andThen
  intro _ _
  have rejects : step.status.leadsTo .rejected = true := by rw [pending]; rfl
  exact .answer (ChainStore.moved_tells mem rejects engine.now)

theorem undo_enters (loan : LoanId) (step : StepId) (note : String) (target : Option StepId) :
    Enters chains store (engine.undo loan step note target) := by
  apply (openStep_beside serve loan step).entering
  intro step ready
  obtain ⟨mem, pending⟩ := ready
  split
  · exact fail_enters _
  · apply (undoTarget_beside serve loan step target).entering
    intro found earlier
    obtain ⟨foundMem, approved⟩ := earlier
    apply (requireLoan_aside serve loan store).entering
    intro loan _
    apply carryOut_enters serve
    apply (leaveNote_aside serve loan.id note store).andThen
    intro _ _
    apply (undoSubmission_aside serve loan note store).andThen
    intro _ _
    have reopens : found.status.leadsTo .pending = true := by rw [approved]; rfl
    have requeues : step.status.leadsTo .queue = true := by rw [pending]; rfl
    have different : found.status ≠ step.status := by rw [approved, pending]; decide
    exact .answer (sound.moved_tells foundMem mem reopens requeues different engine.now)

omit sound in
theorem reassign_enters (loan : LoanId) (step : StepId) (note : String) (approver : ApproverId) :
    Enters chains store (engine.reassign loan step note approver) := by
  apply (openStep_beside serve loan step).entering
  intro step ready
  obtain ⟨mem, pending⟩ := ready
  split
  · exact answer_enters _
  · apply (serve.findApprover approver store).entering
    intro found _
    split
    · exact fail_enters _
    · apply carryOut_enters serve
      apply (leaveNote_aside serve loan _ store).andThen
      exact fun _ _ => .answer (ChainStore.handed_tells mem pending approver engine.now)

/-- Whatever is asked of the engine, and whichever way it ends. -/
theorem perform_enters (command : Command) : Enters chains store (engine.perform command) := by
  have single {α : Type} {work : Work σ α} {wrap : α → Answer} (enters : Enters chains store work) :
      Enters chains store (do pure (wrap (← work))) :=
    enters.andThen fun _ _ => answer_enters _
  cases command with
  | scan => exact single (scan_enters serve)
  | build loan => exact single (build_enters serve loan)
  | approve loan step note date payment => exact single (approve_enters serve sound loan step note date payment)
  | reject loan step note => exact single (reject_enters serve loan step note)
  | undo loan step note target => exact single (undo_enters serve sound loan step note target)
  | reassign loan step note approver => exact single (reassign_enters serve loan step note approver)

end

end

end Engine

end Countersign
