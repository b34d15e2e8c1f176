import Countersign.Proofs.ClosedLoans
import Countersign.Proofs.Reapproval

/-!
Approving a chain to its end. An approval closes the first of the steps that are open and leaves the
others open, whatever was approved above them before. So a chain is approved in as many approvals as
it has open steps, in the order of their ranks, and its loan is paid out with the last of them.
-/

namespace Countersign

/-- Where a step stands: this stays the same for ever. -/
def Step.place (step : Step) : StepId × Nat := (step.id, step.rank)

namespace Chain

def openSteps (steps : List Step) : List Step := steps.filter (·.status != .approved)

theorem mem_openSteps {steps : List Step} {step : Step} :
    step ∈ openSteps steps ↔ step ∈ steps ∧ step.status ≠ .approved := by
  rw [openSteps, List.mem_filter, bne_iff_ne]

theorem openSteps_eq_nil {steps : List Step} : openSteps steps = [] ↔ ∀ step ∈ steps, step.status = .approved := by
  simp [openSteps]

theorem Numbered.places_ascending {first : StepId} {steps : List Step} (numbered : Numbered first steps) :
    ((openSteps steps).map Step.place).Pairwise fun a b => a.2 < b.2 :=
  List.pairwise_map.mpr (numbered.ascending.filter _)

theorem Front.openSteps_eq {steps : List Step} {first : StepId} {step : Step} (front : Front .pending step.rank steps)
    (numbered : Numbered first steps) (mem : step ∈ steps) :
    openSteps steps = step :: (openSteps steps).filter (·.rank != step.rank) := by
  have waits := (front.here step mem).mpr rfl
  obtain ⟨lower, higher, rfl⟩ := List.append_of_mem mem
  obtain ⟨_, upper, across⟩ := List.pairwise_append.mp numbered.ascending
  have above := (List.pairwise_cons.mp upper).1
  have none_below : openSteps lower = [] := by
    refine openSteps_eq_nil.mpr fun other otherMem => ?_
    exact front.below other (List.mem_append_left _ otherMem) (across other otherMem step List.mem_cons_self)
  have all_above : (openSteps higher).filter (·.rank != step.rank) = openSteps higher := by
    refine List.filter_eq_self.mpr fun other otherMem => bne_iff_ne.mpr ?_
    exact Nat.ne_of_gt (above other (mem_openSteps.mp otherMem).1)
  have split : openSteps (lower ++ step :: higher) = step :: openSteps higher := by
    unfold openSteps at none_below ⊢
    rw [List.filter_append, none_below, List.nil_append, List.filter_cons, waits]
    rfl
  rw [split, List.filter_cons, bne_self_eq_false, if_neg Bool.false_ne_true, all_above]

theorem openSteps_closed {steps : List Step} {revise : Step → Step} {rank : Nat}
    (places : ∀ step ∈ steps, (revise step).place = step.place)
    (closed : ∀ step ∈ steps, (revise step).status = .approved ↔ step.status = .approved ∨ step.rank = rank) :
    (openSteps (steps.map revise)).map Step.place = ((openSteps steps).filter (·.rank != rank)).map Step.place := by
  unfold openSteps
  rw [List.filter_map, List.map_map, List.filter_filter]
  have same : steps.filter ((·.status != .approved) ∘ revise) =
      steps.filter fun step => step.rank != rank && step.status != .approved := by
    refine List.filter_congr fun step mem => ?_
    rw [Bool.eq_iff_iff]
    simp only [Function.comp_apply, bne_iff_ne, Bool.and_eq_true, ne_eq, closed step mem]
    tauto
  rw [same]
  exact List.map_congr_left fun step mem => places step (List.mem_of_mem_filter mem)

end Chain

open Chain (Ongoing Finished openSteps)

namespace ChainStore

def openPlaces (store : ChainStore) (loan : LoanId) : List (StepId × Nat) :=
  (openSteps (store.chainOf loan)).map Step.place

variable {store after : ChainStore} {loan : LoanId} {step : Step}

theorem Revised.closes {revision : Step → Step} {first : StepId} (revised : Revised loan revision store after)
    (numbered : Chain.Numbered first (store.chainOf loan))
    (front : Chain.Front .pending step.rank (store.chainOf loan)) (mem : step ∈ store.chainOf loan)
    (closed : ∀ other ∈ store.chainOf loan,
      (revision other).status = .approved ↔ other.status = .approved ∨ other.rank = step.rank) :
    store.openPlaces loan = step.place :: after.openPlaces loan := by
  have places : ∀ other ∈ store.chainOf loan, (revision other).place = other.place := fun other otherMem =>
    Prod.ext (revised.keeps other otherMem).id (revised.keeps other otherMem).rank
  unfold openPlaces
  rw [revised.chain, Chain.openSteps_closed places closed]
  exact congrArg (List.map Step.place) (front.openSteps_eq numbered mem)

/-- The open steps after an approval are those before it but the first. -/
theorem Regular.approval_closes (regular : store.Regular) (mem : step ∈ store.chainOf loan)
    (pending : step.status = .pending) (now : Timestamp)
    (taken : store.commit (Engine.approval (queuedAbove (store.chainOf loan) step.rank) step now) = .ok after) :
    store.openPlaces loan = step.place :: after.openPlaces loan := by
  obtain ⟨⟨first, numbered⟩, _, front⟩ := (regular.formed loan).at_pending mem pending
  obtain ⟨chains, committed, revised⟩ := commit_revises regular.sound (regular.approval_known mem pending now)
  cases taken.symm.trans committed
  refine revised.closes numbered front mem fun other otherMem => ?_
  cases following : queuedAbove (store.chainOf loan) step.rank with
  | none =>
    have status := revise_one numbered mem (show (step.moved .approved now).id = step.id from rfl) other otherMem
    change (revise [step.moved .approved now] other).status = .approved ↔ _
    rw [status]
    by_cases there : other.rank = step.rank
    · simp [there, Step.moved]
    · simp [there]
  | some next =>
    obtain ⟨nextMem, above, queued, _⟩ := Chain.queuedAbove_some numbered.ascending following
    have status := revise_two numbered nextMem mem (show (next.moved .pending now).id = next.id from rfl)
      (show (step.moved .approved now).id = step.id from rfl) other otherMem
    rw [regular.approval_updates mem pending now following]
    change (revise [next.moved .pending now, step.moved .approved now] other).status = .approved ↔ _
    rw [status]
    by_cases there : other.rank = step.rank
    · simp [there, Step.moved]
    · by_cases isNext : other.rank = next.rank
      · obtain rfl := numbered.eq_of_rank otherMem nextMem isNext
        simp [there, queued, Step.moved]
      · simp [there, isNext]

end ChainStore

theorem Engine.Submits.active {step : Step} {record : Loan} {status : LoanStatus}
    (submits : Submits step record status) (active : record.status = .active) : status = .active := by
  cases submits with
  | first needed pending => exact absurd active needed.2.2
  | later unneeded => exact active

namespace Desk

variable {settings : Settings} {start desk next last : Desk} {loan : LoanId} {step : Step} {visited : List Step}

/-- How far a chain has come since its loan was in the care of these books. -/
inductive Progress (loan : LoanId) (start desk : Desk) : Prop where
  | underway (waiting : desk.Waiting loan) (unpaid : desk.ledger.paidOut loan = start.ledger.paidOut loan)
      (active : desk.ledger.statusOf loan = some .active ↔ start.ledger.statusOf loan = some .active)
  | finished (finished : Finished (desk.chains.chainOf loan)) (active : desk.ledger.statusOf loan = some .active)
      (paid : desk.ledger.paidOut loan =
        start.ledger.paidOut loan + if start.ledger.statusOf loan = some .active then 0 else 1)

theorem approve_progresses (settings : Settings) (orderly : desk.Orderly) (mem : step ∈ desk.chains.chainOf loan)
    (pending : step.status = .pending) (now : Timestamp) (note : String) (date : Option Date)
    (payment : Option PaymentTypeId) :
    Ends ((Desk.engine settings now).perform (.approve loan step.id note date payment)) desk
      (fun _ after => after.Orderly ∧ desk.chains.openPlaces loan = step.place :: after.chains.openPlaces loan ∧
        Progress loan desk after)
      fun _ _ => True := by
  refine (Engine.approve_commits settings now orderly mem note date payment).andThen ?_ fun _ _ _ => trivial
  intro _ after ended
  obtain ⟨taken, record, found, change⟩ := ended
  have closes := orderly.chains.approval_closes mem pending now taken
  have status := Ledger.statusOf_found found
  rcases change with ⟨⟨following, isNext⟩, path, status', submits, known⟩ | ⟨isLast, change⟩
  · obtain ⟨chains, committed, turned⟩ := orderly.chains.approval_opens mem pending now isNext
    rw [isNext] at taken
    cases taken.symm.trans committed
    refine ⟨⟨turned.regular, path.inOrder orderly.ledger⟩, closes, .underway turned.form.pending (path.paidOut loan) ?_⟩
    refine ⟨path.active, fun active => ?_⟩
    rw [status] at active
    rw [known, submits.active (Option.some_inj.mp active)]
  · obtain ⟨chains, committed, turned⟩ := orderly.chains.approval_finishes mem pending now isLast
    rw [isLast] at taken
    cases taken.symm.trans committed
    rcases change with ⟨active, quiet⟩ | ⟨inactive, payout⟩
    · refine ⟨⟨turned.regular, quiet.path.inOrder orderly.ledger⟩, closes, .finished turned.form ?_ ?_⟩
      · rw [quiet.status, status, active]
      · rw [if_pos (status.trans (congrArg some active))]
        exact quiet.path.paidOut loan
    · refine ⟨⟨turned.regular, (Ledger.Course.paid payout).inOrder orderly.ledger⟩, closes,
        .finished turned.form payout.paid.2 ?_⟩
      rw [if_neg fun active => inactive (Option.some_inj.mp (status.symm.trans active))]
      exact payout.paid.1

/-- The pending step of a loan is approved again and again, each time with success, whatever operations
fail at the time. The steps are listed as they were when their turn came. -/
inductive Approvals (settings : Settings) (loan : LoanId) : Desk → List Step → Desk → Prop where
  | none (desk : Desk) : Approvals settings loan desk [] desk
  | next {desk next last : Desk} {step : Step} {visited : List Step} {answer : Answer} (failing : List LedgerOp)
      (now : Timestamp) (note : String) (date : Option Date) (payment : Option PaymentTypeId)
      (turn : step ∈ desk.chains.stepsOf loan) (pending : step.status = .pending)
      (approved : (Desk.engine settings now).perform (.approve loan step.id note date payment)
        (desk.withFailing failing) = .ok answer next)
      (rest : Approvals settings loan next visited last) : Approvals settings loan desk (step :: visited) last

theorem Progress.trans (progress : Progress loan desk next)
    (unpaid : desk.ledger.paidOut loan = start.ledger.paidOut loan)
    (active : desk.ledger.statusOf loan = some .active ↔ start.ledger.statusOf loan = some .active) :
    Progress loan start next := by
  cases progress with
  | underway waiting unpaid' active' => exact .underway waiting (unpaid'.trans unpaid) (active'.trans active)
  | finished finished active' paid =>
    refine .finished finished active' ?_
    rw [paid, unpaid]
    simp only [active]

theorem Approvals.progress (approvals : Approvals settings loan desk visited last) (orderly : desk.Orderly)
    (progress : Progress loan start desk) :
    last.Orderly ∧ desk.chains.openPlaces loan = visited.map Step.place ++ last.chains.openPlaces loan ∧
      Progress loan start last := by
  induction approvals with
  | none => exact ⟨orderly, rfl, progress⟩
  | @next desk next last step visited answer failing now note date payment turn pending approved rest ih =>
    rw [orderly.chains.stepsOf_eq] at turn
    cases progress with
    | finished finished => exact absurd finished (Chain.not_finished turn pending)
    | underway waiting unpaid active =>
      have ends :=
        approve_progresses settings (orderly.withFailing failing) turn pending now note date payment
      obtain ⟨orderly', closes, progress⟩ := ends.of_ok approved
      obtain ⟨orderlyLast, opened, progress'⟩ := ih orderly' (progress.trans unpaid active)
      refine ⟨orderlyLast, ?_, progress'⟩
      rw [List.map_cons, List.cons_append, ← opened]
      exact closes

/-- Approved again and again, a chain comes to its end with just as many approvals as it has open
steps. They are given in the order of the ranks and to none that was approved before. The loan is paid
out, unless it is active already, with the last of them and not before. -/
theorem approvals_finish (reachable : Reachable settings desk) (waits : step ∈ desk.chains.stepsOf loan)
    (pending : step.status = .pending) (approvals : Approvals settings loan desk visited last) :
    let opened := openSteps (desk.chains.stepsOf loan)
    visited.map Step.place <+: opened.map Step.place ∧
      (visited.map (·.rank)).Pairwise (· < ·) ∧
      (∀ step ∈ visited, ∀ known ∈ desk.chains.stepsOf loan, known.id = step.id → known.status ≠ .approved) ∧
      (visited.length < opened.length → (∃ step ∈ last.chains.stepsOf loan, step.status = .pending) ∧
        last.ledger.paidOut loan = desk.ledger.paidOut loan) ∧
      (visited.length = opened.length → (∀ step ∈ last.chains.stepsOf loan, step.status = .approved) ∧
        last.ledger.statusOf loan = some .active ∧
        last.ledger.paidOut loan =
          desk.ledger.paidOut loan + if desk.ledger.statusOf loan = some .active then 0 else 1) := by
  intro opened
  have orderly := reachable.orderly
  have listed : opened = openSteps (desk.chains.chainOf loan) := congrArg openSteps (orderly.chains.stepsOf_eq loan)
  rw [orderly.chains.stepsOf_eq] at waits ⊢
  obtain ⟨⟨first, numbered⟩, _, front⟩ := (orderly.chains.formed loan).at_pending waits pending
  obtain ⟨orderlyLast, places, progress⟩ := approvals.progress orderly (.underway ⟨step, waits, pending⟩ rfl Iff.rfl)
  change (openSteps (desk.chains.chainOf loan)).map Step.place = _ at places
  rw [← listed] at places
  rw [orderlyLast.chains.stepsOf_eq]
  have ascending : visited.Pairwise fun a b => a.rank < b.rank := by
    have all := numbered.places_ascending
    rw [← listed, places] at all
    exact (List.pairwise_map (f := Step.place)).mp (List.pairwise_append.mp all).1
  have length : opened.length = visited.length + (last.chains.openPlaces loan).length := by
    simpa using congrArg List.length places
  have left_open : (last.chains.openPlaces loan).length = 0 ↔
      ∀ step ∈ last.chains.chainOf loan, step.status = .approved := by
    rw [List.length_eq_zero_iff, ChainStore.openPlaces, List.map_eq_nil_iff, Chain.openSteps_eq_nil]
  refine ⟨⟨_, places.symm⟩, List.pairwise_map.mpr ascending, ?_, fun fewer => ?_, fun all => ?_⟩
  · intro visit mem known knownMem same
    have place : visit.place ∈ opened.map Step.place := places ▸ List.mem_append_left _ (List.mem_map_of_mem mem)
    obtain ⟨open_, openMem, samePlace⟩ := List.mem_map.mp place
    rw [listed, Chain.mem_openSteps] at openMem
    have isOpen := (congrArg Prod.fst samePlace).trans same.symm
    obtain rfl := numbered.eq_of_rank openMem.1 knownMem ((numbered.id_eq_iff openMem.1 knownMem).mp isOpen)
    exact openMem.2
  · cases progress with
    | underway waiting unpaid active => exact ⟨waiting, unpaid⟩
    | finished finished =>
      have none_left := left_open.mpr finished.approved
      omega
  · have approved := left_open.mp (by omega)
    cases progress with
    | underway waiting =>
      obtain ⟨waiting, mem, pending⟩ := waiting
      exact absurd (pending.symm.trans (approved waiting mem)) (by decide)
    | finished finished active paid => exact ⟨approved, active, paid⟩

/-- Three levels, of which two were approved when the chain was sent back to the first. -/
def reopened : Desk := tiered.run .standard [.command .epoch (.build 1), .command .epoch (.approve 1 1 "" none none),
  .command .epoch (.approve 1 2 "" none none), .command .epoch (.undo 1 3 "" (some 1))]

theorem reopened_finishes :
    ∃ visited last, Approvals .standard 1 reopened visited last ∧
      (reopened.chains.stepsOf 1).map (·.status) = [.pending, .approved, .queue] ∧ visited.map (·.rank) = [0, 2] ∧
      (∀ step ∈ last.chains.stepsOf 1, step.status = .approved) ∧ last.ledger.paidOut 1 = 1 := by
  have reachable : Reachable .standard reopened := ⟨Setup.tiered, tiered, _, rfl, rfl, rfl⟩
  have approvals : ∃ first second last, Approvals .standard 1 reopened [first, second] last ∧
      first ∈ reopened.chains.stepsOf 1 ∧ first.status = .pending ∧ [first.rank, second.rank] = [0, 2] :=
    ⟨_, _, _, .next [] .epoch "" none none List.mem_cons_self rfl rfl
      (.next [] .epoch "" none none (List.mem_cons_of_mem _ (List.mem_cons_of_mem _ List.mem_cons_self)) rfl rfl
        (.none _)), List.mem_cons_self, rfl, rfl⟩
  obtain ⟨first, second, last, approvals, waits, pending, ranks⟩ := approvals
  have two : (openSteps (reopened.chains.stepsOf 1)).length = 2 := by decide +kernel
  have finish := (approvals_finish reachable waits pending approvals).2.2.2.2 two.symm
  refine ⟨_, last, approvals, by decide +kernel, ranks, finish.1, ?_⟩
  rw [finish.2.2]
  decide +kernel

end Desk

end Countersign
