import Countersign.Proofs.ChainShape

/-!
The chain and the ledger at the end. On every run in which all sums fit, a loan is paid out
once at most, with the last of its approvals; a loan whose chain is approved is active, and
one whose chain is turned down is rejected and never paid out. A chain that has ended stays
as it is, and so do the books of its loan.
-/

namespace Countersign

open Chain (Ongoing Rejected Finished)

def JournalEntry.disburses (loan : LoanId) : JournalEntry → Bool
  | .disburse id _ _ _ => id == loan
  | _ => false

namespace Ledger

def paidOut (ledger : Ledger) (loan : LoanId) : Nat := ledger.journal.countP (·.disburses loan)

variable {loan other : LoanId} {before after : Ledger}

theorem paidOut_enter (ledger : Ledger) (entry : JournalEntry) (loan : LoanId) :
    { ledger with journal := ledger.journal ++ [entry] }.paidOut loan =
      ledger.paidOut loan + if entry.disburses loan then 1 else 0 := by
  unfold paidOut
  rw [List.countP_append, List.countP_singleton]

theorem Passage.unpaid {status target : LoanStatus} {entry : JournalEntry} (passage : Passage loan status entry target)
    (other : LoanId) : entry.disburses other = false ∧ target ≠ .active := by
  cases passage <;> exact ⟨rfl, by decide⟩

theorem Move.paidOut (move : Move loan before after) (other : LoanId) : after.paidOut other = before.paidOut other := by
  cases move with
  | note text => exact paidOut_enter before _ other
  | pass found passage =>
    apply (paidOut_enter before _ other).trans
    rw [(passage.unpaid other).1]
    rfl
  | lien found lien => rfl
  | mark found ids => rfl
  | number => rfl
  | hold amount linked found held => exact paidOut_enter before _ other
  | withdraw amount payment linked found withdrawn => exact paidOut_enter before _ other
  | release linked found released => exact paidOut_enter before _ other

theorem Move.active (move : Move loan before after) (active : after.statusOf loan = some .active) :
    before.statusOf loan = some .active := by
  cases move with
  | note text => exact active
  | pass found passage =>
    have target := (statusOf_insert before loan _).symm.trans active
    exact absurd (Option.some_inj.mp target) (passage.unpaid loan).2
  | @lien record found lien =>
    apply (statusOf_found found).trans
    exact (statusOf_insert before loan { record with lien := lien }).symm.trans active
  | mark found ids => exact active
  | number => exact active
  | hold amount linked found held => exact active
  | withdraw amount payment linked found withdrawn => exact active
  | release linked found released => exact active

theorem Path.paidOut (path : Path loan before after) (other : LoanId) : after.paidOut other = before.paidOut other := by
  refine path.keeps (fun ledger => ledger.paidOut other = before.paidOut other) ?_ rfl
  exact fun _ _ move kept => (move.paidOut other).trans kept

theorem Path.active (path : Path loan before after) (active : after.statusOf loan = some .active) :
    before.statusOf loan = some .active := by
  induction path with
  | refl => exact active
  | tail _ move ih => exact ih (move.active active)

theorem Payout.paid (payout : Payout loan before after) :
    after.paidOut loan = before.paidOut loan + 1 ∧ after.statusOf loan = some .active := by
  cases payout with
  | intro earlier disbursal later =>
    cases disbursal with
    | paid amount date payment found ready =>
      refine ⟨?_, later.status.trans (statusOf_insert _ loan _)⟩
      rw [later.path.paidOut, ← earlier.paidOut]
      exact (paidOut_enter _ _ loan).trans (by simp [JournalEntry.disburses])

/-- What a command on one loan leaves of another. -/
structure Spares (other : LoanId) (before after : Ledger) : Prop where
  record : after.loan? other = before.loan? other
  paidOut : after.paidOut other = before.paidOut other

theorem Spares.refl (other : LoanId) (ledger : Ledger) : Spares other ledger ledger := ⟨rfl, rfl⟩

theorem Spares.status (spares : Spares other before after) : after.statusOf other = before.statusOf other :=
  congrArg _ spares.record

theorem loan?_insert_other (ledger : Ledger) (different : other ≠ loan) (record : Loan) :
    { ledger with loans := ledger.loans.insert loan record }.loan? other = ledger.loan? other := by
  unfold loan?
  rw [Table.get?_insert, if_neg different]

theorem Move.spares (move : Move loan before after) (different : other ≠ loan) : Spares other before after := by
  refine ⟨?_, move.paidOut other⟩
  cases move with
  | pass found passage => exact loan?_insert_other before different _
  | lien found lien => exact loan?_insert_other before different _
  | note text => rfl
  | mark found ids => rfl
  | number => rfl
  | hold amount linked found held => rfl
  | withdraw amount payment linked found withdrawn => rfl
  | release linked found released => rfl

theorem Course.spares (course : Course loan before after) (different : other ≠ loan) : Spares other before after := by
  refine course.keeps (Spares other before) ?_ ?_ (.refl other before)
  · intro a b move kept
    have step := move.spares different
    exact ⟨step.record.trans kept.record, step.paidOut.trans kept.paidOut⟩
  · intro a b disbursal kept
    cases disbursal with
    | paid amount date payment found ready =>
      refine ⟨(loan?_insert_other a different _).trans kept.record, ?_⟩
      have apart : (JournalEntry.disburse loan amount date payment).disburses other = false :=
        beq_false_of_ne different.symm
      apply (paidOut_enter a _ other).trans
      rw [apart]
      exact kept.paidOut

end Ledger

/-! Forms exclude each other. -/

namespace Chain

variable {steps : List Step}

theorem Ongoing.pending (ongoing : Ongoing steps) : ∃ step ∈ steps, step.status = .pending := by
  obtain ⟨rank, front⟩ := ongoing.front
  obtain ⟨step, mem, there⟩ := front.present
  exact ⟨step, mem, (front.here step mem).mpr there⟩

theorem Rejected.exists_rejected (rejected : Rejected steps) : ∃ step ∈ steps, step.status = .rejected := by
  obtain ⟨rank, front⟩ := rejected.front
  obtain ⟨step, mem, there⟩ := front.present
  exact ⟨step, mem, (front.here step mem).mpr there⟩

theorem Finished.not_rejected (finished : Finished steps) : ¬Rejected steps := by
  intro rejected
  obtain ⟨step, mem, refused⟩ := rejected.exists_rejected
  exact absurd (refused.symm.trans (finished.approved step mem)) (by decide)

theorem Formed.rejected_of_mem (formed : Formed steps) {step : Step} (mem : step ∈ steps)
    (refused : step.status = .rejected) : Rejected steps := by
  rcases formed with rfl | ⟨_, ongoing | rejected | finished⟩
  · exact absurd mem List.not_mem_nil
  · obtain ⟨rank, front⟩ := ongoing.front
    have status := front.status_of_mem mem
    rw [refused] at status
    exact absurd status (by decide)
  · exact rejected
  · exact absurd (refused.symm.trans (finished.approved step mem)) (by decide)

theorem not_finished {step : Step} (mem : step ∈ steps) (pending : step.status = .pending) : ¬Finished steps := by
  intro finished
  exact absurd (pending.symm.trans (finished.approved step mem)) (by decide)

theorem not_rejected {step : Step} (mem : step ∈ steps) (pending : step.status = .pending) : ¬Rejected steps :=
  fun rejected => rejected.settled step mem pending

end Chain

namespace Desk

open Ledger (Spares Course Payout)

variable {before after : Desk} {loan : LoanId}

def Ended (desk : Desk) (loan : LoanId) : Prop :=
  Finished (desk.chains.chainOf loan) ∨ Rejected (desk.chains.chainOf loan)

theorem Ended.not_waiting (ended : before.Ended loan) : ¬before.Waiting loan := by
  intro ended
  obtain ⟨step, mem, pending⟩ := ended
  rcases ended with finished | rejected
  · exact Chain.not_finished mem pending finished
  · exact Chain.not_rejected mem pending rejected

theorem Ended.nonempty (ended : before.Ended loan) : before.chains.chainOf loan ≠ [] := by
  rcases ended with finished | rejected
  · exact finished.nonempty
  · obtain ⟨step, mem, _⟩ := rejected.exists_rejected
    exact List.ne_nil_of_mem mem

structure Spares (other : LoanId) (before after : Desk) : Prop where
  chain : after.chains.chainOf other = before.chains.chainOf other
  ledger : Ledger.Spares other before.ledger after.ledger

theorem Decided.spares {form : List Step → Prop} {change : Ledger → Ledger → Prop} {other : LoanId}
    (decided : Decided loan form change before after) (course : Course loan before.ledger after.ledger)
    (different : other ≠ loan) : Spares other before after :=
  ⟨decided.turned.others other different, course.spares different⟩

theorem Effect.spares {other : LoanId} (effect : Effect loan before after) (different : other ≠ loan) :
    Spares other before after := by
  cases effect with
  | idle same => exact same ▸ ⟨rfl, .refl _ _⟩
  | built built =>
    refine ⟨built.turned.others other different, ?_⟩
    rw [built.ledger]
    exact .refl _ _
  | moved decided heeds => exact decided.spares (.unpaid decided.ledger) different
  | finished decided active => exact decided.spares (.unpaid decided.ledger.path) different
  | paid decided => exact decided.spares (.paid decided.ledger) different
  | rejected decided found refused freed => exact decided.spares (.unpaid decided.ledger) different

theorem Turn.spares_ended (turn : Turn before after) (ended : before.Ended loan) : Spares loan before after := by
  cases turn with
  | effect other effect =>
    by_cases same : loan = other
    · subst same
      cases effect with
      | idle same => exact same ▸ ⟨rfl, .refl _ _⟩
      | built built => exact absurd built.without ended.nonempty
      | moved decided heeds => exact absurd decided.waiting ended.not_waiting
      | finished decided active => exact absurd decided.waiting ended.not_waiting
      | paid decided => exact absurd decided.waiting ended.not_waiting
      | rejected decided found refused freed => exact absurd decided.waiting ended.not_waiting
    · exact effect.spares same
  | failed other waiting through =>
    have different : loan ≠ other := fun same => ended.not_waiting (same ▸ waiting)
    exact ⟨congrArg (·.chainOf loan) through.chains, (Course.unpaid through.ledger).spares different⟩
  | switched failing same => exact same ▸ ⟨rfl, ⟨rfl, rfl⟩⟩

/-- How the books of a loan and its chain agree. The loan was active from the start, or it
is active only when it was paid out; it is not paid out before its chain is approved. -/
structure Agrees (initially : Prop) (loan : LoanId) (desk : Desk) : Prop where
  active : desk.ledger.statusOf loan = some .active → 0 < desk.ledger.paidOut loan ∨ initially
  unpaid : ¬Finished (desk.chains.chainOf loan) → desk.ledger.paidOut loan = 0
  finished : Finished (desk.chains.chainOf loan) →
    desk.ledger.statusOf loan = some .active ∧ desk.ledger.paidOut loan ≤ 1
  rejected : Rejected (desk.chains.chainOf loan) →
    ∃ record, desk.ledger.loan? loan = some record ∧ record.status = .rejected ∧ record.lien = none

variable {initially : Prop}

theorem Agrees.of_spares (agrees : Agrees initially loan before) (spares : Spares loan before after) :
    Agrees initially loan after where
  active := by
    rw [spares.ledger.status, spares.ledger.paidOut]
    exact agrees.active
  unpaid := by
    rw [spares.chain, spares.ledger.paidOut]
    exact agrees.unpaid
  finished := by
    rw [spares.chain, spares.ledger.status, spares.ledger.paidOut]
    exact agrees.finished
  rejected := by
    rw [spares.chain, spares.ledger.record]
    exact agrees.rejected

theorem Agrees.of_ongoing (agrees : Agrees initially loan before) (unfinished : ¬Finished (before.chains.chainOf loan))
    (path : Ledger.Path loan before.ledger after.ledger) (waiting : after.Waiting loan) :
    Agrees initially loan after := by
  have unended : ¬after.Ended loan := fun ended => ended.not_waiting waiting
  have paidOut := (path.paidOut loan).trans (agrees.unpaid unfinished)
  refine ⟨fun active => ?_, fun _ => paidOut, fun finished => absurd (Or.inl finished) unended,
    fun rejected => absurd (Or.inr rejected) unended⟩
  have before := agrees.active (path.active active)
  rw [agrees.unpaid unfinished] at before
  exact Or.inr (before.resolve_left (Nat.lt_irrefl 0))

theorem Waiting.not_finished (waiting : before.Waiting loan) : ¬Finished (before.chains.chainOf loan) := by
  obtain ⟨step, mem, pending⟩ := waiting
  exact Chain.not_finished mem pending

theorem Agrees.effect (agrees : Agrees initially loan before) (effect : Effect loan before after) :
    Agrees initially loan after := by
  cases effect with
  | idle same => exact same ▸ agrees
  | built built =>
    have unfinished : ¬Finished (before.chains.chainOf loan) := fun finished => finished.nonempty built.without
    refine agrees.of_ongoing unfinished ?_ built.turned.form.pending
    rw [built.ledger]
  | moved decided heeds =>
    exact agrees.of_ongoing decided.waiting.not_finished decided.ledger decided.turned.form.pending
  | finished decided active =>
    have unpaid := agrees.unpaid decided.waiting.not_finished
    have paidOut := (decided.ledger.path.paidOut loan).trans unpaid
    have status := decided.ledger.status.trans active
    refine ⟨fun _ => ?_, fun _ => paidOut, fun _ => ⟨status, ?_⟩, fun rejected => ?_⟩
    · have from_ := agrees.active active
      rw [unpaid] at from_
      exact Or.inr (from_.resolve_left (Nat.lt_irrefl 0))
    · rw [paidOut]
      exact Nat.zero_le 1
    · exact absurd rejected (Chain.Finished.not_rejected decided.turned.form)
  | paid decided =>
    obtain ⟨paidOut, status⟩ := decided.ledger.paid
    rw [agrees.unpaid decided.waiting.not_finished] at paidOut
    refine ⟨fun _ => Or.inl ?_, fun unfinished => ?_, fun _ => ⟨status, ?_⟩, fun rejected => ?_⟩
    · rw [paidOut]
      exact Nat.one_pos
    · exact absurd decided.turned.form unfinished
    · exact Nat.le_of_eq paidOut
    · exact absurd rejected (Chain.Finished.not_rejected decided.turned.form)
  | @rejected decided record found refused freed =>
    have paidOut := (decided.ledger.paidOut loan).trans (agrees.unpaid decided.waiting.not_finished)
    refine ⟨fun active => ?_, fun _ => paidOut, fun finished => ?_, fun _ => ⟨record, found, refused, freed⟩⟩
    · rw [Ledger.statusOf_found found, refused] at active
      cases active
    · exact absurd decided.turned.form finished.not_rejected

theorem Agrees.turn (turn : Turn before after) (agrees : Agrees initially loan before) :
    Agrees initially loan after := by
  cases turn with
  | effect other effect =>
    by_cases same : loan = other
    · subst same
      exact agrees.effect effect
    · exact agrees.of_spares (effect.spares same)
  | failed other waiting through =>
    by_cases same : loan = other
    · subst same
      have waiting' : after.Waiting loan := by
        unfold Waiting
        rw [through.chains]
        exact waiting
      exact agrees.of_ongoing waiting.not_finished through.ledger waiting'
    · refine agrees.of_spares ⟨?_, (Course.unpaid through.ledger).spares same⟩
      rw [through.chains]
  | switched failing same => exact agrees.of_spares (same ▸ ⟨rfl, ⟨rfl, rfl⟩⟩)

theorem Opening.agrees {start : Desk} (opening : start.Opening) (loan : LoanId) :
    Agrees (start.ledger.statusOf loan = some .active) loan start := by
  have empty : start.chains.chainOf loan = [] := by
    rw [opening.chains]
    rfl
  have unpaid : start.ledger.paidOut loan = 0 := by
    unfold Ledger.paidOut
    rw [opening.journal]
    rfl
  refine ⟨Or.inr, fun _ => unpaid, fun finished => absurd empty finished.nonempty, fun rejected => ?_⟩
  exact absurd empty (Ended.nonempty (Or.inr rejected))

/-- A chain that has ended stays as it is on every run in which all sums fit, and so do the
books of its loan. -/
theorem run_spares_ended {settings : Settings} {desk : Desk} (orderly : desk.Orderly) (ended : desk.Ended loan)
    (events : List Event) (calm : desk.calm settings events = true) : Spares loan desk (desk.run settings events) := by
  have kept := calm_run_keeps (Spares loan desk) ?_ events calm orderly ⟨rfl, .refl _ _⟩
  · exact kept.2
  · intro a b _ turn spares
    have endedHere : a.Ended loan := by
      unfold Ended
      rw [spares.chain]
      exact ended
    have next := turn.spares_ended endedHere
    exact ⟨next.chain.trans spares.chain, next.ledger.record.trans spares.ledger.record,
      next.ledger.paidOut.trans spares.ledger.paidOut⟩

theorem run_agrees {settings : Settings} {start : Desk} (opening : start.Opening) (events : List Event)
    (calm : start.calm settings events = true) (loan : LoanId) :
    (start.run settings events).Orderly ∧
      Agrees (start.ledger.statusOf loan = some .active) loan (start.run settings events) :=
  calm_run_keeps _ (fun _ _ _ turn agrees => agrees.turn turn) events calm opening.orderly (opening.agrees loan)

/-- On every run in which all sums fit: a loan is paid out once at most; one that was has
all its steps approved and is active, for ever after; one whose steps are all approved is
active, and was paid out unless it was active from the start; and one that has a rejected
step is rejected, has no lien, and is never paid out. -/
theorem run_disburses_once {setup : Setup} {start : Desk} (installed : setup.install .empty = .ok () start)
    (events : List Event) (calm : start.calm setup.settings events = true) (loan : LoanId) :
    let desk := start.run setup.settings events
    let steps := desk.chains.stepsOf loan
    desk.ledger.paidOut loan ≤ 1 ∧
      (desk.ledger.paidOut loan = 1 → ∀ rest, desk.calm setup.settings rest = true →
        Finished ((desk.run setup.settings rest).chains.stepsOf loan) ∧
          (desk.run setup.settings rest).ledger.statusOf loan = some .active) ∧
      (steps ≠ [] → (∀ step ∈ steps, step.status = .approved) → desk.ledger.statusOf loan = some .active ∧
        (start.ledger.statusOf loan ≠ some .active → desk.ledger.paidOut loan = 1)) ∧
      ((∃ step ∈ steps, step.status = .rejected) →
        (∃ record, desk.ledger.loan? loan = some record ∧ record.status = .rejected ∧ record.lien = none) ∧
          ∀ rest, desk.calm setup.settings rest = true → (desk.run setup.settings rest).ledger.paidOut loan = 0) := by
  intro desk steps
  obtain ⟨orderly, agrees⟩ : desk.Orderly ∧ Agrees _ loan desk := run_agrees (Setup.opens installed) events calm loan
  have listed : steps = desk.chains.chainOf loan := orderly.chains.stepsOf_eq loan
  refine ⟨?_, fun paidOnce rest calmRest => ?_, fun nonempty approved => ?_, fun ⟨step, mem, refused⟩ => ?_⟩
  · by_cases finished : Finished (desk.chains.chainOf loan)
    · exact (agrees.finished finished).2
    · rw [agrees.unpaid finished]
      exact Nat.zero_le 1
  · have finished : Finished (desk.chains.chainOf loan) := by
      by_contra unfinished
      exact absurd ((agrees.unpaid unfinished).symm.trans paidOnce) (by decide)
    have spares := run_spares_ended orderly (Or.inl finished) rest calmRest
    have orderlyRest := (run_continues setup.settings rest orderly).1
    rw [orderlyRest.chains.stepsOf_eq, spares.chain, spares.ledger.status]
    exact ⟨finished, (agrees.finished finished).1⟩
  · rw [listed] at nonempty approved
    have finished : Finished (desk.chains.chainOf loan) := ⟨nonempty, approved⟩
    obtain ⟨active, once⟩ := agrees.finished finished
    refine ⟨active, fun inactive => ?_⟩
    exact Nat.le_antisymm once ((agrees.active active).resolve_right inactive)
  · rw [listed] at mem
    have rejected := (orderly.chains.formed loan).rejected_of_mem mem refused
    refine ⟨agrees.rejected rejected, fun rest calmRest => ?_⟩
    have spares := run_spares_ended orderly (Or.inr rejected) rest calmRest
    rw [spares.ledger.paidOut]
    exact agrees.unpaid fun finished => finished.not_rejected rejected

theorem sample_disbursed_once :
    let desk := sample.run .standard [.command .epoch (.build 1), .command .epoch (.approve 1 1 "" none none),
      .command .epoch (.approve 1 2 "" none none)]
    desk.ledger.paidOut 1 = 1 ∧ ∀ rest, desk.calm .standard rest = true →
      Finished ((desk.run .standard rest).chains.stepsOf 1) ∧
        (desk.run .standard rest).ledger.statusOf 1 = some .active := by
  intro desk
  have once : desk.ledger.paidOut 1 = 1 := by decide +kernel
  exact ⟨once, (run_disburses_once sample_installed _ (by decide +kernel) 1).2.1 once⟩

end Desk

end Countersign
