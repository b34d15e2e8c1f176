import Countersign.Proofs.Installation
import Countersign.Proofs.Run

/-!
The shape of the chains on every run. From the first command on, whatever fails, each loan
has no steps or a chain in form, and a step is the same step for ever.
-/

namespace Countersign

open ChainStore (Succeeds)

theorem Chain.Formed.not_reassigned {steps : List Step} (formed : Formed steps) {step : Step} (mem : step ∈ steps) :
    step.status ≠ .reassigned := by
  intro reassigned
  rcases formed with rfl | ⟨_, ongoing | rejected | finished⟩
  · exact absurd mem List.not_mem_nil
  · obtain ⟨rank, front⟩ := ongoing.front
    have status := front.status_of_mem mem
    rw [reassigned] at status
    exact absurd status (by decide)
  · obtain ⟨rank, front⟩ := rejected.front
    have status := front.status_of_mem mem
    rw [reassigned] at status
    exact absurd status (by decide)
  · exact absurd (reassigned.symm.trans (finished.approved step mem)) (by decide)

namespace Desk

/-- The steps that were created stay, each with its id, its loan and its rank. -/
def Continues (before after : Desk) : Prop :=
  ∀ step ∈ before.chains.allSteps, ∃ later ∈ after.chains.allSteps, Succeeds later step

theorem Continues.of_chains {before after : Desk} (same : after.chains = before.chains) : Continues before after := by
  intro step mem
  rw [same]
  exact ⟨step, mem, ⟨rfl, rfl, rfl⟩⟩

theorem Continues.trans {a b c : Desk} (first : Continues a b) (second : Continues b c) : Continues a c := by
  intro step mem
  obtain ⟨later, laterMem, kept⟩ := first step mem
  obtain ⟨last, lastMem, still⟩ := second later laterMem
  exact ⟨last, lastMem, still.id.trans kept.id, still.loan.trans kept.loan, still.rank.trans kept.rank⟩

theorem Turn.continues {before after : Desk} (turn : Turn before after) : Continues before after := by
  cases turn with
  | effect loan effect =>
    cases effect with
    | idle same => exact .of_chains (congrArg _ same)
    | built built => exact built.turned.succeeds
    | moved decided heeds => exact decided.turned.succeeds
    | finished decided active => exact decided.turned.succeeds
    | paid decided => exact decided.turned.succeeds
    | rejected decided found refused freed => exact decided.turned.succeeds
  | failed loan waiting through => exact .of_chains through.chains
  | switched failing same => exact .of_chains (by rw [same])

theorem run_continues (settings : Settings) (events : List Event) {desk : Desk} (orderly : desk.Orderly) :
    (desk.run settings events).Orderly ∧ Continues desk (desk.run settings events) := by
  refine run_keeps _ ?_ ?_ events orderly (.of_chains rfl)
  · exact fun _ _ _ turn kept => kept.trans turn.continues
  · exact fun _ _ _ ⟨_, through⟩ kept => kept.trans (.of_chains through.chains)

theorem Continues.find? {before after : Desk} (continues : Continues before after) (orderly : before.Orderly)
    (orderlyAfter : after.Orderly) {id : StepId} {step : Step} (found : before.chains.find? id = some step) :
    ∃ later, after.chains.find? id = some later ∧ later.id = step.id ∧ later.loan = step.loan ∧
      later.rank = step.rank := by
  obtain ⟨mem, named⟩ := (orderly.chains.sound.find?_eq_some_iff id step).mp found
  obtain ⟨later, laterMem, kept⟩ := continues step mem
  refine ⟨later, ?_, kept.id, kept.loan, kept.rank⟩
  exact (orderlyAfter.chains.sound.find?_eq_some_iff id later).mpr ⟨laterMem, kept.id.trans named⟩

/-- On every run the steps of each loan are in form, no step is ever stored as reassigned,
and a step keeps its id, its loan and its rank. -/
theorem run_chains_formed {setup : Setup} {start : Desk} (installed : setup.install .empty = .ok () start)
    (events : List Event) :
    let desk := start.run setup.settings events
    (∀ loan, Chain.Formed (desk.chains.stepsOf loan)) ∧
      (∀ step ∈ desk.chains.allSteps, step.status ≠ .reassigned) ∧
      ∀ (rest : List Event) (id : StepId) (step : Step), desk.chains.find? id = some step →
        ∃ later, (desk.run setup.settings rest).chains.find? id = some later ∧
          later.id = step.id ∧ later.loan = step.loan ∧ later.rank = step.rank := by
  intro desk
  have orderly : desk.Orderly := (run_continues _ events (Setup.opens installed).orderly).1
  refine ⟨fun loan => ?_, fun step mem => ?_, fun rest id step found => ?_⟩
  · rw [orderly.chains.stepsOf_eq]
    exact orderly.chains.formed loan
  · exact (orderly.chains.formed step.loan).not_reassigned (ChainStore.mem_chainOf.mpr ⟨mem, rfl⟩)
  · obtain ⟨orderlyAfter, continues⟩ := run_continues setup.settings rest orderly
    exact continues.find? orderly orderlyAfter found

theorem sample_chain_formed :
    let desk := sample.run .standard [.command .epoch (.build 1), .command .epoch (.approve 1 1 "" none none)]
    (desk.chains.stepsOf 1).map (·.status) = [.approved, .pending] ∧ Chain.Formed (desk.chains.stepsOf 1) :=
  ⟨by decide +kernel, (run_chains_formed sample_installed _).1 1⟩

end Desk

end Countersign
