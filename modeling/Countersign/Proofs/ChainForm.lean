import Countersign.Engine.Basic
import Mathlib.Data.List.Nodup

/-!
The form of an approval chain. Its steps are numbered and ranked in a row, and their
statuses tell of one of three things: the chain waits at one step, it was turned down at
one, or all of it is approved. Below the step it stands at, all is approved; above it,
steps may still be approved from before the chain was sent back.
-/

namespace Countersign.Chain

/-- Ranks from zero on and ids from the first one on, both without a gap. -/
structure Numbered (first : StepId) (steps : List Step) : Prop where
  ranks : steps.map (·.rank) = List.range steps.length
  ids : ∀ step ∈ steps, step.id = first + step.rank

/-- A chain that stands at a rank: there, and nowhere else, a step has this status. -/
structure Front (status : StepStatus) (rank : Nat) (steps : List Step) : Prop where
  present : ∃ step ∈ steps, step.rank = rank
  here : ∀ step ∈ steps, step.status = status ↔ step.rank = rank
  below : ∀ step ∈ steps, step.rank < rank → step.status = .approved
  above : ∀ step ∈ steps, rank < step.rank → step.status = .approved ∨ step.status = .queue

structure Ongoing (steps : List Step) : Prop where
  front : ∃ rank, Front .pending rank steps
  last : ∀ step ∈ steps, step.rank + 1 = steps.length → step.status ≠ .approved

structure Rejected (steps : List Step) : Prop where
  front : ∃ rank, Front .rejected rank steps
  settled : ∀ step ∈ steps, step.status ≠ .pending

structure Finished (steps : List Step) : Prop where
  nonempty : steps ≠ []
  approved : ∀ step ∈ steps, step.status = .approved

/-- What the steps of a loan may look like. -/
def Formed (steps : List Step) : Prop :=
  steps = [] ∨ (∃ first, Numbered first steps) ∧ (Ongoing steps ∨ Rejected steps ∨ Finished steps)

/-! Ranks. -/

namespace Numbered

variable {first : StepId} {steps : List Step}

theorem ascending (numbered : Numbered first steps) : steps.Pairwise fun a b => a.rank < b.rank := by
  have inOrder : (steps.map (·.rank)).Pairwise (· < ·) := by
    rw [numbered.ranks]
    exact List.pairwise_lt_range
  exact List.pairwise_map.mp inOrder

theorem rank_lt (numbered : Numbered first steps) {step : Step} (mem : step ∈ steps) : step.rank < steps.length := by
  have listed : step.rank ∈ steps.map (·.rank) := List.mem_map_of_mem mem
  rw [numbered.ranks] at listed
  exact List.mem_range.mp listed

theorem exists_rank (numbered : Numbered first steps) {rank : Nat} (inside : rank < steps.length) :
    ∃ step ∈ steps, step.rank = rank := by
  have listed : rank ∈ steps.map (·.rank) := by
    rw [numbered.ranks]
    exact List.mem_range.mpr inside
  exact List.mem_map.mp listed

theorem id_eq_iff (numbered : Numbered first steps) {a b : Step} (memA : a ∈ steps) (memB : b ∈ steps) :
    a.id = b.id ↔ a.rank = b.rank := by
  rw [numbered.ids a memA, numbered.ids b memB]
  exact Nat.add_left_cancel_iff

theorem eq_of_rank (numbered : Numbered first steps) {a b : Step} (memA : a ∈ steps) (memB : b ∈ steps)
    (same : a.rank = b.rank) : a = b := by
  have distinct : (steps.map (·.rank)).Nodup := by
    rw [numbered.ranks]
    exact List.nodup_range
  exact List.inj_on_of_nodup_map distinct memA memB same

end Numbered

theorem Front.status_of_mem {status : StepStatus} {rank : Nat} {steps : List Step} (front : Front status rank steps)
    {step : Step} (mem : step ∈ steps) : step.status = status ∨ step.status = .approved ∨ step.status = .queue := by
  rcases Nat.lt_trichotomy step.rank rank with lower | same | higher
  · exact Or.inr (Or.inl (front.below step mem lower))
  · exact Or.inl ((front.here step mem).mpr same)
  · exact Or.inr (front.above step mem higher)

theorem Formed.at_pending {steps : List Step} (formed : Formed steps) {step : Step} (mem : step ∈ steps)
    (pending : step.status = .pending) :
    (∃ first, Numbered first steps) ∧ Ongoing steps ∧ Front .pending step.rank steps := by
  rcases formed with rfl | ⟨numbered, ongoing | rejected | finished⟩
  · cases mem
  · obtain ⟨rank, front⟩ := ongoing.front
    rw [(front.here step mem).mp pending]
    exact ⟨numbered, ongoing, front⟩
  · exact absurd pending (rejected.settled step mem)
  · exact absurd (pending.symm.trans (finished.approved step mem)) (by decide)

theorem Formed.ascending {steps : List Step} (formed : Formed steps) : steps.Pairwise fun a b => a.rank < b.rank := by
  rcases formed with rfl | ⟨⟨first, numbered⟩, _⟩
  · exact List.Pairwise.nil
  · exact numbered.ascending

/-! The steps to move on to. -/

theorem queuedAbove_some {steps : List Step} (ascending : steps.Pairwise fun a b => a.rank < b.rank) {rank : Nat}
    {next : Step} (found : queuedAbove steps rank = some next) :
    next ∈ steps ∧ rank < next.rank ∧ next.status = .queue ∧
      ∀ step ∈ steps, rank < step.rank → step.rank < next.rank → step.status ≠ .queue := by
  obtain ⟨chosen, before, after, rfl, passed⟩ := List.find?_eq_some_iff_append.mp found
  have queued : rank < next.rank ∧ next.status = .queue := by simpa using chosen
  refine ⟨by simp, queued.1, queued.2, ?_⟩
  intro step mem aboveRank belowNext
  obtain ⟨_, later, _⟩ := List.pairwise_append.mp ascending
  have higher := (List.pairwise_cons.mp later).1
  rcases List.mem_append.mp mem with earlier | rest
  · have skipped := passed step earlier
    simpa [aboveRank] using skipped
  · rcases List.mem_cons.mp rest with rfl | rest
    · exact absurd belowNext (Nat.lt_irrefl _)
    · exact absurd belowNext (Nat.lt_asymm (higher step rest))

theorem queuedAbove_none {steps : List Step} {rank : Nat} (found : queuedAbove steps rank = none) :
    ∀ step ∈ steps, rank < step.rank → step.status ≠ .queue := by
  intro step mem aboveRank
  have skipped := List.find?_eq_none.mp found step mem
  simpa [aboveRank] using skipped

theorem approvedBelow_some {steps : List Step} {rank : Nat} {target : Step}
    (found : approvedBelow steps rank = some target) :
    target ∈ steps ∧ target.rank < rank ∧ target.status = .approved := by
  have chosen := List.find?_some found
  have mem := List.mem_reverse.mp (List.mem_of_find?_eq_some found)
  have approved : target.rank < rank ∧ target.status = .approved := by simpa using chosen
  exact ⟨mem, approved.1, approved.2⟩

/-! What a decision makes of a chain. A revision keeps every rank and gives new statuses. -/

section

variable {steps : List Step} {revise : Step → Step} (ranks : ∀ step ∈ steps, (revise step).rank = step.rank)
include ranks

theorem Numbered.map {first : StepId} (numbered : Numbered first steps)
    (ids : ∀ step ∈ steps, (revise step).id = step.id) : Numbered first (steps.map revise) where
  ranks := by
    rw [List.map_map, List.length_map, ← numbered.ranks]
    exact List.map_congr_left ranks
  ids := by
    intro _ revised
    obtain ⟨step, mem, rfl⟩ := List.mem_map.mp revised
    rw [ids step mem, ranks step mem]
    exact numbered.ids step mem

theorem Front.map {status : StepStatus} {rank : Nat} (present : ∃ step ∈ steps, step.rank = rank)
    (working : status ≠ .approved ∧ status ≠ .queue)
    (here : ∀ step ∈ steps, step.rank = rank → (revise step).status = status)
    (below : ∀ step ∈ steps, step.rank < rank → (revise step).status = .approved)
    (above : ∀ step ∈ steps, rank < step.rank → (revise step).status = .approved ∨ (revise step).status = .queue) :
    Front status rank (steps.map revise) where
  present := by
    obtain ⟨step, mem, there⟩ := present
    exact ⟨revise step, List.mem_map_of_mem mem, (ranks step mem).trans there⟩
  here := by
    intro _ revised
    obtain ⟨step, mem, rfl⟩ := List.mem_map.mp revised
    rw [ranks step mem]
    refine ⟨fun is => ?_, here step mem⟩
    rcases Nat.lt_trichotomy step.rank rank with lower | same | higher
    · exact absurd (is.symm.trans (below step mem lower)) working.1
    · exact same
    · rcases above step mem higher with approved | queued
      · exact absurd (is.symm.trans approved) working.1
      · exact absurd (is.symm.trans queued) working.2
  below := by
    intro _ revised
    obtain ⟨step, mem, rfl⟩ := List.mem_map.mp revised
    rw [ranks step mem]
    exact below step mem
  above := by
    intro _ revised
    obtain ⟨step, mem, rfl⟩ := List.mem_map.mp revised
    rw [ranks step mem]
    exact above step mem

/-- The front moves on to the next step in the queue; those jumped over are approved. -/
theorem Ongoing.approve_next {rank : Nat} {next : Step} (ongoing : Ongoing steps) (front : Front .pending rank steps)
    {first : StepId} (numbered : Numbered first steps) (following : queuedAbove steps rank = some next)
    (statuses : ∀ step ∈ steps, (revise step).status =
      if step.rank = rank then .approved else if step.rank = next.rank then .pending else step.status) :
    Ongoing (steps.map revise) := by
  obtain ⟨nextMem, aboveRank, _, skipped⟩ := queuedAbove_some numbered.ascending following
  have nextInside := numbered.rank_lt nextMem
  refine ⟨⟨next.rank, Front.map ranks ⟨next, nextMem, rfl⟩ (by decide) ?_ ?_ ?_⟩, ?_⟩
  · intro step mem there
    rw [statuses step mem, if_neg (by omega), if_pos there]
  · intro step mem lower
    rw [statuses step mem]
    split
    · rfl
    · rw [if_neg (by omega)]
      rcases Nat.lt_or_gt_of_ne ‹¬step.rank = rank› with below | above
      · exact front.below step mem below
      · exact (front.above step mem above).resolve_right (skipped step mem above lower)
  · intro step mem higher
    rw [statuses step mem, if_neg (by omega), if_neg (by omega)]
    exact front.above step mem (by omega)
  · intro _ revised isLast
    obtain ⟨step, mem, rfl⟩ := List.mem_map.mp revised
    rw [ranks step mem, List.length_map] at isLast
    rw [statuses step mem, if_neg (by omega)]
    split
    · decide
    · exact ongoing.last step mem isLast

omit ranks in
theorem Ongoing.approve_last {rank : Nat} (ongoing : Ongoing steps) (front : Front .pending rank steps)
    {first : StepId} (numbered : Numbered first steps) (following : queuedAbove steps rank = none)
    (statuses : ∀ step ∈ steps, (revise step).status = if step.rank = rank then .approved else step.status) :
    Finished (steps.map revise) := by
  obtain ⟨waiting, waitingMem, there⟩ := front.present
  have inside := numbered.rank_lt waitingMem
  have lastInside : steps.length - 1 < steps.length := by omega
  obtain ⟨last, lastMem, isLast⟩ := numbered.exists_rank lastInside
  have atLast : rank = steps.length - 1 := by
    by_contra before
    have approved := (front.above last lastMem (by omega)).resolve_right
      (queuedAbove_none following last lastMem (by omega))
    exact ongoing.last last lastMem (by omega) approved
  refine ⟨?_, ?_⟩
  · intro empty
    rw [List.map_eq_nil_iff.mp empty] at waitingMem
    exact absurd waitingMem List.not_mem_nil
  · intro _ revised
    obtain ⟨step, mem, rfl⟩ := List.mem_map.mp revised
    have stepInside := numbered.rank_lt mem
    rw [statuses step mem]
    split
    · rfl
    · exact front.below step mem (by omega)

theorem Ongoing.reject {rank : Nat} (front : Front .pending rank steps)
    (statuses : ∀ step ∈ steps, (revise step).status = if step.rank = rank then .rejected else step.status) :
    Rejected (steps.map revise) := by
  have rejected : Front .rejected rank (steps.map revise) := by
    apply Front.map ranks front.present (by decide)
    · intro step mem there
      rw [statuses step mem, if_pos there]
    · intro step mem lower
      rw [statuses step mem, if_neg (by omega)]
      exact front.below step mem lower
    · intro step mem higher
      rw [statuses step mem, if_neg (by omega)]
      exact front.above step mem higher
  refine ⟨⟨rank, rejected⟩, ?_⟩
  intro _ revised
  obtain ⟨step, mem, rfl⟩ := List.mem_map.mp revised
  rw [statuses step mem]
  split
  · decide
  · intro pending
    exact absurd ((front.here step mem).mp pending) ‹_›

/-- The front goes back to an approved step; what is above it stays approved or waits. -/
theorem Ongoing.undo {rank target : Nat} (ongoing : Ongoing steps) (front : Front .pending rank steps)
    {first : StepId} (numbered : Numbered first steps) (present : ∃ step ∈ steps, step.rank = target)
    (lower : target < rank)
    (statuses : ∀ step ∈ steps, (revise step).status =
      if step.rank = rank then .queue else if step.rank = target then .pending else step.status) :
    Ongoing (steps.map revise) := by
  obtain ⟨waiting, waitingMem, there⟩ := front.present
  have inside := numbered.rank_lt waitingMem
  refine ⟨⟨target, Front.map ranks present (by decide) ?_ ?_ ?_⟩, ?_⟩
  · intro step mem there
    rw [statuses step mem, if_neg (by omega), if_pos there]
  · intro step mem below
    rw [statuses step mem, if_neg (by omega), if_neg (by omega)]
    exact front.below step mem (by omega)
  · intro step mem above
    rw [statuses step mem]
    split
    · exact Or.inr rfl
    · rw [if_neg (by omega)]
      rcases Nat.lt_or_gt_of_ne ‹¬step.rank = rank› with below | higher
      · exact Or.inl (front.below step mem below)
      · exact front.above step mem higher
  · intro _ revised isLast
    obtain ⟨step, mem, rfl⟩ := List.mem_map.mp revised
    rw [ranks step mem, List.length_map] at isLast
    rw [statuses step mem]
    split
    · decide
    · rw [if_neg (by omega)]
      exact ongoing.last step mem isLast

section

variable (statuses : ∀ step ∈ steps, (revise step).status = step.status)
include statuses

theorem Front.handOver {rank : Nat} (front : Front .pending rank steps) : Front .pending rank (steps.map revise) := by
  refine Front.map ranks front.present (by decide) ?_ ?_ ?_
  · intro step mem there
    rw [statuses step mem]
    exact (front.here step mem).mpr there
  · intro step mem lower
    rw [statuses step mem]
    exact front.below step mem lower
  · intro step mem higher
    rw [statuses step mem]
    exact front.above step mem higher

theorem Ongoing.handOver (ongoing : Ongoing steps) : Ongoing (steps.map revise) := by
  obtain ⟨rank, front⟩ := ongoing.front
  refine ⟨⟨rank, front.handOver ranks statuses⟩, ?_⟩
  intro _ revised isLast
  obtain ⟨step, mem, rfl⟩ := List.mem_map.mp revised
  rw [ranks step mem, List.length_map] at isLast
  rw [statuses step mem]
  exact ongoing.last step mem isLast

end

end

end Countersign.Chain
