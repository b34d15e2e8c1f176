import Countersign.Proofs.ChainKeeping
import Countersign.Proofs.DecisionPart

/-!
What each command makes of the chains: the chain of its loan turns from one form into
another, every step stays who it is, and the chains of other loans stay as they are.
-/

namespace Countersign.ChainStore

open Chain

structure Turned (loan : LoanId) (form : List Step → Prop) (before after : ChainStore) : Prop where
  regular : after.Regular
  form : form (after.chainOf loan)
  others : ∀ other, other ≠ loan → after.chainOf other = before.chainOf other
  succeeds : ∀ step ∈ before.allSteps, ∃ later ∈ after.allSteps, Succeeds later step

variable {store : ChainStore} {loan : LoanId}

theorem commit_turns {batch : Batch} {form : List Step → Prop} (regular : store.Regular)
    (known : ∀ update ∈ batch.updates, ∃ step ∈ store.chainOf loan, Succeeds update step)
    (numbered : ∃ first, Numbered first (store.chainOf loan))
    (forms : (∀ step ∈ store.chainOf loan, (revise batch.updates step).rank = step.rank) →
      form ((store.chainOf loan).map (revise batch.updates)))
    (oneOf : ∀ steps, form steps → Ongoing steps ∨ Rejected steps ∨ Finished steps) :
    ∃ after, store.commit batch = .ok after ∧ Turned loan form store after := by
  obtain ⟨after, committed, revised⟩ := commit_revises regular.sound known
  have kept (step : Step) (mem : step ∈ store.chainOf loan) := revised.keeps step mem
  have form := forms fun step mem => (kept step mem).rank
  obtain ⟨first, numbered⟩ := numbered
  have numbered' := numbered.map (fun step mem => (kept step mem).rank) fun step mem => (kept step mem).id
  rw [← revised.chain] at form numbered'
  refine ⟨after, committed, ⟨⟨revised.sound, fun other => ?_⟩, form, revised.others, revised.succeeds⟩⟩
  by_cases own : other = loan
  · subst own
    exact Or.inr ⟨⟨first, numbered'⟩, oneOf _ form⟩
  · rw [revised.others other own]
    exact regular.formed other

/-! Which status a step has after one change or two. -/

theorem revise_one {steps : List Step} {first : StepId} (numbered : Numbered first steps) {step update : Step}
    (mem : step ∈ steps) (same : update.id = step.id) :
    ∀ other ∈ steps, (revise [update] other).status = if other.rank = step.rank then update.status else other.status := by
  intro other otherMem
  change (replace other update).status = _
  unfold replace
  rw [same]
  by_cases there : other.id = step.id
  · rw [if_pos there, if_pos ((numbered.id_eq_iff otherMem mem).mp there)]
  · rw [if_neg there, if_neg fun rank => there ((numbered.id_eq_iff otherMem mem).mpr rank)]

theorem revise_two {steps : List Step} {first : StepId} (numbered : Numbered first steps) {a b updateA updateB : Step}
    (memA : a ∈ steps) (memB : b ∈ steps) (sameA : updateA.id = a.id) (sameB : updateB.id = b.id) :
    ∀ other ∈ steps, (revise [updateA, updateB] other).status =
      if other.rank = b.rank then updateB.status else if other.rank = a.rank then updateA.status else other.status := by
  intro other otherMem
  change (replace (replace other updateA) updateB).status = _
  have kept : (replace other updateA).id = other.id := by
    unfold replace
    split
    next there => exact there.symm
    next => rfl
  rw [replace, kept, sameB]
  by_cases there : other.id = b.id
  · rw [if_pos there, if_pos ((numbered.id_eq_iff otherMem memB).mp there)]
  · rw [if_neg there, if_neg fun rank => there ((numbered.id_eq_iff otherMem memB).mpr rank)]
    exact revise_one numbered memA sameA other otherMem

theorem updates_two {a b : Step} (distinct : a.id ≠ b.id) (status status' : StepStatus) (now : Timestamp) :
    ((Batch.empty.transition a status now).transition b status' now).updates =
      [{ a with status := status, modified := now }, { b with status := status', modified := now }] := by
  change Batch.stageIn _ [_] = _
  rw [Batch.stageIn, if_neg distinct]
  rfl

/-! The decisions. -/

section

variable {step : Step} (regular : store.Regular) (mem : step ∈ store.chainOf loan) (pending : step.status = .pending)
include regular mem pending

theorem Regular.approval_updates {next : Step} (now : Timestamp)
    (following : queuedAbove (store.chainOf loan) step.rank = some next) :
    (Engine.approval (some next) step now).updates =
      [{ next with status := .pending, modified := now }, { step with status := .approved, modified := now }] := by
  obtain ⟨⟨first, numbered⟩, _, _⟩ := (regular.formed loan).at_pending mem pending
  obtain ⟨nextMem, above, _, _⟩ := queuedAbove_some numbered.ascending following
  refine updates_two (fun same => ?_) .pending .approved now
  exact Nat.ne_of_gt above ((numbered.id_eq_iff nextMem mem).mp same)

theorem Regular.approval_known (now : Timestamp) :
    ∀ update ∈ (Engine.approval (queuedAbove (store.chainOf loan) step.rank) step now).updates,
      ∃ known ∈ store.chainOf loan, Succeeds update known := by
  intro update listed
  cases following : queuedAbove (store.chainOf loan) step.rank with
  | none =>
    rw [following] at listed
    cases List.mem_singleton.mp listed
    exact ⟨step, mem, ⟨rfl, rfl, rfl⟩⟩
  | some next =>
    rw [following, regular.approval_updates mem pending now following] at listed
    rcases List.mem_pair.mp listed with rfl | rfl
    · exact ⟨next, List.mem_of_find?_eq_some following, ⟨rfl, rfl, rfl⟩⟩
    · exact ⟨step, mem, ⟨rfl, rfl, rfl⟩⟩

theorem Regular.approval_opens {next : Step} (now : Timestamp)
    (following : queuedAbove (store.chainOf loan) step.rank = some next) :
    ∃ after, store.commit (Engine.approval (some next) step now) = .ok after ∧ Turned loan Ongoing store after := by
  obtain ⟨⟨first, numbered⟩, ongoing, front⟩ := (regular.formed loan).at_pending mem pending
  have nextMem := List.mem_of_find?_eq_some following
  have known := regular.approval_known mem pending now
  rw [following] at known
  refine commit_turns regular known ⟨first, numbered⟩ (fun ranks => ?_) fun _ => Or.inl
  apply ongoing.approve_next ranks front numbered following
  rw [regular.approval_updates mem pending now following]
  exact revise_two numbered nextMem mem rfl rfl

theorem Regular.approval_finishes (now : Timestamp) (following : queuedAbove (store.chainOf loan) step.rank = none) :
    ∃ after, store.commit (Engine.approval none step now) = .ok after ∧ Turned loan Finished store after := by
  obtain ⟨⟨first, numbered⟩, ongoing, front⟩ := (regular.formed loan).at_pending mem pending
  have known := regular.approval_known mem pending now
  rw [following] at known
  refine commit_turns regular known ⟨first, numbered⟩ (fun _ => ?_) fun _ => Or.inr ∘ Or.inr
  exact ongoing.approve_last front numbered following (revise_one numbered mem rfl)

theorem Regular.rejection_settles (now : Timestamp) :
    ∃ after, store.commit (Batch.empty.transition step .rejected now) = .ok after ∧
      Turned loan Rejected store after := by
  obtain ⟨⟨first, numbered⟩, ongoing, front⟩ := (regular.formed loan).at_pending mem pending
  refine commit_turns regular ?_ ⟨first, numbered⟩ ?_ fun _ => Or.inr ∘ Or.inl
  · intro update listed
    cases List.mem_singleton.mp listed
    exact ⟨step, mem, ⟨rfl, rfl, rfl⟩⟩
  · exact fun ranks => Ongoing.reject ranks front (revise_one numbered mem rfl)

theorem Regular.reopening_turns {target : Step} (now : Timestamp) (targetMem : target ∈ store.chainOf loan)
    (lower : target.rank < step.rank) :
    ∃ after, store.commit (Engine.reopening target step now) = .ok after ∧ Turned loan Ongoing store after := by
  obtain ⟨⟨first, numbered⟩, ongoing, front⟩ := (regular.formed loan).at_pending mem pending
  have distinct : target.id ≠ step.id := fun same =>
    Nat.ne_of_lt lower ((numbered.id_eq_iff targetMem mem).mp same)
  have updates := updates_two distinct .pending .queue now
  refine commit_turns regular ?_ ⟨first, numbered⟩ ?_ fun _ => Or.inl
  · intro update listed
    rw [Engine.reopening, updates] at listed
    rcases List.mem_pair.mp listed with rfl | rfl
    · exact ⟨target, targetMem, ⟨rfl, rfl, rfl⟩⟩
    · exact ⟨step, mem, ⟨rfl, rfl, rfl⟩⟩
  · intro ranks
    apply ongoing.undo ranks front numbered ⟨target, targetMem, rfl⟩ lower
    rw [Engine.reopening, updates]
    exact revise_two numbered targetMem mem rfl rfl

theorem Regular.handover_turns (approver : ApproverId) (now : Timestamp) :
    ∃ after, store.commit (Engine.handover step approver now) = .ok after ∧ Turned loan Ongoing store after ∧
      Front .pending step.rank (after.chainOf loan) := by
  obtain ⟨⟨first, numbered⟩, ongoing, front⟩ := (regular.formed loan).at_pending mem pending
  let handed : Step := { step with approver := some approver, modified := now }
  have statuses : ∀ other ∈ store.chainOf loan, (revise [handed] other).status = other.status := by
    intro other otherMem
    apply (revise_one numbered mem (show handed.id = step.id from rfl) other otherMem).trans
    split
    next there =>
      rw [numbered.eq_of_rank otherMem mem there]
    next => rfl
  have turns : ∃ after, store.commit (Engine.handover step approver now) = .ok after ∧
      Turned loan (fun steps => Ongoing steps ∧ Front .pending step.rank steps) store after := by
    refine commit_turns regular ?_ ⟨first, numbered⟩ ?_ fun _ form => Or.inl form.1
    · intro update listed
      cases List.mem_singleton.mp listed
      exact ⟨step, mem, ⟨rfl, rfl, rfl⟩⟩
    · exact fun ranks => ⟨ongoing.handOver ranks statuses, front.handOver ranks statuses⟩
  obtain ⟨after, committed, turned⟩ := turns
  exact ⟨after, committed, ⟨turned.regular, turned.form.1, turned.others, turned.succeeds⟩, turned.form.2⟩

end

/-! A new chain. -/

theorem add_sound {store : ChainStore} (sound : store.Sound) {step : Step} (next : step.id = store.lastId + 1) :
    (store.add step).Sound ∧ (store.add step).allSteps = store.allSteps ++ [step] := by
  have above : ∀ row ∈ store.steps.rows, row.1 < step.id := by
    intro row mem
    rw [next]
    exact Nat.lt_succ_of_le (sound.given row mem)
  refine ⟨⟨?_, ?_⟩, Table.values_insert_of_above step above⟩
  · intro row placed
    rcases Table.key_of_mem_place _ _ _ row placed with rfl | kept
    · rfl
    · exact sound.named row kept
  · intro row placed
    rcases Table.key_of_mem_place _ _ _ row placed with rfl | kept
    · exact Nat.le_refl _
    · exact Nat.le_of_lt (above row kept)

theorem create_appends (now : Timestamp) (drafts : List Draft) {store : ChainStore} (sound : store.Sound) :
    (store.create now drafts).2.Sound ∧
      (store.create now drafts).2.allSteps = store.allSteps ++ (store.create now drafts).1 := by
  induction drafts generalizing store with
  | nil => exact ⟨sound, (List.append_nil _).symm⟩
  | cons draft rest ih =>
    let step := numbered now (store.lastId + 1) draft
    obtain ⟨added, listing⟩ := add_sound sound (show step.id = store.lastId + 1 from rfl)
    obtain ⟨created, later⟩ := ih added
    refine ⟨created, ?_⟩
    change ((store.add step).create now rest).2.allSteps = _
    rw [later, listing, List.append_assoc]
    rfl

theorem create_members (now : Timestamp) {drafts : List Draft} (store : ChainStore) {first : StepId} {rank : Nat}
    (start : store.lastId + 1 = first + rank) (ranks : drafts.map (·.rank) = List.range' rank drafts.length)
    (owned : ∀ draft ∈ drafts, draft.loan = loan) :
    (store.create now drafts).1.map (·.rank) = drafts.map (·.rank) ∧
      ∀ step ∈ (store.create now drafts).1, step.id = first + step.rank ∧ step.loan = loan ∧
        step.status = if step.rank = 0 then .pending else .queue := by
  induction drafts generalizing store rank with
  | nil => exact ⟨rfl, fun _ none => absurd none List.not_mem_nil⟩
  | cons draft rest ih =>
    rw [List.map_cons, List.length_cons, List.range'_succ, List.cons.injEq] at ranks
    obtain ⟨headRank, tailRanks⟩ := ranks
    let step := numbered now (store.lastId + 1) draft
    have restStart : (store.add step).lastId + 1 = first + (rank + 1) := by
      change store.lastId + 1 + 1 = _
      rw [start, Nat.add_assoc]
    obtain ⟨sameRanks, members⟩ := ih (store.add step) restStart tailRanks fun draft later =>
      owned draft (List.mem_cons_of_mem _ later)
    constructor
    · change draft.rank :: ((store.add step).create now rest).1.map (·.rank) = _
      rw [sameRanks]
      rfl
    · intro created mem
      rcases List.mem_cons.mp mem with rfl | later
      · refine ⟨?_, owned draft List.mem_cons_self, rfl⟩
        change store.lastId + 1 = first + draft.rank
        rw [headRank, start]
      · exact members created later

theorem create_turns (now : Timestamp) {drafts : List Draft} (regular : store.Regular)
    (without : store.chainOf loan = []) (some_ : drafts ≠ [])
    (ranks : drafts.map (·.rank) = List.range drafts.length) (owned : ∀ draft ∈ drafts, draft.loan = loan) :
    Turned loan Ongoing store (store.create now drafts).2 ∧
      Front .pending 0 ((store.create now drafts).2.chainOf loan) := by
  rw [List.range_eq_range'] at ranks
  obtain ⟨sound, listing⟩ := create_appends now drafts regular.sound
  obtain ⟨createdRanks, created⟩ := create_members now store (Nat.add_zero _).symm ranks owned
  generalize store.create now drafts = result at sound listing createdRanks created
  obtain ⟨steps, after⟩ := result
  dsimp only at sound listing createdRanks created ⊢
  have own : after.chainOf loan = steps := by
    unfold chainOf at without ⊢
    rw [listing, List.filter_append, without, List.nil_append, List.filter_eq_self]
    exact fun step mem => beq_iff_eq.mpr (created step mem).2.1
  have others (other : LoanId) (different : other ≠ loan) : after.chainOf other = store.chainOf other := by
    unfold chainOf
    rw [listing, List.filter_append]
    refine (congrArg _ (List.filter_eq_nil_iff.mpr fun step mem is => ?_)).trans (List.append_nil _)
    exact different ((beq_iff_eq.mp is).symm.trans (created step mem).2.1)
  have length : steps.length = drafts.length := by
    simpa using congrArg List.length createdRanks
  have numbered : Numbered (store.lastId + 1) steps :=
    ⟨by rw [createdRanks, ranks, length, List.range_eq_range'], fun step mem => (created step mem).1⟩
  have nonempty : 0 < steps.length := by
    rw [length]
    exact List.length_pos_of_ne_nil some_
  have front : Front .pending 0 steps := by
    refine ⟨numbered.exists_rank nonempty, ?_, fun _ _ lower => absurd lower (Nat.not_lt_zero _), ?_⟩
    · intro step mem
      rw [(created step mem).2.2]
      split <;> simp_all
    · intro step mem above
      rw [(created step mem).2.2, if_neg (Nat.ne_of_gt above)]
      exact Or.inr rfl
  have ongoing : Ongoing steps := by
    refine ⟨⟨0, front⟩, ?_⟩
    intro step mem _
    rw [(created step mem).2.2]
    split <;> decide
  refine ⟨⟨⟨sound, fun other => ?_⟩, own ▸ ongoing, others, ?_⟩, own ▸ front⟩
  · by_cases same : other = loan
    · subst same
      rw [own]
      exact Or.inr ⟨⟨_, numbered⟩, Or.inl ongoing⟩
    · rw [others other same]
      exact regular.formed other
  · intro step mem
    refine ⟨step, ?_, ⟨rfl, rfl, rfl⟩⟩
    rw [listing]
    exact List.mem_append_left _ mem

end Countersign.ChainStore
