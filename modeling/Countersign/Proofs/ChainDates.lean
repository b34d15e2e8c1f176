import Countersign.ChainStore
import Countersign.Proofs.TableListing

/-!
Chains without their dates. A command notes the time at which it changes a step; carried out
at another time it leaves the same chains but for that.
-/

namespace Countersign

def Step.undated (step : Step) : Step := { step with modified := .epoch }

theorem Step.id_of_undated {a b : Step} (same : a.undated = b.undated) : a.id = b.id := by
  have ids := congrArg Step.id same
  exact ids

theorem Step.insertByRank_undated (step : Step) (steps : List Step) :
    (insertByRank step steps).map undated = insertByRank step.undated (steps.map undated) := by
  induction steps with
  | nil => rfl
  | cons next rest ih =>
    change (if step.rank ≤ next.rank then step :: next :: rest else next :: insertByRank step rest).map undated =
      if step.rank ≤ next.rank then _ else _
    split
    · rfl
    · rw [List.map_cons, ih]

theorem Step.byRank_undated (steps : List Step) : (byRank steps).map undated = byRank (steps.map undated) := by
  induction steps with
  | nil => rfl
  | cons step rest ih => rw [byRank, insertByRank_undated, ih, List.map_cons, byRank]

def HistoryRow.undated (row : HistoryRow) : HistoryRow := { row with time := .epoch }

namespace Batch

structure Redated (a b : Batch) : Prop where
  updates : b.updates.map Step.undated = a.updates.map Step.undated
  history : b.history.map HistoryRow.undated = a.history.map HistoryRow.undated

theorem Redated.refl (batch : Batch) : Redated batch batch := ⟨rfl, rfl⟩

theorem stageIn_undated (step : Step) (staged : List Step) :
    (stageIn step staged).map Step.undated = stageIn step.undated (staged.map Step.undated) := by
  induction staged with
  | nil => rfl
  | cons first rest ih =>
    change (if first.id = step.id then step :: rest else first :: stageIn step rest).map Step.undated =
      if first.id = step.id then _ else _
    by_cases same : first.id = step.id
    · rw [if_pos same, if_pos same]
      rfl
    · rw [if_neg same, if_neg same, List.map_cons, ih]

variable {a b : Batch} {step step' : Step}

theorem Redated.stage (redated : Redated a b) (same : step'.undated = step.undated) :
    Redated (a.stage step) (b.stage step') := by
  refine ⟨?_, redated.history⟩
  change (stageIn step' b.updates).map Step.undated = (stageIn step a.updates).map Step.undated
  rw [stageIn_undated, stageIn_undated, redated.updates, same]

theorem Redated.record (redated : Redated a b) (id : StepId) (status : StepStatus) (now later : Timestamp) :
    Redated (a.record id status now) (b.record id status later) := by
  refine ⟨redated.updates, ?_⟩
  change (b.history ++ _).map HistoryRow.undated = (a.history ++ _).map HistoryRow.undated
  rw [List.map_append, List.map_append, redated.history]
  rfl

theorem Redated.transition (redated : Redated a b) (step : Step) (status : StepStatus) (now later : Timestamp) :
    Redated (a.transition step status now) (b.transition step status later) := by
  have staged : Redated (a.stage { step with status := status, modified := now })
      (b.stage { step with status := status, modified := later }) := redated.stage rfl
  exact staged.record step.id status now later

end Batch

namespace ChainStore

structure Redated (a b : ChainStore) : Prop where
  steps : ∀ id, (b.find? id).map Step.undated = (a.find? id).map Step.undated
  history : b.history.map HistoryRow.undated = a.history.map HistoryRow.undated
  lastId : b.lastId = a.lastId

variable {a b : ChainStore}

theorem Redated.refl (store : ChainStore) : Redated store store := ⟨fun _ => rfl, rfl, rfl⟩

theorem Redated.update (redated : Redated a b) {step step' : Step} (same : step'.undated = step.undated) :
    Redated (a.update step) (b.update step') := by
  have sameId := Step.id_of_undated same
  refine ⟨fun id => ?_, redated.history, redated.lastId⟩
  change ((b.steps.insert step'.id step').get? id).map Step.undated =
    ((a.steps.insert step.id step).get? id).map Step.undated
  rw [Table.get?_insert, Table.get?_insert, sameId]
  by_cases there : id = step.id
  · rw [if_pos there, if_pos there, Option.map_some, Option.map_some, same]
  · rw [if_neg there, if_neg there]
    exact redated.steps id

theorem Redated.updates (updates updates' : List Step) (same : updates'.map Step.undated = updates.map Step.undated)
    (redated : Redated a b) : Redated (updates.foldl ChainStore.update a) (updates'.foldl ChainStore.update b) := by
  induction updates generalizing updates' a b with
  | nil =>
    rw [List.map_eq_nil_iff.mp same]
    exact redated
  | cons step rest ih =>
    obtain ⟨step', rest', rfl, first, others⟩ := List.map_eq_cons_iff.mp same
    exact ih rest' others (redated.update first)

theorem commit_redated {batch batch' : Batch} (dates : Batch.Redated batch batch') {store after : ChainStore}
    (taken : store.commit batch = .ok after) : ∃ later, store.commit batch' = .ok later ∧ Redated after later := by
  unfold commit at taken ⊢
  cases missing : batch.updates.find? fun step => !store.steps.contains step.id with
  | some step =>
    rw [missing] at taken
    cases taken
  | none =>
    rw [missing] at taken
    cases taken
    have present : batch'.updates.find? (fun step => !store.steps.contains step.id) = none := by
      rw [List.find?_eq_none] at missing ⊢
      intro step mem
      have listed : step.undated ∈ batch.updates.map Step.undated := dates.updates ▸ List.mem_map_of_mem mem
      obtain ⟨original, mem', same⟩ := List.mem_map.mp listed
      exact Step.id_of_undated same ▸ missing original mem'
    rw [present]
    have updated := Redated.updates _ _ dates.updates (.refl store)
    refine ⟨_, rfl, updated.steps, ?_, updated.lastId⟩
    dsimp only
    rw [List.map_append, List.map_append, updated.history, dates.history]

theorem Redated.stepsOf (redated : Redated a b) (loan : LoanId) :
    (b.stepsOf loan).map Step.undated = (a.stepsOf loan).map Step.undated := by
  have listed := Table.map_values Step.undated redated.steps
  have chains (store : ChainStore) : (store.stepsOf loan).map Step.undated =
      Step.byRank ((store.allSteps.map Step.undated).filter (·.loan == loan)) := by
    unfold ChainStore.stepsOf
    rw [Step.byRank_undated, List.filter_map]
    rfl
  rw [chains, chains]
  exact congrArg (fun steps : List Step => Step.byRank (steps.filter _)) listed

theorem Redated.historyOf (redated : Redated a b) (step : StepId) :
    (b.historyOf step).map (·.status) = (a.historyOf step).map (·.status) := by
  have statuses (store : ChainStore) : (store.historyOf step).map (·.status) =
      ((store.history.map HistoryRow.undated).filter (·.step == step)).map (·.status) := by
    rw [List.filter_map, List.map_map]
    rfl
  rw [statuses, statuses, redated.history]

end ChainStore

end Countersign
