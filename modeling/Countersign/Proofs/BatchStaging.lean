import Countersign.Desk
import Countersign.Proofs.ChainKeeping
import Countersign.Proofs.KeyedList

/-!
A batch against the calls that filled it. However often a step is staged, it stands in the batch once,
where it was staged first, in the state in which it was staged last; so a batch that is taken over
leaves what its calls would leave one by one. If one of its steps is not stored nothing is written, and
the first of these is named.
-/

namespace Countersign

namespace Batch

inductive Call where
  | transition (step : Step) (status : StepStatus) (time : Timestamp)
  | stage (step : Step)
  | record (step : StepId) (status : StepStatus) (time : Timestamp)

namespace Call

def update? : Call → Option Step
  | .transition step status time => some { step with status := status, modified := time }
  | .stage step => some step
  | .record _ _ _ => none

def row? : Call → Option HistoryRow
  | .transition step status time => some ⟨step.id, status, time⟩
  | .stage _ => none
  | .record step status time => some ⟨step, status, time⟩

end Call

def take (batch : Batch) : Call → Batch
  | .transition step status time => batch.transition step status time
  | .stage step => batch.stage step
  | .record step status time => batch.record step status time

def gather (calls : List Call) : Batch := calls.foldl take empty

/-- The ids that calls stage, one for each time that a step is staged. -/
def staged (calls : List Call) : List StepId := (calls.filterMap Call.update?).map (·.id)

theorem stageIn_eq_put (step : Step) (known : List Step) : stageIn step known = Keyed.put (·.id) step known := by
  induction known with
  | nil => rfl
  | cons first rest ih => rw [stageIn, Keyed.put, ih]

theorem gather_append (calls : List Call) (call : Call) : gather (calls ++ [call]) = (gather calls).take call :=
  List.foldl_concat ..

theorem gather_updates (calls : List Call) :
    (gather calls).updates = Keyed.putAll (·.id) (calls.filterMap Call.update?) := by
  induction calls using List.reverseRecOn with
  | nil => rfl
  | append_singleton calls call ih =>
    rw [gather_append, List.filterMap_append]
    cases call with
    | transition step status time =>
      change stageIn _ (gather calls).updates = Keyed.putAll _ (_ ++ [_])
      rw [stageIn_eq_put, ih, Keyed.putAll_append]
    | stage step =>
      change stageIn _ (gather calls).updates = Keyed.putAll _ (_ ++ [_])
      rw [stageIn_eq_put, ih, Keyed.putAll_append]
    | record step status time =>
      change (gather calls).updates = Keyed.putAll _ (_ ++ [])
      rw [List.append_nil, ih]

theorem gather_history (calls : List Call) : (gather calls).history = calls.filterMap Call.row? := by
  induction calls using List.reverseRecOn with
  | nil => rfl
  | append_singleton calls call ih =>
    rw [gather_append, List.filterMap_append, ← ih]
    cases call with
    | transition step status time => rfl
    | stage step => exact (List.append_nil _).symm
    | record step status time => rfl

theorem gather_ids (calls : List Call) : (gather calls).updates.map (·.id) = (staged calls).eraseDups := by
  rw [gather_updates, Keyed.map_putAll]
  rfl

end Batch

namespace ChainStore

/-- A call as if it were made on the store and not on a batch. -/
def enter (store : ChainStore) (call : Batch.Call) : ChainStore :=
  { store with
    steps := call.update?.elim store.steps fun step => store.steps.insert step.id step
    history := store.history ++ call.row?.toList }

theorem ext_find? {a b : ChainStore} (steps : ∀ id, a.find? id = b.find? id) (history : a.history = b.history)
    (lastId : a.lastId = b.lastId) : a = b := by
  obtain ⟨stepsA, historyA, lastA⟩ := a
  obtain ⟨stepsB, historyB, lastB⟩ := b
  cases Table.ext_get? steps
  cases history
  cases lastId
  rfl

theorem find?_updates (updates : List Step) (store : ChainStore) (id : StepId) :
    (updates.foldl update store).find? id = (Keyed.last (·.id) updates id).or (store.find? id) := by
  induction updates generalizing store with
  | nil => rfl
  | cons first rest ih =>
    have one : (store.update first).find? id = (Keyed.last (·.id) [first] id).or (store.find? id) := by
      rw [Keyed.last_singleton]
      change (store.steps.insert first.id first).get? id = _
      rw [Table.get?_insert]
      by_cases own : first.id = id
      · rw [if_pos own, if_pos own.symm, Option.some_or]
      · rw [if_neg own, if_neg (Ne.symm own), Option.none_or]
        rfl
    rw [List.foldl_cons, ih, one, ← Option.or_assoc, ← Keyed.last_append, List.singleton_append]

theorem enter_all (calls : List Batch.Call) (store : ChainStore) :
    calls.foldl enter store =
      { (calls.filterMap Batch.Call.update?).foldl update store with
        history := store.history ++ calls.filterMap Batch.Call.row? } := by
  induction calls using List.reverseRecOn with
  | nil => rw [List.filterMap_nil, List.filterMap_nil, List.append_nil]; rfl
  | append_singleton calls call ih =>
    rw [List.foldl_concat, ih, List.filterMap_append, List.filterMap_append, List.foldl_append, ← List.append_assoc]
    cases call <;> rfl

variable {store : ChainStore} {batch : Batch}

theorem commit_of_missing {missing : StepId}
    (first : (batch.updates.map (·.id)).find? (fun id => !store.steps.contains id) = some missing) :
    store.commit batch = .error (.stepNotFound missing) := by
  rw [List.find?_map] at first
  obtain ⟨update, found, rfl⟩ := Option.map_eq_some_iff.mp first
  rw [commit, show batch.updates.find? (fun step => !store.steps.contains step.id) = some update from found]

theorem commit_gather {calls : List Batch.Call} (stored : ∀ id ∈ Batch.staged calls, store.find? id ≠ none) :
    store.commit (Batch.gather calls) = .ok (calls.foldl enter store) := by
  have known : ∀ update ∈ (Batch.gather calls).updates, store.find? update.id ≠ none := by
    intro update listed
    have staged : update.id ∈ (Batch.gather calls).updates.map (·.id) := List.mem_map_of_mem listed
    rw [Batch.gather_ids, List.mem_eraseDups] at staged
    exact stored update.id staged
  refine commit_eq_ok_iff.mpr ⟨known, ?_⟩
  rw [enter_all, Batch.gather_history, Batch.gather_updates]
  -- The batch has the last state of a step alone, and of the calls the last one counts.
  refine ext_find? (fun id => ?_) rfl ?_
  · change (List.foldl update store _).find? id = ((Keyed.putAll _ _).foldl update store).find? id
    rw [find?_updates, find?_updates, Keyed.last_putAll]
  · exact (updates_keep _ store).2.trans (updates_keep _ store).2.symm

end ChainStore

namespace Desk

theorem commit_ok {desk : Desk} {batch : Batch} {chains : ChainStore} (taken : desk.chains.commit batch = .ok chains) :
    commit batch desk = .ok () { desk with chains := chains } := by
  unfold commit
  rw [taken]

theorem commit_error {desk : Desk} {batch : Batch} {error : CommandError}
    (refused : desk.chains.commit batch = .error error) : commit batch desk = .error (.failed error) desk := by
  unfold commit
  rw [refused]

/-- The calls that fill a batch, against the batch that is taken over. It names every step that they stage
once, in the order in which they first stage them. If all of these are stored, it leaves what the calls
leave that are made on the store one by one; if not, the first that is missing is named, and nothing has
changed. -/
theorem batch_is_its_calls (desk : Desk) (calls : List Batch.Call) :
    ((Batch.gather calls).updates.map (·.id)).Nodup ∧
      (Batch.gather calls).updates.map (·.id) = (Batch.staged calls).eraseDups ∧
      ((∀ id ∈ Batch.staged calls, desk.chains.find? id ≠ none) →
        commit (Batch.gather calls) desk = .ok () { desk with chains := calls.foldl ChainStore.enter desk.chains }) ∧
      ((∃ id ∈ Batch.staged calls, desk.chains.find? id = none) →
        ∃ earlier missing later, Batch.staged calls = earlier ++ missing :: later ∧
          (∀ id ∈ earlier, desk.chains.find? id ≠ none) ∧ desk.chains.find? missing = none ∧
          commit (Batch.gather calls) desk = .error (.failed (.stepNotFound missing)) desk) := by
  refine ⟨?_, Batch.gather_ids calls, fun stored => ?_, fun missing => ?_⟩
  · rw [Batch.gather_updates]
    exact Keyed.nodup_putAll _
  · exact commit_ok (ChainStore.commit_gather stored)
  · obtain ⟨id, staged, absent⟩ := missing
    have stops : ((Batch.staged calls).find? fun id => !desk.chains.steps.contains id).isSome := by
      rw [List.find?_isSome]
      exact ⟨id, staged, (ChainStore.lacks_iff id).mpr absent⟩
    obtain ⟨first, found⟩ := Option.isSome_iff_exists.mp stops
    have refused : desk.chains.commit (Batch.gather calls) = .error (.stepNotFound first) := by
      apply ChainStore.commit_of_missing
      rw [Batch.gather_ids, Keyed.find?_eraseDups, found]
    obtain ⟨unknown, earlier, later, split, known⟩ := List.find?_eq_some_iff_append.mp found
    refine ⟨earlier, first, later, split, fun id mem lacking => ?_, (ChainStore.lacks_iff first).mp unknown,
      commit_error refused⟩
    have there := known id mem
    rw [(ChainStore.lacks_iff id).mpr lacking] at there
    cases there

def pair : Desk := ⟨(ChainStore.empty.create .epoch [⟨1, 0, some 10⟩, ⟨1, 1, some 20⟩]).2, .empty, .empty⟩

/-- One step staged twice, another between, and a row for a step that is nowhere: the batch has two updates
and is taken over. With a step that is not stored among them it is refused, whatever comes after. -/
theorem restaged_step_commits :
    let first := ChainStore.numbered .epoch 1 ⟨1, 0, some 10⟩
    let second := ChainStore.numbered .epoch 2 ⟨1, 1, some 20⟩
    let calls : List Batch.Call := [.transition first .approved .epoch, .transition second .pending .epoch,
      .stage { first with approver := some 30 }, .record 9 .queue .epoch]
    let ghosts : List Batch.Call := [.stage { second with id := 999 }, .stage { second with id := 998 }]
    (∀ id ∈ Batch.staged calls, pair.chains.find? id ≠ none) ∧
      (Batch.gather calls).updates.map (·.id) = [1, 2] ∧
      commit (Batch.gather calls) pair = .ok () { pair with chains := calls.foldl ChainStore.enter pair.chains } ∧
      (∃ id ∈ Batch.staged (calls ++ ghosts), pair.chains.find? id = none) ∧
      (∃ earlier later, Batch.staged (calls ++ ghosts) = earlier ++ 999 :: later ∧
        ∀ id ∈ earlier, pair.chains.find? id ≠ none) ∧
      commit (Batch.gather (calls ++ ghosts)) pair = .error (.failed (.stepNotFound 999)) pair := by
  intro first second calls ghosts
  have stored : ∀ id ∈ Batch.staged calls, pair.chains.find? id ≠ none := by decide
  have lacking : ∃ id ∈ Batch.staged (calls ++ ghosts), pair.chains.find? id = none := by decide
  obtain ⟨_, ids, taken, _⟩ := batch_is_its_calls pair calls
  obtain ⟨_, _, _, refused⟩ := batch_is_its_calls pair (calls ++ ghosts)
  obtain ⟨earlier, missing, later, split, known, _, named⟩ := refused lacking
  have ran : commit (Batch.gather (calls ++ ghosts)) pair = .error (.failed (.stepNotFound 999)) pair := rfl
  cases named.symm.trans ran
  exact ⟨stored, ids.trans (by decide), taken stored, lacking, ⟨earlier, later, split, known⟩, ran⟩

end Desk

end Countersign
