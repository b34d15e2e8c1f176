import Countersign.Approver
import Countersign.Error
import Countersign.Step

/-!
The store of approval steps and their history. Steps are numbered as they are
created, from one on. A batch is taken over as a whole or, when it names a step
that is not there, not at all.
-/

namespace Countersign

structure ChainStore where
  steps : Table Step
  history : List HistoryRow
  lastId : StepId
deriving DecidableEq

namespace ChainStore

def empty : ChainStore := ⟨.empty, [], 0⟩

def numbered (now : Timestamp) (id : StepId) (draft : Draft) : Step :=
  { id := id, loan := draft.loan, rank := draft.rank, status := draft.initialStatus,
    approver := draft.approver, created := now, modified := now }

def add (store : ChainStore) (step : Step) : ChainStore :=
  { steps := store.steps.insert step.id step
    history := store.history ++ [⟨step.id, step.status, step.created⟩]
    lastId := step.id }

def create (store : ChainStore) (now : Timestamp) : List Draft → List Step × ChainStore
  | [] => ([], store)
  | draft :: rest =>
    let step := numbered now (store.lastId + 1) draft
    let (steps, store) := (store.add step).create now rest
    (step :: steps, store)

def update (store : ChainStore) (step : Step) : ChainStore :=
  { store with steps := store.steps.insert step.id step }

def commit (store : ChainStore) (batch : Batch) : Except CommandError ChainStore :=
  match batch.updates.find? fun step => !store.steps.contains step.id with
  | some missing => .error (.stepNotFound missing.id)
  | none =>
    let updated := batch.updates.foldl update store
    .ok { updated with history := updated.history ++ batch.history }

def find? (store : ChainStore) (step : StepId) : Option Step := store.steps.get? step

def allSteps (store : ChainStore) : List Step := store.steps.values

/-- The steps of a loan by rank, those of one rank by id. -/
def stepsOf (store : ChainStore) (loan : LoanId) : List Step :=
  Step.byRank (store.allSteps.filter (·.loan == loan))

def historyOf (store : ChainStore) (step : StepId) : List HistoryRow :=
  store.history.filter (·.step == step)

def pendingCount (store : ChainStore) (approver : ApproverId) : Nat :=
  store.allSteps.countP fun step => step.status == .pending && step.approver == some approver

/-- The pending steps of these approvers, without those that have none. -/
def pendingLoads (store : ChainStore) (approvers : List ApproverId) : Loads :=
  approvers.foldl (fun loads approver =>
    let count := store.pendingCount approver
    if count = 0 then loads else loads.insert approver count) .empty

end ChainStore

end Countersign
