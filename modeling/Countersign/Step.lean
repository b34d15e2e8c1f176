import Countersign.Calendar.Timestamp
import Countersign.Identifier

/-!
The steps of approval chains. A loan's chain has one step per rank; the step of
rank zero starts as the pending one and the rest wait in the queue. A batch
gathers what one command changes, the newest state of each step and one history
row per change, so that a store can take it over as a whole.
-/

namespace Countersign

inductive StepStatus where
  /-- The active step of a chain. -/
  | pending
  /-- Waits for the steps below it. -/
  | queue
  | approved
  | rejected
  /-- Stands in histories only: a step that changes hands stays pending. -/
  | reassigned
deriving DecidableEq, Repr

namespace StepStatus

def all : List StepStatus := [.pending, .queue, .approved, .rejected, .reassigned]

def name : StepStatus → String
  | .pending => "PENDING"
  | .queue => "QUEUE"
  | .approved => "APPROVED"
  | .rejected => "REJECTED"
  | .reassigned => "REASSIGNED"

end StepStatus

structure Step where
  id : StepId
  loan : LoanId
  rank : Nat
  status : StepStatus
  /-- Nobody, when no approver was eligible as the chain was built. -/
  approver : Option ApproverId
  created : Timestamp
  modified : Timestamp
deriving DecidableEq

namespace Step

def insertByRank (step : Step) : List Step → List Step
  | [] => [step]
  | next :: rest =>
    if step.rank ≤ next.rank then step :: next :: rest else next :: insertByRank step rest

/-- Steps in the order of their ranks; those of one rank stay in the order they had. -/
def byRank : List Step → List Step
  | [] => []
  | step :: rest => insertByRank step (byRank rest)

theorem byRank_of_ascending {steps : List Step} (ascending : steps.Pairwise fun a b => a.rank ≤ b.rank) :
    byRank steps = steps := by
  induction steps with
  | nil => rfl
  | cons step rest ih =>
    obtain ⟨lowest, others⟩ := List.pairwise_cons.1 ascending
    rw [byRank, ih others]
    cases rest with
    | nil => rfl
    | cons next rest => exact if_pos (lowest next List.mem_cons_self)

end Step

structure HistoryRow where
  step : StepId
  status : StepStatus
  time : Timestamp
deriving DecidableEq

structure Draft where
  loan : LoanId
  rank : Nat
  approver : Option ApproverId
deriving DecidableEq

def Draft.initialStatus (draft : Draft) : StepStatus :=
  if draft.rank = 0 then .pending else .queue

structure Batch where
  updates : List Step
  history : List HistoryRow
deriving DecidableEq

namespace Batch

def empty : Batch := ⟨[], []⟩

/-- Puts a step in the place of an earlier state of it, or at the end. -/
def stageIn (step : Step) : List Step → List Step
  | [] => [step]
  | staged :: rest =>
    if staged.id = step.id then step :: rest else staged :: stageIn step rest

def stage (batch : Batch) (step : Step) : Batch :=
  { batch with updates := stageIn step batch.updates }

def record (batch : Batch) (step : StepId) (status : StepStatus) (time : Timestamp) : Batch :=
  { batch with history := batch.history ++ [⟨step, status, time⟩] }

def transition (batch : Batch) (step : Step) (status : StepStatus) (time : Timestamp) : Batch :=
  (batch.stage { step with status := status, modified := time }).record step.id status time

end Batch

end Countersign
