import Countersign.Step

/-!
Writing approval steps as comma-separated values, batch by batch. Each batch is
sorted by loan and rank. The header stands before the first batch that has
steps, and a batch without steps is written as the header alone.

The text of a batch goes out in pieces of 8192 bytes, the last of which is sent
off when the batch is complete. A sink may have room for only so many bytes; a
piece that does not fit breaks it.
-/

namespace Countersign

structure Sink where
  received : String
  /-- How many bytes it can still take; none means no end. -/
  room : Option Nat
deriving DecidableEq

/-- When a sink broke: as a full piece was sent off amid a batch, or at its end. -/
inductive WriteError where
  | amidBatch
  | atEnd
deriving DecidableEq, Repr

def WriteError.message : WriteError → String
  | .amidBatch => "CSV error: the disk is gone"
  | .atEnd => "IO error: the disk is gone"

namespace Sink

/-- The largest piece that is sent at once. -/
def pieceSize : Nat := 8192

/-- Sends so many bytes in pieces and tells the room that is left, or when it ran out. -/
def send (room size : Nat) : Except WriteError Nat :=
  if size ≤ pieceSize then if size ≤ room then .ok (room - size) else .error .atEnd
  else if pieceSize ≤ room then send (room - pieceSize) (size - pieceSize)
  else .error .amidBatch
termination_by size
decreasing_by
  have : 0 < pieceSize := by decide
  omega

def write (sink : Sink) (text : String) : Except WriteError Sink :=
  match sink.room with
  | none => .ok { sink with received := sink.received ++ text }
  | some room => do
    .ok ⟨sink.received ++ text, some (← send room text.utf8ByteSize)⟩

end Sink

structure StepSheet where
  sink : Sink
  /-- Whether a batch with steps has been written. -/
  begun : Bool
deriving DecidableEq

namespace StepSheet

def header : String := "loan,step,rank,status,approver\n"

def line (step : Step) : String :=
  let approver := match step.approver with
    | some id => toString id
    | none => ""
  s!"{step.loan},{step.id},{step.rank},{step.status.name},{approver}\n"

def inOrder (a b : Step) : Bool :=
  decide (a.loan < b.loan) || a.loan == b.loan && decide (a.rank ≤ b.rank)

def sorted (steps : List Step) : List Step := steps.mergeSort inOrder

def lines (steps : List Step) : String := String.join ((sorted steps).map line)

/-- The text of one batch, after what was written before. -/
def batchText (begun : Bool) (steps : List Step) : String :=
  if steps.isEmpty then header
  else if begun then lines steps
  else header ++ lines steps

def write (sheet : StepSheet) (steps : List Step) : Except WriteError StepSheet := do
  .ok ⟨← sheet.sink.write (batchText sheet.begun steps), sheet.begun || !steps.isEmpty⟩

def writeAll (sheet : StepSheet) (batches : List (List Step)) : Except WriteError StepSheet :=
  batches.foldlM write sheet

def start (room : Option Nat) : StepSheet := ⟨⟨"", room⟩, false⟩

end StepSheet

end Countersign
