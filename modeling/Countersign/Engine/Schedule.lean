import Countersign.Engine.Build

/-!
Scanning again and again. The schedule scans at every tick of its clock until it
is told to stop or nobody is left to tell it; a message that does not say stop
is passed over, and so is a scan that fails.
-/

namespace Countersign

inductive ScheduleEvent where
  | tick
  | message (stop : Bool)
  | senderGone
deriving DecidableEq, Repr

namespace Engine

variable {σ : Type}

/-- Scans for the sake of its effects. A sum that does not fit is no mere failure. -/
def tryScan (engine : Engine σ) : Work σ Unit := fun state =>
  match engine.scan state with
  | .ok _ state => .ok () state
  | .error (.failed _) state => .ok () state
  | .error (.overflow what) state => .error (.overflow what) state

def follow (engine : Engine σ) (scans : Nat) : List ScheduleEvent → Work σ (Nat × Bool)
  | [] => pure (scans, false)
  | .tick :: rest => do
    engine.tryScan
    engine.follow (scans + 1) rest
  | .message true :: _ => pure (scans, true)
  | .message false :: rest => engine.follow scans rest
  | .senderGone :: _ => pure (scans, true)

end Engine

end Countersign
