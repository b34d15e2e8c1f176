import Countersign.Engine.Build
import Countersign.Engine.Decision

/-!
Carrying out a command as a whole.
-/

namespace Countersign.Engine

variable {σ : Type}

def perform (engine : Engine σ) : Command → Work σ Answer
  | .scan => do pure (.scanned (← engine.scan))
  | .build loan => do pure (.built (← engine.build loan))
  | .approve loan step note date payment => do
    pure (.done (← engine.approve loan step note date payment))
  | .reject loan step note => do pure (.done (← engine.reject loan step note))
  | .undo loan step note target => do pure (.done (← engine.undo loan step note target))
  | .reassign loan step note approver => do
    pure (.done (← engine.reassign loan step note approver))

end Countersign.Engine
