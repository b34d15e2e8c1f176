import Countersign.Identifier
import Countersign.Table

/-!
Approvers and how work is shared among them. The approver with the fewest
pending steps is taken, of several the one with the lowest id; while nobody has
a pending step the first one listed is taken.
-/

namespace Countersign

structure Approver where
  id : ApproverId
  roles : List RoleId
  active : Bool
deriving DecidableEq

/-- Pending steps per approver; those without any need not be listed. -/
abbrev Loads := Table Nat

namespace Approver

def holdsRole (approver : Approver) (role : RoleId) : Bool := approver.roles.contains role

def load (loads : Loads) (approver : Approver) : Nat := (loads.get? approver.id).getD 0

def precedes (loads : Loads) (a b : Approver) : Bool :=
  a.load loads < b.load loads || a.load loads == b.load loads && decide (a.id < b.id)

/-- The foremost of several approvers; the earlier one among equals. -/
def leastLoaded (loads : Loads) (best : Approver) : List Approver → Approver
  | [] => best
  | next :: rest => leastLoaded loads (if next.precedes loads best then next else best) rest

def pick (loads : Loads) : List Approver → Option Approver
  | [] => none
  | first :: rest => some (if loads.rows.isEmpty then first else leastLoaded loads first rest)

end Approver

end Countersign
