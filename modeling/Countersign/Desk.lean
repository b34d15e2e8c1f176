import Countersign.ChainStore
import Countersign.Directory
import Countersign.Ledger.Basic
import Countersign.Services

/-!
The desk holds the books themselves: the store of chains, the ledger, and the
directory. Its services act on them directly.
-/

namespace Countersign

structure Desk where
  chains : ChainStore
  ledger : Ledger
  directory : Directory
deriving DecidableEq

namespace Desk

def empty : Desk := ⟨.empty, .empty, .empty⟩

/-- Carries out an operation of the ledger; what the ledger refuses is the answer. -/
def onLedger {α : Type} (op : Ledger.Op α) : Work Desk (Except LedgerError α) := fun desk =>
  match op desk.ledger with
  | .ok answer ledger => .ok (.ok answer) { desk with ledger := ledger }
  | .error (.refused error) ledger => .ok (.error error) { desk with ledger := ledger }
  | .error (.overflow what) ledger => .error (.overflow what) { desk with ledger := ledger }

def read {α : Type} (view : Desk → α) : Work Desk α := fun desk => .ok (view desk) desk

def createChain (now : Timestamp) (drafts : List Draft) : Work Desk (List Step) := fun desk =>
  let (steps, chains) := desk.chains.create now drafts
  .ok steps { desk with chains := chains }

def commit (batch : Batch) : Work Desk Unit := fun desk =>
  match desk.chains.commit batch with
  | .ok chains => .ok () { desk with chains := chains }
  | .error error => .error (.failed error) desk

def services : Services Desk where
  createChain := createChain
  commit := commit
  findStep step := read (·.chains.find? step)
  stepsOf loan := read (·.chains.stepsOf loan)
  historyOf step := read (·.chains.historyOf step)
  pendingLoads approvers := read (·.chains.pendingLoads approvers)
  allSteps := read (·.chains.allSteps)
  template product := read (·.directory.template? product)
  activeApprovers role := read (·.directory.activeApprovers role)
  findApprover approver := read (·.directory.approver? approver)
  submit loan amount date _ := onLedger (Ledger.submit loan amount date)
  disburse loan date amount payment _ := onLedger (Ledger.disburse loan date amount payment)
  hold amount loan account _ := onLedger (Ledger.hold amount loan account)
  release account transaction := onLedger (Ledger.release account transaction)
  withdraw amount account _ payment := onLedger (Ledger.withdraw amount account payment)
  reject loan _ _ := onLedger (Ledger.reject loan)
  undoApproval loan _ := onLedger (Ledger.undoApproval loan)
  appendNote loan text := onLedger (Ledger.appendNote loan text)
  findAccount loan := onLedger (Ledger.findAccount loan)
  findLoan loan := read fun desk => .ok (desk.ledger.loan? loan)
  scheduledLoans := read fun desk => .ok desk.ledger.scheduledLoans
  chargesOf loan := read fun desk => .ok (desk.ledger.chargesOf loan)
  markPaid loan charges := onLedger (Ledger.markPaid loan charges)
  setLien loan transaction := onLedger (Ledger.setLien loan transaction)
  forceStatus loan status := onLedger (Ledger.forceStatus loan status)

end Desk

end Countersign
