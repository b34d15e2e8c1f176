import Countersign.Engine.Basic

/-!
Building the chain of a loan: one step per authority level that its principal
needs, each given to the least loaded approver of that level. A level without an
approver stays unassigned; a loan that no level can serve is left aside. A scan
builds the chains of all loans that wait for one.
-/

namespace Countersign.Engine

variable {σ : Type}

def assign (engine : Engine σ) (loan : LoanId) (link : ChainLink) : Work σ Draft := do
  let candidates ← engine.services.activeApprovers link.role
  let loads ← engine.services.pendingLoads (candidates.map (·.id))
  pure ⟨loan, link.rank, (Approver.pick loads candidates).map (·.id)⟩

def build (engine : Engine σ) (id : LoanId) : Work σ Build := do
  if !(← engine.services.stepsOf id).isEmpty then Work.fail (.chainExists id)
  else do
    let loan ← engine.requireLoan id
    match ← engine.services.template loan.product with
    | none => pure (.skipped id .noTemplate)
    | some template => do
      let chain := ChainLink.chain loan.principal template.entries
      if chain.isEmpty then pure (.skipped id .noCoveringAuthority)
      else do
        let drafts ← chain.mapM (engine.assign id)
        if drafts.all (·.approver.isNone) then pure (.skipped id .noEligibleApprovers)
        else do
          let created ← engine.services.createChain engine.now drafts
          pure (.created ⟨id, (created.head?).map (·.id),
            [.chainCreated (created.map (·.id)) (created.map (·.approver))]⟩)

def awaitingChain (engine : Engine σ) : Work σ (List LoanId) := do
  let scheduled ← Work.demand .listScheduled engine.services.scheduledLoans
  scheduled.filterM fun id => do pure (← engine.services.stepsOf id).isEmpty

/-- Builds one chain within a scan: a loan that fails is noted and the scan goes on. -/
def scanLoan (engine : Engine σ) (report : ScanReport) (id : LoanId) : Work σ ScanReport :=
  fun state =>
    match engine.build id state with
    | .ok (.created _) state => .ok { report with created := report.created ++ [id] } state
    | .ok (.skipped loan reason) state =>
      .ok { report with skipped := report.skipped ++ [(loan, reason)] } state
    | .error (.failed _) state => .ok { report with failed := report.failed ++ [id] } state
    | .error (.overflow what) state => .error (.overflow what) state

def scan (engine : Engine σ) : Work σ ScanReport := do
  (← engine.awaitingChain).foldlM engine.scanLoan ⟨[], [], []⟩

end Countersign.Engine
