import Countersign.Proofs.Installation
import Countersign.Proofs.Run

/-!
A command that fails. Whatever it had the ledger do, the chains are as they were; and it
has done nothing at all unless it was the ledger that failed it.
-/

namespace Countersign.Desk

def withFailing (desk : Desk) (failing : List LedgerOp) : Desk :=
  { desk with ledger := { desk.ledger with failing := failing } }

variable {settings : Settings} {desk : Desk}

theorem Orderly.withFailing (orderly : desk.Orderly) (failing : List LedgerOp) : (desk.withFailing failing).Orderly :=
  ⟨orderly.chains, orderly.ledger.keyed, orderly.ledger.issued⟩

theorem Reachable.orderly (reachable : Reachable settings desk) : desk.Orderly := by
  obtain ⟨setup, start, events, _, installed, rfl⟩ := reachable
  refine (run_keeps (fun _ => True) ?_ ?_ events (Setup.opens installed).orderly trivial).1
  · exact fun _ _ _ _ _ => trivial
  · exact fun _ _ _ _ _ => trivial

/-- A command that fails leaves every chain, the history and the numbering of the steps as
they were; if it is not the ledger that failed it, it leaves everything as it was. -/
theorem failed_command_keeps (reachable : Reachable settings desk) (failing : List LedgerOp) (now : Timestamp)
    (command : Command) (error : CommandError) (after : Desk)
    (failed : (Desk.engine settings now).perform command (desk.withFailing failing) = .error (.failed error) after) :
    after.chains = desk.chains ∧
      ((∀ task, error ≠ .ledgerFailed task) → after = desk.withFailing failing) := by
  have orderly := reachable.orderly.withFailing failing
  obtain ⟨loan, declined | ⟨waiting, halted⟩⟩ := (perform_ends settings now orderly command).of_error failed
  · rw [declined.same]
    exact ⟨rfl, fun _ => rfl⟩
  · refine ⟨halted.course.chains, fun notLedger => ?_⟩
    cases halted.ofLedger with
    | refused task => exact absurd rfl (notLedger task)

/-- The sample with the first of its two steps approved. -/
def halfway : Desk := sample.run .standard [.command .epoch (.build 1), .command .epoch (.approve 1 1 "" none none)]

theorem halfway_reachable : Reachable .standard halfway := ⟨Setup.sample, sample, _, rfl, sample_installed, rfl⟩

theorem failed_disbursal_keeps :
    ∃ error after, (Desk.engine .standard .epoch).perform (.approve 1 2 "" none none) (halfway.withFailing [.disburse]) =
      .error (.failed error) after ∧ after.chains = halfway.chains :=
  ⟨_, _, rfl, (failed_command_keeps halfway_reachable [.disburse] .epoch (.approve 1 2 "" none none) _ _ rfl).1⟩

end Countersign.Desk
