import Countersign.Proofs.Atomicity
import Countersign.Proofs.CommandEntries

/-!
The journal entries of a command. A note comes first, the fees are withdrawn before anything is
put on hold, that before the loan is paid out, and what is released is released last; nothing
is done twice. This is read off the order of the turns that operations have, whatever the
command and wherever it broke off.
-/

namespace Countersign

open Ledger (commandTurns Dealing)

def LedgerOp.turn (op : LedgerOp) : Nat := commandTurns.idxOf op

namespace Ledger

/-- Entries of the one operation come before those of the other, if there are any. -/
def Precedes (first second : LedgerOp) (entries : List JournalEntry) : Prop :=
  entries.Pairwise fun earlier later => ¬(earlier.op = second ∧ later.op = first)

/-- The order that the entries of a command are in, and what they are about. -/
structure Proceeding (ledger : Ledger) (loan : LoanId) (entries : List JournalEntry) : Prop where
  once : (entries.map (·.op)).Nodup
  noteFirst : ∀ entry ∈ entries, entry.op = .appendNote → entries.head? = some entry
  feesBeforeHold : Precedes .withdraw .hold entries
  submissionBeforeDisbursal : Precedes .submitForApproval .disburse entries
  feesBeforeDisbursal : Precedes .withdraw .disburse entries
  holdBeforeDisbursal : Precedes .hold .disburse entries
  releaseLast : ∀ entry ∈ entries, entry.op = .release → entries.getLast? = some entry
  /-- It is the hold that was placed for a disbursal which came to nothing, or the lien of the loan. -/
  released : ∀ account transaction, .release account transaction ∈ entries →
    (∃ amount, .hold account (some loan) amount transaction ∈ entries) ∧ (∀ entry ∈ entries, entry.op ≠ .disburse) ∨
      ledger.lienOf loan = some transaction
  own : ∀ entry ∈ entries, entry.Concerns ledger.links loan

variable {entries : List JournalEntry} (inTurn : (entries.map (·.op)).Sublist commandTurns)
include inTurn

theorem turns_ascend : entries.Pairwise (·.op.turn < ·.op.turn) := by
  have ascending : commandTurns.Pairwise fun earlier later => earlier.turn < later.turn := by decide
  have inherited : (entries.map (·.op)).Pairwise fun earlier later => earlier.turn < later.turn :=
    ascending.sublist inTurn
  rw [List.pairwise_map] at inherited
  exact inherited

theorem precedes_of_turn {first second : LedgerOp} (earlier : first.turn < second.turn) :
    Precedes first second entries := by
  refine (turns_ascend inTurn).imp ?_
  rintro one other less ⟨rfl, rfl⟩
  exact Nat.lt_asymm less earlier

theorem head_of_turn {entry : JournalEntry} (mem : entry ∈ entries) (least : entry.op.turn = 0) :
    entries.head? = some entry := by
  obtain ⟨front, back, rfl⟩ := List.append_of_mem mem
  have ascending := turns_ascend inTurn
  cases front with
  | nil => rfl
  | cons one rest =>
    have less := (List.pairwise_append.mp ascending).2.2 one List.mem_cons_self entry List.mem_cons_self
    rw [least] at less
    exact absurd less (Nat.not_lt_zero _)

theorem last_of_turn {entry : JournalEntry} (mem : entry ∈ entries) (latest : entry.op.turn + 1 = commandTurns.length) :
    entries.getLast? = some entry := by
  obtain ⟨front, back, rfl⟩ := List.append_of_mem mem
  have ascending := turns_ascend inTurn
  cases back with
  | nil => rw [List.getLast?_append_cons]; rfl
  | cons one rest =>
    have behind := (List.pairwise_append.mp ascending).2.1
    have less := (List.pairwise_cons.mp behind).1 one List.mem_cons_self
    have among : one.op ∈ commandTurns := inTurn.subset (List.mem_map_of_mem (by simp))
    have bounded := List.idxOf_lt_length_of_mem among
    unfold LedgerOp.turn at less latest
    omega

omit inTurn

theorem Proceeding.nothing (ledger : Ledger) (loan : LoanId) : Proceeding ledger loan [] := by
  constructor <;> simp [Precedes]

theorem Dealing.proceeds {scale : Nat} {loan : LoanId} {before after : Ledger} {paid : List ChargeId}
    (dealing : Dealing scale loan (before.lienOf loan) commandTurns entries paid before after) :
    Proceeding before loan entries where
  once := by
    have distinct : commandTurns.Nodup := by decide
    exact distinct.sublist dealing.inTurn
  noteFirst entry mem isNote := head_of_turn dealing.inTurn mem (by rw [isNote]; rfl)
  feesBeforeHold := precedes_of_turn dealing.inTurn (by decide)
  submissionBeforeDisbursal := precedes_of_turn dealing.inTurn (by decide)
  feesBeforeDisbursal := precedes_of_turn dealing.inTurn (by decide)
  holdBeforeDisbursal := precedes_of_turn dealing.inTurn (by decide)
  releaseLast entry mem isRelease := last_of_turn dealing.inTurn mem (by rw [isRelease]; rfl)
  released := dealing.frees
  own := dealing.own

end Ledger

theorem Command.eq_scan {command : Command} (about : command.loan? = none) : command = .scan := by
  cases command with
  | scan => rfl
  | build loan => cases about
  | approve loan step note date payment => cases about
  | reject loan step note => cases about
  | undo loan step note target => cases about
  | reassign loan step note approver => cases about

namespace Desk

variable {settings : Settings} {desk : Desk}

/-- For every reachable desk, whatever the ledger is made to fail on and whichever way the command
ends: what it adds to the journal is in order, is done once, and is about the loan of the
command or the account linked to it; building and scanning add nothing. -/
theorem command_entries (reachable : Reachable settings desk) (failing : List LedgerOp) (now : Timestamp)
    (command : Command) :
    ∃ entries,
      ((desk.withFailing failing).after settings (.command now command)).ledger.journal =
        (desk.withFailing failing).ledger.journal ++ entries ∧
      (∀ loan, command.loan? = some loan → (desk.withFailing failing).ledger.Proceeding loan entries) ∧
      ((command = .scan ∨ ∃ loan, command = .build loan) → entries = []) := by
  have orderly := reachable.orderly.withFailing failing
  by_cases builds : command = .scan ∨ ∃ loan, command = .build loan
  · refine ⟨[], ?_, fun loan _ => .nothing _ loan, fun _ => rfl⟩
    rw [idles_in_ledger settings orderly now builds, List.append_nil]
  · cases about : command.loan? with
    | none => exact absurd (Or.inl (Command.eq_scan about)) builds
    | some loan =>
      obtain ⟨entries, paid, dealing⟩ := after_dealing settings orderly now about
      refine ⟨entries, dealing.journal, fun other is => ?_, fun built => absurd built builds⟩
      cases is
      exact dealing.proceeds

/-- The last approval of the sample, with a note and with a ledger that does not disburse: the fees are
withdrawn, and what was put on hold is released. -/
theorem halfway_entries :
    ∃ entries,
      ((halfway.withFailing [.disburse]).after .standard
        (.command .epoch (.approve 1 2 "go" none none))).ledger.journal =
        (halfway.withFailing [.disburse]).ledger.journal ++ entries ∧
      (halfway.withFailing [.disburse]).ledger.Proceeding 1 entries ∧
      entries.map (·.op) = [.appendNote, .withdraw, .hold, .release] := by
  obtain ⟨entries, added, proceeds, -⟩ :=
    command_entries halfway_reachable [.disburse] .epoch (.approve 1 2 "go" none none)
  refine ⟨entries, added, proceeds 1 rfl, ?_⟩
  have new : (((halfway.withFailing [.disburse]).after .standard
      (.command .epoch (.approve 1 2 "go" none none))).ledger.journal.drop
        (halfway.withFailing [.disburse]).ledger.journal.length).map (·.op) =
      [.appendNote, .withdraw, .hold, .release] := by decide +kernel
  rw [added, List.drop_left] at new
  exact new

end Desk

end Countersign
