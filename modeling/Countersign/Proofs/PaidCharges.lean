import Countersign.Proofs.EntryOrder
import Countersign.Proofs.FeeCollection
import Mathlib.Data.List.Forall2

/-!
Which charges an approval writes off. The ledger is told the ids of what was withdrawn or put on
hold, and settles every charge of the loan that has one of them. So a charge that is settled was
collected itself, or another one was that goes by the same id; no other charge changes, and no
charge of another loan.
-/

namespace Countersign

namespace Charge

/-- The charge was outstanding, and an entry withdraws the fees or holds the charges of which it is
one, with their sum. -/
inductive Taken (scale : Nat) (charges : List Charge) (loan : LoanId) (entries : List JournalEntry)
    (charge : Charge) : Prop where
  | fee {sum : Decimal} {account : AccountId} {payment : PaymentTypeId} {transaction : TransactionId}
      (outstanding : charge ∈ outstandingOf charges .upfrontFee)
      (total : Decimal.sum ((outstandingOf charges .upfrontFee).map (·.outstanding)) = .ok sum)
      (entered : .withdraw account (sum.round scale) payment transaction ∈ entries)
  | hold {sum : Decimal} {account : AccountId} {transaction : TransactionId}
      (outstanding : charge ∈ outstandingOf charges .upfrontHold)
      (total : Decimal.sum ((outstandingOf charges .upfrontHold).map (·.outstanding)) = .ok sum)
      (entered : .hold account (some loan) (sum.round scale) transaction ∈ entries)

/-- What becomes of a charge: it stays as it is, or it is settled, and then it was taken, or another
charge of the loan was that has its id. -/
inductive WrittenOff (scale : Nat) (charges : List Charge) (loan : LoanId) (entries : List JournalEntry)
    (charge : Charge) : Charge → Prop where
  | kept : WrittenOff scale charges loan entries charge charge
  | taken (taken : charge.Taken scale charges loan entries) :
      WrittenOff scale charges loan entries charge charge.settled
  | mistaken {other : Charge} (listed : other ∈ charges) (apart : other ≠ charge) (sameId : other.id = charge.id)
      (taken : other.Taken scale charges loan entries) : WrittenOff scale charges loan entries charge charge.settled

variable {scale : Nat} {charges : List Charge} {loan : LoanId} {entries : List JournalEntry}

theorem taken_of_drawn {id : ChargeId} (drawn : Ledger.Drawn scale charges loan entries id) :
    ∃ charge ∈ charges, charge.id = id ∧ charge.Taken scale charges loan entries := by
  cases drawn with
  | withdrawn due among entered =>
    obtain ⟨sum, total, value⟩ := amount_of_due due
    rw [ids_of_due due] at among
    obtain ⟨charge, outstanding, same⟩ := List.mem_map.mp among
    exact ⟨charge, List.mem_of_mem_filter outstanding, same, .fee outstanding total (value ▸ entered)⟩
  | held due among entered =>
    obtain ⟨sum, total, value⟩ := amount_of_due due
    rw [ids_of_due due] at among
    obtain ⟨charge, outstanding, same⟩ := List.mem_map.mp among
    exact ⟨charge, List.mem_of_mem_filter outstanding, same, .hold outstanding total (value ▸ entered)⟩

theorem marked_writtenOff {paid : List ChargeId}
    (drawn : ∀ id ∈ paid, Ledger.Drawn scale charges loan entries id) :
    List.Forall₂ (WrittenOff scale charges loan entries) charges (Ledger.marked paid charges) := by
  unfold Ledger.marked
  rw [List.forall₂_map_right_iff, List.forall₂_same]
  intro charge _
  by_cases among : charge.id ∈ paid
  · obtain ⟨other, listed, sameId, taken⟩ := taken_of_drawn (drawn _ among)
    rw [if_pos (List.contains_iff_mem.mpr among)]
    by_cases itself : other = charge
    · exact .taken (itself ▸ taken)
    · exact .mistaken listed itself sameId taken
  · rw [if_neg (mt List.contains_iff_mem.mp among)]
    exact .kept

end Charge

namespace Desk

variable {settings : Settings} {desk : Desk}

/-- For every reachable desk and every approval on a loan, whatever the ledger is made to fail on and
whichever way the approval ends: a charge is settled only when it was due and its sum is withdrawn
or put on hold by this approval, or when another charge with its id was; every other charge of the
loan stays as it is, and so do the charges of all other loans. -/
theorem approval_writes_off (reachable : Reachable settings desk) (failing : List LedgerOp) (now : Timestamp)
    (loan : LoanId) (step : StepId) (note : String) (date : Option Date) (payment : Option PaymentTypeId) :
    ∃ entries,
      ((desk.withFailing failing).after settings (.command now (.approve loan step note date payment))).ledger.journal =
        (desk.withFailing failing).ledger.journal ++ entries ∧
      List.Forall₂ (Charge.WrittenOff settings.moneyScale (desk.ledger.chargesOf loan) loan entries)
        (desk.ledger.chargesOf loan)
        (((desk.withFailing failing).after settings
          (.command now (.approve loan step note date payment))).ledger.chargesOf loan) ∧
      ∀ other, other ≠ loan →
        ((desk.withFailing failing).after settings
          (.command now (.approve loan step note date payment))).ledger.chargesOf other =
          desk.ledger.chargesOf other := by
  have orderly := reachable.orderly.withFailing failing
  have about : (Command.approve loan step note date payment).loan? = some loan := rfl
  obtain ⟨entries, paid, dealing⟩ := after_dealing settings orderly now about
  refine ⟨entries, dealing.journal, ?_, dealing.others⟩
  rw [dealing.charges]
  exact Charge.marked_writtenOff dealing.drawn

/-- The last approval of the sample settles both of its charges, the fee with the withdrawal and the
other one with the hold. -/
theorem halfway_writes_off :
    ∃ entries,
      List.Forall₂ (Charge.WrittenOff Settings.standard.moneyScale (halfway.ledger.chargesOf 1) 1 entries)
        (halfway.ledger.chargesOf 1)
        (((halfway.withFailing []).after .standard (.command .epoch (.approve 1 2 "" none none))).ledger.chargesOf 1) ∧
      ((halfway.withFailing []).after .standard (.command .epoch (.approve 1 2 "" none none))).ledger.chargesOf 1 =
        (halfway.ledger.chargesOf 1).map (·.settled) := by
  obtain ⟨entries, _, writtenOff, _⟩ := approval_writes_off halfway_reachable [] .epoch 1 2 "" none none
  exact ⟨entries, writtenOff, by decide +kernel⟩

end Desk

def Setup.repeated : Setup :=
  { sample with loans := sample.loans.map fun entry =>
      { entry with charges := entry.charges ++ [⟨1, .other, .whole 7 (by decide), false⟩] } }

def Desk.repeated : Desk :=
  match Setup.repeated.install .empty with
  | .ok _ desk => desk
  | .error _ desk => desk

/-- Approved to the end, the loan has that charge settled with the fee, though nothing was taken for it. -/
theorem Desk.repeated_written_off :
    let desk := repeated.run .standard [.command .epoch (.build 1), .command .epoch (.approve 1 1 "" none none)]
    let charge : Charge := ⟨1, .other, .whole 7 (by decide), false⟩
    Setup.repeated.install .empty = .ok () repeated ∧ (desk.ledger.chargesOf 1)[2]? = some charge ∧
      ∃ answer after, (Desk.engine .standard .epoch).perform (.approve 1 2 "" none none) desk = .ok answer after ∧
        (after.ledger.chargesOf 1)[2]? = some charge.settled ∧ charge.settled ≠ charge ∧
        (after.ledger.accounts.get? 7).map (fun account => (account.available, account.held)) =
          some (.whole 470 (by decide), .whole 20 (by decide)) :=
  ⟨rfl, by decide +kernel, _, _, rfl, by decide +kernel, by decide, by decide +kernel⟩

end Countersign
