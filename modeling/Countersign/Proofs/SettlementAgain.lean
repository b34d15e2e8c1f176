import Countersign.Proofs.LedgerOrder
import Countersign.Proofs.Likeness
import Countersign.Proofs.SettlementPart
import Mathlib.Data.List.Nodup

/-!
Settling again. Fees that were withdrawn are marked paid, and are not due another time; the
charges to be held are still due as before. A hold that was placed for a disbursal that
failed is released again, so nothing is left of it.
-/

namespace Countersign

namespace Charge

theorem outstanding_fees_marked (charges : List Charge) :
    outstandingOf (Ledger.marked ((outstandingOf charges .upfrontFee).map (·.id)) charges) .upfrontFee = [] := by
  apply List.filter_eq_nil_iff.mpr
  intro charge mem outstanding
  obtain ⟨original, listed, rfl⟩ := List.mem_map.mp mem
  by_cases known : ((outstandingOf charges .upfrontFee).map (·.id)).contains original.id = true
  · rw [if_pos known] at outstanding
    simp [isOutstanding, settled] at outstanding
  · rw [if_neg known] at outstanding
    have due : original ∈ outstandingOf charges .upfrontFee := List.mem_filter.mpr ⟨listed, outstanding⟩
    exact known (List.contains_iff_mem.mpr (List.mem_map_of_mem due))

theorem kind_of_outstanding {charge : Charge} {kind : ChargeKind} (outstanding : charge.isOutstanding kind = true) :
    charge.kind = kind := by
  unfold isOutstanding at outstanding
  simp only [Bool.and_eq_true, beq_iff_eq] at outstanding
  exact outstanding.1.1

theorem outstanding_marked_others {charges : List Charge} {ids : List ChargeId} {kind : ChargeKind}
    (others : ∀ charge ∈ charges, charge.id ∈ ids → charge.kind ≠ kind) :
    outstandingOf (Ledger.marked ids charges) kind = outstandingOf charges kind := by
  have unmarked (charge : Charge) (mem : charge ∈ charges) (outstanding : charge.isOutstanding kind = true) :
      ids.contains charge.id ≠ true := fun known =>
    others charge mem (List.contains_iff_mem.mp known) (kind_of_outstanding outstanding)
  change (charges.map _).filter _ = charges.filter _
  rw [List.filter_map]
  have filtered : charges.filter ((·.isOutstanding kind) ∘ fun charge =>
      if ids.contains charge.id then charge.settled else charge) = charges.filter (·.isOutstanding kind) := by
    apply List.filter_congr
    intro charge mem
    dsimp only [Function.comp_apply]
    split
    next known => simp [isOutstanding, settled, others charge mem (List.contains_iff_mem.mp known)]
    next => rfl
  rw [filtered]
  refine (List.map_congr_left fun charge mem => ?_).trans (List.map_id _)
  obtain ⟨listed, outstanding⟩ := List.mem_filter.mp mem
  exact if_neg (unmarked charge listed outstanding)

theorem outstanding_holds_marked {charges : List Charge} (distinct : (charges.map (·.id)).Nodup) :
    outstandingOf (Ledger.marked ((outstandingOf charges .upfrontFee).map (·.id)) charges) .upfrontHold =
      outstandingOf charges .upfrontHold := by
  apply outstanding_marked_others
  intro charge mem known isHold
  obtain ⟨fee, due, named⟩ := List.mem_map.mp known
  obtain ⟨listed, outstanding⟩ := List.mem_filter.mp due
  rw [← List.inj_on_of_nodup_map distinct listed mem named, kind_of_outstanding outstanding] at isHold
  cases isHold

theorem ids_of_due {charges : List Charge} {kind : ChargeKind} {scale : Nat} {ids : List ChargeId} {amount : Amount}
    (due : Charge.due charges kind scale = .ok (some (ids, amount))) : ids = (outstandingOf charges kind).map (·.id) := by
  unfold Charge.due at due
  cases summed : total (outstandingOf charges kind) scale with
  | error what =>
    rw [summed] at due
    cases due
  | ok sum =>
    rw [summed] at due
    obtain ⟨_, _, same⟩ := Option.map_eq_some_iff.mp (Except.ok.inj due)
    exact (Prod.mk.inj same).1.symm

theorem due_of_nothing {charges : List Charge} {kind : ChargeKind} (nothing : outstandingOf charges kind = [])
    (scale : Nat) : due charges kind scale = .ok none := by
  have rounded : Decimal.round scale .zero = .zero := by
    have kept : Decimal.cutTo Rounding.halfEven Rounding.halfEven_le scale .zero = .zero := dif_pos (Nat.zero_le scale)
    unfold Decimal.round
    rw [kept]
    rfl
  have noAmount : Amount.of? .zero = none := dif_neg (by decide)
  unfold due total
  rw [nothing]
  change Except.ok ((Amount.of? (Decimal.round scale .zero)).map _) = _
  rw [rounded, noAmount]
  rfl

end Charge

namespace Ledger

variable {a b after : Ledger} {loan : LoanId} {id : AccountId}

theorem withdraw_again (alike : Alike a b) {amount : Amount} {payment : PaymentTypeId} {transaction : TransactionId}
    (ran : exactWithdraw amount id payment a = .ok transaction after) :
    Ends (withdraw amount id payment) b (fun _ later => later.failing = b.failing ∧ Alike after later)
      fun _ later => b.failing ≠ [] ∧ Alike a later := by
  obtain ⟨account, changed, found, withdrawn, shifts, rfl⟩ := (exactWithdraw_ends amount id payment a).of_ok ran
  obtain ⟨account', found', same⟩ := alike.account found
  obtain ⟨changed', withdrawn', balance⟩ := Account.withdraw_again same withdrawn shifts
  apply (move_known .withdraw id (fun _ account => account.withdraw amount.value) (.withdraw id amount.value payment)
    found' withdrawn').imp
  · intro _ _ ⟨_, same⟩
    subst same
    exact ⟨rfl, alike.numbered_moved id balance _ _⟩
  · intro _ _ ⟨failing, same⟩
    subst same
    exact ⟨ne_nil_of_failing failing, alike⟩

theorem markPaid_again (alike : Alike a b) {ids : List ChargeId} (ran : markPaid loan ids a = .ok () after) :
    Ends (markPaid loan ids) b (fun _ later => later.failing = b.failing ∧ Alike after later) fun _ _ => False := by
  obtain ⟨charges, found, rfl⟩ := (markPaid_ends loan ids a).of_ok ran
  rw [← alike.charges] at found
  apply (markPaid_ends loan ids b).imp
  · intro _ _ ended
    obtain ⟨_, is, rfl⟩ := ended
    cases found.symm.trans is
    exact ⟨rfl, alike.withMarked loan ids charges⟩
  · intro _ _ ended
    obtain ⟨missing, _⟩ := ended
    cases found.symm.trans missing

/-- A hold that was placed on the second ledger as it was on the first, and can be taken
back there. -/
structure Upheld (id : AccountId) (amount : Decimal) (a after b later : Ledger)
    (transaction transaction' : TransactionId) : Prop where
  failing : later.failing = b.failing
  near : Near a.lastTransaction after later
  fresh : a.lastTransaction < transaction ∧ a.lastTransaction < transaction'
  first : after.holdOf id transaction = some amount
  second : later.holdOf id transaction' = some amount
  freed : .release ∉ b.failing → ∃ freed, release id transaction' later = .ok () freed ∧
    freed.failing = b.failing ∧ Alike a freed

theorem Alike.near_moved (alike : Alike a b) {changed changed' : Account}
    (available : changed'.available.units = changed.available.units)
    (held : changed'.held.units = changed.held.units)
    (holds : ∀ transaction ≤ a.lastTransaction, changed'.holds.get? transaction = changed.holds.get? transaction)
    (entry entry' : JournalEntry) :
    Near a.lastTransaction (a.numbered.moved id changed entry) (b.numbered.moved id changed' entry') := by
  have near := alike.near a.lastTransaction
  refine ⟨alike.loans, alike.charges, alike.links, fun other => ?_, fun other transaction earlier => ?_⟩
  · rw [balances_moved, balances_moved, available, held]
    by_cases there : other = id
    · rw [if_pos there, if_pos there]
    · rw [if_neg there, if_neg there]
      exact near.balances other
  · rw [holdOf_moved, holdOf_moved, holds transaction earlier]
    by_cases there : other = id
    · rw [if_pos there, if_pos there]
    · rw [if_neg there, if_neg there]
      exact near.holds other transaction earlier

theorem Alike.put_back (alike : Alike a b) {account changed freed : Account}
    (found : a.accounts.get? id = some account) (back : freed.balance = account.balance) (entry entry' : JournalEntry) :
    Alike a ((b.numbered.moved id changed entry).moved id freed entry') := by
  refine ⟨alike.loans, alike.charges, alike.links, fun other => ?_, Nat.le_succ_of_le alike.numbers⟩
  change (((b.accounts.insert id changed).insert id freed).get? other).map Account.balance = _
  rw [Table.get?_insert, Table.get?_insert]
  by_cases there : other = id
  · rw [if_pos there, there, found, Option.map_some, Option.map_some, back]
  · rw [if_neg there, if_neg there]
    exact alike.accounts other

theorem Alike.hold_taken_back (alike : Alike a b) (inOrder : a.InOrder) {account account' changed : Account}
    {amount : Decimal} (found : a.accounts.get? id = some account) (same : account'.balance = account.balance)
    (held : account'.hold (b.lastTransaction + 1) amount = .ok changed)
    (shifts : account'.Shifts (-amount.units) amount.units changed) (working : .release ∉ b.failing)
    (entry : JournalEntry) :
    ∃ freed, release id (b.lastTransaction + 1) (b.numbered.moved id changed entry) = .ok () freed ∧
      freed.failing = b.failing ∧ Alike a freed := by
  have fresh : account'.holds.get? (b.lastTransaction + 1) = none := by
    rw [(Account.Balance.mk.inj same).2.2]
    by_contra taken
    obtain ⟨sum, is⟩ := Option.ne_none_iff_exists'.mp taken
    have issued := inOrder.issued id account _ sum found is
    exact absurd alike.numbers (Nat.not_le_of_lt issued)
  obtain ⟨freed, released, back⟩ := Account.release_hold held shifts fresh
  have there : (b.numbered.moved id changed entry).accounts.get? id = some changed := Table.get?_insert_self ..
  exact ⟨_, release_known there released working, rfl, alike.put_back found (back.trans same) _ _⟩

theorem hold_again (alike : Alike a b) (inOrder : a.InOrder) {amount : Amount} {transaction : TransactionId}
    (ran : exactHold amount (some loan) id a = .ok transaction after) :
    Ends (hold amount (some loan) id) b
      (fun transaction' later => Upheld id amount.value a after b later transaction transaction')
      fun _ later => b.failing ≠ [] ∧ Alike a later := by
  obtain ⟨rfl, account, changed, found, held, shifts, rfl⟩ := (exactHold_ends amount (some loan) id a).of_ok ran
  obtain ⟨account', found', same⟩ := alike.account found
  obtain ⟨changed', held', balance⟩ := Account.hold_again same held shifts (b.lastTransaction + 1)
  obtain ⟨_, _, _, _, _, rfl⟩ := (Account.hold_ok_iff ..).mp held
  obtain ⟨sameAvailable, sameHeld, sameHolds⟩ := Account.Balance.mk.inj balance
  apply (move_known .hold id (fun transaction account => account.hold transaction amount.value)
    (.hold id (some loan) amount.value) found' held').imp
  · intro _ _ ⟨isNext, isMoved⟩
    subst isNext
    subst isMoved
    have earlierHolds : ∀ transaction ≤ a.lastTransaction, changed'.holds.get? transaction =
        (account.holds.insert (a.lastTransaction + 1) amount.value).get? transaction := by
      intro transaction earlier
      rw [sameHolds, Table.get?_insert, Table.get?_insert]
      rw [if_neg (Nat.ne_of_lt (Nat.lt_succ_of_le (Nat.le_trans earlier alike.numbers)))]
      rw [if_neg (Nat.ne_of_lt (Nat.lt_succ_of_le earlier))]
    -- On the second account the sums are as exact as on the first, though its decimals may differ.
    have shifts' : account'.Shifts (-amount.value.units) amount.value.units changed' := by
      obtain ⟨accountAvailable, accountHeld, _⟩ := Account.Balance.mk.inj same
      refine ⟨sameAvailable.trans (shifts.1.trans ?_), sameHeld.trans (shifts.2.trans ?_)⟩
      · rw [accountAvailable]
      · rw [accountHeld]
    constructor
    case failing => rfl
    case near => exact alike.near_moved sameAvailable sameHeld earlierHolds _ _
    case fresh => exact ⟨Nat.lt_succ_self _, Nat.lt_succ_of_le alike.numbers⟩
    case first => rw [holdOf_moved, if_pos rfl, Table.get?_insert_self]
    case second => rw [holdOf_moved, if_pos rfl, sameHolds, Table.get?_insert_self]
    case freed => exact fun working => alike.hold_taken_back inOrder found same held' shifts' working _
  · intro _ _ ⟨failing, isBefore⟩
    subst isBefore
    exact ⟨ne_nil_of_failing failing, alike⟩

inductive FeesPaid (loan : LoanId) (id : AccountId) (payment : PaymentTypeId) (scale : Nat) (a : Ledger) :
    Ledger → Prop where
  | nothing (due : Charge.due (a.chargesOf loan) .upfrontFee scale = .ok none) : FeesPaid loan id payment scale a a
  | paid {ids : List ChargeId} {amount : Amount} {transaction : TransactionId} {withdrawn after : Ledger}
      (due : Charge.due (a.chargesOf loan) .upfrontFee scale = .ok (some (ids, amount)))
      (withdrawal : exactWithdraw amount id payment a = .ok transaction withdrawn)
      (marking : markPaid loan ids withdrawn = .ok () after) : FeesPaid loan id payment scale a after

namespace FeesPaid

variable {payment : PaymentTypeId} {scale : Nat}

theorem quietPath (fees : FeesPaid loan id payment scale a after) (linked : a.links.get? loan = some id) :
    QuietPath loan a after := by
  cases fees with
  | nothing due => exact .refl
  | paid due withdrawal marking =>
    obtain ⟨account, changed, found, withdrawn, _, rfl⟩ := (exactWithdraw_ends ..).of_ok withdrawal
    obtain ⟨charges, charged, rfl⟩ := (markPaid_ends ..).of_ok marking
    exact .tail (.single ⟨.withdraw _ payment linked found withdrawn, rfl⟩) ⟨.mark charged _, rfl⟩

theorem loans (fees : FeesPaid loan id payment scale a after) : after.loans = a.loans := by
  cases fees with
  | nothing due => rfl
  | paid due withdrawal marking =>
    obtain ⟨_, _, _, _, _, rfl⟩ := (exactWithdraw_ends ..).of_ok withdrawal
    obtain ⟨_, _, rfl⟩ := (markPaid_ends ..).of_ok marking
    rfl

theorem chargesOf (fees : FeesPaid loan id payment scale a after) :
    after.chargesOf loan = a.chargesOf loan ∧ Charge.due (a.chargesOf loan) .upfrontFee scale = .ok none ∨
      after.chargesOf loan =
        marked ((Charge.outstandingOf (a.chargesOf loan) .upfrontFee).map (·.id)) (a.chargesOf loan) := by
  cases fees with
  | nothing due => exact Or.inl ⟨rfl, due⟩
  | paid due withdrawal marking =>
    obtain ⟨_, _, _, _, _, rfl⟩ := (exactWithdraw_ends ..).of_ok withdrawal
    obtain ⟨charges, charged, rfl⟩ := (markPaid_ends ..).of_ok marking
    have known : a.chargesOf loan = charges := congrArg (Option.getD · []) charged
    refine Or.inr ((congrArg (Option.getD · []) (Table.get?_insert_self ..)).trans ?_)
    rw [Charge.ids_of_due due, known]
    rfl

theorem settled (fees : FeesPaid loan id payment scale a after) :
    Charge.due (after.chargesOf loan) .upfrontFee scale = .ok none := by
  rcases fees.chargesOf with ⟨same, due⟩ | marked
  · rw [same, due]
  · rw [marked]
    exact Charge.due_of_nothing (Charge.outstanding_fees_marked _) scale

theorem holds_due (fees : FeesPaid loan id payment scale a after)
    (distinct : ((a.chargesOf loan).map (·.id)).Nodup) :
    Charge.due (after.chargesOf loan) .upfrontHold scale = Charge.due (a.chargesOf loan) .upfrontHold scale := by
  rcases fees.chargesOf with ⟨same, _⟩ | marked
  · rw [same]
  · rw [marked]
    unfold Charge.due
    rw [Charge.outstanding_holds_marked distinct]

end FeesPaid

inductive ChargesHeld (loan : LoanId) (id : AccountId) (charges : List Charge) (scale : Nat) (a : Ledger) :
    Option Booking → Ledger → Prop where
  | nothing (due : Charge.due charges .upfrontHold scale = .ok none) : ChargesHeld loan id charges scale a none a
  | held {ids : List ChargeId} {amount : Amount} {transaction : TransactionId} {after : Ledger}
      (due : Charge.due charges .upfrontHold scale = .ok (some (ids, amount)))
      (holding : exactHold amount (some loan) id a = .ok transaction after) :
      ChargesHeld loan id charges scale a (some ⟨ids, amount.value, transaction⟩) after

theorem ChargesHeld.quietPath {charges : List Charge} {scale : Nat} {hold : Option Booking}
    (held : ChargesHeld loan id charges scale a hold after) (linked : a.links.get? loan = some id) :
    QuietPath loan a after := by
  cases held with
  | nothing due => exact .refl
  | held due holding =>
    obtain ⟨rfl, account, changed, found, taken, _, rfl⟩ := (exactHold_ends ..).of_ok holding
    exact .single ⟨.hold _ linked found taken, rfl⟩

theorem ChargesHeld.loans {charges : List Charge} {scale : Nat} {hold : Option Booking}
    (held : ChargesHeld loan id charges scale a hold after) : after.loans = a.loans := by
  cases held with
  | nothing due => rfl
  | held due holding =>
    obtain ⟨_, _, _, _, _, _, rfl⟩ := (exactHold_ends ..).of_ok holding
    rfl

/-- Ledgers that are alike but for a new hold on each, or on neither; it stands for the same
amount. -/
structure Reheld (last : TransactionId) (id : AccountId) (a b : Ledger) (lien lien' : Option TransactionId) :
    Prop where
  near : Near last a b
  held : lien'.map (b.holdOf id) = lien.map (a.holdOf id)
  fresh : ∀ transaction, lien = some transaction ∨ lien' = some transaction → last < transaction

theorem Near.reheld {last : TransactionId} (near : Near last a b) : Reheld last id a b none none := ⟨near, rfl, nofun⟩

theorem Upheld.reheld {amount : Decimal} {later : Ledger} {transaction transaction' : TransactionId}
    (upheld : Upheld id amount a after b later transaction transaction') :
    Reheld a.lastTransaction id after later (some transaction) (some transaction') := by
  refine ⟨upheld.near, ?_, ?_⟩
  · rw [Option.map_some, Option.map_some, upheld.first, upheld.second]
  · intro number ended
    rcases ended with first | second
    · cases first
      exact upheld.fresh.1
    · cases second
      exact upheld.fresh.2

/-- Where releases work, the ledger is alike to the first once the hold of the settlement is
taken back. -/
def Revocable (a later : Ledger) : Option Settlement → Prop
  | some ⟨id, _, some hold⟩ => .release ∉ later.failing → ∃ freed, release id hold.transaction later = .ok () freed ∧
      freed.failing = later.failing ∧ Alike a freed
  | _ => Alike a later

end Ledger

end Countersign
