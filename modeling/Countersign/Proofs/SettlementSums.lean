import Countersign.Proofs.DecimalRounding
import Countersign.Proofs.DisbursalAgain
import Countersign.Proofs.LienKeeping
import Mathlib.Algebra.Order.BigOperators.Group.List

/-!
What the settlement of a loan comes to where no sum loses anything. What is owed of a kind of
charges is a number of units, and so is what an earlier lien gives back. The ledger takes an amount
just where the account covers it, and its balances are moved by exactly that; the charges that were
counted are paid then, and no others.
-/

namespace Countersign

theorem Decimal.roundUnits_nonneg (places : Nat) {units : Int} (nonneg : 0 ≤ units) : 0 ≤ roundUnits places units :=
  Int.mul_nonneg (Int.sign_nonneg_iff.mpr nonneg) (Int.natCast_nonneg _)

/-! Charges. -/

namespace Charge

variable {charges : List Charge} {kind : ChargeKind}

/-- What is owed of a kind of charges, in units: the sum of what is outstanding, rounded once. -/
def owed (charges : List Charge) (kind : ChargeKind) (scale : Nat) : Int :=
  Decimal.roundUnits scale ((outstandingOf charges kind).map (·.outstanding.units)).sum

def SumsExactly (charges : List Charge) (kind : ChargeKind) : Prop :=
  ∃ sum, Decimal.sum ((outstandingOf charges kind).map (·.outstanding)) = .ok sum ∧
    sum.units = ((outstandingOf charges kind).map (·.outstanding.units)).sum

theorem owed_nonneg (charges : List Charge) (kind : ChargeKind) (scale : Nat) : 0 ≤ owed charges kind scale := by
  refine Decimal.roundUnits_nonneg scale (List.sum_nonneg fun units mem => ?_)
  obtain ⟨charge, outstanding, rfl⟩ := List.mem_map.mp mem
  have is := (List.mem_filter.mp outstanding).2
  unfold isOutstanding at is
  simp only [Bool.and_eq_true, decide_eq_true_eq] at is
  exact Int.le_of_lt is.2

theorem due_owed (exactly : SumsExactly charges kind) (scale : Nat) :
    owed charges kind scale = 0 ∧ due charges kind scale = .ok none ∨
      ∃ amount : Amount, amount.value.units = owed charges kind scale ∧
        due charges kind scale = .ok (some ((outstandingOf charges kind).map (·.id), amount)) := by
  obtain ⟨sum, summed, same⟩ := exactly
  have rounded : (sum.round scale).units = owed charges kind scale := by
    rw [Decimal.units_round, same]
    rfl
  have known : due charges kind scale = .ok ((Amount.of? (sum.round scale)).map
      fun amount => ((outstandingOf charges kind).map (·.id), amount)) := by
    unfold due total
    rw [summed]
    rfl
  rw [known]
  unfold Amount.of?
  by_cases positive : Decimal.zero < sum.round scale
  · rw [dif_pos positive]
    exact Or.inr ⟨⟨_, positive⟩, rounded, rfl⟩
  · rw [dif_neg positive]
    refine Or.inl ⟨?_, rfl⟩
    rw [Decimal.lt_def, Decimal.units_zero, rounded] at positive
    exact Int.le_antisymm (Int.not_lt.mp positive) (owed_nonneg charges kind scale)

def paidFor (charges : List Charge) (fee hold : Int) : List Charge :=
  charges.map fun charge =>
    if 0 < fee ∧ charge.isOutstanding .upfrontFee ∨ 0 < hold ∧ charge.isOutstanding .upfrontHold then charge.settled
    else charge

/-- Charges are told apart by their ids, so just those that are counted are marked. -/
theorem counted_iff (distinct : (charges.map (·.id)).Nodup) {charge : Charge} (mem : charge ∈ charges) :
    ((outstandingOf charges kind).map (·.id)).contains charge.id = true ↔ charge.isOutstanding kind = true := by
  rw [List.contains_iff_mem]
  constructor
  · intro known
    obtain ⟨other, outstanding, named⟩ := List.mem_map.mp known
    obtain ⟨listed, is⟩ := List.mem_filter.mp outstanding
    exact List.inj_on_of_nodup_map distinct listed mem named ▸ is
  · exact fun is => List.mem_map_of_mem (List.mem_filter.mpr ⟨mem, is⟩)

theorem marked_paidFor (distinct : (charges.map (·.id)).Nodup) (kind : ChargeKind) (fee hold : Int) :
    Ledger.marked ((outstandingOf charges kind).map (·.id)) (paidFor charges fee hold) = charges.map fun charge =>
      if charge.isOutstanding kind ∨ 0 < fee ∧ charge.isOutstanding .upfrontFee ∨
          0 < hold ∧ charge.isOutstanding .upfrontHold then charge.settled
      else charge := by
  unfold Ledger.marked paidFor
  rw [List.map_map]
  apply List.map_congr_left
  intro charge mem
  have counted : ((outstandingOf charges kind).map (·.id)).contains charge.id = true ↔ charge.isOutstanding kind = true :=
    counted_iff distinct mem
  dsimp only [Function.comp_apply]
  by_cases paid : 0 < fee ∧ charge.isOutstanding .upfrontFee = true ∨ 0 < hold ∧ charge.isOutstanding .upfrontHold = true
  · rw [if_pos paid, if_pos (Or.inr paid)]
    exact ite_self _
  · rw [if_neg paid]
    exact if_congr (counted.trans ⟨Or.inl, fun either => either.resolve_right paid⟩) rfl rfl

theorem paidFor_nothing (charges : List Charge) : paidFor charges 0 0 = charges := by
  unfold paidFor
  simp

theorem paidFor_fees (distinct : (charges.map (·.id)).Nodup) {fee : Int} (positive : 0 < fee) :
    Ledger.marked ((outstandingOf charges .upfrontFee).map (·.id)) charges = paidFor charges fee 0 := by
  have marked := marked_paidFor distinct .upfrontFee 0 0
  rw [paidFor_nothing] at marked
  rw [marked, paidFor]
  simp [positive]

theorem paidFor_holds (distinct : (charges.map (·.id)).Nodup) (fee : Int) {hold : Int} (positive : 0 < hold) :
    Ledger.marked ((outstandingOf charges .upfrontHold).map (·.id)) (paidFor charges fee 0) =
      paidFor charges fee hold := by
  rw [marked_paidFor distinct, paidFor]
  simp [positive, or_comm]

end Charge

/-! Accounts. -/

namespace Account

variable {account : Account} {amount : Decimal} {transaction : TransactionId}

def heldFor (account : Account) (lien : Option TransactionId) : Int :=
  ((lien.bind account.holds.get?).map (·.units)).getD 0

def holdsBut (account : Account) (lien : Option TransactionId) : Table Decimal :=
  match lien with
  | some transaction => account.holds.erase transaction
  | none => account.holds

/-- The account has enough for a sum, or nothing is asked of it. -/
def Covers (account : Account) (sum : Int) : Prop := sum = 0 ∨ sum ≤ account.available.units

structure Exact (account : Account) (fee hold pledge : Int) : Prop where
  withdrawn : fee ≤ account.available.units → Decimal.Fits (account.available.units - fee)
  available : account.Covers (fee + hold) → Decimal.Fits (account.available.units - fee - hold)
  held : account.Covers (fee + hold) → Decimal.Fits (account.held.units + hold)
  released : account.Covers (fee + hold) → Decimal.Fits (account.held.units + hold - pledge)
  returned : account.Covers (fee + hold) → Decimal.Fits (account.available.units - fee - hold + pledge)

theorem heldFor_some (account : Account) (transaction : TransactionId) :
    account.heldFor (some transaction) = ((account.holds.get? transaction).map (·.units)).getD 0 := rfl

theorem covers_amount {amount : Amount} {sum : Int} (value : amount.value.units = sum) :
    account.Covers sum ↔ amount.value ≤ account.available := by
  have positive : 0 < sum := value ▸ amount.positive
  rw [Decimal.le_def, value]
  exact ⟨fun covered => covered.resolve_left (Int.ne_of_gt positive), Or.inr⟩

theorem Covers.left {fee hold : Int} (feeNonneg : 0 ≤ fee) (holdNonneg : 0 ≤ hold)
    (covers : account.Covers (fee + hold)) : account.Covers fee := by
  unfold Covers at covers ⊢
  omega

theorem covers_add {paid : Account} {fee hold : Int} (feeNonneg : 0 ≤ fee) (holdNonneg : 0 ≤ hold)
    (shifts : account.Shifts (-fee) 0 paid) :
    account.Covers (fee + hold) ↔ account.Covers fee ∧ paid.Covers hold := by
  obtain ⟨left, _⟩ := shifts
  unfold Covers
  omega

/-- The holds of the account after a settlement, and the lien that its loan records then: the
earlier lien is gone, and there is a new hold just where there is anything to hold. -/
inductive Renewed (account : Account) (last : TransactionId) (old : Option TransactionId) (hold : Int) :
    Option TransactionId → Table Decimal → Prop where
  | free (nothing : hold = 0) : Renewed account last old hold none (account.holdsBut old)
  | held {new : TransactionId} {amount : Decimal} (positive : 0 < hold) (value : amount.units = hold)
      (later : last < new) (unused : account.holds.get? new = none) :
      Renewed account last old hold (some new) ((account.holdsBut old).insert new amount)

end Account

/-- What the settlement of a loan has to move: fees, what is to be held, and what the earlier lien
gives back. Charges and numbers are such that they can be told apart, and no sum loses anything. -/
structure Reckoning (scale : Nat) (last : TransactionId) (charges : List Charge) (lien : Option TransactionId)
    (account : Account) (fee hold pledge : Int) : Prop where
  isFee : Charge.owed charges .upfrontFee scale = fee
  isHold : Charge.owed charges .upfrontHold scale = hold
  isPledge : account.heldFor lien = pledge
  distinct : (charges.map (·.id)).Nodup
  issued : ∀ number, lien = some number → number ≤ last
  fees : Charge.SumsExactly charges .upfrontFee
  holds : Charge.SumsExactly charges .upfrontHold
  exactly : account.Exact fee hold pledge

end Countersign
