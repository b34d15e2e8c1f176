import Countersign.Ledger.Account
import Countersign.Proofs.DecimalSum
import Countersign.Proofs.TableListing

/-!
When an account changes and into what. What decides is the value of its balances, not the
decimals that they are written with: an account of the same balance goes through the same
change, as long as no sum loses anything.
-/

namespace Countersign.Account

theorem withdraw_ok_iff (account : Account) (amount : Decimal) (changed : Account) :
    account.withdraw amount = .ok changed ↔ amount ≤ account.available ∧
      ∃ available, account.available.sub amount = .ok available ∧
        changed = { account with available := available } := by
  unfold withdraw
  by_cases covered : amount ≤ account.available
  · rw [if_pos covered]
    cases account.available.sub amount with
    | ok available =>
      refine ⟨fun ok => ⟨covered, available, rfl, ?_⟩, ?_⟩
      · exact (Except.ok.inj ok).symm
      · intro ended
        obtain ⟨_, _, ⟨⟩, rfl⟩ := ended
        rfl
    | error what => exact iff_of_false nofun fun ⟨_, _, no, _⟩ => nomatch no
  · rw [if_neg covered]
    exact iff_of_false nofun fun ⟨yes, _⟩ => covered yes

theorem hold_ok_iff (account : Account) (transaction : TransactionId) (amount : Decimal) (changed : Account) :
    account.hold transaction amount = .ok changed ↔ amount ≤ account.available ∧
      ∃ available held, account.available.sub amount = .ok available ∧ account.held.add amount = .ok held ∧
        changed = { account with
          available := available, held := held, holds := account.holds.insert transaction amount } := by
  unfold hold
  by_cases covered : amount ≤ account.available
  · rw [if_pos covered]
    cases account.available.sub amount with
    | ok available =>
      cases account.held.add amount with
      | ok held =>
        refine ⟨fun ok => ⟨covered, available, held, rfl, rfl, ?_⟩, ?_⟩
        · exact (Except.ok.inj ok).symm
        · intro ended
          obtain ⟨_, _, _, ⟨⟩, ⟨⟩, rfl⟩ := ended
          rfl
      | error what => exact iff_of_false nofun fun ⟨_, _, _, _, no, _⟩ => nomatch no
    | error what => exact iff_of_false nofun fun ⟨_, _, _, no, _⟩ => nomatch no
  · rw [if_neg covered]
    exact iff_of_false nofun fun ⟨yes, _⟩ => covered yes

theorem release_ok_iff (account : Account) (transaction : TransactionId) (changed : Account) :
    account.release transaction = .ok changed ↔ ∃ amount, account.holds.get? transaction = some amount ∧
      ∃ held available, account.held.sub amount = .ok held ∧ account.available.add amount = .ok available ∧
        changed = { account with
          available := available, held := held, holds := account.holds.erase transaction } := by
  unfold release
  cases account.holds.get? transaction with
  | none => exact iff_of_false nofun fun ⟨_, no, _⟩ => nomatch no
  | some amount =>
    simp only [Option.some.injEq, exists_eq_left']
    cases account.held.sub amount with
    | ok held =>
      cases account.available.add amount with
      | ok available =>
        refine ⟨fun ok => ⟨held, available, rfl, rfl, ?_⟩, ?_⟩
        · exact (Except.ok.inj ok).symm
        · intro ended
          obtain ⟨_, _, ⟨⟩, ⟨⟩, rfl⟩ := ended
          rfl
      | error what => exact iff_of_false nofun fun ⟨_, _, _, no, _⟩ => nomatch no
    | error what => exact iff_of_false nofun fun ⟨_, _, no, _⟩ => nomatch no

theorem release_error {account : Account} {transaction : TransactionId} {stop : Ledger.Stop}
    (stopped : account.release transaction = .error stop) :
    account.holds.get? transaction = none ∧ stop = .refused (.notFound (.hold transaction account.id)) ∨
      ∃ what, stop = .overflow what := by
  unfold release at stopped
  cases found : account.holds.get? transaction with
  | none =>
    rw [found] at stopped
    exact Or.inl ⟨rfl, (Except.error.inj stopped).symm⟩
  | some amount =>
    rw [found] at stopped
    dsimp only at stopped
    cases subtracted : account.held.sub amount with
    | ok held =>
      rw [subtracted] at stopped
      cases added : account.available.add amount with
      | ok available =>
        rw [added] at stopped
        cases stopped
      | error what =>
        rw [added] at stopped
        exact Or.inr ⟨what, (Except.error.inj stopped).symm⟩
    | error what =>
      rw [subtracted] at stopped
      exact Or.inr ⟨what, (Except.error.inj stopped).symm⟩

/-! Balances by value. -/

/-- What an account has, in units, and what it holds for which transaction. -/
structure Balance where
  available : Int
  held : Int
  holds : Table Decimal

def balance (account : Account) : Balance := ⟨account.available.units, account.held.units, account.holds⟩

def Shifts (available held : Int) (before after : Account) : Prop :=
  after.available.units = before.available.units + available ∧ after.held.units = before.held.units + held

theorem Shifts.nothing (account : Account) : account.Shifts 0 0 account :=
  ⟨(Int.add_zero _).symm, (Int.add_zero _).symm⟩

theorem Shifts.trans {a b c : Account} {available held available' held' : Int} (first : a.Shifts available held b)
    (rest : b.Shifts available' held' c) : a.Shifts (available + available') (held + held') c := by
  obtain ⟨firstAvailable, firstHeld⟩ := first
  obtain ⟨restAvailable, restHeld⟩ := rest
  constructor <;> omega

section

variable {account : Account} {transaction : TransactionId} {amount : Decimal}

/-- A withdrawal that is covered goes through and is exact, if there is a decimal for what is left. -/
theorem withdraw_fits (covered : amount ≤ account.available)
    (fits : Decimal.Fits (account.available.units - amount.units)) :
    ∃ changed, account.withdraw amount = .ok changed ∧ account.Shifts (-amount.units) 0 changed ∧
      changed.holds = account.holds := by
  obtain ⟨_, value⟩ := fits
  obtain ⟨available, subtracted, exact_⟩ := Decimal.sub_exact value
  exact ⟨_, (withdraw_ok_iff ..).mpr ⟨covered, available, subtracted, rfl⟩, ⟨exact_, (Int.add_zero _).symm⟩, rfl⟩

theorem hold_fits (covered : amount ≤ account.available)
    (fits : Decimal.Fits (account.available.units - amount.units))
    (fitsHeld : Decimal.Fits (account.held.units + amount.units)) (transaction : TransactionId) :
    ∃ changed, account.hold transaction amount = .ok changed ∧ account.Shifts (-amount.units) amount.units changed ∧
      changed.holds = account.holds.insert transaction amount := by
  obtain ⟨_, value⟩ := fits
  obtain ⟨_, heldValue⟩ := fitsHeld
  obtain ⟨available, subtracted, exact_⟩ := Decimal.sub_exact value
  obtain ⟨held, added, exactHeld⟩ := Decimal.add_exact heldValue
  exact ⟨_, (hold_ok_iff ..).mpr ⟨covered, available, held, subtracted, added, rfl⟩, ⟨exact_, exactHeld⟩, rfl⟩

theorem release_fits (there : account.holds.get? transaction = some amount)
    (fitsHeld : Decimal.Fits (account.held.units - amount.units))
    (fits : Decimal.Fits (account.available.units + amount.units)) :
    ∃ changed, account.release transaction = .ok changed ∧ account.Shifts amount.units (-amount.units) changed ∧
      changed.holds = account.holds.erase transaction := by
  obtain ⟨_, heldValue⟩ := fitsHeld
  obtain ⟨_, value⟩ := fits
  obtain ⟨held, subtracted, exactHeld⟩ := Decimal.sub_exact heldValue
  obtain ⟨available, added, exact_⟩ := Decimal.add_exact value
  exact ⟨_, (release_ok_iff ..).mpr ⟨amount, there, held, available, subtracted, added, rfl⟩, ⟨exact_, exactHeld⟩, rfl⟩

end

variable {a b changed : Account} {transaction transaction' : TransactionId} {amount : Decimal}

theorem Shifts.balance {available held : Int} {changed' : Account} (shifts : a.Shifts available held changed)
    (shifts' : b.Shifts available held changed') (sameAvailable : b.available.units = a.available.units)
    (sameHeld : b.held.units = a.held.units) : changed'.balance = { changed.balance with holds := changed'.holds } := by
  refine (Balance.mk.injEq ..).mpr ⟨?_, ?_, rfl⟩
  · rw [shifts'.1, sameAvailable]
    exact shifts.1.symm
  · rw [shifts'.2, sameHeld]
    exact shifts.2.symm

theorem withdraw_again (same : b.balance = a.balance) (withdrawn : a.withdraw amount = .ok changed)
    (shifts : Shifts (-amount.units) 0 a changed) :
    ∃ changed', b.withdraw amount = .ok changed' ∧ changed'.balance = changed.balance := by
  obtain ⟨covered, available, _, rfl⟩ := (withdraw_ok_iff ..).mp withdrawn
  obtain ⟨sameAvailable, sameHeld, sameHolds⟩ := Balance.mk.inj same
  have covered' : amount ≤ b.available := by
    rw [Decimal.le_def, sameAvailable]
    exact covered
  obtain ⟨changed', withdrawn', shifts', holds⟩ := withdraw_fits covered' ⟨available, sameAvailable ▸ shifts.1⟩
  refine ⟨changed', withdrawn', (shifts.balance shifts' sameAvailable sameHeld).trans ?_⟩
  rw [holds, sameHolds]
  rfl

theorem hold_again (same : b.balance = a.balance) (held : a.hold transaction amount = .ok changed)
    (shifts : Shifts (-amount.units) amount.units a changed) (transaction' : TransactionId) :
    ∃ changed', b.hold transaction' amount = .ok changed' ∧
      changed'.balance = { changed.balance with holds := a.holds.insert transaction' amount } := by
  obtain ⟨covered, available, heldSum, _, _, rfl⟩ := (hold_ok_iff ..).mp held
  obtain ⟨sameAvailable, sameHeld, sameHolds⟩ := Balance.mk.inj same
  have covered' : amount ≤ b.available := by
    rw [Decimal.le_def, sameAvailable]
    exact covered
  obtain ⟨changed', held', shifts', holds⟩ := hold_fits covered' ⟨available, sameAvailable ▸ shifts.1⟩
    ⟨heldSum, sameHeld ▸ shifts.2⟩ transaction'
  refine ⟨changed', held', (shifts.balance shifts' sameAvailable sameHeld).trans ?_⟩
  rw [holds, sameHolds]

theorem release_again (sameAvailable : b.available.units = a.available.units)
    (sameHeld : b.held.units = a.held.units) (held : b.holds.get? transaction = some amount)
    (shifts : Shifts amount.units (-amount.units) a changed) :
    ∃ changed', b.release transaction = .ok changed' ∧
      changed'.balance = { changed.balance with holds := b.holds.erase transaction } := by
  obtain ⟨changed', released', shifts', holds⟩ := release_fits held ⟨changed.held, sameHeld ▸ shifts.2⟩
    ⟨changed.available, sameAvailable ▸ shifts.1⟩
  refine ⟨changed', released', (shifts.balance shifts' sameAvailable sameHeld).trans ?_⟩
  rw [holds]

/-- Releasing a hold under a new number takes it back, whatever the decimals. -/
theorem release_hold (held : b.hold transaction amount = .ok changed)
    (shifts : Shifts (-amount.units) amount.units b changed) (fresh : b.holds.get? transaction = none) :
    ∃ freed, changed.release transaction = .ok freed ∧ freed.balance = b.balance := by
  obtain ⟨_, _, _, _, _, is⟩ := (hold_ok_iff ..).mp held
  have holds : changed.holds = b.holds.insert transaction amount := congrArg Account.holds is
  have there : changed.holds.get? transaction = some amount := by
    rw [holds]
    exact Table.get?_insert_self ..
  have availableBack : b.available.units = changed.available.units + amount.units := by
    rw [shifts.1]
    omega
  have heldBack : b.held.units = changed.held.units - amount.units := by
    rw [shifts.2]
    omega
  obtain ⟨freed, released, shifts', freedHolds⟩ := release_fits there ⟨b.held, heldBack⟩ ⟨b.available, availableBack⟩
  refine ⟨freed, released, (Balance.mk.injEq ..).mpr ⟨shifts'.1.trans availableBack.symm, ?_, ?_⟩⟩
  · exact shifts'.2.trans heldBack.symm
  · rw [freedHolds, holds]
    exact Table.erase_insert_self fresh amount

end Countersign.Account
