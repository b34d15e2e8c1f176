import Countersign.Proofs.ExactServices

/-!
Ledgers that are alike. Two ledgers may differ in notes, in the journal, in the decimals of
a balance and in how many numbers were given out, and still be the same to a command: what
goes through exactly on the one goes through on the other, and leaves them alike. So a
command that failed on the way can be tried again from where it got to.
-/

namespace Countersign

theorem ne_nil_of_failing {op : LedgerOp} {ledger : Ledger} (failing : op ∈ ledger.failing) : ledger.failing ≠ [] :=
  List.ne_nil_of_mem failing

namespace Ledger

/-- The second ledger is the same to a command as the first, and has given out no fewer
numbers. -/
structure Alike (a b : Ledger) : Prop where
  loans : b.loans = a.loans
  charges : b.charges = a.charges
  links : b.links = a.links
  accounts : ∀ id, (b.accounts.get? id).map Account.balance = (a.accounts.get? id).map Account.balance
  numbers : a.lastTransaction ≤ b.lastTransaction

namespace Alike

variable {a b c : Ledger}

theorem refl (ledger : Ledger) : Alike ledger ledger := ⟨rfl, rfl, rfl, fun _ => rfl, Nat.le_refl _⟩

theorem trans (first : Alike a b) (second : Alike b c) : Alike a c :=
  ⟨second.loans.trans first.loans, second.charges.trans first.charges, second.links.trans first.links,
    fun id => (second.accounts id).trans (first.accounts id), Nat.le_trans first.numbers second.numbers⟩

theorem noted (alike : Alike a b) (loan : LoanId) (text : String) : Alike a (b.noted loan text) :=
  ⟨alike.loans, alike.charges, alike.links, alike.accounts, alike.numbers⟩

theorem passed (alike : Alike a b) (id : LoanId) (record : Loan) (target : LoanStatus) (entry entry' : JournalEntry) :
    Alike (a.passed id record target entry) (b.passed id record target entry') := by
  refine ⟨?_, alike.charges, alike.links, alike.accounts, alike.numbers⟩
  change b.loans.insert id _ = a.loans.insert id _
  rw [alike.loans]

theorem withMarked (alike : Alike a b) (loan : LoanId) (ids : List ChargeId) (charges : List Charge) :
    Alike (a.withMarked loan ids charges) (b.withMarked loan ids charges) := by
  refine ⟨alike.loans, ?_, alike.links, alike.accounts, alike.numbers⟩
  change b.charges.insert loan _ = a.charges.insert loan _
  rw [alike.charges]

theorem moved (alike : Alike a b) (id : AccountId) {changed changed' : Account}
    (same : changed'.balance = changed.balance) (entry entry' : JournalEntry) :
    Alike (a.moved id changed entry) (b.moved id changed' entry') := by
  refine ⟨alike.loans, alike.charges, alike.links, fun other => ?_, alike.numbers⟩
  change ((b.accounts.insert id changed').get? other).map Account.balance =
    ((a.accounts.insert id changed).get? other).map Account.balance
  rw [Table.get?_insert, Table.get?_insert]
  by_cases there : other = id
  · rw [if_pos there, if_pos there, Option.map_some, Option.map_some, same]
  · rw [if_neg there, if_neg there]
    exact alike.accounts other

theorem numbered_moved (alike : Alike a b) (id : AccountId) {changed changed' : Account}
    (same : changed'.balance = changed.balance) (entry entry' : JournalEntry) :
    Alike (a.numbered.moved id changed entry) (b.numbered.moved id changed' entry') := by
  have next : Alike a.numbered b.numbered :=
    ⟨alike.loans, alike.charges, alike.links, alike.accounts, Nat.succ_le_succ alike.numbers⟩
  exact next.moved id same entry entry'

theorem account (alike : Alike a b) {id : AccountId} {account : Account} (found : a.accounts.get? id = some account) :
    ∃ account', b.accounts.get? id = some account' ∧ account'.balance = account.balance := by
  have same := alike.accounts id
  rw [found, Option.map_some] at same
  exact Option.map_eq_some_iff.mp same

theorem chargesOf (alike : Alike a b) (loan : LoanId) : b.chargesOf loan = a.chargesOf loan := by
  unfold Ledger.chargesOf
  rw [alike.charges]

end Alike

/-- The stages that attempts to do a piece of work may leave behind, the one before it among
them. What is alike to a stage is one too. -/
structure Stages (start : Ledger) (stage : Ledger → Prop) : Prop where
  first : stage start
  alike : ∀ a b, Alike a b → stage a → stage b

theorem Stages.of_alike {start a : Ledger} (alike : Alike a start) : Stages start (Alike a) :=
  ⟨alike, fun _ _ later earlier => earlier.trans later⟩

/-- Alike but for holds that were placed after a certain transaction. -/
structure Near (last : TransactionId) (a b : Ledger) : Prop where
  loans : b.loans = a.loans
  charges : b.charges = a.charges
  links : b.links = a.links
  balances : ∀ id, b.balances id = a.balances id
  holds : ∀ id transaction, transaction ≤ last → b.holdOf id transaction = a.holdOf id transaction

theorem Alike.near {a b : Ledger} (alike : Alike a b) (last : TransactionId) : Near last a b := by
  refine ⟨alike.loans, alike.charges, alike.links, fun id => ?_, fun id transaction _ => ?_⟩
  · have same := congrArg (Option.map fun balance : Account.Balance => (balance.available, balance.held))
      (alike.accounts id)
    rw [Option.map_map, Option.map_map] at same
    exact same
  · have same := congrArg (Option.bind · fun balance : Account.Balance => balance.holds.get? transaction)
      (alike.accounts id)
    rw [Option.bind_map, Option.bind_map] at same
    exact same

section

variable {last : TransactionId} {a b : Ledger}

theorem Near.common {c : Ledger} (first : Near last a b) (second : Near last a c) : Near last b c :=
  ⟨second.loans.trans first.loans.symm, second.charges.trans first.charges.symm, second.links.trans first.links.symm,
    fun id => (second.balances id).trans (first.balances id).symm,
    fun id transaction earlier => (second.holds id transaction earlier).trans (first.holds id transaction earlier).symm⟩

theorem Near.passed (near : Near last a b) (id : LoanId) (record : Loan) (target : LoanStatus)
    (entry entry' : JournalEntry) : Near last (a.passed id record target entry) (b.passed id record target entry') := by
  refine ⟨?_, near.charges, near.links, near.balances, near.holds⟩
  change b.loans.insert id _ = a.loans.insert id _
  rw [near.loans]

theorem Near.pledged (near : Near last a b) (id : LoanId) (record : Loan) (lien : Option TransactionId) :
    Near last (a.pledged id record lien) (b.pledged id record lien) := by
  refine ⟨?_, near.charges, near.links, near.balances, near.holds⟩
  change b.loans.insert id _ = a.loans.insert id _
  rw [near.loans]

theorem Near.withMarked (near : Near last a b) (loan : LoanId) (ids : List ChargeId) (charges : List Charge) :
    Near last (a.withMarked loan ids charges) (b.withMarked loan ids charges) := by
  refine ⟨near.loans, ?_, near.links, near.balances, near.holds⟩
  change b.charges.insert loan _ = a.charges.insert loan _
  rw [near.charges]

theorem balances_moved (ledger : Ledger) (id : AccountId) (changed : Account) (entry : JournalEntry) (other : AccountId) :
    (ledger.moved id changed entry).balances other =
      if other = id then some (changed.available.units, changed.held.units) else ledger.balances other := by
  unfold balances account? moved
  rw [Table.get?_insert]
  split <;> rfl

theorem holdOf_insert {ledger after : Ledger} {id : AccountId} {changed : Account}
    (moved : after.accounts = ledger.accounts.insert id changed) (other : AccountId) (transaction : TransactionId) :
    after.holdOf other transaction =
      if other = id then changed.holds.get? transaction else ledger.holdOf other transaction := by
  unfold holdOf account?
  rw [moved, Table.get?_insert]
  split <;> rfl

theorem holdOf_moved (ledger : Ledger) (id : AccountId) (changed : Account) (entry : JournalEntry) (other : AccountId)
    (transaction : TransactionId) : (ledger.moved id changed entry).holdOf other transaction =
      if other = id then changed.holds.get? transaction else ledger.holdOf other transaction :=
  holdOf_insert rfl other transaction

theorem Near.account (near : Near last a b) {id : AccountId} {account : Account}
    (found : a.accounts.get? id = some account) :
    ∃ account', b.accounts.get? id = some account' ∧ account'.available.units = account.available.units ∧
      account'.held.units = account.held.units ∧
      ∀ transaction, transaction ≤ last → account'.holds.get? transaction = account.holds.get? transaction := by
  have same := near.balances id
  unfold Ledger.balances account? at same
  rw [found, Option.map_some] at same
  obtain ⟨account', found', units⟩ := Option.map_eq_some_iff.mp same
  obtain ⟨available, held⟩ := Prod.mk.inj units
  refine ⟨account', found', available, held, fun transaction earlier => ?_⟩
  have holds := near.holds id transaction earlier
  unfold holdOf account? at holds
  rw [found, found', Option.bind_some, Option.bind_some] at holds
  exact holds

theorem release_near (near : Near last a b) {id : AccountId} {transaction : TransactionId} {after : Ledger}
    (earlier : transaction ≤ last) (ran : exactRelease id transaction a = .ok () after) :
    Ends (release id transaction) b (fun _ later => later.failing = b.failing ∧ Near last after later)
      fun stop later => later = b ∧ .release ∈ b.failing ∧ stop = .refused (.unavailable (.failing .release)) := by
  obtain ⟨account, changed, amount, found, held, released, shifts, rfl⟩ :=
    (exactRelease_ends id transaction a).of_ok ran
  obtain ⟨account', found', available, heldSum, holds⟩ := near.account found
  obtain ⟨changed', released', balance⟩ := Account.release_again available heldSum
    ((holds transaction earlier).trans held) shifts
  obtain ⟨sameAvailable, sameHeld, sameHolds⟩ := Account.Balance.mk.inj balance
  apply (release_ends id transaction b).imp
  · intro _ _ ended
    obtain ⟨_, _, _, same, is, rfl⟩ := ended
    cases found'.symm.trans same
    cases released'.symm.trans is
    refine ⟨rfl, near.loans, near.charges, near.links, fun other => ?_, fun other key earlierKey => ?_⟩
    · rw [balances_moved, balances_moved, sameAvailable, sameHeld, near.balances]
      rfl
    · rw [holdOf_moved, holdOf_moved, near.holds other key earlierKey, sameHolds]
      obtain ⟨_, _, _, _, _, _, rfl⟩ := (Account.release_ok_iff ..).mp released
      rw [Table.get?_erase, Table.get?_erase, holds key earlierKey]
  · intro _ _ ended
    rcases ended with ⟨⟨failing, rfl⟩ | ⟨missing, _⟩ | ⟨_, same, stopped⟩, rfl⟩
    · exact ⟨rfl, failing, rfl⟩
    · cases found'.symm.trans missing
    · cases found'.symm.trans same
      cases released'.symm.trans stopped

theorem release_near_missing (near : Near last a b) {id : AccountId} {transaction : TransactionId} {what : Missing}
    {after : Ledger} (earlier : transaction ≤ last)
    (ran : exactRelease id transaction a = .error (.refused (.notFound what)) after) :
    Ends (release id transaction) b (fun _ _ => False) fun stop later => later = b ∧
      (.release ∈ b.failing ∧ stop = .refused (.unavailable (.failing .release)) ∨
        ∃ what, stop = .refused (.notFound what)) := by
  have nothing : b.holdOf id transaction = none := by
    rw [near.holds id transaction earlier]
    unfold holdOf account?
    rcases (exactRelease_ends id transaction a).of_error ran with
      ⟨_, no⟩ | ⟨_, ⟨_, no⟩ | ⟨missing, _⟩ | ⟨account, found, gone, _⟩⟩
    · cases no
    · cases no
    · rw [missing, Option.bind_none]
    · rw [found, Option.bind_some, gone]
  apply (release_ends id transaction b).imp
  · intro _ _ ended
    obtain ⟨_, account, _, found, released, _⟩ := ended
    obtain ⟨_, held, _⟩ := (Account.release_ok_iff ..).mp released
    unfold holdOf account? at nothing
    rw [found, Option.bind_some, held] at nothing
    cases nothing
  · intro _ _ ended
    rcases ended with ⟨⟨failing, rfl⟩ | ⟨_, rfl⟩ | ⟨account, found, stopped⟩, rfl⟩
    · exact ⟨rfl, Or.inl ⟨failing, rfl⟩⟩
    · exact ⟨rfl, Or.inr ⟨_, rfl⟩⟩
    · unfold holdOf account? at nothing
      rw [found, Option.bind_some] at nothing
      rw [Account.release, nothing] at stopped
      exact ⟨rfl, Or.inr ⟨_, (Except.error.inj stopped).symm⟩⟩

end

end Ledger

end Countersign
