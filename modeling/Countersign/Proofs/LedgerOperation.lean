import Countersign.Ledger.Lemmas
import Countersign.Proofs.Ending

/-!
What the operations of the ledger do. For each operation one statement tells exactly
what it leaves when it goes through, and what it leaves and why when it does not. An
operation that does not go through leaves the books as they are, a number taken for a
transaction apart.
-/

namespace Countersign.Ledger

/-! The ledger after one change. -/

def noted (ledger : Ledger) (loan : LoanId) (text : String) : Ledger :=
  { ledger with
    notes := ledger.notes.insert loan ((ledger.notes.get? loan).getD [] ++ [text])
    journal := ledger.journal ++ [.appendNote loan text] }

def passed (ledger : Ledger) (id : LoanId) (record : Loan) (target : LoanStatus) (entry : JournalEntry) : Ledger :=
  { ledger with
    loans := ledger.loans.insert id { record with status := target }
    journal := ledger.journal ++ [entry] }

def pledged (ledger : Ledger) (id : LoanId) (record : Loan) (lien : Option TransactionId) : Ledger :=
  { ledger with loans := ledger.loans.insert id { record with lien := lien } }

def numbered (ledger : Ledger) : Ledger := { ledger with lastTransaction := ledger.lastTransaction + 1 }

def moved (ledger : Ledger) (id : AccountId) (changed : Account) (entry : JournalEntry) : Ledger :=
  { ledger with
    accounts := ledger.accounts.insert id changed
    journal := ledger.journal ++ [entry] }

def marked (ids : List ChargeId) (charges : List Charge) : List Charge :=
  charges.map fun charge => if ids.contains charge.id then charge.settled else charge

def withMarked (ledger : Ledger) (loan : LoanId) (ids : List ChargeId) (charges : List Charge) : Ledger :=
  { ledger with charges := ledger.charges.insert loan (marked ids charges) }

/-! What each operation comes to. -/

theorem check_ends (op : LedgerOp) (ledger : Ledger) :
    Ends (check op) ledger (fun _ after => op ∉ ledger.failing ∧ after = ledger)
      (fun stop after => op ∈ ledger.failing ∧ stop = .refused (.unavailable (.failing op)) ∧ after = ledger) := by
  unfold Ends
  rw [check_apply]
  by_cases failing : op ∈ ledger.failing
  · simp [failing]
  · simp [failing]

theorem requireLoan_ends (id : LoanId) (ledger : Ledger) :
    Ends (requireLoan id) ledger (fun loan after => ledger.loans.get? id = some loan ∧ after = ledger)
      (fun stop after => ledger.loans.get? id = none ∧ stop = .refused (.notFound (.loan id)) ∧ after = ledger) := by
  unfold Ends
  rw [requireLoan_apply]
  cases ledger.loans.get? id <;> simp

theorem requireLink_ends (loan : LoanId) (ledger : Ledger) :
    Ends (requireLink loan) ledger (fun account after => ledger.links.get? loan = some account ∧ after = ledger)
      (fun stop after =>
        ledger.links.get? loan = none ∧ stop = .refused (.notFound (.linkedAccount loan)) ∧ after = ledger) := by
  unfold Ends
  rw [requireLink_apply]
  cases ledger.links.get? loan <;> simp

theorem transition_ends (id : LoanId) (sources : List LoanStatus) (target : LoanStatus) (ledger : Ledger) :
    Ends (transition id sources target) ledger
      (fun _ after => ∃ loan, ledger.loans.get? id = some loan ∧ loan.status ∈ sources ∧
        after = { ledger with loans := ledger.loans.insert id { loan with status := target } })
      (fun stop after => (∀ loan, ledger.loans.get? id = some loan → loan.status ∉ sources) ∧
        (∃ error, stop = .refused error) ∧ after = ledger) := by
  unfold Ends
  rw [transition_apply]
  cases ledger.loans.get? id with
  | none => simp
  | some loan =>
    by_cases allowed : loan.status ∈ sources
    · simp [allowed]
    · simp [allowed]

/-- The operations that move a loan to another status are one operation with its own
name, sources, target and entry. -/
theorem pass_ends (op : LedgerOp) (id : LoanId) (sources : List LoanStatus) (target : LoanStatus)
    (entry : JournalEntry) (ledger : Ledger) :
    Ends (do check op; transition id sources target; enter entry) ledger
      (fun _ after => op ∉ ledger.failing ∧ ∃ loan, ledger.loans.get? id = some loan ∧ loan.status ∈ sources ∧
        after = ledger.passed id loan target entry)
      (fun stop after => (op ∈ ledger.failing ∨ ∀ loan, ledger.loans.get? id = some loan → loan.status ∉ sources) ∧
        (∃ error, stop = .refused error) ∧ after = ledger) := by
  apply (check_ends op ledger).andThen
  · intro _ _ ended
    obtain ⟨working, rfl⟩ := ended
    apply (transition_ends id sources target _).andThen
    · intro _ _ ended
      obtain ⟨loan, found, allowed, rfl⟩ := ended
      exact ⟨working, loan, found, allowed, rfl⟩
    · intro _ _ ended
      obtain ⟨refused, error, rfl⟩ := ended
      exact ⟨Or.inr refused, error, rfl⟩
  · intro _ _ ended
    obtain ⟨failing, rfl, rfl⟩ := ended
    exact ⟨Or.inl failing, ⟨_, rfl⟩, rfl⟩

theorem appendNote_ends (id : LoanId) (text : String) (ledger : Ledger) :
    Ends (appendNote id text) ledger
      (fun _ after => .appendNote ∉ ledger.failing ∧ (∃ loan, ledger.loans.get? id = some loan) ∧
        after = ledger.noted id text)
      (fun stop after => (.appendNote ∈ ledger.failing ∨ ledger.loans.get? id = none) ∧
        (∃ error, stop = .refused error) ∧ after = ledger) := by
  apply (check_ends _ ledger).andThen
  · intro _ _ ended
    obtain ⟨working, rfl⟩ := ended
    apply (requireLoan_ends id _).andThen
    · intro loan _ ended
      obtain ⟨found, rfl⟩ := ended
      exact ⟨working, ⟨loan, found⟩, rfl⟩
    · intro _ _ ended
      obtain ⟨missing, rfl, rfl⟩ := ended
      exact ⟨Or.inr missing, ⟨_, rfl⟩, rfl⟩
  · intro _ _ ended
    obtain ⟨failing, rfl, rfl⟩ := ended
    exact ⟨Or.inl failing, ⟨_, rfl⟩, rfl⟩

theorem forceStatus_ends (id : LoanId) (status : LoanStatus) (ledger : Ledger) :
    Ends (forceStatus id status) ledger
      (fun _ after => .forceStatus ∉ ledger.failing ∧ ∃ loan, ledger.loans.get? id = some loan ∧
        after = ledger.passed id loan status (.forceStatus id status))
      (fun stop after => (.forceStatus ∈ ledger.failing ∨ ledger.loans.get? id = none) ∧
        (∃ error, stop = .refused error) ∧ after = ledger) := by
  apply (check_ends _ ledger).andThen
  · intro _ _ ended
    obtain ⟨working, rfl⟩ := ended
    apply (requireLoan_ends id _).andThen
    · intro loan _ ended
      obtain ⟨found, rfl⟩ := ended
      exact ⟨working, loan, found, rfl⟩
    · intro _ _ ended
      obtain ⟨missing, rfl, rfl⟩ := ended
      exact ⟨Or.inr missing, ⟨_, rfl⟩, rfl⟩
  · intro _ _ ended
    obtain ⟨failing, rfl, rfl⟩ := ended
    exact ⟨Or.inl failing, ⟨_, rfl⟩, rfl⟩

theorem setLien_ends (id : LoanId) (lien : Option TransactionId) (ledger : Ledger) :
    Ends (setLien id lien) ledger
      (fun _ after => ∃ loan, ledger.loans.get? id = some loan ∧
        after = ledger.pledged id loan lien)
      (fun stop after => ledger.loans.get? id = none ∧ (∃ error, stop = .refused error) ∧ after = ledger) := by
  apply (requireLoan_ends id ledger).andThen
  · intro loan _ ended
    obtain ⟨found, rfl⟩ := ended
    exact ⟨loan, found, rfl⟩
  · intro _ _ ended
    obtain ⟨missing, rfl, rfl⟩ := ended
    exact ⟨missing, ⟨_, rfl⟩, rfl⟩

theorem findAccount_ends (loan : LoanId) (ledger : Ledger) :
    Ends (findAccount loan) ledger
      (fun account after => .findAccount ∉ ledger.failing ∧ ledger.links.get? loan = some account ∧ after = ledger)
      (fun stop after =>
        (.findAccount ∈ ledger.failing ∧ stop = .refused (.unavailable (.failing .findAccount)) ∨
          ledger.links.get? loan = none ∧ stop = .refused (.notFound (.linkedAccount loan))) ∧ after = ledger) := by
  apply (check_ends _ ledger).andThen
  · intro _ _ ended
    obtain ⟨working, rfl⟩ := ended
    apply (requireLink_ends loan _).imp
    · intro account _ ended
      obtain ⟨found, rfl⟩ := ended
      exact ⟨working, found, rfl⟩
    · intro _ _ ended
      obtain ⟨missing, rfl, rfl⟩ := ended
      exact ⟨Or.inr ⟨missing, rfl⟩, rfl⟩
  · intro _ _ ended
    obtain ⟨failing, rfl, rfl⟩ := ended
    exact ⟨Or.inl ⟨failing, rfl⟩, rfl⟩

theorem changeAccount_ends (id : AccountId) (change : Account → Except Stop Account) (ledger : Ledger) :
    Ends (changeAccount id change) ledger
      (fun _ after => ∃ account changed, ledger.accounts.get? id = some account ∧ change account = .ok changed ∧
        after = { ledger with accounts := ledger.accounts.insert id changed })
      (fun stop after => (ledger.accounts.get? id = none ∧ stop = .refused (.notFound (.account id)) ∨
        ∃ account, ledger.accounts.get? id = some account ∧ change account = .error stop) ∧ after = ledger) := by
  unfold Ends
  rw [changeAccount_apply]
  cases ledger.accounts.get? id with
  | none => simp
  | some account =>
    cases changes : change account with
    | ok changed => simp [changes]
    | error stop => simp [changes]

/-- Money that is moved on an account under a new transaction number: a hold or a
withdrawal. The number is used up even where the account refuses. -/
theorem move_ends (op : LedgerOp) (id : AccountId) (change : TransactionId → Account → Except Stop Account)
    (entry : TransactionId → JournalEntry) (ledger : Ledger) :
    Ends (do
      check op
      let transaction ← nextTransaction
      changeAccount id (change transaction)
      enter (entry transaction)
      pure transaction) ledger
      (fun transaction after => op ∉ ledger.failing ∧ transaction = ledger.lastTransaction + 1 ∧
        ∃ account changed, ledger.accounts.get? id = some account ∧ change transaction account = .ok changed ∧
          after = ledger.numbered.moved id changed (entry transaction))
      (fun stop after => (op ∈ ledger.failing ∧ (∃ error, stop = .refused error) ∧ after = ledger) ∨
        (ledger.accounts.get? id = none ∧ (∃ error, stop = .refused error) ∨
          ∃ account, ledger.accounts.get? id = some account ∧
            change (ledger.lastTransaction + 1) account = .error stop) ∧ after = ledger.numbered) := by
  apply (check_ends op ledger).andThen
  · intro _ start ended
    obtain ⟨working, rfl⟩ := ended
    apply (ends_bind _ _ _ _ _).mpr
    apply (changeAccount_ends id (change (start.lastTransaction + 1)) start.numbered).andThen
    · intro _ _ ended
      obtain ⟨account, changed, found, changes, rfl⟩ := ended
      exact ⟨working, rfl, account, changed, found, changes, rfl⟩
    · intro _ _ ended
      rcases ended with ⟨missing | refused, rfl⟩
      · exact Or.inr ⟨Or.inl ⟨missing.1, _, missing.2⟩, rfl⟩
      · exact Or.inr ⟨Or.inr refused, rfl⟩
  · intro _ _ ended
    obtain ⟨failing, rfl, rfl⟩ := ended
    exact Or.inl ⟨failing, ⟨_, rfl⟩, rfl⟩

theorem move_known (op : LedgerOp) (id : AccountId) (change : TransactionId → Account → Except Stop Account)
    (entry : TransactionId → JournalEntry) {ledger : Ledger} {account changed : Account}
    (found : ledger.accounts.get? id = some account)
    (changes : change (ledger.lastTransaction + 1) account = .ok changed) :
    Ends (do
      check op
      let transaction ← nextTransaction
      changeAccount id (change transaction)
      enter (entry transaction)
      pure transaction) ledger
      (fun transaction after => transaction = ledger.lastTransaction + 1 ∧
        after = ledger.numbered.moved id changed (entry transaction))
      (fun _ after => op ∈ ledger.failing ∧ after = ledger) := by
  apply (move_ends op id change entry ledger).imp
  · intro _ _ ⟨_, isNext, other, otherChanged, isAccount, otherChanges, same⟩
    subst isNext
    cases found.symm.trans isAccount
    cases changes.symm.trans otherChanges
    exact ⟨rfl, same⟩
  · intro _ _ stopped
    rcases stopped with ⟨failing, _, same⟩ | ⟨⟨missing, _⟩ | ⟨_, isAccount, refused⟩, _⟩
    · exact ⟨failing, same⟩
    · cases found.symm.trans missing
    · cases found.symm.trans isAccount
      cases changes.symm.trans refused

theorem release_ends (id : AccountId) (transaction : TransactionId) (ledger : Ledger) :
    Ends (release id transaction) ledger
      (fun _ after => .release ∉ ledger.failing ∧ ∃ account changed, ledger.accounts.get? id = some account ∧
        account.release transaction = .ok changed ∧
        after = ledger.moved id changed (.release id transaction))
      (fun stop after => (.release ∈ ledger.failing ∧ stop = .refused (.unavailable (.failing .release)) ∨
        ledger.accounts.get? id = none ∧ stop = .refused (.notFound (.account id)) ∨
        ∃ account, ledger.accounts.get? id = some account ∧ account.release transaction = .error stop) ∧
          after = ledger) := by
  apply (check_ends _ ledger).andThen
  · intro _ _ ended
    obtain ⟨working, rfl⟩ := ended
    apply (changeAccount_ends id (·.release transaction) _).andThen
    · intro _ _ ended
      obtain ⟨account, changed, found, changes, rfl⟩ := ended
      exact ⟨working, account, changed, found, changes, rfl⟩
    · intro _ _ ended
      rcases ended with ⟨missing | refused, rfl⟩
      · exact ⟨Or.inr (Or.inl missing), rfl⟩
      · exact ⟨Or.inr (Or.inr refused), rfl⟩
  · intro _ _ ended
    obtain ⟨failing, rfl, rfl⟩ := ended
    exact ⟨Or.inl ⟨failing, rfl⟩, rfl⟩

theorem release_known {id : AccountId} {transaction : TransactionId} {ledger : Ledger} {account freed : Account}
    (found : ledger.accounts.get? id = some account) (released : account.release transaction = .ok freed)
    (working : .release ∉ ledger.failing) :
    release id transaction ledger = .ok () (ledger.moved id freed (.release id transaction)) := by
  have ends : Ends (release id transaction) ledger
      (fun _ after => after = ledger.moved id freed (.release id transaction)) fun _ _ => False := by
    apply (release_ends id transaction ledger).imp
    · intro _ _ ⟨_, other, otherFreed, isAccount, otherReleased, same⟩
      cases found.symm.trans isAccount
      cases released.symm.trans otherReleased
      exact same
    · intro _ _ stopped
      rcases stopped with ⟨⟨failing, _⟩ | ⟨missing, _⟩ | ⟨_, isAccount, refused⟩, _⟩
      · exact working failing
      · cases found.symm.trans missing
      · cases found.symm.trans isAccount
        cases released.symm.trans refused
  obtain ⟨_, _, went, same⟩ := ends.exists_ok
  rw [went, same]

theorem get_andThen {α : Type} {next : Ledger → Op α} {ledger : Ledger} {done : α → Ledger → Prop}
    {stopped : Stop → Ledger → Prop} (rest : Ends (next ledger) ledger done stopped) :
    Ends (get >>= next) ledger done stopped :=
  rest

theorem markPaid_ends (loan : LoanId) (ids : List ChargeId) (ledger : Ledger) :
    Ends (markPaid loan ids) ledger
      (fun _ after => ∃ charges, ledger.charges.get? loan = some charges ∧
        after = ledger.withMarked loan ids charges)
      (fun stop after => ledger.charges.get? loan = none ∧ (∃ error, stop = .refused error) ∧ after = ledger) := by
  apply get_andThen
  cases ledger.charges.get? loan with
  | none => exact ⟨rfl, ⟨_, rfl⟩, rfl⟩
  | some charges => exact ⟨charges, rfl, rfl⟩

end Countersign.Ledger
