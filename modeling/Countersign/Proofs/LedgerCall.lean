import Countersign.Proofs.AccountBooking

/-!
Calls of the ledger from outside of the workflow. The books can be filled and changed directly,
before the first command and between commands; a setup is nothing but a list of such calls. A
call leaves the ledger in one of a few ways, and what it gives out is the number of a
transaction at most.
-/

namespace Countersign

namespace Ledger

inductive Call where
  | addLoan (loan : Loan)
  | addCharges (loan : LoanId) (charges : List Charge)
  | link (loan : LoanId) (account : AccountId) (available : Decimal)
  | placeLien (loan : LoanId) (amount : Decimal)
  | setStatus (loan : LoanId) (status : LoanStatus)
  | setLien (loan : LoanId) (transaction : Option TransactionId)
  | markPaid (loan : LoanId) (charges : List ChargeId)
  | submit (loan : LoanId) (amount : Decimal) (date : ValueDate)
  | disburse (loan : LoanId) (date : ValueDate) (amount : Decimal) (payment : Option PaymentTypeId)
  | reject (loan : LoanId)
  | undoApproval (loan : LoanId)
  | appendNote (loan : LoanId) (text : String)
  | forceStatus (loan : LoanId) (status : LoanStatus)
  | findAccount (loan : LoanId)
  | hold (amount : Amount) (loan : Option LoanId) (account : AccountId)
  | release (account : AccountId) (transaction : TransactionId)
  | withdraw (amount : Amount) (account : AccountId) (payment : PaymentTypeId)

/-- The calls whose doings on an account have no entry in the journal: one is opened, or a lien placed. -/
def Call.unjournaled : Call → Bool
  | .link .. => true
  | .placeLien .. => true
  | _ => false

def work : Call → Op (Option TransactionId)
  | .addLoan loan => do modify (·.addLoan loan); pure none
  | .addCharges loan charges => do modify (·.addCharges loan charges); pure none
  | .link loan account available => do modify (·.link loan account available); pure none
  | .placeLien loan amount => do pure (some (← placeLien loan amount))
  | .setStatus loan status => do setStatus loan status; pure none
  | .setLien loan transaction => do setLien loan transaction; pure none
  | .markPaid loan charges => do markPaid loan charges; pure none
  | .submit loan amount date => do submit loan amount date; pure none
  | .disburse loan date amount payment => do disburse loan date amount payment; pure none
  | .reject loan => do reject loan; pure none
  | .undoApproval loan => do undoApproval loan; pure none
  | .appendNote loan text => do appendNote loan text; pure none
  | .forceStatus loan status => do forceStatus loan status; pure none
  | .findAccount loan => do let _ ← findAccount loan; pure none
  | .hold amount loan account => do pure (some (← hold amount loan account))
  | .release account transaction => do release account transaction; pure none
  | .withdraw amount account payment => do pure (some (← withdraw amount account payment))

def called (ledger : Ledger) (call : Call) : Ledger :=
  match work call ledger with
  | .ok _ after => after
  | .error _ after => after

def given (ledger : Ledger) (call : Call) : Option TransactionId :=
  match work call ledger with
  | .ok answer _ => answer
  | .error _ _ => none

def shifted (ledger : Ledger) (id : AccountId) (changed : Account) : Ledger :=
  { ledger.numbered with accounts := ledger.accounts.insert id changed }

inductive Called (ledger : Ledger) : Call → Option TransactionId → Ledger → Prop where
  | listed (loan : Loan) : Called ledger (.addLoan loan) none (ledger.addLoan loan)
  | charged (loan : LoanId) (charges : List Charge) :
      Called ledger (.addCharges loan charges) none (ledger.addCharges loan charges)
  | linked (loan : LoanId) (account : AccountId) (available : Decimal) :
      Called ledger (.link loan account available) none (ledger.link loan account available)
  | secured {loan : LoanId} {record : Loan} {id : AccountId} {account changed : Account} {amount : Decimal}
      (linked : ledger.links.get? loan = some id) (found : ledger.accounts.get? id = some account)
      (held : account.hold (ledger.lastTransaction + 1) amount = .ok changed)
      (known : ledger.loans.get? loan = some record) :
      Called ledger (.placeLien loan amount) (some (ledger.lastTransaction + 1))
        ((ledger.shifted id changed).pledged loan record (some (ledger.lastTransaction + 1)))
  | restated {loan : LoanId} {record : Loan} (known : ledger.loans.get? loan = some record) (status : LoanStatus) :
      Called ledger (.setStatus loan status) none
        { ledger with loans := ledger.loans.insert loan { record with status := status } }
  | pledged {loan : LoanId} {record : Loan} (known : ledger.loans.get? loan = some record)
      (lien : Option TransactionId) : Called ledger (.setLien loan lien) none (ledger.pledged loan record lien)
  | marked (loan : LoanId) (ids : List ChargeId) (charges : List Charge) :
      Called ledger (.markPaid loan ids) none (ledger.withMarked loan ids charges)
  | passed {call : Call} (journaled : call.unjournaled = false) {loan : LoanId} {record : Loan}
      (known : ledger.loans.get? loan = some record) (target : LoanStatus) {entry : JournalEntry}
      (unbooked : entry.booking? = none) (unnumbered : entry.number? = none) :
      Called ledger call none (ledger.passed loan record target entry)
  | noted (loan : LoanId) (text : String) : Called ledger (.appendNote loan text) none (ledger.noted loan text)
  | looked (loan : LoanId) : Called ledger (.findAccount loan) none ledger
  | held {id : AccountId} {account changed : Account} (loan : Option LoanId) (amount : Amount)
      (found : ledger.accounts.get? id = some account)
      (held : account.hold (ledger.lastTransaction + 1) amount.value = .ok changed) :
      Called ledger (.hold amount loan id) (some (ledger.lastTransaction + 1))
        (ledger.numbered.moved id changed (.hold id loan amount.value (ledger.lastTransaction + 1)))
  | released {id : AccountId} {account changed : Account} {transaction : TransactionId}
      (found : ledger.accounts.get? id = some account) (released : account.release transaction = .ok changed) :
      Called ledger (.release id transaction) none (ledger.moved id changed (.release id transaction))
  | withdrawn {id : AccountId} {account changed : Account} (amount : Amount) (payment : PaymentTypeId)
      (found : ledger.accounts.get? id = some account) (withdrawn : account.withdraw amount.value = .ok changed) :
      Called ledger (.withdraw amount id payment) (some (ledger.lastTransaction + 1))
        (ledger.numbered.moved id changed (.withdraw id amount.value payment (ledger.lastTransaction + 1)))

inductive Refused (ledger : Ledger) : Call → Ledger → Prop where
  | unchanged {call : Call} : Refused ledger call ledger
  | numbered {call : Call} : Refused ledger call ledger.numbered
  /-- A lien for a loan that is linked and not listed is placed, but cannot be recorded. -/
  | stranded {loan : LoanId} {id : AccountId} {account changed : Account} {amount : Decimal}
      (linked : ledger.links.get? loan = some id) (found : ledger.accounts.get? id = some account)
      (held : account.hold (ledger.lastTransaction + 1) amount = .ok changed)
      (unknown : ledger.loans.get? loan = none) : Refused ledger (.placeLien loan amount) (ledger.shifted id changed)

section

variable {α : Type} {op : Op α} {ledger : Ledger} {done : α → Ledger → Prop} {stopped : Stop → Ledger → Prop}

theorem unnumbered_ends {call : Call} (ends : Ends op ledger done stopped)
    (called : ∀ answer after, done answer after → Called ledger call none after)
    (refused : ∀ stop after, stopped stop after → Refused ledger call after) :
    Ends (do let _ ← op; pure none : Op (Option TransactionId)) ledger (Called ledger call)
      fun _ after => Refused ledger call after :=
  ends.andThen called refused

theorem setStatus_ends (id : LoanId) (status : LoanStatus) (ledger : Ledger) :
    Ends (setStatus id status) ledger
      (fun _ after => ∃ record, ledger.loans.get? id = some record ∧
        after = { ledger with loans := ledger.loans.insert id { record with status := status } })
      fun _ after => ledger.loans.get? id = none ∧ after = ledger := by
  apply (requireLoan_ends id ledger).andThen
  · rintro record _ ⟨known, rfl⟩
    exact ⟨record, known, rfl⟩
  · rintro _ _ ⟨unknown, _, rfl⟩
    exact ⟨unknown, rfl⟩

theorem placeLien_called (loan : LoanId) (amount : Decimal) (ledger : Ledger) :
    Ends (placeLien loan amount) ledger (fun number after => Called ledger (.placeLien loan amount) (some number) after)
      fun _ after => Refused ledger (.placeLien loan amount) after := by
  apply (requireLink_ends loan ledger).andThen
  · intro id _ ended
    obtain ⟨linked, rfl⟩ := ended
    apply (ends_bind _ _ _ _ _).mpr
    apply (changeAccount_ends id (·.hold (_ + 1) amount) _).andThen
    · intro _ _ ended
      obtain ⟨account, changed, found, held, rfl⟩ := ended
      apply (setLien_ends loan _ _).andThen
      · intro _ _ ended
        obtain ⟨record, known, rfl⟩ := ended
        exact .secured linked found held known
      · intro _ _ ended
        obtain ⟨unknown, _, rfl⟩ := ended
        exact .stranded linked found held unknown
    · intro _ _ ended
      obtain ⟨_, rfl⟩ := ended
      exact .numbered
  · intro _ _ ended
    obtain ⟨_, _, rfl⟩ := ended
    exact .unchanged

end

theorem work_ends (call : Call) (ledger : Ledger) :
    Ends (work call) ledger (Called ledger call) fun _ after => Refused ledger call after := by
  have passing (op : LedgerOp) (id : LoanId) (sources : List LoanStatus) (target : LoanStatus) (entry : JournalEntry)
      (journaled : call.unjournaled = false) (unbooked : entry.booking? = none) (unnumbered : entry.number? = none) :
      Ends (do let _ ← (do check op; transition id sources target; enter entry : Op Unit); pure none :
        Op (Option TransactionId)) ledger (Called ledger call) fun _ after => Refused ledger call after := by
    refine unnumbered_ends (pass_ends op id sources target entry ledger) ?_ ?_
    · rintro _ _ ⟨_, record, known, _, rfl⟩
      exact .passed journaled known target unbooked unnumbered
    · rintro _ _ ⟨_, _, rfl⟩
      exact .unchanged
  cases call with
  | addLoan loan => exact .listed loan
  | addCharges loan charges => exact .charged loan charges
  | link loan account available => exact .linked loan account available
  | placeLien loan amount =>
    exact (placeLien_called loan amount ledger).andThen (fun _ _ called => called) fun _ _ no => no
  | setStatus loan status =>
    refine unnumbered_ends (setStatus_ends loan status ledger) ?_ ?_
    · rintro _ _ ⟨record, known, rfl⟩
      exact .restated known status
    · rintro _ _ ⟨_, rfl⟩
      exact .unchanged
  | setLien loan lien =>
    refine unnumbered_ends (setLien_ends loan lien ledger) ?_ ?_
    · rintro _ _ ⟨record, known, rfl⟩
      exact .pledged known lien
    · rintro _ _ ⟨_, _, rfl⟩
      exact .unchanged
  | markPaid loan ids =>
    refine unnumbered_ends (markPaid_ends loan ids ledger) ?_ ?_
    · rintro _ _ ⟨charges, _, rfl⟩
      exact .marked loan ids charges
    · rintro _ _ ⟨_, _, rfl⟩
      exact .unchanged
  | submit loan amount date =>
    exact passing .submitForApproval loan [.submittedAndPendingApproval] .approved (.submitForApproval loan amount date)
      rfl rfl rfl
  | disburse loan date amount payment =>
    exact passing .disburse loan [.approved, .submittedAndPendingApproval] .active (.disburse loan amount date payment)
      rfl rfl rfl
  | reject loan => exact passing .reject loan [.submittedAndPendingApproval] .rejected (.reject loan) rfl rfl rfl
  | undoApproval loan =>
    exact passing .undoApproval loan [.approved] .submittedAndPendingApproval (.undoApproval loan) rfl rfl rfl
  | appendNote loan text =>
    refine unnumbered_ends (appendNote_ends loan text ledger) ?_ ?_
    · rintro _ _ ⟨_, _, rfl⟩
      exact .noted loan text
    · rintro _ _ ⟨_, _, rfl⟩
      exact .unchanged
  | forceStatus loan status =>
    refine unnumbered_ends (forceStatus_ends loan status ledger) ?_ ?_
    · rintro _ _ ⟨_, record, known, rfl⟩
      exact .passed rfl known status rfl rfl
    · rintro _ _ ⟨_, _, rfl⟩
      exact .unchanged
  | findAccount loan =>
    refine unnumbered_ends (findAccount_ends loan ledger) ?_ ?_
    · rintro _ _ ⟨_, _, rfl⟩
      exact .looked loan
    · rintro _ _ ⟨_, rfl⟩
      exact .unchanged
  | hold amount loan id =>
    apply (move_ends .hold id (fun transaction account => account.hold transaction amount.value) (.hold id loan amount.value)
      ledger).andThen
    · rintro _ _ ⟨_, rfl, account, changed, found, held, rfl⟩
      exact .held loan amount found held
    · rintro _ _ (⟨_, _, rfl⟩ | ⟨_, rfl⟩)
      · exact .unchanged
      · exact .numbered
  | release id transaction =>
    refine unnumbered_ends (release_ends id transaction ledger) ?_ ?_
    · rintro _ _ ⟨_, account, changed, found, released, rfl⟩
      exact .released found released
    · rintro _ _ ⟨_, rfl⟩
      exact .unchanged
  | withdraw amount id payment =>
    apply (move_ends .withdraw id (fun _ account => account.withdraw amount.value) (.withdraw id amount.value payment)
      ledger).andThen
    · rintro _ _ ⟨_, rfl, account, changed, found, withdrawn, rfl⟩
      exact .withdrawn amount payment found withdrawn
    · rintro _ _ (⟨_, _, rfl⟩ | ⟨_, rfl⟩)
      · exact .unchanged
      · exact .numbered

/-! What every call keeps. -/

section

variable {ledger after : Ledger} {call : Call} {answer : Option TransactionId}

theorem InOrder.amend (inOrder : ledger.InOrder) {loan : LoanId} {record amended : Loan}
    (known : ledger.loans.get? loan = some record) (same : amended.id = record.id) :
    ∀ other found, (ledger.loans.insert loan amended).get? other = some found → found.id = other :=
  inOrder.insert_loan (same.trans (inOrder.keyed _ _ known))

theorem InOrder.shifted (inOrder : ledger.InOrder) {id : AccountId} {account changed : Account} {amount : Decimal}
    (found : ledger.accounts.get? id = some account)
    (held : account.hold (ledger.lastTransaction + 1) amount = .ok changed) : (ledger.shifted id changed).InOrder :=
  ⟨inOrder.keyed, inOrder.insert_account (Nat.le_succ _) (inOrder.hold found held)⟩

theorem InOrder.numbered (inOrder : ledger.InOrder) : ledger.numbered.InOrder :=
  ⟨inOrder.keyed, fun id account transaction amount found held =>
    Nat.le_succ_of_le (inOrder.issued id account transaction amount found held)⟩

theorem Called.inOrder (called : Called ledger call answer after) (inOrder : ledger.InOrder) : after.InOrder := by
  cases called with
  | looked loan => exact inOrder
  | listed loan => exact ⟨inOrder.insert_loan rfl, inOrder.issued⟩
  | charged loan charges => exact ⟨inOrder.keyed, inOrder.issued⟩
  | linked loan account available => exact inOrder.link loan account available
  | restated known status => exact ⟨inOrder.amend known rfl, inOrder.issued⟩
  | pledged known lien => exact ⟨inOrder.amend known rfl, inOrder.issued⟩
  | marked loan ids charges => exact ⟨inOrder.keyed, inOrder.issued⟩
  | passed journaled known target unbooked unnumbered => exact ⟨inOrder.amend known rfl, inOrder.issued⟩
  | noted loan text => exact ⟨inOrder.keyed, inOrder.issued⟩
  | held loan amount found held => exact ⟨inOrder.keyed, (inOrder.shifted found held).issued⟩
  | released found released =>
    exact ⟨inOrder.keyed, inOrder.insert_account (Nat.le_refl _) (inOrder.release found released)⟩
  | withdrawn amount payment found withdrawn =>
    obtain ⟨_, _, _, rfl⟩ := (Account.withdraw_ok_iff ..).mp withdrawn
    refine ⟨inOrder.keyed, inOrder.insert_account (Nat.le_succ _) fun transaction sum held => ?_⟩
    exact Nat.le_succ_of_le (inOrder.issued _ _ transaction sum found held)
  | secured linked found held known =>
    have shifted := inOrder.shifted found held
    exact ⟨inOrder.amend known rfl, shifted.issued⟩

theorem Refused.inOrder (refused : Refused ledger call after) (inOrder : ledger.InOrder) : after.InOrder := by
  cases refused with
  | unchanged => exact inOrder
  | numbered => exact inOrder.numbered
  | stranded linked found held unknown => exact inOrder.shifted found held

structure Books (before : Ledger) (bookings : List AccountBooking) (numbers : List TransactionId)
    (after : Ledger) : Prop where
  booked : Booked False before bookings after
  withdrawn : ∀ id, after.withdrawn id = before.withdrawn id + spentOn id bookings
  issues : Issues before numbers after

theorem Records.books {entries : List JournalEntry} (records : Records ledger entries after) :
    Books ledger (entries.filterMap JournalEntry.booking?) (entries.filterMap JournalEntry.number?) after where
  booked := records.booked
  withdrawn id := by
    unfold Ledger.withdrawn
    rw [records.journal, List.map_append, List.sum_append, sum_withdrawn id entries]
  issues := records.issues

theorem Books.lien {id : AccountId} {account changed : Account} {amount : Decimal}
    (found : ledger.accounts.get? id = some account)
    (held : account.hold (ledger.lastTransaction + 1) amount = .ok changed)
    (accounts : after.accounts = ledger.accounts.insert id changed)
    (last : after.lastTransaction = ledger.lastTransaction + 1) (journal : after.journal = ledger.journal)
    {numbers : List TransactionId} (own : numbers = [] ∨ numbers = [ledger.lastTransaction + 1]) :
    Books ledger [(id, .hold (ledger.lastTransaction + 1) amount)] numbers after where
  booked := by
    refine .book .nothing found held False.elim accounts (last ▸ Nat.le_succ _) fun _ _ is => ?_
    cases is
    exact ⟨Nat.lt_succ_self _, Nat.le_of_eq last.symm⟩
  withdrawn other := by
    have nothing : spentOn other [(id, .hold (ledger.lastTransaction + 1) amount)] = 0 := by
      simp only [spentOn, Account.Change.spends, List.map_cons, List.map_nil, ite_self, List.sum_cons, List.sum_nil,
        add_zero]
    rw [nothing, Int.add_zero, Ledger.withdrawn, journal]
    rfl
  issues := by
    have later : ledger.lastTransaction ≤ after.lastTransaction := last ▸ Nat.le_succ _
    rcases own with rfl | rfl
    · exact ⟨later, fun _ none => absurd none List.not_mem_nil, .nil⟩
    · refine ⟨later, fun number mem => ?_, List.pairwise_singleton ..⟩
      cases List.mem_singleton.mp mem
      exact ⟨Nat.lt_succ_self _, Nat.le_of_eq last.symm⟩

theorem Called.records (called : Called ledger call answer after) (journaled : call.unjournaled = false) :
    ∃ entries, Records ledger entries after ∧ entries.filterMap JournalEntry.number? = answer.toList := by
  have silent {other : Ledger} (accounts : other.accounts = ledger.accounts) (journal : other.journal = ledger.journal)
      (last : other.lastTransaction = ledger.lastTransaction) :
      ∃ entries, Records ledger entries other ∧ entries.filterMap JournalEntry.number? = [] :=
    ⟨_, .silent accounts journal (Nat.le_of_eq last.symm), rfl⟩
  cases called with
  | listed loan => exact silent rfl rfl rfl
  | charged loan charges => exact silent rfl rfl rfl
  | linked loan account available => cases journaled
  | secured linked found held known => cases journaled
  | restated known status => exact silent rfl rfl rfl
  | pledged known lien => exact silent rfl rfl rfl
  | marked loan ids charges => exact silent rfl rfl rfl
  | passed _ known target unbooked unnumbered =>
    exact ⟨_, .quiet rfl unbooked unnumbered rfl rfl, List.filterMap_cons_none unnumbered⟩
  | noted loan text => exact ⟨_, .quiet rfl rfl rfl rfl rfl, rfl⟩
  | looked loan => exact silent rfl rfl rfl
  | held loan amount found held => exact ⟨_, .hold found held, rfl⟩
  | released found released => exact ⟨_, .release found released, rfl⟩
  | withdrawn amount payment found withdrawn => exact ⟨_, .withdraw found withdrawn, rfl⟩

theorem Refused.records (refused : Refused ledger call after) (journaled : call.unjournaled = false) :
    Records ledger [] after := by
  cases refused with
  | unchanged => exact .refl ledger
  | numbered => exact .silent rfl rfl (Nat.le_succ _)
  | stranded linked found held unknown => cases journaled

/-- A call is one that went through, with its number, or one that was refused. -/
theorem called_cases (ledger : Ledger) (call : Call) :
    Called ledger call (ledger.given call) (ledger.called call) ∨
      ledger.given call = none ∧ Refused ledger call (ledger.called call) := by
  have ends := work_ends call ledger
  unfold Ends at ends
  unfold called given
  cases ran : work call ledger with
  | ok answer after =>
    rw [ran] at ends
    exact Or.inl ends
  | error stop after =>
    rw [ran] at ends
    exact Or.inr ⟨rfl, ends⟩

theorem called_inOrder (inOrder : ledger.InOrder) (call : Call) : (ledger.called call).InOrder := by
  rcases called_cases ledger call with through | ⟨_, refused⟩
  · exact through.inOrder inOrder
  · exact refused.inOrder inOrder

theorem called_records (ledger : Ledger) {call : Call} (journaled : call.unjournaled = false) :
    ∃ entries, Records ledger entries (ledger.called call) ∧
      entries.filterMap JournalEntry.number? = (ledger.given call).toList := by
  rcases called_cases ledger call with through | ⟨none, refused⟩
  · exact through.records journaled
  · rw [none]
    exact ⟨_, refused.records journaled, rfl⟩

/-- A lien that is placed is the next hold on the account of the loan. Where it is refused there is
nothing to book. -/
theorem placeLien_books (ledger : Ledger) {loan : LoanId} {amount : Decimal} (placing : call = .placeLien loan amount) :
    Books ledger [] (ledger.given call).toList (ledger.called call) ∨
      ∃ id, ledger.links.get? loan = some id ∧
        Books ledger [(id, .hold (ledger.lastTransaction + 1) amount)] (ledger.given call).toList
          (ledger.called call) := by
  subst placing
  have outcome := called_cases ledger (.placeLien loan amount)
  generalize ledger.given (.placeLien loan amount) = answer, ledger.called (.placeLien loan amount) = after at outcome ⊢
  rcases outcome with through | ⟨rfl, refused⟩
  · cases through with
    | secured linked found held known =>
      refine Or.inr ⟨_, linked, .lien found held ?_ ?_ ?_ (Or.inr rfl)⟩ <;> rfl
    | passed journaled => cases journaled
  · cases refused with
    | unchanged => exact Or.inl (Records.refl ledger).books
    | numbered =>
      have silent : Records ledger [] ledger.numbered := .silent rfl rfl (Nat.le_succ _)
      exact Or.inl silent.books
    | stranded linked found held unknown =>
      refine Or.inr ⟨_, linked, .lien found held ?_ ?_ ?_ (Or.inl rfl)⟩ <;> rfl

end

end Ledger

end Countersign
