import Countersign.Proofs.SettlementAgain

/-!
What two runs of a command have to leave alike: the statuses of the loans, the charges, all
balances by value, and the lien of the loan by the amount that it stands for. Numbers, notes
and the journal may differ. After a disbursal the hold becomes the lien; recording it on both
sides makes up for the difference in its number.
-/

namespace Countersign.Ledger

/-- Nothing is made to fail, and the books of the loan are such that whatever is done to them
can be told from what is not: its charges have ids of their own, and its lien is a number that
was given out. -/
structure Fit (loan : LoanId) (ledger : Ledger) : Prop where
  working : ledger.failing = []
  inOrder : ledger.InOrder
  distinct : ((ledger.chargesOf loan).map (·.id)).Nodup
  issued : ∀ record, ledger.loans.get? loan = some record → ∀ transaction, record.lien = some transaction →
    transaction ≤ ledger.lastTransaction

def lienHeld (ledger : Ledger) (loan : LoanId) : Option (Option Decimal) :=
  ((ledger.loan? loan).bind (·.lien)).map fun lien => (ledger.links.get? loan).bind (ledger.holdOf · lien)

structure Concurs (loan : LoanId) (a b : Ledger) : Prop where
  status : ∀ id, b.statusOf id = a.statusOf id
  charges : b.charges = a.charges
  balances : ∀ id, b.balances id = a.balances id
  lien : b.lienHeld loan = a.lienHeld loan

def charged (ledger : Ledger) (loan : LoanId) (ids : Option (List ChargeId)) : Ledger :=
  match ids, ledger.charges.get? loan with
  | some ids, some charges => ledger.withMarked loan ids charges
  | _, _ => ledger

def relined (ledger : Ledger) (loan : LoanId) (lien : Option TransactionId) : Ledger :=
  match ledger.loans.get? loan with
  | some record => ledger.pledged loan record lien
  | none => ledger

section

variable (ledger : Ledger) (loan : LoanId) (ids : Option (List ChargeId))

theorem markPaid_charges (ids : List ChargeId) :
    Ends (markPaid loan ids) ledger (fun _ after => after = ledger.charged loan (some ids))
      fun stop after => (∃ error, stop = .refused error) ∧ after = ledger.charged loan (some ids) := by
  unfold charged
  apply (markPaid_ends loan ids ledger).imp
  · intro _ _ ended
    obtain ⟨charges, found, rfl⟩ := ended
    rw [found]
  · intro _ _ ended
    obtain ⟨missing, refused, rfl⟩ := ended
    rw [missing]
    exact ⟨refused, rfl⟩

theorem setLien_relines (lien : Option TransactionId) :
    Ends (setLien loan lien) ledger (fun _ after => after = ledger.relined loan lien)
      fun stop after => (∃ error, stop = .refused error) ∧ after = ledger.relined loan lien := by
  unfold relined
  apply (setLien_ends loan lien ledger).imp
  · intro _ _ ended
    obtain ⟨record, found, rfl⟩ := ended
    rw [found]
  · intro _ _ ended
    obtain ⟨missing, refused, rfl⟩ := ended
    rw [missing]
    exact ⟨refused, rfl⟩

theorem charged_loans : (ledger.charged loan ids).loans = ledger.loans := by
  unfold charged
  split <;> rfl

theorem charged_links : (ledger.charged loan ids).links = ledger.links := by
  unfold charged
  split <;> rfl

theorem charged_failing : (ledger.charged loan ids).failing = ledger.failing := by
  unfold charged
  split <;> rfl

theorem relined_failing (lien : Option TransactionId) : (ledger.relined loan lien).failing = ledger.failing := by
  unfold relined
  split <;> rfl

end

variable {last : TransactionId} {loan : LoanId} {id : AccountId} {a b : Ledger} {lien lien' : Option TransactionId}

theorem Fit.noted (fit : Fit loan a) (other : LoanId) (text : String) : Fit loan (a.noted other text) :=
  ⟨fit.working, ⟨fit.inOrder.keyed, fit.inOrder.issued⟩, fit.distinct, fit.issued⟩

theorem Fit.passed (fit : Fit loan a) {record : Loan} (found : a.loans.get? loan = some record) (target : LoanStatus)
    (entry : JournalEntry) : Fit loan (a.passed loan record target entry) := by
  have named := fit.inOrder.keyed loan record found
  refine ⟨fit.working, ⟨fit.inOrder.insert_loan named, fit.inOrder.issued⟩, fit.distinct, ?_⟩
  intro other is transaction pledge
  cases (Table.get?_insert_self ..).symm.trans is
  exact fit.issued record found transaction pledge

theorem Near.concurs (near : Near last a b)
    (recorded : ∀ record, a.loans.get? loan = some record → ∀ transaction, record.lien = some transaction →
      transaction ≤ last) : Concurs loan a b := by
  refine ⟨fun id => ?_, near.charges, near.balances, ?_⟩
  · unfold statusOf loan?
    rw [near.loans]
  · unfold lienHeld loan?
    rw [near.loans, near.links]
    cases found : a.loans.get? loan with
    | none => rfl
    | some record =>
      dsimp only [Option.bind_some]
      cases pledge : record.lien with
      | none => rfl
      | some transaction =>
        dsimp only [Option.map_some]
        cases a.links.get? loan with
        | none => rfl
        | some account =>
          rw [Option.bind_some, Option.bind_some, near.holds account transaction (recorded _ found _ pledge)]

theorem Alike.concurs (alike : Alike a b) (fit : Fit loan a) : Concurs loan a b := (alike.near _).concurs fit.issued

theorem Reheld.passed (reheld : Reheld last id a b lien lien') (loan : LoanId) (record : Loan) (target : LoanStatus)
    (entry entry' : JournalEntry) :
    Reheld last id (a.passed loan record target entry) (b.passed loan record target entry') lien lien' :=
  ⟨reheld.near.passed .., reheld.held, reheld.fresh⟩

theorem Reheld.charged (reheld : Reheld last id a b lien lien') (loan : LoanId) (ids : Option (List ChargeId)) :
    Reheld last id (a.charged loan ids) (b.charged loan ids) lien lien' := by
  unfold Ledger.charged
  rw [reheld.near.charges]
  split
  · exact ⟨reheld.near.withMarked _ _ _, reheld.held, reheld.fresh⟩
  · exact reheld

theorem holdOf_released {ledger : Ledger} {account changed : Account} {transaction : TransactionId}
    (found : ledger.accounts.get? id = some account) (released : account.release transaction = .ok changed)
    (entry : JournalEntry) (different : ∀ number, lien = some number → number ≠ transaction) :
    lien.map ((ledger.moved id changed entry).holdOf id) = lien.map (ledger.holdOf id) := by
  apply Option.map_congr
  intro number is
  obtain ⟨_, _, _, _, _, _, rfl⟩ := (Account.release_ok_iff ..).mp released
  rw [holdOf_moved, if_pos rfl, Table.get?_erase, if_neg (different number is)]
  unfold holdOf account?
  rw [found, Option.bind_some]

theorem Reheld.release (reheld : Reheld last id a b lien lien') {transaction : TransactionId} {after : Ledger}
    (earlier : transaction ≤ last) (ran : exactRelease id transaction a = .ok () after) :
    Ends (release id transaction) b
      (fun _ later => later.failing = b.failing ∧ Reheld last id after later lien lien')
      fun stop later => later = b ∧ .release ∈ b.failing ∧ stop = .refused (.unavailable (.failing .release)) := by
  refine ((release_near reheld.near earlier ran).and (release_ends id transaction b)).imp ?_ fun _ _ both => both.1
  intro _ _ ended
  obtain ⟨⟨failing, near⟩, _, account', changed', found', released', rfl⟩ := ended
  obtain ⟨account, changed, _, found, _, released, _, rfl⟩ := (exactRelease_ends ..).of_ok ran
  refine ⟨failing, near, ?_, reheld.fresh⟩
  have others (number : TransactionId) (new : lien = some number ∨ lien' = some number) : number ≠ transaction :=
    Nat.ne_of_gt (Nat.lt_of_le_of_lt earlier (reheld.fresh number new))
  rw [holdOf_released found released _ fun number new => others number (Or.inl new),
    holdOf_released found' released' _ fun number new => others number (Or.inr new)]
  exact reheld.held

theorem statusOf_pledged {ledger : Ledger} {record : Loan} (found : ledger.loans.get? loan = some record)
    (lien : Option TransactionId) (other : LoanId) :
    (ledger.pledged loan record lien).statusOf other = ledger.statusOf other := by
  unfold statusOf loan? pledged
  rw [Table.get?_insert]
  by_cases same : other = loan
  · rw [if_pos same, same, found, Option.map_some, Option.map_some]
  · rw [if_neg same]

theorem lienHeld_pledged {ledger : Ledger} (linked : ledger.links.get? loan = some id) (record : Loan)
    (lien : Option TransactionId) : (ledger.pledged loan record lien).lienHeld loan = lien.map (ledger.holdOf id) := by
  unfold lienHeld loan? pledged
  rw [Table.get?_insert_self, linked]
  rfl

theorem Reheld.concurs_relined (reheld : Reheld last id a b lien lien') (linked : a.links.get? loan = some id) :
    Concurs loan (a.relined loan lien) (b.relined loan lien') := by
  have linked' : b.links.get? loan = some id := by rw [reheld.near.links, linked]
  unfold relined
  rw [reheld.near.loans]
  cases found : a.loans.get? loan with
  | none =>
    apply reheld.near.concurs
    intro record is
    cases found.symm.trans is
  | some record =>
    have found' : b.loans.get? loan = some record := by rw [reheld.near.loans, found]
    refine ⟨fun other => ?_, reheld.near.charges, reheld.near.balances, ?_⟩
    · rw [statusOf_pledged found, statusOf_pledged found']
      unfold statusOf loan?
      rw [reheld.near.loans]
    · rw [lienHeld_pledged linked, lienHeld_pledged linked', reheld.held]

/-! Statuses that change on the way. -/

def withStatus (ledger : Ledger) (loan : Loan) (status : LoanStatus) : Ledger :=
  { ledger with loans := ledger.loans.insert loan.id { loan with status := status } }

theorem Alike.withStatus {record : Loan} (alike : Alike a b) (found : a.loans.get? record.id = some record) :
    Alike (a.withStatus record record.status) b := by
  refine ⟨alike.loans.trans (Table.ext_get? fun other => ?_), alike.charges, alike.links, alike.accounts, alike.numbers⟩
  change a.loans.get? other = (a.loans.insert record.id record).get? other
  rw [Table.get?_insert]
  by_cases same : other = record.id
  · rw [if_pos same, same, found]
  · rw [if_neg same]

theorem Alike.passed_again {record : Loan} {status : LoanStatus} (alike : Alike (a.withStatus record status) b)
    (target : LoanStatus) (entry : JournalEntry) :
    Alike (a.withStatus record target) (b.passed record.id { record with status := status } target entry) := by
  refine ⟨Table.ext_get? fun other => ?_, alike.charges, alike.links, alike.accounts, alike.numbers⟩
  change (b.loans.insert record.id _).get? other = (a.loans.insert record.id _).get? other
  rw [alike.loans]
  change ((a.loans.insert record.id _).insert record.id _).get? other = _
  rw [Table.get?_insert, Table.get?_insert, Table.get?_insert]
  by_cases same : other = record.id
  · rw [if_pos same, if_pos same]
  · rw [if_neg same, if_neg same, if_neg same]

end Countersign.Ledger
