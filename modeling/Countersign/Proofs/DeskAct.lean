import Countersign.Proofs.LedgerCall

/-!
Acts at a desk: the events of a run, and calls of the ledger from outside in between. A desk
begins blank, and what a setup does to it are such calls; so acts are all that the books can
have gone through. For every act it can be told what it does to the accounts, and whether any
digit is dropped in it.
-/

namespace Countersign

open Ledger (Books Records Issues bookExactly)

inductive Act where
  | event (event : Event)
  | call (call : Ledger.Call)

namespace Desk

def blank (directory : Directory) : Desk := { empty with directory := directory }

def act (settings : Settings) (desk : Desk) : Act → Desk
  | .event event => desk.after settings event
  | .call call => { desk with ledger := desk.ledger.called call }

def actAll (settings : Settings) (desk : Desk) (acts : List Act) : Desk := acts.foldl (act settings) desk

def entries (settings : Settings) (desk : Desk) (act : Act) : List JournalEntry :=
  (desk.act settings act).ledger.journal.drop desk.ledger.journal.length

/-- What the act has the accounts go through. A lien has no entry; it is the next hold on the account
of the loan. -/
def bookings (settings : Settings) (desk : Desk) : Act → List AccountBooking
  | .call (.placeLien loan amount) =>
    match desk.ledger.links.get? loan with
    | some id => [(id, .hold (desk.ledger.lastTransaction + 1) amount)]
    | none => []
  | act => (desk.entries settings act).filterMap JournalEntry.booking?

/-- The numbers that the act gives out: what a call answers, and what a command books under. -/
def numbers (settings : Settings) (desk : Desk) : Act → List TransactionId
  | .event event => (desk.entries settings (.event event)).filterMap JournalEntry.number?
  | .call call => (desk.ledger.given call).toList

/-- No sum on an account has to drop a digit. -/
def lossless (settings : Settings) (desk : Desk) : List Act → Bool
  | [] => true
  | act :: rest =>
    ((desk.bookings settings act).foldlM bookExactly desk.ledger.accounts).isSome &&
      (desk.act settings act).lossless settings rest

def allNumbers (settings : Settings) (desk : Desk) : List Act → List TransactionId
  | [] => []
  | act :: rest => desk.numbers settings act ++ (desk.act settings act).allNumbers settings rest

end Desk

namespace Act

def opens (id : AccountId) : Act → Option Decimal
  | .call (.link _ account available) => if account = id then some available else none
  | _ => none

/-- What the account is opened with: an account that exists is not opened again. -/
def opening (id : AccountId) (acts : List Act) : Option Decimal := acts.findSome? (opens id)

end Act

namespace Desk

variable {settings : Settings} {desk : Desk}

theorem blank_orderly (directory : Directory) : (blank directory).Orderly :=
  ⟨ChainStore.empty_regular, empty_opening.ledger⟩

theorem Orderly.act (orderly : desk.Orderly) (act : Act) : (desk.act settings act).Orderly := by
  cases act with
  | event event => exact orderly.after event
  | call call => exact ⟨orderly.chains, Ledger.called_inOrder orderly.ledger call⟩

theorem Orderly.actAll (orderly : desk.Orderly) (acts : List Act) : (desk.actAll settings acts).Orderly := by
  induction acts generalizing desk with
  | nil => exact orderly
  | cons act rest ih => exact ih (orderly.act act)

theorem entries_of_records {act : Act} {new : List JournalEntry}
    (records : Records desk.ledger new (desk.act settings act).ledger) : desk.entries settings act = new := by
  rw [entries, records.journal, List.drop_left]

/-- What an act does to the accounts that opens none. It books what it is said to, or nothing; and
only a lien can be of any other than a positive amount. -/
structure Carries (settings : Settings) (desk : Desk) (act : Act) (booked : List AccountBooking) : Prop where
  unopened : ∀ id, act.opens id = none
  books : Books desk.ledger booked (desk.numbers settings act) (desk.act settings act).ledger
  told : booked = [] ∨ booked = desk.bookings settings act
  positive : ∀ id transaction amount, (id, .hold transaction amount) ∈ booked →
    0 < amount.units ∨ ∃ loan, act = .call (.placeLien loan amount)

theorem Carries.of_records {act : Act} {entries : List JournalEntry}
    (records : Records desk.ledger entries (desk.act settings act).ledger)
    (numbers : desk.numbers settings act = entries.filterMap JournalEntry.number?)
    (bookings : desk.bookings settings act = (desk.entries settings act).filterMap JournalEntry.booking?)
    (unopened : ∀ id, act.opens id = none) : Carries settings desk act (entries.filterMap JournalEntry.booking?) where
  unopened := unopened
  books := numbers ▸ records.books
  told := Or.inr (by rw [bookings, entries_of_records records])
  positive id transaction amount mem := Or.inl (records.positive id transaction amount mem)

theorem act_carries (orderly : desk.Orderly) (act : Act) :
    (∃ loan id available, act = .call (.link loan id available)) ∨ ∃ booked, Carries settings desk act booked := by
  cases act with
  | event event =>
    obtain ⟨entries, records⟩ := after_recorded orderly event
    have numbers : desk.numbers settings (.event event) = entries.filterMap JournalEntry.number? := by
      rw [Desk.numbers, entries_of_records records]
    exact Or.inr ⟨_, .of_records records numbers rfl fun _ => rfl⟩
  | call call =>
    cases direct : call.unjournaled with
    | false =>
      obtain ⟨entries, records, numbers⟩ := Ledger.called_records desk.ledger direct
      refine Or.inr ⟨_, .of_records records numbers.symm ?_ ?_⟩
      · cases call <;> first | rfl | cases direct
      · cases call <;> first | exact fun _ => rfl | cases direct
    | true =>
      cases call with
      | link loan id available => exact Or.inl ⟨loan, id, available, rfl⟩
      | placeLien loan amount =>
        rcases Ledger.placeLien_books desk.ledger rfl with books | ⟨id, linked, books⟩
        · exact Or.inr ⟨[], fun _ => rfl, books, Or.inl rfl, nofun⟩
        · have told : [(id, .hold (desk.ledger.lastTransaction + 1) amount)] =
              desk.bookings settings (.call (.placeLien loan amount)) := by rw [bookings, linked]
          refine Or.inr ⟨_, fun _ => rfl, books, Or.inr told, fun _ _ _ mem => ?_⟩
          cases List.mem_singleton.mp mem
          exact Or.inr ⟨loan, rfl⟩
      | _ => cases direct

theorem link_known (ledger : Ledger) (loan : LoanId) (id : AccountId) (available : Decimal) (other : AccountId) :
    ((ledger.link loan id available).accounts.get? other).isSome =
      ((ledger.accounts.get? other).isSome || decide (id = other)) := by
  unfold Ledger.link
  dsimp only
  split
  next known =>
    by_cases same : id = other
    · subst same
      rw [decide_eq_true rfl, Bool.or_true]
      exact known
    · rw [decide_eq_false same, Bool.or_false]
  next =>
    rw [Table.get?_insert]
    by_cases same : other = id
    · rw [if_pos same, decide_eq_true same.symm, Bool.or_true]
      rfl
    · rw [if_neg same, decide_eq_false (Ne.symm same), Bool.or_false]

theorem act_known (orderly : desk.Orderly) (act : Act) (id : AccountId) :
    ((desk.act settings act).ledger.accounts.get? id).isSome =
      ((desk.ledger.accounts.get? id).isSome || (act.opens id).isSome) := by
  rcases act_carries orderly act with ⟨loan, there, available, rfl⟩ | ⟨booked, carries⟩
  · apply (link_known desk.ledger loan there available id).trans
    dsimp only [Act.opens]
    by_cases same : there = id
    · rw [decide_eq_true same, if_pos same]
      rfl
    · rw [decide_eq_false same, if_neg same]
      rfl
  · rw [carries.books.booked.known, carries.unopened, Option.isSome_none, Bool.or_false]

theorem release_entered {act : Act} {id : AccountId} {transaction : TransactionId}
    (booked : (id, .release transaction) ∈ desk.bookings settings act) :
    .release id transaction ∈ desk.entries settings act := by
  have journaled (listed : (id, .release transaction) ∈ (desk.entries settings act).filterMap JournalEntry.booking?) :
      .release id transaction ∈ desk.entries settings act := by
    obtain ⟨entry, mem, is⟩ := List.mem_filterMap.mp listed
    cases entry <;> cases is
    exact mem
  unfold bookings at booked
  split at booked
  next =>
    split at booked
    next => cases List.mem_singleton.mp booked
    next => cases booked
  next => exact journaled booked

end Desk

/-! Setups as acts. -/

def LoanSetup.acts (entry : LoanSetup) : List Act :=
  let id := entry.loan.id
  [.call (.addLoan entry.loan), .call (.addCharges id entry.charges)] ++
    match entry.savings with
    | none => []
    | some savings =>
      .call (.link id savings.id savings.available) ::
        match savings.lien with
        | none => []
        | some amount => [.call (.placeLien id amount)]

def Setup.acts (setup : Setup) : List Act := setup.loans.flatMap LoanSetup.acts

theorem Ledger.called_placeLien {ledger after : Ledger} {loan : LoanId} {amount : Decimal} {number : TransactionId}
    (placed : placeLien loan amount ledger = .ok number after) : ledger.called (.placeLien loan amount) = after := by
  have worked : work (.placeLien loan amount) ledger = .ok (some number) after := by
    change EStateM.bind (placeLien loan amount) _ ledger = _
    rw [EStateM.bind, placed]
    rfl
  rw [called, worked]

theorem LoanSetup.install_acts (entry : LoanSetup) (settings : Settings) (desk : Desk) :
    Ends entry.install desk
      (fun _ after => after = desk.actAll settings entry.acts ∧ after.directory = desk.directory) fun _ _ => True := by
  unfold install acts
  apply (ends_bind _ _ _ _ _).mpr
  cases entry.savings with
  | none => exact ⟨rfl, rfl⟩
  | some savings =>
    apply (ends_bind _ _ _ _ _).mpr
    dsimp only
    cases savings.lien with
    | none => exact ⟨rfl, rfl⟩
    | some amount =>
      let linked := desk.actAll settings [.call (.addLoan entry.loan), .call (.addCharges entry.loan.id entry.charges),
        .call (.link entry.loan.id savings.id savings.available)]
      have placing : Ends (Ledger.placeLien entry.loan.id amount) linked.ledger
          (fun _ after => after = linked.ledger.called (.placeLien entry.loan.id amount)) fun _ _ => True := by
        unfold Ends
        split
        next placed => exact (Ledger.called_placeLien placed).symm
        next => trivial
      refine (onLedger_ends placing).andThen ?_ fun _ _ _ => trivial
      intro _ _ ended
      rcases ended with ⟨_, rfl, ⟨_, rfl, same⟩ | ⟨_, rfl, _⟩⟩
      · exact ⟨congrArg (fun ledger => { linked with ledger := ledger }) same, rfl⟩
      · exact trivial

theorem Setup.install_acts {setup : Setup} {start : Desk} (installed : setup.install .empty = .ok () start)
    (settings : Settings) : start = (Desk.blank start.directory).actAll settings setup.acts := by
  have entering (entries : List LoanSetup) (desk : Desk) : Ends (entries.forM LoanSetup.install) desk
      (fun _ after => after = desk.actAll settings (entries.flatMap LoanSetup.acts) ∧
        after.directory = desk.directory) fun _ _ => True := by
    induction entries generalizing desk with
    | nil => exact ⟨rfl, rfl⟩
    | cons entry rest ih =>
      refine (entry.install_acts settings desk).andThen ?_ fun _ _ _ => trivial
      intro _ middle ended
      refine (ih middle).imp ?_ fun _ _ _ => trivial
      intro _ after finished
      constructor
      · rw [finished.1, ended.1, List.flatMap_cons, Desk.actAll, Desk.actAll, Desk.actAll, List.foldl_append]
      · exact finished.2.trans ended.2
  have templates (product : ProductSetup) (desk : Desk) (blank : ∃ directory, desk = .blank directory) :
      Ends (Desk.addTemplate product.id product.template) desk (fun _ after => ∃ directory, after = .blank directory)
        fun _ _ => True := by
    obtain ⟨directory, rfl⟩ := blank
    unfold Desk.addTemplate
    cases Template.ofEntries product.id product.template with
    | error fault => exact trivial
    | ok template =>
      unfold Ends
      dsimp only
      cases (Desk.blank directory).directory.addTemplate template with
      | ok more => exact ⟨more, rfl⟩
      | error error => exact trivial
  have approvers (approver : Approver) (desk : Desk) (blank : ∃ directory, desk = .blank directory) :
      Ends (Desk.addApprover approver) desk (fun _ after => ∃ directory, after = .blank directory) fun _ _ => True := by
    obtain ⟨directory, rfl⟩ := blank
    exact ⟨_, rfl⟩
  have whole : Ends setup.install .empty
      (fun _ after => after = (Desk.blank after.directory).actAll settings setup.acts) fun _ _ => True := by
    refine (forM_ends templates setup.products ⟨.empty, rfl⟩).andThen ?_ fun _ _ _ => trivial
    intro _ _ blank
    refine (forM_ends approvers setup.approvers blank).andThen ?_ fun _ _ _ => trivial
    rintro _ _ ⟨directory, rfl⟩
    refine (entering setup.loans (.blank directory)).imp ?_ fun _ _ _ => trivial
    rintro _ after ⟨acted, same⟩
    rw [same]
    exact acted
  exact whole.of_ok installed

end Countersign
