import Countersign.Proofs.Installation
import Countersign.Proofs.LedgerCall

/-!
What a refused request leaves of the books. Anything can be asked of a ledger in any order; a
request that is refused has taken the number of a transaction at most, with one exception. A
lien is put on hold before the loan is looked up that is to record it, so that for a loan
nobody has listed the money stays on hold with nothing to show what for.
-/

namespace Countersign.Ledger

/-- What can be asked of the books: a call, that an operation fail from now on or no longer fail,
and what they say of loans and charges. -/
inductive Request where
  | call (call : Call)
  | failOn (op : LedgerOp)
  | heal (op : LedgerOp)
  | findLoan (loan : LoanId)
  | scheduledLoans
  | chargesOf (loan : LoanId)

inductive Reply where
  | done (number : Option TransactionId)
  | loan (record : Option Loan)
  | loans (ids : List LoanId)
  | charges (charges : List Charge)

def serve : Request → Op Reply
  | .call call => do pure (.done (← work call))
  | .failOn op => do modify (·.failOn op); pure (.done none)
  | .heal op => do modify (·.heal op); pure (.done none)
  | .findLoan loan => do pure (.loan ((← get).loan? loan))
  | .scheduledLoans => do pure (.loans (← get).scheduledLoans)
  | .chargesOf loan => do pure (.charges ((← get).chargesOf loan))

def served (ledger : Ledger) (request : Request) : Ledger :=
  match serve request ledger with
  | .ok _ after => after
  | .error _ after => after

def servedAll (ledger : Ledger) (requests : List Request) : Ledger := requests.foldl served ledger

/-- The books say what they said before; a number may have been used up. -/
structure Undisturbed (before after : Ledger) : Prop where
  loans : after.loans = before.loans
  charges : after.charges = before.charges
  links : after.links = before.links
  accounts : after.accounts = before.accounts
  notes : after.notes = before.notes
  journal : after.journal = before.journal
  failing : after.failing = before.failing
  numbers : after.lastTransaction = before.lastTransaction ∨ after.lastTransaction = before.lastTransaction + 1

/-- The request that is refused when half of it is done: a lien on an account that bears it, for a
loan that is linked to the account and not listed. -/
inductive Strays (ledger : Ledger) : Request → LedgerError → Ledger → Prop where
  | lien {loan : LoanId} {id : AccountId} {account changed : Account} {amount : Decimal}
      (linked : ledger.links.get? loan = some id) (found : ledger.accounts.get? id = some account)
      (held : account.hold (ledger.lastTransaction + 1) amount = .ok changed)
      (unknown : ledger.loans.get? loan = none) :
      Strays ledger (.call (.placeLien loan amount)) (.notFound (.loan loan)) (ledger.shifted id changed)

variable {ledger after : Ledger} {request : Request} {error : LedgerError}

theorem Refused.undisturbed_or_strays {call : Call} (refused : Refused ledger call after) :
    Undisturbed ledger after ∨ ∃ error, Strays ledger (.call call) error after := by
  cases refused with
  | unchanged => exact Or.inl ⟨rfl, rfl, rfl, rfl, rfl, rfl, rfl, Or.inl rfl⟩
  | numbered => exact Or.inl ⟨rfl, rfl, rfl, rfl, rfl, rfl, rfl, Or.inr rfl⟩
  | stranded linked found held unknown => exact Or.inr ⟨_, .lien linked found held unknown⟩

theorem serve_ends (request : Request) (ledger : Ledger) :
    Ends (serve request) ledger (fun _ _ => True)
      fun _ after => Undisturbed ledger after ∨ ∃ error, Strays ledger request error after := by
  cases request with
  | call call =>
    exact (work_ends call ledger).andThen (fun _ _ _ => trivial) fun _ _ refused => refused.undisturbed_or_strays
  | failOn op => trivial
  | heal op => trivial
  | findLoan loan => trivial
  | scheduledLoans => trivial
  | chargesOf loan => trivial

theorem Strays.serves (strays : Strays ledger request error after) :
    serve request ledger = .error (.refused error) after := by
  obtain @⟨loan, id, account, changed, amount, linked, found, held, unknown⟩ := strays
  have numbers : nextTransaction ledger = .ok (ledger.lastTransaction + 1) ledger.numbered := rfl
  have holds : changeAccount id (·.hold (ledger.lastTransaction + 1) amount) ledger.numbered =
      .ok () (ledger.shifted id changed) := by
    have there : ledger.numbered.accounts.get? id = some account := found
    rw [changeAccount_apply, there]
    dsimp only
    rw [held]
    rfl
  have stops : setLien loan (some (ledger.lastTransaction + 1)) (ledger.shifted id changed) =
      .error (.refused (.notFound (.loan loan))) (ledger.shifted id changed) := by
    have missing : (ledger.shifted id changed).loans.get? loan = none := unknown
    simp only [setLien, bind, EStateM.bind, requireLoan_apply, missing]
  simp only [serve, work, placeLien, bind, EStateM.bind, requireLink_apply, linked, numbers, holds, stops]

theorem Strays.disturbs (strays : Strays ledger request error after) (inOrder : ledger.InOrder) :
    after.accounts ≠ ledger.accounts := by
  obtain @⟨loan, id, account, changed, amount, -, found, held, -⟩ := strays
  intro same
  have own : changed = account := by
    have there := congrArg (·.get? id) same
    change (ledger.accounts.insert id changed).get? id = _ at there
    rw [Table.get?_insert, if_pos rfl, found] at there
    exact Option.some.inj there
  have fresh := inOrder.fresh found
  obtain ⟨_, _, _, _, _, rfl⟩ := (Account.hold_ok_iff ..).mp held
  rw [← own, Table.get?_insert, if_pos rfl] at fresh
  cases fresh

/-! Any run of requests. -/

theorem served_call (ledger : Ledger) (call : Call) : ledger.served (.call call) = ledger.called call := by
  have serves : serve (.call call) ledger = EStateM.bind (work call) (fun number => pure (.done number)) ledger := rfl
  unfold served called
  rw [serves]
  unfold EStateM.bind
  cases work call ledger <;> rfl

theorem served_inOrder (inOrder : ledger.InOrder) (request : Request) : (ledger.served request).InOrder := by
  cases request with
  | call call =>
    rw [served_call]
    exact called_inOrder inOrder call
  | failOn op => exact ⟨inOrder.keyed, inOrder.issued⟩
  | heal op => exact ⟨inOrder.keyed, inOrder.issued⟩
  | findLoan loan => exact inOrder
  | scheduledLoans => exact inOrder
  | chargesOf loan => exact inOrder

theorem servedAll_inOrder (inOrder : ledger.InOrder) (requests : List Request) :
    (ledger.servedAll requests).InOrder := by
  induction requests generalizing ledger with
  | nil => exact inOrder
  | cons request rest ih => exact ih (served_inOrder inOrder request)

theorem empty_inOrder : Ledger.empty.InOrder := Desk.empty_opening.ledger

/-- After any run of requests: one that is refused leaves the books as they were, up to a number
that is used up, or it is a lien that strays; and a lien that strays is refused and leaves another
account than it found. -/
theorem refused_undisturbed (requests : List Request) {request : Request} {error : LedgerError} {after : Ledger}
    (refused : serve request (Ledger.empty.servedAll requests) = .error (.refused error) after) :
    (Undisturbed (Ledger.empty.servedAll requests) after ∧
        ∀ other left, ¬ Strays (Ledger.empty.servedAll requests) request other left) ∨
      Strays (Ledger.empty.servedAll requests) request error after ∧
        after.accounts ≠ (Ledger.empty.servedAll requests).accounts := by
  have inOrder := servedAll_inOrder empty_inOrder requests
  generalize Ledger.empty.servedAll requests = ledger at refused inOrder ⊢
  by_cases stray : ∃ other left, Strays ledger request other left
  · obtain ⟨other, left, strays⟩ := stray
    have ended := refused.symm.trans strays.serves
    cases ended
    exact Or.inr ⟨strays, strays.disturbs inOrder⟩
  · refine Or.inl ⟨?_, fun other left strays => stray ⟨other, left, strays⟩⟩
    rcases (serve_ends request ledger).of_error refused with undisturbed | ⟨other, strays⟩
    · exact undisturbed
    · exact absurd ⟨other, after, strays⟩ stray

/-- A hold of a thousand on an account of five hundred uses a number up, and nothing else. -/
theorem hold_refused_undisturbed :
    let before := Ledger.empty.servedAll [.call (.link 1 7 (.whole 500 (by decide)))]
    ∃ after, serve (.call (.hold ⟨.whole 1000 (by decide), by decide⟩ (some 1) 7)) before =
        .error (.refused (.rejected (.insufficientToHold 7))) after ∧
      after.lastTransaction = before.lastTransaction + 1 ∧ Undisturbed before after := by
  intro before
  have refused : serve (.call (.hold ⟨.whole 1000 (by decide), by decide⟩ (some 1) 7)) before =
      .error (.refused (.rejected (.insufficientToHold 7))) before.numbered := rfl
  refine ⟨before.numbered, refused, rfl, ?_⟩
  rcases refused_undisturbed _ refused with ⟨undisturbed, _⟩ | ⟨strays, _⟩
  · exact undisturbed
  · cases strays

/-- A lien of five for a loan that is linked and not listed is refused, and five are on hold. -/
theorem lien_refused_disturbed :
    let before := Ledger.empty.servedAll [.call (.link 1 7 (.whole 500 (by decide)))]
    ∃ after, serve (.call (.placeLien 1 (.whole 5 (by decide)))) before =
        .error (.refused (.notFound (.loan 1))) after ∧
      (before.accounts.get? 7).map (fun account => (account.available, account.held)) =
        some (.whole 500 (by decide), .zero) ∧
      (after.accounts.get? 7).map (fun account => (account.available, account.held)) =
        some (.whole 495 (by decide), .whole 5 (by decide)) ∧
      ¬ Undisturbed before after := by
  intro before
  have holds : (before.served (.call (.placeLien 1 (.whole 5 (by decide))))).accounts ≠ before.accounts := by
    decide +kernel
  exact ⟨_, rfl, by decide +kernel, by decide +kernel, fun undisturbed => holds undisturbed.accounts⟩

end Countersign.Ledger
