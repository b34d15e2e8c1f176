import Countersign.Proofs.CommandEffect
import Countersign.Setup.Install

/-!
The books as a setup leaves them: no chains yet, nothing in the journal, no operation failing,
the ledger in order, and every account there that a loan is linked to.
-/

namespace Countersign

def Ledger.Linked (ledger : Ledger) : Prop :=
  ∀ loan id, ledger.links.get? loan = some id → ∃ account, ledger.accounts.get? id = some account

structure Desk.Opening (desk : Desk) : Prop where
  chains : desk.chains = .empty
  journal : desk.ledger.journal = []
  working : desk.ledger.failing = []
  ledger : desk.ledger.InOrder
  linked : desk.ledger.Linked

theorem Desk.Opening.orderly {desk : Desk} (opening : desk.Opening) : desk.Orderly :=
  ⟨opening.chains ▸ ChainStore.empty_regular, opening.ledger⟩

theorem forM_follows {α : Type} (Done : List α → Desk → Prop) {work : α → Work Desk Unit}
    (adds : ∀ done item desk, Done done desk →
      Ends (work item) desk (fun _ after => Done (done ++ [item]) after) fun _ _ => True)
    (items : List α) {done : List α} {desk : Desk} (now : Done done desk) :
    Ends (items.forM work) desk (fun _ after => Done (done ++ items) after) fun _ _ => True := by
  induction items generalizing done desk with
  | nil =>
    rw [List.append_nil]
    exact now
  | cons item rest ih =>
    refine (adds done item desk now).andThen ?_ fun _ _ _ => trivial
    intro _ after next
    rw [List.append_cons done item rest]
    exact ih next

theorem forM_ends {α : Type} {kept : Desk → Prop} {work : α → Work Desk Unit}
    (keeps : ∀ item desk, kept desk → Ends (work item) desk (fun _ after => kept after) fun _ _ => True)
    (items : List α) {desk : Desk} (now : kept desk) :
    Ends (items.forM work) desk (fun _ after => kept after) fun _ _ => True :=
  @forM_follows α (fun _ desk => kept desk) work (fun _ => keeps) items [] desk now

namespace Desk

theorem empty_opening : empty.Opening := by
  refine ⟨rfl, rfl, rfl, ⟨?_, ?_⟩, ?_⟩
  · intro id loan found
    exact absurd (found.symm.trans (Table.get?_empty id)) nofun
  · intro id account transaction amount found
    exact absurd (found.symm.trans (Table.get?_empty id)) nofun
  · intro loan id found
    exact absurd (found.symm.trans (Table.get?_empty loan)) nofun

theorem addTemplate_ends (product : ProductId) (entries : List TemplateEntry) {desk : Desk} (opening : desk.Opening) :
    Ends (addTemplate product entries) desk (fun _ after => after.Opening) fun _ _ => True := by
  unfold addTemplate
  cases Template.ofEntries product entries with
  | error fault => exact trivial
  | ok template =>
    unfold Ends
    dsimp only
    cases desk.directory.addTemplate template with
    | ok directory => exact ⟨opening.chains, opening.journal, opening.working, opening.ledger, opening.linked⟩
    | error error => exact trivial

theorem addApprover_ends (approver : Approver) {desk : Desk} (opening : desk.Opening) :
    Ends (addApprover approver) desk (fun _ after => after.Opening) fun _ _ => True :=
  ⟨opening.chains, opening.journal, opening.working, opening.ledger, opening.linked⟩

end Desk

namespace Ledger

theorem InOrder.addLoan {ledger : Ledger} (inOrder : ledger.InOrder) (loan : Loan) (charges : List Charge) :
    ((ledger.addLoan loan).addCharges loan.id charges).InOrder :=
  ⟨inOrder.insert_loan rfl, inOrder.issued⟩

theorem InOrder.link {ledger : Ledger} (inOrder : ledger.InOrder) (loan : LoanId) (account : AccountId)
    (available : Decimal) : (ledger.link loan account available).InOrder := by
  refine ⟨inOrder.keyed, ?_⟩
  change ∀ id found transaction amount,
    (if ledger.accounts.contains account then ledger.accounts
      else ledger.accounts.insert account (.opened account available)).get? id = some found →
    found.holds.get? transaction = some amount → transaction ≤ ledger.lastTransaction
  by_cases known : ledger.accounts.contains account = true
  · rw [if_pos known]
    exact inOrder.issued
  · rw [if_neg known]
    apply inOrder.insert_account (Nat.le_refl _)
    intro transaction amount held
    exact absurd (held.symm.trans (Table.get?_empty transaction)) nofun

theorem Linked.insert_account {ledger : Ledger} (linked : ledger.Linked) (changed : AccountId) (account : Account) :
    ∀ loan id, ledger.links.get? loan = some id →
      ∃ found, (ledger.accounts.insert changed account).get? id = some found := by
  intro loan id link
  obtain ⟨known, found⟩ := linked loan id link
  rw [Table.get?_insert]
  split
  · exact ⟨account, rfl⟩
  · exact ⟨known, found⟩

theorem Linked.link {ledger : Ledger} (linked : ledger.Linked) (loan : LoanId) (account : AccountId)
    (available : Decimal) : (ledger.link loan account available).Linked := by
  intro other id link
  change (ledger.links.insert loan account).get? other = some id at link
  change ∃ found, (if ledger.accounts.contains account then ledger.accounts
    else ledger.accounts.insert account (.opened account available)).get? id = some found
  rw [Table.get?_insert] at link
  split at link
  next =>
    cases link
    split
    next known => exact Option.isSome_iff_exists.mp known
    next => exact ⟨_, Table.get?_insert_self ..⟩
  next =>
    split
    · exact linked other id link
    · exact linked.insert_account account _ other id link

theorem placeLien_ends (id : LoanId) (amount : Decimal) {ledger : Ledger} (inOrder : ledger.InOrder)
    (known : ledger.Linked) :
    Ends (placeLien id amount) ledger
      (fun _ after => after.InOrder ∧ after.Linked ∧ after.journal = ledger.journal ∧ after.failing = ledger.failing)
      fun _ _ => True := by
  refine (requireLink_ends id ledger).andThen ?_ fun _ _ _ => trivial
  intro account ledger ended
  obtain ⟨linked, rfl⟩ := ended
  apply (ends_bind _ _ _ _ _).mpr
  refine (changeAccount_ends account (·.hold (ledger.lastTransaction + 1) amount) ledger.numbered).andThen ?_
    fun _ _ _ => trivial
  intro _ _ ended
  obtain ⟨_, changed, found, held, rfl⟩ := ended
  refine (setLien_ends id _ _).andThen ?_ fun _ _ _ => trivial
  intro _ _ ended
  obtain ⟨record, there, rfl⟩ := ended
  have named := inOrder.keyed _ _ there
  refine ⟨⟨inOrder.insert_loan named, ?_⟩, known.insert_account account changed, rfl, rfl⟩
  exact inOrder.insert_account (Nat.le_succ _) (inOrder.hold found held)

end Ledger

theorem LoanSetup.install_ends (entry : LoanSetup) {desk : Desk} (opening : desk.Opening) :
    Ends entry.install desk (fun _ after => after.Opening) fun _ _ => True := by
  have added := opening.ledger.addLoan entry.loan entry.charges
  apply (ends_bind _ _ _ _ _).mpr
  cases entry.savings with
  | none => exact ⟨opening.chains, opening.journal, opening.working, added, opening.linked⟩
  | some savings =>
    have linked := added.link entry.loan.id savings.id savings.available
    have known : (((desk.ledger.addLoan entry.loan).addCharges entry.loan.id entry.charges).link entry.loan.id savings.id
        savings.available).Linked :=
      Ledger.Linked.link opening.linked entry.loan.id savings.id savings.available
    apply (ends_bind _ _ _ _ _).mpr
    cases savings.lien with
    | none => exact ⟨opening.chains, opening.journal, opening.working, linked, known⟩
    | some amount =>
      refine (onLedger_ends (Ledger.placeLien_ends entry.loan.id amount linked known)).andThen ?_ fun _ _ _ => trivial
      intro _ _ ended
      rcases ended with ⟨_, rfl, ⟨_, rfl, inOrder, still, journal, failing⟩ | ⟨_, rfl, _⟩⟩
      · exact ⟨opening.chains, journal.trans opening.journal, failing.trans opening.working, inOrder, still⟩
      · exact trivial

theorem Setup.install_ends (setup : Setup) :
    Ends setup.install .empty (fun _ after => after.Opening) fun _ _ => True := by
  refine (forM_ends (fun (product : ProductSetup) _ => Desk.addTemplate_ends product.id product.template) _
    Desk.empty_opening).andThen ?_ fun _ _ _ => trivial
  intro _ _ templates
  refine (forM_ends (fun approver _ => Desk.addApprover_ends approver) _ templates).andThen ?_ fun _ _ _ => trivial
  intro _ _ approvers
  exact forM_ends (fun entry _ => entry.install_ends) _ approvers

theorem Setup.opens {setup : Setup} {start : Desk} (installed : setup.install .empty = .ok () start) : start.Opening :=
  setup.install_ends.of_ok installed

/-! A small setup. -/

def Decimal.whole (size : Nat) (fits : size < Decimal.bound) : Decimal := { zero with size := size, size_lt := fits }

/-- Two levels of authority with an approver for each, and a loan that has a fee to pay, a
charge to be held, and a lien from before. -/
def Setup.sample : Setup where
  settings := .standard
  products := [⟨1, [⟨0, 1, .unbounded⟩, ⟨1, 2, .unbounded⟩]⟩]
  approvers := [⟨1, [1], true⟩, ⟨2, [2], true⟩]
  loans := [{
    loan := ⟨1, 1, .whole 100 (by decide), .submittedAndPendingApproval, none, none, true⟩
    charges := [⟨1, .upfrontFee, .whole 10 (by decide), false⟩, ⟨2, .upfrontHold, .whole 20 (by decide), false⟩]
    savings := some ⟨7, .whole 500 (by decide), some (.whole 5 (by decide))⟩ }]

def Desk.sample : Desk :=
  match Setup.sample.install .empty with
  | .ok _ desk => desk
  | .error _ desk => desk

theorem Desk.sample_installed : Setup.sample.install .empty = .ok () Desk.sample := rfl

end Countersign
