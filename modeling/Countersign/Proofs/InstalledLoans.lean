import Countersign.Proofs.Installation

/-!
The loans of a setup in the ledger. They are entered one by one, and where no two of them
have the same id each is entered afresh: with its own charges, on the account that it names,
and with no lien but one placed there for it.
-/

namespace Countersign

namespace LoanSetup

def booked (entry : LoanSetup) (ledger : Ledger) : Ledger :=
  (ledger.addLoan entry.loan).addCharges entry.loan.id entry.charges

def linked (entry : LoanSetup) (savings : SavingsSetup) (ledger : Ledger) : Ledger :=
  (entry.booked ledger).link entry.loan.id savings.id savings.available

inductive Entered (entry : LoanSetup) (ledger : Ledger) : Ledger → Prop where
  | unlinked (without : entry.savings = none) : Entered entry ledger (entry.booked ledger)
  | linked {savings : SavingsSetup} (with_ : entry.savings = some savings) :
      Entered entry ledger (entry.linked savings ledger)
  | pledged {savings : SavingsSetup} {account changed : Account} {amount : Decimal}
      (with_ : entry.savings = some savings)
      (found : (entry.linked savings ledger).accounts.get? savings.id = some account)
      (held : account.hold (ledger.lastTransaction + 1) amount = .ok changed) :
      Entered entry ledger
        (Ledger.pledged { (entry.linked savings ledger).numbered with
            accounts := (entry.linked savings ledger).accounts.insert savings.id changed }
          entry.loan.id entry.loan (some (ledger.lastTransaction + 1)))

variable {entry : LoanSetup} {ledger after : Ledger}

theorem placeLien_enters {savings : SavingsSetup} (with_ : entry.savings = some savings) (amount : Decimal)
    (ledger : Ledger) :
    Ends (Ledger.placeLien entry.loan.id amount) (entry.linked savings ledger)
      (fun _ after => Entered entry ledger after) fun _ _ => True := by
  refine (Ledger.requireLink_ends entry.loan.id _).andThen ?_ fun _ _ _ => trivial
  intro account _ ended
  obtain ⟨link, rfl⟩ := ended
  cases (Table.get?_insert_self ..).symm.trans link
  apply (ends_bind _ _ _ _ _).mpr
  refine (Ledger.changeAccount_ends savings.id (·.hold (ledger.lastTransaction + 1) amount)
    (entry.linked savings ledger).numbered).andThen ?_ fun _ _ _ => trivial
  intro _ _ ended
  obtain ⟨_, changed, found, held, rfl⟩ := ended
  refine (Ledger.setLien_ends entry.loan.id _ _).andThen ?_ fun _ _ _ => trivial
  intro _ _ ended
  obtain ⟨record, known, rfl⟩ := ended
  cases (Table.get?_insert_self ..).symm.trans known
  exact .pledged with_ found held

theorem install_enters (entry : LoanSetup) (desk : Desk) :
    Ends entry.install desk (fun _ after => Entered entry desk.ledger after.ledger) fun _ _ => True := by
  unfold install
  apply (ends_bind _ _ _ _ _).mpr
  cases with_ : entry.savings with
  | none => exact .unlinked with_
  | some savings =>
    apply (ends_bind _ _ _ _ _).mpr
    cases savings.lien with
    | none => exact .linked with_
    | some amount =>
      refine (onLedger_ends (placeLien_enters with_ amount desk.ledger)).andThen ?_ fun _ _ _ => trivial
      intro _ _ ended
      rcases ended with ⟨_, rfl, ⟨_, rfl, entered⟩ | ⟨_, rfl, _⟩⟩
      · exact entered
      · exact trivial

namespace Entered

theorem inOrder (entered : Entered entry ledger after) (inOrder : ledger.InOrder) : after.InOrder := by
  have booked := inOrder.addLoan entry.loan entry.charges
  cases entered with
  | unlinked without => exact booked
  | linked with_ => exact booked.link _ _ _
  | @pledged savings _ _ _ with_ found held =>
    have linked := booked.link entry.loan.id savings.id savings.available
    exact ⟨linked.insert_loan rfl, linked.insert_account (Nat.le_succ _) (linked.hold found held)⟩

theorem failing (entered : Entered entry ledger after) : after.failing = ledger.failing := by
  cases entered <;> rfl

theorem charges (entered : Entered entry ledger after) :
    after.charges = ledger.charges.insert entry.loan.id (ledger.chargesOf entry.loan.id ++ entry.charges) := by
  cases entered <;> rfl

theorem loans_other (entered : Entered entry ledger after) {other : LoanId} (different : other ≠ entry.loan.id) :
    after.loans.get? other = ledger.loans.get? other := by
  cases entered with
  | unlinked without => exact (Table.get?_insert ..).trans (if_neg different)
  | linked with_ => exact (Table.get?_insert ..).trans (if_neg different)
  | pledged with_ found held =>
    apply (Table.get?_insert ..).trans
    rw [if_neg different]
    exact (Table.get?_insert ..).trans (if_neg different)

theorem links (entered : Entered entry ledger after) (fresh : ledger.links.get? entry.loan.id = none)
    (other : LoanId) : after.links.get? other =
      if other = entry.loan.id then entry.savings.map (·.id) else ledger.links.get? other := by
  have linked {savings : SavingsSetup} (with_ : entry.savings = some savings) :
      (ledger.links.insert entry.loan.id savings.id).get? other =
        if other = entry.loan.id then entry.savings.map (·.id) else ledger.links.get? other := by
    rw [Table.get?_insert, with_, Option.map_some]
  cases entered with
  | unlinked without =>
    rw [without, Option.map_none]
    split
    next same => exact same ▸ fresh
    next => rfl
  | linked with_ => exact linked with_
  | pledged with_ found held => exact linked with_

end Entered

end LoanSetup

/-- The ledger knows of these loans and no others, each with its charges and its account. -/
structure Ledger.Lists (entries : List LoanSetup) (ledger : Ledger) : Prop where
  charges : ∀ entry ∈ entries, ledger.charges.get? entry.loan.id = some entry.charges
  links : ∀ entry ∈ entries, ledger.links.get? entry.loan.id = entry.savings.map (·.id)
  others : ∀ id, id ∉ entries.map (·.loan.id) →
    ledger.loans.get? id = none ∧ ledger.charges.get? id = none ∧ ledger.links.get? id = none

theorem Ledger.Lists.enter {entries : List LoanSetup} {entry : LoanSetup} {ledger after : Ledger}
    (lists : Lists entries ledger) (fresh : entry.loan.id ∉ entries.map (·.loan.id))
    (entered : entry.Entered ledger after) : Lists (entries ++ [entry]) after := by
  obtain ⟨_, uncharged, unlinked⟩ := lists.others _ fresh
  have different {listed : LoanSetup} (mem : listed ∈ entries) : listed.loan.id ≠ entry.loan.id :=
    fun same => fresh (same ▸ List.mem_map_of_mem mem)
  have noCharges : ledger.chargesOf entry.loan.id = [] := by
    rw [chargesOf, uncharged, Option.getD_none]
  refine ⟨fun listed mem => ?_, fun listed mem => ?_, fun id unlisted => ?_⟩
  · rw [entered.charges, Table.get?_insert, noCharges, List.nil_append]
    rcases List.mem_append.mp mem with earlier | last
    · rw [if_neg (different earlier)]
      exact lists.charges listed earlier
    · rw [List.mem_singleton.mp last, if_pos rfl]
  · rw [entered.links unlinked]
    rcases List.mem_append.mp mem with earlier | last
    · rw [if_neg (different earlier)]
      exact lists.links listed earlier
    · rw [List.mem_singleton.mp last, if_pos rfl]
  · rw [List.map_append, List.mem_append, not_or, List.map_singleton, List.mem_singleton] at unlisted
    obtain ⟨unknown, noLinks⟩ := lists.others id unlisted.1
    rw [entered.loans_other unlisted.2, entered.charges, Table.get?_insert, if_neg unlisted.2, entered.links unlinked,
      if_neg unlisted.2]
    exact ⟨unknown, noLinks⟩

namespace Desk

theorem addTemplate_ledger (product : ProductId) (entries : List TemplateEntry) (desk : Desk) :
    Ends (addTemplate product entries) desk (fun _ after => after.ledger = desk.ledger) fun _ _ => True := by
  unfold addTemplate
  cases Template.ofEntries product entries with
  | error fault => exact trivial
  | ok template =>
    unfold Ends
    dsimp only
    cases desk.directory.addTemplate template with
    | ok directory => exact rfl
    | error error => exact trivial

end Desk

/-- What holds of the empty ledger and is kept as each loan is entered afresh holds of the
ledger that a setup has filled. -/
theorem Setup.install_lists {setup : Setup} {start : Desk} (installed : setup.install .empty = .ok () start)
    (distinct : (setup.loans.map (·.loan.id)).Nodup) (Kept : List LoanSetup → Ledger → Prop)
    (enters : ∀ entries entry ledger after, entry ∈ setup.loans → ledger.Lists entries →
      entry.loan.id ∉ entries.map (·.loan.id) → LoanSetup.Entered entry ledger after → Kept entries ledger →
        Kept (entries ++ [entry]) after)
    (empty : Kept [] .empty) : start.ledger.Lists setup.loans ∧ Kept setup.loans start.ledger := by
  have entering (rest entries : List LoanSetup) (desk : Desk) (all : entries ++ rest = setup.loans)
      (kept : desk.ledger.Lists entries ∧ Kept entries desk.ledger) :
      Ends (rest.forM LoanSetup.install) desk
        (fun _ after => after.ledger.Lists setup.loans ∧ Kept setup.loans after.ledger) fun _ _ => True := by
    induction rest generalizing entries desk with
    | nil =>
      rw [List.append_nil] at all
      exact all ▸ kept
    | cons entry rest ih =>
      have mem : entry ∈ setup.loans := all ▸ List.mem_append_right _ List.mem_cons_self
      have fresh : entry.loan.id ∉ entries.map (·.loan.id) := by
        rw [← all, List.map_append, List.map_cons] at distinct
        intro twice
        exact (List.nodup_append.mp distinct).2.2 _ twice _ List.mem_cons_self rfl
      refine (entry.install_enters desk).andThen ?_ fun _ _ _ => trivial
      intro _ after entered
      refine ih (entries ++ [entry]) after ((List.append_assoc ..).trans all) ⟨kept.1.enter fresh entered, ?_⟩
      exact enters entries entry _ _ mem kept.1 fresh entered kept.2
  have nothing : Ledger.Lists [] .empty := by
    refine ⟨fun _ none => absurd none List.not_mem_nil, fun _ none => absurd none List.not_mem_nil, fun id _ => ?_⟩
    exact ⟨Table.get?_empty id, Table.get?_empty id, Table.get?_empty id⟩
  have blank {α : Type} {work : α → Work Desk Unit} (items : List α) {desk : Desk} (now : desk.ledger = .empty)
      (keeps : ∀ item desk, Ends (work item) desk (fun _ after => after.ledger = desk.ledger) fun _ _ => True) :
      Ends (items.forM work) desk (fun _ after => after.ledger = .empty) fun _ _ => True := by
    apply forM_ends _ items now
    exact fun item desk empty => (keeps item desk).imp (fun _ _ same => same.trans empty) fun _ _ _ => trivial
  have whole : Ends setup.install .empty
      (fun _ after => after.ledger.Lists setup.loans ∧ Kept setup.loans after.ledger) fun _ _ => True := by
    refine (blank setup.products rfl fun product desk =>
      Desk.addTemplate_ledger product.id product.template desk).andThen ?_ fun _ _ _ => trivial
    intro _ _ templates
    have added (approver : Approver) (desk : Desk) : Ends (Desk.addApprover approver) desk
        (fun _ after => after.ledger = desk.ledger) fun _ _ => True := rfl
    refine (blank setup.approvers templates added).andThen ?_ fun _ _ _ => trivial
    intro _ desk approvers
    refine entering setup.loans [] desk rfl ?_
    rw [approvers]
    exact ⟨nothing, empty⟩
  exact whole.of_ok installed

end Countersign
