import Countersign.Proofs.Conservation
import Countersign.Proofs.InstalledDirectory

/-!
The books as a setup fills them. A loan that is entered more than once has the fields of its last
entry and the charges of all its entries; an account has, in what is available and what is on hold,
what the first entry that names it opens it with.
-/

namespace Countersign

/-- The loan without its lien, which is a number of the ledger's own. -/
def Loan.unpledged (loan : Loan) : Loan := { loan with lien := none }

namespace LoanSetup

def ofLoan (id : LoanId) (entries : List LoanSetup) : List LoanSetup := entries.filter (·.loan.id == id)

theorem ofLoan_append (id : LoanId) (entries : List LoanSetup) (entry : LoanSetup) :
    ofLoan id (entries ++ [entry]) = if id = entry.loan.id then ofLoan id entries ++ [entry] else ofLoan id entries := by
  by_cases own : id = entry.loan.id
  · simp [ofLoan, own]
  · simp [ofLoan, own, Ne.symm own]

theorem Entered.loan {entry : LoanSetup} {ledger after : Ledger} (entered : Entered entry ledger after) :
    (after.loan? entry.loan.id).map Loan.unpledged = some entry.loan.unpledged := by
  have placed (loans : Table Loan) (loan : Loan) : (loans.insert entry.loan.id loan).get? entry.loan.id = some loan :=
    Table.get?_insert_self ..
  cases entered with
  | unlinked without => exact congrArg (Option.map Loan.unpledged) (placed ..)
  | linked with_ => exact congrArg (Option.map Loan.unpledged) (placed ..)
  | pledged with_ found held => exact congrArg (Option.map Loan.unpledged) (placed ..)

end LoanSetup

structure Ledger.FilledFrom (entries : List LoanSetup) (ledger : Ledger) : Prop where
  loans : ∀ id, (ledger.loan? id).map Loan.unpledged = (LoanSetup.ofLoan id entries).getLast?.map (·.loan.unpledged)
  charges : ∀ id, ledger.chargesOf id = (LoanSetup.ofLoan id entries).flatMap (·.charges)

theorem Ledger.FilledFrom.enter {entries : List LoanSetup} {entry : LoanSetup} {ledger after : Ledger}
    (filled : FilledFrom entries ledger) (entered : entry.Entered ledger after) : FilledFrom (entries ++ [entry]) after := by
  constructor
  case loans =>
    intro id
    rw [LoanSetup.ofLoan_append]
    by_cases own : id = entry.loan.id
    · rw [own, entered.loan]
      simp
    · rw [if_neg own, ← filled.loans id]
      exact congrArg (Option.map Loan.unpledged) (entered.loans_other own)
  case charges =>
    intro id
    rw [LoanSetup.ofLoan_append, chargesOf, entered.charges, Table.get?_insert]
    by_cases own : id = entry.loan.id
    · rw [if_pos own, if_pos own, Option.getD_some, List.flatMap_append, ← filled.charges id, own]
      simp
    · rw [if_neg own, if_neg own]
      exact filled.charges id

def LoanSetup.opening (id : AccountId) (entry : LoanSetup) : Option Decimal :=
  entry.savings.bind fun savings => if savings.id = id then some savings.available else none

theorem LoanSetup.opening_acts (id : AccountId) (entry : LoanSetup) :
    entry.acts.findSome? (Act.opens id) = entry.opening id := by
  unfold acts opening
  cases entry.savings with
  | none => rfl
  | some savings =>
    dsimp only
    by_cases own : savings.id = id <;> cases savings.lien <;> simp [List.findSome?_cons, Act.opens, own]

namespace Setup

/-- What an account is opened with: an entry that names an account that exists opens none. -/
def opening (setup : Setup) (id : AccountId) : Option Decimal := setup.loans.findSome? (LoanSetup.opening id)

theorem opening_acts (setup : Setup) (id : AccountId) : Act.opening id setup.acts = setup.opening id := by
  unfold Act.opening acts opening
  induction setup.loans with
  | nil => rfl
  | cons entry rest ih =>
    rw [List.flatMap_cons, List.findSome?_append, ih, entry.opening_acts, List.findSome?_cons]
    cases entry.opening id <;> rfl

end Setup

/-! The installation, product by product, record by record and loan by loan. -/

structure Desk.Filled (products : List ProductSetup) (records : List Approver) (entries : List LoanSetup)
    (desk : Desk) : Prop where
  templates : desk.directory.Files products
  approvers : desk.directory.approvers = Directory.registered records
  loans : desk.ledger.FilledFrom entries

namespace Desk

variable {products : List ProductSetup} {records : List Approver} {entries : List LoanSetup} {desk : Desk}

theorem empty_filled : Desk.empty.Filled [] [] [] := by
  constructor
  case templates => exact ⟨List.nodup_nil, by simp, fun id _ => Table.get?_empty id⟩
  case approvers => rfl
  case loans => exact ⟨fun _ => rfl, fun _ => rfl⟩

theorem Filled.addTemplate (filled : desk.Filled products records entries) (product : ProductSetup) :
    Ends (Desk.addTemplate product.id product.template) desk
      (fun _ after => after.Filled (products ++ [product]) records entries) fun _ _ => True := by
  unfold Desk.addTemplate
  cases accepted : Template.ofEntries product.id product.template with
  | error fault => exact trivial
  | ok template =>
    unfold Ends
    dsimp only
    cases added : desk.directory.addTemplate template with
    | error error => exact trivial
    | ok directory =>
      have approvers : directory.approvers = desk.directory.approvers := Directory.addTemplate_approvers added
      exact ⟨filled.templates.add accepted added, approvers.trans filled.approvers, filled.loans⟩

theorem Filled.addApprover (filled : desk.Filled products records entries) (next : Approver) :
    Ends (Desk.addApprover next) desk
      (fun _ after => after.Filled products (records ++ [next]) entries) fun _ _ => True := by
  have approvers : (desk.directory.addApprover next).approvers = Directory.registered (records ++ [next]) := by
    rw [Directory.registered_append, ← filled.approvers]
    rfl
  have templates : (desk.directory.addApprover next).Files products :=
    ⟨filled.templates.distinct, filled.templates.filed, filled.templates.others⟩
  exact ⟨templates, approvers, filled.loans⟩

theorem Filled.install (filled : desk.Filled products records entries) (entry : LoanSetup) :
    Ends entry.install desk (fun _ after => after.Filled products records (entries ++ [entry])) fun _ _ => True := by
  refine ((entry.install_acts .standard desk).and (entry.install_enters desk)).imp ?_ fun _ _ _ => trivial
  intro _ after done
  have directory : after.directory = desk.directory := done.1.2
  have entered : entry.Entered desk.ledger after.ledger := done.2
  exact ⟨directory ▸ filled.templates, directory ▸ filled.approvers, filled.loans.enter entered⟩

end Desk

theorem Setup.install_fills (setup : Setup) :
    Ends setup.install .empty (fun _ after => after.Filled setup.products setup.approvers setup.loans)
      fun _ _ => True := by
  have templates : Ends (setup.products.forM fun product => Desk.addTemplate product.id product.template) .empty
      (fun _ after => after.Filled setup.products [] []) fun _ _ => True :=
    forM_follows (fun done desk => desk.Filled done [] [])
      (fun _ product _ filled => filled.addTemplate product) setup.products Desk.empty_filled
  refine templates.andThen ?_ fun _ _ _ => trivial
  intro _ _ templates
  have approvers := forM_follows (fun done desk => desk.Filled setup.products done [])
    (fun _ next _ filled => filled.addApprover next) setup.approvers templates
  refine approvers.andThen ?_ fun _ _ _ => trivial
  intro _ _ approvers
  exact forM_follows (fun done desk => desk.Filled setup.products setup.approvers done)
    (fun _ entry _ filled => filled.install entry) setup.loans approvers

/-- The desk has what the setup says, where the setup repeats an id by the rule for that table. -/
structure Setup.Faithful (setup : Setup) (desk : Desk) : Prop where
  /-- Products have ids of their own and the entries as their templates. -/
  templates : desk.directory.Files setup.products
  /-- The last record of an approver counts. -/
  approvers : ∀ id, desk.directory.approver? id = Approver.lastRecord setup.approvers id
  /-- Active approvers stand where their first records do. -/
  active : ∀ role, desk.directory.activeApprovers role =
    ((Approver.roster setup.approvers).filterMap (Approver.lastRecord setup.approvers)).filter
      fun approver => approver.active && approver.holdsRole role
  distinct : ∀ role, ((desk.directory.activeApprovers role).map (·.id)).Nodup
  /-- The last entry of a loan counts for its fields. -/
  loans : ∀ id, (desk.ledger.loan? id).map Loan.unpledged =
    (LoanSetup.ofLoan id setup.loans).getLast?.map (·.loan.unpledged)
  /-- Every entry of a loan adds its charges. -/
  charges : ∀ id, desk.ledger.chargesOf id = (LoanSetup.ofLoan id setup.loans).flatMap (·.charges)
  /-- Liens move money on an account, and no money to it or from it. -/
  balances : (Desk.blank desk.directory).lossless setup.settings setup.acts = true → ∀ id,
    (desk.ledger.accounts.get? id).map (fun account => account.available.units + account.held.units) =
      (setup.opening id).map Decimal.units

theorem Ledger.Conserved.unspent_total {opened : AccountId → Option Decimal} {ledger : Ledger}
    (known : Opened opened ledger.accounts) (conserved : Conserved opened ledger.withdrawn ledger.accounts)
    (journal : ledger.journal = []) (id : AccountId) :
    (ledger.accounts.get? id).map (fun account => account.available.units + account.held.units) =
      (opened id).map Decimal.units := by
  have unspent : ledger.withdrawn id = 0 := by simp [withdrawn, journal]
  have both := known id
  cases found : ledger.accounts.get? id with
  | none =>
    rw [found, Option.isSome_none] at both
    have unopened : opened id = none := Option.isSome_eq_false_iff.mp both.symm |> Option.isNone_iff_eq_none.mp
    rw [unopened, Option.map_none, Option.map_none]
  | some account =>
    rw [found, Option.isSome_some] at both
    obtain ⟨opening, opens⟩ := Option.isSome_iff_exists.mp both.symm
    have total := conserved.total id account opening found opens
    rw [unspent, Int.add_zero] at total
    rw [opens, Option.map_some, Option.map_some, total]

/-- A setup that is installed is installed as it says: templates and approvers by product and by the
last record, loans by their last entry with the charges of all their entries, and accounts with what
the first entry that names them opens them with. -/
theorem Setup.install_faithful {setup : Setup} {start : Desk} (installed : setup.install .empty = .ok () start) :
    setup.Faithful start := by
  have filled : start.Filled setup.products setup.approvers setup.loans := setup.install_fills.of_ok installed
  have approvers : start.directory.approvers = Directory.registered setup.approvers := filled.approvers
  constructor
  case templates => exact filled.templates
  case approvers =>
    intro id
    rw [Directory.approver?, approvers, Directory.find?_registered]
  case active =>
    intro role
    rw [Directory.activeApprovers, approvers, Directory.registered_eq]
  case distinct =>
    intro role
    rw [Directory.activeApprovers, approvers]
    exact (Directory.nodup_registered setup.approvers).sublist (List.filter_sublist.map _)
  case loans => exact filled.loans.loans
  case charges => exact filled.loans.charges
  case balances =>
    intro lossless id
    have acted : start = (Desk.blank start.directory).actAll setup.settings setup.acts :=
      setup.install_acts installed setup.settings
    have conserved := Desk.blank_conserves setup.settings start.directory setup.acts lossless
    rw [← acted] at conserved
    rw [← setup.opening_acts id]
    exact conserved.2.unspent_total conserved.1 (Setup.opens installed).journal id

/-- A loan and an approver that are entered twice, and an account that is named twice. -/
def Setup.reentered : Setup where
  settings := .standard
  products := [⟨1, [⟨0, 1, .unbounded⟩]⟩]
  approvers := [⟨1, [1], false⟩, ⟨2, [1], true⟩, ⟨1, [1, 2], true⟩]
  loans := [{
    loan := ⟨1, 1, .whole 640 (by decide), .submittedAndPendingApproval, none, none, true⟩
    charges := [⟨1, .upfrontFee, .whole 13 (by decide), false⟩]
    savings := some ⟨7, .whole 730 (by decide), some (.whole 17 (by decide))⟩ }, {
    loan := ⟨1, 1, .whole 850 (by decide), .submittedAndPendingApproval, none, none, true⟩
    charges := [⟨2, .upfrontHold, .whole 19 (by decide), false⟩]
    savings := some ⟨7, .whole 970 (by decide), none⟩ }]

def Desk.reentered : Desk :=
  match Setup.reentered.install .empty with
  | .ok _ desk => desk
  | .error _ desk => desk

/-- The first approver is the first to be listed, with the second record; the account has the first
opening amount, some of it on hold. -/
theorem Desk.reentered_faithful :
    Setup.reentered.install .empty = .ok () reentered ∧ Setup.reentered.Faithful reentered ∧
      reentered.directory.activeApprovers 1 = [⟨1, [1, 2], true⟩, ⟨2, [1], true⟩] ∧
      (reentered.ledger.accounts.get? 7).map (fun account => account.available.units + account.held.units) =
        some (Decimal.whole 730 (by decide)).units := by
  have faithful : Setup.reentered.Faithful reentered := Setup.install_faithful rfl
  exact ⟨rfl, faithful, by decide +kernel, faithful.balances (by decide +kernel) 7⟩

/-- The charge of the first entry stays with the loan, though the last entry does not have it. -/
theorem Desk.reentered_charges :
    Setup.reentered.install .empty = .ok () reentered ∧
      ∃ last, (LoanSetup.ofLoan 1 Setup.reentered.loans).getLast? = some last ∧ last.charges.length = 1 ∧
        (reentered.ledger.chargesOf 1).length = 2 ∧ reentered.ledger.chargesOf 1 ≠ last.charges :=
  ⟨rfl, _, rfl, rfl, by decide +kernel, by decide +kernel⟩

end Countersign
