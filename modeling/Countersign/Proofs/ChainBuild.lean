import Countersign.Proofs.Atomicity
import Countersign.Proofs.LeastLoaded

/-!
Whether a loan gets a chain, and who is given the steps of it. Each way in which a build can end has
its own condition on the books it starts from. Only the last of them changes anything: then there is
one step more for each level that the loan needs, in the order of the template, and each is with the
approver whose turn it was before any of them was given out.
-/

namespace Countersign

/-! Why a loan gets no chain. -/

namespace Directory

variable {directory : Directory} {loan : Loan}

theorem hindrance?_of_none (missing : directory.template? loan.product = none) :
    directory.hindrance? loan = some .noTemplate := if_pos missing

theorem hindrance?_of_template {template : Template} (found : directory.template? loan.product = some template) :
    directory.hindrance? loan =
      if ∀ level ∈ template.entries, level.limit.covers loan.principal = false then some .noCoveringAuthority
      else if ∀ level ∈ template.entries, level.limit.covers loan.principal = true →
        directory.activeApprovers level.role = [] then some .noEligibleApprovers
      else none := by
  simp [hindrance?, levels, found, List.filter_eq_nil_iff]

theorem hindrance?_eq_noTemplate_iff :
    directory.hindrance? loan = some .noTemplate ↔ directory.template? loan.product = none := by
  cases found : directory.template? loan.product with
  | none => simp [hindrance?_of_none found]
  | some template => grind [hindrance?_of_template found]

theorem hindrance?_eq_noCoveringAuthority_iff :
    directory.hindrance? loan = some .noCoveringAuthority ↔
      ∃ template, directory.template? loan.product = some template ∧
        ∀ level ∈ template.entries, level.limit.covers loan.principal = false := by
  cases found : directory.template? loan.product with
  | none => simp [hindrance?_of_none found]
  | some template => grind [hindrance?_of_template found]

theorem hindrance?_eq_noEligibleApprovers_iff :
    directory.hindrance? loan = some .noEligibleApprovers ↔
      ∃ template, directory.template? loan.product = some template ∧
        (∃ level ∈ template.entries, level.limit.covers loan.principal = true) ∧
        ∀ level ∈ template.entries, level.limit.covers loan.principal = true →
          directory.activeApprovers level.role = [] := by
  cases found : directory.template? loan.product with
  | none => simp [hindrance?_of_none found]
  | some template => grind [hindrance?_of_template found]

theorem hindrance?_eq_none_iff :
    directory.hindrance? loan = none ↔
      ∃ template, directory.template? loan.product = some template ∧
        ∃ level ∈ template.entries, level.limit.covers loan.principal = true ∧
          directory.activeApprovers level.role ≠ [] := by
  cases found : directory.template? loan.product with
  | none => simp [hindrance?_of_none found]
  | some template => grind [hindrance?_of_template found]

end Directory

/-! The steps of a new chain. -/

namespace Desk

theorem appointee_foremost {desk : Desk} {role : RoleId} {id : ApproverId} (appointed : desk.appointee role = some id) :
    ∃ holder, holder.id = id ∧ Approver.Foremost desk.chains (desk.directory.activeApprovers role) holder := by
  obtain ⟨holder, picked, named⟩ := Option.map_eq_some_iff.mp appointed
  have foremost := Approver.pick_foremost desk.chains (desk.directory.activeApprovers role)
  rw [picked] at foremost
  exact ⟨holder, named, foremost⟩

/-- A step as it is created for one of the levels that a loan needs: with whoever's turn it is. -/
structure Staffs (books : Desk) (loan : LoanId) (level : TemplateEntry) (step : Step) : Prop where
  owned : step.loan = loan
  status : step.status = if step.rank = 0 then .pending else .queue
  unassigned_iff : step.approver = none ↔ books.directory.activeApprovers level.role = []
  foremost : ∀ id, step.approver = some id →
    ∃ holder, holder.id = id ∧ Approver.Foremost books.chains (books.directory.activeApprovers level.role) holder

theorem create_staffs (books : Desk) (now : Timestamp) (loan : LoanId) (rank : Nat) (levels : List TemplateEntry)
    (store : ChainStore) :
    List.Forall₂ (books.Staffs loan) levels
      (store.create now (books.drafts loan (ChainLink.number rank levels))).1 := by
  induction levels generalizing rank store with
  | nil => exact .nil
  | cons level rest ih =>
    refine .cons ?_ (ih (rank + 1) _)
    exact ⟨rfl, rfl, books.appointee_eq_none_iff level.role, fun _ => appointee_foremost⟩

theorem created_lists {books : Desk} (sound : books.chains.Sound) (now : Timestamp) (loan : LoanId)
    (levels : List TemplateEntry) :
    (books.created now loan levels).2.allSteps = books.chains.allSteps ++ (books.created now loan levels).1 ∧
      (books.created now loan levels).1.map (·.rank) = List.range (books.created now loan levels).1.length ∧
      List.Forall₂ (books.Staffs loan) levels (books.created now loan levels).1 := by
  have staffs := create_staffs books now loan 0 levels books.chains
  have inRow := books.drafts_inRow loan levels
  have listing := (ChainStore.create_appends now (books.drafts loan (ChainLink.number 0 levels)) sound).2
  have ranks := (ChainStore.create_members now books.chains (Nat.add_zero _).symm
    (inRow.trans List.range_eq_range') fun _ => drafts_owned).1
  refine ⟨listing, ?_, staffs⟩
  have length := congrArg List.length ranks
  rw [List.length_map, List.length_map] at length
  rw [created, ranks, inRow, length]

end Desk

/-! How a build ends. -/

namespace Engine

variable (settings : Settings) (now : Timestamp) (id : LoanId) (desk after : Desk)

theorem build_eq_chainExists_iff :
    (Desk.engine settings now).build id desk = .error (.failed (.chainExists id)) after ↔
      desk.chains.stepsOf id ≠ [] ∧ after = desk := by
  rw [build_apply]
  by_cases without : desk.chains.stepsOf id = []
  · cases known : desk.ledger.loan? id with
    | none => simp [without]
    | some loan => cases free : desk.directory.hindrance? loan <;> simp [without, free]
  · simp [without, eq_comm]

theorem build_eq_loanNotFound_iff :
    (Desk.engine settings now).build id desk = .error (.failed (.loanNotFound id)) after ↔
      desk.chains.stepsOf id = [] ∧ desk.ledger.loan? id = none ∧ after = desk := by
  rw [build_apply]
  by_cases without : desk.chains.stepsOf id = []
  · cases known : desk.ledger.loan? id with
    | none => simp [without, eq_comm]
    | some loan => cases free : desk.directory.hindrance? loan <;> simp [without, free]
  · simp [without]

theorem build_eq_skipped_iff (reason : SkipReason) :
    (Desk.engine settings now).build id desk = .ok (.skipped id reason) after ↔
      desk.chains.stepsOf id = [] ∧
        (∃ loan, desk.ledger.loan? id = some loan ∧ desk.directory.hindrance? loan = some reason) ∧ after = desk := by
  rw [build_apply]
  by_cases without : desk.chains.stepsOf id = []
  · cases known : desk.ledger.loan? id with
    | none => simp [without]
    | some loan => cases free : desk.directory.hindrance? loan <;> simp [without, free, eq_comm]
  · simp [without]

end Engine

namespace Desk

/-- How a build of the chain of a loan ends, with the condition for each way on the books it starts from. -/
structure BuildVerdict (books : Desk) (loan : LoanId) (ended : EStateM.Result Stop Desk Build) : Prop where
  chainExists : ∀ after, ended = .error (.failed (.chainExists loan)) after ↔
    (∃ step ∈ books.chains.allSteps, step.loan = loan) ∧ after = books
  loanNotFound : ∀ after, ended = .error (.failed (.loanNotFound loan)) after ↔
    (∀ step ∈ books.chains.allSteps, step.loan ≠ loan) ∧ books.ledger.loan? loan = none ∧ after = books
  noTemplate : ∀ after, ended = .ok (.skipped loan .noTemplate) after ↔
    (∀ step ∈ books.chains.allSteps, step.loan ≠ loan) ∧
      (∃ record, books.ledger.loan? loan = some record ∧ books.directory.template? record.product = none) ∧
      after = books
  noCoveringAuthority : ∀ after, ended = .ok (.skipped loan .noCoveringAuthority) after ↔
    (∀ step ∈ books.chains.allSteps, step.loan ≠ loan) ∧
      (∃ record, books.ledger.loan? loan = some record ∧
        ∃ template, books.directory.template? record.product = some template ∧
          ∀ level ∈ template.entries, level.limit.covers record.principal = false) ∧
      after = books
  noEligibleApprovers : ∀ after, ended = .ok (.skipped loan .noEligibleApprovers) after ↔
    (∀ step ∈ books.chains.allSteps, step.loan ≠ loan) ∧
      (∃ record, books.ledger.loan? loan = some record ∧
        ∃ template, books.directory.template? record.product = some template ∧
          (∃ level ∈ template.entries, level.limit.covers record.principal = true) ∧
          ∀ level ∈ template.entries, level.limit.covers record.principal = true →
            books.directory.activeApprovers level.role = []) ∧
      after = books
  created : (∀ step ∈ books.chains.allSteps, step.loan ≠ loan) → ∀ record template,
    books.ledger.loan? loan = some record → books.directory.template? record.product = some template →
    (∃ level ∈ template.entries, level.limit.covers record.principal = true ∧
      books.directory.activeApprovers level.role ≠ []) →
    ∃ steps after,
      ended = .ok (.created ⟨loan, (steps.head?).map (·.id),
        [.chainCreated (steps.map (·.id)) (steps.map (·.approver))]⟩) after ∧
      after.chains.allSteps = books.chains.allSteps ++ steps ∧
      after.ledger = books.ledger ∧ after.directory = books.directory ∧
      steps.map (·.rank) = List.range steps.length ∧
      List.Forall₂ (books.Staffs loan) (template.entries.filter (·.limit.covers record.principal)) steps

theorem build_ends_by_verdict {settings : Settings} {desk : Desk} (reachable : Reachable settings desk)
    (ledger : Ledger) (directory : Directory) (loan : LoanId) (now : Timestamp) :
    BuildVerdict ⟨desk.chains, ledger, directory⟩ loan
      ((Desk.engine settings now).build loan ⟨desk.chains, ledger, directory⟩) := by
  have sound := reachable.orderly.chains.sound
  have without : desk.chains.stepsOf loan = [] ↔ ∀ step ∈ desk.chains.allSteps, step.loan ≠ loan := by
    rw [reachable.orderly.chains.stepsOf_eq, ChainStore.chainOf, List.filter_eq_nil_iff]
    simp only [beq_iff_eq]
  have exists_ : desk.chains.stepsOf loan ≠ [] ↔ ∃ step ∈ desk.chains.allSteps, step.loan = loan := by
    rw [Ne, without]
    push Not
    rfl
  constructor
  · intro after
    rw [Engine.build_eq_chainExists_iff, exists_]
  · intro after
    rw [Engine.build_eq_loanNotFound_iff, without]
  · intro after
    rw [Engine.build_eq_skipped_iff, without]
    simp only [Directory.hindrance?_eq_noTemplate_iff]
  · intro after
    rw [Engine.build_eq_skipped_iff, without]
    simp only [Directory.hindrance?_eq_noCoveringAuthority_iff]
  · intro after
    rw [Engine.build_eq_skipped_iff, without]
    simp only [Directory.hindrance?_eq_noEligibleApprovers_iff]
  · intro new record template known found served
    have free := Directory.hindrance?_eq_none_iff.mpr ⟨template, found, served⟩
    have levels : directory.levels record = template.entries.filter (·.limit.covers record.principal) := by
      rw [Directory.levels, found]
    let books : Desk := ⟨desk.chains, ledger, directory⟩
    obtain ⟨listing, ranks, staffs⟩ :=
      created_lists (show books.chains.Sound from sound) now loan (directory.levels record)
    rw [levels] at listing ranks staffs
    refine ⟨_, { books with chains := (books.created now loan _).2 }, ?_, listing, rfl, rfl, ranks, staffs⟩
    rw [Engine.build_apply, if_neg (not_not.mpr (without.mpr new)), known]
    simp only [free, levels]
    rfl

end Desk

/-- Two approvers for the first of two levels, nobody for the second, and a loan of a product without a
template among the loans. -/
def Setup.staffed : Setup where
  settings := .standard
  products := [⟨1, [⟨0, 1, .unbounded⟩, ⟨1, 2, .unbounded⟩]⟩]
  approvers := [⟨5, [1], true⟩, ⟨3, [1], true⟩, ⟨4, [1, 2], false⟩]
  loans := sample.loans.flatMap fun entry =>
    [(1, 1), (2, 1), (3, 1), (4, 2)].map fun row =>
      { loan := { entry.loan with id := row.1, product := row.2 }, charges := [], savings := none }

namespace Desk

def staffed : Desk :=
  match Setup.staffed.install .empty with
  | .ok _ desk => desk
  | .error _ desk => desk

theorem staffed_reachable (events : List Event) : Reachable .standard (staffed.run .standard events) :=
  ⟨Setup.staffed, staffed, events, rfl, rfl, rfl⟩

/-- The first step of the first loan is with the approver registered first, that of the second loan with
the other one, and of these two the one with the lower id has the third. -/
theorem staffed_builds :
    let desk := staffed.run .standard [.command .epoch (.build 1), .command .epoch (.build 2)]
    BuildVerdict desk 3 ((Desk.engine .standard .epoch).build 3 desk) ∧
      desk.chains.allSteps.map (·.approver) = [some 5, none, some 3, none] ∧
      ∃ after, (Desk.engine .standard .epoch).build 3 desk =
        .ok (.created ⟨3, some 5, [.chainCreated [5, 6] [some 3, none]]⟩) after := by
  intro desk
  have reachable : Reachable .standard desk := staffed_reachable _
  exact ⟨build_ends_by_verdict reachable desk.ledger desk.directory 3 .epoch, rfl, _, rfl⟩

end Desk

end Countersign
