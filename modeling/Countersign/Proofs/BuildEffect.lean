import Countersign.Engine.Perform
import Countersign.Proofs.ChainTurn
import Countersign.Proofs.CommandCheck

/-!
What building a chain comes to: a new chain for a loan that has none, or nothing at all.
Neither touches the ledger. Whether a loan can get a chain is up to its record and the
directory; the chains there are decide only who is given its steps. A scan is one build after
another.
-/

namespace Countersign

/-- A loan without a chain got one that waits at its first step, and nothing else changed. -/
structure Desk.Built (loan : LoanId) (before after : Desk) : Prop where
  without : before.chains.chainOf loan = []
  known : ∃ record, before.ledger.loans.get? loan = some record
  turned : ChainStore.Turned loan Chain.Ongoing before.chains after.chains
  front : Chain.Front .pending 0 (after.chains.chainOf loan)
  ledger : after.ledger = before.ledger
  directory : after.directory = before.directory

namespace ChainLink

theorem number_ranks (rank : Nat) (entries : List TemplateEntry) :
    (number rank entries).map (·.rank) = List.range' rank entries.length := by
  induction entries generalizing rank with
  | nil => rfl
  | cons entry rest ih =>
    rw [number, List.map_cons, ih, List.length_cons, List.range'_succ]

theorem number_length (rank : Nat) (entries : List TemplateEntry) : (number rank entries).length = entries.length := by
  induction entries generalizing rank with
  | nil => rfl
  | cons entry rest ih => rw [number, List.length_cons, ih, List.length_cons]

end ChainLink

namespace Directory

/-- The levels that have to approve a loan: those of its product's template that cover its principal. -/
def levels (directory : Directory) (loan : Loan) : List TemplateEntry :=
  match directory.template? loan.product with
  | none => []
  | some template => template.entries.filter (·.limit.covers loan.principal)

def hindrance? (directory : Directory) (loan : Loan) : Option SkipReason :=
  if directory.template? loan.product = none then some .noTemplate
  else if directory.levels loan = [] then some .noCoveringAuthority
  else if ∀ level ∈ directory.levels loan, directory.activeApprovers level.role = [] then some .noEligibleApprovers
  else none

theorem levels_ne_nil {directory : Directory} {loan : Loan} (free : directory.hindrance? loan = none) :
    directory.levels loan ≠ [] := by
  intro none
  unfold hindrance? at free
  rw [if_pos none] at free
  split at free <;> cases free

end Directory

namespace Desk

def appointee (desk : Desk) (role : RoleId) : Option ApproverId :=
  let candidates := desk.directory.activeApprovers role
  (Approver.pick (desk.chains.pendingLoads (candidates.map (·.id))) candidates).map (·.id)

theorem appointee_eq_none_iff (desk : Desk) (role : RoleId) :
    desk.appointee role = none ↔ desk.directory.activeApprovers role = [] := by
  rw [appointee, Option.map_eq_none_iff]
  cases desk.directory.activeApprovers role with
  | nil => exact iff_of_true rfl rfl
  | cons first rest => exact iff_of_false (Option.some_ne_none _) (List.cons_ne_nil _ _)

def drafts (desk : Desk) (loan : LoanId) (chain : List ChainLink) : List Draft :=
  chain.map fun link => ⟨loan, link.rank, desk.appointee link.role⟩

theorem drafts_all_isNone (desk : Desk) (loan : LoanId) (rank : Nat) (levels : List TemplateEntry) :
    (desk.drafts loan (ChainLink.number rank levels)).all (·.approver.isNone) = true ↔
      ∀ level ∈ levels, desk.directory.activeApprovers level.role = [] := by
  induction levels generalizing rank with
  | nil => exact iff_of_true rfl fun _ none => absurd none List.not_mem_nil
  | cons level rest ih =>
    rw [ChainLink.number, drafts, List.map_cons, List.all_cons, Bool.and_eq_true, Option.isNone_iff_eq_none,
      appointee_eq_none_iff, List.forall_mem_cons, ← ih (rank + 1)]
    rfl

theorem drafts_inRow (desk : Desk) (loan : LoanId) (levels : List TemplateEntry) :
    (desk.drafts loan (ChainLink.number 0 levels)).map (·.rank) =
      List.range (desk.drafts loan (ChainLink.number 0 levels)).length := by
  unfold drafts
  rw [List.map_map, List.length_map, ChainLink.number_length, List.range_eq_range', ← ChainLink.number_ranks]
  rfl

theorem drafts_owned {desk : Desk} {loan : LoanId} {chain : List ChainLink} {draft : Draft}
    (mem : draft ∈ desk.drafts loan chain) : draft.loan = loan := by
  obtain ⟨link, _, rfl⟩ := List.mem_map.mp mem
  rfl

def created (desk : Desk) (now : Timestamp) (loan : LoanId) (levels : List TemplateEntry) : List Step × ChainStore :=
  desk.chains.create now (desk.drafts loan (ChainLink.number 0 levels))

theorem created_turns {desk : Desk} (regular : desk.chains.Regular) (now : Timestamp) {loan : LoanId}
    {levels : List TemplateEntry} (without : desk.chains.chainOf loan = []) (some_ : levels ≠ []) :
    ChainStore.Turned loan Chain.Ongoing desk.chains (desk.created now loan levels).2 ∧
      Chain.Front .pending 0 ((desk.created now loan levels).2.chainOf loan) := by
  refine ChainStore.create_turns now regular without ?_ (desk.drafts_inRow loan levels) fun _ => drafts_owned
  intro none
  have length := congrArg List.length none
  rw [drafts, List.length_map, ChainLink.number_length] at length
  exact some_ (List.length_eq_zero_iff.mp length)

end Desk

namespace Engine

open Desk (Declined Built)

variable (settings : Settings) (now : Timestamp)

theorem assignAll_apply (loan : LoanId) (chain : List ChainLink) (desk : Desk) :
    chain.mapM ((Desk.engine settings now).assign loan) desk = .ok (desk.drafts loan chain) desk := by
  induction chain with
  | nil => rfl
  | cons link rest ih =>
    rw [List.mapM_cons]
    change EStateM.bind ((Desk.engine settings now).assign loan link) _ desk = _
    change EStateM.bind (rest.mapM ((Desk.engine settings now).assign loan)) _ desk = _
    rw [EStateM.bind, ih]
    rfl

theorem build_apply (id : LoanId) (desk : Desk) :
    (Desk.engine settings now).build id desk =
      if desk.chains.stepsOf id ≠ [] then .error (.failed (.chainExists id)) desk
      else match desk.ledger.loan? id with
        | none => .error (.failed (.loanNotFound id)) desk
        | some loan => match desk.directory.hindrance? loan with
          | some reason => .ok (.skipped id reason) desk
          | none =>
            let (steps, chains) := desk.created now id (desk.directory.levels loan)
            .ok (.created ⟨id, (steps.head?).map (·.id), [.chainCreated (steps.map (·.id)) (steps.map (·.approver))]⟩)
              { desk with chains := chains } := by
  change (if (!(desk.chains.stepsOf id).isEmpty) = true then _ else _ : Work Desk Build) desk = _
  by_cases without : desk.chains.stepsOf id = []
  · rw [without, if_neg (by decide), if_neg (by simp)]
    simp only [bind, EStateM.bind, requireLoan_apply]
    cases desk.ledger.loan? id with
    | none => rfl
    | some loan =>
      have fetched : (Desk.engine settings now).services.template loan.product desk =
        .ok (desk.directory.template? loan.product) desk := rfl
      simp only [Option.elim_some]
      rw [fetched]
      cases templated : desk.directory.template? loan.product with
      | none =>
        have hindered : desk.directory.hindrance? loan = some .noTemplate := if_pos templated
        rw [hindered]
        rfl
      | some template =>
        have levels : template.entries.filter (·.limit.covers loan.principal) = desk.directory.levels loan := by
          rw [Directory.levels, templated]
        dsimp only
        rw [ChainLink.chain, levels]
        unfold Directory.hindrance?
        rw [templated, if_neg (Option.some_ne_none _)]
        by_cases uncovered : desk.directory.levels loan = []
        · rw [uncovered]
          rfl
        · have linked : ¬(ChainLink.number 0 (desk.directory.levels loan)).isEmpty = true := by
            rw [List.isEmpty_iff, ← List.length_eq_zero_iff, ChainLink.number_length, List.length_eq_zero_iff]
            exact uncovered
          have unmanned := desk.drafts_all_isNone id 0 (desk.directory.levels loan)
          rw [if_neg uncovered, if_neg linked, EStateM.bind, assignAll_apply]
          dsimp only
          by_cases nobody : ∀ level ∈ desk.directory.levels loan, desk.directory.activeApprovers level.role = []
          · rw [if_pos nobody, if_pos (unmanned.mpr nobody)]
            rfl
          · rw [if_neg nobody, if_neg (mt unmanned.mp nobody)]
            rfl
  · rw [if_pos (by simpa using without), if_pos without]
    rfl

theorem build_cases (id : LoanId) (desk : Desk) :
    (∃ error, (Desk.engine settings now).build id desk = .error (.failed error) desk) ∨
      (∃ reason, (Desk.engine settings now).build id desk = .ok (.skipped id reason) desk) ∨
      desk.chains.stepsOf id = [] ∧ ∃ loan, desk.ledger.loan? id = some loan ∧
        desk.directory.hindrance? loan = none ∧ ∃ outcome, (Desk.engine settings now).build id desk =
          .ok (.created outcome) { desk with chains := (desk.created now id (desk.directory.levels loan)).2 } := by
  rw [build_apply]
  by_cases without : desk.chains.stepsOf id = []
  · rw [if_neg (not_not.mpr without)]
    cases known : desk.ledger.loan? id with
    | none => exact Or.inl ⟨_, rfl⟩
    | some loan =>
      dsimp only
      cases free : desk.directory.hindrance? loan with
      | some reason => exact Or.inr (Or.inl ⟨reason, rfl⟩)
      | none => exact Or.inr (Or.inr ⟨without, loan, rfl, free, _, rfl⟩)
  · rw [if_pos without]
    exact Or.inl ⟨_, rfl⟩

theorem build_ends {desk : Desk} (regular : desk.chains.Regular) (id : LoanId) :
    Ends ((Desk.engine settings now).build id) desk (fun _ after => after = desk ∨ Built id desk after)
      (Declined desk) := by
  unfold Ends
  rcases build_cases settings now id desk with
    ⟨error, ended⟩ | ⟨reason, ended⟩ | ⟨without, loan, known, free, outcome, ended⟩
  · rw [ended]
    exact fail_declines _ _
  · rw [ended]
    exact Or.inl rfl
  · rw [ended]
    have noChain : desk.chains.chainOf id = [] := (regular.stepsOf_eq id).symm.trans without
    obtain ⟨turned, front⟩ := Desk.created_turns regular now noChain (Directory.levels_ne_nil free)
    exact Or.inr ⟨noChain, ⟨loan, known⟩, turned, front, rfl, rfl⟩

/-! Scanning. -/

theorem filterAux_apply {α : Type} {desk : Desk} {test : α → Work Desk Bool} {keeps : α → Bool}
    (reads : ∀ item, test item desk = .ok (keeps item) desk) (items kept : List α) :
    items.filterAuxM test kept desk = .ok ((items.filter keeps).reverse ++ kept) desk := by
  induction items generalizing kept with
  | nil => rfl
  | cons item rest ih =>
    change EStateM.bind (test item) _ desk = _
    rw [EStateM.bind, reads, List.filter_cons]
    cases keeps item with
    | false => exact ih kept
    | true =>
      rw [if_pos rfl, List.reverse_cons, List.append_assoc]
      exact ih (item :: kept)

theorem awaitingChain_apply (desk : Desk) :
    (Desk.engine settings now).awaitingChain desk =
      .ok (desk.ledger.scheduledLoans.filter fun id => (desk.chains.stepsOf id).isEmpty) desk := by
  have reads (id : LoanId) : (do
      let steps ← (Desk.engine settings now).services.stepsOf id
      pure steps.isEmpty : Work Desk Bool) desk = .ok (desk.chains.stepsOf id).isEmpty desk := rfl
  have filtered := filterAux_apply reads desk.ledger.scheduledLoans []
  rw [List.append_nil] at filtered
  change EStateM.bind (desk.ledger.scheduledLoans.filterAuxM _ []) _ desk = _
  rw [EStateM.bind, filtered]
  exact congrArg (EStateM.Result.ok · desk) (List.reverse_reverse _)

theorem scanLoan_ends {desk : Desk} (regular : desk.chains.Regular) (report : ScanReport) (id : LoanId) :
    Ends ((Desk.engine settings now).scanLoan report id) desk (fun _ after => after = desk ∨ Built id desk after)
      fun _ _ => False := by
  have built := build_ends settings now regular id
  unfold Ends scanLoan
  unfold Ends at built
  cases ran : (Desk.engine settings now).build id desk with
  | ok answer after =>
    rw [ran] at built
    cases answer <;> exact built
  | error stop after =>
    rw [ran] at built
    obtain ⟨⟨error, rfl⟩, rfl⟩ := built
    exact Or.inl rfl

theorem scan_ends {desk : Desk} (regular : desk.chains.Regular) :
    Ends (Desk.engine settings now).scan desk
      (fun _ after => Relation.ReflTransGen (fun a b => ∃ loan, Built loan a b) desk after) fun _ _ => False := by
  apply (Ends.of_ran (awaitingChain_apply settings now desk)).certainly
  intro waiting desk ended
  obtain rfl := ended.2
  clear ended
  generalize (⟨[], [], []⟩ : ScanReport) = report
  induction waiting generalizing desk report with
  | nil => exact .refl
  | cons id rest ih =>
    rw [List.foldlM_cons]
    apply (scanLoan_ends settings now regular report id).certainly
    intro next after ended
    rcases ended with rfl | built
    · exact ih after regular next
    · refine (ih after built.turned.regular next).imp (fun _ _ later => ?_) fun _ _ no => no.elim
      exact .head ⟨id, built⟩ later

end Engine

end Countersign
