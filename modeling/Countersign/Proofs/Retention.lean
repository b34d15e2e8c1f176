import Countersign.Proofs.Atomicity
import Countersign.Proofs.Elsewhere

/-!
What no command takes away. A loan or an account that the ledger has stays with it, and no
link is changed. So every loan with a chain is one that the ledger knows, and every linked
account is there. An operation fails only after it was made to.
-/

namespace Countersign

open Relation (ReflTransGen)

namespace Ledger

/-- Later books, with every loan and every account of the earlier ones and with the same links. -/
structure Retains (before after : Ledger) : Prop where
  links : after.links = before.links
  loans : ∀ id record, before.loans.get? id = some record → ∃ later, after.loans.get? id = some later
  accounts : ∀ id account, before.accounts.get? id = some account → ∃ later, after.accounts.get? id = some later

variable {before after : Ledger} {loan : LoanId}

theorem Retains.refl (ledger : Ledger) : Retains ledger ledger :=
  ⟨rfl, fun _ record found => ⟨record, found⟩, fun _ account found => ⟨account, found⟩⟩

theorem Retains.trans {later : Ledger} (first : Retains before after) (next : Retains after later) :
    Retains before later where
  links := next.links.trans first.links
  loans id record found := by
    obtain ⟨middle, there⟩ := first.loans id record found
    exact next.loans id middle there
  accounts id account found := by
    obtain ⟨middle, there⟩ := first.accounts id account found
    exact next.accounts id middle there

theorem exists_of_insert {α : Type} (table : Table α) (key : Nat) (value : α) {other : Nat} {known : α}
    (found : table.get? other = some known) : ∃ later, (table.insert key value).get? other = some later := by
  rw [Table.get?_insert]
  split
  · exact ⟨value, rfl⟩
  · exact ⟨known, found⟩

theorem retains_passed (ledger : Ledger) (record : Loan) (target : LoanStatus) (entry : JournalEntry) :
    Retains ledger (ledger.passed loan record target entry) :=
  ⟨rfl, fun _ _ found => exists_of_insert _ _ _ found, fun _ account found => ⟨account, found⟩⟩

theorem retains_moved (ledger : Ledger) (id : AccountId) (changed : Account) (entry : JournalEntry) :
    Retains ledger (ledger.moved id changed entry) :=
  ⟨rfl, fun _ record found => ⟨record, found⟩, fun _ _ found => exists_of_insert _ _ _ found⟩

theorem retains_numbered (ledger : Ledger) : Retains ledger ledger.numbered :=
  ⟨rfl, fun _ record found => ⟨record, found⟩, fun _ account found => ⟨account, found⟩⟩

theorem Move.retains (move : Move loan before after) : Retains before after := by
  cases move with
  | note text => exact ⟨rfl, fun _ record found => ⟨record, found⟩, fun _ account found => ⟨account, found⟩⟩
  | pass found passage => exact retains_passed before _ _ _
  | lien found lien =>
    exact ⟨rfl, fun _ _ found => exists_of_insert _ _ _ found, fun _ account found => ⟨account, found⟩⟩
  | mark found ids => exact ⟨rfl, fun _ record found => ⟨record, found⟩, fun _ account found => ⟨account, found⟩⟩
  | number => exact retains_numbered before
  | hold amount linked found held => exact (retains_numbered before).trans (retains_moved _ _ _ _)
  | withdraw amount payment linked found withdrawn => exact (retains_numbered before).trans (retains_moved _ _ _ _)
  | release linked found released => exact retains_moved before _ _ _

theorem Disbursal.retains (disbursal : Disbursal loan before after) : Retains before after := by
  cases disbursal with
  | paid amount date payment found ready => exact retains_passed before _ _ _

theorem Course.retains (course : Course loan before after) : Retains before after :=
  course.keeps (Retains before) (fun _ _ move kept => kept.trans move.retains)
    (fun _ _ disbursal kept => kept.trans disbursal.retains) (.refl before)

theorem Course.failing (course : Course loan before after) : after.failing = before.failing := by
  cases course with
  | unpaid path => exact path.failing
  | paid payout =>
    obtain ⟨earlier, ⟨_, _, _, _, _⟩, later⟩ := payout
    exact later.path.failing.trans earlier.failing

theorem Linked.retains (linked : before.Linked) (retains : Retains before after) : after.Linked := by
  intro loan id link
  rw [retains.links] at link
  obtain ⟨account, found⟩ := linked loan id link
  exact retains.accounts id account found

end Ledger

namespace Desk

open Ledger (Course Path Retains)

variable {settings : Settings} {desk before after : Desk} {loan : LoanId}

/-- The books have what the chains and the links go by. -/
structure Founded (desk : Desk) : Prop where
  loans : ∀ loan, desk.chains.chainOf loan ≠ [] → ∃ record, desk.ledger.loans.get? loan = some record
  linked : desk.ledger.Linked

theorem Founded.of_chains (founded : before.Founded)
    (chains : ∀ other, after.chains.chainOf other ≠ [] → before.chains.chainOf other ≠ [])
    (retains : Retains before.ledger after.ledger) : after.Founded := by
  refine ⟨fun other chain => ?_, founded.linked.retains retains⟩
  obtain ⟨record, known⟩ := founded.loans other (chains other chain)
  exact retains.loans other record known

theorem Founded.built (founded : before.Founded) (built : Built loan before after) : after.Founded := by
  refine ⟨fun other chain => ?_, built.ledger ▸ founded.linked⟩
  rw [built.ledger]
  by_cases own : other = loan
  · subst own
    exact built.known
  · rw [built.turned.others other own] at chain
    exact founded.loans other chain

theorem Waiting.nonempty (waiting : desk.Waiting loan) : desk.chains.chainOf loan ≠ [] := by
  obtain ⟨step, mem, _⟩ := waiting
  exact List.ne_nil_of_mem mem

theorem Founded.decided {form : List Step → Prop} {change : Ledger → Ledger → Prop} (founded : before.Founded)
    (decided : Decided loan form change before after) (retains : Retains before.ledger after.ledger) :
    after.Founded := by
  refine founded.of_chains (fun other chain => ?_) retains
  by_cases own : other = loan
  · subst own
    exact decided.waiting.nonempty
  · rwa [decided.turned.others other own] at chain

theorem Founded.through {change : Ledger → Ledger → Prop} (founded : before.Founded)
    (through : Through change before after) (retains : Retains before.ledger after.ledger) : after.Founded :=
  founded.of_chains (fun _ chain => through.chains ▸ chain) retains

theorem Founded.effect (founded : before.Founded) (effect : Effect loan before after) : after.Founded := by
  have retains := effect.course.retains
  cases effect with
  | idle same => exact same ▸ founded
  | built built => exact founded.built built
  | moved decided heeds => exact founded.decided decided retains
  | finished decided active => exact founded.decided decided retains
  | paid decided => exact founded.decided decided retains
  | rejected decided found refused freed => exact founded.decided decided retains

theorem Founded.turn (founded : before.Founded) (turn : Turn before after) : after.Founded := by
  cases turn with
  | effect loan effect => exact founded.effect effect
  | failed loan waiting through => exact founded.through through (Course.unpaid through.ledger).retains
  | switched failing same =>
    subst same
    exact ⟨founded.loans, founded.linked⟩

theorem Opening.founded (opening : desk.Opening) : desk.Founded := by
  refine ⟨fun loan chain => absurd ?_ chain, opening.linked⟩
  rw [opening.chains]
  rfl

theorem Reachable.founded (reachable : Reachable settings desk) : desk.Founded := by
  obtain ⟨setup, start, events, _, installed, rfl⟩ := reachable
  have opening := Setup.opens installed
  refine (run_keeps Founded (fun _ _ _ turn kept => kept.turn turn) ?_ events opening.orderly opening.founded).2
  intro _ _ _ ⟨loan, through⟩ kept
  exact kept.through through through.ledger.retains

/-! What is failing. -/

theorem command_failing (orderly : desk.Orderly) (now : Timestamp) (command : Command) :
    (desk.after settings (.command now command)).ledger.failing = desk.ledger.failing := by
  have ends := perform_ends settings now orderly command
  rw [Desk.after]
  cases ran : (Desk.engine settings now).perform command desk with
  | ok answer after =>
    have effects := ends.of_ok ran
    clear ran
    induction effects with
    | refl => rfl
    | tail _ effect ih =>
      obtain ⟨loan, effect⟩ := effect
      exact effect.course.failing.trans ih
  | error stop after =>
    obtain ⟨loan, setback⟩ := ends.of_error ran
    exact setback.course.failing

theorem run_works (events : List Event) (untouched : ∀ op, .failOn op ∉ events) (orderly : desk.Orderly)
    (working : desk.ledger.failing = []) : (desk.run settings events).ledger.failing = [] := by
  induction events generalizing desk with
  | nil => exact working
  | cons event rest ih =>
    refine ih (fun op later => untouched op (List.mem_cons_of_mem _ later)) (orderly.after event) ?_
    cases event with
    | command now command => exact (command_failing orderly now command).trans working
    | failOn op => exact absurd List.mem_cons_self (untouched op)
    | heal op =>
      change desk.ledger.failing.filter (· ≠ op) = []
      rw [working, List.filter_nil]

end Desk

end Countersign
