import Countersign.Proofs.Elsewhere
import Countersign.Proofs.LienKeeping

/-!
Decisions about different loans in either order. What a decision comes to does not depend on what
other loans went through before it, and it leaves other loans as they are. So of two decisions
about loans without an account in common either may come first: both end as they end in the other
order, and they leave the same, but for dates, for the numbers of transactions and for the order
of the journal.
-/

namespace Countersign

/-! The same but for dates, numbers and order. -/

/-- The loan with a lien or without, whatever the number of the lien. -/
def Loan.unnumbered (loan : Loan) : Loan := { loan with lien := loan.lien.map fun _ => 0 }

def Account.unnumbered (account : Account) : AccountId × Decimal × Decimal × List Decimal :=
  (account.id, account.available, account.held, account.holds.values)

def JournalEntry.unnumbered : JournalEntry → JournalEntry
  | .hold account loan amount _ => .hold account loan amount 0
  | .release account _ => .release account 0
  | .withdraw account amount payment _ => .withdraw account amount payment 0
  | entry => entry

/-- The same steps, each with the same history, dates apart. -/
structure ChainStore.Agree (a b : ChainStore) : Prop where
  steps : ∀ id, (b.find? id).map Step.undated = (a.find? id).map Step.undated
  history : ∀ step, (b.historyOf step).map HistoryRow.undated = (a.historyOf step).map HistoryRow.undated
  lastId : b.lastId = a.lastId

/-- The same on the books, but that transactions may have other numbers and stand in another order. -/
structure Ledger.Agree (a b : Ledger) : Prop where
  loans : ∀ id, (b.loans.get? id).map Loan.unnumbered = (a.loans.get? id).map Loan.unnumbered
  charges : b.charges = a.charges
  links : b.links = a.links
  accounts : ∀ id, (b.accounts.get? id).map Account.unnumbered = (a.accounts.get? id).map Account.unnumbered
  notes : b.notes = a.notes
  journal : (b.journal.map JournalEntry.unnumbered).Perm (a.journal.map JournalEntry.unnumbered)
  failing : b.failing = a.failing
  lastTransaction : b.lastTransaction = a.lastTransaction

structure Desk.Agree (a b : Desk) : Prop where
  chains : a.chains.Agree b.chains
  ledger : a.ledger.Agree b.ledger
  directory : b.directory = a.directory

section

variable (shift : Renumbering)

theorem Loan.renumbered_unnumbered (loan : Loan) : (loan.renumbered shift).unnumbered = loan.unnumbered := by
  unfold renumbered unnumbered
  dsimp only
  rw [Option.map_map]
  rfl

theorem Account.renumbered_unnumbered (account : Account) : (account.renumbered shift).unnumbered = account.unnumbered := by
  unfold renumbered unnumbered
  dsimp only
  rw [Table.rekeyed_values]

theorem JournalEntry.renumbered_unnumbered (entries : List JournalEntry) :
    (entries.map (·.renumbered shift)).map unnumbered = entries.map unnumbered := by
  rw [List.map_map]
  refine List.map_congr_left fun entry _ => ?_
  cases entry <;> rfl

end

namespace Ledger

/-- The loans have no account in common. -/
def Apart (ledger : Ledger) (one other : LoanId) : Prop :=
  ∀ id, ledger.links.get? one = some id → ledger.links.get? other ≠ some id

/-- The lien of the loan, if one is recorded, has a number that was given out. -/
def KnowsLien (ledger : Ledger) (loan : LoanId) : Prop :=
  ∀ record lien, ledger.loans.get? loan = some record → record.lien = some lien → lien ≤ ledger.lastTransaction

theorem Elsewhere.counterpart {before after : Ledger} {one other : LoanId} (elsewhere : Elsewhere other before after)
    (inOrder : before.InOrder) (different : one ≠ other) (apart : before.Apart one other) (knows : before.KnowsLien one) :
    Counterpart (.past before.lastTransaction (after.lastTransaction - before.lastTransaction)) one
      (before.links.get? one) before.journal after.journal before after where
  record := by
    rw [elsewhere.loans one different]
    cases found : before.loans.get? one with
    | none => rfl
    | some record =>
      have same : record.lien.map (Renumbering.past before.lastTransaction
          (after.lastTransaction - before.lastTransaction)).number = record.lien := by
        cases isLien : record.lien with
        | none => rfl
        | some lien => exact congrArg some (Renumbering.past_of_le _ (knows record lien found isLien))
      rw [Option.map_some, Loan.renumbered, same]
  keyed := inOrder.keyed one
  charges := elsewhere.charges one different
  notes := elsewhere.notes one different
  link := rfl
  link' := by rw [elsewhere.links]
  account id linked := by
    rw [elsewhere.accounts id (apart id linked)]
    cases found : before.accounts.get? id with
    | none => rfl
    | some account =>
      rw [Option.map_some, Account.renumbered, Table.rekeyed_of_fixed]
      exact fun transaction amount held =>
        Renumbering.past_of_le _ (inOrder.issued id account transaction amount found held)
  failing := elsewhere.failing
  numbers more := by
    obtain ⟨extra, later⟩ := Nat.exists_eq_add_of_le elsewhere.numbers
    rw [Renumbering.past_of_lt _ (Nat.lt_succ_of_le (Nat.le_add_right _ _)), later]
    omega
  entered := ⟨[], (List.append_nil _).symm, (List.append_nil _).symm⟩

end Ledger

namespace Desk

open Ledger (Elsewhere Counterpart Apart KnowsLien)
open ChainStore (Rewritten commit_rewrites)

/-- How a command ended: it was done, or it was stopped for a reason. -/
def verdict (settings : Settings) (desk : Desk) (now : Timestamp) (command : Command) : Option Stop :=
  match (Desk.engine settings now).perform command desk with
  | .ok _ _ => none
  | .error stop _ => some stop

section

variable (settings : Settings) {loan : LoanId} {command : Command}

theorem Common.decides {shift : Renumbering} {one other : Desk} (common : Common shift loan one other)
    (decides : command.decides = some loan) (now later : Timestamp) :
    verdict settings one now command = verdict settings other later command ∧
      (counterparts shift loan one other).left (one.after settings (.command now command))
        (other.after settings (.command later command)) := by
  have ran := Engine.perform_abreast (common.paired settings) now later decides one other
    ⟨rfl, rfl, rfl, rfl, common.ledger⟩
  unfold Abreast at ran
  unfold verdict
  change _ ∧ (counterparts shift loan one other).left (left ((Desk.engine settings now).perform command one))
    (left ((Desk.engine settings later).perform command other))
  cases first : (Desk.engine settings now).perform command one <;>
    cases second : (Desk.engine settings later).perform command other <;> rw [first, second] at ran
  · exact ⟨rfl, ran⟩
  · exact ran.elim
  · exact ran.elim
  · exact ⟨congrArg some ran.1, ran.2.2⟩

theorem Orderly.common {desk : Desk} (orderly : desk.Orderly) (loan : LoanId) : Common ⟨id, fun _ _ => id⟩ loan desk desk where
  regular := orderly.chains
  regular' := orderly.chains
  find? id := by
    cases found : desk.chains.find? id with
    | none => exact .none
    | some step =>
      refine .some ?_
      by_cases owned : step.loan = loan
      · exact Or.inl ⟨rfl, ChainStore.mem_chainOf.mpr
          ⟨((orderly.chains.sound.find?_eq_some_iff id step).mp found).1, owned⟩⟩
      · exact Or.inr ⟨owned, owned⟩
  chain := rfl
  directory := rfl
  ledger := {
    record := by
      cases desk.ledger.loans.get? loan with
      | none => rfl
      | some record => rw [Option.map_some, Loan.renumbered, Option.map_id]; rfl
    keyed := orderly.ledger.keyed loan
    charges := rfl
    notes := rfl
    link := rfl
    link' := rfl
    account := fun id _ => by
      cases desk.ledger.accounts.get? id with
      | none => rfl
      | some account =>
        rw [Option.map_some, Account.renumbered, Table.rekeyed_of_fixed]
        exact fun _ _ _ => rfl
    failing := rfl
    numbers := fun _ => rfl
    entered := ⟨[], (List.append_nil _).symm, (List.append_nil _).symm⟩ }

/-- A decision writes about its own loan alone. -/
theorem decision_rewrites {desk : Desk} (orderly : desk.Orderly) (decides : command.decides = some loan)
    (now : Timestamp) :
    (desk.after settings (.command now command)).directory = desk.directory ∧
      ∃ batch, Rewritten loan batch desk.chains (desk.after settings (.command now command)).chains := by
  obtain ⟨_, ⟨batch, _, matching, taken, _⟩, directory, _⟩ := (orderly.common loan).decides settings decides now now
  exact ⟨directory, batch, commit_rewrites orderly.chains.sound matching.concerns taken⟩

theorem decision_common {desk : Desk} (orderly : desk.Orderly) (decides : command.decides = some loan)
    (now : Timestamp) {one : LoanId} (different : one ≠ loan) (apart : desk.ledger.Apart one loan)
    (knows : desk.ledger.KnowsLien one) :
    Common (.past desk.ledger.lastTransaction ((desk.after settings (.command now command)).ledger.lastTransaction -
      desk.ledger.lastTransaction)) one desk (desk.after settings (.command now command)) := by
  obtain ⟨directory, batch, rewritten⟩ := decision_rewrites settings orderly decides now
  have elsewhere := (decision_courses settings orderly decides now).elsewhere
  refine ⟨orderly.chains, (orderly.after _).chains, fun id => ?_, rewritten.chains one different, directory,
    elsewhere.counterpart orderly.ledger different apart knows⟩
  rw [rewritten.find? id]
  cases found : desk.chains.find? id with
  | none => exact .none
  | some step =>
    have stored := ((orderly.chains.sound.find?_eq_some_iff id step).mp found).1
    refine .some ?_
    by_cases owned : step.loan = one
    · rw [rewritten.others step stored (owned ▸ different)]
      exact Or.inl ⟨rfl, ChainStore.mem_chainOf.mpr ⟨stored, owned⟩⟩
    · exact Or.inr ⟨owned, (rewritten.succeeds step stored).loan ▸ owned⟩

end

end Desk

/-! The two orders. -/

namespace ChainStore

variable {start afterOne afterOther oneFirst otherFirst : ChainStore} {one other : LoanId}

theorem rows_apart (sound : start.Sound) (different : one ≠ other) {batch batch' : Batch}
    (concerns : batch.Concerns (· ∈ start.chainOf one)) (concerns' : batch'.Concerns (· ∈ start.chainOf other))
    (id : StepId) : batch.history.filter (·.step == id) = [] ∨ batch'.history.filter (·.step == id) = [] := by
  by_contra both
  obtain ⟨first, second⟩ := not_or.mp both
  obtain ⟨row, mem⟩ := List.exists_mem_of_ne_nil _ first
  obtain ⟨row', mem'⟩ := List.exists_mem_of_ne_nil _ second
  obtain ⟨listed, isId⟩ := List.mem_filter.mp mem
  obtain ⟨listed', isId'⟩ := List.mem_filter.mp mem'
  obtain ⟨step, owned, same⟩ := concerns.history row listed
  obtain ⟨step', owned', same'⟩ := concerns'.history row' listed'
  obtain ⟨stored, ofOne⟩ := mem_chainOf.mp owned
  obtain ⟨stored', ofOther⟩ := mem_chainOf.mp owned'
  have sameId : step.id = step'.id := by
    rw [← same, ← same', beq_iff_eq.mp isId, beq_iff_eq.mp isId']
  cases sound.eq_of_id stored stored' sameId
  exact different (ofOne.symm.trans ofOther)

section

variable {batch later batch' later' : Batch} (alone : Rewritten one batch start afterOne)
  (alone' : Rewritten other batch' start afterOther) (behind : Rewritten one later afterOther otherFirst)
  (behind' : Rewritten other later' afterOne oneFirst) (redated : batch.Redated later) (redated' : batch'.Redated later')
include alone alone' behind behind' redated redated'

theorem steps_agree (different : one ≠ other) (sound : start.Sound) (soundOne : afterOne.Sound)
    (soundOther : afterOther.Sound) (id : StepId) :
    (otherFirst.find? id).map Step.undated = (oneFirst.find? id).map Step.undated := by
  rw [behind.find?, behind'.find?, alone.find?, alone'.find?]
  cases found : start.find? id with
  | none => rfl
  | some step =>
    obtain ⟨stored, rfl⟩ := (sound.find?_eq_some_iff id step).mp found
    have storedOne := (soundOne.find?_eq_some_iff step.id (revise batch.updates step)).mp
      (by rw [alone.find?, found, Option.map_some])
    have storedOther := (soundOther.find?_eq_some_iff step.id (revise batch'.updates step)).mp
      (by rw [alone'.find?, found, Option.map_some])
    simp only [Option.map_some, Option.some_inj]
    by_cases owned : step.loan = one
    · have others : revise batch'.updates step = step := alone'.others step stored (owned ▸ different)
      have stays := behind'.others _ storedOne.1 ((alone.succeeds step stored).loan ▸ owned ▸ different)
      rw [others, stays]
      exact revise_undated redated.updates rfl
    · have stays := alone.others step stored owned
      have others := behind.others _ storedOther.1 ((alone'.succeeds step stored).loan ▸ owned)
      rw [others, stays]
      exact (revise_undated redated'.updates rfl).symm

theorem history_agree (different : one ≠ other) (sound : start.Sound) (concerns : batch.Concerns (· ∈ start.chainOf one))
    (concerns' : batch'.Concerns (· ∈ start.chainOf other)) (id : StepId) :
    (otherFirst.historyOf id).map HistoryRow.undated = (oneFirst.historyOf id).map HistoryRow.undated := by
  have rows {a b : Batch} (redated : a.Redated b) :
      (b.history.filter (·.step == id)).map HistoryRow.undated =
        (a.history.filter (·.step == id)).map HistoryRow.undated := by
    have listed := congrArg (List.filter (·.step == id)) redated.history
    rw [List.filter_map, List.filter_map] at listed
    exact listed
  unfold historyOf
  rw [behind.history, behind'.history, alone.history, alone'.history]
  simp only [List.filter_append, List.map_append, rows redated, rows redated']
  rcases rows_apart sound different concerns concerns' id with none | none
  · rw [none, List.map_nil, List.append_nil, List.append_nil]
  · rw [none, List.map_nil, List.append_nil, List.append_nil]

end

/-- Two batches about different loans, taken in either order. -/
theorem agree_of_written (different : one ≠ other) (sound : start.Sound) (soundOne : afterOne.Sound)
    (soundOther : afterOther.Sound)
    (first : Desk.Written (· ∈ start.chainOf one) start afterOther afterOne otherFirst)
    (second : Desk.Written (· ∈ start.chainOf other) start afterOne afterOther oneFirst) :
    Agree oneFirst otherFirst := by
  obtain ⟨batch, later, matching, taken, takenLater⟩ := first
  obtain ⟨batch', later', matching', taken', takenLater'⟩ := second
  have alone := commit_rewrites sound matching.concerns taken
  have alone' := commit_rewrites sound matching'.concerns taken'
  have behind : Rewritten one later afterOther otherFirst := by
    refine commit_rewrites soundOther ?_ takenLater
    exact alone'.chains one different ▸ matching.concerns'
  have behind' : Rewritten other later' afterOne oneFirst := by
    refine commit_rewrites soundOne ?_ takenLater'
    exact alone.chains other (Ne.symm different) ▸ matching'.concerns'
  refine ⟨?_, ?_, ?_⟩
  · exact steps_agree alone alone' behind behind' matching.redated matching'.redated different sound soundOne soundOther
  · exact history_agree alone alone' behind behind' matching.redated matching'.redated different sound matching.concerns
      matching'.concerns
  · rw [behind.lastId, behind'.lastId, alone.lastId, alone'.lastId]

end ChainStore

namespace Ledger

variable {start afterOne afterOther oneFirst otherFirst : Ledger} {one other : LoanId}

theorem Counterpart.loan_unnumbered {shift : Renumbering} {loan : LoanId} {linked : Option AccountId}
    {journal journal' : List JournalEntry} {a b : Ledger} (alike : Counterpart shift loan linked journal journal' a b) :
    (b.loans.get? loan).map Loan.unnumbered = (a.loans.get? loan).map Loan.unnumbered := by
  rw [alike.record, Option.map_map]
  exact congrArg (Option.map · _) (funext (Loan.renumbered_unnumbered shift))

theorem Counterpart.account_unnumbered {shift : Renumbering} {loan : LoanId} {linked : Option AccountId}
    {journal journal' : List JournalEntry} {a b : Ledger} (alike : Counterpart shift loan linked journal journal' a b)
    {id : AccountId} (owns : linked = some id) :
    (b.accounts.get? id).map Account.unnumbered = (a.accounts.get? id).map Account.unnumbered := by
  rw [alike.account id owns, Option.map_map]
  exact congrArg (Option.map · _) (funext (Account.renumbered_unnumbered shift))

/-- Two courses from the same books, and each of them again behind the other. -/
structure Crossing (one other : LoanId) (start afterOne afterOther oneFirst otherFirst : Ledger) : Prop where
  alone : Elsewhere one start afterOne
  alone' : Elsewhere other start afterOther
  behind : Elsewhere one afterOther otherFirst
  behind' : Elsewhere other afterOne oneFirst
  alike : Counterpart (.past start.lastTransaction (afterOther.lastTransaction - start.lastTransaction)) one
    (start.links.get? one) start.journal afterOther.journal afterOne otherFirst
  alike' : Counterpart (.past start.lastTransaction (afterOne.lastTransaction - start.lastTransaction)) other
    (start.links.get? other) start.journal afterOne.journal afterOther oneFirst

namespace Crossing

variable (crossing : Crossing one other start afterOne afterOther oneFirst otherFirst)
include crossing

theorem look (different : one ≠ other) {β : Type} (look : Ledger → LoanId → β)
    (aside : ∀ loan a b, Elsewhere loan a b → ∀ id, id ≠ loan → look b id = look a id)
    (own : look otherFirst one = look afterOne one) (own' : look oneFirst other = look afterOther other)
    (id : LoanId) : look otherFirst id = look oneFirst id := by
  by_cases isOne : id = one
  · subst isOne
    rw [own, aside _ _ _ crossing.behind' id different]
  · rw [aside _ _ _ crossing.behind id isOne]
    by_cases isOther : id = other
    · subst isOther
      rw [own']
    · rw [aside _ _ _ crossing.alone' id isOther, aside _ _ _ crossing.behind' id isOther,
        aside _ _ _ crossing.alone id isOne]

theorem accounts (apart : start.Apart one other) (id : AccountId) :
    (otherFirst.accounts.get? id).map Account.unnumbered = (oneFirst.accounts.get? id).map Account.unnumbered := by
  have linksOne : afterOne.links = start.links := crossing.alone.links
  have linksOther : afterOther.links = start.links := crossing.alone'.links
  by_cases isOne : start.links.get? one = some id
  · have notOther := apart id isOne
    rw [crossing.alike.account_unnumbered isOne, crossing.behind'.accounts id (linksOne ▸ notOther)]
  · rw [crossing.behind.accounts id (linksOther ▸ isOne)]
    by_cases isOther : start.links.get? other = some id
    · rw [crossing.alike'.account_unnumbered isOther]
    · rw [crossing.alone'.accounts id isOther, crossing.behind'.accounts id (linksOne ▸ isOther),
        crossing.alone.accounts id isOne]

theorem journal :
    (otherFirst.journal.map JournalEntry.unnumbered).Perm (oneFirst.journal.map JournalEntry.unnumbered) := by
  obtain ⟨entries, entered, enteredLater⟩ := crossing.alike.entered
  obtain ⟨entries', entered', enteredLater'⟩ := crossing.alike'.entered
  rw [enteredLater, enteredLater', entered, entered']
  simp only [List.map_append, JournalEntry.renumbered_unnumbered, List.append_assoc]
  exact List.perm_append_comm.append_left _

theorem lastTransaction : otherFirst.lastTransaction = oneFirst.lastTransaction := by
  have numbers := crossing.alike.numbers 0
  have numbers' := crossing.alike'.numbers 0
  obtain ⟨extra, later⟩ := Nat.exists_eq_add_of_le crossing.alone.numbers
  obtain ⟨extra', later'⟩ := Nat.exists_eq_add_of_le crossing.alone'.numbers
  rw [Renumbering.past_of_lt _ (Nat.lt_succ_of_le crossing.alone.numbers)] at numbers
  rw [Renumbering.past_of_lt _ (Nat.lt_succ_of_le crossing.alone'.numbers)] at numbers'
  rw [later, later', Nat.add_sub_cancel_left] at numbers numbers'
  change start.lastTransaction + extra + 1 + extra' = otherFirst.lastTransaction + 1 at numbers
  change start.lastTransaction + extra' + 1 + extra = oneFirst.lastTransaction + 1 at numbers'
  apply Nat.succ.inj
  rw [Nat.succ_eq_add_one, Nat.succ_eq_add_one, ← numbers, ← numbers']
  omega

/-- Courses for loans without an account in common come to the same in either order. -/
theorem agree (different : one ≠ other) (apart : start.Apart one other) : Agree oneFirst otherFirst where
  loans := by
    refine crossing.look different (fun ledger id => (ledger.loans.get? id).map Loan.unnumbered) ?_
      crossing.alike.loan_unnumbered crossing.alike'.loan_unnumbered
    exact fun _ _ _ elsewhere id differs => congrArg _ (elsewhere.loans id differs)
  charges := Table.ext_get? (crossing.look different (fun ledger id => ledger.charges.get? id)
    (fun _ _ _ elsewhere => elsewhere.charges) crossing.alike.charges crossing.alike'.charges)
  links := by rw [crossing.behind.links, crossing.behind'.links, crossing.alone.links, crossing.alone'.links]
  accounts := crossing.accounts apart
  notes := Table.ext_get? (crossing.look different (fun ledger id => ledger.notes.get? id)
    (fun _ _ _ elsewhere => elsewhere.notes) crossing.alike.notes crossing.alike'.notes)
  journal := crossing.journal
  failing := by
    rw [crossing.behind.failing, crossing.behind'.failing, crossing.alone.failing, crossing.alone'.failing]
  lastTransaction := crossing.lastTransaction

end Crossing

end Ledger

namespace Desk

variable {settings : Settings} {desk : Desk}

/-- Decisions about different loans without an account in common, in either order: each ends as it
ends in the other, and they leave the same. -/
theorem decisions_commute (reachable : Reachable settings desk) (failing : List LedgerOp) {first second : Command}
    {one other : LoanId} (decides : first.decides = some one) (decides' : second.decides = some other)
    (different : one ≠ other) (apart : desk.ledger.Apart one other) (knows : desk.ledger.KnowsLien one)
    (knows' : desk.ledger.KnowsLien other) (firstTime laterTime firstTime' laterTime' : Timestamp) :
    let start := desk.withFailing failing
    let afterOne := start.after settings (.command firstTime first)
    let afterOther := start.after settings (.command firstTime' second)
    start.verdict settings firstTime first = afterOther.verdict settings laterTime' first ∧
      afterOne.verdict settings laterTime second = start.verdict settings firstTime' second ∧
      Agree (afterOne.after settings (.command laterTime second))
        (afterOther.after settings (.command laterTime' first)) := by
  intro start afterOne afterOther
  have orderly : start.Orderly := reachable.orderly.withFailing failing
  have apart : start.ledger.Apart one other := apart
  have apart' : start.ledger.Apart other one := fun id linked linked' => apart id linked' linked
  have common : Common _ one start afterOther :=
    decision_common settings orderly decides' firstTime' different apart knows
  have common' : Common _ other start afterOne :=
    decision_common settings orderly decides firstTime (Ne.symm different) apart' knows'
  obtain ⟨same, written, directory, directory', alike⟩ := common.decides settings decides firstTime laterTime'
  obtain ⟨same', written', directoryToo, directoryToo', alike'⟩ := common'.decides settings decides' firstTime' laterTime
  refine ⟨same, same'.symm, ?_, ?_, ?_⟩
  · exact ChainStore.agree_of_written different orderly.chains.sound (orderly.after _).chains.sound
      (orderly.after _).chains.sound written written'
  · have crossing : Ledger.Crossing one other start.ledger _ _ _ _ :=
      ⟨(decision_courses settings orderly decides firstTime).elsewhere,
        (decision_courses settings orderly decides' firstTime').elsewhere,
        (decision_courses settings (orderly.after _) decides laterTime').elsewhere,
        (decision_courses settings (orderly.after _) decides' laterTime).elsewhere, alike, alike'⟩
    exact crossing.agree different apart
  · exact (directory'.trans common.directory).trans (directoryToo'.trans common'.directory).symm

end Desk

def Setup.separate : Setup :=
  { sample with
    products := [⟨1, [⟨0, 1, .unbounded⟩]⟩]
    approvers := [⟨1, [1], true⟩]
    loans := sample.loans.flatMap fun entry =>
      [entry, { entry with
        loan := { entry.loan with id := 2 }
        savings := entry.savings.map fun savings => { savings with id := 8 } }] }

namespace Desk

def separate : Desk :=
  match Setup.separate.install .empty with
  | .ok _ desk => desk
  | .error _ desk => desk

/-- Both loans are approved and paid out, in either order, while no note can be appended; the one that
comes later has the later lien. -/
theorem separate_approvals_commute :
    let desk := separate.run .standard [.command .epoch (.build 1), .command .epoch (.build 2)]
    let start := desk.withFailing [.appendNote]
    let first := Command.approve 1 1 "" none none
    let second := Command.approve 2 2 "" none none
    let oneFirst := (start.after .standard (.command .epoch first)).after .standard (.command .epoch second)
    let otherFirst := (start.after .standard (.command .epoch second)).after .standard (.command .epoch first)
    desk.ledger.Apart 1 2 ∧ oneFirst.Agree otherFirst ∧ oneFirst.ledger.statusOf 2 = some .active ∧
      oneFirst.ledger.lienOf 1 = some 4 ∧ otherFirst.ledger.lienOf 1 = some 6 := by
  intro desk start first second oneFirst otherFirst
  have installed : Setup.separate.install .empty = .ok () separate := rfl
  have reachable : Reachable .standard desk := ⟨_, separate, _, rfl, installed, rfl⟩
  have linked : desk.ledger.links.get? 1 = some 7 := by decide +kernel
  have linked' : desk.ledger.links.get? 2 = some 8 := by decide +kernel
  have apart : desk.ledger.Apart 1 2 := by
    intro id is is'
    have same := (linked.symm.trans is).trans (is'.symm.trans linked')
    exact absurd same (by decide)
  have knows (loan : LoanId) (number : TransactionId) (recorded : desk.ledger.lienOf loan = some number)
      (given : number ≤ desk.ledger.lastTransaction) : desk.ledger.KnowsLien loan := by
    intro record lien found isLien
    rw [Ledger.lienOf, Ledger.loan?, found, Option.bind_some, isLien] at recorded
    exact Option.some_inj.mp recorded ▸ given
  have commute := decisions_commute reachable [.appendNote] (rfl : first.decides = some 1)
    (rfl : second.decides = some 2) (by decide) apart (knows 1 1 (by decide +kernel) (by decide +kernel))
    (knows 2 2 (by decide +kernel) (by decide +kernel)) .epoch .epoch .epoch .epoch
  exact ⟨apart, commute.2.2, by decide +kernel, by decide +kernel, by decide +kernel⟩

end Desk

end Countersign
