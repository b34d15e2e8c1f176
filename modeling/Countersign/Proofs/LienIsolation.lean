import Countersign.Proofs.Atomicity
import Countersign.Proofs.LienKeeping

/-!
The lien of one loan while a command works on another. Holds are found by their number alone,
and several loans may be on one account; so what keeps a lien there is that no other loan on
the account records the same number, and that new numbers are above all those on hold. Numbers
that come in with a setup need not be.
-/

namespace Countersign.Ledger

structure Spared (loan other : LoanId) (lien : TransactionId) (id : AccountId) (amount : Decimal)
    (standing : Standing) (ledger : Ledger) : Prop where
  pledge : ledger.lienOf other = some lien
  linked : ledger.links.get? other = some id
  held : ledger.holdOf id lien = some amount
  /-- Until the settlement is closed, the loan that is settled has another lien, or another account. -/
  apart : standing ≠ .closed → ledger.links.get? loan = some id → ledger.lienOf loan ≠ some lien
  /-- What is placed for the settlement has a number of its own. -/
  placed : ∀ hold, standing.hold = some hold → hold.transaction ≠ lien

section

variable {ledger after : Ledger} {id : AccountId} {account changed : Account} {lien : TransactionId} {amount : Decimal}
  (moved : after.accounts = ledger.accounts.insert id changed) (found : ledger.accounts.get? id = some account)
include moved found

theorem holdOf_hold (inOrder : ledger.InOrder) {sum : Decimal}
    (placed : account.hold (ledger.lastTransaction + 1) sum = .ok changed) {there : AccountId}
    (held : ledger.holdOf there lien = some amount) : after.holdOf there lien = some amount := by
  rw [holdOf_insert moved]
  by_cases same : there = id
  · subst same
    rw [holdOf_of_get? found] at held
    obtain ⟨_, _, _, _, _, rfl⟩ := (Account.hold_ok_iff ..).mp placed
    have issued := inOrder.issued there account lien amount found held
    rw [if_pos rfl, Table.get?_insert, if_neg (by omega)]
    exact held
  · rw [if_neg same]
    exact held

theorem holdOf_release {gone : TransactionId} (released : account.release gone = .ok changed) {there : AccountId}
    (other : ¬(there = id ∧ lien = gone)) (held : ledger.holdOf there lien = some amount) :
    after.holdOf there lien = some amount := by
  rw [holdOf_insert moved]
  by_cases same : there = id
  · subst same
    rw [holdOf_of_get? found] at held
    obtain ⟨_, _, _, _, _, _, rfl⟩ := (Account.release_ok_iff ..).mp released
    rw [if_pos rfl, Table.get?_erase, if_neg fun named => other ⟨rfl, named⟩]
    exact held
  · rw [if_neg same]
    exact held

end

section

variable {scale : Nat} {loan other : LoanId} {lien : TransactionId} {id : AccountId} {amount : Decimal}
  {standing reached : Standing} {before after : Ledger}

theorem Spared.unmoved (spared : Spared loan other lien id amount standing before) (links : after.links = before.links)
    (liens : ∀ any, after.lienOf any = before.lienOf any) (held : after.holdOf id lien = some amount)
    (closed : reached ≠ .closed → standing ≠ .closed)
    (placed : ∀ hold, reached.hold = some hold → hold.transaction ≠ lien) :
    Spared loan other lien id amount reached after where
  pledge := (liens other).trans spared.pledge
  linked := links ▸ spared.linked
  held := held
  apart early := by
    rw [links, liens]
    exact spared.apart (closed early)
  placed := placed

theorem Spared.recorded (spared : Spared loan other lien id amount standing before) (different : other ≠ loan)
    (record : Loan) (new : Option TransactionId) :
    Spared loan other lien id amount .closed (before.pledged loan record new) where
  pledge := by
    rw [pledged, lienOf_insert, if_neg different]
    exact spared.pledge
  linked := spared.linked
  held := spared.held
  apart := absurd rfl
  placed := nofun

theorem Deed.spares (deed : Deed scale loan standing before reached after) (different : other ≠ loan)
    (inOrder : before.InOrder) (spared : Spared loan other lien id amount standing before) :
    Spared loan other lien id amount reached after := by
  have links := deed.links
  have placed := spared.placed
  cases deed with
  | number => exact spared.unmoved links (fun _ => rfl) spared.held (fun early => early) placed
  | collect payment linked found withdrawn listed due =>
    exact spared.unmoved links (fun _ => rfl) ((holdOf_withdraw rfl found withdrawn ..).trans spared.held) nofun nofun
  | exempt due => exact spared.unmoved links (fun _ => rfl) spared.held nofun nofun
  | hold linked found held due =>
    obtain ⟨account, known, listed⟩ := Option.bind_eq_some_iff.mp spared.held
    have issued := inOrder.issued id account lien amount known listed
    refine spared.unmoved links (fun _ => rfl) (holdOf_hold rfl found inOrder held spared.held) nofun ?_
    intro booking is
    cases is
    exact (Nat.lt_succ_of_le issued).ne'
  | giveBack linked found released =>
    refine spared.unmoved links (fun _ => rfl) ?_ nofun nofun
    exact holdOf_release rfl found released (fun ⟨_, same⟩ => placed _ rfl same.symm) spared.held
  | strand linked stays => exact spared.unmoved links (fun _ => rfl) spared.held nofun nofun
  | payUnlinked unlinked disbursal =>
    cases disbursal with
    | paid sum date payment known ready =>
      exact spared.unmoved links (lienOf_passed known _ _) spared.held nofun nofun
  | pay disbursal =>
    cases disbursal with
    | paid sum date payment known ready =>
      exact spared.unmoved links (lienOf_passed known _ _) spared.held nofun placed
  | turnDown rejected => exact spared.unmoved links (fun _ => rfl) spared.held nofun nofun
  | mark listed => exact spared.unmoved links (fun _ => rfl) spared.held nofun placed
  | free known pledge linked found released =>
    refine spared.unmoved links (fun _ => rfl) ?_ nofun placed
    refine holdOf_release rfl found released ?_ spared.held
    rintro ⟨rfl, rfl⟩
    exact spared.apart nofun linked ((lienOf_of_get? known).trans pledge)
  | missing known pledge linked gone => exact spared.unmoved links (fun _ => rfl) spared.held nofun placed
  | keep known pledge failing => exact spared.unmoved links (fun _ => rfl) spared.held (absurd rfl) nofun
  | exchange known => exact spared.recorded different _ _
  | pledge known unpledged => exact spared.recorded different _ _
  | close nothing => exact spared.unmoved links (fun _ => rfl) spared.held (absurd rfl) nofun

theorem Filing.spares (filing : Filing loan before after) (spared : Spared loan other lien id amount .begun before) :
    Spared loan other lien id amount .begun after := by
  have links : after.links = before.links := Path.links (.single filing.move)
  cases filing with
  | note text => exact spared.unmoved links (fun _ => rfl) spared.held nofun nofun
  | pass known passage => exact spared.unmoved links (lienOf_passed known _ _) spared.held nofun nofun

theorem Conduct.spares (conduct : Conduct scale loan before standing after) (different : other ≠ loan)
    (inOrder : before.InOrder) (spared : Spared loan other lien id amount .begun before) :
    Spared loan other lien id amount standing after :=
  conduct.keeps (Spared loan other lien id amount) Filing.spares (fun deed => deed.spares different) inOrder spared

end

end Countersign.Ledger

namespace Countersign

open Ledger (Spared)

namespace Desk

/-- A command in which all sums fit leaves the lien of every loan that it is not about, where it
is done and where it fails: what was recorded is recorded, and on hold on the account for the
same amount. The loan that it is about may be on that account, too, as long as it does not
record the same number. -/
theorem command_spares_lien {settings : Settings} {desk : Desk} (reachable : Reachable settings desk) {now : Timestamp}
    {command : Command} (fits : desk.overflows settings (.command now command) = false) {other : LoanId}
    {lien : TransactionId} {id : AccountId} {amount : Decimal} (elsewhere : command.loan? ≠ some other)
    (pledge : desk.ledger.lienOf other = some lien) (linked : desk.ledger.links.get? other = some id)
    (held : desk.ledger.holdOf id lien = some amount)
    (apart : ∀ loan, command.loan? = some loan → desk.ledger.links.get? loan = some id →
      desk.ledger.lienOf loan ≠ some lien) :
    let after := desk.after settings (.command now command)
    after.ledger.lienOf other = some lien ∧ after.ledger.links.get? other = some id ∧
      after.ledger.holdOf id lien = some amount := by
  intro after
  have orderly := reachable.orderly
  cases about : command.loan? with
  | none =>
    have idle : after.ledger = desk.ledger := scan_ledger settings now orderly about
    rw [idle]
    exact ⟨pledge, linked, held⟩
  | some loan =>
    have different : other ≠ loan := by
      rintro rfl
      exact elsewhere about
    have begun : Spared loan other lien id amount .begun desk.ledger :=
      ⟨pledge, linked, held, fun _ => apart loan about, nofun⟩
    have ended : ∃ standing, Spared loan other lien id amount standing after.ledger := by
      rcases command_conducts_on orderly about fits with ⟨_, _, conduct⟩ | ⟨_, _, _, conduct⟩
      · exact ⟨_, conduct.spares different orderly.ledger begun⟩
      · exact ⟨_, conduct.spares different orderly.ledger begun⟩
    obtain ⟨_, spared⟩ := ended
    exact ⟨spared.pledge, spared.linked, spared.held⟩

end Desk

/-- Two loans on one account. The second has a lien placed for it; of the first it is given which
lien it records, and which one is placed. -/
def Setup.sharing (recorded : Option TransactionId) (placed : Option Decimal) : Setup :=
  { sample with
    products := [⟨1, [⟨0, 1, .unbounded⟩]⟩]
    approvers := [⟨1, [1], true⟩]
    loans := sample.loans.flatMap fun entry =>
      [⟨{ entry.loan with lien := recorded }, [], entry.savings.map fun savings => { savings with lien := placed }⟩,
        ⟨{ entry.loan with id := 2 }, [], entry.savings⟩] }

namespace Desk

def sharing (recorded : Option TransactionId) (placed : Option Decimal) : Desk :=
  match (Setup.sharing recorded placed).install .empty with
  | .ok _ desk => desk
  | .error _ desk => desk

/-- With a lien for each, the rejection of the first loan leaves that of the second. -/
theorem sharing_lien_spared :
    let start := sharing none (some (.whole 3 (by decide)))
    let desk := start.run .standard [.command .epoch (.build 1)]
    let after := desk.after .standard (.command .epoch (.reject 1 1 ""))
    desk.ledger.lienOf 1 = some 1 ∧ after.ledger.lienOf 1 = none ∧ after.ledger.lienOf 2 = some 2 ∧
      after.ledger.links.get? 2 = some 7 ∧ after.ledger.holdOf 7 2 = some (.whole 5 (by decide)) := by
  intro start desk after
  have installed : (Setup.sharing none (some (.whole 3 (by decide)))).install .empty = .ok () start := rfl
  have reachable : Reachable .standard desk := ⟨_, start, _, rfl, installed, rfl⟩
  have apart (loan : LoanId) (is : (Command.reject 1 1 "").loan? = some loan) (_ : desk.ledger.links.get? loan = some 7) :
      desk.ledger.lienOf loan ≠ some 2 := by
    cases is
    decide +kernel
  have fits : desk.overflows .standard (.command .epoch (.reject 1 1 "")) = false := by decide +kernel
  have elsewhere : (Command.reject 1 1 "").loan? ≠ some 2 := by decide
  have pledge : desk.ledger.lienOf 2 = some 2 := by decide +kernel
  have linked : desk.ledger.links.get? 2 = some 7 := by decide +kernel
  have held : desk.ledger.holdOf 7 2 = some (.whole 5 (by decide)) := by decide +kernel
  have spared := command_spares_lien reachable fits elsewhere pledge linked held apart
  dsimp only [after] at spared ⊢
  exact ⟨by decide +kernel, by decide +kernel, spared⟩

/-- Where the first loan comes with the number of the lien that is then placed for the second, its
rejection frees the money of the second, which still records its lien. -/
theorem sharing_lien_lost :
    let start := sharing (some 1) none
    let desk := start.run .standard [.command .epoch (.build 1)]
    let reject := .command .epoch (.reject 1 1 "")
    let after := desk.after .standard reject
    (Setup.sharing (some 1) none).install .empty = .ok () start ∧
      start.calm .standard [.command .epoch (.build 1), reject] = true ∧ desk.fails .standard reject = false ∧
      desk.ledger.lienOf 2 = some 1 ∧ desk.ledger.links.get? 2 = some 7 ∧
      desk.ledger.holdOf 7 1 = some (.whole 5 (by decide)) ∧
      after.ledger.lienOf 2 = some 1 ∧ after.ledger.holdOf 7 1 = none :=
  ⟨rfl, by decide +kernel, by decide +kernel, by decide +kernel, by decide +kernel, by decide +kernel,
    by decide +kernel, by decide +kernel⟩

end Desk

end Countersign
