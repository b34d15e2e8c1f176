import Countersign.Proofs.Conservation
import Mathlib.Algebra.Order.BigOperators.Group.List

/-!
Savings accounts stay solvent. Money is withdrawn and put on hold only as far as it is available,
and what a release gives back was put on hold before; so where no account is opened with less
than nothing, and no lien is of a negative amount, nothing turns negative. What is on hold in
total is the sum of the holds as long as no digit is dropped, and then it is not negative either.
-/

namespace Countersign

namespace Account

/-- Neither what is available is negative nor any hold. -/
structure Solvent (account : Account) : Prop where
  available : 0 ≤ account.available.units
  holds : ∀ transaction amount, account.holds.get? transaction = some amount → 0 ≤ amount.units

theorem Solvent.apply {account changed : Account} {change : Change} (solvent : account.Solvent)
    (applied : change.apply account = .ok changed)
    (positive : ∀ transaction amount, change = .hold transaction amount → 0 ≤ amount.units) : changed.Solvent where
  available := by
    cases change with
    | hold transaction amount =>
      obtain ⟨covered, _, _, subtracted, _, rfl⟩ := (hold_ok_iff ..).mp applied
      exact Decimal.nonneg_of_sub subtracted covered
    | withdraw amount =>
      obtain ⟨covered, _, subtracted, rfl⟩ := (withdraw_ok_iff ..).mp applied
      exact Decimal.nonneg_of_sub subtracted covered
    | release transaction =>
      obtain ⟨amount, found, _, _, _, added, rfl⟩ := (release_ok_iff ..).mp applied
      exact Decimal.nonneg_of_add added (Int.add_nonneg solvent.available (solvent.holds transaction amount found))
  holds transaction amount held := by
    rcases Change.held_apply applied held with old | placed
    · exact solvent.holds transaction amount old
    · exact positive transaction amount placed

theorem Solvent.pledged {account : Account} (solvent : account.Solvent) : 0 ≤ account.pledged := by
  apply List.sum_nonneg
  intro units mem
  obtain ⟨amount, listed, rfl⟩ := List.mem_map.mp mem
  obtain ⟨transaction, held⟩ := (Table.mem_values_iff ..).mp listed
  exact solvent.holds transaction amount held

end Account

namespace Ledger

def Solvent (accounts : Table Account) : Prop := ∀ id account, accounts.get? id = some account → account.Solvent

theorem Solvent.insert {accounts : Table Account} (solvent : Solvent accounts) (id : AccountId) {changed : Account}
    (still : changed.Solvent) : Solvent (accounts.insert id changed) := by
  intro other account found
  rw [Table.get?_insert] at found
  split at found
  next =>
    cases found
    exact still
  next => exact solvent other account found

theorem Solvent.booked {lossless : Prop} {before after : Ledger} {bookings : List AccountBooking}
    (solvent : Solvent before.accounts) (booked : Booked lossless before bookings after)
    (positive : ∀ id transaction amount, (id, .hold transaction amount) ∈ bookings → 0 ≤ amount.units) :
    Solvent after.accounts := by
  induction booked with
  | nothing => exact solvent
  | aside _ accounts _ ih => exact accounts ▸ ih positive
  | @book bookings _ _ id account _ _ _ found applied _ accounts _ _ ih =>
    have earlier := ih fun id transaction amount mem => positive id transaction amount (List.mem_append_left _ mem)
    rw [accounts]
    refine earlier.insert id ((earlier id account found).apply applied fun transaction amount is => ?_)
    exact positive id transaction amount (List.mem_append_right _ (List.mem_singleton.mpr (is ▸ rfl)))

end Ledger

namespace Desk

open Ledger (Solvent)

variable {settings : Settings} {desk : Desk}

theorem act_unknown (orderly : desk.Orderly) (act : Act) {id : AccountId}
    (unknown : (desk.act settings act).ledger.accounts.get? id = none) :
    desk.ledger.accounts.get? id = none ∧ act.opens id = none := by
  have known : ((desk.act settings act).ledger.accounts.get? id).isSome = _ := act_known orderly act id
  rw [unknown, Option.isSome_none] at known
  obtain ⟨before, unopened⟩ := Bool.or_eq_false_iff.mp known.symm
  exact ⟨Option.isNone_iff_eq_none.mp (Option.isSome_eq_false_iff.mp before),
    Option.isNone_iff_eq_none.mp (Option.isSome_eq_false_iff.mp unopened)⟩

theorem act_solvent (orderly : desk.Orderly) (act : Act)
    (openings : ∀ id opening, desk.ledger.accounts.get? id = none → act.opens id = some opening → 0 ≤ opening.units)
    (liens : ∀ loan amount, act = .call (.placeLien loan amount) → 0 ≤ amount.units)
    (solvent : Solvent desk.ledger.accounts) : Solvent (desk.act settings act).ledger.accounts := by
  rcases act_carries orderly act with ⟨loan, id, available, rfl⟩ | ⟨booked, carries⟩
  · change Solvent (desk.ledger.link loan id available).accounts
    unfold Ledger.link
    dsimp only
    split
    next => exact solvent
    next unknown =>
      refine solvent.insert id ⟨?_, nofun⟩
      exact openings id available (Option.not_isSome_iff_eq_none.mp unknown) (if_pos rfl)
  · refine solvent.booked carries.books.booked fun id transaction amount mem => ?_
    rcases carries.positive id transaction amount mem with positive | ⟨loan, placed⟩
    · exact Int.le_of_lt positive
    · exact liens loan amount placed

theorem actAll_solvent (orderly : desk.Orderly) (acts : List Act)
    (openings : ∀ id opening, desk.ledger.accounts.get? id = none → Act.opening id acts = some opening → 0 ≤ opening.units)
    (liens : ∀ loan amount, .call (.placeLien loan amount) ∈ acts → 0 ≤ amount.units)
    (solvent : Solvent desk.ledger.accounts) : Solvent (desk.actAll settings acts).ledger.accounts := by
  induction acts generalizing desk with
  | nil => exact solvent
  | cons act rest ih =>
    refine ih (orderly.act act) ?_ (fun loan amount mem => liens loan amount (List.mem_cons_of_mem _ mem)) ?_
    · intro id opening unknown opens
      obtain ⟨before, unopened⟩ := act_unknown orderly act unknown
      refine openings id opening before ?_
      rw [Act.opening, List.findSome?_cons, unopened]
      exact opens
    · refine act_solvent orderly act ?_ (fun loan amount is => liens loan amount (is ▸ List.mem_cons_self)) solvent
      intro id opening unknown opens
      refine openings id opening unknown ?_
      rw [Act.opening, List.findSome?_cons, opens]

/-- From an installed setup on, whatever is done: as long as no account is opened with less than
nothing and no lien is of a negative amount, neither what is available on an account is negative
nor any hold; and unless a sum has dropped digits, what is on hold in total is not either. -/
theorem savings_solvent {setup : Setup} {start : Desk} (installed : setup.install .empty = .ok () start)
    (acts : List Act)
    (openings : ∀ id opening, Act.opening id (setup.acts ++ acts) = some opening → 0 ≤ opening.units)
    (liens : ∀ loan amount, .call (.placeLien loan amount) ∈ setup.acts ++ acts → 0 ≤ amount.units)
    (id : AccountId) (account : Account)
    (found : (start.actAll setup.settings acts).ledger.accounts.get? id = some account) :
    0 ≤ account.available.units ∧
      (∀ transaction amount, account.holds.get? transaction = some amount → 0 ≤ amount.units) ∧
      ((blank start.directory).lossless setup.settings (setup.acts ++ acts) = true → 0 ≤ account.held.units) := by
  have whole : start.actAll setup.settings acts =
      (blank start.directory).actAll setup.settings (setup.acts ++ acts) := by
    rw [actAll, actAll, List.foldl_append]
    exact congrArg (fun desk => actAll setup.settings desk acts) (setup.install_acts installed setup.settings)
  rw [whole] at found
  have unopened (id : AccountId) (account : Account)
      (found : (blank start.directory).ledger.accounts.get? id = some account) : account.Solvent := by cases found
  have solvent := actAll_solvent (blank_orderly start.directory) (setup.acts ++ acts)
    (fun id opening _ => openings id opening) liens unopened id account found
  refine ⟨solvent.available, solvent.holds, fun lossless => ?_⟩
  have conserved := (blank_conserves setup.settings start.directory (setup.acts ++ acts) lossless).2
  rw [conserved.held id account found]
  exact solvent.pledged

theorem sample_solvent :
    let approve (step : StepId) : Act := .event (.command .epoch (.approve 1 step "" none none))
    let acts := [.event (.command .epoch (.build 1)), approve 1, .event (.failOn .disburse), approve 2,
      .event (.heal .disburse), approve 2, .call (.withdraw ⟨.whole 465 (by decide), by decide⟩ 7 1),
      .call (.withdraw ⟨.whole 465 (by decide), by decide⟩ 7 1)]
    ∃ account, (sample.actAll .standard acts).ledger.accounts.get? 7 = some account ∧
      0 ≤ account.available.units ∧
      (∀ transaction amount, account.holds.get? transaction = some amount → 0 ≤ amount.units) ∧
      0 ≤ account.held.units := by
  intro approve acts
  have opened : ((sample.actAll .standard acts).ledger.accounts.get? 7).isSome = true := by decide +kernel
  obtain ⟨account, found⟩ := Option.isSome_iff_exists.mp opened
  have openings (id : AccountId) (opening : Decimal) (opens : Act.opening id (Setup.sample.acts ++ acts) = some opening) :
      0 ≤ opening.units := by
    by_cases own : 7 = id
    · subst own
      cases opens
      decide
    · have none : Act.opening id (Setup.sample.acts ++ acts) = none := by
        simp [Setup.acts, LoanSetup.acts, Setup.sample, acts, approve, Act.opening, Act.opens, own]
      cases none.symm.trans opens
  have liens (loan : LoanId) (amount : Decimal) (mem : .call (.placeLien loan amount) ∈ Setup.sample.acts ++ acts) :
      0 ≤ amount.units := by
    simp only [Setup.acts, Setup.sample, List.flatMap_cons, LoanSetup.acts, List.cons_append, List.nil_append,
      List.flatMap_nil, List.append_nil, List.mem_cons, Act.call.injEq, reduceCtorEq, Ledger.Call.placeLien.injEq,
      List.not_mem_nil, or_self, or_false, false_or, acts, approve] at mem
    rw [mem.2]
    decide
  obtain ⟨available, holds, held⟩ := savings_solvent sample_installed acts openings liens 7 account found
  exact ⟨account, found, available, holds, held (by decide +kernel)⟩

end Desk

def Setup.burdened (available : Decimal) (liens : List Decimal) : Setup :=
  { sample with
    products := [⟨1, [⟨0, 1, .unbounded⟩]⟩]
    approvers := [⟨1, [1], true⟩]
    loans := sample.loans.flatMap fun entry => liens.mapIdx fun index lien =>
      ⟨{ entry.loan with id := index + 1 }, [], some ⟨7, available, some lien⟩⟩ }

namespace Desk

def burdened (available : Decimal) (liens : List Decimal) : Desk :=
  match (Setup.burdened available liens).install .empty with
  | .ok _ desk => desk
  | .error _ desk => desk

/-- A lien of a negative amount is placed as any other: what is on hold is negative, and more is
available than the account was opened with. -/
theorem negative_lien_placed :
    let available := .whole 500 (by decide)
    let liens := [(Decimal.whole 5 (by decide)).neg]
    let desk := burdened available liens
    (Setup.burdened available liens).install .empty = .ok () desk ∧
      ∃ account, desk.ledger.accounts.get? 7 = some account ∧ account.held.units < 0 ∧
        account.available = .whole 505 (by decide) ∧
        ∃ amount, account.holds.get? 1 = some amount ∧ amount.units < 0 :=
  ⟨rfl, _, rfl, by decide +kernel, by decide +kernel, _, rfl, by decide +kernel⟩

/-- Where digits are dropped, giving back two liens leaves less than nothing on hold, although every
amount is positive. -/
theorem dropped_digits_held :
    let available := .whole 70000000000000000000000000000 (by decide)
    let small : Decimal := { Decimal.zero with size := 4, scale := 1, size_lt := by decide, scale_le := by decide }
    let liens := [.whole 50000000000000000000000000000 (by decide), small]
    let start := burdened available liens
    let desk := start.run .standard [.command .epoch (.build 1), .command .epoch (.build 2),
      .command .epoch (.reject 1 1 ""), .command .epoch (.reject 2 2 "")]
    (Setup.burdened available liens).install .empty = .ok () start ∧
      ∃ account, desk.ledger.accounts.get? 7 = some account ∧ account.holds = .empty ∧ account.held = small.neg :=
  ⟨rfl, _, rfl, by decide +kernel, by decide +kernel⟩

end Desk

end Countersign
