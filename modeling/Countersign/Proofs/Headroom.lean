import Countersign.Proofs.Processing
import Countersign.Proofs.Upkeep
import Mathlib.Algebra.BigOperators.Ring.List
import Mathlib.Algebra.Order.BigOperators.Group.List

/-!
Room for every sum. A decimal has so many digits, and a sum that takes more brings the program
down. But where all amounts are written with a few decimals, and where what is on an account at the
start could be added up, and what is due of a loan as well, no sum ever outgrows a decimal: money
goes from what is available to what is on hold and back again, or leaves the account, and charges
are settled but never grow.
-/

namespace Countersign

open Digits

namespace Decimal

/-- A value, in units, that takes no more than so many decimals. -/
def Short (places : Nat) (units : Int) : Prop := (tenPow (28 - places) : Int) ∣ units

instance (places : Nat) (units : Int) : Decidable (Short places units) :=
  inferInstanceAs (Decidable ((tenPow (28 - places) : Int) ∣ units))

/-- One past the largest value, in units, that can be written with so many decimals. -/
def room (places : Nat) : Nat := bound * tenPow (28 - places)

variable {places : Nat}

theorem Short.add {a b : Int} (first : Short places a) (second : Short places b) : Short places (a + b) :=
  Int.dvd_add first second

theorem Short.sub {a b : Int} (first : Short places a) (second : Short places b) : Short places (a - b) :=
  Int.dvd_sub first second

theorem Short.sum {units : List Int} (each : ∀ u ∈ units, Short places u) : Short places units.sum := List.dvd_sum each

theorem exists_of_room {units : Int} (short : Short places units) (fits : units.natAbs < room places) :
    ∃ d : Decimal, d.units = units := by
  obtain ⟨count, rfl⟩ := short
  have unit_pos := tenPow_pos (28 - places)
  have size_lt : count.natAbs < bound := by
    rw [Int.natAbs_mul, Int.natAbs_natCast, room, Nat.mul_comm] at fits
    exact Nat.lt_of_mul_lt_mul_right fits
  have scale_eq : 28 - min places 28 = 28 - places := by omega
  have written : (ofParts? (count < 0) count.natAbs (min places 28)).isSome :=
    ofParts?_isSome size_lt (Nat.min_le_right places 28)
  obtain ⟨d, is⟩ := Option.isSome_iff_exists.mp written
  obtain ⟨coefficient_eq, scale⟩ := ofParts?_eq_some is
  have signed : d.coefficient = count := by
    rw [coefficient_eq]
    by_cases negative : count < 0
    · rw [if_pos (decide_eq_true negative)]
      omega
    · rw [if_neg (by simpa using negative)]
      omega
  refine ⟨d, ?_⟩
  rw [units, scale, scale_eq, signed, Int.mul_comm]

theorem add_of_room {a b : Decimal} (first : Short places a.units) (second : Short places b.units)
    (fits : (a.units + b.units).natAbs < room places) : ∃ sum, a.add b = .ok sum ∧ sum.units = a.units + b.units := by
  obtain ⟨d, value⟩ := exists_of_room (first.add second) fits
  exact add_exact value

theorem sub_of_room {a b : Decimal} (first : Short places a.units) (second : Short places b.units)
    (fits : (a.units - b.units).natAbs < room places) :
    ∃ difference, a.sub b = .ok difference ∧ difference.units = a.units - b.units := by
  obtain ⟨d, value⟩ := exists_of_room (first.sub second) fits
  exact sub_exact value

theorem roundUnits_short {units : Int} (short : Short places units) (scale : Nat) :
    Short places (roundUnits scale units) := by
  unfold roundUnits
  rcases Nat.le_total places scale with fewer | more
  · have divides : tenPow (28 - scale) ∣ units.natAbs :=
      (Nat.pow_dvd_pow 10 (Nat.sub_le_sub_left fewer 28)).trans (Int.natCast_dvd.mp short)
    rw [Rounding.halfEven_of_dvd (tenPow_pos _) divides, Nat.div_mul_cancel divides, Int.sign_mul_natAbs]
    exact short
  · have divides : (tenPow (28 - places) : Int) ∣ tenPow (28 - scale) :=
      Int.natCast_dvd_natCast.mpr (Nat.pow_dvd_pow 10 (Nat.sub_le_sub_left more 28))
    rw [Nat.cast_mul]
    exact Dvd.dvd.mul_left (Dvd.dvd.mul_left divides _) _

theorem foldlM_of_room {amounts : List Decimal} (each : ∀ d ∈ amounts, Short places d.units ∧ 0 ≤ d.units)
    {start : Decimal} (short : Short places start.units) (nonneg : 0 ≤ start.units)
    (fits : start.units + (amounts.map units).sum < room places) :
    ∃ sum, amounts.foldlM add start = .ok sum ∧ sum.units = start.units + (amounts.map units).sum := by
  induction amounts generalizing start with
  | nil => exact ⟨start, rfl, (Int.add_zero _).symm⟩
  | cons d rest ih =>
    obtain ⟨⟨shortFirst, nonnegFirst⟩, later⟩ := List.forall_mem_cons.mp each
    have rest_nonneg : 0 ≤ (rest.map units).sum := by
      refine List.sum_nonneg fun u mem => ?_
      obtain ⟨_, listed, rfl⟩ := List.mem_map.mp mem
      exact (later _ listed).2
    rw [List.map_cons, List.sum_cons, ← Int.add_assoc] at fits ⊢
    obtain ⟨next, added, value⟩ := add_of_room short shortFirst (by omega)
    rw [← value] at fits ⊢
    rw [List.foldlM_cons, added]
    exact ih later (value ▸ short.add shortFirst) (by omega) fits

end Decimal

open Decimal (Short room)

namespace Charge

def Roomy (places : Nat) (charges : List Charge) : Prop :=
  (∀ charge ∈ charges, Short places charge.outstanding.units) ∧
    (charges.map (·.outstanding.units)).sum < room places

instance (places : Nat) (charges : List Charge) : Decidable (Roomy places charges) :=
  inferInstanceAs (Decidable (_ ∧ _))

variable {places : Nat} {charges : List Charge} {kind : ChargeKind}

theorem outstandingOf_pos {charge : Charge} (mem : charge ∈ outstandingOf charges kind) :
    0 < charge.outstanding.units := by
  have outstanding := (List.mem_filter.mp mem).2
  unfold isOutstanding at outstanding
  exact of_decide_eq_true (Bool.and_eq_true_iff.mp outstanding).2

theorem Roomy.total (roomy : Roomy places (outstandingOf charges kind)) (scale : Nat) :
    ∃ sum, total (outstandingOf charges kind) scale = .ok sum ∧ Short places sum.units := by
  have units_eq : ((outstandingOf charges kind).map (·.outstanding)).map Decimal.units =
      (outstandingOf charges kind).map (·.outstanding.units) := List.map_map
  have each : ∀ d ∈ (outstandingOf charges kind).map (·.outstanding), Short places d.units ∧ 0 ≤ d.units := by
    intro _ mem
    obtain ⟨charge, listed, rfl⟩ := List.mem_map.mp mem
    exact ⟨roomy.1 charge listed, Int.le_of_lt (outstandingOf_pos listed)⟩
  have fits : Decimal.zero.units + (((outstandingOf charges kind).map (·.outstanding)).map Decimal.units).sum <
      room places := by
    rw [units_eq, Decimal.units_zero, Int.zero_add]
    exact roomy.2
  obtain ⟨sum, summed, value⟩ := Decimal.foldlM_of_room each (Int.dvd_zero _) (Int.le_refl Decimal.zero.units) fits
  refine ⟨sum.round scale, ?_, ?_⟩
  · rw [Charge.total, Decimal.sum, summed]
    rfl
  · rw [Decimal.units_round, value, Decimal.units_zero, Int.zero_add]
    refine Decimal.roundUnits_short (Short.sum fun u mem => ?_) scale
    obtain ⟨d, listed, rfl⟩ := List.mem_map.mp mem
    exact (each d listed).1

theorem outstandingOf_marked (ids : List ChargeId) (charges : List Charge) (kind : ChargeKind) :
    (outstandingOf (Ledger.marked ids charges) kind).Sublist (outstandingOf charges kind) := by
  induction charges with
  | nil => exact .slnil
  | cons charge rest ih =>
    unfold outstandingOf Ledger.marked at ih ⊢
    rw [List.map_cons, List.filter_cons]
    by_cases paid : ids.contains charge.id = true
    · have settled : charge.settled.isOutstanding kind = false := by simp [isOutstanding, Charge.settled]
      rw [if_pos paid, settled]
      exact ih.trans ((List.sublist_cons_self _ _).filter _)
    · rw [if_neg paid, List.filter_cons]
      split
      · exact ih.cons_cons _
      · exact ih

theorem Roomy.sublist {fewer : List Charge} (roomy : Roomy places (outstandingOf charges kind))
    (sub : fewer.Sublist (outstandingOf charges kind)) : Roomy places fewer := by
  refine ⟨fun charge mem => roomy.1 charge (sub.subset mem), Int.lt_of_le_of_lt ?_ roomy.2⟩
  refine (sub.map (·.outstanding.units)).sum_le_sum fun u mem => ?_
  obtain ⟨charge, listed, rfl⟩ := List.mem_map.mp mem
  exact Int.le_of_lt (outstandingOf_pos listed)

end Charge

namespace Account

/-- What is there altogether, available or on hold, whatever its sign. -/
def extent (account : Account) : Nat :=
  account.available.units.natAbs + (account.holds.values.map (·.units.natAbs)).sum

/-- An account whose balances are never going to outgrow a decimal. -/
structure Roomy (places : Nat) (account : Account) : Prop where
  available : Short places account.available.units
  holds : ∀ amount ∈ account.holds.values, Short places amount.units
  held : account.held.units = account.pledged
  extent : account.extent < room places

instance (places : Nat) (account : Account) : Decidable (account.Roomy places) :=
  decidable_of_iff
    (Short places account.available.units ∧ (∀ amount ∈ account.holds.values, Short places amount.units) ∧
      account.held.units = account.pledged ∧ account.extent < room places)
    ⟨fun ⟨available, holds, held, extent⟩ => ⟨available, holds, held, extent⟩,
      fun ⟨available, holds, held, extent⟩ => ⟨available, holds, held, extent⟩⟩

theorem natAbs_pledged_le (account : Account) : account.pledged.natAbs ≤ (account.holds.values.map (·.units.natAbs)).sum := by
  have subadditive := List.le_sum_of_subadditive Int.natAbs (Nat.le_of_eq Int.natAbs_zero) Int.natAbs_add_le
    (account.holds.values.map Decimal.units)
  rwa [List.map_map] at subadditive

def Fits (leaves : Account → Prop) : Except Ledger.Stop Account → Prop
  | .ok changed => leaves changed
  | .error (.refused _) => True
  | .error (.overflow _) => False

namespace Roomy

variable {places : Nat} {account : Account} (roomy : account.Roomy places)
include roomy

theorem short_held : Short places account.held.units := by
  rw [roomy.held]
  refine Short.sum fun u mem => ?_
  obtain ⟨amount, listed, rfl⟩ := List.mem_map.mp mem
  exact roomy.holds amount listed

theorem withdraw {amount : Decimal} (short : Short places amount.units) (positive : 0 < amount.units) :
    Fits (Roomy places) (account.withdraw amount) := by
  have extent := roomy.extent
  unfold Account.extent at extent
  unfold Account.withdraw
  by_cases covered : amount ≤ account.available
  · have covers : amount.units ≤ account.available.units := covered
    obtain ⟨left, subtracted, value⟩ := Decimal.sub_of_room roomy.available short (by omega)
    rw [if_pos covered, subtracted]
    refine ⟨value ▸ roomy.available.sub short, roomy.holds, roomy.held, ?_⟩
    unfold Account.extent
    dsimp only
    omega
  · rw [if_neg covered]
    exact trivial

/-- A hold under a new number is made or refused, and leaves room: what it takes from what is available,
it puts on hold. -/
theorem hold (transaction : TransactionId) {amount : Decimal} (short : Short places amount.units)
    (positive : 0 < amount.units) :
    Fits (fun changed => account.holds.get? transaction = none → changed.Roomy places)
      (account.hold transaction amount) := by
  have extent := roomy.extent
  have pledged_le := natAbs_pledged_le account
  have held_eq := roomy.held
  unfold Account.extent at extent
  unfold Account.hold
  by_cases covered : amount ≤ account.available
  · have covers : amount.units ≤ account.available.units := covered
    obtain ⟨left, subtracted, leftValue⟩ := Decimal.sub_of_room roomy.available short (by omega)
    obtain ⟨more, added, moreValue⟩ := Decimal.add_of_room roomy.short_held short (by omega)
    rw [if_pos covered, subtracted, added]
    intro fresh
    have listed := Table.values_insert_perm amount fresh
    refine ⟨leftValue ▸ roomy.available.sub short, fun sum mem => ?_, ?_, ?_⟩
    · rcases List.mem_cons.mp (listed.mem_iff.mp mem) with rfl | mem
      · exact short
      · exact roomy.holds sum mem
    · unfold pledged
      rw [moreValue, (listed.map _).sum_eq, List.map_cons, List.sum_cons, held_eq, Int.add_comm]
      rfl
    · unfold Account.extent
      rw [(listed.map _).sum_eq, List.map_cons, List.sum_cons]
      dsimp only
      omega
  · rw [if_neg covered]
    exact trivial

theorem release (transaction : TransactionId) : Fits (Roomy places) (account.release transaction) := by
  unfold Account.release
  cases found : account.holds.get? transaction with
  | none => exact trivial
  | some amount =>
    have listed := Table.values_erase_perm found
    have short : Short places amount.units := roomy.holds amount (listed.mem_iff.mpr List.mem_cons_self)
    have extent := roomy.extent
    have held_eq := roomy.held
    have pledged_le := natAbs_pledged_le { account with holds := account.holds.erase transaction }
    unfold Account.extent at extent
    unfold pledged at held_eq pledged_le
    dsimp only at pledged_le
    rw [(listed.map _).sum_eq, List.map_cons, List.sum_cons] at extent held_eq
    obtain ⟨less, subtracted, lessValue⟩ := Decimal.sub_of_room roomy.short_held short (by omega)
    obtain ⟨more, added, moreValue⟩ := Decimal.add_of_room roomy.available short (by omega)
    dsimp only
    rw [subtracted, added]
    refine ⟨moreValue ▸ roomy.available.add short, fun sum mem => ?_, ?_, ?_⟩
    · exact roomy.holds sum (listed.mem_iff.mpr (List.mem_cons_of_mem _ mem))
    · unfold pledged
      dsimp only
      omega
    · unfold Account.extent
      dsimp only
      omega

end Roomy

end Account

namespace Ledger

/-- Books in which no sum is ever going to outgrow a decimal. -/
structure Roomy (places : Nat) (ledger : Ledger) : Prop where
  accounts : ∀ account ∈ ledger.accounts.values, account.Roomy places
  charges : ∀ charges ∈ ledger.charges.values, ∀ kind ∈ ChargeKind.all,
    Charge.Roomy places (Charge.outstandingOf charges kind)

instance (places : Nat) (ledger : Ledger) : Decidable (ledger.Roomy places) :=
  decidable_of_iff
    ((∀ account ∈ ledger.accounts.values, account.Roomy places) ∧
      ∀ charges ∈ ledger.charges.values, ∀ kind ∈ ChargeKind.all,
        Charge.Roomy places (Charge.outstandingOf charges kind))
    ⟨fun ⟨accounts, charges⟩ => ⟨accounts, charges⟩, fun ⟨accounts, charges⟩ => ⟨accounts, charges⟩⟩

namespace Roomy

variable {places : Nat} {ledger after : Ledger} (roomy : ledger.Roomy places)
include roomy

theorem account {id : AccountId} {account : Account} (found : ledger.accounts.get? id = some account) :
    account.Roomy places :=
  roomy.accounts account ((Table.mem_values_iff ..).mpr ⟨id, found⟩)

theorem insert_account (id : AccountId) {changed : Account} (still : changed.Roomy places) :
    ∀ account ∈ (ledger.accounts.insert id changed).values, account.Roomy places := by
  intro account mem
  obtain ⟨other, found⟩ := (Table.mem_values_iff ..).mp mem
  rw [Table.get?_insert] at found
  split at found
  next =>
    cases found
    exact still
  next => exact roomy.account found

theorem chargesOf (loan : LoanId) (kind : ChargeKind) :
    Charge.Roomy places (Charge.outstandingOf (ledger.chargesOf loan) kind) := by
  have listed : kind ∈ ChargeKind.all := by cases kind <;> decide
  unfold Ledger.chargesOf
  cases found : ledger.charges.get? loan with
  | none => exact ⟨List.forall_mem_nil _, Int.natCast_pos.mpr (Nat.mul_pos (by decide) (tenPow_pos _))⟩
  | some charges => exact roomy.charges charges ((Table.mem_values_iff ..).mpr ⟨loan, found⟩) kind listed

theorem mark (loan : LoanId) (ids : List ChargeId) {charges : List Charge}
    (found : ledger.charges.get? loan = some charges) : (ledger.withMarked loan ids charges).Roomy places where
  accounts := roomy.accounts
  charges marked mem kind listed := by
    obtain ⟨other, is⟩ := (Table.mem_values_iff ..).mp mem
    unfold withMarked at is
    rw [Table.get?_insert] at is
    split at is
    next =>
      cases is
      have before := roomy.charges charges ((Table.mem_values_iff ..).mpr ⟨loan, found⟩) kind listed
      exact before.sublist (Charge.outstandingOf_marked ids charges kind)
    next => exact roomy.charges marked ((Table.mem_values_iff ..).mpr ⟨other, is⟩) kind listed

end Roomy

/-- Every change of the books leaves room for the next, and no sum fails to fit. -/
theorem roomy_upkeep (places scale : Nat) :
    Upkeep scale (fun ledger => ledger.InOrder ∧ ledger.Roomy places) (fun amount => Short places amount.value.units)
      fun _ => False where
  inOrder _ kept := kept.1
  noted _ _ _ _ kept _ := ⟨⟨kept.1.keyed, kept.1.issued⟩, kept.2.accounts, kept.2.charges⟩
  passed _ _ _ _ _ kept found _ := ⟨⟨kept.1.amend found rfl, kept.1.issued⟩, kept.2.accounts, kept.2.charges⟩
  pledged _ _ _ _ kept found := ⟨⟨kept.1.amend found rfl, kept.1.issued⟩, kept.2.accounts, kept.2.charges⟩
  marked _ loan ids _ kept found := ⟨⟨kept.1.keyed, kept.1.issued⟩, kept.2.mark loan ids found⟩
  numbered _ kept := ⟨kept.1.numbered, kept.2.accounts, kept.2.charges⟩
  held ledger id account changed loan amount kept short found held := by
    have fits := (kept.2.account found).hold (ledger.lastTransaction + 1) short amount.positive
    rw [held] at fits
    exact ⟨(Called.held loan amount found held).inOrder kept.1, kept.2.insert_account id (fits (kept.1.fresh found)),
      kept.2.charges⟩
  withdrawn ledger id account changed payment amount kept short found withdrawn := by
    have fits := (kept.2.account found).withdraw short amount.positive
    rw [withdrawn] at fits
    exact ⟨(Called.withdrawn amount payment found withdrawn).inOrder kept.1, kept.2.insert_account id fits, kept.2.charges⟩
  released ledger id account changed transaction kept found released := by
    have fits := (kept.2.account found).release transaction
    rw [released] at fits
    exact ⟨(Called.released found released).inOrder kept.1, kept.2.insert_account id fits, kept.2.charges⟩
  holdSpills ledger id account transaction amount what kept short found overflows := by
    have fits := (kept.2.account found).hold transaction short amount.positive
    rwa [overflows] at fits
  withdrawSpills ledger id account amount what kept short found overflows := by
    have fits := (kept.2.account found).withdraw short amount.positive
    rwa [overflows] at fits
  releaseSpills ledger id account transaction what kept found overflows := by
    have fits := (kept.2.account found).release transaction
    rwa [overflows] at fits
  charged ledger loan kind kept := by
    obtain ⟨sum, summed, short⟩ := (kept.2.chargesOf loan kind).total scale
    rw [summed]
    intro amount is
    unfold Amount.of? at is
    split at is
    next =>
      cases is
      exact short
    next => cases is

end Ledger

namespace Desk

variable (settings : Settings) {places : Nat} {desk : Desk}

def Roomy (places : Nat) (desk : Desk) : Prop := desk.ledger.InOrder ∧ desk.ledger.Roomy places

theorem Roomy.perform (roomy : desk.Roomy places) (now : Timestamp) (command : Command) :
    Ends ((Desk.engine settings now).perform command) desk (fun _ after => after.Roomy places)
      fun stop after => (∃ error, stop = .failed error) ∧ after.Roomy places := by
  refine (perform_keeps (Ledger.roomy_upkeep places settings.moneyScale) roomy now command).imp
    (fun _ _ kept => kept) ?_
  rintro (error | what) after ⟨kept, spills⟩
  · exact ⟨⟨error, rfl⟩, kept⟩
  · exact (spills what rfl).elim

theorem Roomy.after (roomy : desk.Roomy places) (event : Event) :
    desk.overflows settings event = false ∧ (desk.after settings event).Roomy places := by
  cases event with
  | command now command =>
    have ended := roomy.perform settings now command
    change spills ((Desk.engine settings now).perform command desk) = false ∧
      (left ((Desk.engine settings now).perform command desk)).Roomy places
    cases ran : (Desk.engine settings now).perform command desk with
    | ok answer after => exact ⟨rfl, ended.of_ok ran⟩
    | error stop after =>
      obtain ⟨⟨error, rfl⟩, kept⟩ := ended.of_error ran
      exact ⟨rfl, kept⟩
  | failOn op => exact ⟨rfl, ⟨roomy.1.keyed, roomy.1.issued⟩, roomy.2.accounts, roomy.2.charges⟩
  | heal op => exact ⟨rfl, ⟨roomy.1.keyed, roomy.1.issued⟩, roomy.2.accounts, roomy.2.charges⟩

theorem Roomy.run (roomy : desk.Roomy places) (events : List Event) :
    desk.calm settings events = true ∧ (desk.run settings events).Roomy places := by
  induction events generalizing desk with
  | nil => exact ⟨rfl, roomy⟩
  | cons event rest ih =>
    obtain ⟨fits, kept⟩ := roomy.after settings event
    obtain ⟨calm, later⟩ := ih kept
    exact ⟨by rw [Desk.calm, fits, calm]; rfl, later⟩

/-- Where there is room in the books that a setup has filled, every command of every run ends with
an answer or with an error, and the program comes to the end of every file of commands and prints
the steps as they are then. -/
theorem roomy_books_never_overflow {setup : Setup} {start : Desk} (installed : setup.install .empty = .ok () start)
    {places : Nat} (roomy : start.ledger.Roomy places) :
    (∀ events now command,
      (∃ answer after, (Desk.engine setup.settings now).perform command (start.run setup.settings events) =
        .ok answer after) ∨
      ∃ error after, (Desk.engine setup.settings now).perform command (start.run setup.settings events) =
        .error (.failed error) after) ∧
    ∀ source warnings, ∃ told,
      let commands := Program.readable (Request.all source)
      Program.runCommands setup start source warnings =
        ⟨0, Program.printed (start.run setup.settings (Program.events commands)), warnings ++ told⟩ := by
  have opened : start.Roomy places := ⟨(setup.opens installed).ledger, roomy⟩
  constructor
  · intro events now command
    have ended := (opened.run setup.settings events).2.perform setup.settings now command
    cases ran : (Desk.engine setup.settings now).perform command (start.run setup.settings events) with
    | ok answer after => exact Or.inl ⟨answer, after, rfl⟩
    | error stop after =>
      obtain ⟨⟨error, rfl⟩, _⟩ := ended.of_error ran
      exact Or.inr ⟨error, after, rfl⟩
  · intro source warnings
    have calm := (opened.run setup.settings (Program.events (Program.readable (Request.all source)))).1
    exact ⟨_, Program.runCommands_of_calm calm warnings⟩

theorem sample_never_overflows :
    let approve (step : StepId) : Command := .approve 1 step "" none none
    let events := [.command .epoch (.build 1), .command .epoch (approve 1), .failOn .disburse]
    let source : Csv.Source := ⟨Utf8.encode "action,loan,step\nbuild,1\napprove,1,1\nbuild,9\napprove,1,2\n", false⟩
    let commands := [.build 1, approve 1, .build 9, approve 2]
    sample.ledger.Roomy 0 ∧
      ((∃ answer after, (Desk.engine .standard .epoch).perform (approve 2) (sample.run .standard events) =
        .ok answer after) ∨
      ∃ error after, (Desk.engine .standard .epoch).perform (approve 2) (sample.run .standard events) =
        .error (.failed error) after) ∧
      ∃ told, Program.runCommands .sample sample source [] =
        ⟨0, Program.printed (sample.run .standard (Program.events commands)), told⟩ := by
  intro approve events source commands
  have roomy : sample.ledger.Roomy 0 := by decide +kernel
  have read : Program.readable (Request.all source) = commands := by decide +kernel
  obtain ⟨performed, printed⟩ := roomy_books_never_overflow sample_installed roomy
  obtain ⟨told, printed⟩ := printed source []
  rw [read] at printed
  exact ⟨roomy, performed events .epoch (approve 2), told, printed⟩

end Desk

def Setup.weighty : Setup :=
  { sample with
    products := [⟨1, [⟨0, 1, .unbounded⟩]⟩]
    loans := sample.loans.map fun entry =>
      { entry with charges := [1, 2].map fun id =>
          ⟨id, .upfrontFee, .whole 50000000000000000000000000000 (by decide), false⟩ } }

def Desk.weighty : Desk :=
  match Setup.weighty.install .empty with
  | .ok _ desk => desk
  | .error _ desk => desk

/-- The approval that is to withdraw them ends with neither an answer nor an error, and the program
goes down with it: no step is printed, and the command that comes after is not carried out. -/
theorem Desk.weighty_fees_overflow :
    let desk := weighty.run .standard [.command .epoch (.build 1)]
    let source : Csv.Source := ⟨Utf8.encode "action,loan,step\nbuild,1\napprove,1,1\nbuild,9\n", false⟩
    Setup.weighty.install .empty = .ok () weighty ∧
      desk.overflows .standard (.command .epoch (.approve 1 1 "" none none)) = true ∧
      Program.runCommands .weighty weighty source [] = Program.crashed :=
  ⟨rfl, by decide +kernel, by decide +kernel⟩

end Countersign
