import Countersign.Proofs.FeeCollection

/-!
The bookings of the ledger. Whatever changes an account is a hold, a withdrawal or a release, and
is booked one at a time; what the workflow books has its entry in the journal. So the entries
tell how the accounts came about, and can be gone through once more to see whether any digit
was dropped on the way.
-/

namespace Countersign

inductive Account.Change where
  | hold (transaction : TransactionId) (amount : Decimal)
  | withdraw (amount : Decimal)
  | release (transaction : TransactionId)
deriving DecidableEq

namespace Account

instance (available held : Int) (before after : Account) : Decidable (Shifts available held before after) :=
  inferInstanceAs (Decidable (_ ∧ _))

def pledged (account : Account) : Int := (account.holds.values.map Decimal.units).sum

namespace Change

def apply (account : Account) : Change → Except Ledger.Stop Account
  | .hold transaction amount => account.hold transaction amount
  | .withdraw amount => account.withdraw amount
  | .release transaction => account.release transaction

def spends : Change → Int
  | .withdraw amount => amount.units
  | _ => 0

/-- What it puts on hold; a release takes off what the hold has. -/
def pledges (account : Account) : Change → Int
  | .hold _ amount => amount.units
  | .withdraw _ => 0
  | .release transaction => -((account.holds.get? transaction).map Decimal.units).getD 0

/-- No digit is dropped. -/
def Exact (change : Change) (before after : Account) : Prop :=
  before.Shifts (-change.spends - change.pledges before) (change.pledges before) after

instance (change : Change) (before after : Account) : Decidable (change.Exact before after) :=
  inferInstanceAs (Decidable (Shifts ..))

def Fresh (change : Change) (account : Account) : Prop :=
  ∀ transaction amount, change = .hold transaction amount → account.holds.get? transaction = none

variable {change : Change} {account changed : Account}

theorem pledged_apply (applied : change.apply account = .ok changed) (fresh : change.Fresh account) :
    changed.pledged = account.pledged + change.pledges account := by
  unfold pledged
  cases change with
  | hold transaction amount =>
    obtain ⟨_, _, _, _, _, rfl⟩ := (hold_ok_iff ..).mp applied
    have listed := Table.values_insert_perm amount (fresh transaction amount rfl)
    rw [(listed.map _).sum_eq, List.map_cons, List.sum_cons, Int.add_comm]
    rfl
  | withdraw amount =>
    obtain ⟨_, _, _, rfl⟩ := (withdraw_ok_iff ..).mp applied
    exact (Int.add_zero _).symm
  | release transaction =>
    obtain ⟨amount, found, _, _, _, _, rfl⟩ := (release_ok_iff ..).mp applied
    have listed := Table.values_erase_perm found
    rw [(listed.map _).sum_eq, List.map_cons, List.sum_cons, pledges, found]
    simp only [Option.map_some, Option.getD_some]
    omega

theorem holds_apply (applied : change.apply account = .ok changed) (fresh : change.Fresh account)
    {transaction : TransactionId} {amount : Decimal} (held : account.holds.get? transaction = some amount) :
    changed.holds.get? transaction = some amount ∨ change = .release transaction := by
  cases change with
  | hold new sum =>
    obtain ⟨_, _, _, _, _, rfl⟩ := (hold_ok_iff ..).mp applied
    refine Or.inl ?_
    rw [Table.get?_insert, if_neg, held]
    rintro rfl
    cases held.symm.trans (fresh transaction sum rfl)
  | withdraw sum =>
    obtain ⟨_, _, _, rfl⟩ := (withdraw_ok_iff ..).mp applied
    exact Or.inl held
  | release gone =>
    obtain ⟨_, _, _, _, _, _, rfl⟩ := (release_ok_iff ..).mp applied
    by_cases same : transaction = gone
    · exact Or.inr (same ▸ rfl)
    · refine Or.inl ?_
      rw [Table.get?_erase, if_neg same, held]

theorem held_apply (applied : change.apply account = .ok changed) {transaction : TransactionId} {amount : Decimal}
    (held : changed.holds.get? transaction = some amount) :
    account.holds.get? transaction = some amount ∨ change = .hold transaction amount := by
  cases change with
  | hold new sum =>
    obtain ⟨_, _, _, _, _, rfl⟩ := (hold_ok_iff ..).mp applied
    rw [Table.get?_insert] at held
    by_cases same : transaction = new
    · rw [if_pos same] at held
      cases held
      exact Or.inr (same ▸ rfl)
    · rw [if_neg same] at held
      exact Or.inl held
  | withdraw sum =>
    obtain ⟨_, _, _, rfl⟩ := (withdraw_ok_iff ..).mp applied
    exact Or.inl held
  | release gone =>
    obtain ⟨_, _, _, _, _, _, rfl⟩ := (release_ok_iff ..).mp applied
    rw [Table.get?_erase] at held
    by_cases same : transaction = gone
    · rw [if_pos same] at held
      cases held
    · rw [if_neg same] at held
      exact Or.inl held

end Change

end Account

abbrev AccountBooking := AccountId × Account.Change

def JournalEntry.booking? : JournalEntry → Option AccountBooking
  | .hold account _ amount transaction => some (account, .hold transaction amount)
  | .release account transaction => some (account, .release transaction)
  | .withdraw account amount _ _ => some (account, .withdraw amount)
  | _ => none

def JournalEntry.number? : JournalEntry → Option TransactionId
  | .hold _ _ _ transaction => some transaction
  | .withdraw _ _ _ transaction => some transaction
  | _ => none

namespace Ledger

def spentOn (id : AccountId) (bookings : List AccountBooking) : Int :=
  (bookings.map fun booking => if booking.1 = id then booking.2.spends else 0).sum

theorem sum_withdrawn (id : AccountId) (entries : List JournalEntry) :
    (entries.map (·.withdrawn id)).sum = spentOn id (entries.filterMap JournalEntry.booking?) := by
  unfold spentOn
  induction entries with
  | nil => rfl
  | cons entry rest ih =>
    have quiet (none : entry.booking? = none) : entry.withdrawn id = 0 := by cases entry <;> first | rfl | cases none
    rw [List.map_cons, List.sum_cons, ih]
    cases is : entry.booking? with
    | none => rw [List.filterMap_cons_none is, quiet is, Int.zero_add]
    | some booking =>
      rw [List.filterMap_cons_some is, List.map_cons, List.sum_cons]
      congr 1
      cases entry <;> cases is <;> simp [JournalEntry.withdrawn, Account.Change.spends]

/-- The accounts after a booking, if no digit was dropped and every sum fits. What the account
refuses is not booked. -/
def bookExactly (accounts : Table Account) (booking : AccountBooking) : Option (Table Account) :=
  match accounts.get? booking.1 with
  | none => some accounts
  | some account =>
    match booking.2.apply account with
    | .ok changed => if booking.2.Exact account changed then some (accounts.insert booking.1 changed) else none
    | .error (.refused _) => some accounts
    | .error (.overflow _) => none

/-- The accounts go through these bookings, one after another; and where it is said that nothing
is lost, no digit is dropped. A hold gets a number that was not given out before. -/
inductive Booked (lossless : Prop) (start : Ledger) : List AccountBooking → Ledger → Prop where
  | nothing : Booked lossless start [] start
  | aside {bookings : List AccountBooking} {between after : Ledger} (earlier : Booked lossless start bookings between)
      (accounts : after.accounts = between.accounts) (later : between.lastTransaction ≤ after.lastTransaction) :
      Booked lossless start bookings after
  | book {bookings : List AccountBooking} {between after : Ledger} {id : AccountId} {account changed : Account}
      {change : Account.Change} (earlier : Booked lossless start bookings between)
      (found : between.accounts.get? id = some account) (applied : change.apply account = .ok changed)
      (exactly : lossless → change.Exact account changed) (accounts : after.accounts = between.accounts.insert id changed)
      (later : between.lastTransaction ≤ after.lastTransaction)
      (fresh : ∀ transaction amount, change = .hold transaction amount →
        between.lastTransaction < transaction ∧ transaction ≤ after.lastTransaction) :
      Booked lossless start (bookings ++ [(id, change)]) after

/-- All holds have numbers that were given out. -/
def Issued (ledger : Ledger) : Prop :=
  ∀ id account transaction amount, ledger.accounts.get? id = some account →
    account.holds.get? transaction = some amount → transaction ≤ ledger.lastTransaction

namespace Booked

variable {lossless : Prop} {start middle after : Ledger} {bookings more : List AccountBooking}

theorem trans (first : Booked lossless start bookings middle) (rest : Booked lossless middle more after) :
    Booked lossless start (bookings ++ more) after := by
  induction rest with
  | nothing => rwa [List.append_nil]
  | aside _ accounts later ih => exact .aside ih accounts later
  | book _ found applied exactly accounts later fresh ih =>
    rw [← List.append_assoc]
    exact .book ih found applied exactly accounts later fresh

theorem issued (booked : Booked lossless start bookings after) (issued : start.Issued) : after.Issued := by
  induction booked with
  | nothing => exact issued
  | aside _ accounts later ih =>
    intro id account transaction amount found held
    rw [accounts] at found
    exact Nat.le_trans (ih id account transaction amount found held) later
  | @book _ between after id account changed change _ found applied _ accounts later fresh ih =>
    intro other known transaction amount is held
    rw [accounts, Table.get?_insert] at is
    by_cases same : other = id
    · rw [if_pos same] at is
      cases is
      rcases Account.Change.held_apply applied held with old | placed
      · exact Nat.le_trans (ih id account transaction amount found old) later
      · exact (fresh transaction amount placed).2
    · rw [if_neg same] at is
      exact Nat.le_trans (ih other known transaction amount is held) later

theorem known (booked : Booked lossless start bookings after) (id : AccountId) :
    (after.accounts.get? id).isSome = (start.accounts.get? id).isSome := by
  induction booked with
  | nothing => rfl
  | aside _ accounts _ ih => rw [accounts, ih]
  | book _ found _ _ accounts _ _ ih =>
    rw [← ih, accounts, Table.get?_insert]
    split
    next same => rw [same, found]; rfl
    next => rfl

theorem fresh_of_issued {ledger later : Ledger} (issued : ledger.Issued) {id : AccountId} {account : Account}
    {change : Account.Change} (found : ledger.accounts.get? id = some account)
    (above : ∀ transaction amount, change = .hold transaction amount →
      ledger.lastTransaction < transaction ∧ transaction ≤ later.lastTransaction) : change.Fresh account := by
  intro transaction amount is
  by_contra held
  obtain ⟨sum, there⟩ := Option.ne_none_iff_exists'.mp held
  have low := issued id account transaction sum found there
  exact Nat.not_lt_of_le low (above transaction amount is).1

theorem holds_stay (booked : Booked lossless start bookings after) (issued : start.Issued) {id : AccountId}
    {transaction : TransactionId} {amount : Decimal} (held : start.holdOf id transaction = some amount) :
    after.holdOf id transaction = some amount ∨ (id, .release transaction) ∈ bookings := by
  induction booked with
  | nothing => exact Or.inl held
  | @aside _ between after _ accounts _ ih =>
    have same : after.holdOf id transaction = between.holdOf id transaction := by
      unfold holdOf account?
      rw [accounts]
    exact same ▸ ih
  | @book bookings between after there account changed change earlier found applied _ accounts _ above ih =>
    rcases ih with held | released
    · have fresh := fresh_of_issued (earlier.issued issued) found above
      rw [holdOf_insert accounts]
      by_cases same : id = there
      · subst same
        rw [holdOf, account?, found, Option.bind_some] at held
        rw [if_pos rfl]
        rcases Account.Change.holds_apply applied fresh held with stays | is
        · exact Or.inl stays
        · exact Or.inr (List.mem_append_right _ (List.mem_singleton.mpr (is ▸ rfl)))
      · rw [if_neg same]
        exact Or.inl held
    · exact Or.inr (List.mem_append_left _ released)

theorem of_bookExactly (booked : Booked lossless start bookings after) {accounts : Table Account}
    (replayed : bookings.foldlM bookExactly start.accounts = some accounts) :
    accounts = after.accounts ∧ Booked True start bookings after := by
  induction booked generalizing accounts with
  | nothing => exact ⟨(Option.some_inj.mp replayed).symm, .nothing⟩
  | aside _ same later ih =>
    obtain ⟨rfl, exactly⟩ := ih replayed
    exact ⟨same.symm, .aside exactly same later⟩
  | book earlier found applied _ same later fresh ih =>
    rw [List.foldlM_append] at replayed
    obtain ⟨between, first, last⟩ := Option.bind_eq_some_iff.mp replayed
    obtain ⟨rfl, exactly⟩ := ih first
    rw [List.foldlM_cons] at last
    obtain ⟨_, booking, rest⟩ := Option.bind_eq_some_iff.mp last
    cases rest
    unfold bookExactly at booking
    simp only [found, applied] at booking
    split at booking
    next lost =>
      cases booking
      exact ⟨same.symm, .book exactly found applied (fun _ => lost) same later fresh⟩
    next => cases booking

end Booked

structure Issues (before : Ledger) (numbers : List TransactionId) (after : Ledger) : Prop where
  later : before.lastTransaction ≤ after.lastTransaction
  within : ∀ number ∈ numbers, before.lastTransaction < number ∧ number ≤ after.lastTransaction
  ascending : numbers.Pairwise (· < ·)

theorem Issues.trans {before middle after : Ledger} {numbers more : List TransactionId}
    (first : Issues before numbers middle) (rest : Issues middle more after) : Issues before (numbers ++ more) after where
  later := Nat.le_trans first.later rest.later
  within number mem := by
    rcases List.mem_append.mp mem with mem | mem
    · obtain ⟨above, below⟩ := first.within number mem
      exact ⟨above, Nat.le_trans below rest.later⟩
    · obtain ⟨above, below⟩ := rest.within number mem
      exact ⟨Nat.lt_of_le_of_lt first.later above, below⟩
  ascending := by
    refine List.pairwise_append.mpr ⟨first.ascending, rest.ascending, fun early memEarly late memLate => ?_⟩
    exact Nat.lt_of_le_of_lt (first.within early memEarly).2 (rest.within late memLate).1

/-- The journal goes on by these entries, which tell all that happens to the accounts and which
numbers are given out. -/
structure Records (before : Ledger) (entries : List JournalEntry) (after : Ledger) : Prop where
  journal : after.journal = before.journal ++ entries
  booked : Booked False before (entries.filterMap JournalEntry.booking?) after
  issues : Issues before (entries.filterMap JournalEntry.number?) after
  /-- What is put on hold is a positive amount. -/
  positive : ∀ id transaction amount, (id, .hold transaction amount) ∈ entries.filterMap JournalEntry.booking? →
    0 < amount.units

namespace Records

variable {before middle after : Ledger} {entries more : List JournalEntry} {entry : JournalEntry}

theorem trans (first : Records before entries middle) (rest : Records middle more after) :
    Records before (entries ++ more) after where
  journal := by rw [rest.journal, first.journal, List.append_assoc]
  booked := by
    rw [List.filterMap_append]
    exact first.booked.trans rest.booked
  issues := by
    rw [List.filterMap_append]
    exact first.issues.trans rest.issues
  positive id transaction amount mem := by
    rw [List.filterMap_append] at mem
    exact (List.mem_append.mp mem).elim (first.positive id transaction amount) (rest.positive id transaction amount)

theorem silent (accounts : after.accounts = before.accounts) (journal : after.journal = before.journal)
    (later : before.lastTransaction ≤ after.lastTransaction) : Records before [] after where
  journal := journal.trans (List.append_nil _).symm
  booked := .aside .nothing accounts later
  issues := ⟨later, nofun, .nil⟩
  positive := nofun

theorem refl (ledger : Ledger) : Records ledger [] ledger := silent rfl rfl (Nat.le_refl _)

theorem quiet (journal : after.journal = before.journal ++ [entry]) (unbooked : entry.booking? = none)
    (unnumbered : entry.number? = none) (accounts : after.accounts = before.accounts)
    (same : after.lastTransaction = before.lastTransaction) : Records before [entry] after where
  journal := journal
  booked := by
    rw [List.filterMap_cons_none unbooked]
    exact .aside .nothing accounts (Nat.le_of_eq same.symm)
  issues := by
    rw [List.filterMap_cons_none unnumbered]
    exact ⟨Nat.le_of_eq same.symm, nofun, .nil⟩
  positive := by
    rw [List.filterMap_cons_none unbooked]
    exact nofun

variable {id : AccountId} {account changed : Account} (found : before.accounts.get? id = some account)
include found

theorem hold {loan : Option LoanId} {amount : Amount}
    (held : account.hold (before.lastTransaction + 1) amount.value = .ok changed) :
    let entry := .hold id loan amount.value (before.lastTransaction + 1)
    Records before [entry] (before.numbered.moved id changed entry) where
  journal := rfl
  booked := by
    refine .book .nothing found held False.elim rfl (Nat.le_succ _) fun _ _ is => ?_
    cases is
    exact ⟨Nat.lt_succ_self _, Nat.le_refl _⟩
  issues := by
    refine ⟨Nat.le_succ _, fun number mem => ?_, List.pairwise_singleton ..⟩
    cases List.mem_singleton.mp mem
    exact ⟨Nat.lt_succ_self _, Nat.le_refl _⟩
  positive _ _ _ mem := by
    cases List.mem_singleton.mp mem
    exact amount.positive

theorem withdraw {amount : Decimal} {payment : PaymentTypeId} (withdrawn : account.withdraw amount = .ok changed) :
    let entry := .withdraw id amount payment (before.lastTransaction + 1)
    Records before [entry] (before.numbered.moved id changed entry) where
  journal := rfl
  booked := .book .nothing found withdrawn False.elim rfl (Nat.le_succ _) nofun
  issues := by
    refine ⟨Nat.le_succ _, fun number mem => ?_, List.pairwise_singleton ..⟩
    cases List.mem_singleton.mp mem
    exact ⟨Nat.lt_succ_self _, Nat.le_refl _⟩
  positive _ _ _ mem := by cases List.mem_singleton.mp mem

theorem release {transaction : TransactionId} (released : account.release transaction = .ok changed) :
    let entry := .release id transaction
    Records before [entry] (before.moved id changed entry) where
  journal := rfl
  booked := .book .nothing found released False.elim rfl (Nat.le_refl _) nofun
  issues := ⟨Nat.le_refl _, nofun, .nil⟩
  positive _ _ _ mem := by cases List.mem_singleton.mp mem

end Records

def Recorded (before after : Ledger) : Prop := ∃ entries, Records before entries after

namespace Recorded

variable {before middle after : Ledger}

theorem refl (ledger : Ledger) : Recorded ledger ledger := ⟨_, .refl ledger⟩

theorem trans (first : Recorded before middle) (rest : Recorded middle after) : Recorded before after := by
  obtain ⟨_, early⟩ := first
  obtain ⟨_, late⟩ := rest
  exact ⟨_, early.trans late⟩

end Recorded

variable {loan : LoanId} {before after : Ledger}

theorem Passage.quiet {status target : LoanStatus} {entry : JournalEntry} (passage : Passage loan status entry target) :
    entry.booking? = none ∧ entry.number? = none := by
  cases passage <;> exact ⟨rfl, rfl⟩

theorem Move.recorded (move : Move loan before after) : Recorded before after := by
  cases move with
  | note text => exact ⟨_, .quiet rfl rfl rfl rfl rfl⟩
  | pass found passage => exact ⟨_, .quiet rfl passage.quiet.1 passage.quiet.2 rfl rfl⟩
  | lien found lien => exact ⟨_, .silent rfl rfl (Nat.le_refl _)⟩
  | mark found ids => exact ⟨_, .silent rfl rfl (Nat.le_refl _)⟩
  | number => exact ⟨_, .silent rfl rfl (Nat.le_succ _)⟩
  | hold amount linked found held => exact ⟨_, .hold found held⟩
  | withdraw amount payment linked found withdrawn => exact ⟨_, .withdraw found withdrawn⟩
  | release linked found released => exact ⟨_, .release found released⟩

theorem Disbursal.recorded (disbursal : Disbursal loan before after) : Recorded before after := by
  cases disbursal with
  | paid amount date payment found ready => exact ⟨_, .quiet rfl rfl rfl rfl rfl⟩

theorem Course.recorded (course : Course loan before after) : Recorded before after :=
  course.keeps (Recorded before) (fun _ _ move earlier => earlier.trans move.recorded)
    (fun _ _ disbursal earlier => earlier.trans disbursal.recorded) (.refl before)

end Ledger

namespace Desk

open Ledger (Recorded Course)

variable {settings : Settings} {loan : LoanId} {before after desk : Desk}

theorem Effect.recorded (effect : Effect loan before after) : Recorded before.ledger after.ledger := by
  cases effect with
  | idle same => exact same ▸ .refl _
  | built built => exact built.ledger ▸ .refl _
  | moved decided heeds => exact (Course.unpaid decided.ledger).recorded
  | finished decided active => exact (Course.unpaid decided.ledger.path).recorded
  | paid decided => exact (Course.paid decided.ledger).recorded
  | rejected decided found refused freed => exact (Course.unpaid decided.ledger).recorded

theorem Turn.recorded (turn : Turn before after) : Recorded before.ledger after.ledger := by
  cases turn with
  | effect loan effect => exact effect.recorded
  | failed loan waiting through => exact (Course.unpaid through.ledger).recorded
  | switched failing same =>
    subst same
    exact ⟨_, .silent rfl rfl (Nat.le_refl _)⟩

/-- Whatever an event does to the accounts, the journal tells of it. -/
theorem after_recorded (orderly : desk.Orderly) (event : Event) :
    Recorded desk.ledger (desk.after settings event).ledger := by
  refine (run_keeps (fun later => Recorded desk.ledger later.ledger) ?_ ?_ [event] orderly (.refl _)).2
  · exact fun _ _ _ turn earlier => earlier.trans turn.recorded
  · exact fun _ _ _ ⟨_, through⟩ earlier => earlier.trans through.ledger.recorded

end Desk

end Countersign
