import Countersign.Proofs.DeskAct
import Countersign.Proofs.LienKeeping

/-!
Money on savings accounts is conserved. What an account has on hold is the sum of its holds, and
with what is available and what was withdrawn it comes to what the account was opened with, as
long as no sum has to drop a digit. The three views of an account are changed one by one; what
keeps them together is that each hold has a number of its own.
-/

namespace Countersign

namespace Account.Change

variable {change : Change} {account changed : Account}

theorem Exact.held (exactly : change.Exact account changed) (applied : change.apply account = .ok changed)
    (fresh : change.Fresh account) (held : account.held.units = account.pledged) :
    changed.held.units = changed.pledged := by
  rw [exactly.2, pledged_apply applied fresh, held]

theorem Exact.total (exactly : change.Exact account changed) :
    changed.available.units + changed.held.units + change.spends = account.available.units + account.held.units := by
  have available := exactly.1
  have held := exactly.2
  omega

end Account.Change

namespace Ledger

def Opened (opened : AccountId → Option Decimal) (accounts : Table Account) : Prop :=
  ∀ id, (accounts.get? id).isSome = (opened id).isSome

/-- The accounts have what they were opened with, but for what is spent. -/
structure Conserved (opened : AccountId → Option Decimal) (spent : AccountId → Int) (accounts : Table Account) :
    Prop where
  held : ∀ id account, accounts.get? id = some account → account.held.units = account.pledged
  total : ∀ id account opening, accounts.get? id = some account → opened id = some opening →
    account.available.units + account.held.units + spent id = opening.units
  unspent : ∀ id, accounts.get? id = none → spent id = 0

variable {opened : AccountId → Option Decimal} {spent : AccountId → Int} {before after : Ledger}
  {bookings : List AccountBooking}

theorem spentOn_append (id : AccountId) (first rest : List AccountBooking) :
    spentOn id (first ++ rest) = spentOn id first + spentOn id rest := by
  rw [spentOn, List.map_append, List.sum_append]
  rfl

theorem spentOn_single (other id : AccountId) (change : Account.Change) :
    spentOn other [(id, change)] = if id = other then change.spends else 0 :=
  Int.add_zero _

/-- Bookings that drop no digit conserve the money. -/
theorem Conserved.booked (conserved : Conserved opened spent before.accounts) (issued : before.Issued)
    (booked : Booked True before bookings after) :
    Conserved opened (fun id => spent id + spentOn id bookings) after.accounts := by
  induction booked with
  | nothing =>
    simpa only [spentOn, List.map_nil, List.sum_nil, Int.add_zero] using conserved
  | aside _ accounts _ ih => exact accounts ▸ ih
  | @book bookings between after id account changed change earlier found applied exactly accounts _ above ih =>
    have fresh := Booked.fresh_of_issued (earlier.issued issued) found above
    rw [accounts]
    constructor
    case held =>
      intro other known is
      rw [Table.get?_insert] at is
      split at is
      next same =>
        cases is
        exact (exactly trivial).held applied fresh (ih.held id account found)
      next => exact ih.held other known is
    case total =>
      intro other known opening is opens
      rw [spentOn_append, spentOn_single]
      rw [Table.get?_insert] at is
      split at is
      next same =>
        cases is
        subst same
        have total := ih.total other account opening found opens
        have moved := (exactly trivial).total
        rw [if_pos rfl]
        omega
      next different =>
        have total := ih.total other known opening is opens
        rw [if_neg (Ne.symm different)]
        omega
    case unspent =>
      intro other is
      rw [Table.get?_insert] at is
      split at is
      next => cases is
      next different =>
        rw [spentOn_append, spentOn_single, if_neg (Ne.symm different), Int.add_zero]
        exact ih.unspent other is

theorem Conserved.link (conserved : Conserved opened spent before.accounts) (known : Opened opened before.accounts)
    (loan : LoanId) (id : AccountId) (available : Decimal) :
    Conserved (fun other => (opened other).or (if id = other then some available else none)) spent
      (before.link loan id available).accounts := by
  have accounts : (before.link loan id available).accounts =
      if before.accounts.contains id then before.accounts else before.accounts.insert id (.opened id available) := rfl
  rw [accounts]
  by_cases there : before.accounts.contains id = true
  · have same (other : AccountId) : (opened other).or (if id = other then some available else none) = opened other := by
      by_cases own : id = other
      · obtain ⟨opening, is⟩ := Option.isSome_iff_exists.mp ((known id).symm.trans there)
        rw [← own, is, Option.some_or]
      · rw [if_neg own, Option.or_none]
    simp only [if_pos there, same]
    exact conserved
  · have missing : before.accounts.get? id = none := Option.not_isSome_iff_eq_none.mp there
    have unopened : opened id = none := by
      rw [← Option.not_isSome_iff_eq_none, ← known id, missing]
      exact nofun
    rw [if_neg there]
    constructor
    case held =>
      intro other account is
      rw [Table.get?_insert] at is
      split at is
      next =>
        cases is
        exact Decimal.units_of_isZero rfl
      next => exact conserved.held other account is
    case total =>
      intro other account opening is opens
      rw [Table.get?_insert] at is
      split at is
      next own =>
        cases is
        subst own
        rw [unopened, if_pos rfl] at opens
        cases opens
        have nothing : (Account.opened other available).held.units = 0 := Decimal.units_of_isZero rfl
        rw [conserved.unspent other missing, nothing, Int.add_zero, Int.add_zero]
        rfl
      next own =>
        rw [if_neg (Ne.symm own), Option.or_none] at opens
        exact conserved.total other account opening is opens
    case unspent =>
      intro other is
      rw [Table.get?_insert] at is
      split at is
      next => cases is
      next => exact conserved.unspent other is

end Ledger

namespace Desk

open Ledger (Conserved Opened bookExactly)

variable {settings : Settings} {desk : Desk} {opened : AccountId → Option Decimal}

theorem act_opened (orderly : desk.Orderly) (act : Act) (known : Opened opened desk.ledger.accounts) :
    Opened (fun id => (opened id).or (act.opens id)) (desk.act settings act).ledger.accounts := by
  intro id
  rw [act_known orderly, known id, Option.isSome_or]

theorem act_conserves (orderly : desk.Orderly) (act : Act) (known : Opened opened desk.ledger.accounts)
    (replays : ((desk.bookings settings act).foldlM bookExactly desk.ledger.accounts).isSome = true)
    (conserved : Conserved opened desk.ledger.withdrawn desk.ledger.accounts) :
    let after := (desk.act settings act).ledger
    Conserved (fun id => (opened id).or (act.opens id)) after.withdrawn after.accounts := by
  intro after
  rcases act_carries orderly act with ⟨loan, id, available, rfl⟩ | ⟨booked, carries⟩
  · exact conserved.link known loan id available
  · have exactly : Ledger.Booked True desk.ledger booked after := by
      rcases carries.told with rfl | rfl
      · exact (carries.books.booked.of_bookExactly rfl).2
      · obtain ⟨_, replayed⟩ := Option.isSome_iff_exists.mp replays
        exact (carries.books.booked.of_bookExactly replayed).2
    simp only [carries.unopened, Option.or_none]
    rw [show after.withdrawn = fun id => desk.ledger.withdrawn id + Ledger.spentOn id booked from
      funext carries.books.withdrawn]
    exact conserved.booked orderly.ledger.issued exactly

theorem actAll_conserves (orderly : desk.Orderly) (acts : List Act) (lossless : desk.lossless settings acts = true)
    (known : Opened opened desk.ledger.accounts)
    (conserved : Conserved opened desk.ledger.withdrawn desk.ledger.accounts) :
    let after := (desk.actAll settings acts).ledger
    let openings := fun id => (opened id).or (Act.opening id acts)
    Opened openings after.accounts ∧ Conserved openings after.withdrawn after.accounts := by
  induction acts generalizing desk opened with
  | nil =>
    simp only [Act.opening, List.findSome?_nil, Option.or_none]
    exact ⟨known, conserved⟩
  | cons act rest ih =>
    rw [Desk.lossless, Bool.and_eq_true] at lossless
    have done := ih (orderly.act act) lossless.2 (act_opened orderly act known)
      (act_conserves orderly act known lossless.1 conserved)
    have opening (id : AccountId) :
        (opened id).or (Act.opening id (act :: rest)) = ((opened id).or (act.opens id)).or (Act.opening id rest) := by
      rw [Option.or_assoc, Act.opening, Act.opening, List.findSome?_cons]
      cases act.opens id <;> rfl
    simp only [opening]
    exact done

theorem blank_conserves (settings : Settings) (directory : Directory) (acts : List Act)
    (lossless : (blank directory).lossless settings acts = true) :
    let ledger := ((blank directory).actAll settings acts).ledger
    Opened (fun id => Act.opening id acts) ledger.accounts ∧
      Conserved (fun id => Act.opening id acts) ledger.withdrawn ledger.accounts := by
  have opened : Opened (fun _ => none) (blank directory).ledger.accounts := fun _ => rfl
  have conserved : Conserved (fun _ => none) (blank directory).ledger.withdrawn (blank directory).ledger.accounts :=
    ⟨nofun, nofun, fun _ _ => rfl⟩
  have done := actAll_conserves (blank_orderly directory) acts lossless opened conserved
  simp only [Option.none_or] at done
  exact done

theorem actAll_issues (orderly : desk.Orderly) (acts : List Act) :
    Ledger.Issues desk.ledger (desk.allNumbers settings acts) (desk.actAll settings acts).ledger := by
  induction acts generalizing desk with
  | nil => exact ⟨Nat.le_refl _, nofun, .nil⟩
  | cons act rest ih =>
    have first : Ledger.Issues desk.ledger (desk.numbers settings act) (desk.act settings act).ledger := by
      rcases act_carries orderly act with ⟨loan, id, available, rfl⟩ | ⟨booked, carries⟩
      · exact ⟨Nat.le_refl _, nofun, .nil⟩
      · exact carries.books.issues
    exact first.trans (ih (orderly.act act))

theorem act_holds_stay (orderly : desk.Orderly) (act : Act) {id : AccountId} {transaction : TransactionId}
    {amount : Decimal} (held : desk.ledger.holdOf id transaction = some amount) :
    (desk.act settings act).ledger.holdOf id transaction = some amount ∨
      .release id transaction ∈ desk.entries settings act := by
  rcases act_carries orderly act with ⟨loan, there, available, rfl⟩ | ⟨booked, carries⟩
  · exact Or.inl ((Ledger.holdOf_link ..).trans held)
  · refine (carries.books.booked.holds_stay orderly.ledger.issued held).imp_right fun released => ?_
    rcases carries.told with rfl | rfl
    · cases released
    · exact release_entered released

/-- Whatever is done at a desk, from nothing on: as long as no sum on an account drops a digit, each
account has on hold the sum of its holds, and what is available, on hold and withdrawn comes to
what it was opened with. The numbers of the transactions go up, each above all before it; and a
hold stays as it is until it is released. -/
theorem savings_conserved (settings : Settings) (directory : Directory) (acts : List Act) :
    let start := blank directory
    let desk := start.actAll settings acts
    (start.lossless settings acts = true → ∀ id account, desk.ledger.accounts.get? id = some account →
      account.held.units = account.pledged ∧ ∃ opening, Act.opening id acts = some opening ∧
        account.available.units + account.held.units + desk.ledger.withdrawn id = opening.units) ∧
      (start.allNumbers settings acts).Pairwise (· < ·) ∧
      ∀ act id transaction amount, desk.ledger.holdOf id transaction = some amount →
        (desk.act settings act).ledger.holdOf id transaction = some amount ∨
          .release id transaction ∈ desk.entries settings act := by
  intro start desk
  have orderly : start.Orderly := blank_orderly directory
  refine ⟨fun lossless id account found => ?_, (actAll_issues orderly acts).ascending, fun act _ _ _ held => ?_⟩
  · obtain ⟨opened, conserved⟩ := blank_conserves settings directory acts lossless
    have known := opened id
    rw [found] at known
    obtain ⟨opening, opens⟩ := Option.isSome_iff_exists.mp known.symm
    exact ⟨conserved.held id account found, opening, opens, conserved.total id account opening found opens⟩
  · exact act_holds_stay (orderly.actAll acts) act held

/-- The sample loan is paid out, with a hold placed and released and money withdrawn directly. -/
theorem sample_conserved :
    let approve (step : StepId) : Act := .event (.command .epoch (.approve 1 step "" none none))
    let acts := Setup.sample.acts ++ [.event (.command .epoch (.build 1)), approve 1,
      .call (.hold ⟨.whole 40 (by decide), by decide⟩ none 7), approve 2, .call (.release 7 2),
      .call (.withdraw ⟨.whole 30 (by decide), by decide⟩ 7 1)]
    let start := blank sample.directory
    let desk := start.actAll .standard acts
    start.lossless .standard acts = true ∧ start.allNumbers .standard acts = [1, 2, 3, 4, 5] ∧
      desk.ledger.withdrawn 7 = (Decimal.whole 40 (by decide)).units ∧
      ∃ account, desk.ledger.accounts.get? 7 = some account ∧ account.held.units = account.pledged ∧
        ∃ opening, Act.opening 7 acts = some opening ∧
          account.available.units + account.held.units + desk.ledger.withdrawn 7 = opening.units := by
  intro approve acts start desk
  have lossless : start.lossless .standard acts = true := by decide +kernel
  have opened : (desk.ledger.accounts.get? 7).isSome = true := by decide +kernel
  obtain ⟨account, found⟩ := Option.isSome_iff_exists.mp opened
  have conserved := (savings_conserved .standard sample.directory acts).1 lossless 7 account found
  exact ⟨lossless, by decide +kernel, by decide +kernel, account, found, conserved⟩

end Desk

end Countersign
