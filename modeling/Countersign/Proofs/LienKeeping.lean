import Countersign.Proofs.CommandConduct
import Countersign.Proofs.InstalledLoans

/-!
Liens and holds keep in step. A lien that is recorded is on hold on the account of its loan,
and no two loans record the same; where releases never fail, every hold is the lien of a loan.
While a loan is settled this holds but for two things: a hold that is placed and not recorded
yet, and a lien that is recorded and off the account already. The standing of the settlement
tells of both.
-/

namespace Countersign.Ledger

open Standing (hold_eq_none not_freed)

def lienOf (ledger : Ledger) (loan : LoanId) : Option TransactionId := (ledger.loan? loan).bind (·.lien)

def Holds (ledger : Ledger) (id : AccountId) (transaction : TransactionId) : Prop :=
  ledger.holdOf id transaction ≠ none

/-- Every lien is backed by a hold, and no two loans have the same; except for what the standing
of the settlement of the loan says. -/
structure Backed (loan : LoanId) (standing : Standing) (ledger : Ledger) : Prop where
  held : ∀ other lien, ledger.lienOf other = some lien → (other = loan → ¬standing.Freed) →
    ∃ id, ledger.links.get? other = some id ∧ ledger.Holds id lien
  distinct : ∀ other another lien, ledger.lienOf other = some lien → ledger.lienOf another = some lien → other = another
  spare : ∀ hold, standing.hold = some hold →
    (∃ id, ledger.links.get? loan = some id ∧ ledger.Holds id hold.transaction) ∧
      ∀ other, ledger.lienOf other ≠ some hold.transaction
  freed : standing.Freed → ∀ id lien, ledger.links.get? loan = some id → ledger.lienOf loan = some lien →
    ¬ledger.Holds id lien

/-- Every hold is the lien of a loan on that account, or the one placed for the settlement. -/
def Accounted (loan : LoanId) (standing : Standing) (ledger : Ledger) : Prop :=
  ∀ id transaction, ledger.Holds id transaction →
    (∃ other, ledger.links.get? other = some id ∧ ledger.lienOf other = some transaction) ∨
      ledger.links.get? loan = some id ∧ ∃ hold, standing.hold = some hold ∧ hold.transaction = transaction

/-! What changes of the liens and of the holds. -/

section

variable {ledger : Ledger} {loan : LoanId} {record : Loan}

theorem lienOf_insert (ledger : Ledger) (loan : LoanId) (record : Loan) (other : LoanId) :
    lienOf { ledger with loans := ledger.loans.insert loan record } other =
      if other = loan then record.lien else ledger.lienOf other := by
  unfold lienOf loan?
  rw [Table.get?_insert]
  split <;> rfl

theorem lienOf_of_get? (known : ledger.loans.get? loan = some record) : ledger.lienOf loan = record.lien := by
  rw [lienOf, loan?, known, Option.bind_some]

theorem lienOf_passed (known : ledger.loans.get? loan = some record) (target : LoanStatus) (entry : JournalEntry)
    (other : LoanId) : (ledger.passed loan record target entry).lienOf other = ledger.lienOf other := by
  apply (lienOf_insert ledger loan _ other).trans
  split
  next same => rw [same, lienOf_of_get? known]
  next => rfl

variable {id : AccountId} {account changed : Account}

theorem holdOf_of_get? (found : ledger.accounts.get? id = some account) (transaction : TransactionId) :
    ledger.holdOf id transaction = account.holds.get? transaction := by
  rw [holdOf, account?, found, Option.bind_some]

variable {after : Ledger} (moved : after.accounts = ledger.accounts.insert id changed)
  (found : ledger.accounts.get? id = some account)
include moved found

theorem holdOf_withdraw {amount : Decimal} (withdrawn : account.withdraw amount = .ok changed) (other : AccountId)
    (transaction : TransactionId) : after.holdOf other transaction = ledger.holdOf other transaction := by
  rw [holdOf_insert moved]
  obtain ⟨_, _, _, rfl⟩ := (Account.withdraw_ok_iff ..).mp withdrawn
  split
  next same => rw [same, holdOf_of_get? found]
  next => rfl

theorem holds_hold {new : TransactionId} {amount : Decimal} (held : account.hold new amount = .ok changed)
    (other : AccountId) (transaction : TransactionId) :
    after.Holds other transaction ↔ ledger.Holds other transaction ∨ other = id ∧ transaction = new := by
  unfold Holds
  rw [holdOf_insert moved]
  obtain ⟨_, _, _, _, _, rfl⟩ := (Account.hold_ok_iff ..).mp held
  by_cases there : other = id
  · rw [if_pos there, Table.get?_insert, there, holdOf_of_get? found]
    by_cases same : transaction = new <;> simp [same]
  · simp [there]

theorem holds_release {gone : TransactionId} (released : account.release gone = .ok changed) (other : AccountId)
    (transaction : TransactionId) :
    after.Holds other transaction ↔ ledger.Holds other transaction ∧ ¬(other = id ∧ transaction = gone) := by
  unfold Holds
  rw [holdOf_insert moved]
  obtain ⟨_, _, _, _, _, _, rfl⟩ := (Account.release_ok_iff ..).mp released
  by_cases there : other = id
  · rw [if_pos there, Table.get?_erase, there, holdOf_of_get? found]
    by_cases same : transaction = gone <;> simp [same]
  · simp [there]

end

/-! One deed. -/

section

variable {scale : Nat} {loan : LoanId} {standing reached : Standing} {before after : Ledger}

theorem Backed.unmoved (backed : Backed loan standing before) (links : after.links = before.links)
    (liens : ∀ other, after.lienOf other = before.lienOf other)
    (holds : ∀ id transaction, after.holdOf id transaction = before.holdOf id transaction)
    (freed : reached.Freed ↔ standing.Freed) (hold : reached.hold = none ∨ reached.hold = standing.hold) :
    Backed loan reached after := by
  have sameHolds (id : AccountId) (transaction : TransactionId) :
      after.Holds id transaction ↔ before.Holds id transaction := by
    unfold Holds
    rw [holds]
  constructor
  case held =>
    simp only [liens, links, sameHolds, freed]
    exact backed.held
  case distinct =>
    simp only [liens]
    exact backed.distinct
  case spare =>
    simp only [liens, links, sameHolds]
    rcases hold with none | same
    · intro hold is
      cases none.symm.trans is
    · rw [same]
      exact backed.spare
  case freed =>
    simp only [liens, links, sameHolds, freed]
    exact backed.freed

theorem Accounted.unmoved (accounted : Accounted loan standing before) (links : after.links = before.links)
    (liens : ∀ other, after.lienOf other = before.lienOf other)
    (holds : ∀ id transaction, after.holdOf id transaction = before.holdOf id transaction)
    (hold : reached.hold = standing.hold) : Accounted loan reached after := by
  unfold Accounted Holds
  simp only [liens, links, holds, hold]
  exact accounted

theorem Backed.unused (backed : Backed loan standing before) (inOrder : before.InOrder) (unfreed : ¬standing.Freed)
    (other : LoanId) : before.lienOf other ≠ some (before.lastTransaction + 1) := by
  intro pledge
  obtain ⟨id, _, holds⟩ := backed.held other _ pledge fun _ => unfreed
  obtain ⟨amount, held⟩ := Option.ne_none_iff_exists'.mp holds
  obtain ⟨account, found, listed⟩ := Option.bind_eq_some_iff.mp held
  exact absurd (inOrder.issued id account _ amount found listed) (Nat.not_succ_le_self _)

section

variable {id : AccountId} {account changed : Account} {charges : List Charge} (entry : JournalEntry)
  (linked : before.links.get? loan = some id) (found : before.accounts.get? id = some account)
include linked found

theorem Backed.place (backed : Backed loan (.ready charges none) before) (inOrder : before.InOrder) {hold : Booking}
    (held : account.hold (before.lastTransaction + 1) hold.total = .ok changed)
    (new : hold.transaction = before.lastTransaction + 1) :
    Backed loan (.ready charges (some hold)) (before.numbered.moved id changed entry) := by
  have holds (other : AccountId) (transaction : TransactionId) :
      (before.numbered.moved id changed entry).Holds other transaction ↔
        before.Holds other transaction ∨ other = id ∧ transaction = before.lastTransaction + 1 :=
    holds_hold rfl found held other transaction
  constructor
  case held =>
    intro other lien pledge _
    obtain ⟨there, link, is⟩ := backed.held other lien pledge fun _ freed => freed
    exact ⟨there, link, (holds ..).mpr (Or.inl is)⟩
  case distinct => exact backed.distinct
  case spare =>
    intro _ is
    cases is
    refine ⟨⟨id, linked, (holds ..).mpr (Or.inr ⟨rfl, new⟩)⟩, ?_⟩
    rw [new]
    exact backed.unused inOrder fun freed => freed
  case freed => exact False.elim

theorem Accounted.place (accounted : Accounted loan (.ready charges none) before) {hold : Booking}
    (held : account.hold (before.lastTransaction + 1) hold.total = .ok changed)
    (new : hold.transaction = before.lastTransaction + 1) :
    Accounted loan (.ready charges (some hold)) (before.numbered.moved id changed entry) := by
  intro other transaction holds
  rcases (holds_hold rfl found held other transaction).mp holds with old | ⟨rfl, rfl⟩
  · rcases accounted other transaction old with lien | ⟨_, _, none, _⟩
    · exact Or.inl lien
    · cases none
  · exact Or.inr ⟨linked, hold, rfl, new⟩

omit linked in
theorem Backed.giveBack {hold : Booking} (backed : Backed loan (.ready charges (some hold)) before)
    (released : account.release hold.transaction = .ok changed) :
    Backed loan (.ready charges none) (before.moved id changed entry) := by
  have holds := holds_release (rfl : (before.moved id changed entry).accounts = _) found released
  obtain ⟨_, unrecorded⟩ := backed.spare hold rfl
  constructor
  case held =>
    intro other lien pledge _
    obtain ⟨there, link, is⟩ := backed.held other lien pledge fun _ freed => freed
    refine ⟨there, link, (holds ..).mpr ⟨is, fun ⟨_, same⟩ => ?_⟩⟩
    exact unrecorded other (same ▸ pledge)
  case distinct => exact backed.distinct
  case spare => exact nofun
  case freed => exact False.elim

theorem Accounted.giveBack {hold : Booking} (accounted : Accounted loan (.ready charges (some hold)) before)
    (released : account.release hold.transaction = .ok changed) :
    Accounted loan (.ready charges none) (before.moved id changed entry) := by
  intro other transaction holds
  obtain ⟨old, others⟩ := (holds_release rfl found released other transaction).mp holds
  rcases accounted other transaction old with lien | ⟨there, _, is, same⟩
  · exact Or.inl lien
  · cases is
    exact absurd ⟨Option.some_inj.mp (there.symm.trans linked), same.symm⟩ others

theorem Backed.free {hold : Option Booking} {lien : TransactionId} (backed : Backed loan (.ending hold) before)
    (pledge : before.lienOf loan = some lien) (released : account.release lien = .ok changed) :
    Backed loan (.freed hold) (before.moved id changed entry) := by
  have holds := holds_release (rfl : (before.moved id changed entry).accounts = _) found released
  constructor
  case held =>
    intro other otherLien otherPledge unfreed
    obtain ⟨there, link, is⟩ := backed.held other otherLien otherPledge fun _ freed => freed
    refine ⟨there, link, (holds ..).mpr ⟨is, fun ⟨_, same⟩ => ?_⟩⟩
    subst same
    exact unfreed (backed.distinct _ _ _ otherPledge pledge) trivial
  case distinct => exact backed.distinct
  case spare =>
    intro booking is
    obtain ⟨⟨there, link, held⟩, unrecorded⟩ := backed.spare booking is
    refine ⟨⟨there, link, (holds ..).mpr ⟨held, fun ⟨_, same⟩ => ?_⟩⟩, unrecorded⟩
    exact unrecorded loan (same ▸ pledge)
  case freed =>
    intro _ other there link otherPledge held
    obtain ⟨_, others⟩ := (holds ..).mp held
    exact others ⟨Option.some_inj.mp (link.symm.trans linked), Option.some_inj.mp (otherPledge.symm.trans pledge)⟩

omit linked

theorem Accounted.free {hold : Option Booking} {lien : TransactionId} (accounted : Accounted loan (.ending hold) before)
    (released : account.release lien = .ok changed) : Accounted loan (.freed hold) (before.moved id changed entry) :=
  fun other transaction holds => accounted other transaction
    ((holds_release rfl found released other transaction).mp holds).1

end

theorem Backed.missing {id : AccountId} {hold : Option Booking} {lien : TransactionId}
    (backed : Backed loan (.ending hold) before) (linked : before.links.get? loan = some id)
    (pledge : before.lienOf loan = some lien) (gone : before.holdOf id lien = none) :
    Backed loan (.freed hold) before := by
  constructor
  case held => exact fun other otherLien otherPledge _ => backed.held other otherLien otherPledge fun _ freed => freed
  case distinct => exact backed.distinct
  case spare => exact backed.spare
  case freed =>
    intro _ other there link otherPledge held
    cases linked.symm.trans link
    cases pledge.symm.trans otherPledge
    exact held gone

theorem Backed.renew {record : Loan} (backed : Backed loan standing before) :
    Backed loan .closed (before.pledged loan record (standing.hold.map (·.transaction))) := by
  have liens := lienOf_insert before loan { record with lien := standing.hold.map (·.transaction) }
  have recorded {lien : TransactionId} (is : standing.hold.map (·.transaction) = some lien) :
      (∃ id, before.links.get? loan = some id ∧ before.Holds id lien) ∧ ∀ other, before.lienOf other ≠ some lien := by
    obtain ⟨hold, placed, rfl⟩ := Option.map_eq_some_iff.mp is
    exact backed.spare hold placed
  constructor
  case held =>
    intro other lien pledge _
    rw [pledged, liens] at pledge
    split at pledge
    next same => exact same ▸ (recorded pledge).1
    next different => exact backed.held other lien pledge fun same => absurd same different
  case distinct =>
    intro other another lien first second
    rw [pledged, liens] at first second
    split at first <;> split at second
    next sameFirst sameSecond => exact sameFirst.trans sameSecond.symm
    next => exact absurd second ((recorded first).2 another)
    next => exact absurd first ((recorded second).2 other)
    next => exact backed.distinct other another lien first second
  case spare => exact nofun
  case freed => exact False.elim

theorem Accounted.renew {record : Loan} (accounted : Accounted loan standing before)
    (backed : Backed loan standing before) (replaced : standing.Freed ∨ before.lienOf loan = none) :
    Accounted loan .closed (before.pledged loan record (standing.hold.map (·.transaction))) := by
  have liens := lienOf_insert before loan { record with lien := standing.hold.map (·.transaction) }
  intro id transaction holds
  refine Or.inl ?_
  rcases accounted id transaction holds with ⟨other, link, pledge⟩ | ⟨link, hold, placed, rfl⟩
  · have different : other ≠ loan := by
      rintro rfl
      rcases replaced with freed | without
      · exact backed.freed freed id transaction link pledge holds
      · cases without.symm.trans pledge
    refine ⟨other, link, ?_⟩
    rw [pledged, liens, if_neg different]
    exact pledge
  · refine ⟨loan, link, ?_⟩
    rw [pledged, liens, if_pos rfl, placed, Option.map_some]

theorem Deed.backed (deed : Deed scale loan standing before reached after) (inOrder : before.InOrder)
    (backed : Backed loan standing before) : Backed loan reached after := by
  have links := deed.links
  cases deed with
  | number => exact backed.unmoved links (fun _ => rfl) (fun _ _ => rfl) Iff.rfl (Or.inr rfl)
  | collect payment linked found withdrawn listed due =>
    exact backed.unmoved links (fun _ => rfl) (holdOf_withdraw rfl found withdrawn) Iff.rfl (Or.inl rfl)
  | exempt due => exact backed.unmoved links (fun _ => rfl) (fun _ _ => rfl) Iff.rfl (Or.inl rfl)
  | hold linked found held due => exact backed.place _ linked found inOrder held rfl
  | giveBack linked found released => exact backed.giveBack _ found released
  | strand linked stays => exact backed.unmoved links (fun _ => rfl) (fun _ _ => rfl) Iff.rfl (Or.inl rfl)
  | payUnlinked unlinked disbursal =>
    cases disbursal with
    | paid amount date payment known ready =>
      exact backed.unmoved links (lienOf_passed known _ _) (fun _ _ => rfl) Iff.rfl (Or.inl rfl)
  | pay disbursal =>
    cases disbursal with
    | paid amount date payment known ready =>
      exact backed.unmoved links (lienOf_passed known _ _) (fun _ _ => rfl) Iff.rfl (Or.inr rfl)
  | turnDown rejected => exact backed.unmoved links (fun _ => rfl) (fun _ _ => rfl) Iff.rfl (Or.inl rfl)
  | mark listed => exact backed.unmoved links (fun _ => rfl) (fun _ _ => rfl) Iff.rfl (Or.inr rfl)
  | free known pledge linked found released =>
    exact backed.free _ linked found ((lienOf_of_get? known).trans pledge) released
  | missing known pledge linked gone => exact backed.missing linked ((lienOf_of_get? known).trans pledge) gone
  | keep known pledge failing => exact backed.unmoved links (fun _ => rfl) (fun _ _ => rfl) Iff.rfl (Or.inl rfl)
  | exchange known => exact backed.renew
  | pledge known unpledged => exact backed.renew
  | close nothing => exact backed.unmoved links (fun _ => rfl) (fun _ _ => rfl) Iff.rfl (Or.inl rfl)

/-- Where releases work, no hold is left behind. -/
theorem Deed.accounted (deed : Deed scale loan standing before reached after) (working : .release ∉ before.failing)
    (backed : Backed loan standing before) (accounted : Accounted loan standing before) :
    Accounted loan reached after := by
  have links := deed.links
  cases deed with
  | number => exact accounted.unmoved links (fun _ => rfl) (fun _ _ => rfl) rfl
  | collect payment linked found withdrawn listed due =>
    exact accounted.unmoved links (fun _ => rfl) (holdOf_withdraw rfl found withdrawn) rfl
  | exempt due => exact accounted.unmoved links (fun _ => rfl) (fun _ _ => rfl) rfl
  | hold linked found held due => exact accounted.place _ linked found held rfl
  | giveBack linked found released => exact accounted.giveBack _ linked found released
  | strand linked stays =>
    have gone := stays.resolve_left working
    intro id transaction holds
    rcases accounted id transaction holds with lien | ⟨link, _, ⟨⟩, rfl⟩
    · exact Or.inl lien
    · cases linked.symm.trans link
      exact absurd gone holds
  | payUnlinked unlinked disbursal =>
    cases disbursal with
    | paid amount date payment known ready =>
      exact accounted.unmoved links (lienOf_passed known _ _) (fun _ _ => rfl) rfl
  | pay disbursal =>
    cases disbursal with
    | paid amount date payment known ready =>
      exact accounted.unmoved links (lienOf_passed known _ _) (fun _ _ => rfl) rfl
  | turnDown rejected => exact accounted.unmoved links (fun _ => rfl) (fun _ _ => rfl) rfl
  | mark listed => exact accounted.unmoved links (fun _ => rfl) (fun _ _ => rfl) rfl
  | free known pledge linked found released => exact accounted.free _ found released
  | missing known pledge linked gone => exact accounted.unmoved links (fun _ => rfl) (fun _ _ => rfl) rfl
  | keep known pledge failing => exact absurd failing working
  | exchange known => exact accounted.renew backed (Or.inl trivial)
  | pledge known unpledged => exact accounted.renew backed (Or.inr ((lienOf_of_get? known).trans unpledged))
  | close nothing => exact accounted.unmoved links (fun _ => rfl) (fun _ _ => rfl) rfl

end

/-! From one command to the next. -/

/-- Liens and holds in step; of holds that are left behind nothing is said unless releases
never fail. -/
structure Secured (tidy : Prop) (loan : LoanId) (standing : Standing) (ledger : Ledger) : Prop where
  backed : Backed loan standing ledger
  accounted : tidy → .release ∉ ledger.failing ∧ Accounted loan standing ledger

variable {tidy : Prop} {scale : Nat} {loan : LoanId} {standing reached : Standing} {before after : Ledger}

theorem Deed.secured (deed : Deed scale loan standing before reached after) (inOrder : before.InOrder)
    (secured : Secured tidy loan standing before) : Secured tidy loan reached after where
  backed := deed.backed inOrder secured.backed
  accounted isTidy := by
    obtain ⟨working, accounted⟩ := secured.accounted isTidy
    rw [deed.failing]
    exact ⟨working, deed.accounted working secured.backed accounted⟩

theorem Filing.secured (filing : Filing loan before after) (secured : Secured tidy loan .begun before) :
    Secured tidy loan .begun after := by
  have links : after.links = before.links := Path.links (.single filing.move)
  have failing : after.failing = before.failing := Path.failing (.single filing.move)
  have liens : ∀ other, after.lienOf other = before.lienOf other := by
    cases filing with
    | note text => exact fun _ => rfl
    | pass known passage => exact lienOf_passed known _ _
  have holds : ∀ id transaction, after.holdOf id transaction = before.holdOf id transaction := by
    cases filing <;> exact fun _ _ => rfl
  refine ⟨secured.backed.unmoved links liens holds Iff.rfl (Or.inl rfl), fun isTidy => ?_⟩
  obtain ⟨working, accounted⟩ := secured.accounted isTidy
  rw [failing]
  exact ⟨working, accounted.unmoved links liens holds rfl⟩

theorem Conduct.secured (conduct : Conduct scale loan before standing after) (inOrder : before.InOrder)
    (secured : Secured tidy loan .begun before) : Secured tidy loan standing after :=
  conduct.keeps (Secured tidy loan) Filing.secured Deed.secured inOrder secured

theorem Secured.failOn {op : LedgerOp} (secured : Secured tidy loan .begun before) (other : tidy → op ≠ .release) :
    Secured tidy loan .begun (before.failOn op) := by
  refine ⟨secured.backed.unmoved rfl (fun _ => rfl) (fun _ _ => rfl) Iff.rfl (Or.inl rfl), fun isTidy => ?_⟩
  obtain ⟨working, accounted⟩ := secured.accounted isTidy
  refine ⟨?_, accounted.unmoved rfl (fun _ => rfl) (fun _ _ => rfl) rfl⟩
  change .release ∉ if before.failing.contains op then before.failing else op :: before.failing
  split
  · exact working
  · exact fun listed => (List.mem_cons.mp listed).elim (fun same => other isTidy same.symm) working

theorem Secured.heal (secured : Secured tidy loan .begun before) (op : LedgerOp) :
    Secured tidy loan .begun (before.heal op) := by
  refine ⟨secured.backed.unmoved rfl (fun _ => rfl) (fun _ _ => rfl) Iff.rfl (Or.inl rfl), fun isTidy => ?_⟩
  obtain ⟨working, accounted⟩ := secured.accounted isTidy
  exact ⟨fun listed => working (List.mem_filter.mp listed).1, accounted.unmoved rfl (fun _ => rfl) (fun _ _ => rfl) rfl⟩

theorem Secured.between (secured : Secured tidy loan standing before) (settled : standing.Done ∨ standing.Resting)
    (other : LoanId) : Secured tidy other .begun before := by
  have none := hold_eq_none settled
  have unfreed := not_freed settled
  refine ⟨⟨?_, secured.backed.distinct, nofun, False.elim⟩, fun isTidy => ⟨(secured.accounted isTidy).1, ?_⟩⟩
  · exact fun other lien pledge _ => secured.backed.held other lien pledge fun _ => unfreed
  · intro id transaction holds
    rcases (secured.accounted isTidy).2 id transaction holds with lien | ⟨_, _, placed, _⟩
    · exact Or.inl lien
    · cases none.symm.trans placed

/-! From the setup on. -/

theorem holdOf_link (ledger : Ledger) (loan : LoanId) (account : AccountId) (available : Decimal) (id : AccountId)
    (transaction : TransactionId) :
    (ledger.link loan account available).holdOf id transaction = ledger.holdOf id transaction := by
  unfold holdOf account? link
  dsimp only
  split
  next => rfl
  next unknown =>
    rw [Table.get?_insert]
    split
    next same =>
      have missing : ledger.accounts.get? account = none := by simpa [Table.contains] using unknown
      rw [same, missing]
      rfl
    next => rfl

theorem entered_lien {entry : LoanSetup} (entered : entry.Entered before after) (unpledged : entry.loan.lien = none) :
    ∃ lien : Option TransactionId,
      (∀ other, after.lienOf other = if other = entry.loan.id then lien else before.lienOf other) ∧
      (∀ id transaction, after.Holds id transaction ↔ before.Holds id transaction ∨
        lien = some transaction ∧ after.links.get? entry.loan.id = some id) ∧
      ∀ transaction, lien = some transaction → transaction = before.lastTransaction + 1 ∧
        ∃ id, after.links.get? entry.loan.id = some id := by
  have booked (other : LoanId) :
      (entry.booked before).lienOf other = if other = entry.loan.id then none else before.lienOf other := by
    rw [← unpledged]
    exact lienOf_insert before entry.loan.id entry.loan other
  have linked (savings : SavingsSetup) (id : AccountId) (transaction : TransactionId) :
      (entry.linked savings before).Holds id transaction ↔ before.Holds id transaction := by
    unfold Holds LoanSetup.linked
    rw [holdOf_link]
    rfl
  cases entered with
  | unlinked without => exact ⟨none, booked, fun _ _ => (or_iff_left nofun).symm, nofun⟩
  | linked with_ => exact ⟨none, booked, fun _ _ => (linked ..).trans (or_iff_left nofun).symm, nofun⟩
  | @pledged savings account changed amount with_ found held =>
    have link : (entry.linked savings before).links.get? entry.loan.id = some savings.id := Table.get?_insert_self ..
    refine ⟨some (before.lastTransaction + 1), fun other => ?_, fun id transaction => ?_, fun _ is => ?_⟩
    · apply (lienOf_insert _ entry.loan.id { entry.loan with lien := some (before.lastTransaction + 1) } other).trans
      split
      next => rfl
      next different => exact (booked other).trans (if_neg different)
    · apply (holds_hold rfl found held id transaction).trans
      apply or_congr (linked savings id transaction)
      constructor
      · rintro ⟨rfl, rfl⟩
        exact ⟨rfl, link⟩
      · rintro ⟨is, there⟩
        exact ⟨Option.some_inj.mp (there.symm.trans link), (Option.some_inj.mp is).symm⟩
    · exact ⟨(Option.some_inj.mp is).symm, savings.id, link⟩

theorem Secured.enter {entries : List LoanSetup} {entry : LoanSetup} (lists : before.Lists entries)
    (fresh : entry.loan.id ∉ entries.map (·.loan.id)) (unpledged : entry.loan.lien = none)
    (entered : entry.Entered before after) (inOrder : before.InOrder) (working : before.failing = [])
    (secured : Secured True loan .begun before) : Secured True loan .begun after := by
  obtain ⟨unknown, _, unlinked⟩ := lists.others _ fresh
  obtain ⟨lien, liens, holds, placed⟩ := entered_lien entered unpledged
  have noLien : before.lienOf entry.loan.id = none := by rw [lienOf, loan?, unknown, Option.bind_none]
  have unused (other : LoanId) : before.lienOf other ≠ some (before.lastTransaction + 1) :=
    secured.backed.unused inOrder (fun freed => freed) other
  have linksOther {other : LoanId} (different : other ≠ entry.loan.id) :
      after.links.get? other = before.links.get? other := by
    rw [entered.links unlinked, if_neg different]
  refine ⟨⟨?_, ?_, ?_, False.elim⟩, fun _ => ⟨?_, ?_⟩⟩
  · intro other found pledge _
    rw [liens] at pledge
    split at pledge
    next same =>
      obtain ⟨_, id, link⟩ := placed found pledge
      exact ⟨id, same ▸ link, (holds ..).mpr (Or.inr ⟨pledge, link⟩)⟩
    next different =>
      obtain ⟨id, link, held⟩ := secured.backed.held other found pledge fun _ freed => freed
      exact ⟨id, (linksOther different).trans link, (holds ..).mpr (Or.inl held)⟩
  · intro other another found first second
    rw [liens] at first second
    split at first <;> split at second
    next sameFirst sameSecond => exact sameFirst.trans sameSecond.symm
    next =>
      obtain ⟨rfl, _⟩ := placed found first
      exact absurd second (unused another)
    next =>
      obtain ⟨rfl, _⟩ := placed found second
      exact absurd first (unused other)
    next => exact secured.backed.distinct other another found first second
  · intro _ spare
    cases spare
  · rw [entered.failing, working]
    exact List.not_mem_nil
  · intro id transaction held
    refine Or.inl ?_
    rcases (holds id transaction).mp held with old | ⟨is, link⟩
    · rcases (secured.accounted trivial).2 id transaction old with ⟨other, link, pledge⟩ | ⟨_, _, none, _⟩
      · have different : other ≠ entry.loan.id := by
          rintro rfl
          cases noLien.symm.trans pledge
        refine ⟨other, (linksOther different).trans link, ?_⟩
        rw [liens, if_neg different]
        exact pledge
      · cases none
    · refine ⟨entry.loan.id, link, ?_⟩
      rw [liens, if_pos rfl, is]

end Countersign.Ledger

namespace Countersign

open Ledger (Secured)

theorem Setup.install_secures {setup : Setup} {start : Desk} (installed : setup.install .empty = .ok () start)
    (distinct : (setup.loans.map (·.loan.id)).Nodup) (unpledged : ∀ entry ∈ setup.loans, entry.loan.lien = none)
    (loan : LoanId) : Secured True loan .begun start.ledger := by
  have entered := setup.install_lists installed distinct
    (fun _ ledger => ledger.InOrder ∧ ledger.failing = [] ∧ Secured True loan .begun ledger) ?_ ?_
  · exact entered.2.2.2
  · intro entries entry ledger after mem lists fresh entered ⟨inOrder, working, secured⟩
    exact ⟨entered.inOrder inOrder, entered.failing.trans working,
      secured.enter lists fresh (unpledged entry mem) entered inOrder working⟩
  · have noLien (other : LoanId) : Ledger.empty.lienOf other = none := rfl
    have noHold (id : AccountId) (transaction : TransactionId) : ¬Ledger.empty.Holds id transaction :=
      fun holds => holds rfl
    refine ⟨Desk.empty_opening.ledger, rfl, ⟨⟨?_, ?_, nofun, False.elim⟩, fun _ => ⟨List.not_mem_nil, ?_⟩⟩⟩
    · exact fun other lien pledge _ => nomatch (noLien other).symm.trans pledge
    · exact fun other another lien pledge _ => nomatch (noLien other).symm.trans pledge
    · exact fun id transaction held => absurd held (noHold id transaction)

namespace Desk

/-- On every run in which all sums fit, from loans that have distinct ids and no liens but those
placed on their accounts: a lien that is recorded is on hold on the account of its loan, no
two loans record the same, and unless releases are made to fail every hold is the lien of
exactly one loan on that account. -/
theorem run_keeps_liens {setup : Setup} {start : Desk} (installed : setup.install .empty = .ok () start)
    (distinct : (setup.loans.map (·.loan.id)).Nodup) (unpledged : ∀ entry ∈ setup.loans, entry.loan.lien = none)
    (events : List Event) (calm : start.calm setup.settings events = true) :
    let ledger := (start.run setup.settings events).ledger
    (∀ loan lien, ledger.lienOf loan = some lien → ∃ id, ledger.links.get? loan = some id ∧ ledger.Holds id lien) ∧
      (∀ loan other lien, ledger.lienOf loan = some lien → ledger.lienOf other = some lien → loan = other) ∧
      (.failOn .release ∉ events → ∀ id transaction, ledger.Holds id transaction →
        ∃! loan, ledger.links.get? loan = some id ∧ ledger.lienOf loan = some transaction) := by
  intro ledger
  have secured : ∀ loan, Secured (.failOn .release ∉ events) loan .begun ledger := by
    refine calm_run_conducts (fun ledger => ∀ loan, Secured (.failOn .release ∉ events) loan .begun ledger) events
      ?_ ?_ ?_ calm (Setup.opens installed).orderly ?_
    · exact fun settled inOrder conduct kept other => (conduct.secured inOrder (kept _)).between settled other
    · exact fun op listed _ kept loan => (kept loan).failOn fun tidy same => tidy (same ▸ listed)
    · exact fun op _ kept loan => (kept loan).heal op
    · intro loan
      have secured := Setup.install_secures installed distinct unpledged loan
      exact ⟨secured.backed, fun _ => secured.accounted trivial⟩
  refine ⟨fun loan lien pledge => ?_, fun loan other lien first second => ?_, fun tidy id transaction holds => ?_⟩
  · exact (secured loan).backed.held loan lien pledge fun _ freed => freed
  · exact (secured loan).backed.distinct loan other lien first second
  · rcases ((secured 0).accounted tidy).2 id transaction holds with ⟨loan, link, pledge⟩ | ⟨_, _, none, _⟩
    · exact ⟨loan, ⟨link, pledge⟩, fun other ⟨_, same⟩ => (secured loan).backed.distinct other loan _ same pledge⟩
    · cases none

/-- In the sample, the lien from before has given way to the hold of a disbursal that went through
at the second attempt. -/
theorem sample_liens_kept :
    let events := [.command .epoch (.build 1), .command .epoch (.approve 1 1 "" none none), .failOn .disburse,
      .command .epoch (.approve 1 2 "" none none), .heal .disburse, .command .epoch (.approve 1 2 "" none none)]
    let ledger := (sample.run .standard events).ledger
    ledger.lienOf 1 = some 4 ∧ ¬ledger.Holds 7 1 ∧
      ∀ id transaction, ledger.Holds id transaction →
        ∃! loan, ledger.links.get? loan = some id ∧ ledger.lienOf loan = some transaction := by
  intro events ledger
  have kept := run_keeps_liens sample_installed (by decide) (by decide) events (by decide +kernel)
  exact ⟨by decide +kernel, fun holds => holds (by decide +kernel), kept.2.2 (by simp [events])⟩

end Desk

end Countersign
