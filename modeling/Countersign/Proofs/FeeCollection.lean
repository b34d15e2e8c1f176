import Countersign.Proofs.CommandConduct
import Countersign.Proofs.DecimalRounding
import Countersign.Proofs.InstalledLoans
import Mathlib.Algebra.BigOperators.Group.List.Basic

/-!
The fees of a loan are collected once. They are outstanding as they were installed, or all of
them are paid; and what was withdrawn from an account is the sum of the fees that are paid on
it, each loan's rounded as a whole. Only one deed withdraws anything, and it marks the fees
that it has withdrawn.
-/

namespace Countersign

namespace LoanSetup

def fees (entry : LoanSetup) : List Charge := Charge.outstandingOf entry.charges .upfrontFee

def feeTotal (entry : LoanSetup) : Int := (entry.fees.map (·.outstanding.units)).sum

/-- Loans and charges that can be told apart by their ids, and fees whose sum loses nothing. -/
structure Definite (entries : List LoanSetup) : Prop where
  loans : (entries.map (·.loan.id)).Nodup
  charges : ∀ entry ∈ entries, (entry.charges.map (·.id)).Nodup
  fees : ∀ entry ∈ entries, ∀ sum, Decimal.sum (entry.fees.map (·.outstanding)) = .ok sum → sum.units = entry.feeTotal

end LoanSetup

def JournalEntry.withdrawn (id : AccountId) : JournalEntry → Int
  | .withdraw account amount _ _ => if account = id then amount.units else 0
  | _ => 0

namespace Ledger

def withdrawn (ledger : Ledger) (id : AccountId) : Int := (ledger.journal.map (·.withdrawn id)).sum

/-- The fees that a loan was entered with are paid, all of them. -/
def Collected (ledger : Ledger) (entry : LoanSetup) : Prop :=
  ∀ fee ∈ entry.fees, fee.settled ∈ ledger.chargesOf entry.loan.id

instance (ledger : Ledger) (entry : LoanSetup) : Decidable (ledger.Collected entry) :=
  inferInstanceAs (Decidable (∀ fee ∈ entry.fees, _))

/-- What the loans on an account whose fees are paid were to pay. -/
def feesOn (scale : Nat) (entries : List LoanSetup) (ledger : Ledger) (id : AccountId) : Int :=
  ((entries.filter fun entry => ledger.links.get? entry.loan.id = some id ∧ ledger.Collected entry).map
    fun entry => Decimal.roundUnits scale entry.feeTotal).sum

end Ledger

/-! Charges that are marked. -/

namespace Charge

def label (charge : Charge) : ChargeId × ChargeKind := (charge.id, charge.kind)

theorem labels_marked (ids : List ChargeId) (charges : List Charge) :
    (Ledger.marked ids charges).map label = charges.map label := by
  unfold Ledger.marked
  rw [List.map_map]
  apply List.map_congr_left
  intro charge _
  dsimp only [Function.comp_apply]
  split <;> rfl

theorem ids_of_labels {charges others : List Charge} (same : charges.map label = others.map label) :
    charges.map (·.id) = others.map (·.id) := by
  have ids := congrArg (List.map Prod.fst) same
  rwa [List.map_map, List.map_map] at ids

theorem exists_of_labels {charges others : List Charge} (same : charges.map label = others.map label) {charge : Charge}
    (mem : charge ∈ charges) : ∃ other ∈ others, other.id = charge.id ∧ other.kind = charge.kind := by
  have labelled : charge.label ∈ others.map label := same ▸ List.mem_map_of_mem mem
  obtain ⟨other, listed, sameLabel⟩ := List.mem_map.mp labelled
  exact ⟨other, listed, Prod.mk.inj sameLabel⟩

theorem mem_marked_others {charges : List Charge} {ids : List ChargeId} {kind : ChargeKind}
    (others : ∀ charge ∈ charges, charge.id ∈ ids → charge.kind ≠ kind) {charge : Charge} (is : charge.kind = kind) :
    charge ∈ Ledger.marked ids charges ↔ charge ∈ charges := by
  constructor
  · intro mem
    obtain ⟨original, listed, same⟩ := List.mem_map.mp mem
    split at same
    next known =>
      rw [← same] at is
      exact absurd is (others original listed (List.contains_iff_mem.mp known))
    next => exact same ▸ listed
  · intro mem
    refine List.mem_map.mpr ⟨charge, mem, if_neg fun known => ?_⟩
    exact others charge mem (List.contains_iff_mem.mp known) is

theorem settled_not_mem {charges : List Charge} (distinct : (charges.map (·.id)).Nodup) {charge : Charge}
    {kind : ChargeKind} (outstanding : charge ∈ outstandingOf charges kind) : charge.settled ∉ charges := by
  intro listed
  obtain ⟨mem, is⟩ := List.mem_filter.mp outstanding
  have same : charge = charge.settled := List.inj_on_of_nodup_map distinct mem listed rfl
  rw [same] at is
  simp [isOutstanding, settled] at is

theorem amount_of_due {charges : List Charge} {kind : ChargeKind} {scale : Nat} {ids : List ChargeId} {amount : Amount}
    (due : Charge.due charges kind scale = .ok (some (ids, amount))) :
    ∃ sum, Decimal.sum ((outstandingOf charges kind).map (·.outstanding)) = .ok sum ∧ amount.value = sum.round scale := by
  unfold Charge.due total at due
  cases summed : Decimal.sum ((outstandingOf charges kind).map (·.outstanding)) with
  | error what =>
    rw [summed] at due
    cases due
  | ok sum =>
    rw [summed] at due
    refine ⟨sum, rfl, ?_⟩
    obtain ⟨given, isAmount, same⟩ := Option.map_eq_some_iff.mp (Except.ok.inj due)
    obtain rfl := (Prod.mk.inj same).2
    unfold Amount.of? at isAmount
    split at isAmount <;> cases isAmount
    rfl

end Charge

/-! Sums over the loans that pass a test. -/

theorem sum_filter_insert {items : List LoanSetup} (distinct : items.Nodup) {item : LoanSetup} (mem : item ∈ items)
    {test test' : LoanSetup → Bool} (f : LoanSetup → Int)
    (others : ∀ other ∈ items, other ≠ item → test' other = test other) (failed : test item = false)
    (passed : test' item = true) :
    ((items.filter test').map f).sum = ((items.filter test).map f).sum + f item := by
  have split := List.perm_cons_erase mem
  have rest : (items.erase item).filter test' = (items.erase item).filter test := by
    apply List.filter_congr
    intro other listed
    obtain ⟨different, otherMem⟩ := distinct.mem_erase_iff.mp listed
    exact others other otherMem different
  rw [((split.filter test').map f).sum_eq, ((split.filter test).map f).sum_eq, List.filter_cons_of_pos passed,
    List.filter_cons_of_neg (ne_true_of_eq_false failed), rest, List.map_cons, List.sum_cons, Int.add_comm]

namespace Ledger

variable {entries : List LoanSetup} {scale : Nat} {loan : LoanId} {standing reached : Standing} {before after : Ledger}

theorem withdrawn_enter {entry : JournalEntry} (journal : after.journal = before.journal ++ [entry]) (id : AccountId) :
    after.withdrawn id = before.withdrawn id + entry.withdrawn id := by
  unfold withdrawn
  rw [journal, List.map_append, List.sum_append, List.map_singleton, List.sum_singleton]

theorem Passage.withdraws_nothing {status target : LoanStatus} {entry : JournalEntry}
    (passage : Passage loan status entry target) (id : AccountId) : entry.withdrawn id = 0 := by
  cases passage <;> rfl

theorem withdrawn_same {entry : JournalEntry} (journal : after.journal = before.journal ++ [entry])
    (nothing : ∀ id, entry.withdrawn id = 0) (id : AccountId) : after.withdrawn id = before.withdrawn id := by
  rw [withdrawn_enter journal, nothing, Int.add_zero]

theorem feesOn_congr (links : after.links = before.links)
    (same : ∀ entry ∈ entries, after.Collected entry ↔ before.Collected entry) (id : AccountId) :
    feesOn scale entries after id = feesOn scale entries before id := by
  unfold feesOn
  rw [links]
  congr 2
  apply List.filter_congr
  intro entry mem
  simp only [same entry mem]

theorem feesOn_insert (distinct : (entries.map (·.loan.id)).Nodup) {paying : LoanSetup} (mem : paying ∈ entries)
    (links : after.links = before.links) {id : AccountId} (linked : before.links.get? paying.loan.id = some id)
    (others : ∀ entry ∈ entries, entry ≠ paying → (after.Collected entry ↔ before.Collected entry))
    (uncollected : ¬before.Collected paying) (collected : after.Collected paying) (other : AccountId) :
    feesOn scale entries after other =
      feesOn scale entries before other + if id = other then Decimal.roundUnits scale paying.feeTotal else 0 := by
  unfold feesOn
  rw [links]
  by_cases there : id = other
  · subst there
    rw [if_pos rfl]
    apply sum_filter_insert (List.Nodup.of_map _ distinct) mem
    · intro entry entryMem different
      simp only [others entry entryMem different]
    · simp [uncollected]
    · simp [linked, collected]
  · rw [if_neg there, Int.add_zero]
    congr 2
    apply List.filter_congr
    intro entry entryMem
    by_cases pays : entry = paying
    · simp [pays, linked, there]
    · simp only [others entry entryMem pays]

/-- The fees of every loan as the standing of the settlement of one tells: outstanding as they
were, or paid; and what was withdrawn. -/
structure Collecting (entries : List LoanSetup) (scale : Nat) (loan : LoanId) (standing : Standing)
    (ledger : Ledger) : Prop where
  known : ∀ id charges, ledger.charges.get? id = some charges → ∃ entry ∈ entries, entry.loan.id = id
  labels : ∀ entry ∈ entries, (ledger.chargesOf entry.loan.id).map Charge.label = entry.charges.map Charge.label
  fees : ∀ entry ∈ entries, Charge.outstandingOf (ledger.chargesOf entry.loan.id) .upfrontFee = entry.fees ∨
    Charge.outstandingOf (ledger.chargesOf entry.loan.id) .upfrontFee = [] ∧ ledger.Collected entry
  withdrawn : ∀ id, ledger.withdrawn id = ledger.feesOn scale entries id
  loaded : ∀ charges, standing.loaded = some charges → charges.map Charge.label = (ledger.chargesOf loan).map Charge.label
  held : ∀ hold, standing.hold = some hold → ∀ charge ∈ ledger.chargesOf loan, charge.id ∈ hold.charges →
    charge.kind = .upfrontHold

theorem Collecting.unmoved (collecting : Collecting entries scale loan standing before)
    (charges : after.charges = before.charges) (links : after.links = before.links)
    (withdrawn : ∀ id, after.withdrawn id = before.withdrawn id)
    (loaded : ∀ charges, reached.loaded = some charges →
      charges.map Charge.label = (before.chargesOf loan).map Charge.label)
    (held : ∀ hold, reached.hold = some hold → ∀ charge ∈ before.chargesOf loan, charge.id ∈ hold.charges →
      charge.kind = .upfrontHold) : Collecting entries scale loan reached after := by
  have chargesOf : after.chargesOf = before.chargesOf := by
    unfold Ledger.chargesOf
    rw [charges]
  have collected (entry : LoanSetup) : after.Collected entry ↔ before.Collected entry := by
    unfold Collected
    rw [chargesOf]
  constructor
  case known =>
    rw [charges]
    exact collecting.known
  case labels =>
    rw [chargesOf]
    exact collecting.labels
  case fees =>
    simp only [chargesOf, collected]
    exact collecting.fees
  case withdrawn =>
    intro id
    rw [withdrawn, feesOn_congr links fun entry _ => collected entry]
    exact collecting.withdrawn id
  case loaded =>
    rw [chargesOf]
    exact loaded
  case held =>
    rw [chargesOf]
    exact held

section

variable (definite : LoanSetup.Definite entries)
include definite

theorem Collecting.distinct (collecting : Collecting entries scale loan standing before) (id : LoanId) :
    ((before.chargesOf id).map (·.id)).Nodup := by
  unfold chargesOf
  cases listed : before.charges.get? id with
  | none => exact List.nodup_nil
  | some charges =>
    obtain ⟨entry, mem, rfl⟩ := collecting.known id charges listed
    have labels := collecting.labels entry mem
    rw [chargesOf, listed] at labels
    rw [Charge.ids_of_labels labels]
    exact definite.charges entry mem

theorem Collecting.hold_charges (collecting : Collecting entries scale loan standing before) {charges : List Charge}
    (loaded : charges.map Charge.label = (before.chargesOf loan).map Charge.label) {charge : Charge}
    (mem : charge ∈ before.chargesOf loan)
    (due : charge.id ∈ (Charge.outstandingOf charges .upfrontHold).map (·.id)) : charge.kind = .upfrontHold := by
  obtain ⟨held, outstanding, named⟩ := List.mem_map.mp due
  obtain ⟨listed, is⟩ := List.mem_filter.mp outstanding
  obtain ⟨same, sameMem, sameId, sameKind⟩ := Charge.exists_of_labels loaded listed
  rw [← List.inj_on_of_nodup_map (collecting.distinct definite loan) sameMem mem (sameId.trans named), sameKind]
  exact Charge.kind_of_outstanding is

omit definite

theorem Collecting.marking (collecting : Collecting entries scale loan standing before) {charges : List Charge}
    (listed : before.charges.get? loan = some charges) (ids : List ChargeId)
    (marks : after.charges = before.charges.insert loan (marked ids charges)) :
    (∀ id charges, after.charges.get? id = some charges → ∃ entry ∈ entries, entry.loan.id = id) ∧
      ∀ id, after.chargesOf id = (if id = loan then marked ids charges else before.chargesOf id) ∧
        (after.chargesOf id).map Charge.label = (before.chargesOf id).map Charge.label := by
  have chargesOf (id : LoanId) : after.chargesOf id = if id = loan then marked ids charges else before.chargesOf id := by
    unfold Ledger.chargesOf
    rw [marks, Table.get?_insert]
    split <;> rfl
  refine ⟨fun id found is => ?_, fun id => ⟨chargesOf id, ?_⟩⟩
  · rw [marks, Table.get?_insert] at is
    split at is
    next same => exact same ▸ collecting.known loan charges listed
    next => exact collecting.known id found is
  · rw [chargesOf]
    split
    next same =>
      rw [Charge.labels_marked, same, Ledger.chargesOf, listed]
      rfl
    next => rfl

include definite

theorem Collecting.due_fees (collecting : Collecting entries scale loan standing before) {paying : LoanSetup}
    (mem : paying ∈ entries) {ids : List ChargeId} {amount : Amount}
    (due : Charge.due (before.chargesOf paying.loan.id) .upfrontFee scale = .ok (some (ids, amount))) :
    Charge.outstandingOf (before.chargesOf paying.loan.id) .upfrontFee = paying.fees ∧
      amount.value.units = Decimal.roundUnits scale paying.feeTotal ∧ ¬before.Collected paying := by
  have some_ : Charge.outstandingOf (before.chargesOf paying.loan.id) .upfrontFee ≠ [] := by
    intro nothing
    rw [Charge.due_of_nothing nothing] at due
    cases due
  have fees := (collecting.fees paying mem).resolve_right fun ⟨nothing, _⟩ => some_ nothing
  obtain ⟨sum, summed, value⟩ := Charge.amount_of_due due
  refine ⟨fees, ?_, fun paid => ?_⟩
  · rw [fees] at summed
    rw [value, Decimal.units_round, definite.fees paying mem sum summed]
  · obtain ⟨fee, outstanding⟩ := List.exists_mem_of_ne_nil _ some_
    exact Charge.settled_not_mem (collecting.distinct definite _) outstanding (paid fee (fees ▸ outstanding))

theorem Collecting.collect (collecting : Collecting entries scale loan .begun before) {id : AccountId}
    {charges : List Charge} {ids : List ChargeId} {amount : Amount} {posted : JournalEntry}
    (withdraws : ∀ other, posted.withdrawn other = if id = other then amount.value.units else 0)
    (linked : before.links.get? loan = some id) (listed : before.charges.get? loan = some charges)
    (due : Charge.due charges .upfrontFee scale = .ok (some (ids, amount)))
    (journal : after.journal = before.journal ++ [posted]) (links : after.links = before.links)
    (marked : after.charges = before.charges.insert loan (marked ids charges)) :
    Collecting entries scale loan (.ready charges none) after := by
  obtain ⟨known, marks⟩ := collecting.marking listed ids marked
  have own : before.chargesOf loan = charges := congrArg (Option.getD · []) listed
  obtain ⟨paying, paysMem, rfl⟩ := collecting.known loan charges listed
  obtain ⟨fees, total, uncollected⟩ := collecting.due_fees definite paysMem (own ▸ due)
  rw [own] at fees
  have isIds := Charge.ids_of_due due
  have settled : Charge.outstandingOf (after.chargesOf paying.loan.id) .upfrontFee = [] := by
    rw [(marks _).1, if_pos rfl, isIds]
    exact Charge.outstanding_fees_marked charges
  have collected : after.Collected paying := by
    intro fee mem
    rw [← fees] at mem
    rw [(marks _).1, if_pos rfl]
    refine List.mem_map.mpr ⟨fee, List.mem_of_mem_filter mem, if_pos ?_⟩
    rw [isIds]
    exact List.contains_iff_mem.mpr (List.mem_map_of_mem mem)
  have spared (entry : LoanSetup) (mem : entry ∈ entries) (different : entry ≠ paying) :
      after.chargesOf entry.loan.id = before.chargesOf entry.loan.id := by
    refine (marks _).1.trans (if_neg fun same => different ?_)
    exact List.inj_on_of_nodup_map definite.loans mem paysMem same
  have same (entry : LoanSetup) (mem : entry ∈ entries) (different : entry ≠ paying) :
      after.Collected entry ↔ before.Collected entry := by
    unfold Collected
    rw [spared entry mem different]
  constructor
  case known => exact known
  case labels => exact fun entry mem => (marks _).2.trans (collecting.labels entry mem)
  case fees =>
    intro entry mem
    by_cases pays : entry = paying
    · exact pays ▸ Or.inr ⟨settled, collected⟩
    · rw [spared entry mem pays, same entry mem pays]
      exact collecting.fees entry mem
  case withdrawn =>
    intro other
    rw [withdrawn_enter journal, feesOn_insert definite.loans paysMem links linked same uncollected collected,
      collecting.withdrawn, withdraws, total]
  case loaded =>
    intro _ is
    cases is
    rw [(marks _).2, own]
  case held => exact nofun

omit definite in
theorem Collecting.mark (collecting : Collecting entries scale loan standing before) {hold : Booking}
    (placed : standing.hold = some hold) (unloaded : standing.loaded = none) {charges : List Charge}
    (listed : before.charges.get? loan = some charges) (journal : after.journal = before.journal)
    (links : after.links = before.links)
    (marked : after.charges = before.charges.insert loan (marked hold.charges charges)) :
    Collecting entries scale loan standing after := by
  obtain ⟨known, marks⟩ := collecting.marking listed hold.charges marked
  have own : before.chargesOf loan = charges := congrArg (Option.getD · []) listed
  have others : ∀ charge ∈ charges, charge.id ∈ hold.charges → charge.kind ≠ .upfrontFee := by
    intro charge mem marked
    rw [collecting.held hold placed charge (own ▸ mem) marked]
    decide
  have outstanding (id : LoanId) : Charge.outstandingOf (after.chargesOf id) .upfrontFee =
      Charge.outstandingOf (before.chargesOf id) .upfrontFee := by
    rw [(marks id).1]
    split
    next same => rw [Charge.outstanding_marked_others others, same, own]
    next => rfl
  have collected (entry : LoanSetup) : after.Collected entry ↔ before.Collected entry := by
    refine forall₂_congr fun fee mem => ?_
    have kind : fee.kind = .upfrontFee := Charge.kind_of_outstanding (List.mem_filter.mp mem).2
    have kind : fee.settled.kind = .upfrontFee := kind
    rw [(marks _).1]
    split
    next same => rw [Charge.mem_marked_others others kind, same, own]
    next => rfl
  constructor
  case known => exact known
  case labels => exact fun entry mem => (marks _).2.trans (collecting.labels entry mem)
  case fees =>
    intro entry mem
    rw [outstanding, collected]
    exact collecting.fees entry mem
  case withdrawn =>
    intro id
    rw [feesOn_congr links fun entry _ => collected entry, Ledger.withdrawn, journal]
    exact collecting.withdrawn id
  case loaded =>
    intro _ is
    cases unloaded.symm.trans is
  case held =>
    intro _ is charge mem marked
    cases placed.symm.trans is
    obtain ⟨original, listed, sameId, sameKind⟩ := Charge.exists_of_labels (marks loan).2 mem
    rw [← sameKind]
    exact collecting.held hold placed original listed (sameId ▸ marked)

theorem Deed.collecting (deed : Deed scale loan standing before reached after)
    (collecting : Collecting entries scale loan standing before) : Collecting entries scale loan reached after := by
  have links := deed.links
  have still (id : AccountId) : before.withdrawn id = before.withdrawn id := rfl
  cases deed with
  | number => exact collecting.unmoved rfl links still collecting.loaded collecting.held
  | collect payment linked found withdrawn listed due =>
    exact collecting.collect definite (fun _ => rfl) linked listed due rfl links rfl
  | exempt due =>
    refine collecting.unmoved rfl links still (fun _ is => ?_) nofun
    cases is
    rfl
  | hold linked found held due =>
    refine collecting.unmoved rfl links (withdrawn_same rfl fun _ => rfl) collecting.loaded ?_
    intro _ is charge mem marked
    cases is
    rw [Charge.ids_of_due due] at marked
    exact collecting.hold_charges definite (collecting.loaded _ rfl) mem marked
  | giveBack linked found released =>
    exact collecting.unmoved rfl links (withdrawn_same rfl fun _ => rfl) collecting.loaded nofun
  | strand linked stays => exact collecting.unmoved rfl links still collecting.loaded nofun
  | payUnlinked unlinked disbursal =>
    cases disbursal
    exact collecting.unmoved rfl links (withdrawn_same rfl fun _ => rfl) nofun nofun
  | pay disbursal =>
    cases disbursal
    exact collecting.unmoved rfl links (withdrawn_same rfl fun _ => rfl) nofun collecting.held
  | turnDown rejected => exact collecting.unmoved rfl links still nofun nofun
  | mark listed => exact collecting.mark rfl rfl listed rfl links rfl
  | free known pledge linked found released =>
    exact collecting.unmoved rfl links (withdrawn_same rfl fun _ => rfl) nofun collecting.held
  | missing known pledge linked gone => exact collecting.unmoved rfl links still nofun collecting.held
  | keep known pledge failing => exact collecting.unmoved rfl links still nofun nofun
  | exchange known => exact collecting.unmoved rfl links still nofun nofun
  | pledge known unpledged => exact collecting.unmoved rfl links still nofun nofun
  | close nothing => exact collecting.unmoved rfl links still nofun nofun

omit definite in
theorem Filing.collecting (filing : Filing loan before after)
    (collecting : Collecting entries scale loan .begun before) : Collecting entries scale loan .begun after := by
  cases filing with
  | note text => exact collecting.unmoved rfl rfl (withdrawn_same rfl fun _ => rfl) nofun nofun
  | pass known passage =>
    exact collecting.unmoved rfl rfl (withdrawn_same rfl passage.withdraws_nothing) nofun nofun

theorem Conduct.collecting (conduct : Conduct scale loan before standing after) (inOrder : before.InOrder)
    (collecting : Collecting entries scale loan .begun before) : Collecting entries scale loan standing after :=
  conduct.keeps (Collecting entries scale loan) Filing.collecting (fun deed _ => deed.collecting definite)
    inOrder collecting

omit definite in
theorem Collecting.between (collecting : Collecting entries scale loan standing before) (other : LoanId) :
    Collecting entries scale other .begun before :=
  ⟨collecting.known, collecting.labels, collecting.fees, collecting.withdrawn, nofun, nofun⟩

theorem Lists.collecting {ledger : Ledger} (lists : ledger.Lists entries) (journal : ledger.journal = []) :
    Collecting entries scale loan .begun ledger := by
  have installed (entry : LoanSetup) (mem : entry ∈ entries) : ledger.chargesOf entry.loan.id = entry.charges := by
    rw [chargesOf, lists.charges entry mem, Option.getD_some]
  constructor
  case known =>
    intro id charges listed
    by_contra unknown
    have unlisted : id ∉ entries.map (·.loan.id) := fun mem => unknown (List.mem_map.mp mem)
    cases listed.symm.trans (lists.others id unlisted).2.1
  case labels => exact fun entry mem => by rw [installed entry mem]
  case fees =>
    intro entry mem
    rw [installed entry mem]
    exact Or.inl rfl
  case withdrawn =>
    intro id
    rw [withdrawn, journal, feesOn]
    refine (List.sum_eq_zero fun total mem => ?_).symm
    obtain ⟨entry, passed, rfl⟩ := List.mem_map.mp mem
    obtain ⟨listed, paid⟩ := List.mem_filter.mp passed
    have paid : ledger.Collected entry := (of_decide_eq_true paid).2
    have none : entry.fees = [] := by
      by_contra some_
      obtain ⟨fee, outstanding⟩ := List.exists_mem_of_ne_nil _ some_
      have settled := paid fee outstanding
      rw [installed entry listed] at settled
      exact Charge.settled_not_mem (definite.charges entry listed) outstanding settled
    rw [LoanSetup.feeTotal, none]
    exact Decimal.roundUnits_zero scale
  case loaded =>
    intro _ loaded
    cases loaded
  case held =>
    intro _ held
    cases held

end

end Ledger

namespace Desk

open Ledger (Collecting)

/-- On every run in which all sums fit, from loans and charges with distinct ids and fees whose
sums lose nothing: the fees that a loan was entered with are all outstanding still or all
paid, and what was withdrawn from an account is what those loans on it were to pay whose fees
are paid, the fees of each rounded as a whole. -/
theorem run_collects_fees_once {setup : Setup} {start : Desk} (installed : setup.install .empty = .ok () start)
    (distinct : (setup.loans.map (·.loan.id)).Nodup)
    (distinctCharges : ∀ entry ∈ setup.loans, (entry.charges.map (·.id)).Nodup)
    (lossless : ∀ entry ∈ setup.loans, ∀ sum,
      Decimal.sum (entry.fees.map (·.outstanding)) = .ok sum → sum.units = entry.feeTotal)
    (events : List Event) (calm : start.calm setup.settings events = true) :
    let ledger := (start.run setup.settings events).ledger
    (∀ entry ∈ setup.loans, (ledger.chargesOf entry.loan.id).map (·.id) = entry.charges.map (·.id) ∧
      ((∀ fee ∈ entry.fees, fee ∈ ledger.chargesOf entry.loan.id) ∨ ledger.Collected entry)) ∧
      ∀ id, ledger.withdrawn id = ledger.feesOn setup.settings.moneyScale setup.loans id := by
  intro ledger
  have opening := Setup.opens installed
  have definite : LoanSetup.Definite setup.loans := ⟨distinct, distinctCharges, lossless⟩
  have lists : start.ledger.Lists setup.loans :=
    (Setup.install_lists installed distinct (fun _ _ => True) (fun _ _ _ _ _ _ _ _ _ => trivial) trivial).1
  have collecting : ∀ loan, Collecting setup.loans setup.settings.moneyScale loan .begun ledger := by
    refine calm_run_conducts
      (fun ledger => ∀ loan, Collecting setup.loans setup.settings.moneyScale loan .begun ledger) events
      ?_ ?_ ?_ calm opening.orderly fun _ => lists.collecting definite opening.journal
    · exact fun _ inOrder conduct kept other => (conduct.collecting definite inOrder (kept _)).between other
    · exact fun op _ _ kept loan => (kept loan).unmoved rfl rfl (fun _ => rfl) nofun nofun
    · exact fun op _ kept loan => (kept loan).unmoved rfl rfl (fun _ => rfl) nofun nofun
  refine ⟨fun entry mem => ⟨?_, ?_⟩, (collecting 0).withdrawn⟩
  · exact Charge.ids_of_labels ((collecting 0).labels entry mem)
  · refine ((collecting 0).fees entry mem).imp (fun same fee outstanding => ?_) And.right
    rw [← same] at outstanding
    exact List.mem_of_mem_filter outstanding

/-- The fee of the sample is withdrawn at the first attempt and not again at the second. -/
theorem sample_fees_collected :
    let events := [.command .epoch (.build 1), .command .epoch (.approve 1 1 "" none none), .failOn .disburse,
      .command .epoch (.approve 1 2 "" none none), .heal .disburse, .command .epoch (.approve 1 2 "" none none)]
    let ledger := (sample.run .standard events).ledger
    (∀ entry ∈ Setup.sample.loans, ledger.Collected entry) ∧ ledger.withdrawn 7 = 10 * Digits.tenPow 28 ∧
      ∀ id, ledger.withdrawn id = ledger.feesOn 2 Setup.sample.loans id := by
  intro events ledger
  have lossless : ∀ entry ∈ Setup.sample.loans, ∀ sum,
      Decimal.sum (entry.fees.map (·.outstanding)) = .ok sum → sum.units = entry.feeTotal := by
    intro entry mem sum summed
    obtain rfl := List.mem_singleton.mp mem
    cases summed
    rfl
  have collected := run_collects_fees_once sample_installed (by decide) (by decide) lossless events (by decide +kernel)
  exact ⟨by decide +kernel, by decide +kernel, collected.2⟩

end Desk

end Countersign
