import Countersign.Proofs.SettlementCourse

/-!
What a command writes in the ledger, in the order in which it writes. Every operation has its
turn in a command, and nothing is written out of turn; so each is written once at most. What
the command marks paid goes with it: the charges that were due when the money was withdrawn
or put on hold, told by their ids.
-/

namespace Countersign

def JournalEntry.Concerns (links : Table AccountId) (loan : LoanId) : JournalEntry → Prop
  | .submitForApproval id _ _ => id = loan
  | .disburse id _ _ _ => id = loan
  | .hold account id _ _ => links.get? loan = some account ∧ id = some loan
  | .release account _ => links.get? loan = some account
  | .withdraw account _ _ _ => links.get? loan = some account
  | .reject id => id = loan
  | .undoApproval id => id = loan
  | .appendNote id _ => id = loan
  | .forceStatus id _ => id = loan

namespace Ledger

theorem marked_nil (charges : List Charge) : marked [] charges = charges := List.map_id charges

theorem marked_marked (ids more : List ChargeId) (charges : List Charge) :
    marked more (marked ids charges) = marked (ids ++ more) charges := by
  unfold marked
  rw [List.map_map]
  apply List.map_congr_left
  intro charge _
  by_cases paid : charge.id ∈ ids
  · simp [paid, Charge.settled]
  · simp [paid]

/-- What work on a loan writes: entries that have their turn among these operations, and charges
of the loan that it marks paid. -/
structure Writes (loan : LoanId) (turns : List LedgerOp) (entries : List JournalEntry) (paid : List ChargeId)
    (before after : Ledger) : Prop where
  journal : after.journal = before.journal ++ entries
  links : after.links = before.links
  charges : after.chargesOf loan = marked paid (before.chargesOf loan)
  others : ∀ other, other ≠ loan → after.chargesOf other = before.chargesOf other
  inTurn : (entries.map (·.op)).Sublist turns
  own : ∀ entry ∈ entries, entry.Concerns before.links loan

namespace Writes

variable {loan : LoanId} {turns later : List LedgerOp} {entries more : List JournalEntry} {paid extra : List ChargeId}
  {before middle after : Ledger}

theorem trans (first : Writes loan turns entries paid before middle)
    (rest : Writes loan later more extra middle after) :
    Writes loan (turns ++ later) (entries ++ more) (paid ++ extra) before after where
  journal := by rw [rest.journal, first.journal, List.append_assoc]
  links := rest.links.trans first.links
  charges := by rw [rest.charges, first.charges, marked_marked]
  others other foreign := (rest.others other foreign).trans (first.others other foreign)
  inTurn := by
    rw [List.map_append]
    exact first.inTurn.append rest.inTurn
  own entry mem := by
    rcases List.mem_append.mp mem with early | late
    · exact first.own entry early
    · exact first.links ▸ rest.own entry late

theorem widen (writes : Writes loan turns entries paid before after) (among : turns.Sublist later) :
    Writes loan later entries paid before after :=
  { writes with inTurn := writes.inTurn.trans among }

theorem silent (turns : List LedgerOp) (journal : after.journal = before.journal) (links : after.links = before.links)
    (charges : after.charges = before.charges) : Writes loan turns [] [] before after where
  journal := by rw [journal, List.append_nil]
  links := links
  charges := by rw [marked_nil, chargesOf, charges, chargesOf]
  others other _ := by rw [chargesOf, charges, chargesOf]
  inTurn := List.nil_sublist _
  own := List.forall_mem_nil _

theorem nothing (turns : List LedgerOp) (ledger : Ledger) : Writes loan turns [] [] ledger ledger :=
  silent turns rfl rfl rfl

theorem entry {entry : JournalEntry} {op : LedgerOp} (turn : entry.op = op)
    (journal : after.journal = before.journal ++ [entry]) (links : after.links = before.links)
    (charges : after.charges = before.charges) (own : entry.Concerns before.links loan) :
    Writes loan [op] [entry] [] before after where
  journal := journal
  links := links
  charges := by rw [marked_nil, chargesOf, charges, chargesOf]
  others other _ := by rw [chargesOf, charges, chargesOf]
  inTurn := by rw [List.map_singleton, turn]
  own other mem := by
    rw [List.mem_singleton.mp mem]
    exact own

theorem marks {charges : List Charge} (listed : before.charges.get? loan = some charges) (ids : List ChargeId) :
    Writes loan [] [] ids before (before.withMarked loan ids charges) where
  journal := (List.append_nil _).symm
  links := rfl
  charges := by
    rw [chargesOf, chargesOf, listed, withMarked, Table.get?_insert, if_pos rfl]
    rfl
  others other foreign := by
    rw [chargesOf, chargesOf, withMarked, Table.get?_insert, if_neg foreign]
  inTurn := List.nil_sublist _
  own := List.forall_mem_nil _

theorem op_ne (writes : Writes loan turns entries paid before after) {op : LedgerOp} (never : op ∉ turns) :
    ∀ entry ∈ entries, entry.op ≠ op := by
  intro entry mem same
  exact never (same ▸ writes.inTurn.subset (List.mem_map_of_mem mem))

end Writes

/-- What is released is a hold that was placed just before, for a disbursal that came to nothing, or
the lien that the loan had. -/
def Frees (loan : LoanId) (lien : Option TransactionId) (entries : List JournalEntry) : Prop :=
  ∀ account transaction, .release account transaction ∈ entries →
    (∃ amount, .hold account (some loan) amount transaction ∈ entries) ∧ (∀ entry ∈ entries, entry.op ≠ .disburse) ∨
      lien = some transaction

/-- The charges of this id are among those that were due, and their sum is withdrawn or on hold. -/
inductive Drawn (scale : Nat) (charges : List Charge) (loan : LoanId) (entries : List JournalEntry) :
    ChargeId → Prop where
  | withdrawn {ids : List ChargeId} {amount : Amount} {account : AccountId} {payment : PaymentTypeId}
      {transaction : TransactionId} {id : ChargeId}
      (due : Charge.due charges .upfrontFee scale = .ok (some (ids, amount))) (among : id ∈ ids)
      (entered : .withdraw account amount.value payment transaction ∈ entries) : Drawn scale charges loan entries id
  | held {ids : List ChargeId} {amount : Amount} {account : AccountId} {transaction : TransactionId} {id : ChargeId}
      (due : Charge.due charges .upfrontHold scale = .ok (some (ids, amount))) (among : id ∈ ids)
      (entered : .hold account (some loan) amount.value transaction ∈ entries) : Drawn scale charges loan entries id

structure Dealing (scale : Nat) (loan : LoanId) (lien : Option TransactionId) (turns : List LedgerOp)
    (entries : List JournalEntry) (paid : List ChargeId) (before after : Ledger) : Prop
    extends Writes loan turns entries paid before after where
  frees : Frees loan lien entries
  drawn : ∀ id ∈ paid, Drawn scale (before.chargesOf loan) loan entries id

def Deals (scale : Nat) (loan : LoanId) (lien : Option TransactionId) (turns : List LedgerOp)
    (before after : Ledger) : Prop :=
  ∃ entries paid, Dealing scale loan lien turns entries paid before after

variable {scale : Nat} {loan : LoanId} {lien : Option TransactionId} {turns later : List LedgerOp}
  {entries more : List JournalEntry} {paid extra : List ChargeId} {before middle after : Ledger}

theorem Drawn.mono {charges : List Charge} {id : ChargeId} (drawn : Drawn scale charges loan entries id)
    (among : entries ⊆ more) : Drawn scale charges loan more id := by
  cases drawn with
  | withdrawn due member entered => exact .withdrawn due member (among entered)
  | held due member entered => exact .held due member (among entered)

theorem Frees.of_never (never : ∀ entry ∈ entries, entry.op ≠ .release) : Frees loan lien entries :=
  fun _ _ released => absurd rfl (never _ released)

theorem Writes.dealing (writes : Writes loan turns entries [] before after) (never : .release ∉ turns) :
    Dealing scale loan lien turns entries [] before after where
  toWrites := writes
  frees := .of_never (writes.op_ne never)
  drawn := List.forall_mem_nil _

theorem Writes.deals (writes : Writes loan turns entries [] before after) (never : .release ∉ turns) :
    Deals scale loan lien turns before after :=
  ⟨_, _, writes.dealing never⟩

theorem Dealing.after_writes (first : Writes loan turns entries [] before middle)
    (early : .release ∉ turns ∧ .disburse ∉ turns) (rest : Dealing scale loan lien later more paid middle after) :
    Dealing scale loan lien (turns ++ later) (entries ++ more) paid before after where
  toWrites := first.trans rest.toWrites
  frees account transaction released := by
    have behind := (List.mem_append.mp released).resolve_left fun front => first.op_ne early.1 _ front rfl
    rcases rest.frees account transaction behind with ⟨⟨amount, held⟩, unpaid⟩ | same
    · refine Or.inl ⟨⟨amount, List.mem_append_right _ held⟩, fun entry mem => ?_⟩
      rcases List.mem_append.mp mem with front | back
      · exact first.op_ne early.2 entry front
      · exact unpaid entry back
    · exact Or.inr same
  drawn id mem := by
    have sameCharges := first.charges
    rw [marked_nil] at sameCharges
    exact sameCharges ▸ (rest.drawn id mem).mono (List.subset_append_right _ _)

theorem Dealing.further (first : Dealing scale loan lien turns entries paid before middle)
    (rest : Writes loan later more extra middle after) (frees : Frees loan lien (entries ++ more))
    (drawn : ∀ id ∈ extra, Drawn scale (before.chargesOf loan) loan (entries ++ more) id) :
    Dealing scale loan lien (turns ++ later) (entries ++ more) (paid ++ extra) before after where
  toWrites := first.toWrites.trans rest
  frees := frees
  drawn id mem := by
    rcases List.mem_append.mp mem with early | late
    · exact (first.drawn id early).mono (List.subset_append_left _ _)
    · exact drawn id late

theorem Dealing.unreleased (first : Dealing scale loan lien turns entries paid before middle)
    (rest : Writes loan later more [] middle after) (never : .release ∉ turns ++ later) :
    Dealing scale loan lien (turns ++ later) (entries ++ more) (paid ++ []) before after :=
  first.further rest (.of_never ((first.toWrites.trans rest).op_ne never)) (List.forall_mem_nil _)

theorem Dealing.widen (dealing : Dealing scale loan lien turns entries paid before after)
    (among : turns.Sublist later) : Dealing scale loan lien later entries paid before after :=
  ⟨dealing.toWrites.widen among, dealing.frees, dealing.drawn⟩

theorem Deals.widen (deals : Deals scale loan lien turns before after) (among : turns.Sublist later) :
    Deals scale loan lien later before after := by
  obtain ⟨entries, paid, dealing⟩ := deals
  exact ⟨entries, paid, dealing.widen among⟩

theorem Deals.unchanged (same : after = before) : Deals scale loan lien turns before after := by
  subst same
  exact ⟨[], [], ((Writes.nothing [] after).dealing List.not_mem_nil).widen (List.nil_sublist _)⟩

def HeldFor (scale : Nat) (charges : List Charge) (loan : LoanId) (account : AccountId) (entries : List JournalEntry)
    (booking : Booking) : Prop :=
  ∃ amount, Charge.due charges .upfrontHold scale = .ok (some (booking.charges, amount)) ∧
    .hold account (some loan) amount.value booking.transaction ∈ entries

theorem HeldFor.mono {charges : List Charge} {account : AccountId} {booking : Booking}
    (held : HeldFor scale charges loan account entries booking) (among : entries ⊆ more) :
    HeldFor scale charges loan account more booking := by
  obtain ⟨amount, due, entered⟩ := held
  exact ⟨amount, due, among entered⟩

/-! The changes of a ledger operation that may not go through. -/

theorem charged_writes (ledger : Ledger) (loan : LoanId) (ids : Option (List ChargeId)) :
    ∃ paid, Writes loan [] [] paid ledger (ledger.charged loan ids) ∧
      ∀ id ∈ paid, ∃ listed, ids = some listed ∧ id ∈ listed := by
  unfold charged
  cases ids with
  | none => exact ⟨[], .nothing _ _, List.forall_mem_nil _⟩
  | some ids =>
    cases listed : ledger.charges.get? loan with
    | none => exact ⟨[], .nothing _ _, List.forall_mem_nil _⟩
    | some charges => exact ⟨ids, .marks listed ids, fun _ mem => ⟨ids, rfl, mem⟩⟩

theorem withLien_writes (ledger : Ledger) (record : Loan) (lien released : Option TransactionId) :
    Writes loan [] [] [] ledger (ledger.withLien record lien released) := by
  unfold withLien relined
  split
  · split
    · exact .silent _ rfl rfl rfl
    · exact .nothing _ _
  · exact .nothing _ _

end Ledger

def Work.Leaves {α : Type} (change : Ledger → Ledger → Prop) (work : Work Desk α) (desk : Desk) : Prop :=
  Ends work desk (fun _ after => change desk.ledger after.ledger) fun _ after => change desk.ledger after.ledger

theorem Work.Leaves.map {α β : Type} {change : Ledger → Ledger → Prop} {work : Work Desk α} {desk : Desk}
    (leaves : Leaves change work desk) (wrap : α → β) : Leaves change (do pure (wrap (← work))) desk :=
  Ends.andThen leaves (fun _ _ changed => changed) fun _ _ changed => changed

abbrev Work.Deals {α : Type} (scale : Nat) (loan : LoanId) (lien : Option TransactionId) (turns : List LedgerOp)
    (work : Work Desk α) (desk : Desk) : Prop :=
  Leaves (Ledger.Deals scale loan lien turns) work desk

end Countersign
