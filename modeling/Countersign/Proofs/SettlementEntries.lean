import Countersign.Proofs.LedgerWriting

/-!
The entries of a disbursal. The fees are withdrawn and marked paid, the hold is placed, the
loan is paid out, and a hold is released: the one just placed where the loan was not paid out,
and the lien that the loan had where it was. The disbursal can break off anywhere between, on
a sum that does not fit as well, and what it has written by then is the beginning of that.
-/

namespace Countersign

namespace Ledger

/-- What is settled around a disbursal is on the account of the loan, and its hold is entered. -/
structure Provided (scale : Nat) (loan : LoanId) (ledger : Ledger) (entries : List JournalEntry)
    (settlement : Settlement) : Prop where
  linked : ledger.links.get? loan = some settlement.account
  held : ∀ booking, settlement.hold = some booking →
    HeldFor scale (ledger.chargesOf loan) loan settlement.account entries booking

def GivesBack (loan : LoanId) (account : AccountId) (transaction : TransactionId) (before after : Ledger) : Prop :=
  ∃ entries, Writes loan [.release] entries [] before after ∧ ∀ entry ∈ entries, entry = .release account transaction

def Relieves (loan : Loan) (before after : Ledger) : Prop :=
  ∃ entries, Writes loan.id [.release] entries [] before after ∧
    ∀ entry ∈ entries, ∃ account lien, loan.lien = some lien ∧ entry = .release account lien

/-- What is left to be written once the loan is paid out: its lien is released, and the charges that
the hold was placed for are paid. -/
def Concludes (loan : Loan) (settlement : Option Settlement) (before after : Ledger) : Prop :=
  ∃ entries paid, Writes loan.id [.release] entries paid before after ∧
    (∀ entry ∈ entries, ∃ account lien, loan.lien = some lien ∧ entry = .release account lien) ∧
    ∀ id ∈ paid, ∃ settled booking, settlement = some settled ∧ settled.hold = some booking ∧ id ∈ booking.charges

abbrev disbursalTurns : List LedgerOp := [.withdraw, .hold, .disburse, .release]

variable {loan : Loan} {before middle after : Ledger}

theorem GivesBack.relieves {account : AccountId} {lien : TransactionId}
    (gives : GivesBack loan.id account lien before after) (pledge : loan.lien = some lien) :
    Relieves loan before after := by
  obtain ⟨entries, writes, only⟩ := gives
  exact ⟨entries, writes, fun entry mem => ⟨account, lien, pledge, only entry mem⟩⟩

theorem Relieves.nothing (loan : Loan) (ledger : Ledger) : Relieves loan ledger ledger :=
  ⟨[], .nothing _ _, List.forall_mem_nil _⟩

theorem Relieves.silently (relieves : Relieves loan before middle) (rest : Writes loan.id [] [] [] middle after) :
    Relieves loan before after := by
  obtain ⟨entries, writes, freed⟩ := relieves
  have both := writes.trans rest
  simp only [List.append_nil] at both
  exact ⟨entries, both, freed⟩

theorem Relieves.deals (relieves : Relieves loan before after) (scale : Nat) :
    Deals scale loan.id loan.lien [.release] before after := by
  obtain ⟨entries, writes, freed⟩ := relieves
  refine ⟨entries, [], writes, fun account transaction released => ?_, List.forall_mem_nil _⟩
  obtain ⟨_, lien, pledge, same⟩ := freed _ released
  cases same
  exact Or.inr pledge

end Ledger

namespace Engine

open Ledger (Writes Dealing Deals HeldFor Provided GivesBack Relieves Concludes disbursalTurns)

variable (settings : Settings) (now : Timestamp) {desk : Desk} {loan : Loan} {lien : Option TransactionId}

theorem due_reads (charges : List Charge) (kind : ChargeKind) (desk : Desk) :
    Ends ((Desk.engine settings now).due charges kind) desk
      (fun due after => after = desk ∧ Charge.due charges kind settings.moneyScale = .ok due)
      fun _ after => after = desk := by
  unfold Ends
  rw [due_apply]
  cases Charge.due charges kind settings.moneyScale <;> simp

theorem move_writes (task : LedgerTask) (op : LedgerOp) (id : AccountId)
    (change : TransactionId → Account → Except Ledger.Stop Account) (entry : TransactionId → JournalEntry)
    {loan : LoanId} (turn : ∀ transaction, (entry transaction).op = op)
    (own : ∀ transaction, (entry transaction).Concerns desk.ledger.links loan) :
    Ends (Work.demand task (Desk.onLedger (do
      Ledger.check op
      let transaction ← Ledger.nextTransaction
      Ledger.changeAccount id (change transaction)
      Ledger.enter (entry transaction)
      pure transaction))) desk
      (fun transaction after => Writes loan [op] [entry transaction] [] desk.ledger after.ledger)
      fun _ after => Writes loan [op] [] [] desk.ledger after.ledger := by
  apply (demand_ends task (Ledger.move_ends op id change entry desk.ledger)).imp
  · intro transaction _ ended
    obtain ⟨_, rfl, _, _, _, changed, _, _, rfl⟩ := ended
    exact .entry (turn transaction) rfl rfl rfl (own transaction)
  · intro _ _ ended
    rcases ended with ⟨_, rfl, ⟨_, _, ⟨_, _, rfl⟩ | ⟨_, rfl⟩⟩ | ⟨_, _, ⟨_, _, rfl⟩ | ⟨_, rfl⟩⟩⟩
    · exact .nothing _ _
    · exact .silent _ rfl rfl rfl
    · exact .nothing _ _
    · exact .silent _ rfl rfl rfl

theorem markPaid_writes (task : LedgerTask) (loan : LoanId) (ids : List ChargeId) (desk : Desk) :
    Ends (Work.demand task (Desk.onLedger (Ledger.markPaid loan ids))) desk
      (fun _ after => Writes loan [] [] ids desk.ledger after.ledger)
      fun _ after => Writes loan [] [] [] desk.ledger after.ledger := by
  apply (demand_ends task (Ledger.markPaid_ends loan ids desk.ledger)).imp
  · intro _ _ ended
    obtain ⟨_, rfl, charges, listed, rfl⟩ := ended
    exact .marks listed ids
  · intro _ _ ended
    rcases ended with ⟨_, rfl, ⟨_, _, _, _, rfl⟩ | ⟨_, _, _, _, rfl⟩⟩ <;> exact .nothing _ _

theorem release_gives_back {account : AccountId} (linked : desk.ledger.links.get? loan.id = some account)
    (transaction : TransactionId) :
    Work.Leaves (GivesBack loan.id account transaction) (Desk.onLedger (Ledger.release account transaction)) desk := by
  apply (onLedger_ends (Ledger.release_ends account transaction desk.ledger)).imp
  · intro _ _ ended
    rcases ended with ⟨_, rfl, ⟨_, _, _, _, changed, _, _, rfl⟩ | ⟨_, _, _, rfl⟩⟩
    · exact ⟨[.release account transaction], .entry rfl rfl rfl rfl linked, fun _ => List.mem_singleton.mp⟩
    · exact ⟨[], .nothing _ _, List.forall_mem_nil _⟩
  · intro _ _ ended
    obtain ⟨_, rfl, _, _, _, rfl⟩ := ended
    exact ⟨[], .nothing _ _, List.forall_mem_nil _⟩

/-! Before the disbursal. -/

section

variable {account : AccountId} {charges : List Charge}

theorem withdrawFees_deals (linked : desk.ledger.links.get? loan.id = some account)
    (charged : charges = desk.ledger.chargesOf loan.id) (payment : Option PaymentTypeId) :
    Work.Deals settings.moneyScale loan.id lien [.withdraw]
      ((Desk.engine settings now).withdrawFees loan account charges payment) desk := by
  subst charged
  apply (due_reads settings now _ .upfrontFee desk).andThen
  · intro answer _ ended
    obtain ⟨rfl, due⟩ := ended
    rcases answer with _ | ⟨ids, amount⟩
    · exact .unchanged rfl
    · apply (move_writes .withdrawFees .withdraw account (fun _ account => account.withdraw amount.value)
        (.withdraw account amount.value _) (fun _ => rfl) fun _ => linked).andThen
      · intro transaction paid withdrawn
        have dealing : Dealing settings.moneyScale loan.id lien [.withdraw] _ [] _ _ := withdrawn.dealing (by decide)
        apply (markPaid_writes .markFeesPaid loan.id ids paid).andThen
        · intro _ _ marked
          refine ⟨_, _, dealing.further marked ?_ ?_⟩
          · exact .of_never ((withdrawn.trans marked).op_ne (by decide))
          · exact fun id among => .withdrawn due among List.mem_cons_self
        · exact fun _ _ marked => ⟨_, _, dealing.further marked dealing.frees dealing.drawn⟩
      · exact fun _ _ silent => silent.deals (by decide)
  · exact fun _ _ same => .unchanged (congrArg _ same)

theorem holdCharges_deals (linked : desk.ledger.links.get? loan.id = some account) :
    Ends ((Desk.engine settings now).holdCharges loan account charges) desk
      (fun hold after => ∃ entries, Writes loan.id [.hold] entries [] desk.ledger after.ledger ∧
        ∀ booking, hold = some booking → HeldFor settings.moneyScale charges loan.id account entries booking)
      fun _ after => Writes loan.id [.hold] [] [] desk.ledger after.ledger := by
  apply (due_reads settings now charges .upfrontHold desk).andThen
  · intro answer _ ended
    obtain ⟨rfl, due⟩ := ended
    rcases answer with _ | ⟨ids, amount⟩
    · exact ⟨[], .nothing _ _, fun _ none => by cases none⟩
    · refine (move_writes .holdCharges .hold account (fun transaction account => account.hold transaction amount.value)
        (.hold account (some loan.id) amount.value) (fun _ => rfl) fun _ => ⟨linked, rfl⟩).andThen ?_ fun _ _ no => no
      intro transaction after held
      refine ⟨_, held, fun booking is => ?_⟩
      cases is
      exact ⟨amount, due, List.mem_cons_self⟩
  · intro _ _ same
    rw [same]
    exact .nothing _ _

end

theorem settleBefore_deals (loan : Loan) (payment : Option PaymentTypeId) (desk : Desk) :
    Ends ((Desk.engine settings now).settleBefore loan payment) desk
      (fun settlement after => ∃ entries paid,
        Dealing settings.moneyScale loan.id lien [.withdraw, .hold] entries paid desk.ledger after.ledger ∧
          ∀ settled, settlement = some settled → Provided settings.moneyScale loan.id desk.ledger entries settled)
      fun _ after => Deals settings.moneyScale loan.id lien [.withdraw, .hold] desk.ledger after.ledger := by
  unfold settleBefore
  apply (onLedger_ends (Ledger.findAccount_ends loan.id desk.ledger)).andThen
  · intro _ _ ended
    rcases ended with ⟨_, rfl, ⟨account, rfl, _, linked, rfl⟩ | ⟨error, rfl, _, rfl⟩⟩
    · apply (loadCharges_ends settings now loan.id _).certainly
      intro charges _ ended
      obtain ⟨charged, rfl⟩ := ended
      apply (withdrawFees_deals settings now linked charged payment).andThen
      · intro fees collected ended
        obtain ⟨entries, paid, dealing⟩ := ended
        have stillLinked : collected.ledger.links.get? loan.id = some account := by
          rw [dealing.links]
          exact linked
        apply (holdCharges_deals settings now stillLinked).andThen
        · intro hold ready ended
          obtain ⟨more, writes, held⟩ := ended
          refine ⟨_, _, dealing.unreleased writes (by decide), fun settled is => ?_⟩
          cases is
          refine ⟨linked, fun booking is => ?_⟩
          exact charged ▸ (held booking is).mono (List.subset_append_right _ _)
        · exact fun _ _ writes => ⟨_, _, dealing.unreleased writes (by decide)⟩
      · exact fun _ _ deals => deals.widen (by decide)
    · cases error with
      | notFound what =>
        exact ⟨[], [], (Writes.nothing _ _).dealing (by decide), fun _ none => by cases none⟩
      | rejected why => exact .unchanged rfl
      | unavailable outage => exact .unchanged rfl
  · intro _ _ ended
    obtain ⟨_, rfl, _, _, _, rfl⟩ := ended
    exact .unchanged rfl

/-! After it. -/

theorem unsettle_deals {start ready : Desk} {entries : List JournalEntry} {paid : List ChargeId}
    {settlement : Option Settlement}
    (dealing : Dealing settings.moneyScale loan.id lien [.withdraw, .hold] entries paid start.ledger ready.ledger)
    (provided : ∀ settled, settlement = some settled →
      Provided settings.moneyScale loan.id start.ledger entries settled) :
    Ends ((Desk.engine settings now).unsettle settlement) ready
      (fun _ after => Deals settings.moneyScale loan.id lien disbursalTurns start.ledger after.ledger)
      fun _ after => Deals settings.moneyScale loan.id lien disbursalTurns start.ledger after.ledger := by
  have early : Deals settings.moneyScale loan.id lien disbursalTurns start.ledger ready.ledger :=
    ⟨_, _, dealing.widen (by decide)⟩
  rcases settlement with _ | ⟨account, fees, _ | hold⟩
  · exact early
  · exact early
  · obtain ⟨linked, held⟩ := provided _ rfl
    obtain ⟨amount, _, placed⟩ := held hold rfl
    rw [← dealing.links] at linked
    have unreleased : ∀ entry ∈ entries, entry.op ≠ .release := dealing.op_ne (by decide)
    have back {after : Desk} (gives : GivesBack loan.id account hold.transaction ready.ledger after.ledger) :
        Deals settings.moneyScale loan.id lien disbursalTurns start.ledger after.ledger := by
      obtain ⟨more, writes, only⟩ := gives
      refine ⟨_, _, (dealing.further writes ?_ (List.forall_mem_nil _)).widen (by decide)⟩
      intro id transaction released
      cases only _ ((List.mem_append.mp released).resolve_left fun front => unreleased _ front rfl)
      refine Or.inl ⟨⟨amount.value, List.mem_append_left _ placed⟩, fun entry mem => ?_⟩
      rcases List.mem_append.mp mem with front | behind
      · exact dealing.op_ne (by decide) entry front
      · rw [only entry behind]
        exact nofun
    exact (release_gives_back linked hold.transaction).andThen (fun _ _ => back) fun _ _ => back

theorem releasePrevious_relieves {account : AccountId} (linked : desk.ledger.links.get? loan.id = some account) :
    Work.Leaves (Relieves loan) ((Desk.engine settings now).releasePrevious loan account) desk := by
  unfold releasePrevious
  cases pledge : loan.lien with
  | none => exact .nothing loan _
  | some previous =>
    refine (release_gives_back linked previous).andThen ?_ fun _ _ gives => gives.relieves pledge
    intro reply _ gives
    rcases reply with error | _
    · cases error <;> exact gives.relieves pledge
    · exact gives.relieves pledge

theorem settleAfter_concludes {settlement : Option Settlement}
    (linked : ∀ settled, settlement = some settled → desk.ledger.links.get? loan.id = some settled.account) :
    Ends ((Desk.engine settings now).settleAfter loan settlement) desk
      (fun _ after => Concludes loan settlement desk.ledger after.ledger)
      fun _ after => Concludes loan settlement desk.ledger after.ledger := by
  rcases settlement with _ | ⟨account, fees, hold⟩
  · exact ⟨[], [], .nothing _ _, List.forall_mem_nil _, List.forall_mem_nil _⟩
  · apply (markHoldsPaid_ends settings now loan hold desk).certainly
    intro _ _ same
    obtain rfl := same
    obtain ⟨paid, marked, among⟩ := Ledger.charged_writes desk.ledger loan.id (hold.map (·.charges))
    have held : ∀ id ∈ paid, ∃ settled booking, some (⟨account, fees, hold⟩ : Settlement) = some settled ∧
        settled.hold = some booking ∧ id ∈ booking.charges := by
      intro id mem
      obtain ⟨listed, is, member⟩ := among id mem
      obtain ⟨booking, booked, rfl⟩ := Option.map_eq_some_iff.mp is
      exact ⟨_, booking, rfl, booked, member⟩
    have stillLinked : (desk.ledger.charged loan.id (hold.map (·.charges))).links.get? loan.id = some account := by
      rw [marked.links]
      exact linked _ rfl
    have concludes {after : Ledger}
        (relieves : Relieves loan (desk.ledger.charged loan.id (hold.map (·.charges))) after) :
        Concludes loan (some ⟨account, fees, hold⟩) desk.ledger after := by
      obtain ⟨entries, released, freed⟩ := relieves
      have writes := marked.trans released
      simp only [List.append_nil] at writes
      exact ⟨entries, paid, writes, freed, held⟩
    apply (releasePrevious_relieves settings now stillLinked).andThen
    · intro answer _ relieves
      obtain ⟨previous, _⟩ := answer
      apply (recordLien_ends settings now loan (hold.map (·.transaction)) previous _).certainly
      intro _ _ same
      obtain rfl := same
      exact concludes (relieves.silently (Ledger.withLien_writes ..))
    · exact fun _ _ => concludes

theorem paid_deals {settlement : Option Settlement} {start ready disbursed after : Ledger}
    {entries : List JournalEntry} {paid : List ChargeId} {scale : Nat} {entry : JournalEntry}
    (dealing : Dealing scale loan.id loan.lien [.withdraw, .hold] entries paid start ready)
    (provided : ∀ settled, settlement = some settled → Provided scale loan.id start entries settled)
    (disburses : Writes loan.id [.disburse] [entry] [] ready disbursed)
    (concludes : Concludes loan settlement disbursed after) :
    Deals scale loan.id loan.lien disbursalTurns start after := by
  obtain ⟨more, extra, writes, freed, held⟩ := concludes
  have unreleased : ∀ entry ∈ entries, entry.op ≠ .release := dealing.op_ne (by decide)
  have unreleasing : ∀ other ∈ [entry], other.op ≠ .release := disburses.op_ne (by decide)
  refine ⟨_, _, dealing.further (disburses.trans writes) ?_ ?_⟩
  · intro account transaction released
    have behind := (List.mem_append.mp released).resolve_left fun front => unreleased _ front rfl
    have last := (List.mem_append.mp behind).resolve_left fun disbursal => unreleasing _ disbursal rfl
    obtain ⟨_, lien, pledge, same⟩ := freed _ last
    cases same
    exact Or.inr pledge
  · intro id mem
    obtain ⟨settled, booking, isSettled, isBooking, among⟩ := held id mem
    obtain ⟨amount, due, placed⟩ := (provided settled isSettled).held booking isBooking
    exact .held due among (List.mem_append_left _ placed)

theorem disburse_deals (loan : Loan) (date : ValueDate) (payment : Option PaymentTypeId) (note : String)
    (desk : Desk) :
    Work.Deals settings.moneyScale loan.id loan.lien disbursalTurns
      ((Desk.engine settings now).disburse loan date payment note) desk := by
  unfold disburse
  apply (settleBefore_deals settings now loan payment desk).andThen
  · intro settlement ready ended
    obtain ⟨entries, paid, dealing, provided⟩ := ended
    apply (onLedger_ends (Ledger.pass_ends .disburse loan.id _ .active
      (.disburse loan.id loan.principal date payment) ready.ledger)).andThen
    · intro _ _ ended
      rcases ended with ⟨_, rfl, ⟨_, rfl, _, record, _, _, rfl⟩ | ⟨_, rfl, _, _, rfl⟩⟩
      · let disbursed : Desk := { ready with
          ledger := ready.ledger.passed loan.id record .active (.disburse loan.id loan.principal date payment) }
        have disburses : Writes loan.id [.disburse] [.disburse loan.id loan.principal date payment] [] ready.ledger
            disbursed.ledger := .entry rfl rfl rfl rfl rfl
        have linked : ∀ settled, settlement = some settled →
            disbursed.ledger.links.get? loan.id = some settled.account := by
          intro settled is
          rw [disburses.links, dealing.links]
          exact (provided settled is).linked
        apply (settleAfter_concludes settings now linked).andThen
        · exact fun _ _ concludes => paid_deals dealing provided disburses concludes
        · exact fun _ _ concludes => paid_deals dealing provided disburses concludes
      · exact (unsettle_deals settings now dealing provided).andThen (fun _ _ deals => deals) fun _ _ deals => deals
    · intro _ _ ended
      obtain ⟨_, _, _, _, _, ⟨_, isRefusal⟩, _⟩ := ended
      cases isRefusal
  · exact fun _ _ deals => deals.widen (by decide)

end Engine

end Countersign
