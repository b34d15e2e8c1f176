import Countersign.Proofs.Outcome
import Countersign.Proofs.Retrying

/-!
Disbursing again. Each piece of a disbursal is compared with the same piece of an undisturbed
one on which nothing was lost. There are two ledgers from which it is tried again, the one
before the fees and the one after them; once the loan is paid out the command goes through.
-/

namespace Countersign

namespace Ledger

/-- How an undisturbed disbursal is prepared, with the ledger once the fees are paid and once
the hold is placed. -/
inductive Prepared (loan : LoanId) (payment : PaymentTypeId) (scale : Nat) (a : Ledger) :
    Option Settlement → Ledger → Ledger → Prop where
  | unlinked (missing : a.links.get? loan = none) : Prepared loan payment scale a none a a
  | linked {account : AccountId} {paid ready : Ledger} {booked hold : Option Booking}
      (link : a.links.get? loan = some account) (fees : FeesPaid loan account payment scale a paid)
      (held : ChargesHeld loan account (a.chargesOf loan) scale paid hold ready) :
      Prepared loan payment scale a (some ⟨account, booked, hold⟩) paid ready

inductive Paired (loan : LoanId) (last : TransactionId) (a b : Ledger) :
    Option Settlement → Option Settlement → Prop where
  | unlinked (near : Near last a b) : Paired loan last a b none none
  | linked {account : AccountId} {booked booked' hold hold' : Option Booking}
      (link : a.links.get? loan = some account) (charges : hold'.map (·.charges) = hold.map (·.charges))
      (reheld : Reheld last account a b (hold.map (·.transaction)) (hold'.map (·.transaction))) :
      Paired loan last a b (some ⟨account, booked, hold⟩) (some ⟨account, booked', hold'⟩)

variable {loan : LoanId} {payment : PaymentTypeId} {scale : Nat} {settlement settlement' : Option Settlement}
  {a paid ready : Ledger}

theorem Prepared.paid_path (prepared : Prepared loan payment scale a settlement paid ready) : QuietPath loan a paid := by
  cases prepared with
  | unlinked missing => exact .refl
  | linked link fees held => exact fees.quietPath link

theorem Prepared.ready_path (prepared : Prepared loan payment scale a settlement paid ready) :
    QuietPath loan paid ready := by
  have links := prepared.paid_path.path.links
  cases prepared with
  | unlinked missing => exact .refl
  | linked link fees held => exact held.quietPath (by rw [links, link])

theorem Prepared.loans (prepared : Prepared loan payment scale a settlement paid ready) :
    paid.loans = a.loans ∧ ready.loans = a.loans := by
  cases prepared with
  | unlinked missing => exact ⟨rfl, rfl⟩
  | linked link fees held => exact ⟨fees.loans, held.loans.trans fees.loans⟩

section

variable {last : TransactionId} {b : Ledger}

theorem Paired.near (paired : Paired loan last a b settlement settlement') : Near last a b := by
  cases paired with
  | unlinked near => exact near
  | linked link charges reheld => exact reheld.near

theorem Paired.passed (paired : Paired loan last a b settlement settlement') (record : Loan) (target : LoanStatus)
    (entry entry' : JournalEntry) :
    Paired loan last (a.passed loan record target entry) (b.passed loan record target entry') settlement settlement' := by
  cases paired with
  | unlinked near => exact .unlinked (near.passed ..)
  | linked link charges reheld => exact .linked link charges (reheld.passed ..)

end

def withLien (ledger : Ledger) (loan : Loan) (lien released : Option TransactionId) : Ledger :=
  if (loan.lien.isNone || released.isSome) && (lien.isSome || released.isSome) then ledger.relined loan.id lien
  else ledger

theorem withLien_failing (ledger : Ledger) (loan : Loan) (lien released : Option TransactionId) :
    (ledger.withLien loan lien released).failing = ledger.failing := by
  unfold withLien
  split
  · exact relined_failing ledger loan.id lien
  · rfl

theorem Reheld.concurs_withLien {last : TransactionId} {account : AccountId} {b : Ledger} {loan : Loan}
    {lien lien' : Option TransactionId} (reheld : Reheld last account a b lien lien')
    (linked : a.links.get? loan.id = some account) (sameHold : lien'.isSome = lien.isSome)
    (recorded : ∀ record, a.loans.get? loan.id = some record → ∀ transaction, record.lien = some transaction →
      transaction ≤ last) (released : Option TransactionId) :
    Concurs loan.id (a.withLien loan lien released) (b.withLien loan lien' released) := by
  unfold withLien
  rw [sameHold]
  split
  · exact reheld.concurs_relined linked
  · exact reheld.near.concurs recorded

end Ledger

namespace Engine

open Ledger (Alike Near FeesPaid ChargesHeld Reheld Revocable Prepared Paired)

variable (settings : Settings) (now : Timestamp)

theorem due_andThen {α : Type} {charges : List Charge} {kind : ChargeKind} {desk : Desk}
    {answer : Option (List ChargeId × Amount)} {next : Option (List ChargeId × Amount) → Work Desk α}
    {done : α → Desk → Prop} {stopped : Stop → Desk → Prop}
    (due : Charge.due charges kind settings.moneyScale = .ok answer) (rest : Ends (next answer) desk done stopped) :
    Ends ((Desk.engine settings now).due charges kind >>= next) desk done stopped := by
  rw [ends_bind]
  unfold Ends
  rw [due_apply, due]
  exact rest

theorem withdrawFees_ran {D D' : Desk} {loan : Loan} {account : AccountId} {payment : Option PaymentTypeId}
    {fees : Option Booking}
    (ran : (Desk.exactEngine settings now).withdrawFees loan account (D.ledger.chargesOf loan.id) payment D =
      .ok fees D') :
    ∃ ledger, D' = { D with ledger := ledger } ∧
      FeesPaid loan.id account (payment.getD settings.feePaymentType) settings.moneyScale D.ledger ledger := by
  obtain ⟨due, between, computed, rest⟩ := ran_bind ran
  rw [due_apply] at computed
  cases known : Charge.due (D.ledger.chargesOf loan.id) .upfrontFee settings.moneyScale with
  | error what =>
    rw [known] at computed
    cases computed
  | ok answer =>
    rw [known] at computed
    cases computed
    rcases due with _ | ⟨ids, amount⟩
    · cases rest
      exact ⟨_, rfl, .nothing known⟩
    · obtain ⟨transaction, _, withdrawn, rest⟩ := ran_bind rest
      obtain ⟨ledger, rfl, withdrawal⟩ := demand_ran withdrawn
      obtain ⟨_, _, marked, rest⟩ := ran_bind rest
      obtain ⟨after, rfl, marking⟩ := demand_ran marked
      cases rest
      exact ⟨after, rfl, .paid known withdrawal marking⟩

theorem withdrawFees_again {a paid : Ledger} {b : Desk} {loan : Loan} {account : AccountId}
    {payment : Option PaymentTypeId}
    (fees : FeesPaid loan.id account (payment.getD settings.feePaymentType) settings.moneyScale a paid)
    (alike : Alike a b.ledger ∨ Alike paid b.ledger) :
    Retries ((Desk.engine settings now).withdrawFees loan account (b.ledger.chargesOf loan.id) payment) b
      (fun after => Alike a after.ledger ∨ Alike paid after.ledger) fun _ after => Alike paid after.ledger := by
  rcases alike with alike | alike
  · rw [alike.chargesOf]
    cases fees with
    | nothing due => exact due_andThen settings now due ⟨rfl, alike⟩
    | paid due withdrawal marking =>
      apply due_andThen settings now due
      refine Retries.andThen ((retries_demand .withdrawFees (Ledger.withdraw_again alike withdrawal)).imp
        (fun _ => Or.inl) fun _ _ reached => reached) fun transaction withdrawn _ reached => ?_
      refine Retries.andThen (retries_certain _ .markFeesPaid (Ledger.markPaid_again reached marking)) ?_
      exact fun _ after _ settled => ⟨rfl, settled⟩
  · rw [alike.chargesOf]
    exact due_andThen settings now fees.settled ⟨rfl, alike⟩

theorem holdCharges_ran {D D' : Desk} {loan : Loan} {account : AccountId} {charges : List Charge}
    {hold : Option Booking}
    (ran : (Desk.exactEngine settings now).holdCharges loan account charges D = .ok hold D') :
    ∃ ledger, D' = { D with ledger := ledger } ∧
      ChargesHeld loan.id account charges settings.moneyScale D.ledger hold ledger := by
  obtain ⟨due, between, computed, rest⟩ := ran_bind ran
  rw [due_apply] at computed
  cases known : Charge.due charges .upfrontHold settings.moneyScale with
  | error what =>
    rw [known] at computed
    cases computed
  | ok answer =>
    rw [known] at computed
    cases computed
    rcases due with _ | ⟨ids, amount⟩
    · cases rest
      exact ⟨_, rfl, .nothing known⟩
    · obtain ⟨transaction, _, held, rest⟩ := ran_bind rest
      obtain ⟨ledger, rfl, holding⟩ := demand_ran held
      cases rest
      exact ⟨ledger, rfl, .held known holding⟩

theorem holdCharges_again {a after : Ledger} {b : Desk} {loan : Loan} {account : AccountId}
    {charges charges' : List Charge} {hold : Option Booking}
    (held : ChargesHeld loan.id account charges settings.moneyScale a hold after) (inOrder : a.InOrder)
    (sameDue : Charge.due charges' .upfrontHold settings.moneyScale =
      Charge.due charges .upfrontHold settings.moneyScale) (alike : Alike a b.ledger) :
    Retries ((Desk.engine settings now).holdCharges loan account charges') b (fun later => Alike a later.ledger)
      fun hold' later => hold'.map (·.charges) = hold.map (·.charges) ∧
        (∀ booked, Revocable a later.ledger (some ⟨account, booked, hold'⟩)) ∧
          Reheld a.lastTransaction account after later.ledger (hold.map (·.transaction))
            (hold'.map (·.transaction)) := by
  cases held with
  | nothing due =>
    apply due_andThen settings now (sameDue.trans due)
    exact ⟨rfl, rfl, fun _ => alike, (alike.near _).reheld⟩
  | held due holding =>
    apply due_andThen settings now (sameDue.trans due)
    refine Ends.andThen (retries_demand .holdCharges ((Ledger.hold_again alike inOrder holding).imp
      (fun _ _ upheld => ⟨upheld.failing, upheld⟩) fun _ _ left => left)) ?_ fun _ _ left => left
    intro transaction' later ended
    obtain ⟨failing, upheld⟩ := ended
    refine ⟨failing, rfl, fun _ working => ?_, upheld.reheld⟩
    rw [upheld.failing] at working ⊢
    exact upheld.freed working

theorem settleBefore_ran {D D' : Desk} {loan : Loan} {payment : Option PaymentTypeId} {settlement : Option Settlement}
    (ran : (Desk.exactEngine settings now).settleBefore loan payment D = .ok settlement D') :
    ∃ paid ready, D' = { D with ledger := ready } ∧
      Prepared loan.id (payment.getD settings.feePaymentType) settings.moneyScale D.ledger settlement paid ready := by
  obtain ⟨reply, _, called, rest⟩ := ran_bind ran
  obtain ⟨ledger, rfl, ⟨account, rfl, went⟩ | ⟨error, rfl, refused⟩⟩ := onLedger_ran called
  · obtain ⟨_, link, rfl⟩ := (Ledger.findAccount_ends ..).of_ok went
    obtain ⟨charges, _, loaded, rest⟩ := ran_bind rest
    cases loaded
    obtain ⟨booked, _, withdrawn, rest⟩ := ran_bind rest
    obtain ⟨paid, rfl, fees⟩ := withdrawFees_ran settings now withdrawn
    obtain ⟨hold, _, taken, rest⟩ := ran_bind rest
    obtain ⟨ready, rfl, held⟩ := holdCharges_ran settings now taken
    cases rest
    exact ⟨paid, ready, rfl, .linked link fees held⟩
  · rcases (Ledger.findAccount_ends ..).of_error refused with ⟨⟨_, is⟩ | ⟨missing, is⟩, rfl⟩
    · cases is
      cases rest
    · cases is
      cases rest
      exact ⟨_, _, rfl, .unlinked missing⟩

theorem settleBefore_again {a paid ready : Ledger} {settlement : Option Settlement} {b : Desk} {loan : Loan}
    {payment : Option PaymentTypeId}
    (prepared : Prepared loan.id (payment.getD settings.feePaymentType) settings.moneyScale a settlement paid ready)
    (inOrder : a.InOrder) (distinct : ((a.chargesOf loan.id).map (·.id)).Nodup)
    (alike : Alike a b.ledger ∨ Alike paid b.ledger) :
    Retries ((Desk.engine settings now).settleBefore loan payment) b
      (fun after => Alike a after.ledger ∨ Alike paid after.ledger)
      fun settlement' later => Paired loan.id paid.lastTransaction ready later.ledger settlement settlement' ∧
        Revocable paid later.ledger settlement' := by
  have links : b.ledger.links = a.links := by
    rcases alike with alike | alike
    · exact alike.links
    · exact alike.links.trans prepared.paid_path.path.links
  have readyLinks := prepared.ready_path.path.links.trans prepared.paid_path.path.links
  apply (onLedger_ends (Ledger.findAccount_ends loan.id b.ledger)).andThen
  · intro _ _ ended
    rcases ended with ⟨_, rfl, ⟨account, rfl, _, linked, rfl⟩ | ⟨error, rfl, refused, rfl⟩⟩
    · cases prepared with
      | unlinked missing =>
        rw [links, missing] at linked
        cases linked
      | @linked _ _ _ _ hold link fees held =>
        rw [links, link] at linked
        cases linked
        apply (loadCharges_ends settings now loan.id b).certainly
        intro charges b ended
        obtain ⟨rfl, rfl⟩ := ended
        refine Retries.andThen (withdrawFees_again settings now fees alike) fun booked after failing settled => ?_
        -- Fees that an earlier attempt has marked are no charges to be held.
        have sameDue : Charge.due (b.ledger.chargesOf loan.id) .upfrontHold settings.moneyScale =
            Charge.due (a.chargesOf loan.id) .upfrontHold settings.moneyScale := by
          rcases alike with alike | alike
          · rw [alike.chargesOf]
          · rw [alike.chargesOf, fees.holds_due distinct]
        refine Retries.andThen ((holdCharges_again settings now held ((fees.quietPath link).path.inOrder inOrder) sameDue
          settled).imp (fun _ => Or.inr) fun _ _ placed => placed) fun hold' later _ placed => ?_
        obtain ⟨sameCharges, revocable, reheld⟩ := placed
        exact ⟨rfl, .linked (by rw [readyLinks, link]) sameCharges reheld, revocable booked⟩
    · rcases refused with ⟨failing, is⟩ | ⟨missing, is⟩
      · cases is
        exact ⟨ne_nil_of_failing failing, alike⟩
      · cases is
        cases prepared with
        | unlinked missing =>
          have alike := alike.elim id id
          exact ⟨rfl, .unlinked (alike.near _), alike⟩
        | linked link fees held =>
          rw [links, link] at missing
          cases missing
  · intro _ _ ended
    rcases ended with ⟨_, rfl, _, _, ⟨_, no⟩ | ⟨_, no⟩, _⟩ <;> cases no

theorem unsettle_again {paid : Ledger} {settlement : Option Settlement} {b : Desk}
    (revocable : Revocable paid b.ledger settlement) (working : .release ∉ b.ledger.failing) :
    Ends ((Desk.engine settings now).unsettle settlement) b
      (fun _ after => after.ledger.failing = b.ledger.failing ∧ Alike paid after.ledger) fun _ _ => False := by
  rcases settlement with _ | ⟨account, booked, _ | hold⟩
  · exact ⟨rfl, revocable⟩
  · exact ⟨rfl, revocable⟩
  · obtain ⟨freed, released, failing, alike⟩ := revocable working
    apply (ends_bind _ _ _ _ _).mpr
    change Ends (Desk.onLedger (Ledger.release account hold.transaction)) b _ _
    unfold Ends Desk.onLedger
    rw [released]
    exact ⟨failing, alike⟩

theorem markHoldsPaid_ends (loan : Loan) (hold : Option Booking) (desk : Desk) :
    Ends ((Desk.engine settings now).markHoldsPaid loan hold) desk
      (fun _ after => after = { desk with ledger := desk.ledger.charged loan.id (hold.map (·.charges)) })
      fun _ _ => False := by
  cases hold with
  | none => exact rfl
  | some booking =>
    apply (succeeds_ends (Ledger.markPaid_charges desk.ledger loan.id booking.charges)).certainly
    intro marked _ same
    obtain rfl := same
    cases marked <;> rfl

theorem recordLien_ends (loan : Loan) (lien released : Option TransactionId) (desk : Desk) :
    Ends ((Desk.engine settings now).recordLien loan lien released) desk
      (fun _ after => after = { desk with ledger := desk.ledger.withLien loan lien released }) fun _ _ => False := by
  unfold recordLien Ledger.withLien
  split
  next =>
    apply (succeeds_ends (Ledger.setLien_relines desk.ledger loan.id lien)).certainly
    intro set _ same
    obtain rfl := same
    cases set <;> rfl
  next => exact rfl

theorem missing_of_refused {id : AccountId} {transaction : TransactionId} {ledger after : Ledger} {error : LedgerError}
    (working : ledger.failing = [])
    (refused : Ledger.exactRelease id transaction ledger = .error (.refused error) after) :
    after = ledger ∧ ∃ what, error = .notFound what := by
  rcases (Ledger.exactRelease_ends ..).of_error refused with ⟨_, is⟩ | ⟨same, ⟨failing, _⟩ | ⟨_, is⟩ | ⟨_, _, _, is⟩⟩
  · cases is
  · exact absurd working (ne_nil_of_failing failing)
  · exact ⟨same, _, Ledger.Stop.refused.inj is⟩
  · exact ⟨same, _, Ledger.Stop.refused.inj is⟩

/-- The replies to a release after which the hold is gone. -/
inductive Gone : Except LedgerError Unit → Prop where
  | released : Gone (.ok ())
  | missing (what : Missing) : Gone (.error (.notFound what))

theorem release_again {D D' b : Desk} {id : AccountId} {transaction last : TransactionId}
    {reply : Except LedgerError Unit} {lien lien' : Option TransactionId}
    (called : Desk.onLedger (Ledger.exactRelease id transaction) D = .ok reply D') (working : D.ledger.failing = [])
    (earlier : transaction ≤ last) (reheld : Reheld last id D.ledger b.ledger lien lien') :
    Gone reply ∧ (D'.ledger.loans = D.ledger.loans ∧ D'.ledger.links = D.ledger.links) ∧
      Ends (Desk.onLedger (Ledger.release id transaction)) b
        (fun reply' after =>
          (Gone reply' ∧ after.ledger.failing = b.ledger.failing ∧ Reheld last id D'.ledger after.ledger lien lien') ∨
            reply' = .error (.unavailable (.failing .release)) ∧ .release ∈ b.ledger.failing ∧ after = b)
        fun _ _ => False := by
  obtain ⟨ledger, rfl, ⟨_, rfl, went⟩ | ⟨error, rfl, refused⟩⟩ := onLedger_ran called
  · obtain ⟨_, _, _, _, _, _, _, rfl⟩ := (Ledger.exactRelease_ends ..).of_ok went
    refine ⟨.released, ⟨rfl, rfl⟩, ?_⟩
    apply (onLedger_ends (reheld.release earlier went)).imp
    · intro _ _ ⟨_, same, replied⟩
      subst same
      rcases replied with ⟨_, rfl, failing, later⟩ | ⟨error, rfl, rfl, failing, is⟩
      · exact Or.inl ⟨.released, failing, later⟩
      · cases is
        exact Or.inr ⟨rfl, failing, rfl⟩
    · intro _ _ ⟨_, _, _, _, _, _, no⟩
      cases no
  · obtain ⟨rfl, what, rfl⟩ := missing_of_refused working refused
    refine ⟨.missing what, ⟨rfl, rfl⟩, ?_⟩
    apply (onLedger_ends (Ledger.release_near_missing reheld.near earlier refused)).imp
    · intro _ _ ⟨_, same, replied⟩
      subst same
      rcases replied with ⟨_, _, no⟩ | ⟨error, rfl, rfl, ⟨failing, is⟩ | ⟨other, is⟩⟩
      · cases no
      · cases is
        exact Or.inr ⟨rfl, failing, rfl⟩
      · cases is
        exact Or.inl ⟨.missing other, rfl, reheld⟩
    · intro _ _ ⟨_, _, _, _, _, stopped⟩
      rcases stopped with ⟨_, no⟩ | ⟨_, no⟩ <;> cases no

theorem releasePrevious_again (time : Timestamp) {D D' b : Desk} {loan : Loan} {account : AccountId}
    {released : Option TransactionId} {tasks : List LedgerTask} {last : TransactionId}
    {lien lien' : Option TransactionId}
    (ran : (Desk.exactEngine settings now).releasePrevious loan account D = .ok (released, tasks) D')
    (working : D.ledger.failing = []) (earlier : ∀ transaction, loan.lien = some transaction → transaction ≤ last)
    (reheld : Reheld last account D.ledger b.ledger lien lien') :
    (D'.ledger.loans = D.ledger.loans ∧ D'.ledger.links = D.ledger.links) ∧
      Ends ((Desk.engine settings time).releasePrevious loan account) b
        (fun answer after => after.ledger.failing = b.ledger.failing ∧ (b.ledger.failing = [] →
          answer.1 = released ∧ Reheld last account D'.ledger after.ledger lien lien'))
        fun _ _ => False := by
  unfold releasePrevious at ran ⊢
  cases pledge : loan.lien with
  | none =>
    rw [pledge] at ran
    cases ran
    exact ⟨⟨rfl, rfl⟩, rfl, fun _ => ⟨rfl, reheld⟩⟩
  | some previous =>
    rw [pledge] at ran
    obtain ⟨reply, between, called, rest⟩ := ran_bind ran
    obtain ⟨gone, kept, again⟩ := release_again called working (earlier previous pledge) reheld
    have answered : released = some previous ∧ D' = between := by
      cases gone <;> cases rest <;> exact ⟨rfl, rfl⟩
    obtain ⟨rfl, rfl⟩ := answered
    refine ⟨kept, again.certainly ?_⟩
    intro _ _ replied
    rcases replied with ⟨gone', failing, later⟩ | ⟨rfl, failing, rfl⟩
    · cases gone' <;> exact ⟨failing, fun _ => ⟨rfl, later⟩⟩
    · exact ⟨rfl, fun healed => absurd healed (ne_nil_of_failing failing)⟩

/-- Once the loan is paid out nothing fails any more; and where nothing was made to fail, all
that counts is the same. -/
theorem settleAfter_again (time : Timestamp) {D D' b : Desk} {loan record : Loan} {last : TransactionId}
    {settlement settlement' : Option Settlement} {changes : List Change}
    (ran : (Desk.exactEngine settings now).settleAfter loan settlement D = .ok changes D')
    (working : D.ledger.failing = []) (found : D.ledger.loans.get? loan.id = some record)
    (sameLien : record.lien = loan.lien)
    (earlier : ∀ transaction, loan.lien = some transaction → transaction ≤ last)
    (paired : Paired loan.id last D.ledger b.ledger settlement settlement') :
    Ends ((Desk.engine settings time).settleAfter loan settlement') b
      (fun _ after => after.ledger.failing = b.ledger.failing ∧
        (b.ledger.failing = [] → Ledger.Concurs loan.id D'.ledger after.ledger))
      fun _ _ => False := by
  have recorded (ledger : Ledger) (sameLoans : ledger.loans = D.ledger.loans) (other : Loan)
      (is : ledger.loans.get? loan.id = some other) (transaction : TransactionId)
      (pledge : other.lien = some transaction) : transaction ≤ last := by
    rw [sameLoans, found] at is
    cases is
    exact earlier transaction (sameLien.symm.trans pledge)
  cases paired with
  | unlinked near =>
    cases ran
    exact ⟨rfl, fun _ => near.concurs (recorded _ rfl)⟩
  | @linked account _ _ hold hold' link charges reheld =>
    obtain ⟨_, _, marked, ran⟩ := ran_bind ran
    have marking : Ends ((Desk.exactEngine settings now).markHoldsPaid loan hold) D _ _ :=
      markHoldsPaid_ends settings now loan hold D
    cases marking.of_ok marked
    obtain ⟨⟨released, tasks⟩, between, freed, ran⟩ := ran_bind ran
    obtain ⟨_, _, set, ran⟩ := ran_bind ran
    have setting : Ends ((Desk.exactEngine settings now).recordLien loan (hold.map (·.transaction)) released)
        between _ _ :=
      recordLien_ends settings now loan _ released between
    cases setting.of_ok set
    cases ran
    apply (markHoldsPaid_ends settings time loan hold' b).certainly
    intro _ _ same
    obtain rfl := same
    rw [charges]
    obtain ⟨⟨sameLoans, sameLinks⟩, releasing⟩ := releasePrevious_again settings now time
      (b := { b with ledger := b.ledger.charged loan.id (hold.map (·.charges)) }) freed
      ((Ledger.charged_failing ..).trans working) earlier (reheld.charged loan.id _)
    apply releasing.certainly
    intro answered after ended
    obtain ⟨released', tasks'⟩ := answered
    obtain ⟨failing, reached⟩ := ended
    apply (recordLien_ends settings time loan (hold'.map (·.transaction)) released' after).certainly
    intro _ _ same
    obtain rfl := same
    have stillFailing : after.ledger.failing = b.ledger.failing := failing.trans (Ledger.charged_failing ..)
    refine ⟨(Ledger.withLien_failing ..).trans stillFailing, fun healed => ?_⟩
    obtain ⟨rfl, reheld⟩ := reached ((Ledger.charged_failing ..).trans healed)
    have sameHold : (hold'.map (·.transaction)).isSome = (hold.map (·.transaction)).isSome := by
      have sameCharges := congrArg Option.isSome charges
      simpa only [Option.isSome_map] using sameCharges
    have linked : between.ledger.links.get? loan.id = some account := by rw [sameLinks, Ledger.charged_links, link]
    have sameBefore : between.ledger.loans = D.ledger.loans := sameLoans.trans (Ledger.charged_loans ..)
    exact reheld.concurs_withLien linked sameHold (recorded _ sameBefore) released'

/-- A disbursal that went through undisturbed can be tried again from before its fees and from
after them, as long as a hold that was placed in vain can be released. -/
theorem disburse_again {D D' : Desk} {loan record : Loan} {date : ValueDate} {payment : Option PaymentTypeId}
    {note : String} {changes : List Change}
    (ran : (Desk.exactEngine settings now).disburse loan date payment note D = .ok changes D')
    (fit : D.ledger.Fit loan.id) (found : D.ledger.loans.get? loan.id = some record)
    (sameLien : record.lien = loan.lien) :
    ∃ paid : Ledger, paid.loans = D.ledger.loans ∧ ∀ (time : Timestamp) (b : Desk),
      (Alike D.ledger b.ledger ∨ Alike paid b.ledger) → (.disburse ∈ b.ledger.failing → .release ∉ b.ledger.failing) →
      Retries ((Desk.engine settings time).disburse loan date payment note) b
        (fun after => Alike D.ledger after.ledger ∨ Alike paid after.ledger)
        fun _ after => b.ledger.failing = [] → Ledger.Concurs loan.id D'.ledger after.ledger := by
  obtain ⟨settlement, _, settled, ran⟩ := ran_bind ran
  obtain ⟨paid, ready, rfl, prepared⟩ := settleBefore_ran settings now settled
  obtain ⟨reply, _, called, ran⟩ := ran_bind ran
  obtain ⟨disbursed, rfl, ⟨_, rfl, went⟩ | ⟨_, rfl, _⟩⟩ := onLedger_ran called
  · obtain ⟨_, other, same, allowed, rfl⟩ := (Ledger.pass_ends ..).of_ok went
    obtain ⟨_, _, after, ran⟩ := ran_bind ran
    cases ran
    refine ⟨paid, prepared.loans.1, fun time b alike both => ?_⟩
    rw [prepared.loans.2, found] at same
    cases same
    have stillWorking := (prepared.ready_path.path.failing.trans prepared.paid_path.path.failing).trans fit.working
    have earlier (transaction : TransactionId) (pledge : loan.lien = some transaction) :
        transaction ≤ paid.lastTransaction :=
      Nat.le_trans (fit.issued record found transaction (sameLien.trans pledge)) prepared.paid_path.path.numbers
    refine Ends.andThen (settleBefore_again settings time prepared fit.inOrder fit.distinct alike) ?_ fun _ _ left => left
    intro settlement' later ended
    obtain ⟨failing, paired, revocable⟩ := ended
    have laterFound : later.ledger.loans.get? loan.id = some record := by
      rw [paired.near.loans, prepared.loans.2, found]
    apply (onLedger_ends (Ledger.pass_ends .disburse loan.id _ .active
      (.disburse loan.id loan.principal date payment) later.ledger)).andThen
    · intro _ _ ended
      rcases ended with ⟨_, rfl, ⟨_, rfl, _, _, is, _, rfl⟩ | ⟨_, rfl, failed | wrong, _, rfl⟩⟩
      · cases laterFound.symm.trans is
        let disbursed := later.ledger.passed loan.id record .active (.disburse loan.id loan.principal date payment)
        have finished := settleAfter_again settings now time (b := { later with ledger := disbursed }) after
          stillWorking (Table.get?_insert_self ..) sameLien earlier (paired.passed record .active _ _)
        apply Ends.certainly finished
        intro _ _ ended
        obtain ⟨afterFailing, concurs⟩ := ended
        exact ⟨afterFailing.trans failing, fun healed => concurs (failing.trans healed)⟩
      -- Disbursals are made to fail, so releases are not, and the new hold can be taken back.
      · refine Ends.certainly (unsettle_again settings time revocable ?_) ?_
        · rw [failing] at failed ⊢
          exact both failed
        · intro _ _ ended
          obtain ⟨_, alike⟩ := ended
          rw [failing] at failed
          exact ⟨ne_nil_of_failing failed, Or.inr alike⟩
      · exact absurd allowed (wrong record laterFound)
    · intro _ _ ended
      obtain ⟨_, _, _, _, _, ⟨_, isRefusal⟩, _⟩ := ended
      cases isRefusal
  · obtain ⟨_, _, _, no⟩ := ran_bind ran
    cases no

end Engine

end Countersign
