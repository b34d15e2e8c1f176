import Countersign.Proofs.DecisionPart
import Countersign.Proofs.DisbursalAgain

/-!
Deciding again. Each piece of a decision's work in the ledger is compared with the same
piece of an undisturbed run on which nothing was lost: from a ledger alike to the one before
the piece it leads to one alike to the one after it, and where it was done already it is
passed over.
-/

namespace Countersign.Engine

open Ledger (Alike Near Fit Concurs)

variable (settings : Settings) (now : Timestamp)

/-- The ledger's part of a decision can be taken up from certain stages, with the record that
the ledger has of the loan by then. It goes through, or leaves another stage. -/
def Resumes (loan : Loan) (part : Timestamp → Loan → Work Desk (Batch × List Change))
    (stage finish : Ledger → Prop) : Prop :=
  ∀ (time : Timestamp) (b : Desk), stage b.ledger → (.disburse ∈ b.ledger.failing → .release ∉ b.ledger.failing) →
    ∃ status, b.ledger.loans.get? loan.id = some { loan with status := status } ∧
      Retries (part time { loan with status := status }) b (fun after => stage after.ledger)
        fun _ after => b.ledger.failing = [] → finish after.ledger

theorem leaveNote_again {a : Ledger} {b : Desk} (alike : Alike a b.ledger) {loan : LoanId} {record : Loan}
    (found : a.loans.get? loan = some record) (note : String) :
    Retries ((Desk.engine settings now).leaveNote loan note) b (fun after => Alike a after.ledger)
      fun _ after => Alike a after.ledger := by
  apply (leaveNote_ends settings now loan note b).imp
  · intro _ _ ended
    rcases ended with rfl | ⟨text, rfl⟩
    · exact ⟨rfl, alike⟩
    · exact ⟨rfl, alike.noted loan text⟩
  · intro _ _ ended
    rcases ended with ⟨_, failing | missing, rfl⟩
    · exact ⟨ne_nil_of_failing failing, alike⟩
    · rw [alike.loans, found] at missing
      cases missing

theorem leaveNote_ran {D D' : Desk} {loan : LoanId} {note : String}
    (ran : (Desk.exactEngine settings now).leaveNote loan note D = .ok () D') (fit : D.ledger.Fit loan) :
    D'.ledger.loans = D.ledger.loans ∧ D'.ledger.Fit loan ∧ ∀ b, Alike D.ledger b → Alike D'.ledger b := by
  have ends : Ends ((Desk.exactEngine settings now).leaveNote loan note) D _ _ :=
    leaveNote_ends settings now loan note D
  rcases ends.of_ok ran with rfl | ⟨text, rfl⟩
  · exact ⟨rfl, fit, fun _ alike => alike⟩
  · exact ⟨rfl, fit.noted loan text,
      fun _ alike => ⟨alike.loans, alike.charges, alike.links, alike.accounts, alike.numbers⟩⟩

/-! Approving. -/

/-- The loan is submitted once: with the status that it has then, it does not need to be. -/
theorem submitFirst_again {D D' : Desk} {step : Step} {loan : Loan} {date : ValueDate} {note : String}
    {changes : List Change}
    (ran : (Desk.exactEngine settings now).submitFirst step loan date note D = .ok changes D')
    (fit : D.ledger.Fit loan.id) (found : D.ledger.loans.get? loan.id = some loan) :
    ∃ status, D'.ledger.loans.get? loan.id = some { loan with status := status } ∧ D'.ledger.Fit loan.id ∧
      ¬NeedsSubmission step { loan with status := status } ∧ (status = .active ↔ loan.status = .active) ∧
      ∀ (time : Timestamp) (b : Desk), Alike D.ledger b.ledger →
        Retries ((Desk.engine settings time).submitFirst step loan date note) b
          (fun after => Alike D.ledger after.ledger) fun _ after => Alike D'.ledger after.ledger := by
  have ends : Ends ((Desk.exactEngine settings now).submitFirst step loan date note) D _ _ :=
    submitFirst_ends settings now step date note found
  rcases ends.of_ok ran with ⟨unneeded, rfl⟩ | ⟨needed, pending, rfl⟩
  · refine ⟨loan.status, found, fit, unneeded, Iff.rfl, fun time b alike => ?_⟩
    have foundAgain : b.ledger.loans.get? loan.id = some loan := by rw [alike.loans, found]
    apply (submitFirst_ends settings time step date note foundAgain).imp
    · intro _ _ ended
      rcases ended with ⟨_, rfl⟩ | ⟨needed, _⟩
      · exact ⟨rfl, alike⟩
      · exact absurd needed unneeded
    · intro _ _ ended
      obtain ⟨_, needed, _⟩ := ended
      exact absurd needed unneeded
  · refine ⟨.approved, Table.get?_insert_self .., fit.passed found _ _, fun again => again.2.1 rfl, ?_, ?_⟩
    · rw [pending]
      decide
    · intro time b alike
      have foundAgain : b.ledger.loans.get? loan.id = some loan := by rw [alike.loans, found]
      apply (submitFirst_ends settings time step date note foundAgain).imp
      · intro _ _ ended
        rcases ended with ⟨unneeded, _⟩ | ⟨_, _, rfl⟩
        · exact absurd needed unneeded
        · exact ⟨rfl, alike.passed ..⟩
      · intro _ _ ended
        rcases ended with ⟨_, _, failing | elsewhere, rfl⟩
        · exact ⟨ne_nil_of_failing failing, alike⟩
        · exact absurd pending elsewhere

theorem submitFirst_skips {step : Step} {loan : Loan} {again : Desk → Prop} (unneeded : ¬NeedsSubmission step loan)
    (date : ValueDate) (note : String) (desk : Desk) :
    Retries ((Desk.engine settings now).submitFirst step loan date note) desk again fun _ after => after = desk := by
  unfold submitFirst
  split
  next needed => exact absurd needed unneeded
  next => exact ⟨rfl, rfl⟩

theorem advance_again {D D' : Desk} {step : Step} {loan : Loan} {status : LoanStatus} {steps : List Step}
    {date : ValueDate} {payment : Option PaymentTypeId} {note : String} {answer : Batch × List Change}
    (ran : (Desk.exactEngine settings now).advance step loan steps date payment note D = .ok answer D')
    (fit : D.ledger.Fit loan.id) (found : D.ledger.loans.get? loan.id = some { loan with status := status }) :
    ∃ paid : Ledger, paid.loans = D.ledger.loans ∧ ∀ (time : Timestamp) (b : Desk) (other : LoanStatus),
      (other = .active ↔ loan.status = .active) → (Alike D.ledger b.ledger ∨ Alike paid b.ledger) →
      (.disburse ∈ b.ledger.failing → .release ∉ b.ledger.failing) →
      Retries ((Desk.engine settings time).advance step { loan with status := other } steps date payment note) b
        (fun after => Alike D.ledger after.ledger ∨ Alike paid after.ledger)
        fun _ after => b.ledger.failing = [] → Concurs loan.id D'.ledger after.ledger := by
  have standing (b : Desk) (alike : Alike D.ledger b.ledger ∨ Alike D.ledger b.ledger) :
      Concurs loan.id D.ledger b.ledger := (alike.elim id id).concurs fit
  unfold advance at ran ⊢
  cases following : queuedAbove steps step.rank with
  | some next =>
    rw [following] at ran
    cases ran
    exact ⟨D.ledger, rfl, fun time b other _ alike _ => ⟨rfl, fun _ => standing b alike⟩⟩
  | none =>
    rw [following] at ran
    by_cases active : loan.status = .active
    · dsimp only at ran ⊢
      rw [if_pos active] at ran
      cases ran
      refine ⟨D.ledger, rfl, fun time b other sameActive alike _ => ?_⟩
      rw [if_pos (sameActive.mpr active)]
      exact ⟨rfl, fun _ => standing b alike⟩
    · dsimp only at ran ⊢
      rw [if_neg active] at ran
      obtain ⟨changes, _, disbursed, ran⟩ := ran_bind ran
      cases ran
      obtain ⟨paid, sameLoans, again⟩ := disburse_again settings now disbursed fit found rfl
      refine ⟨paid, sameLoans, fun time b other sameActive alike both => ?_⟩
      rw [if_neg fun same => active (sameActive.mp same)]
      refine Ends.andThen (again time b alike both) ?_ fun _ _ left => left
      exact fun _ _ reached => reached

/-- An approval is taken up from before its submission, from after it, and from after the fees. -/
theorem approvePart_resumes {D D' : Desk} {step : Step} {loan : Loan} {steps : List Step} {note : String}
    {date : ValueDate} {payment : Option PaymentTypeId} {answer : Batch × List Change}
    (ran : (Desk.exactEngine settings now).approvePart step loan steps note date payment D = .ok answer D')
    (fit : D.ledger.Fit loan.id) (found : D.ledger.loans.get? loan.id = some loan) :
    ∃ stage, Ledger.Stages D.ledger stage ∧
      Resumes loan (fun time record => (Desk.engine settings time).approvePart step record steps note date payment) stage
        (Concurs loan.id D'.ledger) := by
  obtain ⟨_, noted, note_, ran⟩ := ran_bind ran
  obtain ⟨sameLoans, notedFit, toNoted⟩ := leaveNote_ran settings now note_ fit
  rw [← sameLoans] at found
  obtain ⟨_, ready, submission, ran⟩ := ran_bind ran
  obtain ⟨status, readyFound, readyFit, unneeded, sameActive, submits⟩ :=
    submitFirst_again settings now submission notedFit found
  obtain ⟨⟨batch, moved⟩, _, advanced, ran⟩ := ran_bind ran
  cases ran
  obtain ⟨paid, paidLoans, again⟩ := advance_again settings now advanced readyFit readyFound
  refine ⟨fun b => Alike noted.ledger b ∨ Alike ready.ledger b ∨ Alike paid b, ⟨Or.inl (toNoted _ (.refl _)), ?_⟩, ?_⟩
  · exact fun _ _ later => Or.imp (·.trans later) (Or.imp (·.trans later) (·.trans later))
  intro time b reached both
  rcases reached with alike | alike
  -- Nothing has been submitted: the record is the one from the start.
  · refine ⟨loan.status, by rw [alike.loans, found], ?_⟩
    refine Retries.andThen ((leaveNote_again settings time alike found note).imp (fun _ => Or.inl)
      fun _ _ still => still) fun _ after failing still => ?_
    refine Retries.andThen ((submits time after still).imp (fun _ => Or.inl) fun _ _ reached => reached)
      fun _ submitted failing' reached => ?_
    have sameFailing := failing'.trans failing
    refine Retries.andThen ((again time submitted loan.status Iff.rfl (Or.inl reached) (sameFailing ▸ both)).imp
      (fun _ => Or.inr) fun _ _ done => done) fun _ final _ done => ?_
    exact ⟨rfl, sameFailing ▸ done⟩
  -- The submission has been made, with the fees paid or not; it is passed over.
  · have known : b.ledger.loans = ready.ledger.loans :=
      alike.elim (fun alike => alike.loans) fun alike => alike.loans.trans paidLoans
    refine ⟨status, by rw [known, readyFound], ?_⟩
    have notes : Retries ((Desk.engine settings time).leaveNote loan.id note) b
        (fun after => Alike ready.ledger after.ledger ∨ Alike paid after.ledger)
        fun _ after => Alike ready.ledger after.ledger ∨ Alike paid after.ledger := by
      rcases alike with alike | alike
      · exact (leaveNote_again settings time alike readyFound note).imp (fun _ => Or.inl) fun _ _ => Or.inl
      · have paidFound := readyFound
        rw [← paidLoans] at paidFound
        exact (leaveNote_again settings time alike paidFound note).imp (fun _ => Or.inr) fun _ _ => Or.inr
    refine Retries.andThen (notes.imp (fun _ => Or.inr) fun _ _ still => still) fun _ after failing still => ?_
    refine Retries.andThen (submitFirst_skips settings time unneeded date note after) fun _ _ _ same => ?_
    subst same
    refine Retries.andThen ((again time _ status sameActive still (failing ▸ both)).imp (fun _ => Or.inr)
      fun _ _ done => done) fun _ final _ done => ?_
    exact ⟨rfl, failing ▸ done⟩

/-! Rejecting. -/

theorem refuseLoan_again {a : Ledger} {b : Desk} {loan : Loan} {status : LoanStatus}
    (alike : Alike (a.withStatus loan status) b.ledger) (note : String) :
    Retries ((Desk.engine settings now).refuseLoan { loan with status := status } note) b
      (fun after => ∃ status, Alike (a.withStatus loan status) after.ledger)
      fun _ after => Alike (a.withStatus loan .rejected) after.ledger := by
  have found : b.ledger.loans.get? loan.id = some { loan with status := status } := by
    rw [alike.loans]
    exact Table.get?_insert_self ..
  unfold refuseLoan
  split
  next rejected =>
    cases rejected
    exact ⟨rfl, alike⟩
  next =>
    apply (repairStatus_ends settings now found).andThen
    · intro _ _ ended
      rcases ended with ⟨pending, rfl⟩ | ⟨_, rfl⟩
      · apply (rejectLoan_ends settings now found pending note).andThen
        · intro _ _ same
          obtain rfl := same
          exact ⟨rfl, alike.passed_again ..⟩
        · intro _ _ ended
          obtain ⟨_, failing, rfl⟩ := ended
          exact ⟨ne_nil_of_failing failing, _, alike⟩
      · have repaired := alike.passed_again .submittedAndPendingApproval
          (.forceStatus loan.id .submittedAndPendingApproval)
        refine (rejectLoan_ends settings now (Table.get?_insert_self ..) rfl note).andThen ?_ ?_
        · intro _ _ same
          obtain rfl := same
          exact ⟨rfl, repaired.passed_again ..⟩
        · intro _ _ ended
          obtain ⟨_, failing, rfl⟩ := ended
          exact ⟨ne_nil_of_failing failing, _, repaired⟩
    · intro _ _ ended
      obtain ⟨_, failing, rfl⟩ := ended
      exact ⟨ne_nil_of_failing failing, _, alike⟩

theorem unpledge_again {D D' b : Desk} {loan : LoanId} {last : TransactionId} {changes answer : List Change}
    (ran : (do Work.demand .recordLien (Desk.services.setLien loan none); pure answer : Work Desk _) D =
      .ok changes D') (near : Near last D.ledger b.ledger) :
    Ends (do Work.demand .recordLien (Desk.services.setLien loan none); pure answer) b
      (fun _ after => after.ledger.failing = b.ledger.failing ∧ Concurs loan D'.ledger after.ledger)
      fun _ _ => False := by
  obtain ⟨_, _, set, ran⟩ := ran_bind ran
  obtain ⟨_, rfl, went⟩ := demand_ran set
  cases ran
  obtain ⟨record, found, rfl⟩ := (Ledger.setLien_ends ..).of_ok went
  rw [← near.loans] at found
  apply (demand_ends _ (Ledger.setLien_ends loan none b.ledger)).andThen
  · intro _ _ ended
    obtain ⟨_, rfl, _, same, rfl⟩ := ended
    cases found.symm.trans same
    refine ⟨rfl, (near.pledged loan record none).concurs fun other is transaction pledge => ?_⟩
    cases (Table.get?_insert_self ..).symm.trans is
    cases pledge
  · intro _ _ ended
    rcases ended with ⟨_, _, ⟨_, _, missing, _⟩ | ⟨_, _, missing, _⟩⟩ <;> cases found.symm.trans missing

/-- Until the lien is released nothing has happened to it, and from then on nothing fails. -/
theorem releaseLien_again {D D' b : Desk} {loan : Loan} {last : TransactionId} {changes : List Change}
    (ran : (Desk.exactEngine settings now).releaseLien loan D = .ok changes D') (working : D.ledger.failing = [])
    (found : ∀ record, D.ledger.loans.get? loan.id = some record → record.lien = loan.lien)
    (earlier : ∀ transaction, loan.lien = some transaction → transaction ≤ last)
    (near : Near last D.ledger b.ledger) (time : Timestamp) :
    Retries ((Desk.engine settings time).releaseLien loan) b (fun after => after = b)
      fun _ after => Concurs loan.id D'.ledger after.ledger := by
  unfold releaseLien at ran ⊢
  cases pledge : loan.lien with
  | none =>
    rw [pledge] at ran
    cases ran
    refine ⟨rfl, near.concurs fun record is transaction recorded => ?_⟩
    rw [found record is, pledge] at recorded
    cases recorded
  | some lien =>
    rw [pledge] at ran
    obtain ⟨account, _, looked, ran⟩ := ran_bind ran
    obtain ⟨_, rfl, went⟩ := demand_ran looked
    obtain ⟨_, linked, rfl⟩ := (Ledger.findAccount_ends ..).of_ok went
    obtain ⟨reply, between, called, ran⟩ := ran_bind ran
    obtain ⟨gone, _, again⟩ := release_again called working (earlier lien pledge) near.reheld
    have unpledging : (do
        Work.demand .recordLien (Desk.services.setLien loan.id none)
        pure [.released lien] : Work Desk _) between = .ok changes D' := by
      cases gone <;> exact ran
    rw [← near.links] at linked
    apply (demand_ends _ (Ledger.findAccount_ends loan.id b.ledger)).andThen
    · intro _ _ ⟨_, same, _, isLinked, unchanged⟩
      subst same
      subst unchanged
      cases linked.symm.trans isLinked
      apply again.certainly
      intro _ _ replied
      rcases replied with ⟨gone', failing, later⟩ | ⟨rfl, failing, rfl⟩
      · cases gone'
        all_goals
          refine (unpledge_again unpledging later.near).imp ?_ fun _ _ no => no.elim
          intro _ _ ⟨still, concurs⟩
          exact ⟨still.trans failing, concurs⟩
      · exact ⟨ne_nil_of_failing failing, rfl⟩
    · intro _ _ ⟨_, same, stopped⟩
      subst same
      rcases stopped with ⟨_, _, ⟨failing, _⟩ | ⟨missing, _⟩, rfl⟩ | ⟨_, _, ⟨_, no⟩ | ⟨_, no⟩, _⟩
      · exact ⟨ne_nil_of_failing failing, rfl⟩
      · cases linked.symm.trans missing
      · cases no
      · cases no

theorem rejectPart_resumes {D D' : Desk} {step : Step} {loan : Loan} {note : String} {answer : Batch × List Change}
    (ran : (Desk.exactEngine settings now).rejectPart step loan note D = .ok answer D')
    (fit : D.ledger.Fit loan.id) (found : D.ledger.loans.get? loan.id = some loan) :
    ∃ stage, Ledger.Stages D.ledger stage ∧
      Resumes loan (fun time record => (Desk.engine settings time).rejectPart step record note) stage
        (Concurs loan.id D'.ledger) := by
  obtain ⟨_, noted, note_, ran⟩ := ran_bind ran
  obtain ⟨sameLoans, notedFit, toNoted⟩ := leaveNote_ran settings now note_ fit
  rw [← sameLoans] at found
  obtain ⟨_, refused, refusing, ran⟩ := ran_bind ran
  have refuses : Retries ((Desk.exactEngine settings now).refuseLoan loan note) noted _ _ :=
    refuseLoan_again settings now ((Alike.refl noted.ledger).withStatus found) note
  obtain ⟨sameFailing, refusedAlike⟩ := Ends.of_ok refuses refusing
  obtain ⟨_, _, releasing, ran⟩ := ran_bind ran
  cases ran
  have kept (record : Loan) (is : refused.ledger.loans.get? loan.id = some record) : record.lien = loan.lien := by
    rw [refusedAlike.loans] at is
    cases (Table.get?_insert_self ..).symm.trans is
    rfl
  refine ⟨fun b => ∃ status, Alike (noted.ledger.withStatus loan status) b,
    ⟨⟨_, (toNoted _ (.refl _)).withStatus found⟩, fun _ _ later => Exists.imp fun _ alike => alike.trans later⟩, ?_⟩
  intro time b reached _
  obtain ⟨status, alike⟩ := reached
  have standing : (noted.ledger.withStatus loan status).loans.get? loan.id = some { loan with status := status } :=
    Table.get?_insert_self ..
  refine ⟨status, by rw [alike.loans, standing], ?_⟩
  refine Retries.andThen ((leaveNote_again settings time alike standing note).imp (fun _ left => ⟨status, left⟩)
    fun _ _ still => still) fun _ after failing still => ?_
  refine Retries.andThen (refuseLoan_again settings time still note) fun _ rejected failing' reached => ?_
  have near := (refusedAlike.near noted.ledger.lastTransaction).common (reached.near _)
  have releases : Retries ((Desk.engine settings time).releaseLien { loan with status := status }) rejected _ _ :=
    releaseLien_again settings now releasing (sameFailing.trans notedFit.working) kept
      (notedFit.issued loan found) near time
  refine Retries.andThen (releases.imp (fun _ same => ⟨_, same ▸ reached⟩) fun _ _ concurs => concurs)
    fun _ _ _ concurs => ?_
  exact ⟨rfl, fun _ => concurs⟩

/-! Undoing and handing over. -/

theorem undoPart_resumes {D D' : Desk} {step target : Step} {loan : Loan} {note : String}
    {answer : Batch × List Change}
    (ran : (Desk.exactEngine settings now).undoPart step target loan note D = .ok answer D')
    (fit : D.ledger.Fit loan.id) (found : D.ledger.loans.get? loan.id = some loan) :
    Resumes loan (fun time record => (Desk.engine settings time).undoPart step target record note) (Alike D.ledger)
      (Concurs loan.id D'.ledger) := by
  obtain ⟨_, noted, note_, ran⟩ := ran_bind ran
  obtain ⟨sameLoans, notedFit, toNoted⟩ := leaveNote_ran settings now note_ fit
  obtain ⟨_, _, undoing, ran⟩ := ran_bind ran
  cases ran
  have notedFound : noted.ledger.loans.get? loan.id = some loan := by rw [sameLoans, found]
  have ends : Ends ((Desk.exactEngine settings now).undoSubmission loan note) noted _ _ :=
    undoSubmission_ends settings now note notedFound
  intro time b alike _
  refine ⟨loan.status, by rw [alike.loans, found], ?_⟩
  refine Retries.andThen (leaveNote_again settings time alike found note) fun _ after failing still => ?_
  have afterFound : after.ledger.loans.get? loan.id = some loan := by rw [still.loans, found]
  apply (undoSubmission_ends settings time note afterFound).andThen
  · rcases ends.of_ok undoing with ⟨unapproved, rfl⟩ | ⟨approved, rfl⟩
    · intro _ _ ended
      rcases ended with ⟨_, rfl⟩ | ⟨approved, _⟩
      · exact ⟨rfl, fun _ => (toNoted _ still).concurs notedFit⟩
      · exact absurd approved unapproved
    · intro _ _ ended
      rcases ended with ⟨unapproved, _⟩ | ⟨_, rfl⟩
      · exact absurd approved unapproved
      · exact ⟨rfl, fun _ => ((toNoted _ still).passed ..).concurs (notedFit.passed notedFound _ _)⟩
  · intro _ _ ended
    obtain ⟨_, refused, rfl⟩ := ended
    exact ⟨ne_nil_of_failing refused, still⟩

theorem reassignPart_again {D D' b : Desk} {step : Step} {loan : LoanId} {note : String} {approver : ApproverId}
    {answer : Batch × List Change}
    (ran : (Desk.exactEngine settings now).reassignPart step loan note approver D = .ok answer D')
    (fit : D.ledger.Fit loan) (alike : Alike D.ledger b.ledger) (time : Timestamp) :
    Retries ((Desk.engine settings time).reassignPart step loan note approver) b
      (fun after => Alike D.ledger after.ledger) fun _ after => Concurs loan D'.ledger after.ledger := by
  obtain ⟨_, noted, note_, ran⟩ := ran_bind ran
  obtain ⟨sameLoans, notedFit, toNoted⟩ := leaveNote_ran settings now note_ fit
  cases ran
  have known : Blank.isVoid (handoverNote step approver note) = true ∨
      ∃ record, D.ledger.loans.get? loan = some record := by
    unfold leaveNote at note_
    by_cases void : Blank.isVoid (handoverNote step approver note) = true
    · exact Or.inl void
    · rw [if_neg void] at note_
      obtain ⟨_, rfl, went⟩ := demand_ran note_
      obtain ⟨_, found, _⟩ := (Ledger.appendNote_ends ..).of_ok went
      exact Or.inr found
  have notes : Retries ((Desk.engine settings time).leaveNote loan (handoverNote step approver note)) b
      (fun after => Alike D.ledger after.ledger) fun _ after => Alike D.ledger after.ledger := by
    rcases known with void | ⟨record, found⟩
    · unfold leaveNote
      rw [if_pos void]
      exact ⟨rfl, alike⟩
    · exact leaveNote_again settings time alike found _
  exact notes.andThen fun _ _ _ still => ⟨rfl, (toNoted _ still).concurs notedFit⟩

end Countersign.Engine
