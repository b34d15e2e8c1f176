import Countersign.Proofs.CommandConduct
import Countersign.Proofs.Independence

/-!
What a decision leaves as it is. In the ledger nothing changes but what belongs to its loan, apart
from the numbers that are taken for transactions; in the chains nothing but the steps of its loan,
with rows about them at the end of the history.
-/

namespace Countersign

namespace Ledger

/-- Nothing has changed but what belongs to the loan. -/
structure Elsewhere (loan : LoanId) (before after : Ledger) : Prop where
  loans : ∀ other, other ≠ loan → after.loans.get? other = before.loans.get? other
  charges : ∀ other, other ≠ loan → after.charges.get? other = before.charges.get? other
  notes : ∀ other, other ≠ loan → after.notes.get? other = before.notes.get? other
  links : after.links = before.links
  accounts : ∀ id, before.links.get? loan ≠ some id → after.accounts.get? id = before.accounts.get? id
  failing : after.failing = before.failing
  numbers : before.lastTransaction ≤ after.lastTransaction

theorem Elsewhere.refl (loan : LoanId) (ledger : Ledger) : Elsewhere loan ledger ledger where
  loans _ _ := rfl
  charges _ _ := rfl
  notes _ _ := rfl
  links := rfl
  accounts _ _ := rfl
  failing := rfl
  numbers := Nat.le_refl _

variable {loan : LoanId} {before middle after : Ledger}

theorem Elsewhere.trans (first : Elsewhere loan before middle) (rest : Elsewhere loan middle after) :
    Elsewhere loan before after where
  loans other different := (rest.loans other different).trans (first.loans other different)
  charges other different := (rest.charges other different).trans (first.charges other different)
  notes other different := (rest.notes other different).trans (first.notes other different)
  links := rest.links.trans first.links
  accounts id unlinked := (rest.accounts id (first.links ▸ unlinked)).trans (first.accounts id unlinked)
  failing := rest.failing.trans first.failing
  numbers := Nat.le_trans first.numbers rest.numbers

theorem Elsewhere.passed {record : Loan} (target : LoanStatus) (entry : JournalEntry) :
    Elsewhere loan before (before.passed loan record target entry) :=
  { Elsewhere.refl loan before with
    loans := fun other different => by
      change (before.loans.insert loan _).get? other = _
      rw [Table.get?_insert, if_neg different] }

theorem Elsewhere.moved {id : AccountId} (linked : before.links.get? loan = some id) (changed : Account)
    (entry : JournalEntry) : Elsewhere loan before (before.moved id changed entry) :=
  { Elsewhere.refl loan before with
    accounts := fun other unlinked => by
      change (before.accounts.insert id changed).get? other = _
      rw [Table.get?_insert, if_neg]
      rintro rfl
      exact unlinked linked }

theorem Elsewhere.numbered : Elsewhere loan before before.numbered :=
  { Elsewhere.refl loan before with numbers := Nat.le_succ _ }

theorem Move.elsewhere (move : Move loan before after) : Elsewhere loan before after := by
  cases move with
  | note text =>
    refine { Elsewhere.refl loan before with notes := fun other different => ?_ }
    change (before.notes.insert loan _).get? other = _
    rw [Table.get?_insert, if_neg different]
  | pass found passage => exact .passed _ _
  | lien found lien =>
    refine { Elsewhere.refl loan before with loans := fun other different => ?_ }
    change (before.loans.insert loan _).get? other = _
    rw [Table.get?_insert, if_neg different]
  | mark found ids =>
    refine { Elsewhere.refl loan before with charges := fun other different => ?_ }
    change (before.charges.insert loan _).get? other = _
    rw [Table.get?_insert, if_neg different]
  | number => exact .numbered
  | hold amount linked found held =>
    have moved := Elsewhere.moved (show before.numbered.links.get? loan = _ from linked)
    exact Elsewhere.numbered.trans (moved _ _)
  | withdraw amount payment linked found withdrawn =>
    have moved := Elsewhere.moved (show before.numbered.links.get? loan = _ from linked)
    exact Elsewhere.numbered.trans (moved _ _)
  | release linked found released => exact .moved linked _ _

theorem Course.elsewhere (course : Course loan before after) : Elsewhere loan before after := by
  refine course.keeps (Elsewhere loan before) ?_ ?_ (.refl loan before)
  · intro a b move earlier
    exact earlier.trans move.elsewhere
  · intro a b disbursal earlier
    cases disbursal with
    | paid amount date payment found ready => exact earlier.trans (.passed _ _)

end Ledger

namespace ChainStore

structure Rewritten (loan : LoanId) (batch : Batch) (before after : ChainStore) : Prop where
  find? : ∀ id, after.find? id = (before.find? id).map (revise batch.updates)
  others : ∀ step ∈ before.allSteps, step.loan ≠ loan → revise batch.updates step = step
  succeeds : ∀ step ∈ before.allSteps, Succeeds (revise batch.updates step) step
  chains : ∀ other, other ≠ loan → after.chainOf other = before.chainOf other
  history : after.history = before.history ++ batch.history
  lastId : after.lastId = before.lastId

variable {store after : ChainStore} {loan : LoanId} {batch : Batch}

theorem commit_rewrites (sound : store.Sound) (concerns : batch.Concerns (· ∈ store.chainOf loan))
    (taken : store.commit batch = .ok after) : Rewritten loan batch store after := by
  have owns : ∀ update ∈ batch.updates, ∃ step ∈ store.chainOf loan, Succeeds update step := by
    intro update mem
    obtain ⟨step, owned, id, ofLoan, rank⟩ := concerns.updates update mem
    exact ⟨step, owned, id, ofLoan, rank⟩
  have known : ∀ update ∈ batch.updates, ∃ step ∈ store.allSteps, Succeeds update step := by
    intro update mem
    obtain ⟨step, owned, succeeds⟩ := owns update mem
    exact ⟨step, (mem_chainOf.mp owned).1, succeeds⟩
  obtain ⟨_, committed, revised⟩ := commit_revises sound owns
  cases committed.symm.trans taken
  obtain ⟨soundAfter, listing, succeeds⟩ := updates_revise sound known
  obtain ⟨_, rfl⟩ := commit_eq_ok_iff.mp taken
  refine ⟨fun id => ?_, ?_, succeeds, revised.others, rfl, (updates_keep _ _).2⟩
  · change (batch.updates.foldl update store).find? id = _
    cases found : store.find? id with
    | some step =>
      obtain ⟨mem, rfl⟩ := (sound.find?_eq_some_iff id step).mp found
      refine (soundAfter.find?_eq_some_iff ..).mpr ⟨?_, (succeeds step mem).id⟩
      rw [listing]
      exact List.mem_map_of_mem mem
    | none =>
      by_contra there
      obtain ⟨later, found'⟩ := Option.ne_none_iff_exists'.mp there
      obtain ⟨mem, rfl⟩ := (soundAfter.find?_eq_some_iff id later).mp found'
      rw [listing] at mem
      obtain ⟨step, stored, rfl⟩ := List.mem_map.mp mem
      have foundBefore := (sound.find?_eq_some_iff (revise batch.updates step).id step).mpr
        ⟨stored, (succeeds step stored).id.symm⟩
      cases found.symm.trans foundBefore
  · intro step mem different
    refine revise_of_other fun update listed same => ?_
    obtain ⟨target, owned, id, _⟩ := concerns.updates update listed
    obtain ⟨stored, ofLoan⟩ := mem_chainOf.mp owned
    cases sound.eq_of_id mem stored (same.trans id)
    exact different ofLoan

theorem revise_undated {updates updates' : List Step} (same : updates'.map Step.undated = updates.map Step.undated)
    {step step' : Step} (alike : step'.undated = step.undated) :
    (revise updates' step').undated = (revise updates step).undated := by
  induction updates generalizing updates' step step' with
  | nil =>
    rw [List.map_eq_nil_iff.mp same]
    exact alike
  | cons first rest ih =>
    obtain ⟨first', rest', rfl, firsts, others⟩ := List.map_eq_cons_iff.mp same
    refine ih others ?_
    unfold replace
    rw [Step.id_of_undated alike, Step.id_of_undated firsts]
    split
    · exact firsts
    · exact alike

end ChainStore

namespace Desk

open Ledger (Course Elsewhere Counterpart)

variable {loan : LoanId}

theorem Effect.course {before after : Desk} (effect : Effect loan before after) :
    Course loan before.ledger after.ledger := by
  cases effect with
  | idle same => exact .unpaid (same ▸ .refl)
  | built built => exact .unpaid (built.ledger ▸ .refl)
  | moved decided heeds => exact .unpaid decided.ledger
  | finished decided active => exact .unpaid decided.ledger.path
  | paid decided => exact .paid decided.ledger
  | rejected decided found refused freed => exact .unpaid decided.ledger

theorem Setback.course {before after : Desk} {stop : Stop} (setback : Setback loan before stop after) :
    Course loan before.ledger after.ledger := by
  cases setback with
  | declined declined => exact .unpaid (declined.same ▸ .refl)
  | halted waiting halted => exact halted.course.ledger

theorem decision_courses (settings : Settings) {desk : Desk} (orderly : desk.Orderly) {command : Command}
    (decides : command.decides = some loan) (now : Timestamp) :
    Course loan desk.ledger (desk.after settings (.command now command)).ledger := by
  have wrapped {work : Work Desk Outcome} (ends : Ends work desk (fun _ after => Effect loan desk after) (Setback loan desk)) :
      Course loan desk.ledger (left ((do pure (Answer.done (← work)) : Work Desk Answer) desk)).ledger := by
    have courses : Ends (do pure (Answer.done (← work)) : Work Desk Answer) desk
        (fun _ after => Course loan desk.ledger after.ledger) fun _ after => Course loan desk.ledger after.ledger :=
      ends.andThen (fun _ _ effect => effect.course) fun _ _ setback => setback.course
    cases ran : (do pure (Answer.done (← work)) : Work Desk Answer) desk with
    | ok answer after => exact courses.of_ok ran
    | error stop after => exact courses.of_error ran
  cases command with
  | scan | build => cases decides
  | approve _ step note date payment =>
    cases decides
    exact wrapped (Engine.approve_ends settings now orderly loan step note date payment)
  | reject _ step note =>
    cases decides
    exact wrapped (Engine.reject_ends settings now orderly loan step note)
  | undo _ step note target =>
    cases decides
    exact wrapped (Engine.undo_ends settings now orderly loan step note target)
  | reassign _ step note approver =>
    cases decides
    exact wrapped (Engine.reassign_ends settings now orderly loan step note approver)

end Desk

end Countersign
