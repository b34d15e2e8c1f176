import Countersign.Proofs.Counterpart
import Countersign.Proofs.DecisionsAbreast

/-!
A decision about a loan is independent of all that other loans go through. From two desks that
have the loan in common it comes to the same: it is done at both or stopped at both for the same
reason, the same of it is written to the chains, dates apart, and the ledgers are left as each
other's counterparts.
-/

namespace Countersign

open Ledger (Counterpart InPace)

namespace Desk

section

variable {α β : Type} {rel : Ledger → Ledger → Prop} {answers : α → β → Prop} {op : Ledger.Op α} {op' : Ledger.Op β}

theorem onLedger_abreast (pace : InPace rel answers op op') {a b : Desk} (related : rel a.ledger b.ledger) :
    Abreast (onLedger op) (onLedger op') a b
      (fun x y a' b' => Replies answers x y ∧
        ∃ ledger ledger', a' = { a with ledger := ledger } ∧ b' = { b with ledger := ledger' } ∧ rel ledger ledger')
      (fun s t a' b' => s = t ∧ (∃ what, s = .overflow what) ∧
        ∃ ledger ledger', a' = { a with ledger := ledger } ∧ b' = { b with ledger := ledger' } ∧ rel ledger ledger') := by
  have ran := pace a.ledger b.ledger related
  unfold Abreast at ran ⊢
  unfold onLedger
  cases one : op a.ledger with
  | ok x ledger =>
    cases other : op' b.ledger with
    | ok y ledger' =>
      rw [one, other] at ran
      exact ⟨.done ran.1, ledger, ledger', rfl, rfl, ran.2⟩
    | error t ledger' =>
      rw [one, other] at ran
      exact ran.elim
  | error s ledger =>
    cases other : op' b.ledger with
    | ok y ledger' =>
      rw [one, other] at ran
      exact ran.elim
    | error t ledger' =>
      rw [one, other] at ran
      obtain ⟨alike, related'⟩ := ran
      cases alike with
      | notFound what what' => exact ⟨.notFound what what', ledger, ledger', rfl, rfl, related'⟩
      | rejected why why' => exact ⟨.rejected why why', ledger, ledger', rfl, rfl, related'⟩
      | unavailable outage => exact ⟨.unavailable outage, ledger, ledger', rfl, rfl, related'⟩
      | overflow what => exact ⟨rfl, ⟨what, rfl⟩, ledger, ledger', rfl, rfl, related'⟩

end

/-- The batch of a run about these steps, and that of the other run, dates apart; each desk has
taken its own. -/
def Written (own : Step → Prop) (one other a b : ChainStore) : Prop :=
  ∃ batch batch', Batch.Matching own batch batch' ∧ one.commit batch = .ok a ∧ other.commit batch' = .ok b

def counterparts (shift : Renumbering) (loan : LoanId) (one other : Desk) : Pairing Desk Desk where
  working a b := a.chains = one.chains ∧ b.chains = other.chains ∧ a.directory = one.directory ∧
    b.directory = other.directory ∧
    Counterpart shift loan (one.ledger.links.get? loan) one.ledger.journal other.ledger.journal a.ledger b.ledger
  left a b := Written (· ∈ one.chains.chainOf loan) one.chains other.chains a.chains b.chains ∧
    a.directory = one.directory ∧ b.directory = other.directory ∧
    Counterpart shift loan (one.ledger.links.get? loan) one.ledger.journal other.ledger.journal a.ledger b.ledger
  number transaction transaction' := transaction' = shift.number transaction
  step step := step ∈ one.chains.chainOf loan
  account id := one.ledger.links.get? loan = some id
  amount _ := True
  charges _ := True
  stop _ := True
  rests a b working := by
    obtain ⟨chains, chains', rest⟩ := working
    have nothing (store : ChainStore) : store.commit .empty = .ok store := by
      change Except.ok { store with history := store.history ++ [] } = _
      rw [List.append_nil]
    refine ⟨⟨.empty, .empty, .empty, ?_, ?_⟩, rest⟩
    · rw [chains, nothing]
    · rw [chains', nothing]
  fails _ := trivial

/-- Desks that have a loan in common, each with the steps of other loans in some state. -/
structure Common (shift : Renumbering) (loan : LoanId) (one other : Desk) : Prop where
  regular : one.chains.Regular
  regular' : other.chains.Regular
  find? : ∀ id, Option.Rel (fun step step' => step = step' ∧ step ∈ one.chains.chainOf loan ∨
    step.loan ≠ loan ∧ step'.loan ≠ loan) (one.chains.find? id) (other.chains.find? id)
  chain : other.chains.chainOf loan = one.chains.chainOf loan
  directory : other.directory = one.directory
  ledger : Counterpart shift loan (one.ledger.links.get? loan) one.ledger.journal other.ledger.journal one.ledger
    other.ledger

section

variable {α β : Type} {shift : Renumbering} {loan : LoanId} {one other : Desk}

theorem counterparts_onLedger {answers : α → β → Prop} {op : Ledger.Op α} {op' : Ledger.Op β}
    (pace : InPace (Counterpart shift loan (one.ledger.links.get? loan) one.ledger.journal other.ledger.journal)
      answers op op') : (counterparts shift loan one other).InStep (Replies answers) (onLedger op) (onLedger op') := by
  rintro a b ⟨chains, chains', directory, directory', related⟩
  refine (onLedger_abreast pace related).imp ?_ ?_
  · rintro x y _ _ ⟨replies, ledger, ledger', rfl, rfl, related⟩
    exact ⟨replies, chains, chains', directory, directory', related⟩
  · rintro s t _ _ ⟨same, _, ledger, ledger', rfl, rfl, related⟩
    exact ⟨same, trivial, (counterparts shift loan one other).rests _ _
      ⟨chains, chains', directory, directory', related⟩⟩

theorem counterparts_read {answers : α → β → Prop} {view : Desk → α} {view' : Desk → β}
    (alike : ∀ a b, (counterparts shift loan one other).working a b → answers (view a) (view' b)) :
    (counterparts shift loan one other).InStep answers (read view) (read view') :=
  fun a b working => ⟨alike a b working, working⟩

theorem rel_renumbered (shift : Renumbering) (lien : Option TransactionId) :
    Option.Rel (fun number number' => number' = shift.number number) lien (lien.map shift.number) := by
  cases lien with
  | none => exact .none
  | some number => exact .some rfl

theorem renumbered_of_rel {lien lien' : Option TransactionId}
    (alike : Option.Rel (fun number number' => number' = shift.number number) lien lien') :
    lien' = lien.map shift.number := by
  cases alike with
  | none => rfl
  | some same => exact congrArg some same

theorem Common.paired (common : Common shift loan one other) (settings : Settings) :
    Services.Paired (counterparts shift loan one other) settings loan Desk.services Desk.services where
  commit batch batch' matching a b working := by
    obtain ⟨chains, chains', rest⟩ := working
    have known : ∀ update ∈ batch.updates, ∃ step ∈ one.chains.chainOf loan, ChainStore.Succeeds update step := by
      intro update mem
      obtain ⟨step, owned, id, ofLoan, rank⟩ := matching.concerns.updates update mem
      exact ⟨step, owned, id, ofLoan, rank⟩
    have known' : ∀ update ∈ batch'.updates, ∃ step ∈ other.chains.chainOf loan, ChainStore.Succeeds update step := by
      intro update mem
      obtain ⟨step, owned, id, ofLoan, rank⟩ := matching.concerns'.updates update mem
      exact ⟨step, common.chain ▸ owned, id, ofLoan, rank⟩
    obtain ⟨after, committed, _⟩ := ChainStore.commit_revises common.regular.sound known
    obtain ⟨after', committed', _⟩ := ChainStore.commit_revises common.regular'.sound known'
    rw [← chains] at committed
    rw [← chains'] at committed'
    have agree : Written (· ∈ one.chains.chainOf loan) one.chains other.chains after after' :=
      ⟨batch, batch', matching, chains ▸ committed, chains' ▸ committed'⟩
    exact .of_ok (commit_ok committed) (commit_ok committed') ⟨agree, rest⟩
  findStep id := counterparts_read fun a b working => by
    rw [working.1, working.2.1]
    exact common.find? id
  stepsOf := counterparts_read fun a b working => by
    rw [working.1, working.2.1, common.regular.stepsOf_eq, common.regular'.stepsOf_eq]
    exact ⟨common.chain.symm, fun _ mem => mem⟩
  findApprover approver := counterparts_read fun a b working => by
    rw [working.2.2.1, working.2.2.2.1, common.directory]
  submit amount date note := counterparts_onLedger (Ledger.pass_inPace _ _ _ rfl)
  disburse date amount payment note := counterparts_onLedger (Ledger.pass_inPace _ _ _ rfl)
  hold amount account note _ owns := counterparts_onLedger <| Ledger.move_inPace .hold owns
    (fun transaction account => .of_map (account.hold_renumbered shift transaction amount.value)) fun _ => rfl
  release account transaction transaction' owns same := by
    subst same
    exact counterparts_onLedger (Ledger.release_inPace owns transaction)
  withdraw amount account note payment _ owns := counterparts_onLedger <| Ledger.move_inPace .withdraw owns
    (fun _ account => .of_map (account.withdraw_renumbered shift amount.value)) fun _ => rfl
  reject date note := counterparts_onLedger (Ledger.pass_inPace _ _ _ rfl)
  undoApproval note := counterparts_onLedger (Ledger.pass_inPace _ _ _ rfl)
  appendNote text := counterparts_onLedger (Ledger.appendNote_inPace text)
  findAccount := counterparts_onLedger Ledger.findAccount_inPace
  findLoan := counterparts_read fun a b working => by
    have alike := working.2.2.2.2
    refine .done ?_
    rw [Ledger.loan?, Ledger.loan?, alike.record]
    cases found : a.ledger.loans.get? loan with
    | none => exact .none
    | some record => exact .some ⟨alike.keyed record found, _, rfl, rel_renumbered shift record.lien⟩
  chargesOf := counterparts_read fun a b working => by
    refine .done ⟨?_, trivial⟩
    rw [Ledger.chargesOf, Ledger.chargesOf, working.2.2.2.2.charges]
  markPaid ids := counterparts_onLedger (Ledger.markPaid_inPace ids)
  setLien lien lien' same := counterparts_onLedger (Ledger.setLien_inPace (renumbered_of_rel same))
  forceStatus := counterparts_onLedger (Ledger.forceStatus_inPace .submittedAndPendingApproval)
  sums charges kind _ := by
    split
    · exact fun _ _ => trivial
    · exact trivial

end

end Desk

end Countersign
