import Countersign.Proofs.ChainServices
import Countersign.Proofs.DecisionsAbreast
import Countersign.Proofs.LedgerCall
import Countersign.Proofs.WatchedAbreast

/-!
What the ledger keeps, whatever it is asked for. It is enough to look at each change of the books
by itself: what all of them keep, every operation keeps, whichever way it ends, and so does every
command, at the desk and under watch. For a decision that is told by running it beside itself; to
build chains nothing is asked of the ledger but to look.
-/

namespace Countersign

namespace Ledger

inductive Filed (loan : LoanId) : LoanStatus → JournalEntry → LoanStatus → Prop where
  | submitted (amount : Decimal) (date : ValueDate) :
      Filed loan .submittedAndPendingApproval (.submitForApproval loan amount date) .approved
  | disbursed {status : LoanStatus} (amount : Decimal) (date : ValueDate) (payment : Option PaymentTypeId)
      (ready : status ∈ [LoanStatus.approved, .submittedAndPendingApproval]) :
      Filed loan status (.disburse loan amount date payment) .active
  | rejected : Filed loan .submittedAndPendingApproval (.reject loan) .rejected
  | undone : Filed loan .approved (.undoApproval loan) .submittedAndPendingApproval
  | forced (status target : LoanStatus) : Filed loan status (.forceStatus loan target) target

/-- A condition on the books that every change of them keeps, if only these amounts are moved; and
in such books no sum fails to fit but in these ways. -/
structure Upkeep (scale : Nat) (kept : Ledger → Prop) (amounts : Amount → Prop) (spill : Decimal.Overflow → Prop) :
    Prop where
  inOrder : ∀ ledger, kept ledger → ledger.InOrder
  noted : ∀ ledger loan record text, kept ledger → ledger.loans.get? loan = some record → kept (ledger.noted loan text)
  passed : ∀ ledger loan record entry target, kept ledger → ledger.loans.get? loan = some record →
    Filed loan record.status entry target → kept (ledger.passed loan record target entry)
  pledged : ∀ ledger loan record lien, kept ledger → ledger.loans.get? loan = some record →
    kept (ledger.pledged loan record lien)
  marked : ∀ ledger loan ids charges, kept ledger → ledger.charges.get? loan = some charges →
    kept (ledger.withMarked loan ids charges)
  numbered : ∀ ledger, kept ledger → kept ledger.numbered
  held : ∀ ledger id account changed loan amount, kept ledger → amounts amount →
    ledger.accounts.get? id = some account →
    account.hold (ledger.lastTransaction + 1) amount.value = .ok changed →
    kept (ledger.numbered.moved id changed (.hold id loan amount.value (ledger.lastTransaction + 1)))
  withdrawn : ∀ ledger id account changed payment amount, kept ledger → amounts amount →
    ledger.accounts.get? id = some account → account.withdraw amount.value = .ok changed →
    kept (ledger.numbered.moved id changed (.withdraw id amount.value payment (ledger.lastTransaction + 1)))
  released : ∀ ledger id account changed transaction, kept ledger → ledger.accounts.get? id = some account →
    account.release transaction = .ok changed → kept (ledger.moved id changed (.release id transaction))
  holdSpills : ∀ ledger id account transaction amount what, kept ledger → amounts amount →
    ledger.accounts.get? id = some account → account.hold transaction amount.value = .error (.overflow what) → spill what
  withdrawSpills : ∀ ledger id account amount what, kept ledger → amounts amount →
    ledger.accounts.get? id = some account → account.withdraw amount.value = .error (.overflow what) → spill what
  releaseSpills : ∀ ledger id account transaction what, kept ledger → ledger.accounts.get? id = some account →
    account.release transaction = .error (.overflow what) → spill what
  /-- What is due of the charges of a loan is such an amount, or fails to fit in such a way. -/
  charged : ∀ ledger loan kind, kept ledger →
    match Charge.total (Charge.outstandingOf (ledger.chargesOf loan) kind) scale with
    | .ok total => ∀ amount, Amount.of? total = some amount → amounts amount
    | .error what => spill what

section

variable {scale : Nat} {kept : Ledger → Prop} {amounts : Amount → Prop} {spill : Decimal.Overflow → Prop}

def Keeps {α : Type} (kept : Ledger → Prop) (spill : Decimal.Overflow → Prop) (op : Op α) : Prop :=
  ∀ ledger, kept ledger →
    Ends op ledger (fun _ after => kept after) fun stop after => kept after ∧ ∀ what, stop = .overflow what → spill what

theorem refusal_spills {ledger : Ledger} (here : kept ledger) (error : LedgerError) :
    kept ledger ∧ ∀ what, Stop.refused error = .overflow what → spill what := by
  refine ⟨here, fun _ is => ?_⟩
  cases is

theorem Keeps.of_ends {α : Type} {op : Op α} {done : Ledger → α → Ledger → Prop} {stopped : Ledger → Stop → Prop}
    (ends : ∀ ledger, Ends op ledger (done ledger) fun stop after => stopped ledger stop ∧
      (∃ error, stop = .refused error) ∧ after = ledger)
    (keeps : ∀ ledger answer after, kept ledger → done ledger answer after → kept after) : Keeps kept spill op := by
  intro ledger here
  refine (ends ledger).imp (fun answer after ended => keeps ledger answer after here ended) ?_
  rintro stop _ ⟨_, ⟨error, rfl⟩, rfl⟩
  exact refusal_spills here error

variable (upkeep : Upkeep scale kept amounts spill)
include upkeep

theorem pass_keeps (op : LedgerOp) {loan : LoanId} {sources : List LoanStatus} {target : LoanStatus}
    {entry : JournalEntry} (files : ∀ status ∈ sources, Filed loan status entry target) :
    Keeps kept spill (do check op; transition loan sources target; enter entry) := by
  refine .of_ends (pass_ends op loan sources target entry) ?_
  rintro ledger _ _ here ⟨_, record, found, allowed, rfl⟩
  exact upkeep.passed ledger loan record entry target here found (files record.status allowed)

theorem submit_keeps (loan : LoanId) (amount : Decimal) (date : ValueDate) : Keeps kept spill (submit loan amount date) := by
  refine pass_keeps upkeep _ fun status mem => ?_
  cases List.mem_singleton.mp mem
  exact .submitted amount date

theorem disburse_keeps (loan : LoanId) (date : ValueDate) (amount : Decimal) (payment : Option PaymentTypeId) :
    Keeps kept spill (disburse loan date amount payment) :=
  pass_keeps upkeep _ fun _ mem => .disbursed amount date payment mem

theorem reject_keeps (loan : LoanId) : Keeps kept spill (reject loan) := by
  refine pass_keeps upkeep _ fun status mem => ?_
  cases List.mem_singleton.mp mem
  exact .rejected

theorem undoApproval_keeps (loan : LoanId) : Keeps kept spill (undoApproval loan) := by
  refine pass_keeps upkeep _ fun status mem => ?_
  cases List.mem_singleton.mp mem
  exact .undone

theorem appendNote_keeps (loan : LoanId) (text : String) : Keeps kept spill (appendNote loan text) := by
  refine .of_ends (appendNote_ends loan text) ?_
  rintro ledger _ _ here ⟨_, ⟨record, found⟩, rfl⟩
  exact upkeep.noted ledger loan record text here found

theorem forceStatus_keeps (loan : LoanId) (status : LoanStatus) : Keeps kept spill (forceStatus loan status) := by
  refine .of_ends (forceStatus_ends loan status) ?_
  rintro ledger _ _ here ⟨_, record, found, rfl⟩
  exact upkeep.passed ledger loan record _ status here found (.forced record.status status)

theorem setLien_keeps (loan : LoanId) (lien : Option TransactionId) : Keeps kept spill (setLien loan lien) := by
  refine .of_ends (setLien_ends loan lien) ?_
  rintro ledger _ _ here ⟨record, found, rfl⟩
  exact upkeep.pledged ledger loan record lien here found

theorem markPaid_keeps (loan : LoanId) (ids : List ChargeId) : Keeps kept spill (markPaid loan ids) := by
  refine .of_ends (markPaid_ends loan ids) ?_
  rintro ledger _ _ here ⟨charges, found, rfl⟩
  exact upkeep.marked ledger loan ids charges here found

omit upkeep in
theorem findAccount_keeps (loan : LoanId) : Keeps kept spill (findAccount loan) := by
  intro ledger here
  refine (findAccount_ends loan ledger).imp ?_ ?_
  · rintro _ _ ⟨_, _, rfl⟩
    exact here
  · rintro _ _ ⟨⟨_, rfl⟩ | ⟨_, rfl⟩, rfl⟩ <;> exact refusal_spills here _

theorem move_keeps (op : LedgerOp) {id : AccountId} {change : TransactionId → Account → Except Stop Account}
    {entry : TransactionId → JournalEntry}
    (moves : ∀ ledger account changed, kept ledger → ledger.accounts.get? id = some account →
      change (ledger.lastTransaction + 1) account = .ok changed →
      kept (ledger.numbered.moved id changed (entry (ledger.lastTransaction + 1))))
    (spills : ∀ ledger account transaction what, kept ledger → ledger.accounts.get? id = some account →
      change transaction account = .error (.overflow what) → spill what) :
    Keeps kept spill (do
      check op
      let transaction ← nextTransaction
      changeAccount id (change transaction)
      enter (entry transaction)
      pure transaction) := by
  intro ledger here
  refine (move_ends op id change entry ledger).imp ?_ ?_
  · rintro _ _ ⟨_, rfl, account, changed, found, changes, rfl⟩
    exact moves ledger account changed here found changes
  · rintro _ _ (⟨_, ⟨_, rfl⟩, rfl⟩ | ⟨⟨_, _, rfl⟩ | ⟨account, found, refused⟩, rfl⟩)
    · exact refusal_spills here _
    · exact refusal_spills (upkeep.numbered ledger here) _
    · refine ⟨upkeep.numbered ledger here, ?_⟩
      rintro what rfl
      exact spills ledger account _ what here found refused

theorem hold_keeps {amount : Amount} (moves : amounts amount) (loan : Option LoanId) (id : AccountId) :
    Keeps kept spill (hold amount loan id) :=
  move_keeps upkeep .hold
    (fun ledger account changed here found held => upkeep.held ledger id account changed loan amount here moves found held)
    fun ledger account transaction what here found => upkeep.holdSpills ledger id account transaction amount what here moves found

theorem withdraw_keeps {amount : Amount} (moves : amounts amount) (id : AccountId) (payment : PaymentTypeId) :
    Keeps kept spill (withdraw amount id payment) :=
  move_keeps upkeep .withdraw
    (fun ledger account changed here found withdrawn =>
      upkeep.withdrawn ledger id account changed payment amount here moves found withdrawn)
    fun ledger account _ what here found => upkeep.withdrawSpills ledger id account amount what here moves found

theorem release_keeps (id : AccountId) (transaction : TransactionId) : Keeps kept spill (release id transaction) := by
  intro ledger here
  refine (release_ends id transaction ledger).imp ?_ ?_
  · rintro _ _ ⟨_, account, changed, found, released, rfl⟩
    exact upkeep.released ledger id account changed transaction here found released
  · rintro _ _ ⟨⟨_, rfl⟩ | ⟨_, rfl⟩ | ⟨account, found, refused⟩, rfl⟩
    · exact refusal_spills here _
    · exact refusal_spills here _
    · refine ⟨here, ?_⟩
      rintro what rfl
      exact upkeep.releaseSpills _ id account transaction what here found refused

end

end Ledger

namespace ChainStore

theorem commit_undated (store : ChainStore) {batch batch' : Batch} (redated : batch.Redated batch') :
    (∃ after after', store.commit batch = .ok after ∧ store.commit batch' = .ok after') ∨
      ∃ error, store.commit batch = .error error ∧ store.commit batch' = .error error := by
  have missing (updates : List Step) : (updates.map Step.undated).find? (fun step => !store.steps.contains step.id) =
      (updates.find? fun step => !store.steps.contains step.id).map Step.undated := by
    rw [List.find?_map]
    rfl
  have same : (batch'.updates.find? fun step => !store.steps.contains step.id).map Step.undated =
      (batch.updates.find? fun step => !store.steps.contains step.id).map Step.undated := by
    rw [← missing, ← missing, redated.updates]
  unfold commit
  cases first : batch.updates.find? fun step => !store.steps.contains step.id with
  | none =>
    rw [first, Option.map_none, Option.map_eq_none_iff] at same
    rw [same]
    exact Or.inl ⟨_, _, rfl, rfl⟩
  | some step =>
    rw [first, Option.map_some, Option.map_eq_some_iff] at same
    obtain ⟨step', second, undated⟩ := same
    have sameError : CommandError.stepNotFound step'.id = .stepNotFound step.id := by rw [Step.id_of_undated undated]
    rw [second]
    exact Or.inr ⟨_, rfl, congrArg Except.error sameError⟩

end ChainStore

namespace Desk

open Ledger (Keeps Upkeep)

/-- A run beside itself, in books that meet a condition. -/
def itself (kept : Ledger → Prop) (amounts : Amount → Prop) (spill : Decimal.Overflow → Prop) : Pairing Desk Desk where
  working a b := a = b ∧ kept a.ledger
  left a b := a.ledger = b.ledger ∧ kept a.ledger
  number transaction transaction' := transaction = transaction'
  step _ := True
  account _ := True
  amount := amounts
  charges charges := ∃ ledger loan, kept ledger ∧ charges = Ledger.chargesOf ledger loan
  stop stop := ∀ what, stop = .overflow what → spill what
  rests a b working := ⟨congrArg _ working.1, working.2⟩
  fails _ _ is := by cases is

section

variable {α : Type} {kept : Ledger → Prop} {amounts : Amount → Prop} {spill : Decimal.Overflow → Prop}

theorem itself_onLedger {answers : α → α → Prop} {op : Ledger.Op α} (keeps : Keeps kept spill op)
    (answered : ∀ answer, answers answer answer) :
    (itself kept amounts spill).InStep (Replies answers) (onLedger op) (onLedger op) := by
  rintro a _ ⟨rfl, here⟩
  have ended := keeps a.ledger here
  unfold Abreast onLedger
  unfold Ends at ended
  cases ran : op a.ledger with
  | ok answer ledger =>
    rw [ran] at ended
    exact ⟨.done (answered answer), rfl, ended⟩
  | error stop ledger =>
    rw [ran] at ended
    cases stop with
    | overflow what =>
      refine ⟨rfl, ?_, rfl, ended.1⟩
      rintro _ ⟨⟩
      exact ended.2 what rfl
    | refused error =>
      cases error with
      | notFound what => exact ⟨.notFound what what, rfl, ended.1⟩
      | rejected why => exact ⟨.rejected why why, rfl, ended.1⟩
      | unavailable outage => exact ⟨.unavailable outage, rfl, ended.1⟩

theorem itself_read {answers : α → α → Prop} {view : Desk → α}
    (answered : ∀ desk, kept desk.ledger → answers (view desk) (view desk)) :
    (itself kept amounts spill).InStep answers (read view) (read view) := by
  rintro a _ ⟨rfl, here⟩
  exact ⟨answered a here, rfl, here⟩

variable {settings : Settings} (upkeep : Upkeep settings.moneyScale kept amounts spill)
include upkeep

theorem itself_paired (loan : LoanId) :
    Services.Paired (itself kept amounts spill) settings loan Desk.services Desk.services where
  commit batch batch' matching := by
    rintro a _ ⟨rfl, here⟩
    rcases a.chains.commit_undated matching.redated with ⟨_, _, taken, taken'⟩ | ⟨error, refused, refused'⟩
    · exact .of_ok (commit_ok taken) (commit_ok taken') ⟨rfl, here⟩
    · refine .of_error (commit_error refused) (commit_error refused') ⟨rfl, fun _ is => ?_, rfl, here⟩
      cases is
  findStep id := itself_read fun desk _ => by
    cases desk.chains.find? id with
    | none => exact .none
    | some step => exact .some (Or.inl ⟨rfl, trivial⟩)
  stepsOf := itself_read fun _ _ => ⟨rfl, fun _ _ => trivial⟩
  findApprover _ := itself_read fun _ _ => rfl
  submit amount date _ := itself_onLedger (Ledger.submit_keeps upkeep loan amount date) fun _ => trivial
  disburse date amount payment _ := itself_onLedger (Ledger.disburse_keeps upkeep loan date amount payment) fun _ => trivial
  hold amount account _ moves _ := itself_onLedger (Ledger.hold_keeps upkeep moves (some loan) account) fun _ => rfl
  release account transaction _ _ same := by
    subst same
    exact itself_onLedger (Ledger.release_keeps upkeep account transaction) fun _ => trivial
  withdraw amount account _ payment moves _ :=
    itself_onLedger (Ledger.withdraw_keeps upkeep moves account payment) fun _ => rfl
  reject _ _ := itself_onLedger (Ledger.reject_keeps upkeep loan) fun _ => trivial
  undoApproval _ := itself_onLedger (Ledger.undoApproval_keeps upkeep loan) fun _ => trivial
  appendNote text := itself_onLedger (Ledger.appendNote_keeps upkeep loan text) fun _ => trivial
  findAccount := itself_onLedger (Ledger.findAccount_keeps loan) fun _ => ⟨rfl, trivial⟩
  findLoan := itself_read fun desk here => by
    refine .done ?_
    rw [Ledger.loan?]
    cases found : desk.ledger.loans.get? loan with
    | none => exact .none
    | some record =>
      refine .some ⟨(upkeep.inOrder _ here).keyed loan record found, record.lien, rfl, ?_⟩
      cases record.lien with
      | none => exact .none
      | some number => exact .some rfl
  chargesOf := itself_read fun desk here => .done ⟨rfl, desk.ledger, loan, here, rfl⟩
  markPaid ids := itself_onLedger (Ledger.markPaid_keeps upkeep loan ids) fun _ => trivial
  setLien lien lien' same := by
    have equal : lien = lien' := by
      cases same with
      | none => rfl
      | some same => exact congrArg some same
    subst equal
    exact itself_onLedger (Ledger.setLien_keeps upkeep loan lien) fun _ => trivial
  forceStatus := itself_onLedger (Ledger.forceStatus_keeps upkeep loan _) fun _ => trivial
  sums := by
    rintro _ kind ⟨ledger, loan, here, rfl⟩
    have charged := upkeep.charged ledger loan kind here
    split
    next total ran =>
      rw [ran] at charged
      exact charged
    next what ran =>
      rw [ran] at charged
      rintro _ ⟨⟩
      exact charged

end

end Desk

/-! Chains are built without a change in the books. -/

/-- Work that leaves what is viewed as it is, and can fail but not spill. -/
def Work.Spares {σ κ α : Type} (view : σ → κ) (work : Work σ α) : Prop :=
  ∀ state, Ends work state (fun _ after => view after = view state)
    fun stop after => (∃ error, stop = .failed error) ∧ view after = view state

namespace Work.Spares

variable {σ κ α β : Type} {view : σ → κ} {work : Work σ α}

theorem answer (answer : α) : Spares view (pure answer : Work σ α) := fun _ => rfl

theorem fail (error : CommandError) : Spares view (Work.fail error : Work σ α) := fun _ => ⟨⟨error, rfl⟩, rfl⟩

theorem andThen {next : α → Work σ β} (first : Spares view work) (rest : ∀ answer, Spares view (next answer)) :
    Spares view (work >>= next) := by
  intro state
  refine (first state).andThen ?_ fun _ _ halted => halted
  intro answer after same
  exact (rest answer after).imp (fun _ _ later => later.trans same) fun _ _ halted => ⟨halted.1, halted.2.trans same⟩

theorem demand {call : Work σ (Except LedgerError α)} (spares : Spares view call) (task : LedgerTask) :
    Spares view (Work.demand task call) := by
  apply spares.andThen
  rintro (_ | found)
  · exact fail _
  · exact answer found

theorem mapM {items : List α} {step : α → Work σ β} (each : ∀ item, Spares view (step item)) :
    Spares view (items.mapM step) := by
  induction items with
  | nil => exact answer []
  | cons item rest ih =>
    rw [List.mapM_cons]
    exact (each item).andThen fun _ => ih.andThen fun _ => answer _

theorem filterM {items : List α} {test : α → Work σ Bool} (each : ∀ item, Spares view (test item)) :
    Spares view (items.filterM test) := by
  have auxiliary (kept : List α) : Spares view (items.filterAuxM test kept) := by
    induction items generalizing kept with
    | nil => exact answer _
    | cons item rest ih => exact (each item).andThen fun _ => ih _
  exact (auxiliary []).andThen fun _ => answer _

theorem foldlM {items : List β} {step : α → β → Work σ α} (each : ∀ sum item, Spares view (step sum item)) (sum : α) :
    Spares view (items.foldlM step sum) := by
  induction items generalizing sum with
  | nil => exact answer sum
  | cons item rest ih =>
    rw [List.foldlM_cons]
    exact (each sum item).andThen ih

end Work.Spares

open Work (Spares)

structure Services.Spare {σ κ : Type} (services : Services σ) (view : σ → κ) : Prop where
  createChain : ∀ now drafts, Spares view (services.createChain now drafts)
  stepsOf : ∀ loan, Spares view (services.stepsOf loan)
  pendingLoads : ∀ approvers, Spares view (services.pendingLoads approvers)
  template : ∀ product, Spares view (services.template product)
  activeApprovers : ∀ role, Spares view (services.activeApprovers role)
  findLoan : ∀ loan, Spares view (services.findLoan loan)
  scheduledLoans : Spares view services.scheduledLoans

namespace Engine

variable {σ κ : Type} {view : σ → κ} {engine : Engine σ} (spare : engine.services.Spare view)
include spare

theorem build_spares (id : LoanId) : Spares view (engine.build id) := by
  refine (spare.stepsOf id).andThen fun steps => ?_
  split
  · exact .fail _
  · have found : Spares view (engine.requireLoan id) := by
      refine ((spare.findLoan id).demand .loadLoan).andThen ?_
      rintro (_ | loan)
      · exact .fail _
      · exact .answer loan
    refine found.andThen fun loan => (spare.template loan.product).andThen ?_
    rintro (_ | template)
    · exact .answer _
    · dsimp only
      split
      · exact .answer _
      · have drafted : Spares view ((ChainLink.chain loan.principal template.entries).mapM (engine.assign id)) := by
          refine .mapM fun link => (spare.activeApprovers link.role).andThen fun candidates => ?_
          exact (spare.pendingLoads _).andThen fun _ => .answer _
        refine drafted.andThen fun drafts => ?_
        split
        · exact .answer _
        · exact (spare.createChain engine.now drafts).andThen fun _ => .answer _

theorem scan_spares : Spares view engine.scan := by
  have awaiting : Spares view engine.awaitingChain := by
    refine (spare.scheduledLoans.demand .listScheduled).andThen fun scheduled => ?_
    exact .filterM fun id => (spare.stepsOf id).andThen fun _ => .answer _
  refine awaiting.andThen fun ids => .foldlM (fun report id state => ?_) _
  have built := build_spares spare id state
  unfold Ends at built ⊢
  unfold scanLoan
  cases ran : engine.build id state with
  | ok answer after =>
    rw [ran] at built
    cases answer with
    | created outcome => exact built
    | skipped loan reason => exact built
  | error stop after =>
    rw [ran] at built
    obtain ⟨⟨error, rfl⟩, same⟩ := built
    exact same

end Engine

theorem Engine.perform_keeps {σ : Type} {view : σ → Ledger} {services : Services σ} {settings : Settings}
    {pairing : Pairing σ σ} {kept : Ledger → Prop} {spill : Decimal.Overflow → Prop}
    (paired : ∀ loan, Services.Paired pairing settings loan services services) (spare : services.Spare view)
    (leaves : ∀ a b, pairing.left a b → kept (view a))
    (spills : ∀ what, pairing.stop (.overflow what) → spill what) {state : σ} (working : pairing.working state state)
    (here : kept (view state)) (now : Timestamp) (command : Command) :
    Ends (perform ⟨services, settings, now⟩ command) state (fun _ after => kept (view after))
      fun stop after => kept (view after) ∧ ∀ what, stop = .overflow what → spill what := by
  have spared {α : Type} {work : Work σ α} (wrap : α → Answer) (spares : Spares view work) :
      Ends (do pure (wrap (← work))) state (fun _ after => kept (view after))
        fun stop after => kept (view after) ∧ ∀ what, stop = .overflow what → spill what := by
    refine (spares state).andThen ?_ ?_
    · intro _ after same
      have keeps : kept (view after) := same ▸ here
      exact keeps
    · rintro _ after ⟨⟨error, rfl⟩, same⟩
      refine ⟨same ▸ here, fun _ is => ?_⟩
      cases is
  cases decides : command.decides with
  | some loan =>
    have ran := perform_abreast (paired loan) now now decides state state working
    unfold Abreast at ran
    unfold Ends
    cases ended : perform ⟨services, settings, now⟩ command state with
    | ok answer after =>
      rw [ended] at ran
      exact leaves _ _ ran
    | error stop after =>
      rw [ended] at ran
      refine ⟨leaves _ _ ran.2.2, ?_⟩
      rintro what rfl
      exact spills what ran.2.1
  | none =>
    cases command with
    | scan => exact spared .scanned (scan_spares spare)
    | build loan => exact spared .built (build_spares spare loan)
    | approve | reject | undo | reassign => cases decides

namespace Desk

open Ledger (Upkeep)

theorem services_spare : services.Spare Desk.ledger where
  createChain _ _ _ := rfl
  stepsOf _ _ := rfl
  pendingLoads _ _ := rfl
  template _ _ := rfl
  activeApprovers _ _ := rfl
  findLoan _ _ := rfl
  scheduledLoans _ := rfl

variable {settings : Settings} {kept : Ledger → Prop} {amounts : Amount → Prop} {spill : Decimal.Overflow → Prop}

theorem perform_keeps (upkeep : Upkeep settings.moneyScale kept amounts spill) {desk : Desk} (here : kept desk.ledger)
    (now : Timestamp) (command : Command) :
    Ends ((Desk.engine settings now).perform command) desk (fun _ after => kept after.ledger)
      fun stop after => kept after.ledger ∧ ∀ what, stop = .overflow what → spill what :=
  Engine.perform_keeps (itself_paired upkeep) services_spare (fun _ _ left => left.2)
    (fun what stops => stops what rfl) ⟨rfl, here⟩ here now command

end Desk

namespace Watched

open Ledger (Upkeep)

variable {σ κ α : Type} {view : σ → κ}

theorem guarded_spares (service : Service) {work : Work σ α} (spares : Spares view work) :
    Spares (fun watched : Watched σ => view watched.inner) (guarded service work) :=
  fun watched => guarded_ends service (spares watched.inner) ⟨⟨.down service, rfl⟩, rfl⟩

theorem guardedLedger_spares (service : Service) {call : Work σ (Except LedgerError α)} (spares : Spares view call) :
    Spares (fun watched : Watched σ => view watched.inner) (guardedLedger service call) := by
  intro watched
  refine (letThrough_ends service watched).certainly ?_
  intro passes asked same
  dsimp only
  rw [← same]
  cases passes with
  | true => exact within_ends (spares asked.inner)
  | false => exact rfl

theorem services_spare {inner : Services σ} (spare : inner.Spare view) :
    (services inner).Spare fun watched => view watched.inner where
  createChain now drafts := guarded_spares _ (spare.createChain now drafts)
  stepsOf loan := guarded_spares _ (spare.stepsOf loan)
  pendingLoads approvers := guarded_spares _ (spare.pendingLoads approvers)
  template product := guarded_spares _ (spare.template product)
  activeApprovers role := guarded_spares _ (spare.activeApprovers role)
  findLoan loan := guardedLedger_spares _ (spare.findLoan loan)
  scheduledLoans := guardedLedger_spares _ spare.scheduledLoans

variable {settings : Settings} {kept : Ledger → Prop} {amounts : Amount → Prop} {spill : Decimal.Overflow → Prop}

theorem perform_keeps (upkeep : Upkeep settings.moneyScale kept amounts spill) {watched : Watched Desk}
    (here : kept watched.inner.ledger) (now : Timestamp) (command : Command) :
    Ends (Engine.perform ⟨services Desk.services, settings, now⟩ command) watched (fun _ after => kept after.inner.ledger)
      fun stop after => kept after.inner.ledger ∧ ∀ what, stop = .overflow what → spill what :=
  Engine.perform_keeps (fun loan => services_paired (Desk.itself_paired upkeep loan))
    (services_spare Desk.services_spare) (fun _ _ left => left.2) (fun what stops => stops what rfl)
    ⟨rfl, rfl, here⟩ here now command

end Watched

end Countersign
