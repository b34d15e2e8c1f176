import Countersign.Engine.Perform
import Countersign.Proofs.Ending
import Countersign.Watch

/-!
Services that serve one store of chains. Only two of them write to it; the others leave it as it
is, whatever becomes of the call, and so does every part of a command before its end. That holds at
the desk, and it holds under watch, where any service may be out of order.
-/

namespace Countersign

namespace Work

variable {σ α β : Type} {chains : σ → ChainStore} {store : ChainStore}

/-- Work that leaves the chains as the store has them, whichever way it ends. If it is done, its
answer is of a kind. -/
def Beside (chains : σ → ChainStore) (store : ChainStore) (told : α → Prop) (work : Work σ α) : Prop :=
  ∀ state, chains state = store →
    Ends work state (fun answer after => told answer ∧ chains after = store) fun _ after => chains after = store

def Aside (chains : σ → ChainStore) (work : Work σ α) : Prop := ∀ store, Beside chains store (fun _ => True) work

variable {work : Work σ α} {next : α → Work σ β} {told : α → Prop} {tells : β → Prop}

theorem Beside.answer {answer : α} (holds : told answer) : Beside chains store told (pure answer) :=
  fun _ same => ⟨holds, same⟩

theorem fail_beside (error : CommandError) : Beside chains store told (fail error) :=
  fun _ same => same

theorem Beside.andThen (first : Beside chains store told work)
    (rest : ∀ answer, told answer → Beside chains store tells (next answer)) :
    Beside chains store tells (work >>= next) := by
  intro state same
  refine (first state same).andThen ?_ fun _ _ kept => kept
  intro answer after ended
  exact rest answer ended.1 after ended.2

theorem Beside.mapM {items : List α} {step : α → Work σ β}
    (each : ∀ item, Beside chains store (fun _ => True) (step item)) :
    Beside chains store (fun _ => True) (items.mapM step) := by
  induction items with
  | nil => exact .answer trivial
  | cons item rest ih =>
    rw [List.mapM_cons]
    exact (each item).andThen fun _ _ => ih.andThen fun _ _ => .answer trivial

theorem Beside.filterM {items : List α} {test : α → Work σ Bool}
    (each : ∀ item, Beside chains store (fun _ => True) (test item)) :
    Beside chains store (fun _ => True) (items.filterM test) := by
  have auxiliary (kept : List α) : Beside chains store (fun _ => True) (items.filterAuxM test kept) := by
    induction items generalizing kept with
    | nil => exact .answer trivial
    | cons item rest ih => exact (each item).andThen fun _ _ => ih _
  exact (auxiliary []).andThen fun _ _ => .answer trivial

namespace Aside

variable {call : Work σ (Except LedgerError α)}

theorem answer (answer : α) : Aside chains (pure answer : Work σ α) := fun _ => .answer trivial

theorem andThen (first : Aside chains work) (rest : ∀ answer, Aside chains (next answer)) :
    Aside chains (work >>= next) :=
  fun store => (first store).andThen fun answer _ => rest answer store

theorem demand (aside : Aside chains call) (task : LedgerTask) : Aside chains (Work.demand task call) := by
  apply aside.andThen
  rintro (_ | answer)
  · exact fun _ => fail_beside _
  · exact .answer answer

theorem sum (total : Except Decimal.Overflow Decimal) : Aside chains (Work.sum total : Work σ Decimal) := by
  cases total with
  | ok total => exact .answer total
  | error what => exact fun _ _ same => same

theorem succeeds (aside : Aside chains call) : Aside chains (Engine.succeeds call) := by
  apply aside.andThen
  rintro (_ | _) <;> exact .answer _

end Aside

end Work

open Work (Beside Aside fail_beside)

structure Services.Serve {σ : Type} (services : Services σ) (chains : σ → ChainStore) : Prop where
  createChain : ∀ now drafts state, Ends (services.createChain now drafts) state
    (fun _ after => chains after = ((chains state).create now drafts).2) fun _ after => chains after = chains state
  commit : ∀ batch state, Ends (services.commit batch) state
    (fun _ after => (chains state).commit batch = .ok (chains after)) fun _ after => chains after = chains state
  findStep : ∀ step store, Beside chains store (· = store.find? step) (services.findStep step)
  stepsOf : ∀ loan store, Beside chains store (· = store.stepsOf loan) (services.stepsOf loan)
  pendingLoads : ∀ approvers, Aside chains (services.pendingLoads approvers)
  template : ∀ product, Aside chains (services.template product)
  activeApprovers : ∀ role, Aside chains (services.activeApprovers role)
  findApprover : ∀ approver, Aside chains (services.findApprover approver)
  submit : ∀ loan amount date note, Aside chains (services.submit loan amount date note)
  disburse : ∀ loan date amount payment note, Aside chains (services.disburse loan date amount payment note)
  hold : ∀ amount loan account note, Aside chains (services.hold amount loan account note)
  release : ∀ account transaction, Aside chains (services.release account transaction)
  withdraw : ∀ amount account note payment, Aside chains (services.withdraw amount account note payment)
  reject : ∀ loan date note, Aside chains (services.reject loan date note)
  undoApproval : ∀ loan note, Aside chains (services.undoApproval loan note)
  appendNote : ∀ loan text, Aside chains (services.appendNote loan text)
  findAccount : ∀ loan, Aside chains (services.findAccount loan)
  findLoan : ∀ loan, Aside chains (services.findLoan loan)
  scheduledLoans : Aside chains services.scheduledLoans
  chargesOf : ∀ loan, Aside chains (services.chargesOf loan)
  markPaid : ∀ loan charges, Aside chains (services.markPaid loan charges)
  setLien : ∀ loan transaction, Aside chains (services.setLien loan transaction)
  forceStatus : ∀ loan status, Aside chains (services.forceStatus loan status)

/-! The services of a desk. -/

namespace Desk

theorem onLedger_aside {α : Type} (op : Ledger.Op α) : Aside Desk.chains (onLedger op) := by
  intro store desk same
  unfold Ends onLedger
  cases op desk.ledger with
  | ok answer ledger => exact ⟨trivial, same⟩
  | error stop ledger => cases stop <;> first | exact ⟨trivial, same⟩ | exact same

theorem read_aside {α : Type} (view : Desk → α) : Aside Desk.chains (read view) := fun _ _ same => ⟨trivial, same⟩

theorem services_serve : services.Serve Desk.chains where
  createChain _ _ _ := rfl
  commit batch desk := by
    change Ends (Desk.commit batch) desk _ _
    unfold Ends Desk.commit
    cases desk.chains.commit batch with
    | ok chains => rfl
    | error error => rfl
  findStep step _ _ same := ⟨congrArg (·.find? step) same, same⟩
  stepsOf loan _ _ same := ⟨congrArg (·.stepsOf loan) same, same⟩
  pendingLoads _ := read_aside _
  template _ := read_aside _
  activeApprovers _ := read_aside _
  findApprover _ := read_aside _
  submit _ _ _ _ := onLedger_aside _
  disburse _ _ _ _ _ := onLedger_aside _
  hold _ _ _ _ := onLedger_aside _
  release _ _ := onLedger_aside _
  withdraw _ _ _ _ := onLedger_aside _
  reject _ _ _ := onLedger_aside _
  undoApproval _ _ := onLedger_aside _
  appendNote _ _ := onLedger_aside _
  findAccount _ := onLedger_aside _
  findLoan _ := read_aside _
  scheduledLoans := read_aside _
  chargesOf _ := read_aside _
  markPaid _ _ := onLedger_aside _
  setLien _ _ := onLedger_aside _
  forceStatus _ _ := onLedger_aside _

end Desk

/-! Services under watch. -/

namespace Watched

variable {σ α : Type} {chains : σ → ChainStore}

theorem within_ends {work : Work σ α} {watched : Watched σ} {done : α → σ → Prop} {stopped : Stop → σ → Prop}
    (ends : Ends work watched.inner done stopped) :
    Ends (within work) watched (fun answer after => done answer after.inner)
      fun stop after => stopped stop after.inner := by
  unfold Ends at ends
  unfold Ends within
  cases ran : work watched.inner with
  | ok answer inner =>
    rw [ran] at ends
    exact ends
  | error stop inner =>
    rw [ran] at ends
    exact ends

theorem modifyGet_ends {ε : Type} {change : σ → α × σ} {state : σ} {done : α → σ → Prop} {stopped : ε → σ → Prop}
    (ends : done (change state).1 (change state).2) :
    Ends (modifyGet change : EStateM ε σ α) state done stopped :=
  ends

theorem letThrough_ends (service : Service) (watched : Watched σ) :
    Ends (letThrough service) watched (fun _ after => after.inner = watched.inner) fun _ _ => False := by
  apply modifyGet_ends
  split <;> rfl

/-- A service that is asked is the service behind the watch, or it is out of order and nothing is
done there. -/
theorem guarded_ends {work : Work σ α} {watched : Watched σ} {done : α → σ → Prop} {stopped : Stop → σ → Prop}
    (service : Service) (ends : Ends work watched.inner done stopped)
    (down : stopped (.failed (.down service)) watched.inner) :
    Ends (guarded service work) watched (fun answer after => done answer after.inner)
      fun stop after => stopped stop after.inner := by
  apply (letThrough_ends service watched).certainly
  intro passes asked same
  rw [← same] at ends down
  cases passes with
  | true => exact within_ends ends
  | false => exact down

theorem guarded_beside {work : Work σ α} {store : ChainStore} {told : α → Prop} (service : Service)
    (beside : Beside chains store told work) :
    Beside (fun watched => chains watched.inner) store told (guarded service work) :=
  fun watched same => guarded_ends service (beside watched.inner same) same

theorem guarded_aside {work : Work σ α} (service : Service) (aside : Aside chains work) :
    Aside (fun watched => chains watched.inner) (guarded service work) :=
  fun store => guarded_beside service (aside store)

theorem guardedLedger_aside {work : Work σ (Except LedgerError α)} (service : Service) (aside : Aside chains work) :
    Aside (fun watched => chains watched.inner) (guardedLedger service work) := by
  intro store watched same
  apply (letThrough_ends service watched).certainly
  intro passes asked kept
  have stored : chains asked.inner = store := kept ▸ same
  cases passes with
  | true => exact within_ends (aside store asked.inner stored)
  | false => exact ⟨trivial, stored⟩

theorem traced_aside {work : Work σ (Except LedgerError α)} (call : GatewayCall) (id? : α → Option Nat)
    (aside : Aside chains work) : Aside (fun watched => chains watched.inner) (traced call id? work) := by
  intro store watched same
  refine (within_ends (aside store watched.inner same)).andThen ?_ fun _ _ kept => kept
  exact fun _ _ ended => ⟨trivial, ended.2⟩

variable {inner : Services σ}

theorem services_serve (serve : inner.Serve chains) : (services inner).Serve fun watched => chains watched.inner where
  createChain now drafts watched := guarded_ends .createChain (serve.createChain now drafts watched.inner) rfl
  commit batch watched := guarded_ends .commit (serve.commit batch watched.inner) rfl
  findStep step store := guarded_beside _ (serve.findStep step store)
  stepsOf loan store := guarded_beside _ (serve.stepsOf loan store)
  pendingLoads approvers := guarded_aside _ (serve.pendingLoads approvers)
  template product := guarded_aside _ (serve.template product)
  activeApprovers role := guarded_aside _ (serve.activeApprovers role)
  findApprover approver := guarded_aside _ (serve.findApprover approver)
  submit loan amount date note := traced_aside _ _ (serve.submit loan amount date note)
  disburse loan date amount payment note := traced_aside _ _ (serve.disburse loan date amount payment note)
  hold amount loan account note := traced_aside _ _ (serve.hold amount loan account note)
  release account transaction := traced_aside _ _ (serve.release account transaction)
  withdraw amount account note payment := traced_aside _ _ (serve.withdraw amount account note payment)
  reject loan date note := traced_aside _ _ (serve.reject loan date note)
  undoApproval loan note := traced_aside _ _ (serve.undoApproval loan note)
  appendNote loan text := traced_aside _ _ (serve.appendNote loan text)
  findAccount loan := traced_aside _ _ (serve.findAccount loan)
  findLoan loan := guardedLedger_aside _ (serve.findLoan loan)
  scheduledLoans := guardedLedger_aside _ serve.scheduledLoans
  chargesOf loan := guardedLedger_aside _ (serve.chargesOf loan)
  markPaid loan charges := guardedLedger_aside _ (serve.markPaid loan charges)
  setLien loan transaction := guardedLedger_aside _ (serve.setLien loan transaction)
  forceStatus loan status := guardedLedger_aside _ (serve.forceStatus loan status)

end Watched

end Countersign
