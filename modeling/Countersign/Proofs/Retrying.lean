import Countersign.Proofs.ExactServices
import Countersign.Proofs.LedgerPart

/-!
Trying again. Work that may fail for an operation that was made to fail is followed to where
that leaves the ledger; work that went through is taken apart into what it did on the way.
-/

namespace Countersign

/-- Work that goes through, or fails only for an operation that was made to fail; what it
leaves then is somewhere to try again from. -/
def Retries {α : Type} (work : Work Desk α) (desk : Desk) (again : Desk → Prop) (done : α → Desk → Prop) : Prop :=
  Ends work desk (fun answer after => after.ledger.failing = desk.ledger.failing ∧ done answer after)
    fun _ after => desk.ledger.failing ≠ [] ∧ again after

namespace Retries

variable {α β : Type} {work : Work Desk α} {desk : Desk} {again : Desk → Prop} {middle : α → Desk → Prop}
  {done : β → Desk → Prop}

theorem andThen {next : α → Work Desk β} (first : Retries work desk again middle)
    (rest : ∀ answer after, after.ledger.failing = desk.ledger.failing → middle answer after →
      Retries (next answer) after again done) : Retries (work >>= next) desk again done := by
  refine Ends.andThen first ?_ fun _ _ halted => halted
  intro answer after ended
  obtain ⟨failing, reached⟩ := ended
  have ends := rest answer after failing reached
  unfold Retries at ends
  rw [failing] at ends
  exact ends

theorem imp {middle' : α → Desk → Prop} {again' : Desk → Prop} (retries : Retries work desk again middle)
    (halt : ∀ after, again after → again' after) (finish : ∀ answer after, middle answer after → middle' answer after) :
    Retries work desk again' middle' :=
  Ends.imp retries (fun answer after ⟨failing, reached⟩ => ⟨failing, finish answer after reached⟩)
    fun _ after ⟨failing, left⟩ => ⟨failing, halt after left⟩

end Retries

theorem ran_bind {σ α β : Type} {work : Work σ α} {next : α → Work σ β} {state after : σ} {answer : β}
    (ran : (work >>= next) state = .ok answer after) :
    ∃ middle between, work state = .ok middle between ∧ next middle between = .ok answer after := by
  have ends := Ends.of_ran ran
  rw [ends_bind] at ends
  obtain ⟨middle, between, first, rest⟩ := ends.exists_ok
  obtain ⟨reply, later, second, rfl, rfl⟩ := rest.exists_ok
  exact ⟨middle, between, first, second⟩

theorem onLedger_ran {α : Type} {op : Ledger.Op α} {desk after : Desk} {reply : Except LedgerError α}
    (ran : Desk.onLedger op desk = .ok reply after) :
    ∃ ledger, after = { desk with ledger := ledger } ∧
      ((∃ answer, reply = .ok answer ∧ op desk.ledger = .ok answer ledger) ∨
        ∃ error, reply = .error error ∧ op desk.ledger = .error (.refused error) ledger) := by
  unfold Desk.onLedger at ran
  cases went : op desk.ledger with
  | ok answer ledger =>
    rw [went] at ran
    cases ran
    exact ⟨ledger, rfl, Or.inl ⟨answer, rfl, rfl⟩⟩
  | error stop ledger =>
    rw [went] at ran
    cases stop with
    | refused error =>
      cases ran
      exact ⟨ledger, rfl, Or.inr ⟨error, rfl, rfl⟩⟩
    | overflow what => cases ran

theorem demand_ran {α : Type} {task : LedgerTask} {op : Ledger.Op α} {desk after : Desk} {answer : α}
    (ran : Work.demand task (Desk.onLedger op) desk = .ok answer after) :
    ∃ ledger, after = { desk with ledger := ledger } ∧ op desk.ledger = .ok answer ledger := by
  obtain ⟨reply, between, called, rest⟩ := ran_bind ran
  obtain ⟨ledger, rfl, ⟨_, rfl, went⟩ | ⟨_, rfl, _⟩⟩ := onLedger_ran called
  · cases rest
    exact ⟨ledger, rfl, went⟩
  · cases rest

theorem retries_demand {α : Type} {op : Ledger.Op α} {desk : Desk} {again : Ledger → Prop}
    {done : α → Ledger → Prop} (task : LedgerTask)
    (call : Ends op desk.ledger (fun answer after => after.failing = desk.ledger.failing ∧ done answer after)
      fun _ after => desk.ledger.failing ≠ [] ∧ again after) :
    Retries (Work.demand task (Desk.onLedger op)) desk (fun after => again after.ledger)
      fun answer after => done answer after.ledger := by
  apply (demand_ends task call).imp
  · intro _ _ ended
    obtain ⟨ledger, rfl, reached⟩ := ended
    exact reached
  · intro _ _ ended
    rcases ended with ⟨ledger, rfl, ⟨_, _, left⟩ | ⟨_, _, left⟩⟩ <;> exact left

theorem retries_certain {α : Type} {op : Ledger.Op α} {desk : Desk} {done : α → Ledger → Prop} (again : Desk → Prop)
    (task : LedgerTask)
    (call : Ends op desk.ledger (fun answer after => after.failing = desk.ledger.failing ∧ done answer after)
      fun _ _ => False) :
    Retries (Work.demand task (Desk.onLedger op)) desk again fun answer after => done answer after.ledger := by
  apply (demand_ends task call).imp
  · intro _ _ ended
    obtain ⟨ledger, rfl, reached⟩ := ended
    exact reached
  · intro _ _ ended
    rcases ended with ⟨_, rfl, ⟨_, _, ⟨⟩⟩ | ⟨_, _, ⟨⟩⟩⟩

theorem succeeds_ends {α : Type} {op : Ledger.Op α} {desk : Desk} {ledger : Ledger}
    (call : Ends op desk.ledger (fun _ after => after = ledger)
      fun stop after => (∃ error, stop = .refused error) ∧ after = ledger) :
    Ends (Engine.succeeds (Desk.onLedger op)) desk (fun _ after => after = { desk with ledger := ledger })
      fun _ _ => False := by
  apply (onLedger_ends call).andThen
  · intro _ _ ended
    rcases ended with ⟨_, rfl, ⟨_, rfl, rfl⟩ | ⟨_, rfl, _, rfl⟩⟩ <;> rfl
  · intro _ _ ended
    obtain ⟨_, rfl, _, _, ⟨_, isRefusal⟩, _⟩ := ended
    cases isRefusal

end Countersign
