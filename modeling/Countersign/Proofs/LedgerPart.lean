import Countersign.Engine.Perform
import Countersign.Proofs.LedgerMove

/-!
The ledger's part in a command. Work that is left to the ledger changes nothing else on
the desk, and what it changes there is a path of moves for one loan. It is stopped only
by the ledger itself or by a sum that does not fit; the loan is paid out only where the
work is done, or where such a sum comes up after the disbursal.
-/

namespace Countersign

open Relation (ReflTransGen)
open Ledger (Path QuietPath Course)

abbrev Desk.engine (settings : Settings) (now : Timestamp) : Engine Desk := ⟨Desk.services, settings, now⟩

structure Desk.Through (change : Ledger → Ledger → Prop) (before after : Desk) : Prop where
  ledger : change before.ledger after.ledger
  chains : after.chains = before.chains
  directory : after.directory = before.directory

inductive Stop.OfLedger : Stop → Prop where
  | refused (task : LedgerTask) : OfLedger (.failed (.ledgerFailed task))
  | overflow (what : Decimal.Overflow) : OfLedger (.overflow what)

/-- How work can be stopped that puts up with every refusal. -/
inductive Stop.OfSum : Stop → Prop where
  | overflow (what : Decimal.Overflow) : OfSum (.overflow what)

theorem onLedger_ends {α : Type} {op : Ledger.Op α} {desk : Desk} {done : α → Ledger → Prop}
    {stopped : Ledger.Stop → Ledger → Prop} (call : Ends op desk.ledger done stopped) :
    Ends (Desk.onLedger op) desk
      (fun reply after => ∃ ledger, after = { desk with ledger := ledger } ∧
        ((∃ answer, reply = .ok answer ∧ done answer ledger) ∨
          ∃ error, reply = .error error ∧ stopped (.refused error) ledger))
      (fun stop after => ∃ ledger, after = { desk with ledger := ledger } ∧
        ∃ what, stop = .overflow what ∧ stopped (.overflow what) ledger) := by
  unfold Ends Desk.onLedger
  unfold Ends at call
  cases ran : op desk.ledger with
  | ok answer ledger =>
    rw [ran] at call
    exact ⟨ledger, rfl, Or.inl ⟨answer, rfl, call⟩⟩
  | error stop ledger =>
    rw [ran] at call
    cases stop with
    | refused error => exact ⟨ledger, rfl, Or.inr ⟨error, rfl, call⟩⟩
    | overflow what => exact ⟨ledger, rfl, what, rfl, call⟩

theorem demand_ends {α : Type} {op : Ledger.Op α} {desk : Desk} {done : α → Ledger → Prop}
    {stopped : Ledger.Stop → Ledger → Prop} (task : LedgerTask) (call : Ends op desk.ledger done stopped) :
    Ends (Work.demand task (Desk.onLedger op)) desk
      (fun answer after => ∃ ledger, after = { desk with ledger := ledger } ∧ done answer ledger)
      (fun stop after => ∃ ledger, after = { desk with ledger := ledger } ∧
        ((∃ error, stop = .failed (.ledgerFailed task) ∧ stopped (.refused error) ledger) ∨
          ∃ what, stop = .overflow what ∧ stopped (.overflow what) ledger)) := by
  apply (onLedger_ends call).andThen
  · intro _ _ ended
    rcases ended with ⟨ledger, rfl, ⟨answer, rfl, ended⟩ | ⟨error, rfl, ended⟩⟩
    · exact ⟨ledger, rfl, ended⟩
    · exact ⟨ledger, rfl, Or.inl ⟨error, rfl, ended⟩⟩
  · intro _ _ ended
    obtain ⟨ledger, rfl, what, rfl, ended⟩ := ended
    exact ⟨ledger, rfl, Or.inr ⟨what, rfl, ended⟩⟩

theorem demand_unless {α : Type} {op : Ledger.Op α} {desk : Desk} {done : α → Ledger → Prop} {reason : Prop}
    (task : LedgerTask) (call : Ends op desk.ledger done fun _ _ => reason) :
    Ends (Work.demand task (Desk.onLedger op)) desk
      (fun answer after => ∃ ledger, after = { desk with ledger := ledger } ∧ done answer ledger)
      fun _ _ => reason := by
  apply (demand_ends task call).imp fun _ _ ended => ended
  intro _ _ ended
  obtain ⟨_, _, ⟨_, _, why⟩ | ⟨_, _, why⟩⟩ := ended <;> exact why

namespace Desk.Through

variable {change : Ledger → Ledger → Prop} {a b c : Desk}

theorem intro {ledger : Ledger} (changed : change a.ledger ledger) : Through change a { a with ledger := ledger } :=
  ⟨changed, rfl, rfl⟩

theorem imp {change' : Ledger → Ledger → Prop} (through : Through change a b)
    (weaker : change a.ledger b.ledger → change' a.ledger b.ledger) : Through change' a b :=
  ⟨weaker through.ledger, through.chains, through.directory⟩

theorem refl (move : Ledger → Ledger → Prop) (desk : Desk) : Through (ReflTransGen move) desk desk :=
  ⟨.refl, rfl, rfl⟩

theorem trans {move : Ledger → Ledger → Prop} (first : Through (ReflTransGen move) a b)
    (rest : Through (ReflTransGen move) b c) : Through (ReflTransGen move) a c :=
  ⟨first.ledger.trans rest.ledger, rest.chains.trans first.chains, rest.directory.trans first.directory⟩

theorem path {loan : LoanId} (quiet : Through (QuietPath loan) a b) : Through (Path loan) a b :=
  quiet.imp Ledger.QuietPath.path

theorem linked {loan : LoanId} {id : AccountId} (through : Through (Path loan) a b)
    (link : a.ledger.links.get? loan = some id) : b.ledger.links.get? loan = some id := by
  rw [through.ledger.links, link]

end Desk.Through

open Desk (Through)

namespace Work

structure Halted (loan : LoanId) (before : Desk) (stop : Stop) (after : Desk) : Prop where
  ofLedger : stop.OfLedger
  course : Through (Course loan) before after
  unpaid : ∀ error, stop = .failed error → Through (Path loan) before after

theorem Halted.of_path {loan : LoanId} {before after : Desk} {stop : Stop} (ofLedger : stop.OfLedger)
    (through : Through (Path loan) before after) : Halted loan before stop after :=
  ⟨ofLedger, through.imp .unpaid, fun _ _ => through⟩

theorem Halted.after_path {loan : LoanId} {before middle after : Desk} {stop : Stop}
    (first : Through (Path loan) before middle) (halted : Halted loan middle stop after) :
    Halted loan before stop after where
  ofLedger := halted.ofLedger
  course := ⟨Course.after_path first.ledger halted.course.ledger, halted.course.chains.trans first.chains,
    halted.course.directory.trans first.directory⟩
  unpaid error failed := first.trans (halted.unpaid error failed)

/-- Work that does no more than to make moves of a kind, and is stopped in certain ways
only. -/
def Within {α : Type} (halts : Stop → Prop) (move : Ledger → Ledger → Prop) (work : Work Desk α) (desk : Desk) : Prop :=
  Ends work desk (fun _ after => Through (ReflTransGen move) desk after)
    (fun stop after => halts stop ∧ Through (ReflTransGen move) desk after)

variable {α β : Type} {halts : Stop → Prop} {move : Ledger → Ledger → Prop} {desk : Desk}

theorem within_pure (answer : α) : Within halts move (pure answer) desk := Through.refl move desk

theorem Within.bind {work : Work Desk α} {next : α → Work Desk β} (first : Within halts move work desk)
    (rest : ∀ answer after, Through (ReflTransGen move) desk after → Within halts move (next answer) after) :
    Within halts move (work >>= next) desk := by
  refine Ends.andThen first ?_ fun _ _ halted => halted
  intro answer after through
  apply (rest answer after through).imp
  · exact fun _ _ later => through.trans later
  · exact fun _ _ ⟨halt, later⟩ => ⟨halt, through.trans later⟩

theorem within_onLedger {op : Ledger.Op α}
    (call : Ends op desk.ledger (fun _ after => ReflTransGen move desk.ledger after)
      fun _ after => ReflTransGen move desk.ledger after) : Within Stop.OfSum move (Desk.onLedger op) desk := by
  apply (onLedger_ends call).imp
  · intro _ _ ended
    rcases ended with ⟨ledger, rfl, ⟨_, _, path⟩ | ⟨_, _, path⟩⟩ <;> exact .intro path
  · intro _ _ ended
    obtain ⟨ledger, rfl, what, rfl, path⟩ := ended
    exact ⟨.overflow what, .intro path⟩

theorem within_demand {op : Ledger.Op α} (task : LedgerTask)
    (call : Ends op desk.ledger (fun _ after => ReflTransGen move desk.ledger after)
      fun _ after => ReflTransGen move desk.ledger after) :
    Within Stop.OfLedger move (demand task (Desk.onLedger op)) desk := by
  apply (demand_ends task call).imp
  · intro _ _ ended
    obtain ⟨ledger, rfl, path⟩ := ended
    exact .intro path
  · intro _ _ ended
    rcases ended with ⟨ledger, rfl, ⟨_, rfl, path⟩ | ⟨what, rfl, path⟩⟩
    · exact ⟨.refused task, .intro path⟩
    · exact ⟨.overflow what, .intro path⟩

theorem Within.succeeds {call : Work Desk (Except LedgerError α)} (within : Within halts move call desk) :
    Within halts move (Engine.succeeds call) desk := by
  apply within.bind
  rintro (_ | _) after _ <;> exact within_pure _

end Work

end Countersign
