import Countersign.Proofs.CommandEffect
import Countersign.Setup.Install

/-!
Runs: commands one after another, with operations of the ledger failing and healed in
between. A run starts from books that a setup has filled. Whatever happens on it is a turn
of a few kinds, or a sum that does not fit in the midst of a command.
-/

namespace Countersign

inductive Event where
  | command (now : Timestamp) (command : Command)
  | failOn (op : LedgerOp)
  | heal (op : LedgerOp)

namespace Desk

open Ledger (Path Course)
open Relation (ReflTransGen)

def left : EStateM.Result Stop Desk Answer → Desk
  | .ok _ desk => desk
  | .error _ desk => desk

def spills : EStateM.Result Stop Desk Answer → Bool
  | .error (.overflow _) _ => true
  | _ => false

def after (settings : Settings) (desk : Desk) : Event → Desk
  | .command now command => left ((Desk.engine settings now).perform command desk)
  | .failOn op => { desk with ledger := desk.ledger.failOn op }
  | .heal op => { desk with ledger := desk.ledger.heal op }

def overflows (settings : Settings) (desk : Desk) : Event → Bool
  | .command now command => spills ((Desk.engine settings now).perform command desk)
  | _ => false

def run (settings : Settings) (desk : Desk) (events : List Event) : Desk := events.foldl (after settings) desk

/-- A run in which every sum fits. -/
def calm (settings : Settings) (desk : Desk) : List Event → Bool
  | [] => true
  | event :: rest => !desk.overflows settings event && (desk.after settings event).calm settings rest

/-- The desks that runs lead to from books that a setup has filled. -/
def Reachable (settings : Settings) (desk : Desk) : Prop :=
  ∃ (setup : Setup) (start : Desk) (events : List Event), setup.settings = settings ∧
    setup.install .empty = .ok () start ∧ desk = start.run settings events

inductive Turn (before after : Desk) : Prop where
  | effect (loan : LoanId) (effect : Effect loan before after)
  | failed (loan : LoanId) (waiting : before.Waiting loan) (through : Through (Path loan) before after)
  | switched (failing : List LedgerOp)
      (same : after = { before with ledger := { before.ledger with failing := failing } })

def Spilled (before after : Desk) : Prop := ∃ loan, Through (Course loan) before after

variable (settings : Settings) (now : Timestamp)

theorem perform_ends {desk : Desk} (orderly : desk.Orderly) (command : Command) :
    Ends ((Desk.engine settings now).perform command) desk
      (fun _ after => ReflTransGen (fun a b => ∃ loan, Effect loan a b) desk after)
      fun stop after => ∃ loan, Setback loan desk stop after := by
  have single {α : Type} {work : Work Desk α} {wrap : α → Answer} {loan : LoanId}
      (ends : Ends work desk (fun _ after => Effect loan desk after) (Setback loan desk)) :
      Ends (do pure (wrap (← work))) desk (fun _ after => ReflTransGen (fun a b => ∃ loan, Effect loan a b) desk after)
        fun stop after => ∃ loan, Setback loan desk stop after :=
    ends.andThen (fun _ _ effect => .single ⟨_, effect⟩) fun _ _ setback => ⟨_, setback⟩
  cases command with
  | scan =>
    apply (Engine.scan_ends settings now orderly.chains).certainly
    intro _ after builds
    exact ReflTransGen.mono (fun _ _ ⟨loan, built⟩ => ⟨loan, .built built⟩) _ _ builds
  | build loan => exact single (Engine.build_effects settings now orderly loan)
  | approve loan step note date payment =>
    exact single (Engine.approve_ends settings now orderly loan step note date payment)
  | reject loan step note => exact single (Engine.reject_ends settings now orderly loan step note)
  | undo loan step note target => exact single (Engine.undo_ends settings now orderly loan step note target)
  | reassign loan step note approver =>
    exact single (Engine.reassign_ends settings now orderly loan step note approver)

/-! The order of the books on a run. -/

variable {settings now}

theorem Effect.orderly {loan : LoanId} {before after : Desk} (effect : Effect loan before after)
    (orderly : before.Orderly) : after.Orderly := by
  cases effect with
  | idle same => exact same ▸ orderly
  | built built => exact ⟨built.turned.regular, built.ledger ▸ orderly.ledger⟩
  | moved decided heeds => exact ⟨decided.turned.regular, decided.ledger.inOrder orderly.ledger⟩
  | finished decided active => exact ⟨decided.turned.regular, decided.ledger.path.inOrder orderly.ledger⟩
  | paid decided => exact ⟨decided.turned.regular, (Course.paid decided.ledger).inOrder orderly.ledger⟩
  | rejected decided found refused freed =>
    exact ⟨decided.turned.regular, decided.ledger.inOrder orderly.ledger⟩

theorem Turn.orderly {before after : Desk} (turn : Turn before after) (orderly : before.Orderly) : after.Orderly := by
  cases turn with
  | effect loan effect => exact effect.orderly orderly
  | failed loan waiting through =>
    exact ⟨through.chains ▸ orderly.chains, through.ledger.inOrder orderly.ledger⟩
  | switched failing same =>
    subst same
    exact ⟨orderly.chains, orderly.ledger.keyed, orderly.ledger.issued⟩

theorem Spilled.orderly {before after : Desk} (spilled : Spilled before after) (orderly : before.Orderly) :
    after.Orderly := by
  obtain ⟨loan, through⟩ := spilled
  exact ⟨through.chains ▸ orderly.chains, through.ledger.inOrder orderly.ledger⟩

theorem after_turns {desk : Desk} (orderly : desk.Orderly) (event : Event) :
    ReflTransGen Turn desk (desk.after settings event) ∨
      desk.overflows settings event = true ∧ Spilled desk (desk.after settings event) := by
  cases event with
  | command now command =>
    have ends := perform_ends settings now orderly command
    change ReflTransGen Turn desk (left ((Desk.engine settings now).perform command desk)) ∨
      spills ((Desk.engine settings now).perform command desk) = true ∧ _
    cases ran : (Desk.engine settings now).perform command desk with
    | ok answer after =>
      exact Or.inl (ReflTransGen.mono (fun _ _ ⟨loan, effect⟩ => .effect loan effect) _ _ (ends.of_ok ran))
    | error stop after =>
      obtain ⟨loan, declined | ⟨waiting, halted⟩⟩ := ends.of_error ran
      · rw [declined.same]
        exact Or.inl .refl
      · cases stop with
        | failed error => exact Or.inl (.single (.failed loan waiting (halted.unpaid error rfl)))
        | overflow what =>
          refine Or.inr ⟨rfl, loan, ?_⟩
          rw [Desk.after, ran]
          exact halted.course
  | failOn op => exact Or.inl (.single (.switched _ rfl))
  | heal op => exact Or.inl (.single (.switched _ rfl))

theorem turns_keep (Kept : Desk → Prop) (turns : ∀ a b, a.Orderly → Turn a b → Kept a → Kept b)
    {before after : Desk} (turning : ReflTransGen Turn before after) (orderly : before.Orderly) (kept : Kept before) :
    after.Orderly ∧ Kept after := by
  induction turning with
  | refl => exact ⟨orderly, kept⟩
  | tail _ turn ih => exact ⟨turn.orderly ih.1, turns _ _ ih.1 turn ih.2⟩

/-- What every turn keeps, and every command that a sum cuts short, a run keeps. -/
theorem run_keeps (Kept : Desk → Prop) (turns : ∀ a b, a.Orderly → Turn a b → Kept a → Kept b)
    (spills : ∀ a b, a.Orderly → Spilled a b → Kept a → Kept b) (events : List Event) {desk : Desk}
    (orderly : desk.Orderly) (kept : Kept desk) :
    (desk.run settings events).Orderly ∧ Kept (desk.run settings events) := by
  induction events generalizing desk with
  | nil => exact ⟨orderly, kept⟩
  | cons event rest ih =>
    rcases after_turns orderly event with turning | ⟨_, spilled⟩
    · have next := turns_keep Kept turns turning orderly kept
      exact ih next.1 next.2
    · exact ih (spilled.orderly orderly) (spills _ _ orderly spilled kept)

theorem calm_run_keeps (Kept : Desk → Prop) (turns : ∀ a b, a.Orderly → Turn a b → Kept a → Kept b)
    (events : List Event) {desk : Desk} (calm : desk.calm settings events = true) (orderly : desk.Orderly)
    (kept : Kept desk) : (desk.run settings events).Orderly ∧ Kept (desk.run settings events) := by
  induction events generalizing desk with
  | nil => exact ⟨orderly, kept⟩
  | cons event rest ih =>
    rw [Desk.calm, Bool.and_eq_true, Bool.not_eq_true'] at calm
    rcases after_turns orderly event with turning | ⟨overflows, _⟩
    · have next := turns_keep Kept turns turning orderly kept
      exact ih calm.2 next.1 next.2
    · exact absurd (calm.1.symm.trans overflows) Bool.false_ne_true

end Desk

end Countersign
