import Countersign.Desk

/-!
How work ends. Work on a state comes to an answer or is stopped, and leaves a state
either way; `Ends` states a condition for each of the two. A composite piece of work
is followed piece by piece: what the first piece is known to leave is what the next
one starts from.
-/

namespace Countersign

variable {ε σ α β : Type}

/-- Work from this state on meets the one condition where it is done and the other
where it is stopped. -/
def Ends (work : EStateM ε σ α) (state : σ) (done : α → σ → Prop) (stopped : ε → σ → Prop) : Prop :=
  match work state with
  | .ok answer after => done answer after
  | .error stop after => stopped stop after

theorem ends_bind (work : EStateM ε σ α) (next : α → EStateM ε σ β) (state : σ)
    (done : β → σ → Prop) (stopped : ε → σ → Prop) :
    Ends (work >>= next) state done stopped ↔
      Ends work state (fun answer after => Ends (next answer) after done stopped) stopped := by
  change (match EStateM.bind work next state with
    | .ok answer after => done answer after
    | .error stop after => stopped stop after) ↔ _
  unfold EStateM.bind
  unfold Ends
  cases work state with
  | ok answer after => exact Iff.rfl
  | error stop after => exact Iff.rfl

namespace Ends

variable {work : EStateM ε σ α} {state : σ} {done done' : α → σ → Prop} {stopped stopped' : ε → σ → Prop}

theorem of_ok {answer : α} {after : σ} (ends : Ends work state done stopped)
    (ran : work state = .ok answer after) : done answer after := by
  simpa only [Ends, ran] using ends

theorem of_error {stop : ε} {after : σ} (ends : Ends work state done stopped)
    (ran : work state = .error stop after) : stopped stop after := by
  simpa only [Ends, ran] using ends

theorem imp (ends : Ends work state done stopped) (finish : ∀ answer after, done answer after → done' answer after)
    (halt : ∀ stop after, stopped stop after → stopped' stop after) : Ends work state done' stopped' := by
  unfold Ends at ends ⊢
  split
  next answer after ran => exact finish answer after (by simpa only [ran] using ends)
  next stop after ran => exact halt stop after (by simpa only [ran] using ends)

theorem of_ran {answer : α} {after : σ} (ran : work state = .ok answer after) :
    Ends work state (fun reply later => reply = answer ∧ later = after) fun _ _ => False := by
  unfold Ends
  rw [ran]
  exact ⟨rfl, rfl⟩

theorem and (first : Ends work state done stopped) (second : Ends work state done' stopped') :
    Ends work state (fun answer after => done answer after ∧ done' answer after)
      fun stop after => stopped stop after ∧ stopped' stop after := by
  unfold Ends at first second ⊢
  split
  next answer after ran =>
    rw [ran] at first second
    exact ⟨first, second⟩
  next stop after ran =>
    rw [ran] at first second
    exact ⟨first, second⟩

theorem exists_ok (ends : Ends work state done fun _ _ => False) :
    ∃ answer after, work state = .ok answer after ∧ done answer after := by
  unfold Ends at ends
  split at ends
  next answer after ran => exact ⟨answer, after, ran, ends⟩
  next stop after ran => exact ends.elim

theorem exists_error (ends : Ends work state (fun _ _ => False) stopped) :
    ∃ stop after, work state = .error stop after ∧ stopped stop after := by
  unfold Ends at ends
  split at ends
  next answer after ran => exact ends.elim
  next stop after ran => exact ⟨stop, after, ran, ends⟩

/-- The first piece by what is known of it, the rest from wherever that may leave. -/
theorem andThen {next : α → EStateM ε σ β} {middle : α → σ → Prop} {early : ε → σ → Prop} {done : β → σ → Prop}
    (first : Ends work state middle early)
    (rest : ∀ answer after, middle answer after → Ends (next answer) after done stopped)
    (halt : ∀ stop after, early stop after → stopped stop after) : Ends (work >>= next) state done stopped :=
  (ends_bind _ _ _ _ _).mpr (first.imp rest halt)

theorem stopping {next : α → EStateM ε σ β} {done : β → σ → Prop} (first : Ends work state (fun _ _ => False) stopped) :
    Ends (work >>= next) state done stopped :=
  first.andThen (fun _ _ no => no.elim) fun _ _ halted => halted

theorem certainly {next : α → EStateM ε σ β} {middle : α → σ → Prop} {done : β → σ → Prop}
    (first : Ends work state middle fun _ _ => False)
    (rest : ∀ answer after, middle answer after → Ends (next answer) after done stopped) :
    Ends (work >>= next) state done stopped :=
  first.andThen rest fun _ _ no => no.elim

end Ends

end Countersign
