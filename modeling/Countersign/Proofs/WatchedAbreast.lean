import Countersign.Proofs.Abreast
import Countersign.Watch

/-!
Two runs under watch. Services that answer two runs alike do so under watch as well, if the same
services are out of order in both: a service that is asked lets both calls through or neither. What
is noted of the calls need not be the same.
-/

namespace Countersign

open Pairing (InStep)

def Pairing.behind {σ τ : Type} (pairing : Pairing σ τ) : Pairing (Watched σ) (Watched τ) where
  working a b := a.broken = b.broken ∧ pairing.working a.inner b.inner
  left a b := pairing.left a.inner b.inner
  number := pairing.number
  step := pairing.step
  account := pairing.account
  amount := pairing.amount
  charges := pairing.charges
  stop := pairing.stop
  rests a b working := pairing.rests a.inner b.inner working.2
  fails := pairing.fails

namespace Watched

variable {σ τ α β : Type} {pairing : Pairing σ τ} {answers : α → β → Prop} {one : Work σ α} {other : Work τ β}

theorem letThrough_abreast (service : Service) {a : Watched σ} {b : Watched τ} (broken : a.broken = b.broken) :
    Abreast (letThrough service) (letThrough service) a b
      (fun passes passes' a' b' => passes = passes' ∧ a'.broken = b'.broken ∧ a'.inner = a.inner ∧ b'.inner = b.inner)
      fun _ _ _ _ => False := by
  refine Abreast.of_ok rfl rfl ?_
  rw [← broken]
  cases a.broken.lookup service with
  | none => exact ⟨rfl, broken, rfl, rfl⟩
  | some left =>
    cases left with
    | zero => exact ⟨rfl, broken, rfl, rfl⟩
    | succ left =>
      refine ⟨rfl, ?_, rfl, rfl⟩
      change (service, left) :: a.broken.filter _ = (service, left) :: b.broken.filter _
      rw [broken]

theorem within_abreast {a : Watched σ} {b : Watched τ} {done : α → β → σ → τ → Prop} {stopped : Stop → Stop → σ → τ → Prop}
    (ran : Abreast one other a.inner b.inner done stopped) :
    Abreast (within one) (within other) a b
      (fun x y a' b' => done x y a'.inner b'.inner ∧ a'.broken = a.broken ∧ b'.broken = b.broken)
      fun s t a' b' => stopped s t a'.inner b'.inner := by
  unfold Abreast at ran ⊢
  unfold within
  cases first : one a.inner <;> cases second : other b.inner <;> rw [first, second] at ran
  · exact ⟨ran, rfl, rfl⟩
  · exact ran.elim
  · exact ran.elim
  · exact ran

theorem within_inStep (alike : pairing.InStep answers one other) :
    pairing.behind.InStep answers (within one) (within other) := by
  rintro a b ⟨broken, working⟩
  refine (within_abreast (alike a.inner b.inner working)).imp ?_ fun _ _ _ _ halts => halts
  rintro x y a' b' ⟨⟨answered, working'⟩, same, same'⟩
  exact ⟨answered, (same.trans broken).trans same'.symm, working'⟩

theorem guarded_inStep (service : Service) (alike : pairing.InStep answers one other) :
    pairing.behind.InStep answers (guarded service one) (guarded service other) := by
  rintro a b ⟨broken, working⟩
  refine (letThrough_abreast service broken).andThen ?_ fun _ _ _ _ no => no.elim
  rintro passes _ a' b' ⟨rfl, broken', inner, inner'⟩
  have working' : pairing.behind.working a' b' := ⟨broken', inner ▸ inner' ▸ working⟩
  cases passes with
  | true => exact within_inStep alike a' b' working'
  | false => exact InStep.fail (.down service) a' b' working'

theorem guarded_concludes (service : Service) (alike : pairing.Concludes one other) :
    pairing.behind.Concludes (guarded service one) (guarded service other) := by
  rintro a b ⟨broken, working⟩
  refine (letThrough_abreast service broken).andThen ?_ fun _ _ _ _ no => no.elim
  rintro passes _ a' b' ⟨rfl, broken', inner, inner'⟩
  have working' : pairing.working a'.inner b'.inner := inner ▸ inner' ▸ working
  cases passes with
  | false => exact Pairing.Concludes.fail (.down service) a' b' ⟨broken', working'⟩
  | true => exact (within_abreast (alike _ _ working')).imp (fun _ _ _ _ ended => ended.1) fun _ _ _ _ halts => halts

variable {call : Work σ (Except LedgerError α)} {call' : Work τ (Except LedgerError β)}

theorem guardedLedger_inStep (service : Service) (alike : pairing.InStep (Replies answers) call call') :
    pairing.behind.InStep (Replies answers) (guardedLedger service call) (guardedLedger service call') := by
  rintro a b ⟨broken, working⟩
  refine (letThrough_abreast service broken).andThen ?_ fun _ _ _ _ no => no.elim
  rintro passes _ a' b' ⟨rfl, broken', inner, inner'⟩
  have working' : pairing.behind.working a' b' := ⟨broken', inner ▸ inner' ▸ working⟩
  cases passes with
  | true => exact within_inStep alike a' b' working'
  | false => exact ⟨.unavailable (.down service), working'⟩

theorem traced_inStep {noted noted' : GatewayCall} {id? : α → Option Nat} {id?' : β → Option Nat}
    (alike : pairing.InStep (Replies answers) call call') :
    pairing.behind.InStep (Replies answers) (traced noted id? call) (traced noted' id?' call') := by
  refine (within_inStep alike).andThen ?_
  exact fun _ _ replies _ _ working => ⟨replies, working⟩

variable {settings : Settings} {loan : LoanId} {first : Services σ} {second : Services τ}

theorem services_paired (paired : Services.Paired pairing settings loan first second) :
    Services.Paired pairing.behind settings loan (services first) (services second) where
  commit batch batch' matching := guarded_concludes _ (paired.commit batch batch' matching)
  findStep id := guarded_inStep _ (paired.findStep id)
  stepsOf := guarded_inStep _ paired.stepsOf
  findApprover approver := guarded_inStep _ (paired.findApprover approver)
  submit amount date note := traced_inStep (paired.submit amount date note)
  disburse date amount payment note := traced_inStep (paired.disburse date amount payment note)
  hold amount account note moves movable := traced_inStep (paired.hold amount account note moves movable)
  release account transaction transaction' movable stands :=
    traced_inStep (paired.release account transaction transaction' movable stands)
  withdraw amount account note payment moves movable :=
    traced_inStep (paired.withdraw amount account note payment moves movable)
  reject date note := traced_inStep (paired.reject date note)
  undoApproval note := traced_inStep (paired.undoApproval note)
  appendNote text := traced_inStep (paired.appendNote text)
  findAccount := traced_inStep paired.findAccount
  findLoan := guardedLedger_inStep _ paired.findLoan
  chargesOf := guardedLedger_inStep _ paired.chargesOf
  markPaid ids := guardedLedger_inStep _ (paired.markPaid ids)
  setLien lien lien' stands := guardedLedger_inStep _ (paired.setLien lien lien' stands)
  forceStatus := guardedLedger_inStep _ paired.forceStatus
  sums := paired.sums

end Watched

end Countersign
