import Countersign.Proofs.Atomicity
import Countersign.Proofs.AuditTrail
import Countersign.Proofs.CommandAgain
import Countersign.Proofs.Disbursement

/-!
Approving the step that a chain was sent back to. Below the step that waited all was approved, so the
search for the next step in the queue comes back to just that one, whatever is approved or queued
above it. The chain is then as it was before it was sent back, but for the times of two steps.
-/

namespace Countersign

def Step.moved (step : Step) (status : StepStatus) (now : Timestamp) : Step :=
  { step with status := status, modified := now }

def Step.exchanged (a b : StepId) (moveA moveB : StepStatus) (now : Timestamp) (step : Step) : Step :=
  if step.id = b then step.moved moveB now else if step.id = a then step.moved moveA now else step

namespace Step

variable (a b : StepId) (moveA moveB : StepStatus) (now : Timestamp) (step : Step)

@[simp] theorem exchanged_id : (step.exchanged a b moveA moveB now).id = step.id := by
  unfold exchanged
  split_ifs <;> rfl

@[simp] theorem exchanged_loan : (step.exchanged a b moveA moveB now).loan = step.loan := by
  unfold exchanged
  split_ifs <;> rfl

@[simp] theorem exchanged_rank : (step.exchanged a b moveA moveB now).rank = step.rank := by
  unfold exchanged
  split_ifs <;> rfl

theorem exchanged_back {a b : StepId} (apart : a ≠ b) (now later : Timestamp) {step : Step}
    (approved : step.id = a → step.status = .approved) (waits : step.id = b → step.status = .pending) :
    (step.exchanged a b .pending .queue now).exchanged b a .pending .approved later =
      if step.id = b ∨ step.id = a then { step with modified := later } else step := by
  rw [exchanged, exchanged_id]
  by_cases isA : step.id = a
  · have notB : ¬step.id = b := fun isB => apart (isA.symm.trans isB)
    rw [if_pos isA, if_pos (Or.inr isA), exchanged, if_neg notB, if_pos isA, moved, ← approved isA]
    rfl
  · rw [if_neg isA]
    by_cases isB : step.id = b
    · rw [if_pos isB, if_pos (Or.inl isB), exchanged, if_pos isB, moved, ← waits isB]
      rfl
    · have neither : ¬(step.id = b ∨ step.id = a) := fun either => either.elim isB isA
      rw [if_neg isB, if_neg neither, exchanged, if_neg isB, if_neg isA]

end Step

namespace Chain

theorem approvedBelow_nearest {steps : List Step} (ascending : steps.Pairwise fun a b => a.rank < b.rank) {rank : Nat}
    {target : Step} (found : approvedBelow steps rank = some target) {step : Step} (mem : step ∈ steps)
    (lower : step.rank < rank) (approved : step.status = .approved) : step.rank ≤ target.rank := by
  obtain ⟨_, higher, rest, split, passed⟩ := List.find?_eq_some_iff_append.mp found
  have descending := List.pairwise_reverse.mpr ascending
  rw [split] at descending
  have below := (List.pairwise_cons.mp (List.pairwise_append.mp descending).2.1).1
  have listed : step ∈ higher ++ target :: rest := split ▸ List.mem_reverse.mpr mem
  rcases List.mem_append.mp listed with above | here
  · have skipped := passed step above
    simp [lower, approved] at skipped
  · rcases List.mem_cons.mp here with rfl | later
    · exact Nat.le_refl _
    · exact Nat.le_of_lt (below step later)

theorem Front.approvedBelow_rank {steps : List Step} {first : StepId} {rank : Nat} {target : Step}
    (front : Front .pending rank steps) (numbered : Numbered first steps)
    (found : approvedBelow steps rank = some target) : target.rank + 1 = rank := by
  obtain ⟨_, lower, _⟩ := approvedBelow_some found
  obtain ⟨waiting, waitingMem, there⟩ := front.present
  have inside := numbered.rank_lt waitingMem
  have belowInside : rank - 1 < steps.length := by omega
  obtain ⟨below, mem, isBelow⟩ := numbered.exists_rank belowInside
  have belowLower : below.rank < rank := by omega
  have nearest := approvedBelow_nearest numbered.ascending found mem belowLower (front.below below mem belowLower)
  omega

theorem queuedAbove_eq {steps : List Step} {first : StepId} (numbered : Numbered first steps) {rank : Nat} {next : Step}
    (mem : next ∈ steps) (above : rank < next.rank) (queued : next.status = .queue)
    (between : ∀ step ∈ steps, rank < step.rank → step.rank < next.rank → step.status ≠ .queue) :
    queuedAbove steps rank = some next := by
  cases found : queuedAbove steps rank with
  | none => exact absurd queued (queuedAbove_none found next mem above)
  | some other =>
    obtain ⟨otherMem, otherAbove, otherQueued, skipped⟩ := queuedAbove_some numbered.ascending found
    have notLower : ¬other.rank < next.rank := fun lower => between other otherMem otherAbove lower otherQueued
    have notHigher : ¬next.rank < other.rank := fun higher => skipped next mem above higher queued
    have same : other.rank = next.rank := by omega
    rw [numbered.eq_of_rank otherMem mem same]

end Chain

namespace ChainStore

structure Exchanged (a b : StepId) (moveA moveB : StepStatus) (now : Timestamp) (before after : ChainStore) : Prop where
  steps : after.allSteps = before.allSteps.map (Step.exchanged a b moveA moveB now)
  history : after.history = before.history ++ [⟨a, moveA, now⟩, ⟨b, moveB, now⟩]

variable {store after : ChainStore} {loan : LoanId} {a b : Step} {moveA moveB : StepStatus} {now : Timestamp}

theorem revise_pair {x y : Step} (apart : x.id ≠ y.id) (step : Step) :
    revise [x, y] step = if step.id = y.id then y else if step.id = x.id then x else step := by
  change replace (replace step x) y = _
  unfold replace
  by_cases isX : step.id = x.id
  · have notY : ¬step.id = y.id := isX ▸ apart
    rw [if_pos isX, if_neg apart, if_neg notY]
  · rw [if_neg isX]

theorem commit_exchanges (sound : store.Sound) (memA : a ∈ store.allSteps) (memB : b ∈ store.allSteps)
    (leadsA : a.status.leadsTo moveA = true) (leadsB : b.status.leadsTo moveB = true) (different : a.status ≠ b.status)
    (taken : store.commit ((Batch.empty.transition a moveA now).transition b moveB now) = .ok after) :
    Exchanged a.id b.id moveA moveB now store after := by
  have tells := sound.moved_tells memA memB leadsA leadsB different now
  have apart : a.id ≠ b.id := fun same => different (congrArg _ (sound.eq_of_id memA memB same))
  obtain ⟨_, _, history, steps, _⟩ := commit_revised sound tells taken
  refine ⟨steps.trans (List.map_congr_left fun step mem => ?_), history⟩
  have apart' : (a.moved moveA now).id ≠ (b.moved moveB now).id := apart
  rw [updates_two apart]
  apply (revise_pair apart' step).trans
  change (if step.id = b.id then _ else if step.id = a.id then _ else step) = _
  unfold Step.exchanged
  split_ifs with isB isA
  · rw [sound.eq_of_id mem memB isB]
  · rw [sound.eq_of_id mem memA isA]
  · rfl

variable {idA idB : StepId} (exchanged : Exchanged idA idB moveA moveB now store after)
include exchanged

theorem Exchanged.chainOf (loan : LoanId) :
    after.chainOf loan = (store.chainOf loan).map (Step.exchanged idA idB moveA moveB now) := by
  unfold ChainStore.chainOf
  rw [exchanged.steps, List.filter_map]
  refine congrArg _ (List.filter_congr fun step _ => ?_)
  exact congrArg (· == loan) (Step.exchanged_loan ..)

theorem Exchanged.historyOf (id : StepId) :
    after.historyOf id = store.historyOf id ++
      ([⟨idA, moveA, now⟩, ⟨idB, moveB, now⟩] : List HistoryRow).filter (·.step == id) :=
  historyOf_append exchanged.history id

end ChainStore

open Ledger (Path QuietPath Payout)

/-- What it takes to send a chain back from a pending step to one below, and what comes of it. -/
structure Desk.SentBack (loan : LoanId) (pending target : Step) (named : Option StepId) (now : Timestamp)
    (before after : Desk) : Prop where
  here : pending ∈ before.chains.chainOf loan
  waits : pending.status = .pending
  back : target ∈ before.chains.chainOf loan
  approved : target.status = .approved
  lower : target.rank < pending.rank
  choice : named = some target.id ∨ named = none ∧ target.rank + 1 = pending.rank
  taken : before.chains.commit (Engine.reopening target pending now) = .ok after.chains
  ledger : Path loan before.ledger after.ledger

namespace Engine

open Desk (Orderly SentBack Through)

variable (settings : Settings) (now : Timestamp)

theorem carryOut_commits {loan : LoanId} {step : StepId} {part : Work Desk (Batch × List Change)} {desk : Desk}
    {done : Batch × List Change → Desk → Prop} {stopped : Stop → Desk → Prop} (ends : Ends part desk done stopped) :
    Ends ((Desk.engine settings now).carryOut loan step part) desk
      (fun outcome after => ∃ batch ready, done (batch, outcome.changes) ready ∧
        ready.chains.commit batch = .ok after.chains ∧ after.ledger = ready.ledger)
      fun _ _ => True := by
  refine ends.andThen ?_ fun _ _ _ => trivial
  intro answered ready ended
  obtain ⟨batch, changes⟩ := answered
  apply (ends_bind _ _ _ _ _).mpr
  change Ends (Desk.commit batch) ready _ _
  unfold Ends Desk.commit
  cases taken : ready.chains.commit batch with
  | ok chains => exact ⟨batch, ready, ended, taken, rfl⟩
  | error error => trivial

theorem undoTarget_chooses (loan : LoanId) (step : Step) (named : Option StepId) (desk : Desk) :
    Ends ((Desk.engine settings now).undoTarget loan step named) desk
      (fun found _ => named = some found.id ∨
        named = none ∧ approvedBelow (desk.chains.stepsOf loan) step.rank = some found)
      fun _ _ => True := by
  apply read_andThen
  cases named with
  | none =>
    cases nearest : approvedBelow (desk.chains.stepsOf loan) step.rank with
    | none => trivial
    | some found => exact Or.inr ⟨rfl, rfl⟩
  | some id =>
    cases listed : (desk.chains.stepsOf loan).find? (·.id == id) with
    | none =>
      simp only [listed]
      apply read_andThen
      cases desk.chains.find? id <;> trivial
    | some found =>
      have same : found.id = id := by simpa using List.find?_some listed
      simp only [listed]
      by_cases unapproved : found.status ≠ .approved
      · rw [if_pos unapproved]
        trivial
      · rw [if_neg unapproved]
        by_cases higher : step.rank ≤ found.rank
        · rw [if_pos higher]
          trivial
        · rw [if_neg higher]
          exact Or.inl (congrArg some same.symm)

theorem undoSubmission_tells (loan : Loan) (note : String) (desk : Desk) :
    Ends ((Desk.engine settings now).undoSubmission loan note) desk
      (fun changes _ => changes = [] ∨ changes = [.approvalUndone]) fun _ _ => True := by
  unfold undoSubmission
  split
  · refine Ends.andThen (demand_ends _ (Ledger.pass_ends .undoApproval loan.id [.approved] .submittedAndPendingApproval
      (.undoApproval loan.id) desk.ledger)) ?_ fun _ _ _ => trivial
    exact fun _ _ _ => Or.inr rfl
  · exact Or.inl rfl

theorem undoPart_tells (loan : Loan) (step target : Step) (note : String) (desk : Desk) :
    Ends ((Desk.engine settings now).undoPart step target loan note) desk
      (fun answer _ => ∀ id, .undoneTo id ∈ answer.2 ↔ id = target.id) fun _ _ => True := by
  unfold undoPart
  refine (leaveNote_ends settings now loan.id note desk).andThen ?_ fun _ _ _ => trivial
  intro _ noted _
  refine (undoSubmission_tells settings now loan note noted).andThen ?_ fun _ _ ended => ended
  intro changes _ ended id
  rcases ended with rfl | rfl
  · simp
  · simp

theorem undo_sends_back {desk : Desk} (orderly : desk.Orderly) (loan : LoanId) (step : StepId) (note : String)
    (named : Option StepId) :
    Ends ((Desk.engine settings now).undo loan step note named) desk
      (fun outcome after => ∃ pending target, pending.id = step ∧ (∀ id, .undoneTo id ∈ outcome.changes ↔ id = target.id) ∧
        SentBack loan pending target named now desk after)
      fun _ _ => True := by
  refine (openStep_ends settings now loan step desk).andThen ?_ fun _ _ _ => trivial
  intro pending desk ended
  obtain ⟨rfl, found, owned, waits⟩ := ended
  obtain ⟨stored, isStep⟩ := (orderly.chains.sound.find?_eq_some_iff ..).mp found
  have here := ChainStore.mem_chainOf.mpr ⟨stored, owned⟩
  obtain ⟨⟨first, numbered⟩, _, front⟩ := (orderly.chains.formed loan).at_pending here waits
  split
  · trivial
  · have chosen := (undoTarget_ends settings now loan pending named desk).and
      (undoTarget_chooses settings now loan pending named desk)
    refine chosen.andThen ?_ fun _ _ _ => trivial
    intro target desk ended
    obtain ⟨⟨rfl, listed, approved, lower⟩, choice⟩ := ended
    rw [orderly.chains.stepsOf_eq] at listed choice
    refine requireLoan_andThen settings now orderly (fun _ _ _ => trivial) ?_
    intro record same known
    subst same
    have part := (undoPart_ends settings now pending target note known).and
      (undoPart_tells settings now record pending target note desk)
    refine (carryOut_commits settings now part).imp ?_ fun _ _ ended => ended
    intro outcome after ended
    obtain ⟨_, ready, ⟨⟨rfl, through, _⟩, tells⟩, taken, sameLedger⟩ := ended
    refine ⟨pending, target, isStep, tells, here, waits, listed, approved, lower, ?_, ?_, ?_⟩
    · exact choice.imp id fun ⟨unnamed, nearest⟩ => ⟨unnamed, front.approvedBelow_rank numbered nearest⟩
    · exact through.chains ▸ taken
    · exact sameLedger ▸ through.ledger

/-- An approval that is done has committed its batch. With a step in the queue above, the loan goes on;
without one it was active already, or it is paid out. -/
theorem approve_commits {desk : Desk} (orderly : desk.Orderly) {loan : LoanId} {step : Step}
    (mem : step ∈ desk.chains.chainOf loan) (note : String) (date : Option Date) (payment : Option PaymentTypeId) :
    Ends ((Desk.engine settings now).approve loan step.id note date payment) desk
      (fun _ after => desk.chains.commit (approval (queuedAbove (desk.chains.chainOf loan) step.rank) step now) =
          .ok after.chains ∧
        ∃ record, desk.ledger.loans.get? loan = some record ∧
          ((∃ next, queuedAbove (desk.chains.chainOf loan) step.rank = some next) ∧
              Path loan desk.ledger after.ledger ∧
              (∃ status, Submits step record status ∧ after.ledger.statusOf loan = some status) ∨
            queuedAbove (desk.chains.chainOf loan) step.rank = none ∧
              (record.status = .active ∧ QuietPath loan desk.ledger after.ledger ∨
                record.status ≠ .active ∧ Payout loan desk.ledger after.ledger)))
      fun _ _ => True := by
  refine (openStep_ends settings now loan step.id desk).andThen ?_ fun _ _ _ => trivial
  intro other desk ended
  obtain ⟨rfl, found, _, _⟩ := ended
  obtain ⟨stored, same⟩ := (orderly.chains.sound.find?_eq_some_iff ..).mp found
  obtain rfl := orderly.chains.sound.eq_of_id stored (ChainStore.mem_chainOf.mp mem).1 same
  refine requireLoan_andThen settings now orderly (fun _ _ _ => trivial) ?_
  intro record same known
  subst same
  apply read_andThen
  rw [orderly.chains.stepsOf_eq]
  refine (carryOut_commits settings now (approvePart_ends settings now other _ note _ payment known)).imp ?_
    fun _ _ ended => ended
  intro outcome after ended
  obtain ⟨_, ready, ⟨rfl, opened | ⟨last, rest⟩⟩, taken, sameLedger⟩ := ended
  · obtain ⟨following, through, submits⟩ := opened
    rw [sameLedger]
    exact ⟨through.chains ▸ taken, record, known, Or.inl ⟨following, through.ledger, submits⟩⟩
  · rw [sameLedger]
    rcases rest with ⟨active, through⟩ | ⟨inactive, through⟩
    · exact ⟨through.chains ▸ taken, record, known, Or.inr ⟨last, Or.inl ⟨active, through.ledger⟩⟩⟩
    · exact ⟨through.chains ▸ taken, record, known, Or.inr ⟨last, Or.inr ⟨inactive, through.ledger⟩⟩⟩

theorem approve_opens {desk : Desk} (orderly : desk.Orderly) {loan : LoanId} {step next : Step}
    (mem : step ∈ desk.chains.chainOf loan) (following : queuedAbove (desk.chains.chainOf loan) step.rank = some next)
    (note : String) (date : Option Date) (payment : Option PaymentTypeId) :
    Ends ((Desk.engine settings now).approve loan step.id note date payment) desk
      (fun _ after => desk.chains.commit (approval (some next) step now) = .ok after.chains ∧
        Path loan desk.ledger after.ledger)
      fun _ _ => True := by
  refine (approve_commits settings now orderly mem note date payment).imp ?_ fun _ _ ended => ended
  intro _ after ended
  obtain ⟨taken, _, _, ⟨_, path, _⟩ | ⟨last, _⟩⟩ := ended
  · exact ⟨following ▸ taken, path⟩
  · cases following.symm.trans last

end Engine

namespace Desk

open Engine (undo_sends_back approve_opens)

variable {settings : Settings} {desk between after : Desk} {loan : LoanId} {pending target : Step}
  {named : Option StepId} {now : Timestamp}

namespace SentBack

variable (sentBack : SentBack loan pending target named now desk between)
include sentBack

section

variable (regular : desk.chains.Regular)
include regular

theorem apart : target.id ≠ pending.id := by
  intro same
  have one := regular.sound.eq_of_id (ChainStore.mem_chainOf.mp sentBack.back).1
    (ChainStore.mem_chainOf.mp sentBack.here).1 same
  exact Nat.ne_of_lt sentBack.lower (congrArg Step.rank one)

theorem exchanged :
    ChainStore.Exchanged target.id pending.id .pending .queue now desk.chains between.chains := by
  apply ChainStore.commit_exchanges regular.sound (ChainStore.mem_chainOf.mp sentBack.back).1
    (ChainStore.mem_chainOf.mp sentBack.here).1
  · rw [sentBack.approved]
    rfl
  · rw [sentBack.waits]
    rfl
  · rw [sentBack.approved, sentBack.waits]
    decide
  · exact sentBack.taken

theorem regular_between : between.chains.Regular := by
  obtain ⟨chains, taken, turned⟩ :=
    regular.reopening_turns sentBack.here sentBack.waits now sentBack.back sentBack.lower
  cases sentBack.taken.symm.trans taken
  exact turned.regular

theorem target_waits : target.moved .pending now ∈ between.chains.chainOf loan := by
  rw [(sentBack.exchanged regular).chainOf]
  refine List.mem_map.mpr ⟨target, sentBack.back, ?_⟩
  rw [Step.exchanged, if_neg (sentBack.apart regular), if_pos rfl]

theorem pending_queued : pending.moved .queue now ∈ between.chains.chainOf loan := by
  rw [(sentBack.exchanged regular).chainOf]
  exact List.mem_map.mpr ⟨pending, sentBack.here, if_pos rfl⟩

theorem following : queuedAbove (between.chains.chainOf loan) target.rank = some (pending.moved .queue now) := by
  obtain ⟨⟨first, numbered⟩, _, front⟩ := (regular.formed loan).at_pending sentBack.here sentBack.waits
  have numbered' := numbered.map (fun step _ => step.exchanged_rank target.id pending.id .pending .queue now)
    fun step _ => step.exchanged_id target.id pending.id .pending .queue now
  have queued := sentBack.pending_queued regular
  rw [(sentBack.exchanged regular).chainOf] at queued ⊢
  apply Chain.queuedAbove_eq numbered' queued sentBack.lower rfl
  intro step listed above below
  obtain ⟨known, mem, rfl⟩ := List.mem_map.mp listed
  rw [Step.exchanged_rank] at above below
  have approved := front.below known mem below
  have notPending : ¬known.id = pending.id := fun same =>
    Nat.ne_of_lt below ((numbered.id_eq_iff mem sentBack.here).mp same)
  have notTarget : ¬known.id = target.id := fun same =>
    Nat.ne_of_gt above ((numbered.id_eq_iff mem sentBack.back).mp same)
  rw [Step.exchanged, if_neg notPending, if_neg notTarget, approved]
  decide

end

section

variable {chains : ChainStore} {later : Timestamp} (regular : desk.chains.Regular)
  (taken : between.chains.commit (Engine.approval (some (pending.moved .queue now)) (target.moved .pending now) later) =
    .ok chains)
include regular taken

theorem returned : ChainStore.Exchanged pending.id target.id .pending .approved later between.chains chains := by
  have exchanged := ChainStore.commit_exchanges (sentBack.regular_between regular).sound
    (ChainStore.mem_chainOf.mp (sentBack.pending_queued regular)).1
    (ChainStore.mem_chainOf.mp (sentBack.target_waits regular)).1 rfl rfl
    (show StepStatus.queue ≠ .pending by decide) taken
  exact exchanged

theorem steps : chains.allSteps = desk.chains.allSteps.map fun known =>
    if known.id = pending.id ∨ known.id = target.id then { known with modified := later } else known := by
  rw [(sentBack.returned regular taken).steps, (sentBack.exchanged regular).steps, List.map_map]
  refine List.map_congr_left fun known mem => Step.exchanged_back (sentBack.apart regular) now later ?_ ?_
  · exact fun same => regular.sound.eq_of_id mem (ChainStore.mem_chainOf.mp sentBack.back).1 same ▸ sentBack.approved
  · exact fun same => regular.sound.eq_of_id mem (ChainStore.mem_chainOf.mp sentBack.here).1 same ▸ sentBack.waits

theorem histories (other : StepId) : chains.historyOf other = desk.chains.historyOf other ++
    (([⟨target.id, .pending, now⟩, ⟨pending.id, .queue, now⟩] : List HistoryRow).filter (·.step == other) ++
      ([⟨pending.id, .pending, later⟩, ⟨target.id, .approved, later⟩] : List HistoryRow).filter (·.step == other)) := by
  rw [(sentBack.returned regular taken).historyOf, (sentBack.exchanged regular).historyOf, List.append_assoc]

end

end SentBack

/-- A chain that is sent back tells to which step: the one that was named, or the one just below. The
approval of that step undoes it: every step is as it was, but for the times of the two that moved and
moved back, and their histories alone have grown, by just that. Nothing is paid out. -/
theorem reapproval_restores (reachable : Reachable settings desk) (loan : LoanId) (step : StepId)
    (named : Option StepId) (note : String) (now : Timestamp) (outcome : Outcome)
    (undone : (Desk.engine settings now).perform (.undo loan step note named) desk = .ok (.done outcome) between) :
    ∃ back, (∀ id, .undoneTo id ∈ outcome.changes ↔ id = back) ∧
      (named = some back ∨ named = none ∧ ∃ pending target, desk.chains.find? step = some pending ∧
        desk.chains.find? back = some target ∧ target.loan = loan ∧ target.rank + 1 = pending.rank) ∧
      ∀ note date payment later answer after,
        (Desk.engine settings later).perform (.approve loan back note date payment) between = .ok answer after →
        after.chains.allSteps = desk.chains.allSteps.map (fun known =>
          if known.id = step ∨ known.id = back then { known with modified := later } else known) ∧
        (∀ other, after.ledger.paidOut other = desk.ledger.paidOut other) ∧
        (∀ other, other ≠ step → other ≠ back → after.chains.historyOf other = desk.chains.historyOf other) ∧
        after.chains.historyOf back =
          desk.chains.historyOf back ++ [⟨back, .pending, now⟩, ⟨back, .approved, later⟩] ∧
        after.chains.historyOf step =
          desk.chains.historyOf step ++ [⟨step, .queue, now⟩, ⟨step, .pending, later⟩] := by
  have orderly := reachable.orderly
  have regular := orderly.chains
  have sends : Ends ((Desk.engine settings now).perform (.undo loan step note named)) desk
      (fun answer after => ∀ outcome, answer = .done outcome → ∃ pending target, pending.id = step ∧
        (∀ id, .undoneTo id ∈ outcome.changes ↔ id = target.id) ∧ SentBack loan pending target named now desk after)
      fun _ _ => True := by
    refine (undo_sends_back settings now orderly loan step note named).andThen ?_ fun _ _ ended => ended
    intro _ after ended outcome same
    cases same
    exact ended
  obtain ⟨pending, target, rfl, tells, sentBack⟩ := sends.of_ok undone outcome rfl
  have choice : named = some target.id ∨ named = none ∧ ∃ waiting known, desk.chains.find? pending.id = some waiting ∧
      desk.chains.find? target.id = some known ∧ known.loan = loan ∧ known.rank + 1 = waiting.rank := by
    obtain ⟨stored, _⟩ := ChainStore.mem_chainOf.mp sentBack.here
    obtain ⟨storedBack, owned⟩ := ChainStore.mem_chainOf.mp sentBack.back
    refine sentBack.choice.imp id fun ⟨unnamed, below⟩ => ⟨unnamed, pending, target, ?_, ?_, owned, below⟩
    · exact (regular.sound.find?_eq_some_iff ..).mpr ⟨stored, rfl⟩
    · exact (regular.sound.find?_eq_some_iff ..).mpr ⟨storedBack, rfl⟩
  refine ⟨target.id, tells, choice, fun note date payment later answer after approved => ?_⟩
  have opens : Ends ((Desk.engine settings later).perform (.approve loan target.id note date payment)) between
      (fun _ after => between.chains.commit
          (Engine.approval (some (pending.moved .queue now)) (target.moved .pending now) later) = .ok after.chains ∧
        Path loan between.ledger after.ledger)
      fun _ _ => True := by
    have orderlyBetween : between.Orderly :=
      ⟨sentBack.regular_between regular, sentBack.ledger.inOrder orderly.ledger⟩
    exact (approve_opens settings later orderlyBetween (sentBack.target_waits regular) (sentBack.following regular)
      note date payment).andThen (fun _ _ ended => ended) fun _ _ ended => ended
  obtain ⟨taken, unpaid⟩ := opens.of_ok approved
  have histories := sentBack.histories regular taken
  have apart := sentBack.apart regular
  refine ⟨sentBack.steps regular taken, fun other => ?_, fun other notPending notTarget => ?_, ?_, ?_⟩
  · exact (unpaid.paidOut other).trans (sentBack.ledger.paidOut other)
  · rw [histories]
    simp [Ne.symm notPending, Ne.symm notTarget]
  · rw [histories]
    simp [Ne.symm apart]
  · rw [histories]
    simp [apart]

/-- The second step of the sample is sent back to the first, which is approved again. -/
theorem halfway_restored :
    ∃ outcome between answer after,
      (Desk.engine .standard .epoch).perform (.undo 1 2 "" none) halfway = .ok (.done outcome) between ∧
      (Desk.engine .standard .epoch).perform (.approve 1 1 "" none none) between = .ok answer after ∧
      after.chains.allSteps = halfway.chains.allSteps.map (fun known =>
        if known.id = 2 ∨ known.id = 1 then { known with modified := .epoch } else known) ∧
      (after.chains.historyOf 1).map (·.status) = [.pending, .approved, .pending, .approved] := by
  obtain ⟨back, tells, _, restores⟩ :=
    reapproval_restores halfway_reachable 1 2 none "" .epoch _ rfl
  obtain rfl : 1 = back := (tells 1).mp (by decide +kernel)
  exact ⟨_, _, _, _, rfl, rfl, (restores "" none none .epoch _ _ rfl).1, by decide +kernel⟩

end Desk

end Countersign
