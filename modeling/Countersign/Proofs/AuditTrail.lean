import Countersign.Proofs.ChainEntry
import Countersign.Proofs.DeskAct
import Mathlib.Data.List.Chain
import Mathlib.Data.List.Forall2

/-!
The history of steps as an audit trail. It starts with how a step was created, goes on as the status
of a step may, notes a change of hands only while the step is pending, and comes to the status that
the step has. Each entry in the store keeps it so and only adds to it. Hence it is so on every run
from a store without steps, whatever may be out of order in the meantime.
-/

namespace Countersign

/-- The statuses that rows tell of, without those of a change of hands. -/
def HistoryRow.moves (rows : List HistoryRow) : List StepStatus :=
  (rows.map (·.status)).filter (· ≠ .reassigned)

/-- The rows that tell of a step, from its creation to the state it is in. -/
structure AuditTrail (step : Step) (rows : List HistoryRow) : Prop where
  opening : rows.head?.map (·.status) = some (if step.rank = 0 then .pending else .queue)
  moves : (HistoryRow.moves rows).IsChain fun earlier later => earlier.leadsTo later = true
  /-- A step changes hands while it is pending. -/
  handed : ∀ earlier row later, rows = earlier ++ row :: later → row.status = .reassigned →
    (HistoryRow.moves earlier).getLast? = some .pending
  current : (HistoryRow.moves rows).getLast? = some step.status

namespace HistoryRow

theorem moves_append (rows : List HistoryRow) (row : HistoryRow) (moved : row.status ≠ .reassigned) :
    moves (rows ++ [row]) = moves rows ++ [row.status] := by
  simp [moves, moved]

theorem moves_append_reassigned (rows : List HistoryRow) (row : HistoryRow) (handed : row.status = .reassigned) :
    moves (rows ++ [row]) = moves rows := by
  simp [moves, handed]

end HistoryRow

namespace AuditTrail

open HistoryRow

variable {step update : Step} {rows : List HistoryRow} {row : HistoryRow}

theorem opened (initial : step.status = if step.rank = 0 then .pending else .queue) (tells : row.status = step.status) :
    AuditTrail step [row] := by
  have moved : row.status ≠ .reassigned := by
    rw [tells, initial]
    split <;> decide
  have moves : HistoryRow.moves [row] = [step.status] := tells ▸ moves_append [] row moved
  refine ⟨?_, ?_, ?_, ?_⟩
  · rw [← initial, ← tells]
    rfl
  · rw [moves]
    exact .singleton _
  · intro earlier other later split handed
    obtain ⟨rfl, rfl, rfl⟩ : earlier = [] ∧ other = row ∧ later = [] := by
      simpa using List.singleton_eq_append_iff.mp split
    exact absurd handed moved
  · rw [moves]
    rfl

theorem split_append {earlier later : List HistoryRow} {other : HistoryRow}
    (split : rows ++ [row] = earlier ++ other :: later) :
    earlier = rows ∧ other = row ∨ ∃ rest, rows = earlier ++ other :: rest := by
  rcases List.eq_nil_or_concat later with rfl | ⟨rest, last, rfl⟩
  · obtain ⟨same, last⟩ := List.append_inj' split rfl
    exact Or.inl ⟨same.symm, (List.singleton_inj.mp last).symm⟩
  · rw [List.concat_eq_append, ← List.cons_append, ← List.append_assoc] at split
    exact Or.inr ⟨rest, (List.append_inj' split rfl).1⟩

/-- With each newer state of the step and the row that tells of it, the trail goes on. -/
theorem amended (trail : AuditTrail step rows) (amended : step.Amended update row) :
    AuditTrail update (rows ++ [row]) := by
  have nonempty : rows ≠ [] := by
    rintro rfl
    cases trail.opening
  have opening : (rows ++ [row]).head?.map (·.status) = some (if step.rank = 0 then .pending else .queue) := by
    rw [List.head?_append_of_ne_nil _ nonempty]
    exact trail.opening
  cases amended with
  | moved status now leads =>
    have moved : status ≠ .reassigned := by
      rintro rfl
      cases before : step.status <;> rw [before] at leads <;> cases leads
    have moves := moves_append rows ⟨step.id, status, now⟩ moved
    refine ⟨opening, ?_, ?_, ?_⟩
    · rw [moves, List.isChain_append]
      refine ⟨trail.moves, .singleton _, ?_⟩
      intro earlier last later only
      cases only
      cases trail.current.symm.trans last
      exact leads
    · intro earlier other later split handed
      rcases split_append split with ⟨_, rfl⟩ | ⟨rest, before⟩
      · exact absurd handed moved
      · exact trail.handed earlier other rest before handed
    · rw [moves, List.getLast?_concat]
  | handed approver now pending =>
    have moves := moves_append_reassigned rows ⟨step.id, .reassigned, now⟩ rfl
    refine ⟨opening, moves ▸ trail.moves, ?_, moves ▸ trail.current⟩
    intro earlier other later split handed
    rcases split_append split with ⟨rfl, _⟩ | ⟨rest, before⟩
    · exact trail.current.trans (congrArg some pending)
    · exact trail.handed earlier other rest before handed

end AuditTrail

/-! The trails of a store. -/

namespace Step.Amended

variable {known update : Step} {row : HistoryRow}

theorem succeeds (amended : known.Amended update row) : ChainStore.Succeeds update known := by
  cases amended <;> exact ⟨rfl, rfl, rfl⟩

theorem tells (amended : known.Amended update row) : row.step = known.id := by
  cases amended <;> rfl

end Step.Amended

namespace ChainStore

variable {store after : ChainStore}

/-- A sound store with a trail for every step. Ids that are still to be given out have no rows. -/
structure Audited (store : ChainStore) : Prop where
  sound : store.Sound
  given : ∀ row ∈ store.history, row.step ≤ store.lastId
  trails : ∀ step ∈ store.allSteps, AuditTrail step (store.historyOf step.id)

theorem empty_audited : empty.Audited where
  sound := empty_regular.sound
  given _ none := absurd none List.not_mem_nil
  trails _ none := absurd none List.not_mem_nil

theorem Sound.id_le (sound : store.Sound) {step : Step} (mem : step ∈ store.allSteps) : step.id ≤ store.lastId := by
  obtain ⟨key, found⟩ := (Table.mem_values_iff ..).mp mem
  have row := (Table.get?_eq_some_iff ..).mp found
  rw [sound.named _ row]
  exact sound.given _ row

theorem historyOf_append {rows : List HistoryRow} (history : after.history = store.history ++ rows) (id : StepId) :
    after.historyOf id = store.historyOf id ++ rows.filter (·.step == id) := by
  simp only [historyOf, history, List.filter_append]

theorem historyOf_add (store : ChainStore) (step : Step) (id : StepId) : (store.add step).historyOf id =
    if step.id = id then store.historyOf id ++ [⟨step.id, step.status, step.created⟩] else store.historyOf id := by
  split <;> simp [historyOf, add, *]

theorem Audited.add (audited : store.Audited) {step : Step} (next : step.id = store.lastId + 1)
    (initial : step.status = if step.rank = 0 then .pending else .queue) : (store.add step).Audited := by
  obtain ⟨sound, listing⟩ := add_sound audited.sound next
  -- an id that is given out only now has no rows from before
  have unused : store.historyOf step.id = [] := by
    refine List.filter_eq_nil_iff.mpr fun row mem is => ?_
    have bound := audited.given row mem
    rw [beq_iff_eq.mp is, next] at bound
    exact Nat.not_succ_le_self _ bound
  refine ⟨sound, ?_, ?_⟩
  · intro row mem
    rcases List.mem_append.mp mem with before | added
    · exact Nat.le_trans (audited.given row before) (Nat.le_trans (Nat.le_succ _) (Nat.le_of_eq next.symm))
    · cases List.mem_singleton.mp added
      exact Nat.le_refl _
  · intro other mem
    rw [listing] at mem
    rcases List.mem_append.mp mem with before | added
    · have different : step.id ≠ other.id := by
        have bound := audited.sound.id_le before
        rw [next]
        exact Nat.ne_of_gt (Nat.lt_succ_of_le bound)
      rw [historyOf_add, if_neg different]
      exact audited.trails other before
    · cases List.mem_singleton.mp added
      rw [historyOf_add, if_pos rfl, unused]
      exact .opened initial rfl

theorem Audited.create (now : Timestamp) (drafts : List Draft) (audited : store.Audited) :
    (store.create now drafts).2.Audited ∧ store.history <+: (store.create now drafts).2.history := by
  induction drafts generalizing store with
  | nil => exact ⟨audited, List.prefix_rfl⟩
  | cons draft rest ih =>
    have added : (store.add (numbered now (store.lastId + 1) draft)).Audited := audited.add rfl rfl
    obtain ⟨created, kept⟩ := ih added
    exact ⟨created, (List.prefix_append _ _).trans kept⟩

/-! Batches. -/

section

variable {batch : Batch}

theorem rows_named {updates : List Step} {rows : List HistoryRow} (paired : List.Forall₂ store.Amends updates rows) :
    rows.map (·.step) = updates.map (·.id) := by
  induction paired with
  | nil => rfl
  | cons pair _ ih =>
    obtain ⟨known, _, amended⟩ := pair
    rw [List.map_cons, List.map_cons, ih, amended.tells, amended.succeeds.id]

theorem stored_of_row {updates : List Step} {rows : List HistoryRow} (paired : List.Forall₂ store.Amends updates rows) :
    ∀ row ∈ rows, ∃ known ∈ store.allSteps, row.step = known.id := by
  induction paired with
  | nil => exact fun _ none => absurd none List.not_mem_nil
  | cons pair _ ih =>
    obtain ⟨known, stored, amended⟩ := pair
    exact List.forall_mem_cons.mpr ⟨⟨known, stored, amended.tells⟩, ih⟩

theorem batch_revises (sound : store.Sound) {step : Step} (mem : step ∈ store.allSteps) (tells : batch.Tells store) :
    revise batch.updates step = step ∧ batch.history.filter (·.step == step.id) = [] ∨
      ∃ row, step.Amended (revise batch.updates step) row ∧ batch.history.filter (·.step == step.id) = [row] := by
  obtain ⟨updates, rows⟩ := batch
  obtain ⟨paired, distinct⟩ := tells
  dsimp only at paired distinct ⊢
  induction paired with
  | nil => exact Or.inl ⟨rfl, rfl⟩
  | @cons update row updates rows pair others ih =>
    obtain ⟨known, knownMem, amended⟩ := pair
    obtain ⟨fresh, distinct⟩ := List.nodup_cons.mp distinct
    have names : row.step = update.id := amended.tells.trans amended.succeeds.id.symm
    by_cases same : step.id = update.id
    -- the step is updated here, and as no step is updated twice, the rest of the batch is not about it
    · obtain rfl := sound.eq_of_id mem knownMem (same.trans amended.succeeds.id)
      have unrevised : revise updates update = update := by
        refine revise_of_other fun later listed is => fresh ?_
        simp only [is]
        exact List.mem_map_of_mem listed
      have untold : rows.filter (·.step == step.id) = [] := by
        refine List.filter_eq_nil_iff.mpr fun later listed is => fresh ?_
        simp only [← rows_named others, ← same, ← beq_iff_eq.mp is]
        exact List.mem_map_of_mem listed
      have revised : revise (update :: updates) step = update := calc
        revise (update :: updates) step = revise updates (replace step update) := rfl
        _ = revise updates update := by rw [replace, if_pos same]
        _ = update := unrevised
      have told : (row :: rows).filter (·.step == step.id) = [row] := calc
        _ = row :: rows.filter (·.step == step.id) := List.filter_cons_of_pos (beq_iff_eq.mpr amended.tells)
        _ = [row] := by rw [untold]
      exact Or.inr ⟨row, revised.symm ▸ amended, told⟩
    · have skipped : revise (update :: updates) step = revise updates step := calc
        revise (update :: updates) step = revise updates (replace step update) := rfl
        _ = revise updates step := by rw [replace, if_neg same]
      have elsewhere : row.step ≠ step.id := fun is => same (is.symm.trans names)
      have untold : (row :: rows).filter (·.step == step.id) = rows.filter (·.step == step.id) := by
        simp [elsewhere]
      rw [skipped, untold]
      exact ih distinct

/-- What a batch that tells comes to: its steps are revised, and its rows are added. -/
theorem commit_revised (sound : store.Sound) (tells : batch.Tells store) (taken : store.commit batch = .ok after) :
    after.Sound ∧ after.lastId = store.lastId ∧ after.history = store.history ++ batch.history ∧
      after.allSteps = store.allSteps.map (revise batch.updates) ∧
      ∀ step ∈ store.allSteps, Succeeds (revise batch.updates step) step := by
  have known : ∀ update ∈ batch.updates, ∃ step ∈ store.allSteps, Succeeds update step := by
    refine ((List.forall₂_and_left _ _).mp (tells.paired.imp fun update row pair => ⟨?_, pair⟩)).1
    obtain ⟨step, mem, amended⟩ := pair
    exact ⟨step, mem, amended.succeeds⟩
  obtain ⟨soundAfter, listing, succeeds⟩ := updates_revise sound known
  obtain ⟨_, rfl⟩ := commit_eq_ok_iff.mp taken
  exact ⟨⟨soundAfter.named, soundAfter.given⟩, (updates_keep batch.updates store).2, rfl, listing, succeeds⟩

theorem Audited.commit (audited : store.Audited) (tells : batch.Tells store) (taken : store.commit batch = .ok after) :
    after.Audited ∧ store.history <+: after.history := by
  obtain ⟨sound, lastId, history, listing, succeeds⟩ := commit_revised audited.sound tells taken
  refine ⟨⟨sound, ?_, ?_⟩, history ▸ List.prefix_append _ _⟩
  · intro row mem
    rw [history] at mem
    rw [lastId]
    rcases List.mem_append.mp mem with before | added
    · exact audited.given row before
    · obtain ⟨known, stored, names⟩ := stored_of_row tells.paired row added
      rw [names]
      exact audited.sound.id_le stored
  · intro revised mem
    rw [listing] at mem
    obtain ⟨step, stored, rfl⟩ := List.mem_map.mp mem
    have trail := audited.trails step stored
    rw [(succeeds step stored).id, historyOf_append history]
    rcases batch_revises audited.sound stored tells with ⟨same, untold⟩ | ⟨row, amended, told⟩
    · rw [same, untold, List.append_nil]
      exact trail
    · rw [told]
      exact trail.amended amended

end

theorem Entered.keeps (entered : store.Entered after) (audited : store.Audited) :
    after.Audited ∧ store.history <+: after.history := by
  cases entered with
  | chain now drafts => exact audited.create now drafts
  | batch tells taken => exact audited.commit tells taken

theorem entries_keep (entries : Relation.ReflTransGen Entered store after) (audited : store.Audited) :
    after.Audited ∧ store.history <+: after.history := by
  induction entries with
  | refl => exact ⟨audited, List.prefix_rfl⟩
  | tail _ entered ih =>
    obtain ⟨middle, before⟩ := ih
    obtain ⟨later, kept⟩ := entered.keeps middle
    exact ⟨later, before.trans kept⟩

end ChainStore

/-! Runs under watch. -/

namespace Watched

/-- What happens at a desk under watch: an act there, or a service goes out of order or is put in
order again. -/
inductive Incident where
  | act (act : Act)
  | interrupt (service : Service) (after : Nat)
  | mend (service : Service)

abbrev engine (settings : Settings) (now : Timestamp) : Engine (Watched Desk) := ⟨services Desk.services, settings, now⟩

def after (settings : Settings) (watched : Watched Desk) : Incident → Watched Desk
  | .act (.event (.command now command)) =>
    match (engine settings now).perform command watched with
    | .ok _ later => later
    | .error _ later => later
  | .act act => { watched with inner := watched.inner.act settings act }
  | .interrupt service after => watched.interrupt service after
  | .mend service => watched.mend service

def run (settings : Settings) (watched : Watched Desk) (incidents : List Incident) : Watched Desk :=
  incidents.foldl (after settings) watched

variable {settings : Settings} {watched : Watched Desk}

theorem after_keeps (audited : watched.inner.chains.Audited) (incident : Incident) :
    (watched.after settings incident).inner.chains.Audited ∧
      watched.inner.chains.history <+: (watched.after settings incident).inner.chains.history := by
  have untouched {later : Watched Desk} (same : later.inner.chains = watched.inner.chains) :
      later.inner.chains.Audited ∧ watched.inner.chains.history <+: later.inner.chains.history := by
    rw [same]
    exact ⟨audited, List.prefix_rfl⟩
  cases incident with
  | interrupt service after => exact untouched rfl
  | mend service => exact untouched rfl
  | act act =>
    cases act with
    | call call => exact untouched rfl
    | event event =>
      cases event with
      | failOn op => exact untouched rfl
      | heal op => exact untouched rfl
      | command now command =>
        have serve := services_serve Desk.services_serve
        have enters := (engine settings now).perform_enters serve audited.sound command watched rfl
        unfold Ends at enters
        rw [after]
        split
        next ran =>
          rw [ran] at enters
          exact ChainStore.entries_keep enters audited
        next ran =>
          rw [ran] at enters
          exact ChainStore.entries_keep enters audited

theorem run_audited (incidents : List Incident) (audited : watched.inner.chains.Audited) :
    (watched.run settings incidents).inner.chains.Audited := by
  induction incidents generalizing watched with
  | nil => exact audited
  | cons incident rest ih => exact ih (after_keeps audited incident).1

/-- On every run from a store without steps, each step has its trail, and whatever comes next, all the
rows that there are stay in their places. -/
theorem run_keeps_trails (settings : Settings) (ledger : Ledger) (directory : Directory) (incidents : List Incident) :
    let watched := (start ⟨.empty, ledger, directory⟩).run settings incidents
    (∀ step ∈ watched.inner.chains.allSteps, AuditTrail step (watched.inner.chains.historyOf step.id)) ∧
      ∀ incident, watched.inner.chains.history <+: (watched.after settings incident).inner.chains.history := by
  intro watched
  have audited : watched.inner.chains.Audited := run_audited incidents ChainStore.empty_audited
  exact ⟨audited.trails, fun incident => (after_keeps audited incident).2⟩

/-- An approval that the store does not take leaves no row. The step changes hands, is approved, and
is gone back to. -/
theorem sample_trails :
    let order (command : Command) : Incident := .act (.event (.command .epoch command))
    let incidents := [order (.build 1), .interrupt .commit 0, order (.approve 1 1 "" none none), .mend .commit,
      order (.reassign 1 1 "" 2), order (.approve 1 1 "" none none), order (.undo 1 2 "" none)]
    let chains := ((start ⟨.empty, Desk.sample.ledger, Desk.sample.directory⟩).run .standard incidents).inner.chains
    chains.allSteps.map (fun step => (step.status, (chains.historyOf step.id).map (·.status))) =
        [(.pending, [.pending, .reassigned, .approved, .pending]), (.queue, [.queue, .pending, .queue])] ∧
      ∀ step ∈ chains.allSteps, AuditTrail step (chains.historyOf step.id) := by
  intro order incidents chains
  have trails := (run_keeps_trails .standard Desk.sample.ledger Desk.sample.directory incidents).1
  exact ⟨by decide +kernel, trails⟩

end Watched

end Countersign
