import Countersign.ChainStore
import Countersign.Proofs.ChainForm
import Countersign.Proofs.TableListing

/-!
What the store of chains keeps. Every step stands under its own id and no id is given out
twice, so the chain of a loan can be listed by id, and that is the order of its ranks. A
batch revises the steps that it names and leaves every other step as it is.
-/

namespace Countersign.ChainStore

/-- Every step stands under its own id, and no id is above the last one given out. -/
structure Sound (store : ChainStore) : Prop where
  named : ∀ row ∈ store.steps.rows, row.2.id = row.1
  given : ∀ row ∈ store.steps.rows, row.1 ≤ store.lastId

def chainOf (store : ChainStore) (loan : LoanId) : List Step := store.allSteps.filter (·.loan == loan)

/-- A sound store with every chain in form. -/
structure Regular (store : ChainStore) : Prop where
  sound : store.Sound
  formed : ∀ loan, Chain.Formed (store.chainOf loan)

theorem mem_chainOf {store : ChainStore} {loan : LoanId} {step : Step} :
    step ∈ store.chainOf loan ↔ step ∈ store.allSteps ∧ step.loan = loan := by
  rw [chainOf, List.mem_filter, beq_iff_eq]

theorem empty_regular : empty.Regular :=
  ⟨⟨fun _ none => absurd none List.not_mem_nil, fun _ none => absurd none List.not_mem_nil⟩, fun _ => Or.inl rfl⟩

theorem Sound.find?_eq_some_iff {store : ChainStore} (sound : store.Sound) (id : StepId) (step : Step) :
    store.find? id = some step ↔ step ∈ store.allSteps ∧ step.id = id := by
  unfold find? allSteps
  rw [Table.mem_values_iff]
  constructor
  · intro found
    exact ⟨⟨id, found⟩, sound.named _ ((Table.get?_eq_some_iff ..).mp found)⟩
  · intro ended
    obtain ⟨⟨key, found⟩, rfl⟩ := ended
    rw [sound.named _ ((Table.get?_eq_some_iff ..).mp found)]
    exact found

theorem Sound.eq_of_id {store : ChainStore} (sound : store.Sound) {a b : Step} (memA : a ∈ store.allSteps)
    (memB : b ∈ store.allSteps) (same : a.id = b.id) : a = b := by
  have foundA := (sound.find?_eq_some_iff b.id a).mpr ⟨memA, same⟩
  have foundB := (sound.find?_eq_some_iff b.id b).mpr ⟨memB, rfl⟩
  exact Option.some_inj.mp (foundA.symm.trans foundB)

/-- By rank is by id. -/
theorem Regular.stepsOf_eq {store : ChainStore} (regular : store.Regular) (loan : LoanId) :
    store.stepsOf loan = store.chainOf loan := by
  refine Step.byRank_of_ascending ((regular.formed loan).ascending.imp ?_)
  exact fun lower => Nat.le_of_lt lower

/-! Taking over a batch. -/

def replace (known update : Step) : Step := if known.id = update.id then update else known

def revise (updates : List Step) (step : Step) : Step := updates.foldl replace step

theorem revise_of_other {updates : List Step} {step : Step} (others : ∀ update ∈ updates, step.id ≠ update.id) :
    revise updates step = step := by
  induction updates with
  | nil => rfl
  | cons first rest ih =>
    unfold revise
    rw [List.foldl_cons, replace, if_neg (others first List.mem_cons_self)]
    exact ih fun update later => others update (List.mem_cons_of_mem _ later)

structure Succeeds (update known : Step) : Prop where
  id : update.id = known.id
  loan : update.loan = known.loan
  rank : update.rank = known.rank

theorem update_allSteps {store : ChainStore} (sound : store.Sound) {update known : Step}
    (mem : known ∈ store.allSteps) (same : update.id = known.id) :
    (store.update update).allSteps = store.allSteps.map (replace · update) :=
  Table.values_insert_of_get? update (·.id) sound.named ((sound.find?_eq_some_iff _ _).mpr ⟨mem, same.symm⟩)

theorem update_sound {store : ChainStore} (sound : store.Sound) {update known : Step}
    (mem : known ∈ store.allSteps) (same : update.id = known.id) : (store.update update).Sound := by
  have found := (sound.find?_eq_some_iff update.id known).mpr ⟨mem, same.symm⟩
  have bound := sound.given _ ((Table.get?_eq_some_iff ..).mp found)
  refine ⟨?_, ?_⟩
  · intro row placed
    rcases Table.key_of_mem_place _ _ _ row placed with rfl | kept
    · rfl
    · exact sound.named row kept
  · intro row placed
    rcases Table.key_of_mem_place _ _ _ row placed with rfl | kept
    · exact bound
    · exact sound.given row kept

theorem replace_succeeds {store : ChainStore} (sound : store.Sound) {update known step : Step}
    (mem : known ∈ store.allSteps) (succeeds : Succeeds update known) (stepMem : step ∈ store.allSteps) :
    Succeeds (replace step update) step := by
  unfold replace
  split
  next same =>
    cases sound.eq_of_id stepMem mem (same.trans succeeds.id)
    exact succeeds
  next => exact ⟨rfl, rfl, rfl⟩

theorem updates_keep (updates : List Step) (store : ChainStore) :
    (updates.foldl update store).history = store.history ∧ (updates.foldl update store).lastId = store.lastId := by
  induction updates generalizing store with
  | nil => exact ⟨rfl, rfl⟩
  | cons first rest ih => exact ih (store.update first)

theorem lacks_iff {store : ChainStore} (id : StepId) :
    (!store.steps.contains id) = true ↔ store.find? id = none := by
  change (!(store.find? id).isSome) = true ↔ _
  cases store.find? id <;> simp

/-- A batch is taken over if all its steps are stored: its updates one after the other, and all its rows. -/
theorem commit_eq_ok_iff {store after : ChainStore} {batch : Batch} :
    store.commit batch = .ok after ↔ (∀ update ∈ batch.updates, store.find? update.id ≠ none) ∧
      after = { batch.updates.foldl update store with history := store.history ++ batch.history } := by
  have stored : batch.updates.find? (fun step => !store.steps.contains step.id) = none ↔
      ∀ update ∈ batch.updates, store.find? update.id ≠ none := by
    simp only [List.find?_eq_none, lacks_iff, ne_eq]
  rw [← stored, commit]
  cases batch.updates.find? fun step => !store.steps.contains step.id with
  | none => simp only [(updates_keep batch.updates store).1, Except.ok.injEq, true_and, eq_comm]
  | some missing => simp

theorem updates_revise {updates : List Step} {store : ChainStore} (sound : store.Sound)
    (known : ∀ update ∈ updates, ∃ step ∈ store.allSteps, Succeeds update step) :
    (updates.foldl update store).Sound ∧
      (updates.foldl update store).allSteps = store.allSteps.map (revise updates) ∧
      ∀ step ∈ store.allSteps, Succeeds (revise updates step) step := by
  induction updates generalizing store with
  | nil => exact ⟨sound, (List.map_id _).symm, fun _ _ => ⟨rfl, rfl, rfl⟩⟩
  | cons first rest ih =>
    obtain ⟨step, mem, succeeds⟩ := known first List.mem_cons_self
    have listing := update_allSteps sound mem succeeds.id
    have stays {other : Step} (otherMem : other ∈ store.allSteps) :
        replace other first ∈ (store.update first).allSteps := by
      rw [listing]
      exact List.mem_map_of_mem otherMem
    have known' : ∀ update ∈ rest, ∃ step ∈ (store.update first).allSteps, Succeeds update step := by
      intro update later
      obtain ⟨target, targetMem, targetSucceeds⟩ := known update (List.mem_cons_of_mem _ later)
      have kept := replace_succeeds sound mem succeeds targetMem
      exact ⟨_, stays targetMem, targetSucceeds.id.trans kept.id.symm, targetSucceeds.loan.trans kept.loan.symm,
        targetSucceeds.rank.trans kept.rank.symm⟩
    obtain ⟨soundAfter, listingAfter, succeedsAfter⟩ := ih (update_sound sound mem succeeds.id) known'
    refine ⟨soundAfter, ?_, ?_⟩
    · rw [List.foldl_cons, listingAfter, listing, List.map_map]
      rfl
    · intro other otherMem
      have kept := replace_succeeds sound mem succeeds otherMem
      have later := succeedsAfter _ (stays otherMem)
      exact ⟨later.id.trans kept.id, later.loan.trans kept.loan, later.rank.trans kept.rank⟩

/-- The store after a batch of a loan: its chain is revised, and nothing else but the
history. -/
structure Revised (loan : LoanId) (revision : Step → Step) (before after : ChainStore) : Prop where
  sound : after.Sound
  chain : after.chainOf loan = (before.chainOf loan).map revision
  others : ∀ other, other ≠ loan → after.chainOf other = before.chainOf other
  keeps : ∀ step ∈ before.chainOf loan, Succeeds (revision step) step
  succeeds : ∀ step ∈ before.allSteps, ∃ later ∈ after.allSteps, Succeeds later step

theorem commit_revises {store : ChainStore} {loan : LoanId} {batch : Batch} (sound : store.Sound)
    (known : ∀ update ∈ batch.updates, ∃ step ∈ store.chainOf loan, Succeeds update step) :
    ∃ after, store.commit batch = .ok after ∧ Revised loan (revise batch.updates) store after := by
  have stored : ∀ update ∈ batch.updates, ∃ step ∈ store.allSteps, Succeeds update step := by
    intro update listed
    obtain ⟨step, mem, succeeds⟩ := known update listed
    exact ⟨step, (mem_chainOf.mp mem).1, succeeds⟩
  have found : ∀ update ∈ batch.updates, store.find? update.id ≠ none := by
    intro update listed
    obtain ⟨step, mem, succeeds⟩ := stored update listed
    rw [(sound.find?_eq_some_iff ..).mpr ⟨mem, succeeds.id.symm⟩]
    exact Option.some_ne_none step
  obtain ⟨soundAfter, listing, succeeds⟩ := updates_revise sound stored
  have chains (other : LoanId) : (batch.updates.foldl update store).chainOf other =
      (store.chainOf other).map (revise batch.updates) := by
    unfold chainOf
    rw [listing, List.filter_map]
    refine congrArg _ (List.filter_congr fun step mem => ?_)
    exact congrArg (· == other) (succeeds step mem).loan
  refine ⟨_, commit_eq_ok_iff.mpr ⟨found, rfl⟩, ⟨soundAfter.named, soundAfter.given⟩, chains loan, ?_,
    fun step mem => succeeds step (mem_chainOf.mp mem).1, ?_⟩
  · intro other different
    refine (chains other).trans ((List.map_congr_left fun step mem => ?_).trans (List.map_id _))
    apply revise_of_other
    intro update listed same
    obtain ⟨target, targetMem, succeeds⟩ := known update listed
    obtain ⟨stepMem, stepLoan⟩ := mem_chainOf.mp mem
    obtain ⟨targetStored, targetLoan⟩ := mem_chainOf.mp targetMem
    cases sound.eq_of_id stepMem targetStored (same.trans succeeds.id)
    exact different (stepLoan.symm.trans targetLoan)
  · intro step mem
    refine ⟨revise batch.updates step, ?_, succeeds step mem⟩
    change _ ∈ (batch.updates.foldl update store).allSteps
    rw [listing]
    exact List.mem_map_of_mem mem

end Countersign.ChainStore
