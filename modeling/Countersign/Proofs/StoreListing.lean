import Countersign.Proofs.BatchStaging
import Countersign.Proofs.ChainEntry
import Countersign.Proofs.LeastLoaded

/-!
The store of chains as one table. Whatever is written to it, chains of any drafts and batches that may
rewrite any part of a step or be refused, it holds the newest state of every step that was created, once
each, under ids without a gap; and all that it can be asked is answered from that table.
-/

namespace Countersign

/-! Listing by rank. -/

namespace Step

def Precedes (a b : Step) : Prop := a.rank < b.rank ∨ a.rank = b.rank ∧ a.id < b.id

theorem insertByRank_precedes {step : Step} {steps : List Step} (ordered : steps.Pairwise Precedes)
    (lowest : ∀ other ∈ steps, step.id < other.id) : (insertByRank step steps).Pairwise Precedes := by
  induction steps with
  | nil => exact List.pairwise_singleton ..
  | cons next rest ih =>
    obtain ⟨later, others⟩ := List.pairwise_cons.mp ordered
    obtain ⟨lower, lowestOfRest⟩ := List.forall_mem_cons.mp lowest
    rw [insertByRank]
    split
    next ranks =>
      have ahead : step.Precedes next := by
        rcases Nat.lt_or_eq_of_le ranks with less | same
        · exact Or.inl less
        · exact Or.inr ⟨same, lower⟩
      refine List.pairwise_cons.mpr ⟨fun other mem => ?_, ordered⟩
      rcases List.mem_cons.mp mem with rfl | mem
      · exact ahead
      · rcases later other mem with less | ⟨same, _⟩
        · exact Or.inl (Nat.lt_of_le_of_lt ranks less)
        · rcases ahead with less | ⟨equal, _⟩
          · exact Or.inl (same ▸ less)
          · exact Or.inr ⟨equal.trans same, lowestOfRest other mem⟩
    next behind =>
      refine List.pairwise_cons.mpr ⟨fun other mem => ?_, ih others lowestOfRest⟩
      rcases List.mem_cons.mp ((insertByRank_perm step rest).mem_iff.mp mem) with rfl | mem
      · exact Or.inl (Nat.lt_of_not_le behind)
      · exact later other mem

theorem byRank_precedes {steps : List Step} (ascending : steps.Pairwise fun a b => a.id < b.id) :
    (byRank steps).Pairwise Precedes := by
  induction steps with
  | nil => exact List.Pairwise.nil
  | cons step rest ih =>
    obtain ⟨lowest, others⟩ := List.pairwise_cons.mp ascending
    exact insertByRank_precedes (ih others) fun other mem => lowest other ((byRank_perm rest).mem_iff.mp mem)

end Step

/-! What has been written. -/

inductive Writing where
  | chain (now : Timestamp) (drafts : List Draft)
  | batch (batch : Batch)

def Draft.numberedFrom (first : StepId) (now : Timestamp) (drafts : List Draft) : List Step :=
  (drafts.zipIdx first).map fun entry => ChainStore.numbered now entry.2 entry.1

/-- An account of what was written, with no store: how many steps there are, and the states in which steps
were created or committed, one after the other. -/
structure Chronicle where
  count : Nat
  versions : List Step

namespace Chronicle

def empty : Chronicle := ⟨0, []⟩

/-- Steps are numbered on from the last one. A batch goes into the account if every step that it updates
was created before. -/
def note (chronicle : Chronicle) : Writing → Chronicle
  | .chain now drafts =>
    ⟨chronicle.count + drafts.length, chronicle.versions ++ Draft.numberedFrom (chronicle.count + 1) now drafts⟩
  | .batch batch =>
    if ∀ update ∈ batch.updates, 1 ≤ update.id ∧ update.id ≤ chronicle.count then
      { chronicle with versions := chronicle.versions ++ batch.updates }
    else chronicle

def latest (chronicle : Chronicle) (id : StepId) : Option Step := Keyed.last (·.id) chronicle.versions id

end Chronicle

/-! A store against the account. -/

namespace ChainStore

variable {store : ChainStore}

theorem create_numbers (now : Timestamp) (drafts : List Draft) (store : ChainStore) :
    (store.create now drafts).1 = Draft.numberedFrom (store.lastId + 1) now drafts ∧
      (store.create now drafts).2.lastId = store.lastId + drafts.length := by
  induction drafts generalizing store with
  | nil => exact ⟨rfl, rfl⟩
  | cons draft rest ih =>
    obtain ⟨steps, lastId⟩ := ih (store.add (numbered now (store.lastId + 1) draft))
    constructor
    · change _ :: (create _ now rest).1 = _
      rw [steps, Draft.numberedFrom, Draft.numberedFrom, List.zipIdx_cons, List.map_cons]
      rfl
    · change (create _ now rest).2.lastId = _
      rw [lastId, List.length_cons, Nat.add_comm rest.length, ← Nat.add_assoc]
      rfl

theorem find?_create (now : Timestamp) (drafts : List Draft) (store : ChainStore) (id : StepId) :
    (store.create now drafts).2.find? id = (Keyed.last (·.id) (store.create now drafts).1 id).or (store.find? id) := by
  induction drafts generalizing store with
  | nil => rfl
  | cons draft rest ih =>
    let step := numbered now (store.lastId + 1) draft
    -- A new step is found like one that was updated.
    have one : (store.add step).find? id = (Keyed.last (·.id) [step] id).or (store.find? id) :=
      find?_updates [step] store id
    change ((store.add step).create now rest).2.find? id =
      (Keyed.last _ (step :: ((store.add step).create now rest).1) id).or _
    rw [ih, one, ← Option.or_assoc, ← Keyed.last_append, List.singleton_append]

theorem map_id_numberedFrom (first : StepId) (now : Timestamp) (drafts : List Draft) :
    (Draft.numberedFrom first now drafts).map (·.id) = List.range' first drafts.length := by
  rw [Draft.numberedFrom, List.map_map]
  exact List.zipIdx_map_snd ..

theorem updates_keep_ids {updates : List Step} (sound : store.Sound)
    (known : ∀ update ∈ updates, update.id ∈ store.allSteps.map (·.id)) :
    (updates.foldl update store).Sound ∧
      (updates.foldl update store).allSteps.map (·.id) = store.allSteps.map (·.id) := by
  induction updates generalizing store with
  | nil => exact ⟨sound, rfl⟩
  | cons first rest ih =>
    obtain ⟨knownFirst, knownRest⟩ := List.forall_mem_cons.mp known
    obtain ⟨step, mem, same⟩ := List.mem_map.mp knownFirst
    have ids : (store.update first).allSteps.map (·.id) = store.allSteps.map (·.id) := by
      rw [update_allSteps sound mem same.symm, List.map_map]
      refine List.map_congr_left fun other _ => ?_
      simp only [Function.comp_apply, replace]
      split
      next named => exact named.symm
      next => rfl
    obtain ⟨soundAfter, idsAfter⟩ := ih (update_sound sound mem same.symm) fun update later => ids ▸ knownRest update later
    exact ⟨soundAfter, idsAfter.trans ids⟩

theorem commit_ok_iff (batch : Batch) :
    (∃ after, store.commit batch = .ok after) ↔ ∀ update ∈ batch.updates, store.find? update.id ≠ none := by
  simp only [commit_eq_ok_iff, exists_and_left, exists_eq, and_true]

/-- A store that holds what the account says: the newest state of each step, and no more steps. -/
structure Recorded (store : ChainStore) (chronicle : Chronicle) : Prop where
  sound : store.Sound
  lastId : store.lastId = chronicle.count
  ids : store.allSteps.map (·.id) = List.range' 1 chronicle.count
  latest : ∀ id, store.find? id = chronicle.latest id

namespace Recorded

variable {chronicle : Chronicle}

theorem empty : Recorded .empty .empty := ⟨empty_regular.sound, rfl, rfl, fun _ => rfl⟩

theorem mem_ids_iff (recorded : store.Recorded chronicle) (id : StepId) :
    id ∈ store.allSteps.map (·.id) ↔ 1 ≤ id ∧ id ≤ chronicle.count := by
  rw [recorded.ids, List.mem_range'_1, Nat.one_add, Nat.lt_succ_iff]

theorem stored_iff (recorded : store.Recorded chronicle) (id : StepId) :
    store.find? id ≠ none ↔ 1 ≤ id ∧ id ≤ chronicle.count := by
  rw [← recorded.mem_ids_iff, List.mem_map, Option.ne_none_iff_exists']
  simp only [recorded.sound.find?_eq_some_iff]

theorem create (recorded : store.Recorded chronicle) (now : Timestamp) (drafts : List Draft) :
    (store.create now drafts).2.Recorded (chronicle.note (.chain now drafts)) := by
  obtain ⟨steps, lastId⟩ := create_numbers now drafts store
  obtain ⟨sound, listing⟩ := create_appends now drafts recorded.sound
  rw [recorded.lastId] at steps lastId
  refine ⟨sound, lastId, ?_, fun id => ?_⟩
  · rw [listing, List.map_append, recorded.ids, steps, map_id_numberedFrom, Nat.add_comm]
    exact List.range'_append_1
  · rw [find?_create, recorded.latest, steps]
    exact (Keyed.last_append ..).symm

theorem commit {batch : Batch} {after : ChainStore} (recorded : store.Recorded chronicle)
    (taken : store.commit batch = .ok after) : after.Recorded (chronicle.note (.batch batch)) := by
  obtain ⟨stored, rfl⟩ := commit_eq_ok_iff.mp taken
  have created : ∀ update ∈ batch.updates, 1 ≤ update.id ∧ update.id ≤ chronicle.count := fun update listed =>
    (recorded.stored_iff update.id).mp (stored update listed)
  obtain ⟨sound, ids⟩ := updates_keep_ids recorded.sound fun update listed =>
    (recorded.mem_ids_iff update.id).mpr (created update listed)
  rw [Chronicle.note, if_pos created]
  refine ⟨⟨sound.named, sound.given⟩, (updates_keep _ _).2.trans recorded.lastId, ids.trans recorded.ids, fun id => ?_⟩
  change (batch.updates.foldl update store).find? id = _
  rw [find?_updates, recorded.latest]
  exact (Keyed.last_append ..).symm

theorem refused {batch : Batch} {error : CommandError} (recorded : store.Recorded chronicle)
    (refused : store.commit batch = .error error) : chronicle.note (.batch batch) = chronicle := by
  refine if_neg fun created => ?_
  obtain ⟨after, taken⟩ := (commit_ok_iff batch).mpr fun update listed =>
    (recorded.stored_iff update.id).mpr (created update listed)
  cases refused.symm.trans taken

end Recorded

/-! What the store answers. -/

variable {chronicle : Chronicle}

def pendingOf (store : ChainStore) (approver : ApproverId) : List Step :=
  store.allSteps.filter fun step => step.status == .pending && step.approver == some approver

theorem Recorded.latest_of_mem (recorded : store.Recorded chronicle) {step : Step} (mem : step ∈ store.allSteps) :
    chronicle.latest step.id = some step := by
  rw [← recorded.latest]
  exact (recorded.sound.find?_eq_some_iff ..).mpr ⟨mem, rfl⟩

theorem Recorded.listed (recorded : store.Recorded chronicle) :
    store.allSteps.map some = (List.range' 1 chronicle.count).map chronicle.latest := by
  rw [← recorded.ids, List.map_map]
  exact List.map_congr_left fun step mem => (recorded.latest_of_mem mem).symm

theorem Recorded.ascending (recorded : store.Recorded chronicle) : store.allSteps.Pairwise fun a b => a.id < b.id := by
  have ids : (store.allSteps.map (·.id)).Pairwise (· < ·) := by
    rw [recorded.ids]
    exact List.pairwise_lt_range'
  exact List.pairwise_map.mp ids

theorem Recorded.nodup (recorded : store.Recorded chronicle) : store.allSteps.Nodup :=
  recorded.ascending.imp fun {a b} (less : a.id < b.id) (same : a = b) => Nat.ne_of_lt less (congrArg Step.id same)

theorem Recorded.ranked (recorded : store.Recorded chronicle) (loan : LoanId) :
    (store.stepsOf loan).Pairwise Step.Precedes :=
  Step.byRank_precedes (recorded.ascending.filter _)

theorem Recorded.parted (recorded : store.Recorded chronicle) {loans : List LoanId} (distinct : loans.Nodup)
    (covered : ∀ step ∈ store.allSteps, step.loan ∈ loans) : (loans.flatMap store.stepsOf).Perm store.allSteps := by
  have each (loan : LoanId) : (store.stepsOf loan).Nodup :=
    (Step.byRank_perm _).nodup_iff.mpr (recorded.nodup.filter _)
  have apart : loans.Pairwise fun a b => (store.stepsOf a).Disjoint (store.stepsOf b) := by
    refine distinct.imp fun {a b} different step ofA ofB => different ?_
    exact (mem_stepsOf.mp ofA).2.symm.trans (mem_stepsOf.mp ofB).2
  have once : (loans.flatMap store.stepsOf).Nodup := List.nodup_flatMap.mpr ⟨fun loan _ => each loan, apart⟩
  refine (List.perm_ext_iff_of_nodup once recorded.nodup).mpr fun step => ?_
  rw [List.mem_flatMap]
  constructor
  · rintro ⟨loan, _, mem⟩
    exact (mem_stepsOf.mp mem).1
  · exact fun mem => ⟨step.loan, covered step mem, mem_stepsOf.mpr ⟨mem, rfl⟩⟩

theorem pendingLoads_get?_length (store : ChainStore) (approvers : List ApproverId) (approver : ApproverId) :
    (store.pendingLoads approvers).get? approver =
      if approver ∈ approvers ∧ store.pendingOf approver ≠ [] then some (store.pendingOf approver).length else none := by
  have count : store.pendingCount approver = (store.pendingOf approver).length := List.countP_eq_length_filter
  rw [pendingLoads_get?, count]
  simp only [ne_eq, List.length_eq_zero_iff]

end ChainStore

/-! Any writings, one after the other. -/

namespace Desk

def write : Writing → Work Desk Unit
  | .chain now drafts => discard (createChain now drafts)
  | .batch batch => commit batch

def afterWriting (desk : Desk) (writing : Writing) : Desk :=
  match write writing desk with
  | .ok _ after => after
  | .error _ after => after

/-- What the store of a desk answers when these things have been written. Steps are numbered on from the last
one, and a batch is taken if all its steps are there. Each step is found in its newest state, all of them
stand in one list by id, and every one of them in the list of its loan alone, by rank and then by id.
Loads are the numbers of pending steps of those who have any. -/
structure Reflects (desk : Desk) (chronicle : Chronicle) : Prop where
  creates : ∀ now drafts, ∃ after,
    createChain now drafts desk = .ok (Draft.numberedFrom (chronicle.count + 1) now drafts) after
  takes : ∀ batch, (∃ after, commit batch desk = .ok () after) ↔
    ∀ update ∈ batch.updates, 1 ≤ update.id ∧ update.id ≤ chronicle.count
  found : ∀ id, desk.chains.find? id = chronicle.latest id
  listed : desk.chains.allSteps.map some = (List.range' 1 chronicle.count).map chronicle.latest
  ids : desk.chains.allSteps.map (·.id) = List.range' 1 chronicle.count
  owned : ∀ loan step, step ∈ desk.chains.stepsOf loan ↔ step ∈ desk.chains.allSteps ∧ step.loan = loan
  parted : ∀ loans : List LoanId, loans.Nodup → (∀ step ∈ desk.chains.allSteps, step.loan ∈ loans) →
    (loans.flatMap desk.chains.stepsOf).Perm desk.chains.allSteps
  ranked : ∀ loan, (desk.chains.stepsOf loan).Pairwise Step.Precedes
  loads : ∀ approvers approver, (desk.chains.pendingLoads approvers).get? approver =
    if approver ∈ approvers ∧ desk.chains.pendingOf approver ≠ [] then some (desk.chains.pendingOf approver).length
    else none

variable {desk : Desk} {chronicle : Chronicle}

theorem commit_ok_iff (desk : Desk) (batch : Batch) :
    (∃ after, commit batch desk = .ok () after) ↔ ∃ after, desk.chains.commit batch = .ok after := by
  unfold commit
  cases desk.chains.commit batch <;> simp

theorem reflects_of_recorded (recorded : desk.chains.Recorded chronicle) : desk.Reflects chronicle where
  creates now drafts := by
    rw [← recorded.lastId, ← (ChainStore.create_numbers now drafts desk.chains).1]
    exact ⟨_, rfl⟩
  takes batch := by
    rw [commit_ok_iff, ChainStore.commit_ok_iff]
    simp only [recorded.stored_iff]
  found := recorded.latest
  listed := recorded.listed
  ids := recorded.ids
  owned _ _ := ChainStore.mem_stepsOf
  parted _ := recorded.parted
  ranked := recorded.ranked
  loads := desk.chains.pendingLoads_get?_length

theorem afterWriting_recorded (recorded : desk.chains.Recorded chronicle) (writing : Writing) :
    (desk.afterWriting writing).chains.Recorded (chronicle.note writing) := by
  cases writing with
  | chain now drafts => exact recorded.create now drafts
  | batch batch =>
    cases ended : desk.chains.commit batch with
    | ok after =>
      have taken : desk.afterWriting (.batch batch) = { desk with chains := after } := by
        simp only [afterWriting, write, commit_ok ended]
      rw [taken]
      exact recorded.commit ended
    | error error =>
      have refused : desk.afterWriting (.batch batch) = desk := by
        simp only [afterWriting, write, commit_error ended]
      rw [refused, recorded.refused ended]
      exact recorded

theorem writings_recorded (writings : List Writing) (recorded : desk.chains.Recorded chronicle) :
    (writings.foldl afterWriting desk).chains.Recorded (writings.foldl Chronicle.note chronicle) := by
  induction writings generalizing desk chronicle with
  | nil => exact recorded
  | cons writing rest ih => exact ih (afterWriting_recorded recorded writing)

/-- Nothing that is written is lost, and nothing is there twice, whatever is written and whatever is refused. -/
theorem writings_reflected (ledger : Ledger) (directory : Directory) (writings : List Writing) :
    (writings.foldl afterWriting ⟨.empty, ledger, directory⟩).Reflects (writings.foldl Chronicle.note .empty) :=
  reflects_of_recorded (writings_recorded writings .empty)

end Desk

end Countersign
