import Countersign.ChainStore
import Countersign.Directory
import Countersign.Proofs.TableListing
import Mathlib.Data.Prod.Lex

/-!
Whom a step is given to. The loads that are looked up are the numbers of pending steps in the store,
without those who have none, so that nobody is listed while nobody has work. Whoever is picked has the
fewest pending steps of all who could be; of several it is the one with the lowest id, or the first on
the list while nobody has any.
-/

namespace Countersign

namespace ChainStore

variable (store : ChainStore)

theorem pendingLoads_get? (approvers : List ApproverId) (approver : ApproverId) :
    (store.pendingLoads approvers).get? approver =
      if approver ∈ approvers ∧ store.pendingCount approver ≠ 0 then some (store.pendingCount approver) else none := by
  have folded (loads : Loads) : (approvers.foldl (fun loads approver =>
      if store.pendingCount approver = 0 then loads else loads.insert approver (store.pendingCount approver))
      loads).get? approver =
        if approver ∈ approvers ∧ store.pendingCount approver ≠ 0 then some (store.pendingCount approver)
        else loads.get? approver := by
    induction approvers generalizing loads with
    | nil => simp
    | cons first rest ih =>
      rw [List.foldl_cons, ih]
      by_cases same : approver = first
      · subst same
        by_cases idle : store.pendingCount approver = 0 <;> simp [idle]
      · by_cases idle : store.pendingCount first = 0 <;> simp [idle, same]
  exact folded .empty

theorem pendingLoads_isEmpty (approvers : List ApproverId) :
    (store.pendingLoads approvers).rows.isEmpty = true ↔ ∀ approver ∈ approvers, store.pendingCount approver = 0 := by
  rw [List.isEmpty_iff]
  constructor
  · intro empty approver mem
    have listed := store.pendingLoads_get? approvers approver
    rw [Table.get?, empty] at listed
    by_contra busy
    rw [if_pos ⟨mem, busy⟩] at listed
    cases listed
  · intro idle
    rw [List.eq_nil_iff_forall_not_mem]
    intro row mem
    have listed := (Table.get?_eq_some_iff (store.pendingLoads approvers) row.1 row.2).mpr mem
    rw [pendingLoads_get?] at listed
    split at listed
    next busy => exact busy.2 (idle row.1 busy.1)
    next => cases listed

end ChainStore

namespace Approver

def turn (loads : Loads) (approver : Approver) : Nat ×ₗ Nat := toLex (approver.load loads, approver.id)

theorem precedes_iff (loads : Loads) (a b : Approver) : a.precedes loads b = true ↔ a.turn loads < b.turn loads := by
  simp [precedes, turn, Prod.Lex.toLex_lt_toLex]

theorem leastLoaded_foremost (loads : Loads) (best : Approver) (rest : List Approver) :
    leastLoaded loads best rest ∈ best :: rest ∧
      ∀ other ∈ best :: rest, (leastLoaded loads best rest).turn loads ≤ other.turn loads := by
  induction rest generalizing best with
  | nil =>
    refine ⟨List.mem_cons_self, fun other mem => ?_⟩
    obtain rfl := List.mem_singleton.mp mem
    exact le_refl _
  | cons next rest ih =>
    rw [leastLoaded]
    obtain ⟨mem, earliest⟩ := ih (if next.precedes loads best then next else best)
    have leader := earliest _ List.mem_cons_self
    by_cases ahead : next.precedes loads best = true
    · rw [if_pos ahead] at mem earliest leader ⊢
      have behind := le_of_lt ((precedes_iff ..).mp ahead)
      refine ⟨List.mem_cons_of_mem _ mem, fun other listed => ?_⟩
      rcases List.mem_cons.mp listed with rfl | later
      · exact leader.trans behind
      · exact earliest other later
    · rw [if_neg ahead] at mem earliest leader ⊢
      have behind := le_of_not_gt fun less => ahead ((precedes_iff ..).mpr less)
      constructor
      · rcases List.mem_cons.mp mem with same | later
        · exact List.mem_cons.mpr (Or.inl same)
        · exact List.mem_cons_of_mem _ (List.mem_cons_of_mem _ later)
      · intro other listed
        rcases List.mem_cons.mp listed with rfl | later
        · exact leader
        · rcases List.mem_cons.mp later with rfl | last
          · exact leader.trans behind
          · exact earliest other (List.mem_cons_of_mem _ last)

/-- Who of several is given a step: one with the fewest pending steps. Of those it is the one with the
lowest id, unless nobody has a pending step, when it is the first of all. -/
structure Foremost (store : ChainStore) (candidates : List Approver) (chosen : Approver) : Prop where
  mem : chosen ∈ candidates
  least : ∀ other ∈ candidates, store.pendingCount chosen.id ≤ store.pendingCount other.id
  lowest : (∃ other ∈ candidates, store.pendingCount other.id ≠ 0) →
    ∀ other ∈ candidates, store.pendingCount other.id = store.pendingCount chosen.id → chosen.id ≤ other.id
  first : (∀ other ∈ candidates, store.pendingCount other.id = 0) → candidates.head? = some chosen

theorem load_pendingLoads (store : ChainStore) {candidates : List Approver} {approver : Approver}
    (mem : approver ∈ candidates) :
    approver.load (store.pendingLoads (candidates.map (·.id))) = store.pendingCount approver.id := by
  have listed : approver.id ∈ candidates.map (·.id) := List.mem_map_of_mem mem
  rw [load, ChainStore.pendingLoads_get?]
  by_cases idle : store.pendingCount approver.id = 0
  · simp [idle]
  · rw [if_pos ⟨listed, idle⟩, Option.getD_some]

theorem pick_foremost (store : ChainStore) (candidates : List Approver) :
    match pick (store.pendingLoads (candidates.map (·.id))) candidates with
    | none => candidates = []
    | some chosen => Foremost store candidates chosen := by
  cases candidates with
  | nil => rfl
  | cons best rest =>
    generalize listed : best :: rest = candidates
    have idle_iff := store.pendingLoads_isEmpty (candidates.map (·.id))
    have loaded {approver : Approver} (mem : approver ∈ candidates) := load_pendingLoads store mem
    generalize store.pendingLoads (candidates.map (·.id)) = loads at idle_iff loaded ⊢
    rw [← listed, pick, listed]
    by_cases idle : loads.rows.isEmpty = true
    · have none_busy : ∀ other ∈ candidates, store.pendingCount other.id = 0 := fun other mem =>
        idle_iff.mp idle other.id (List.mem_map_of_mem mem)
      have here : best ∈ candidates := listed ▸ List.mem_cons_self
      rw [if_pos idle]
      refine ⟨here, fun other mem => ?_, fun busy => ?_, fun _ => listed ▸ rfl⟩
      · rw [none_busy best here]
        exact Nat.zero_le _
      · obtain ⟨other, mem, busy⟩ := busy
        exact absurd (none_busy other mem) busy
    · obtain ⟨mem, earliest⟩ := leastLoaded_foremost loads best rest
      rw [listed] at mem earliest
      rw [if_neg idle]
      have ahead : ∀ other ∈ candidates, store.pendingCount (leastLoaded loads best rest).id <
          store.pendingCount other.id ∨ store.pendingCount (leastLoaded loads best rest).id =
            store.pendingCount other.id ∧ (leastLoaded loads best rest).id ≤ other.id := by
        intro other otherMem
        have earlier := earliest other otherMem
        rwa [turn, turn, Prod.Lex.toLex_le_toLex, loaded mem, loaded otherMem] at earlier
      refine ⟨mem, fun other otherMem => ?_, fun _ other otherMem same => ?_, fun none_busy => ?_⟩
      · exact (ahead other otherMem).elim Nat.le_of_lt fun tie => Nat.le_of_eq tie.1
      · exact ((ahead other otherMem).resolve_left fun fewer => Nat.ne_of_gt fewer same).2
      · refine absurd (idle_iff.mpr fun id listed => ?_) idle
        obtain ⟨other, otherMem, rfl⟩ := List.mem_map.mp listed
        exact none_busy other otherMem

end Approver

end Countersign
