import Countersign.Table

/-!
A table as the list of its rows: a look-up finds a row or there is none, a value put at a
known key takes its place, and one put above all keys comes last.
-/

namespace Countersign.Table

variable {α : Type}

theorem mem_of_lookup {key : Nat} {value : α} {rows : List (Nat × α)} (found : lookup key rows = some value) :
    (key, value) ∈ rows := by
  induction rows with
  | nil => cases found
  | cons head rest ih =>
    obtain ⟨k, v⟩ := head
    unfold lookup at found
    by_cases same : key = k
    · rw [if_pos same] at found
      cases found
      exact same ▸ List.mem_cons_self
    · rw [if_neg same] at found
      exact List.mem_cons_of_mem _ (ih found)

theorem lookup_of_mem {key : Nat} {value : α} {rows : List (Nat × α)}
    (ascending : rows.Pairwise (fun a b => a.1 < b.1)) (mem : (key, value) ∈ rows) : lookup key rows = some value := by
  induction rows with
  | nil => cases mem
  | cons head rest ih =>
    obtain ⟨k, v⟩ := head
    obtain ⟨above, tail⟩ := List.pairwise_cons.mp ascending
    unfold lookup
    rcases List.mem_cons.mp mem with first | later
    · cases first
      rw [if_pos rfl]
    · have higher := above _ later
      rw [if_neg (Nat.ne_of_gt higher)]
      exact ih tail later

theorem get?_eq_some_iff (table : Table α) (key : Nat) (value : α) :
    table.get? key = some value ↔ (key, value) ∈ table.rows :=
  ⟨mem_of_lookup, lookup_of_mem table.ascending⟩

theorem mem_values_iff (table : Table α) (value : α) : value ∈ table.values ↔ ∃ key, table.get? key = some value := by
  unfold values
  simp only [List.mem_map, get?_eq_some_iff, Prod.exists, exists_eq_right]

theorem place_of_lookup {key : Nat} {old : α} (value : α) {rows : List (Nat × α)}
    (ascending : rows.Pairwise (fun a b => a.1 < b.1)) (found : lookup key rows = some old) :
    place key value rows = rows.map fun row => if row.1 = key then (key, value) else row := by
  induction rows with
  | nil => cases found
  | cons head rest ih =>
    obtain ⟨k, v⟩ := head
    obtain ⟨above, tail⟩ := List.pairwise_cons.mp ascending
    unfold lookup at found
    unfold place
    by_cases same : key = k
    · subst same
      have others : rest.map (fun row => if row.1 = key then (key, value) else row) = rest.map id :=
        List.map_congr_left fun row mem => if_neg (Nat.ne_of_gt (above row mem))
      rw [if_neg (Nat.lt_irrefl key), if_pos rfl, List.map_cons, others, List.map_id, if_pos rfl]
    · rw [if_neg same] at found
      have higher : k < key := above _ (mem_of_lookup found)
      rw [if_neg (Nat.lt_asymm higher), if_neg same, List.map_cons, ih tail found, if_neg (Ne.symm same)]

theorem place_of_above {key : Nat} (value : α) {rows : List (Nat × α)} (above : ∀ row ∈ rows, row.1 < key) :
    place key value rows = rows ++ [(key, value)] := by
  induction rows with
  | nil => rfl
  | cons head rest ih =>
    obtain ⟨k, v⟩ := head
    have lower : k < key := above _ List.mem_cons_self
    unfold place
    rw [if_neg (Nat.lt_asymm lower), if_neg (Nat.ne_of_gt lower),
      ih fun row mem => above row (List.mem_cons_of_mem _ mem), List.cons_append]

theorem values_insert_of_above {key : Nat} (value : α) {table : Table α} (above : ∀ row ∈ table.rows, row.1 < key) :
    (table.insert key value).values = table.values ++ [value] := by
  change (place key value table.rows).map (·.2) = _
  rw [place_of_above value above, List.map_append]
  rfl

theorem values_insert_of_get? {table : Table α} {key : Nat} {old : α} (value : α) (number : α → Nat)
    (named : ∀ row ∈ table.rows, number row.2 = row.1) (found : table.get? key = some old) :
    (table.insert key value).values = table.values.map fun known => if number known = key then value else known := by
  change (place key value table.rows).map (·.2) = (table.rows.map (·.2)).map _
  rw [place_of_lookup value table.ascending found, List.map_map, List.map_map]
  apply List.map_congr_left
  intro row mem
  simp only [Function.comp_apply, named row mem]
  split <;> rfl

theorem place_perm {key : Nat} (value : α) {rows : List (Nat × α)} (new : lookup key rows = none) :
    (place key value rows).Perm ((key, value) :: rows) := by
  induction rows with
  | nil => exact .refl _
  | cons head rest ih =>
    obtain ⟨k, v⟩ := head
    unfold lookup at new
    unfold place
    by_cases same : key = k
    · rw [if_pos same] at new
      cases new
    · rw [if_neg same] at new
      by_cases low : key < k
      · rw [if_pos low]
      · rw [if_neg low, if_neg same]
        exact ((ih new).cons _).trans (.swap ..)

theorem values_insert_perm {table : Table α} {key : Nat} (value : α) (new : table.get? key = none) :
    (table.insert key value).values.Perm (value :: table.values) :=
  (place_perm value new).map Prod.snd

theorem ext_rows {a b : List (Nat × α)} (ascendingA : a.Pairwise (fun a b => a.1 < b.1))
    (ascendingB : b.Pairwise (fun a b => a.1 < b.1)) (same : ∀ key, lookup key a = lookup key b) : a = b := by
  refine List.Perm.eq_of_pairwise ?_ ascendingA ascendingB ?_
  · exact fun x y _ _ less greater => absurd greater (Nat.lt_asymm less)
  · have distinct {rows : List (Nat × α)} (ascending : rows.Pairwise (fun a b => a.1 < b.1)) : rows.Nodup :=
      ascending.imp fun {a b} (less : a.1 < b.1) => fun equal : a = b => Nat.lt_irrefl _ (equal ▸ less)
    refine (List.perm_ext_iff_of_nodup (distinct ascendingA) (distinct ascendingB)).mpr fun ⟨key, value⟩ => ?_
    constructor
    · exact fun mem => mem_of_lookup ((same key).symm.trans (lookup_of_mem ascendingA mem))
    · exact fun mem => mem_of_lookup ((same key).trans (lookup_of_mem ascendingB mem))

theorem ext_get? {a b : Table α} (same : ∀ key, a.get? key = b.get? key) : a = b := by
  obtain ⟨rowsA, ascendingA⟩ := a
  obtain ⟨rowsB, ascendingB⟩ := b
  cases ext_rows ascendingA ascendingB same
  rfl

theorem erase_of_none {table : Table α} {key : Nat} (gone : table.get? key = none) : table.erase key = table := by
  apply ext_get?
  intro other
  rw [get?_erase]
  split
  next same => rw [same, gone]
  next => rfl

theorem erase_insert_self {table : Table α} {key : Nat} (new : table.get? key = none) (value : α) :
    (table.insert key value).erase key = table := by
  apply ext_get?
  intro other
  rw [get?_erase, get?_insert]
  by_cases same : other = key
  · rw [if_pos same, same, new]
  · rw [if_neg same, if_neg same]

theorem erase_insert_of_ne (table : Table α) {new old : Nat} (apart : new ≠ old) (value : α) :
    (table.insert new value).erase old = (table.erase old).insert new value := by
  apply ext_get?
  intro other
  rw [get?_erase, get?_insert, get?_insert, get?_erase]
  by_cases isNew : other = new
  · rw [if_pos isNew, if_pos isNew, if_neg (isNew ▸ apart)]
  · rw [if_neg isNew, if_neg isNew]

theorem values_erase_perm {table : Table α} {key : Nat} {value : α} (found : table.get? key = some value) :
    table.values.Perm (value :: (table.erase key).values) := by
  have back : (table.erase key).insert key value = table := by
    apply ext_get?
    intro other
    rw [get?_insert, get?_erase]
    by_cases same : other = key
    · rw [if_pos same, same, found]
    · rw [if_neg same, if_neg same]
  have gone : (table.erase key).get? key = none := by
    rw [get?_erase, if_pos rfl]
  have listed := values_insert_perm value gone
  rwa [back] at listed

theorem map_values {β : Type} (f : α → β) {a b : Table α} (same : ∀ key, (b.get? key).map f = (a.get? key).map f) :
    b.values.map f = a.values.map f := by
  have lookup_map (key : Nat) (rows : List (Nat × α)) :
      lookup key (rows.map fun row => (row.1, f row.2)) = (lookup key rows).map f := by
    induction rows with
    | nil => rfl
    | cons row rest ih =>
      change (if key = row.1 then _ else _) = Option.map f (if key = row.1 then _ else _)
      split
      · rfl
      · exact ih
  have rows : b.rows.map (fun row => (row.1, f row.2)) = a.rows.map (fun row => (row.1, f row.2)) := by
    refine ext_rows (List.pairwise_map.mpr b.ascending) (List.pairwise_map.mpr a.ascending) fun key => ?_
    rw [lookup_map, lookup_map]
    exact same key
  have values := congrArg (List.map Prod.snd) rows
  rw [List.map_map, List.map_map] at values
  unfold Table.values
  rw [List.map_map, List.map_map]
  exact values

end Countersign.Table
