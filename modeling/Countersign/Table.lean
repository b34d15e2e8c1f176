/-!
A table keeps one row per numeric key, in ascending order of the keys. The order
is part of the type, so a table is determined by what its keys look up, and a
listing of it needs no sorting.
-/

namespace Countersign

structure Table (α : Type) where
  rows : List (Nat × α)
  ascending : rows.Pairwise (fun a b => a.1 < b.1)
deriving DecidableEq

namespace Table

variable {α : Type}

def empty : Table α := ⟨[], List.Pairwise.nil⟩

instance : EmptyCollection (Table α) := ⟨empty⟩
instance : Inhabited (Table α) := ⟨empty⟩

def lookup (key : Nat) : List (Nat × α) → Option α
  | [] => none
  | (k, v) :: rest => if key = k then some v else lookup key rest

def place (key : Nat) (value : α) : List (Nat × α) → List (Nat × α)
  | [] => [(key, value)]
  | (k, v) :: rest =>
    if key < k then (key, value) :: (k, v) :: rest
    else if key = k then (key, value) :: rest
    else (k, v) :: place key value rest

theorem key_of_mem_place (key : Nat) (value : α) (rows : List (Nat × α)) (row : Nat × α)
    (mem : row ∈ place key value rows) : row = (key, value) ∨ row ∈ rows := by
  induction rows with
  | nil => simpa [place] using mem
  | cons head rest ih =>
    obtain ⟨k, v⟩ := head
    unfold place at mem
    split at mem
    · simpa using mem
    · split at mem
      · rcases List.mem_cons.1 mem with h | h
        · exact Or.inl h
        · exact Or.inr (List.mem_cons_of_mem _ h)
      · rcases List.mem_cons.1 mem with h | h
        · exact Or.inr (h ▸ List.mem_cons_self)
        · exact (ih h).imp id (List.mem_cons_of_mem _)

theorem place_ascending (key : Nat) (value : α) (rows : List (Nat × α))
    (ascending : rows.Pairwise (fun a b => a.1 < b.1)) :
    (place key value rows).Pairwise (fun a b => a.1 < b.1) := by
  induction rows with
  | nil => simp [place]
  | cons head rest ih =>
    obtain ⟨k, v⟩ := head
    obtain ⟨above, tail⟩ := List.pairwise_cons.1 ascending
    unfold place
    split
    · rename_i low
      refine List.pairwise_cons.2 ⟨fun row mem => ?_, ascending⟩
      rcases List.mem_cons.1 mem with h | h
      · subst h; exact low
      · exact Nat.lt_trans low (above row h)
    · split
      · rename_i _ same
        subst same
        exact List.pairwise_cons.2 ⟨above, tail⟩
      · rename_i low different
        refine List.pairwise_cons.2 ⟨fun row mem => ?_, ih tail⟩
        rcases key_of_mem_place key value rest row mem with h | h
        · subst h
          change k < key
          omega
        · exact above row h

theorem lookup_place (key other : Nat) (value : α) (rows : List (Nat × α)) :
    lookup other (place key value rows) = if other = key then some value else lookup other rows := by
  induction rows with
  | nil => simp [place, lookup]
  | cons head rest ih =>
    obtain ⟨k, v⟩ := head
    unfold place
    split
    · simp [lookup]
    · split
      · rename_i _ same
        subst same
        by_cases h : other = key <;> simp [lookup, h]
      · rename_i _ different
        by_cases h : other = k
        · subst h
          simp [lookup, Ne.symm different]
        · simp [lookup, h, ih]

def get? (table : Table α) (key : Nat) : Option α := lookup key table.rows

def contains (table : Table α) (key : Nat) : Bool := (table.get? key).isSome

def insert (table : Table α) (key : Nat) (value : α) : Table α :=
  ⟨place key value table.rows, place_ascending key value table.rows table.ascending⟩

def erase (table : Table α) (key : Nat) : Table α :=
  ⟨table.rows.filter (fun row => row.1 ≠ key), table.ascending.filter _⟩

def values (table : Table α) : List α := table.rows.map (·.2)

def keys (table : Table α) : List Nat := table.rows.map (·.1)

@[simp] theorem get?_empty (key : Nat) : (empty : Table α).get? key = none := rfl

@[simp] theorem get?_insert (table : Table α) (key other : Nat) (value : α) :
    (table.insert key value).get? other = if other = key then some value else table.get? other :=
  lookup_place key other value table.rows

theorem get?_insert_self (table : Table α) (key : Nat) (value : α) : (table.insert key value).get? key = some value := by
  rw [get?_insert, if_pos rfl]

theorem lookup_filter (key other : Nat) (rows : List (Nat × α)) :
    lookup other (rows.filter (fun row => row.1 ≠ key)) =
      if other = key then none else lookup other rows := by
  induction rows with
  | nil => simp [lookup]
  | cons head rest ih =>
    obtain ⟨k, v⟩ := head
    by_cases hk : k = key
    · subst hk
      by_cases h : other = k <;> simp_all [lookup]
    · by_cases h : other = key
      · subst h
        simp_all [lookup, Ne.symm hk]
      · by_cases same : other = k <;> simp_all [lookup]

@[simp] theorem get?_erase (table : Table α) (key other : Nat) :
    (table.erase key).get? other = if other = key then none else table.get? other :=
  lookup_filter key other table.rows

end Table

end Countersign
