import Mathlib.Data.List.Induction
import Mathlib.Data.List.Nodup

/-!
Lists with one item for each key. An item that is put there takes the place of the one that has its
key, or it comes last. So the keys stand in the order in which they first came up, and each has the
item that came up last.
-/

namespace Countersign.Keyed

variable {α : Type} (key : α → Nat)

/-- Puts an item in the place of the first that has its key, or at the end. -/
def put (item : α) : List α → List α
  | [] => [item]
  | known :: rest => if key known = key item then item :: rest else known :: put item rest

def putAll (items : List α) : List α := items.foldl (fun known item => put key item known) []

def last (items : List α) (k : Nat) : Option α := (items.filter (key · == k)).getLast?

variable {key}

theorem map_put (item : α) (known : List α) :
    (put key item known).map key =
      if key item ∈ known.map key then known.map key else known.map key ++ [key item] := by
  induction known with
  | nil => simp [put]
  | cons first rest ih =>
    unfold put
    by_cases same : key first = key item
    · simp [same]
    · rw [if_neg same, List.map_cons, ih]
      by_cases later : key item ∈ rest.map key
      · simp [later]
      · simp [later, Ne.symm same]

theorem find?_put (item : α) (known : List α) (k : Nat) :
    (put key item known).find? (key · == k) = if key item = k then some item else known.find? (key · == k) := by
  induction known with
  | nil => by_cases own : key item = k <;> simp [put, own]
  | cons first rest ih =>
    unfold put
    by_cases same : key first = key item
    · by_cases own : key item = k <;> simp [same, own]
    · rw [if_neg same, List.find?_cons, List.find?_cons, ih]
      by_cases own : key item = k
      · have other : (key first == k) = false := by simpa [own] using same
        simp [own, other]
      · simp [own]

theorem putAll_append (items : List α) (next : α) : putAll key (items ++ [next]) = put key next (putAll key items) :=
  List.foldl_concat ..

theorem eraseDups_concat (keys : List Nat) (next : Nat) :
    (keys ++ [next]).eraseDups = if next ∈ keys then keys.eraseDups else keys.eraseDups ++ [next] := by
  rw [List.eraseDups_append]
  by_cases known : next ∈ keys
  · simp_all [List.removeAll]
  · simp_all [List.removeAll, List.eraseDups_cons]

theorem find?_eraseDups (test : Nat → Bool) (keys : List Nat) : keys.eraseDups.find? test = keys.find? test := by
  induction keys using List.reverseRecOn with
  | nil => rfl
  | append_singleton keys next ih =>
    rw [eraseDups_concat, List.find?_append]
    split
    next known =>
      rw [ih]
      cases found : keys.find? test with
      | some first => rfl
      | none => simp [List.find?_eq_none.mp found next known]
    next => rw [List.find?_append, ih]

theorem map_putAll (items : List α) : (putAll key items).map key = (items.map key).eraseDups := by
  induction items using List.reverseRecOn with
  | nil => rfl
  | append_singleton items next ih =>
    rw [putAll_append, map_put, ih, List.map_append, List.map_singleton, eraseDups_concat]
    simp only [List.mem_eraseDups]

theorem nodup_putAll (items : List α) : ((putAll key items).map key).Nodup := by
  induction items using List.reverseRecOn with
  | nil => exact List.nodup_nil
  | append_singleton items next ih =>
    rw [putAll_append, map_put]
    split
    · exact ih
    next fresh =>
      rw [← List.concat_eq_append]
      exact ih.concat fresh

theorem last_append (earlier later : List α) (k : Nat) :
    last key (earlier ++ later) k = (last key later k).or (last key earlier k) := by
  unfold last
  rw [List.filter_append, List.getLast?_append]

theorem last_singleton (item : α) (k : Nat) : last key [item] k = if key item = k then some item else none := by
  by_cases own : key item = k <;> simp [last, own]

theorem find?_putAll (items : List α) (k : Nat) : (putAll key items).find? (key · == k) = last key items k := by
  induction items using List.reverseRecOn with
  | nil => rfl
  | append_singleton items next ih =>
    rw [putAll_append, find?_put, ih, last_append, last_singleton]
    split <;> rfl

theorem last_eq_find? {items : List α} (distinct : (items.map key).Nodup) (k : Nat) :
    last key items k = items.find? (key · == k) := by
  induction items with
  | nil => rfl
  | cons first rest ih =>
    obtain ⟨fresh, others⟩ := List.nodup_cons.mp distinct
    rw [← List.singleton_append, last_append, ih others, last_singleton, List.singleton_append, List.find?_cons]
    by_cases own : key first = k
    · have none_later : rest.find? (key · == k) = none := by
        refine List.find?_eq_none.mpr fun item listed same => fresh ?_
        rw [own, ← beq_iff_eq.mp same]
        exact List.mem_map_of_mem listed
      rw [none_later, if_pos own, beq_iff_eq.mpr own, Option.none_or]
    · rw [if_neg own, beq_eq_false_iff_ne.mpr own, Option.or_none]

theorem last_putAll (items : List α) (k : Nat) : last key (putAll key items) k = last key items k := by
  rw [last_eq_find? (nodup_putAll items), find?_putAll]

theorem filterMap_find? {known : List α} (distinct : (known.map key).Nodup) :
    (known.map key).filterMap (fun k => known.find? (key · == k)) = known := by
  have found : ∀ item ∈ known, known.find? (key · == key item) = some item := by
    intro item listed
    cases is : known.find? (key · == key item) with
    | none => simpa using List.find?_eq_none.mp is item listed
    | some other =>
      have same : key other = key item := by simpa using List.find?_some is
      rw [List.inj_on_of_nodup_map distinct (List.mem_of_find?_eq_some is) listed same]
  rw [List.filterMap_map]
  exact (List.filterMap_congr found).trans List.filterMap_some

theorem putAll_eq (items : List α) : putAll key items = (items.map key).eraseDups.filterMap (last key items) := by
  calc
    putAll key items = ((putAll key items).map key).filterMap fun k => (putAll key items).find? (key · == k) :=
      (filterMap_find? (nodup_putAll items)).symm
    _ = (items.map key).eraseDups.filterMap (last key items) := by
      rw [map_putAll]
      exact congrArg ((items.map key).eraseDups.filterMap ·) (funext (find?_putAll items))

end Countersign.Keyed
