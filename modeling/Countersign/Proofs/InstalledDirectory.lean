import Countersign.Proofs.ApprovalLevels
import Countersign.Proofs.KeyedList

/-!
The directory as a setup fills it. No two products of a setup that is installed have one id, and each
has its entries as template. Of the records of an approver the last one counts, and the approvers are
listed by where their first records stand.
-/

namespace Countersign

/-! Records of approvers. -/

namespace Approver

/-- The record that counts for an id. -/
def lastRecord (records : List Approver) (id : ApproverId) : Option Approver := (records.filter (·.id == id)).getLast?

def roster (records : List Approver) : List ApproverId := (records.map (·.id)).eraseDups

end Approver

namespace Directory

open Approver (lastRecord roster)

def registered (records : List Approver) : List Approver :=
  records.foldl (fun known next => register next known) []

theorem registered_append (records : List Approver) (next : Approver) :
    registered (records ++ [next]) = register next (registered records) := List.foldl_concat ..

theorem register_eq_put (next : Approver) (known : List Approver) : register next known = Keyed.put (·.id) next known := by
  induction known with
  | nil => rfl
  | cons first rest ih => rw [register, Keyed.put, ih]

theorem registered_eq_putAll (records : List Approver) : registered records = Keyed.putAll (·.id) records :=
  congrArg (List.foldl · [] records) (funext fun known => funext fun next => register_eq_put next known)

theorem find?_registered (records : List Approver) (id : ApproverId) :
    (registered records).find? (·.id == id) = lastRecord records id := by
  rw [registered_eq_putAll]
  exact Keyed.find?_putAll records id

theorem nodup_registered (records : List Approver) : ((registered records).map (·.id)).Nodup := by
  rw [registered_eq_putAll]
  exact Keyed.nodup_putAll records

/-- Each approver once, by the record that counts, where the first record stands. -/
theorem registered_eq (records : List Approver) : registered records = (roster records).filterMap (lastRecord records) :=
  (registered_eq_putAll records).trans (Keyed.putAll_eq records)

theorem addTemplate_approvers {before after : Directory} {template : Template}
    (added : before.addTemplate template = .ok after) : after.approvers = before.approvers := by
  unfold addTemplate at added
  split at added <;> cases added
  rfl

structure Files (products : List ProductSetup) (directory : Directory) : Prop where
  distinct : (products.map (·.id)).Nodup
  filed : ∀ product ∈ products, ∃ template, directory.template? product.id = some template ∧
    template.product = product.id ∧ template.entries = product.template
  others : ∀ id, id ∉ products.map (·.id) → directory.template? id = none

theorem Files.add {products : List ProductSetup} {product : ProductSetup} {before after : Directory} {template : Template}
    (files : Files products before) (accepted : Template.ofEntries product.id product.template = .ok template)
    (added : before.addTemplate template = .ok after) : Files (products ++ [product]) after := by
  have named : template.product = product.id := Template.ofEntries_product accepted
  unfold addTemplate at added
  rw [named] at added
  split at added
  · cases added
  next absent =>
    cases added
    have fresh : product.id ∉ products.map (·.id) := by
      intro listed
      obtain ⟨earlier, mem, same⟩ := List.mem_map.mp listed
      obtain ⟨known, found, _⟩ := files.filed earlier mem
      unfold template? at found
      simp [Table.contains, ← same, found] at absent
    have looked (id : ProductId) : template? { before with templates := before.templates.insert product.id template } id =
        if id = product.id then some template else before.template? id := Table.get?_insert ..
    constructor
    case distinct =>
      rw [List.map_append, List.map_singleton, ← List.concat_eq_append]
      exact files.distinct.concat fresh
    case filed =>
      intro listed mem
      rw [looked]
      rcases List.mem_append.mp mem with earlier | last
      · have different : listed.id ≠ product.id := fun same => fresh (same ▸ List.mem_map_of_mem earlier)
        rw [if_neg different]
        exact files.filed listed earlier
      · rw [List.mem_singleton.mp last, if_pos rfl]
        exact ⟨template, rfl, named, Template.ofEntries_entries accepted⟩
    case others =>
      intro id unlisted
      simp only [List.map_append, List.map_singleton, List.mem_append, List.mem_singleton, not_or] at unlisted
      rw [looked, if_neg unlisted.2]
      exact files.others id unlisted.1

end Directory

end Countersign
