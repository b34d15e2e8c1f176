import Countersign.Proofs.BuildEffect
import Countersign.Proofs.DecimalSum
import Countersign.Proofs.Installation
import Mathlib.Data.List.Basic

/-!
How the approvals that a loan needs depend on its principal. The levels of a sound template
are numbered by their place, so that a level of a chain stands for one entry and the chain
keeps their order. Covering a principal means covering every smaller one: a larger loan goes
past some of the levels of a smaller one, and past none besides.
-/

namespace Countersign

theorem Decimal.units_eq_zero (d : Decimal) : d.units = 0 ↔ d.isZero = true := by
  refine ⟨fun zero => ?_, units_of_isZero⟩
  rcases Int.mul_eq_zero.1 zero with nothing | power
  · exact (coefficient_eq_zero d).1 nothing
  · have := Digits.tenPow_pos (28 - d.scale)
    omega

namespace Threshold

theorem covers_iff (limit : Threshold) (principal : Decimal) :
    limit.covers principal = true ↔
      limit = .unbounded ∨ ∃ value, limit = .limit value ∧ (value.units = 0 ∨ principal ≤ value) := by
  cases limit with
  | unbounded => simp [covers]
  | limit value => simp [covers, Decimal.units_eq_zero]

theorem covers_smaller {limit : Threshold} {smaller larger : Decimal} (le : smaller ≤ larger)
    (covered : limit.covers larger = true) : limit.covers smaller = true := by
  rw [covers_iff] at covered ⊢
  rcases covered with none | ⟨value, figure, zero | above⟩
  · exact Or.inl none
  · exact Or.inr ⟨value, figure, Or.inl zero⟩
  · exact Or.inr ⟨value, figure, Or.inr (Int.le_trans le above)⟩

end Threshold

namespace Template

theorem ranks_of_faultless {product : ProductId} {position : Nat} {entries : List TemplateEntry}
    (sound : faultFrom product position entries = none) :
    entries.map (·.rank) = List.range' position entries.length := by
  induction entries generalizing position with
  | nil => rfl
  | cons entry rest ih =>
    unfold faultFrom at sound
    split at sound
    next => cases sound
    next placed =>
      split at sound
      next => cases sound
      next => rw [List.map_cons, ih sound, Decidable.not_not.1 placed, List.length_cons, List.range'_succ]

theorem ofEntries_entries {product : ProductId} {entries : List TemplateEntry} {template : Template}
    (accepted : ofEntries product entries = .ok template) : template.entries = entries := by
  unfold ofEntries at accepted
  split at accepted
  next =>
    cases accepted
    rfl
  next => cases accepted

theorem ofEntries_product {product : ProductId} {entries : List TemplateEntry} {template : Template}
    (accepted : ofEntries product entries = .ok template) : template.product = product := by
  unfold ofEntries at accepted
  split at accepted
  next =>
    cases accepted
    rfl
  next => cases accepted

theorem entries_ascend {product : ProductId} {entries : List TemplateEntry}
    (sound : faultFrom product 0 entries = none) : entries.Pairwise (·.rank < ·.rank) := by
  have counted : (entries.map (·.rank)).Pairwise (· < ·) := by
    rw [ranks_of_faultless sound]
    exact List.pairwise_lt_range'
  exact List.pairwise_map.1 counted

theorem entry_unique {product : ProductId} {entries : List TemplateEntry}
    (sound : faultFrom product 0 entries = none) {one other : TemplateEntry} (here : one ∈ entries)
    (there : other ∈ entries) (same : one.rank = other.rank) : one = other := by
  have distinct : (entries.map (·.rank)).Nodup := by
    rw [ranks_of_faultless sound]
    exact List.nodup_range'
  exact List.inj_on_of_nodup_map distinct here there same

end Template

def TemplateEntry.level (entry : TemplateEntry) : RoleId × Nat := (entry.role, entry.rank)

namespace ChainLink

def level (link : ChainLink) : RoleId × Nat := (link.role, link.templateRank)

theorem number_levels (rank : Nat) (entries : List TemplateEntry) :
    (number rank entries).map level = entries.map (·.level) := by
  induction entries generalizing rank with
  | nil => rfl
  | cons entry rest ih =>
    rw [number, List.map_cons, ih, List.map_cons]
    rfl

theorem chain_levels (principal : Decimal) (entries : List TemplateEntry) :
    (chain principal entries).map level = (entries.filter (·.limit.covers principal)).map (·.level) :=
  number_levels 0 _

theorem chain_ranks (principal : Decimal) (entries : List TemplateEntry) :
    (chain principal entries).map (·.rank) = List.range (chain principal entries).length := by
  rw [chain, number_ranks, number_length, List.range_eq_range']

theorem chain_templateRanks (principal : Decimal) (entries : List TemplateEntry) :
    (chain principal entries).map (·.templateRank) =
      (entries.filter (·.limit.covers principal)).map (·.rank) := by
  have levels := congrArg (List.map Prod.snd) (chain_levels principal entries)
  rw [List.map_map, List.map_map] at levels
  exact levels

theorem mem_chain_levels {principal : Decimal} {entries : List TemplateEntry} {level : RoleId × Nat} :
    level ∈ (chain principal entries).map ChainLink.level ↔
      ∃ entry ∈ entries, entry.limit.covers principal = true ∧ entry.level = level := by
  simp only [chain_levels, List.mem_map, List.mem_filter, and_assoc]

end ChainLink

/-- What the approvals of a loan come to: for a principal, which levels of a template have to
approve it and how they are numbered, and what is left of them for a larger one. -/
structure ApprovalPolicy (entries : List TemplateEntry) (principal larger : Decimal) : Prop where
  dense : (ChainLink.chain principal entries).map (·.rank) =
    List.range (ChainLink.chain principal entries).length
  ascending : ((ChainLink.chain principal entries).map (·.templateRank)).Pairwise (· < ·)
  /-- Nobody has to approve but by an entry of the template. -/
  founded : ∀ link ∈ ChainLink.chain principal entries, ∃ entry ∈ entries, link.level = entry.level
  required : ∀ entry ∈ entries, (∃ link ∈ ChainLink.chain principal entries, link.level = entry.level) ↔
    entry.limit = .unbounded ∨ ∃ value, entry.limit = .limit value ∧ (value.units = 0 ∨ principal ≤ value)
  thinned : ((ChainLink.chain larger entries).map ChainLink.level).Sublist
    ((ChainLink.chain principal entries).map ChainLink.level)

namespace ChainLink

theorem required_iff {product : ProductId} {entries : List TemplateEntry}
    (sound : Template.faultFrom product 0 entries = none) (principal : Decimal) {entry : TemplateEntry}
    (there : entry ∈ entries) :
    (∃ link ∈ chain principal entries, link.level = entry.level) ↔ entry.limit.covers principal = true := by
  rw [← List.mem_map, mem_chain_levels]
  constructor
  · rintro ⟨other, here, covered, same⟩
    rwa [Template.entry_unique sound there here (congrArg Prod.snd same).symm]
  · intro covered
    exact ⟨entry, there, covered, rfl⟩

theorem chain_thinned {smaller larger : Decimal} (le : smaller ≤ larger) (entries : List TemplateEntry) :
    ((chain larger entries).map level).Sublist ((chain smaller entries).map level) := by
  rw [chain_levels, chain_levels]
  exact (List.monotone_filter_right entries fun _ covered => Threshold.covers_smaller le covered).map _

end ChainLink

/-- For every list of entries that is accepted as a template: the approvals that a loan needs are
numbered from zero without gaps and keep the order of the template; a level has to approve just if
it has no limit, a limit of zero or one that the principal does not exceed; and a larger loan needs
some of the same approvals, in the same order, and no other. -/
theorem approval_policy {product : ProductId} {entries : List TemplateEntry} {template : Template}
    (accepted : Template.ofEntries product entries = .ok template) {principal larger : Decimal}
    (le : principal ≤ larger) :
    template.entries = entries ∧ ApprovalPolicy template.entries principal larger := by
  refine ⟨Template.ofEntries_entries accepted, ?_⟩
  constructor
  case dense => exact ChainLink.chain_ranks principal template.entries
  case ascending =>
    rw [ChainLink.chain_templateRanks, List.pairwise_map]
    exact (Template.entries_ascend template.sound).sublist List.filter_sublist
  case founded =>
    intro link listed
    obtain ⟨entry, there, -, same⟩ := ChainLink.mem_chain_levels.1 (List.mem_map_of_mem listed)
    exact ⟨entry, there, same.symm⟩
  case required =>
    intro entry there
    rw [ChainLink.required_iff template.sound principal there, Threshold.covers_iff]
  case thinned => exact ChainLink.chain_thinned le template.entries

def TemplateEntry.threeLevels : List TemplateEntry :=
  [⟨0, 10, .unbounded⟩, ⟨1, 20, .limit (.whole 50000 (by decide))⟩, ⟨2, 30, .unbounded⟩]

/-- A loan of eighty thousand goes past the level between, and the last level moves up. -/
theorem approval_policy_threeLevels :
    ∃ template, ∃ small large : Decimal,
      Template.ofEntries 7 TemplateEntry.threeLevels = .ok template ∧ small ≤ large ∧
      ApprovalPolicy template.entries small large ∧
      ChainLink.chain small template.entries = [⟨0, 10, 0⟩, ⟨1, 20, 1⟩, ⟨2, 30, 2⟩] ∧
      ChainLink.chain large template.entries = [⟨0, 10, 0⟩, ⟨1, 30, 2⟩] := by
  have accepted : Template.ofEntries 7 TemplateEntry.threeLevels =
      .ok ⟨7, TemplateEntry.threeLevels, rfl⟩ := rfl
  have le : Decimal.whole 20000 (by decide) ≤ Decimal.whole 80000 (by decide) := by decide
  exact ⟨_, _, _, accepted, le, (approval_policy accepted le).2, by decide, by decide⟩

end Countersign
