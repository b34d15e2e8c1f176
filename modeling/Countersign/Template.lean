import Countersign.Identifier
import Countersign.Money

/-!
The template of a product lists its authority levels, numbered from zero without
gaps, none with a negative limit. The chain that a loan has to pass keeps the
levels whose limit covers the principal, in their order, and numbers them anew.
-/

namespace Countersign

structure TemplateEntry where
  rank : Nat
  role : RoleId
  limit : Threshold
deriving DecidableEq

namespace Template

inductive Fault where
  | rankGap (product : ProductId) (rank position : Nat)
  | negativeLimit (product : ProductId) (rank : Nat)
deriving DecidableEq

def Fault.message : Fault → String
  | .rankGap product rank position =>
    s!"Template for product {product} has rank {rank} at position {position}; " ++
      "ranks must be contiguous from 0"
  | .negativeLimit product rank =>
    s!"Template for product {product} has a negative limit at rank {rank}"

def faultFrom (product : ProductId) (position : Nat) : List TemplateEntry → Option Fault
  | [] => none
  | entry :: rest =>
    if entry.rank ≠ position then some (.rankGap product entry.rank position)
    else if entry.limit.isNegative then some (.negativeLimit product entry.rank)
    else faultFrom product (position + 1) rest

end Template

structure Template where
  product : ProductId
  entries : List TemplateEntry
  sound : Template.faultFrom product 0 entries = none
deriving DecidableEq

namespace Template

def ofEntries (product : ProductId) (entries : List TemplateEntry) : Except Fault Template :=
  match h : faultFrom product 0 entries with
  | none => .ok ⟨product, entries, h⟩
  | some fault => .error fault

end Template

structure ChainLink where
  rank : Nat
  role : RoleId
  templateRank : Nat
deriving DecidableEq

namespace ChainLink

def number (rank : Nat) : List TemplateEntry → List ChainLink
  | [] => []
  | entry :: rest => ⟨rank, entry.role, entry.rank⟩ :: number (rank + 1) rest

/-- The approvals that a principal needs; none means that no level covers it. -/
def chain (principal : Decimal) (entries : List TemplateEntry) : List ChainLink :=
  number 0 (entries.filter (·.limit.covers principal))

end ChainLink

end Countersign
