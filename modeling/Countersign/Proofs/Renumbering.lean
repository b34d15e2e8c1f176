import Countersign.Proofs.Abreast
import Countersign.Proofs.TableListing

/-!
Transactions under other numbers. A ledger that has given out more numbers in between gives later
ones to the same transactions; what is booked under them is the same, and comes in the same order.
-/

namespace Countersign

/-- Other numbers for transactions, in the same order. -/
structure Renumbering where
  number : Nat → Nat
  rising : ∀ a b, a < b → number a < number b

namespace Renumbering

/-- Numbers up to the last one that was given out stay; `extra` more are given out before the next. -/
def past (last extra : Nat) : Renumbering where
  number transaction := if transaction ≤ last then transaction else transaction + extra
  rising a b lower := by
    split <;> split <;> omega

theorem past_of_le {last transaction : TransactionId} (extra : Nat) (given : transaction ≤ last) :
    (past last extra).number transaction = transaction := if_pos given

theorem past_of_lt {last transaction : TransactionId} (extra : Nat) (new : last < transaction) :
    (past last extra).number transaction = transaction + extra := if_neg (Nat.not_le_of_lt new)

variable (shift : Renumbering)

theorem number_lt {a b : TransactionId} : shift.number a < shift.number b ↔ a < b := by
  refine ⟨fun lower => ?_, shift.rising a b⟩
  rcases Nat.lt_trichotomy a b with isLower | rfl | higher
  · exact isLower
  · exact absurd lower (Nat.lt_irrefl _)
  · exact absurd lower (Nat.lt_asymm (shift.rising b a higher))

theorem number_inj {a b : TransactionId} : shift.number a = shift.number b ↔ a = b := by
  refine ⟨fun same => ?_, congrArg _⟩
  rcases Nat.lt_trichotomy a b with lower | equal | higher
  · exact absurd (shift.rising a b lower) (same ▸ Nat.lt_irrefl _)
  · exact equal
  · exact absurd (shift.rising b a higher) (same ▸ Nat.lt_irrefl _)

end Renumbering

namespace Table

variable {α : Type} (shift : Renumbering)

def rekeyed (table : Table α) : Table α where
  rows := table.rows.map fun row => (shift.number row.1, row.2)
  ascending := by
    rw [List.pairwise_map]
    exact table.ascending.imp fun lower => shift.rising _ _ lower

theorem lookup_rekeyed (key : Nat) (rows : List (Nat × α)) :
    lookup (shift.number key) (rows.map fun row => (shift.number row.1, row.2)) = lookup key rows := by
  induction rows with
  | nil => rfl
  | cons head rest ih =>
    rw [List.map_cons, lookup, lookup, ih]
    simp only [shift.number_inj]

theorem get?_rekeyed (table : Table α) (key : Nat) : (table.rekeyed shift).get? (shift.number key) = table.get? key :=
  lookup_rekeyed shift key table.rows

theorem place_rekeyed (key : Nat) (value : α) (rows : List (Nat × α)) :
    place (shift.number key) value (rows.map fun row => (shift.number row.1, row.2)) =
      (place key value rows).map fun row => (shift.number row.1, row.2) := by
  induction rows with
  | nil => rfl
  | cons head rest ih =>
    rw [List.map_cons, place, place, ih]
    simp only [shift.number_lt, shift.number_inj]
    split
    · rfl
    · split <;> rfl

theorem rekeyed_insert (table : Table α) (key : Nat) (value : α) :
    (table.insert key value).rekeyed shift = (table.rekeyed shift).insert (shift.number key) value :=
  ext_get? fun other => congrArg (lookup other) (place_rekeyed shift key value table.rows).symm

theorem rekeyed_erase (table : Table α) (key : Nat) :
    (table.erase key).rekeyed shift = (table.rekeyed shift).erase (shift.number key) := by
  refine ext_get? fun other => congrArg (lookup other) ?_
  change (table.rows.filter _).map _ = (table.rows.map _).filter _
  rw [List.filter_map]
  congr 1
  refine List.filter_congr fun row _ => ?_
  simp only [Function.comp_apply, ne_eq, shift.number_inj]

theorem rekeyed_values (table : Table α) : (table.rekeyed shift).values = table.values :=
  List.map_map

theorem rekeyed_of_fixed {table : Table α} (fixed : ∀ key value, table.get? key = some value → shift.number key = key) :
    table.rekeyed shift = table := by
  have same : (table.rows.map fun row => (shift.number row.1, row.2)) = table.rows := by
    refine (List.map_congr_left fun row mem => ?_).trans (List.map_id _)
    rw [fixed row.1 row.2 ((get?_eq_some_iff ..).mpr mem)]
    rfl
  exact ext_get? fun key => congrArg (lookup key) same

end Table

section

variable (shift : Renumbering)

def Loan.renumbered (loan : Loan) : Loan := { loan with lien := loan.lien.map shift.number }

def JournalEntry.renumbered : JournalEntry → JournalEntry
  | .hold account loan amount transaction => .hold account loan amount (shift.number transaction)
  | .release account transaction => .release account (shift.number transaction)
  | .withdraw account amount payment transaction => .withdraw account amount payment (shift.number transaction)
  | entry => entry

end

namespace Account

variable (shift : Renumbering)

def renumbered (account : Account) : Account := { account with holds := account.holds.rekeyed shift }

theorem hold_renumbered (account : Account) (transaction : TransactionId) (amount : Decimal) :
    (account.renumbered shift).hold (shift.number transaction) amount =
      (account.hold transaction amount).map (renumbered shift) := by
  unfold hold renumbered
  dsimp only
  split
  · cases account.available.sub amount with
    | error => rfl
    | ok available =>
      cases account.held.add amount with
      | error => rfl
      | ok held =>
        rw [← Table.rekeyed_insert]
        rfl
  · rfl

theorem withdraw_renumbered (account : Account) (amount : Decimal) :
    (account.renumbered shift).withdraw amount = (account.withdraw amount).map (renumbered shift) := by
  unfold withdraw renumbered
  dsimp only
  split
  · cases account.available.sub amount <;> rfl
  · rfl

theorem release_renumbered {account : Account} {transaction : TransactionId} {amount : Decimal}
    (held : account.holds.get? transaction = some amount) :
    (account.renumbered shift).release (shift.number transaction) =
      (account.release transaction).map (renumbered shift) := by
  have held' : (account.renumbered shift).holds.get? (shift.number transaction) = some amount :=
    (Table.get?_rekeyed ..).trans held
  unfold release
  rw [held, held']
  dsimp only [renumbered]
  cases account.held.sub amount with
  | error => rfl
  | ok held =>
    cases account.available.add amount with
    | error => rfl
    | ok available =>
      rw [← Table.rekeyed_erase]
      rfl

theorem release_missing {account : Account} {transaction : TransactionId}
    (missing : account.holds.get? transaction = none) :
    account.release transaction = .error (.refused (.notFound (.hold transaction account.id))) := by
  unfold release
  rw [missing]

end Account

end Countersign
