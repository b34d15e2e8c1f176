import Countersign.Approver.Json
import Countersign.Json.Parser
import Countersign.Loan.Json
import Countersign.Settings
import Countersign.Template.Json

/-!
A setup is the text that fills the books before the first command: settings,
the templates of products, approvers, and loans with their charges and savings
accounts. The record of a loan holds the fields of the loan itself beside those
of its surroundings, and can be an object only.
-/

namespace Countersign

structure ProductSetup where
  id : ProductId
  template : List TemplateEntry
deriving DecidableEq

structure SavingsSetup where
  id : AccountId
  available : Decimal
  /-- What is on hold for the loan before it enters the workflow. -/
  lien : Option Decimal
deriving DecidableEq

structure LoanSetup where
  loan : Loan
  charges : List Charge
  savings : Option SavingsSetup
deriving DecidableEq

structure Setup where
  settings : Settings
  products : List ProductSetup
  approvers : List Approver
  loans : List LoanSetup
deriving DecidableEq

def ProductSetup.ofJson? (j : Json) : Option ProductSetup := do
  let fields ← Json.fields? ["id", "template"] j
  some {
    id := ← fields.required "id" Json.id?
    template := ← fields.required "template" (Json.listOf? TemplateEntry.ofJson?) }

def SavingsSetup.ofJson? (j : Json) : Option SavingsSetup := do
  let fields ← Json.fields? ["id", "available", "lien"] j
  some {
    id := ← fields.required "id" Json.id?
    available := ← fields.required "available" Json.decimal?
    lien := ← fields.withDefault "lien" (Json.nullable? Json.decimal?) none }

namespace LoanSetup

def ownNames : List String := ["charges", "savingsAccount"]

/-- How deep a value may be nested that is set aside while the fields of a loan are
gathered; it stands three levels deep in the text, of which 127 are allowed. -/
def depth : Nat := 124

def storable : Json → Bool
  | .object fields =>
    fields.all fun (name, value) =>
      (name.any ownNames.contains) || value.storable depth
  | _ => false

def ofJson? (j : Json) : Option LoanSetup := do
  let fields ← Json.object? (Loan.fieldNames ++ ownNames) j
  if storable j then
    some {
      loan := ← Loan.ofFields? (Json.choice? LoanStatus.choices Json.isNullOrBare) fields
      charges := ← fields.withDefault "charges" (Json.listOf? Charge.ofJson?) []
      savings := ← fields.withDefault "savingsAccount" (Json.nullable? SavingsSetup.ofJson?) none }
  else none

end LoanSetup

namespace Setup

def ofJson? (j : Json) : Option Setup := do
  let fields ← Json.fields? ["settings", "products", "approvers", "loans"] j
  some {
    settings := ← fields.withDefault "settings" Settings.ofJson? .standard
    products := ← fields.withDefault "products" (Json.listOf? ProductSetup.ofJson?) []
    approvers := ← fields.withDefault "approvers" (Json.listOf? Approver.ofJson?) []
    loans := ← fields.withDefault "loans" (Json.listOf? LoanSetup.ofJson?) [] }

def ofText? (text : String) : Option Setup := Json.parse text >>= ofJson?

end Setup

end Countersign
