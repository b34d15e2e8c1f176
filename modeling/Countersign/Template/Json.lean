import Countersign.Json.Decode
import Countersign.Template

/-!
Templates and thresholds in JSON. No limit is written as null, which keeps it
apart from a limit of zero.
-/

namespace Countersign

namespace Threshold

def ofJson? (j : Json) : Option Threshold := (Json.nullable? Json.decimal? j).map ofOption

def toJson (threshold : Threshold) : Json := .ofOption .ofDecimal threshold.toOption

end Threshold

namespace TemplateEntry

def fieldNames : List String := ["rank", "authorityRoleId", "maxApprovalAmount"]

def ofJson? (j : Json) : Option TemplateEntry := do
  let fields ← Json.fields? fieldNames j
  some {
    rank := ← fields.required "rank" Json.small?
    role := ← fields.required "authorityRoleId" Json.id?
    limit := ← fields.withDefault "maxApprovalAmount" Threshold.ofJson? .unbounded }

def toJson (entry : TemplateEntry) : Json := .record [
  ("rank", .ofNat entry.rank),
  ("authorityRoleId", .ofNat entry.role),
  ("maxApprovalAmount", entry.limit.toJson)]

end TemplateEntry

def Template.toJson (template : Template) : Json := .record [
  ("productId", .ofNat template.product),
  ("entries", .ofList TemplateEntry.toJson template.entries)]

end Countersign
