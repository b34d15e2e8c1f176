import Countersign.Approver
import Countersign.Json.Decode

/-!
Approvers in JSON; one whose activity is not stated is active.
-/

namespace Countersign.Approver

def fieldNames : List String := ["id", "roleIds", "active"]

def ofJson? (j : Json) : Option Approver := do
  let fields ← Json.fields? fieldNames j
  some {
    id := ← fields.required "id" Json.id?
    roles := ← fields.withDefault "roleIds" (Json.listOf? Json.id?) []
    active := ← fields.withDefault "active" Json.bool? true }

def toJson (approver : Approver) : Json := .record [
  ("id", .ofNat approver.id),
  ("roleIds", .ofList .ofNat approver.roles),
  ("active", .bool approver.active)]

end Countersign.Approver
