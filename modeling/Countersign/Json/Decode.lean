import Countersign.Decimal.Text
import Countersign.Json.Basic

/-!
Reading values of the domain from JSON. A record is an object, in which unknown
fields are passed over and a known field stands at most once, or an array of the
fields in their order, which may stop early where the rest have defaults.
-/

namespace Countersign.Json

def natBelow (bound : Nat) : Json → Option Nat
  | .number n =>
    match n.toInt? with
    | some (.ofNat k) => if k < bound then some k else none
    | _ => none
  | _ => none

/-- Identifiers have 64 bits. -/
def id? : Json → Option Nat := natBelow UInt64.size

/-- Ranks and scales have 32 bits. -/
def small? : Json → Option Nat := natBelow UInt32.size

def bool? : Json → Option Bool
  | .bool b => some b
  | _ => none

def text? : Json → Option String
  | .string text => text
  | _ => none

def listOf? {α : Type} (decode : Json → Option α) : Json → Option (List α)
  | .array items => items.mapM decode
  | _ => none

def nullable? {α : Type} (decode : Json → Option α) : Json → Option (Option α)
  | .null => some none
  | j => (decode j).map some

/-- A choice among names: the name itself, or an object with the name as its only
field and an empty value. -/
def choice? {α : Type} (names : List (String × α)) (isEmpty : Json → Bool) : Json → Option α
  | .string (some name) => names.lookup name
  | .object [(some name, value)] => if isEmpty value then names.lookup name else none
  | _ => none

def isNull : Json → Bool
  | .null => true
  | _ => false

def isNullOrBare : Json → Bool
  | .null => true
  | .object [] => true
  | _ => false

/-- A number is read by its shortest decimal form, a string by the rules for the
text of a decimal. -/
def decimal? : Json → Option Decimal
  | .number n =>
    match n.toInt? with
    | some k => Decimal.ofInt? k
    | none => do
      let size ← n.size?
      let sign := if n.negative then ['-'] else []
      Decimal.readPlain (sign ++ size.shortest.positional)
  | .string (some text) => Decimal.ofText? text
  | _ => none

def ofDecimal (d : Decimal) : Json := .ofText d.toText

inductive Fields where
  | named (fields : List (String × Json))
  | listed (names : List String) (items : List Json)

namespace Fields

def get? : Fields → String → Option Json
  | .named fields, name => fields.lookup name
  | .listed names items, name => (names.zip items).lookup name

def required {α : Type} (fields : Fields) (name : String) (decode : Json → Option α) : Option α :=
  fields.get? name >>= decode

def withDefault {α : Type} (fields : Fields) (name : String) (decode : Json → Option α)
    (default : α) : Option α :=
  match fields.get? name with
  | some j => decode j
  | none => some default

/-- A field that may be null may also be absent by name, though not by place. -/
def optional {α : Type} (fields : Fields) (name : String) (decode : Json → Option α) :
    Option (Option α) :=
  match fields, fields.get? name with
  | _, some j => nullable? decode j
  | .named _, none => some none
  | .listed _ _, none => none

end Fields

def namedFields? (fields : List (Option String × Json)) : Option (List (String × Json)) :=
  fields.mapM fun (name, value) => name.map fun name => (name, value)

def unrepeated (names : List String) (fields : List (String × Json)) : Bool :=
  names.all fun name => (fields.filter (·.1 == name)).length ≤ 1

def object? (names : List String) : Json → Option Fields
  | .object fields => do
    let fields ← namedFields? fields
    if unrepeated names fields then some (.named fields) else none
  | _ => none

def fields? (names : List String) : Json → Option Fields
  | .array items => if items.length ≤ names.length then some (.listed names items) else none
  | j => object? names j

end Countersign.Json
