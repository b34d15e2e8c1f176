import Countersign.Command
import Countersign.Csv.Reader

/-!
Requests for commands, one per record of a table. The columns may stand in any
order, and a record may stop early: what it leaves out is absent, and so is an
empty field. All columns are read for every action, from left to right, before
it is asked whether the action has what it needs.
-/

namespace Countersign

inductive Action where
  | scan
  | build
  | approve
  | reject
  | undo
  | reassign
deriving DecidableEq, Repr

namespace Action

def all : List Action := [.scan, .build, .approve, .reject, .undo, .reassign]

def name : Action → String
  | .scan => "scan"
  | .build => "build"
  | .approve => "approve"
  | .reject => "reject"
  | .undo => "undo"
  | .reassign => "reassign"

def label : Action → String
  | .scan => "Scan"
  | .build => "Build"
  | .approve => "Approve"
  | .reject => "Reject"
  | .undo => "Undo"
  | .reassign => "Reassign"

end Action

inductive Column where
  | action
  | loan
  | step
  | approver
  | target
  | note
  | date
  | paymentType
deriving DecidableEq, Repr

namespace Column

def all : List Column := [.action, .loan, .step, .approver, .target, .note, .date, .paymentType]

def name : Column → String
  | .action => "action"
  | .loan => "loan"
  | .step => "step"
  | .approver => "approver"
  | .target => "target"
  | .note => "note"
  | .date => "date"
  | .paymentType => "payment_type"

def ofName? (name : String) : Option Column := all.find? (·.name == name)

end Column

inductive NumberFault where
  | empty
  | invalidDigit
  | tooLarge
deriving DecidableEq, Repr

def NumberFault.message : NumberFault → String
  | .empty => "cannot parse integer from empty string"
  | .invalidDigit => "invalid digit found in string"
  | .tooLarge => "number too large to fit in target type"

inductive RecordFault where
  | number (field : Nat) (fault : NumberFault)
  | unknownAction (text : String)
  | date (error : Date.ReadError)
  | noAction
  | repeated (column : Column)
  | endOfRow
  | tooFew (count : Nat)
deriving DecidableEq, Repr

def RecordFault.message : RecordFault → String
  | .number field fault => s!"field {field}: {fault.message}"
  | .unknownAction text =>
    s!"unknown variant `{text}`, expected one of `scan`, `build`, `approve`, `reject`, `undo`, " ++
      "`reassign`"
  | .date error => error.message
  | .noAction => "missing field `action`"
  | .repeated column => s!"duplicate field `{column.name}`"
  | .endOfRow => "expected field, but got end of row"
  | .tooFew count => s!"invalid length {count}, expected struct CommandRecord with 8 elements"

inductive RequestError where
  | broken
  | notText (position : Csv.Position) (field index : Nat)
  | record (position : Csv.Position) (fault : RecordFault)
  | missing (action : Action) (column : Column)
deriving DecidableEq, Repr

def RequestError.message : RequestError → String
  | .broken => "CSV error: the disk is gone"
  | .notText position field index =>
    s!"CSV error: CSV parse error: record {position.record} (line {position.line}, " ++
      s!"field: {field}, byte: {position.byte}): invalid utf-8: " ++
      s!"invalid UTF-8 in field {field} near byte index {index}"
  | .record position fault =>
    s!"CSV error: CSV deserialize error: record {position.record} (line: {position.line}, " ++
      s!"byte: {position.byte}): {fault.message}"
  | .missing action column =>
    s!"Validation error: {action.label} command requires a '{column.name}' value"

namespace Request

def digitIn (radix : Nat) (c : Char) : Option Nat :=
  let value :=
    if c.isDigit then some (c.toNat - '0'.toNat)
    else if 'a' ≤ c ∧ c ≤ 'z' then some (c.toNat - 'a'.toNat + 10)
    else if 'A' ≤ c ∧ c ≤ 'Z' then some (c.toNat - 'A'.toNat + 10)
    else none
  value.filter (· < radix)

/-- Reads digits one by one; the first that is none, or that makes the number too
large, decides. -/
def readDigits (radix value : Nat) : List Char → Except NumberFault Nat
  | [] => .ok value
  | c :: rest =>
    match digitIn radix c with
    | none => .error .invalidDigit
    | some digit =>
      let next := value * radix + digit
      if next < UInt64.size then readDigits radix next rest else .error .tooLarge

def readInRadix (radix : Nat) : List Char → Except NumberFault Nat
  | [] => .error .empty
  | ['+'] => .error .invalidDigit
  | '+' :: rest => readDigits radix 0 rest
  | text => readDigits radix 0 text

/-- A number is decimal, or hexadecimal after `0x`. -/
def readNumber (text : String) : Except NumberFault Nat :=
  match text.toList with
  | '0' :: 'x' :: rest => readInRadix 16 rest
  | chars => readInRadix 10 chars

structure Row where
  action : Option Action
  loan : Option LoanId
  step : Option StepId
  approver : Option ApproverId
  target : Option StepId
  note : Option String
  date : Option Date
  payment : Option PaymentTypeId
deriving DecidableEq

def Row.empty : Row := ⟨none, none, none, none, none, none, none, none⟩

def present (field : Option String) : Option String := field.filter (· ≠ "")

def number? (index : Nat) (field : Option String) : Except RecordFault (Option Nat) :=
  match present field with
  | none => .ok none
  | some text =>
    match readNumber text with
    | .ok n => .ok (some n)
    | .error fault => .error (.number index fault)

def date? (field : Option String) : Except RecordFault (Option Date) :=
  match present field with
  | none => .ok none
  | some text =>
    match Date.ofText text with
    | .ok date => .ok (some date)
    | .error error => .error (.date error)

def action? (field : Option String) : Except RecordFault Action :=
  match field with
  | none => .error .endOfRow
  | some text =>
    match Action.all.find? (·.name == text) with
    | some action => .ok action
    | none => .error (.unknownAction text)

def Row.put (row : Row) (index : Nat) (field : Option String) :
    Column → Except RecordFault Row
  | .action => do .ok { row with action := some (← action? field) }
  | .loan => do .ok { row with loan := ← number? index field }
  | .step => do .ok { row with step := ← number? index field }
  | .approver => do .ok { row with approver := ← number? index field }
  | .target => do .ok { row with target := ← number? index field }
  | .note => .ok { row with note := present field }
  | .date => do .ok { row with date := ← date? field }
  | .paymentType => do .ok { row with payment := ← number? index field }

/-- Reads a record under the names of its columns; an unknown column is passed over. -/
def readNamed (row : Row) (seen : List Column) (index : Nat) :
    List String → List String → Except RecordFault Row
  | [], _ => if row.action.isNone then .error .noAction else .ok row
  | name :: names, fields =>
    match Column.ofName? name with
    | none =>
      if fields.isEmpty then .error .endOfRow
      else readNamed row seen (index + 1) names fields.tail
    | some column =>
      if seen.contains column then .error (.repeated column)
      else do
        let row ← row.put index fields.head? column
        readNamed row (column :: seen) (index + 1) names fields.tail

def readPlaced (row : Row) (index : Nat) : List Column → List String → Except RecordFault Row
  | [], _ => .ok row
  | _ :: _, [] => .error (.tooFew index)
  | column :: columns, field :: fields => do
    let row ← row.put index (some field) column
    readPlaced row (index + 1) columns fields

def readRow (header : Option (List String)) (fields : List String) : Except RecordFault Row :=
  match header with
  | some names => readNamed .empty [] 0 names fields
  | none => readPlaced .empty 0 Column.all fields

def require {α : Type} (action : Action) (column : Column) : Option α → Except RequestError α
  | some value => .ok value
  | none => .error (.missing action column)

def Row.toCommand (row : Row) (action : Action) : Except RequestError Command := do
  let note := row.note.getD ""
  match action with
  | .scan => .ok .scan
  | .build => .ok (.build (← require action .loan row.loan))
  | .approve =>
    let loan ← require action .loan row.loan
    let step ← require action .step row.step
    .ok (.approve loan step note row.date row.payment)
  | .reject =>
    let loan ← require action .loan row.loan
    let step ← require action .step row.step
    .ok (.reject loan step note)
  | .undo =>
    let loan ← require action .loan row.loan
    let step ← require action .step row.step
    .ok (.undo loan step note row.target)
  | .reassign =>
    let loan ← require action .loan row.loan
    let step ← require action .step row.step
    .ok (.reassign loan step note (← require action .approver row.approver))

def ofItem (header : Option (List String)) : Csv.Item → Except RequestError Command
  | .failure => .error .broken
  | .record position fields =>
    match Csv.texts fields with
    | .error (.notText field index) => .error (.notText position field index)
    | .ok texts =>
      match readRow header texts with
      | .error fault => .error (.record position fault)
      | .ok row =>
        match row.action with
        | none => .error (.record position .noAction)
        | some action => row.toCommand action

/-- The requests of a command file, one per record, readable or not. -/
def all (source : Csv.Source) : List (Except RequestError Command) :=
  source.sheet.body.map (ofItem source.sheet.header)

end Request

end Countersign
