/-!
Splitting comma-separated bytes into records. A field may stand in quotes when
they open it; inside them a quote is written twice, and commas and line ends are
plain content. What follows the closing quote belongs to the field. A record
ends with a line feed or a carriage return, and line ends before a record are
skipped. Quotes that are never closed run to the end of the input.
-/

namespace Countersign.Csv

def comma : UInt8 := 44
def quote : UInt8 := 34
def lineFeed : UInt8 := 10
def carriageReturn : UInt8 := 13

def isLineEnd (b : UInt8) : Bool := b == lineFeed || b == carriageReturn

inductive Place where
  | start
  | bare
  | quoted
  | afterQuote
deriving DecidableEq, Repr

structure RawRecord where
  fields : List (List UInt8)
  rest : List UInt8
  /-- Whether a line end closed the record, and not the end of the input. -/
  closed : Bool
deriving DecidableEq, Repr

namespace RawRecord

def extend (b : UInt8) (record : RawRecord) : RawRecord :=
  match record.fields with
  | [] => { record with fields := [[b]] }
  | field :: others => { record with fields := (b :: field) :: others }

def separate (record : RawRecord) : RawRecord := { record with fields := [] :: record.fields }

end RawRecord

/-- Reads the rest of a record from a place within its current field, which is the
first field of the answer. -/
def readFields (place : Place) : List UInt8 → RawRecord
  | [] => ⟨[[]], [], false⟩
  | b :: rest =>
    match place with
    | .quoted =>
      if b == quote then readFields .afterQuote rest
      else (readFields .quoted rest).extend b
    | .afterQuote =>
      if b == quote then (readFields .quoted rest).extend b
      else if b == comma then (readFields .start rest).separate
      else if isLineEnd b then ⟨[[]], rest, true⟩
      else (readFields .bare rest).extend b
    | .bare =>
      if b == comma then (readFields .start rest).separate
      else if isLineEnd b then ⟨[[]], rest, true⟩
      else (readFields .bare rest).extend b
    | .start =>
      if b == quote then readFields .quoted rest
      else if b == comma then (readFields .start rest).separate
      else if isLineEnd b then ⟨[[]], rest, true⟩
      else (readFields .bare rest).extend b

/-- The next record, unless only line ends are left. -/
def nextRecord (bytes : List UInt8) : Option RawRecord :=
  match bytes.dropWhile isLineEnd with
  | [] => none
  | rest => some (readFields .start rest)

theorem readFields_rest_le (place : Place) (bytes : List UInt8) :
    (readFields place bytes).rest.length ≤ bytes.length := by
  induction bytes generalizing place with
  | nil => simp [readFields]
  | cons b rest ih =>
    have step : ∀ next : Place, (readFields next rest).rest.length ≤ rest.length + 1 :=
      fun next => Nat.le_succ_of_le (ih next)
    have extended : ∀ record : RawRecord, (record.extend b).rest = record.rest := by
      intro record
      unfold RawRecord.extend
      split <;> rfl
    cases place <;> simp only [readFields] <;> (repeat' split) <;>
      simp [extended, RawRecord.separate, step]

theorem nextRecord_rest_lt {bytes : List UInt8} {record : RawRecord}
    (h : nextRecord bytes = some record) : record.rest.length < bytes.length := by
  unfold nextRecord at h
  have dropped := (List.dropWhile_suffix isLineEnd (l := bytes)).length_le
  split at h
  · cases h
  · next rest nonempty =>
    cases h
    cases found : bytes.dropWhile isLineEnd with
    | nil => exact absurd found nonempty
    | cons b rest =>
      rw [found] at dropped
      have first : isLineEnd b = false := by
        have := List.head?_dropWhile_not isLineEnd bytes
        rw [found] at this
        simpa using this
      have inner : ∀ next : Place, (readFields next rest).rest.length ≤ rest.length :=
        fun next => readFields_rest_le next rest
      have extended : ∀ record : RawRecord, (record.extend b).rest = record.rest := by
        intro record
        unfold RawRecord.extend
        split <;> rfl
      have shorter : (readFields .start (b :: rest)).rest.length ≤ rest.length := by
        simp only [readFields, first]
        (repeat' split) <;> simp_all [RawRecord.separate]
      simp only [List.length_cons] at dropped
      omega

end Countersign.Csv
