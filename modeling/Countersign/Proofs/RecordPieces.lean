import Countersign.Csv.Reader
import Mathlib.Data.List.Basic

/-!
A file as the pieces that its records are read from. A piece runs from where the reader goes for a
record up to the byte that closes it, and makes the same record whatever follows it. So the pieces
that are left when some are taken out make the records that they made before.
-/

namespace Countersign.Csv

def Closes (place : Place) (b : UInt8) : Prop :=
  isLineEnd b = true ∧ ∀ rest, readFields place (b :: rest) = ⟨[[]], rest, true⟩

def Leads (place : Place) (b : UInt8) : Prop :=
  ∃ (next : Place) (add : List (List UInt8) → List (List UInt8)), ∀ rest,
    readFields place (b :: rest) = { readFields next rest with fields := add (readFields next rest).fields }

theorem Leads.extend {place : Place} {b : UInt8} (next : Place)
    (reads : ∀ rest, readFields place (b :: rest) = (readFields next rest).extend b) : Leads place b := by
  refine ⟨next, fun fields => ((⟨fields, [], true⟩ : RawRecord).extend b).fields, fun rest => ?_⟩
  rw [reads]
  cases readFields next rest with
  | mk fields rest closed => cases fields <;> rfl

theorem closes_or_leads_bare {place : Place} {b : UInt8} (reads : ∀ rest, readFields place (b :: rest) =
    if b == comma then (readFields .start rest).separate
    else if isLineEnd b then ⟨[[]], rest, true⟩
    else (readFields .bare rest).extend b) : Closes place b ∨ Leads place b := by
  by_cases separates : (b == comma) = true
  · exact Or.inr ⟨.start, ([] :: ·), fun rest => by rw [reads, if_pos separates]; rfl⟩
  · by_cases ends : isLineEnd b = true
    · exact Or.inl ⟨ends, fun rest => by rw [reads, if_neg separates, if_pos ends]⟩
    · exact Or.inr (.extend .bare fun rest => by rw [reads, if_neg separates, if_neg ends])

theorem closes_or_leads (place : Place) (b : UInt8) : Closes place b ∨ Leads place b := by
  by_cases quotes : (b == quote) = true
  · cases place with
    | quoted => exact Or.inr ⟨.afterQuote, id, fun rest => by rw [readFields, if_pos quotes]; rfl⟩
    | afterQuote => exact Or.inr (.extend .quoted fun rest => by rw [readFields, if_pos quotes])
    | bare => exact closes_or_leads_bare fun rest => by rw [readFields]
    | start => exact Or.inr ⟨.quoted, id, fun rest => by rw [readFields, if_pos quotes]; rfl⟩
  · cases place with
    | quoted => exact Or.inr (.extend .quoted fun rest => by rw [readFields, if_neg quotes])
    | afterQuote => exact closes_or_leads_bare fun rest => by rw [readFields, if_neg quotes]
    | bare => exact closes_or_leads_bare fun rest => by rw [readFields]
    | start => exact closes_or_leads_bare fun rest => by rw [readFields, if_neg quotes]

/-- A record that is closed depends on nothing that follows the byte that closes it. -/
theorem readFields_closed (place : Place) (bytes : List UInt8) (closed : (readFields place bytes).closed = true) :
    ∃ front last, isLineEnd last = true ∧ bytes = front ++ last :: (readFields place bytes).rest ∧
      ∀ more, readFields place (front ++ last :: more) = { readFields place bytes with rest := more } := by
  induction bytes generalizing place with
  | nil => cases closed
  | cons b rest ih =>
    rcases closes_or_leads place b with ⟨ends, closes⟩ | ⟨next, add, leads⟩
    · refine ⟨[], b, ends, ?_, fun more => ?_⟩
      · rw [closes, List.nil_append]
      · rw [List.nil_append, closes, closes]
    · rw [leads] at closed
      obtain ⟨front, last, ends, split, later⟩ := ih next closed
      refine ⟨b :: front, last, ends, ?_, fun more => ?_⟩
      · rw [leads, List.cons_append, ← split]
      · rw [List.cons_append, leads, leads, later]

theorem readFields_open (place : Place) (bytes : List UInt8) (unclosed : (readFields place bytes).closed = false) :
    (readFields place bytes).rest = [] := by
  induction bytes generalizing place with
  | nil => rfl
  | cons b rest ih =>
    rcases closes_or_leads place b with ⟨_, closes⟩ | ⟨next, add, leads⟩
    · rw [closes] at unclosed
      cases unclosed
    · rw [leads] at unclosed ⊢
      exact ih next unclosed

theorem nextRecord_open {bytes : List UInt8} {record : RawRecord} (next : nextRecord bytes = some record)
    (unclosed : record.closed = false) : record.rest = [] := by
  unfold nextRecord at next
  split at next
  next => cases next
  next =>
    cases next
    exact readFields_open .start _ unclosed

/-- Line ends before a record belong to its piece. -/
theorem nextRecord_closed {bytes : List UInt8} {record : RawRecord} (next : nextRecord bytes = some record)
    (closed : record.closed = true) :
    ∃ front last, isLineEnd last = true ∧ bytes = front ++ last :: record.rest ∧
      ∀ more, nextRecord (front ++ last :: more) = some { record with rest := more } := by
  have parts := List.takeWhile_append_dropWhile (p := isLineEnd) (l := bytes)
  have skipped : ∀ b ∈ bytes.takeWhile isLineEnd, isLineEnd b = true := List.all_eq_true.mp List.all_takeWhile
  have first := List.head?_dropWhile_not isLineEnd bytes
  unfold nextRecord at next
  cases body : bytes.dropWhile isLineEnd with
  | nil =>
    rw [body] at next
    cases next
  | cons b rest =>
    rw [body] at next parts first
    have starts : isLineEnd b = false := first
    cases next
    obtain ⟨front, last, ends, split, later⟩ := readFields_closed .start (b :: rest) closed
    refine ⟨bytes.takeWhile isLineEnd ++ front, last, ends, ?_, fun more => ?_⟩
    · rw [List.append_assoc, ← split, parts]
    · have dropped : (front ++ last :: more).dropWhile isLineEnd = front ++ last :: more := by
        cases front with
        | nil =>
          obtain ⟨rfl, _⟩ := List.cons.inj split
          cases ends.symm.trans starts
        | cons c front =>
          obtain ⟨rfl, _⟩ := List.cons.inj split
          exact List.dropWhile_cons_of_neg (Bool.not_eq_true _ ▸ starts)
      have nonempty : front ++ last :: more ≠ [] := by simp
      unfold nextRecord
      rw [List.append_assoc, List.dropWhile_append_of_pos skipped, dropped]
      split
      next none => exact absurd none nonempty
      next => rw [later]

/-! The pieces of a file. -/

structure Piece where
  bytes : List UInt8
  fields : List (List UInt8)

def pieces (bytes : List UInt8) : List Piece :=
  match h : nextRecord bytes with
  | none => []
  | some record =>
    have := nextRecord_rest_lt h
    ⟨bytes.take (bytes.length - record.rest.length), record.fields⟩ :: pieces record.rest
termination_by bytes.length

def joined (pieces : List Piece) : List UInt8 := pieces.flatMap Piece.bytes

def leftover (bytes : List UInt8) : List UInt8 := bytes.drop (joined (pieces bytes)).length

theorem pieces_none {bytes : List UInt8} (none : nextRecord bytes = none) : pieces bytes = [] := by
  rw [pieces]
  split
  next => rfl
  next some => cases none.symm.trans some

theorem pieces_some {bytes : List UInt8} {record : RawRecord} (next : nextRecord bytes = some record) :
    pieces bytes = ⟨bytes.take (bytes.length - record.rest.length), record.fields⟩ :: pieces record.rest := by
  rw [pieces]
  split
  next none => cases next.symm.trans none
  next some =>
    cases next.symm.trans some
    rfl

/-- A file piece by piece: only line ends, a record that no line end closes, or one that is closed
and is the first of any file that begins with its piece. -/
inductive Laid : List UInt8 → Prop where
  | blank {bytes : List UInt8} (none : pieces bytes = []) : Laid bytes
  | unclosed {bytes : List UInt8} {fields : List (List UInt8)} (only : pieces bytes = [⟨bytes, fields⟩]) : Laid bytes
  | closed {piece : Piece} {rest front : List UInt8} {last : UInt8} (ends : isLineEnd last = true)
      (own : piece.bytes = front ++ [last]) (leads : ∀ more, pieces (piece.bytes ++ more) = piece :: pieces more)
      (later : Laid rest) : Laid (piece.bytes ++ rest)

theorem laid (bytes : List UInt8) : Laid bytes := by
  induction bytes using pieces.induct with
  | case1 bytes none => exact .blank (pieces_none none)
  | case2 bytes record next _ ih =>
    cases closed : record.closed with
    | false =>
      have rest := nextRecord_open next closed
      have none : nextRecord [] = none := rfl
      have only : pieces bytes = [⟨bytes, record.fields⟩] := by
        rw [pieces_some next, rest, List.length_nil, Nat.sub_zero, List.take_length, pieces_none none]
      exact .unclosed only
    | true =>
      obtain ⟨front, last, ends, split, later⟩ := nextRecord_closed next closed
      have leads (more : List UInt8) : pieces (front ++ [last] ++ more) = ⟨front ++ [last], record.fields⟩ :: pieces more := by
        have again := later more
        rw [← List.singleton_append, ← List.append_assoc] at again
        have own : (front ++ [last] ++ more).take ((front ++ [last] ++ more).length - more.length) = front ++ [last] := by
          rw [List.length_append, Nat.add_sub_cancel]
          exact List.take_left
        rw [pieces_some again, own]
      have whole : bytes = front ++ [last] ++ record.rest := by rw [List.append_assoc, List.singleton_append, ← split]
      rw [whole]
      exact @Laid.closed ⟨front ++ [last], record.fields⟩ record.rest front last ends rfl leads ih

theorem leftover_closed {piece : Piece} {rest : List UInt8}
    (leads : ∀ more, pieces (piece.bytes ++ more) = piece :: pieces more) :
    leftover (piece.bytes ++ rest) = leftover rest := by
  have length_eq : (joined (pieces (piece.bytes ++ rest))).length =
      piece.bytes.length + (joined (pieces rest)).length := by
    rw [leads, joined, List.flatMap_cons, List.length_append]
    rfl
  rw [leftover, length_eq, ← List.drop_drop, List.drop_left]
  rfl

theorem leftover_unclosed {bytes : List UInt8} {fields : List (List UInt8)} (only : pieces bytes = [⟨bytes, fields⟩]) :
    leftover bytes = [] := by
  have joined_eq : joined [⟨bytes, fields⟩] = bytes := List.append_nil bytes
  rw [leftover, only, joined_eq, List.drop_length]

theorem joined_pieces (bytes : List UInt8) : joined (pieces bytes) ++ leftover bytes = bytes := by
  induction laid bytes with
  | blank none =>
    rw [leftover, none]
    rfl
  | unclosed only =>
    rw [leftover_unclosed only, only, List.append_nil]
    exact List.append_nil _
  | @closed piece rest front last ends own leads later ih =>
    rw [leftover_closed leads, leads, joined, List.flatMap_cons, List.append_assoc]
    exact congrArg (piece.bytes ++ ·) ih

/-- Whichever pieces of a file are kept, they make the records that they make there. -/
theorem pieces_sublist {bytes : List UInt8} {kept : List Piece} (sub : kept.Sublist (pieces bytes)) :
    pieces (joined kept ++ leftover bytes) = kept := by
  induction laid bytes generalizing kept with
  | blank none =>
    rw [none] at sub
    cases List.sublist_nil.mp sub
    rw [leftover, none]
    exact none
  | @unclosed bytes fields only =>
    rw [only] at sub
    rw [leftover_unclosed only, List.append_nil]
    rcases List.sublist_singleton.mp sub with rfl | rfl
    · exact pieces_none rfl
    · exact (congrArg pieces (List.append_nil bytes)).trans only
  | @closed piece rest front last ends own leads later ih =>
    rw [leads] at sub
    rw [leftover_closed leads]
    cases sub with
    | cons _ sub => exact ih sub
    | cons_cons _ sub =>
      rw [joined, List.flatMap_cons, List.append_assoc, leads]
      exact congrArg (piece :: ·) (ih sub)

/-! What the reader comes upon is what the pieces make. -/

def Item.Reads (item : Item) (piece : Piece) : Prop := ∃ position, item = .record position piece.fields

theorem items_read (position : Position) (bytes : List UInt8) :
    List.Forall₂ Item.Reads (items false position bytes) (pieces bytes) := by
  induction bytes using pieces.induct generalizing position with
  | case1 bytes none =>
    rw [pieces_none none, items]
    split
    next => exact .nil
    next some => cases none.symm.trans some
  | case2 bytes record next _ ih =>
    rw [pieces_some next, items]
    split
    next none => cases next.symm.trans none
    next some =>
      cases next.symm.trans some
      exact .cons ⟨position, rfl⟩ (ih _)

def mark (bytes : List UInt8) : List UInt8 := if byteOrderMark.isPrefixOf bytes then byteOrderMark else []

def content (bytes : List UInt8) : List UInt8 := bytes.drop (mark bytes).length

theorem mark_content (bytes : List UInt8) : mark bytes ++ content bytes = bytes := by
  unfold content mark
  split
  next marked =>
    obtain ⟨rest, rfl⟩ := List.isPrefixOf_iff_prefix.mp marked
    rw [List.drop_left]
  next => rfl

theorem source_read (bytes : List UInt8) :
    List.Forall₂ Item.Reads (Source.items ⟨bytes, false⟩) (pieces (content bytes)) := by
  unfold Source.items content mark
  dsimp only
  split
  · exact items_read ⟨0, 1, 3⟩ _
  · exact items_read ⟨0, 1, 0⟩ _

theorem marked_of_closed {front more : List UInt8} {last : UInt8} (ends : isLineEnd last = true)
    (marked : byteOrderMark <+: front ++ [last] ++ more) : byteOrderMark <+: front ++ [last] := by
  rcases List.prefix_or_prefix_of_prefix marked (List.prefix_append (front ++ [last]) more) with inside | beyond
  · exact inside
  · have plain : byteOrderMark.any isLineEnd = false := by decide
    have mem : last ∈ byteOrderMark := beyond.subset (List.mem_append_right _ (List.mem_singleton_self last))
    exact absurd ends (List.any_eq_false.mp plain last mem)

theorem content_kept {bytes : List UInt8} {kept : List Piece} (sub : kept.Sublist (pieces (content bytes)))
    (first : kept.head? = (pieces (content bytes)).head?) :
    content (mark bytes ++ (joined kept ++ leftover (content bytes))) = joined kept ++ leftover (content bytes) := by
  by_cases marked : byteOrderMark.isPrefixOf bytes = true
  · have is : mark bytes = byteOrderMark := if_pos marked
    have again : mark (byteOrderMark ++ (joined kept ++ leftover (content bytes))) = byteOrderMark :=
      if_pos (List.isPrefixOf_iff_prefix.mpr (List.prefix_append ..))
    rw [is, content, again, List.drop_left]
  · have unmarked : mark bytes = [] := if_neg marked
    have whole : content bytes = bytes := by rw [content, unmarked, List.length_nil, List.drop_zero]
    rw [whole] at sub first
    have again : ¬byteOrderMark <+: joined kept ++ leftover bytes := by
      rw [List.isPrefixOf_iff_prefix] at marked
      cases laid bytes with
      | blank none =>
        rw [none] at sub
        cases List.sublist_nil.mp sub
        rw [leftover, none]
        exact marked
      | @unclosed _ fields only =>
        rw [only] at sub first
        rcases List.sublist_singleton.mp sub with rfl | rfl
        · cases first
        · rw [leftover_unclosed only, List.append_nil, joined, List.flatMap_singleton]
          exact marked
      | @closed piece rest front last ends own leads _ =>
        rw [leads, List.head?_cons] at first
        obtain ⟨later, rfl⟩ := List.head?_eq_some_iff.mp first
        rw [joined, List.flatMap_cons, List.append_assoc, own]
        intro begins
        rw [own] at marked
        exact marked ((marked_of_closed ends begins).trans (List.prefix_append ..))
    have still : mark (joined kept ++ leftover bytes) = [] :=
      if_neg fun begins => again (List.isPrefixOf_iff_prefix.mp begins)
    rw [unmarked, whole, List.nil_append, content, still, List.length_nil, List.drop_zero]

end Countersign.Csv
