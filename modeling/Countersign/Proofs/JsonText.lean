import Countersign.Json.Parser
import Countersign.Json.Printer
import Countersign.Proofs.DigitText

/-!
A JSON value that is written is read back as it is. Every writer has a reader that takes what was
written off the front of a text and leaves what follows; a number alone needs to know that what
follows is no part of it. The count that bounds the nesting is at most the length of the text.
-/

namespace Countersign

namespace Json

/-! What a printer can write so that it is read back. -/

def Number.Proper (n : Number) : Prop :=
  ∀ digits, n.fraction = some digits → digits ≠ [] ∧ ∀ c ∈ digits, c.isDigit = true

mutual

/-- Every string has a text, and every number is one. -/
def Proper : Json → Prop
  | .null => True
  | .bool _ => True
  | .number n => n.Proper
  | .string text => text.isSome = true
  | .array items => ProperItems items
  | .object fields => ProperFields fields

def ProperItems : List Json → Prop
  | [] => True
  | item :: rest => item.Proper ∧ ProperItems rest

def ProperFields : List (Option String × Json) → Prop
  | [] => True
  | (name, value) :: rest => name.isSome = true ∧ value.Proper ∧ ProperFields rest

end

theorem properItems_iff (items : List Json) : ProperItems items ↔ ∀ item ∈ items, item.Proper := by
  induction items with
  | nil => simp [ProperItems]
  | cons item rest ih => simp [ProperItems, ih]

theorem properFields_iff (fields : List (Option String × Json)) :
    ProperFields fields ↔ ∀ field ∈ fields, field.1.isSome = true ∧ field.2.Proper := by
  induction fields with
  | nil => simp [ProperFields]
  | cons field rest ih => simp [ProperFields, ih, and_assoc]

namespace Parser

open Digits (Undigital takeWhile_digits dropWhile_digits)

/-- What comes after a value: nothing, a comma, or the end of an array or an object. -/
def Follows (rest : List Char) : Prop := ∀ c, rest.head? = some c → c = ',' ∨ c = ']' ∨ c = '\x7d'

theorem follows_nil : Follows [] := by simp [Follows]

theorem follows_cons {c : Char} {rest : List Char} (mark : c = ',' ∨ c = ']' ∨ c = '\x7d') : Follows (c :: rest) := by
  simp [Follows, mark]

theorem Follows.undigital {rest : List Char} (follows : Follows rest) : Undigital rest := by
  intro c first
  rcases follows c first with rfl | rfl | rfl <;> decide

theorem digits_append {run rest : List Char} (nonempty : run ≠ []) (digital : ∀ c ∈ run, c.isDigit = true)
    (ends : Undigital rest) : digits (run ++ rest) = some (run, rest) := by
  unfold digits
  simp only [takeWhile_digits digital ends, dropWhile_digits digital ends, List.isEmpty_iff, if_neg nonempty]

/-! Numbers. -/

theorem wholePart_ofNat (n : Nat) {rest : List Char} (ends : Undigital rest) :
    wholePart (Digits.ofNat n ++ rest) = some (n, rest) := by
  have unpadded : ¬((Digits.ofNat n).length > 1 ∧ (Digits.ofNat n).head? = some '0') := by
    rintro ⟨long, leads⟩
    have zero : n = 0 := Digits.eq_zero_of_head leads
    subst zero
    exact absurd long (by decide)
  unfold wholePart
  rw [digits_append (Digits.ofNat_ne_nil n) (fun _ => Digits.isDigit_of_mem) ends]
  simp only [Option.bind_eq_bind, Option.bind_some, if_neg unpadded, Digits.value_ofNat]

end Parser

namespace Number

def fractionChars : Option (List Char) → List Char
  | some digits => '.' :: digits
  | none => []

def exponentChars : Option Int → List Char
  | some e => 'e' :: (if e < 0 then '-' :: Digits.ofNat e.natAbs else Digits.ofNat e.natAbs)
  | none => []

end Number

namespace Parser

open Digits (Undigital)
open Number (fractionChars exponentChars)

theorem exponentPart_chars (exponent : Option Int) {rest : List Char} (follows : Follows rest) :
    exponentPart (exponentChars exponent ++ rest) = some (exponent, rest) := by
  cases exponent with
  | none =>
    cases rest with
    | nil => rfl
    | cons c rest =>
      rcases follows c rfl with rfl | rfl | rfl <;> rfl
  | some e =>
    have sized (negative : Bool) : exponentDigits negative (Digits.ofNat e.natAbs ++ rest) =
        some (some (if negative then -(e.natAbs : Int) else e.natAbs), rest) := by
      unfold exponentDigits
      rw [digits_append (Digits.ofNat_ne_nil _) (fun _ => Digits.isDigit_of_mem) follows.undigital]
      simp only [Option.bind_eq_bind, Option.bind_some, Digits.value_ofNat]
    by_cases negative : e < 0
    · have value : -(e.natAbs : Int) = e := by omega
      simp only [exponentChars, if_pos negative, List.cons_append, exponentPart, sized, true_or, if_true, value]
    · have value : (e.natAbs : Int) = e := by omega
      have unsigned : exponentPart ('e' :: (Digits.ofNat e.natAbs ++ rest)) =
          exponentDigits false (Digits.ofNat e.natAbs ++ rest) := by
        obtain ⟨c, more, spelled, digit⟩ := Digits.ofNat_cons e.natAbs
        have minus : c ≠ '-' := Digits.ne_of_isDigit digit rfl
        have plus : c ≠ '+' := Digits.ne_of_isDigit digit rfl
        simp [spelled, exponentPart, minus, plus]
      simp only [exponentChars, if_neg negative, List.cons_append, unsigned, sized, Bool.false_eq_true, if_false, value]

theorem undigital_exponent (exponent : Option Int) {rest : List Char} (follows : Follows rest) :
    Undigital (exponentChars exponent ++ rest) := by
  cases exponent with
  | none => exact follows.undigital
  | some e => simp [Undigital, exponentChars]

theorem fractionPart_chars {fraction : Option (List Char)} (proper : ∀ digits, fraction = some digits →
      digits ≠ [] ∧ ∀ c ∈ digits, c.isDigit = true) (exponent : Option Int) {rest : List Char} (follows : Follows rest) :
    fractionPart (fractionChars fraction ++ (exponentChars exponent ++ rest)) =
      some (fraction, exponentChars exponent ++ rest) := by
  cases fraction with
  | some run =>
    obtain ⟨nonempty, digital⟩ := proper run rfl
    simp only [fractionChars, List.cons_append, fractionPart]
    rw [digits_append nonempty digital (undigital_exponent exponent follows)]
    rfl
  | none =>
    cases exponent with
    | some e => rfl
    | none =>
      cases rest with
      | nil => rfl
      | cons c rest =>
        rcases follows c rfl with rfl | rfl | rfl <;> rfl

theorem undigital_fraction (fraction : Option (List Char)) (exponent : Option Int) {rest : List Char}
    (follows : Follows rest) : Undigital (fractionChars fraction ++ (exponentChars exponent ++ rest)) := by
  cases fraction with
  | none => exact undigital_exponent exponent follows
  | some run => simp [Undigital, fractionChars]

theorem number_chars {n : Number} (proper : n.Proper) {rest : List Char} (follows : Follows rest) :
    number n.negative (Digits.ofNat n.whole ++ (fractionChars n.fraction ++ (exponentChars n.exponent ++ rest))) =
      some (n, rest) := by
  unfold number
  rw [wholePart_ofNat n.whole (undigital_fraction n.fraction n.exponent follows)]
  simp only [Option.bind_eq_bind, Option.bind_some, fractionPart_chars proper n.exponent follows,
    exponentPart_chars n.exponent follows]

/-! Strings. -/

theorem hexDigit_digitChar : ∀ d < 16, hexDigit (Nat.digitChar d) = some d := by decide

theorem literal_escape (c : Char) (text : List Char) :
    literal (escape c ++ text) = (literal text).bind fun (units, rest) => some (.char c :: units, rest) := by
  unfold escape
  split
  next same => simp [same, literal]
  split
  next same => simp [same, literal]
  split
  next same => simp [same, literal]
  split
  next same => simp [same, literal]
  split
  next same => simp [same, literal]
  split
  next same => simp [same, literal]
  split
  next same => simp [same, literal]
  split
  next control =>
    have high := hexDigit_digitChar (c.toNat / 16) (by omega)
    have low := hexDigit_digitChar (c.toNat % 16) (by omega)
    have zero : hexDigit '0' = some 0 := by decide
    have code : ofCode (0 * 4096 + 0 * 256 + c.toNat / 16 * 16 + c.toNat % 16) = .char c := by
      have whole : 0 * 4096 + 0 * 256 + c.toNat / 16 * 16 + c.toNat % 16 = c.toNat := by omega
      have char : ¬(0xD800 ≤ c.toNat ∧ c.toNat < 0xE000) := by omega
      rw [whole, ofCode, if_neg char, Char.ofNat_toNat]
    simp only [List.cons_append, List.nil_append, literal, zero, high, low, code, Option.bind_eq_bind, Option.bind_some]
  next quote backslash _ _ _ _ _ printable =>
    have plain : ¬(c.toNat < 32 ∨ c = '\\') := not_or.mpr ⟨printable, backslash⟩
    rw [List.singleton_append, literal]
    · exact if_neg plain
    · exact quote
    · exact fun _ _ _ _ _ is => absurd is backslash
    · exact fun _ _ is => absurd is backslash

theorem literal_escaped (text : List Char) (rest : List Char) :
    literal (text.flatMap escape ++ '"' :: rest) = some (text.map .char, rest) := by
  induction text with
  | nil => rfl
  | cons c text ih =>
    rw [List.flatMap_cons, List.append_assoc, literal_escape, ih]
    rfl

theorem join_chars (text : List Char) : join (text.map .char) = some text := by
  induction text with
  | nil => rfl
  | cons c text ih =>
    rw [List.map_cons, join, ih]
    rfl

theorem string_quoted (text : String) (rest : List Char) :
    string (text.toList.flatMap escape ++ '"' :: rest) = some (some text, rest) := by
  unfold string
  simp only [literal_escaped, join_chars, Option.bind_eq_bind, Option.bind_some, Option.map_some, String.ofList_toList]

/-! Values. -/

theorem skipBlanks_cons {c : Char} {text : List Char} (solid : isBlank c = false) : skipBlanks (c :: text) = c :: text := by
  simp [skipBlanks, solid]

theorem isBlank_digit {c : Char} (digit : c.isDigit = true) : isBlank c = false := by
  have other (mark : Char) (undigital : mark.isDigit = false) : (c == mark) = false :=
    beq_false_of_ne (Digits.ne_of_isDigit digit undigital)
  simp [isBlank, other ' ' rfl, other '\n' rfl, other '\t' rfl, other '\r' rfl]

theorem value_digit {c : Char} (digit : c.isDigit = true) (fuel : Nat) (text : List Char) :
    value (fuel + 1) (c :: text) = (number false (c :: text)).bind fun (n, rest) => some (.number n, rest) := by
  rw [value, skipBlanks_cons (isBlank_digit digit)]
  split <;> first | rfl | exact absurd (List.cons.inj ‹_›).1 (Digits.ne_of_isDigit digit rfl)

theorem value_number {n : Number} (proper : n.Proper) (fuel : Nat) {rest : List Char} (follows : Follows rest) :
    value (fuel + 1) (n.toChars ++ rest) = some (.number n, rest) := by
  have unsigned := number_chars proper follows
  have spelled : n.toChars ++ rest = (if n.negative then ['-'] else []) ++
      (Digits.ofNat n.whole ++ (fractionChars n.fraction ++ (exponentChars n.exponent ++ rest))) := by
    simp only [← List.append_assoc]
    rfl
  rw [spelled]
  cases negative : n.negative with
  | true =>
    rw [negative] at unsigned
    simp [value, skipBlanks_cons (c := '-') rfl, unsigned]
  | false =>
    rw [negative] at unsigned
    obtain ⟨c, more, whole, digit⟩ := Digits.ofNat_cons n.whole
    rw [whole] at unsigned ⊢
    simp only [Bool.false_eq_true, if_false, List.nil_append, List.cons_append] at unsigned ⊢
    rw [value_digit digit, unsigned]
    rfl

theorem value_array {c : Char} (solid : isBlank c = false) (unclosed : c ≠ ']') (fuel : Nat) (text : List Char) :
    value (fuel + 1) ('[' :: c :: text) = (items fuel (c :: text)).bind fun (found, rest) => some (.array found, rest) := by
  rw [value, skipBlanks_cons (c := '[') rfl]
  simp only [skipBlanks_cons solid]
  split
  next closed => exact absurd (List.cons.inj closed).1 unclosed
  next => rfl

theorem value_object (fuel : Nat) (text : List Char) :
    value (fuel + 1) ('\x7b' :: '"' :: text) =
      (fields fuel ('"' :: text)).bind fun (found, rest) => some (.object found, rest) := by
  rw [value, skipBlanks_cons (c := '\x7b') rfl]
  rfl

theorem toChars_head (j : Json) : ∃ c text, j.toChars = c :: text ∧ isBlank c = false ∧ c ≠ ']' := by
  cases j with
  | null => exact ⟨_, _, rfl, rfl, by decide⟩
  | bool value => cases value <;> exact ⟨_, _, rfl, rfl, by decide⟩
  | string text => exact ⟨_, _, rfl, rfl, by decide⟩
  | array items => exact ⟨_, _, rfl, rfl, by decide⟩
  | object fields => exact ⟨_, _, rfl, rfl, by decide⟩
  | number n =>
    cases negative : n.negative with
    | true => exact ⟨'-', _, by simp [toChars, Number.toChars, negative]; rfl, rfl, by decide⟩
    | false =>
      obtain ⟨c, more, whole, digit⟩ := Digits.ofNat_cons n.whole
      have unclosed : c ≠ ']' := Digits.ne_of_isDigit digit rfl
      exact ⟨c, _, by simp [toChars, Number.toChars, negative, whole]; rfl, isBlank_digit digit, unclosed⟩

theorem fieldChars_head (name : Option String) (first : Json) (more : List (Option String × Json)) :
    ∃ text, fieldChars ((name, first) :: more) = '"' :: text := by
  cases more with
  | nil => exact ⟨_, rfl⟩
  | cons next more => exact ⟨_, fieldChars.eq_3 name first (next :: more) nofun⟩

theorem itemChars_head (item : Json) (more : List Json) :
    ∃ c text, itemChars (item :: more) = c :: text ∧ isBlank c = false ∧ c ≠ ']' := by
  obtain ⟨c, text, spelled, solid, unclosed⟩ := toChars_head item
  cases more with
  | nil => exact ⟨c, text, by rw [itemChars, spelled], solid, unclosed⟩
  | cons next more => exact ⟨c, _, by rw [itemChars, spelled, List.cons_append]; exact nofun, solid, unclosed⟩

mutual

theorem value_toChars : (j : Json) → j.Proper → ∀ {fuel : Nat}, j.toChars.length ≤ fuel → ∀ {rest : List Char},
    Follows rest → value fuel (j.toChars ++ rest) = some (j, rest)
  | j, _, 0, fits, _, _ => by
    obtain ⟨c, text, spelled, _⟩ := toChars_head j
    simp [spelled] at fits
  | .null, _, fuel + 1, _, rest, _ => by simp [toChars, value, skipBlanks_cons, isBlank, expect]
  | .bool true, _, fuel + 1, _, rest, _ => by simp [toChars, value, skipBlanks_cons, isBlank, expect]
  | .bool false, _, fuel + 1, _, rest, _ => by simp [toChars, value, skipBlanks_cons, isBlank, expect]
  | .number n, proper, fuel + 1, _, rest, follows => value_number proper fuel follows
  | .string none, proper, fuel + 1, _, rest, _ => nomatch proper
  | .string (some text), _, fuel + 1, _, rest, _ => by
    simp [toChars, quote, value, skipBlanks_cons, isBlank, string_quoted]
  | .array [], _, fuel + 1, _, rest, _ => by simp [toChars, itemChars, value, skipBlanks_cons, isBlank]
  | .array (item :: more), proper, fuel + 1, fits, rest, _ => by
    obtain ⟨c, text, spelled, solid, unclosed⟩ := itemChars_head item more
    have shorter : (itemChars (item :: more)).length < fuel := by simp [toChars] at fits; omega
    have read := items_itemChars item more proper shorter rest
    rw [spelled, List.cons_append] at read
    have whole : (array (item :: more)).toChars ++ rest = '[' :: c :: (text ++ ']' :: rest) := by
      simp [toChars, spelled]
    rw [whole, value_array solid unclosed, read]
    rfl
  | .object [], _, fuel + 1, _, rest, _ => by simp [toChars, fieldChars, value, skipBlanks_cons, isBlank]
  | .object ((name, first) :: more), proper, fuel + 1, fits, rest, _ => by
    obtain ⟨text, spelled⟩ := fieldChars_head name first more
    have shorter : (fieldChars ((name, first) :: more)).length < fuel := by simp [toChars] at fits; omega
    have read := fields_fieldChars name first more proper shorter rest
    rw [spelled, List.cons_append] at read
    have whole : (object ((name, first) :: more)).toChars ++ rest = '\x7b' :: '"' :: (text ++ '\x7d' :: rest) := by
      simp [toChars, spelled]
    rw [whole, value_object, read]
    rfl

theorem items_itemChars : (item : Json) → (more : List Json) → ProperItems (item :: more) → ∀ {fuel : Nat},
    (itemChars (item :: more)).length < fuel → ∀ rest : List Char,
    items fuel (itemChars (item :: more) ++ ']' :: rest) = some (item :: more, rest)
  | item, [], proper, fuel + 1, fits, rest => by
    have read : value fuel (item.toChars ++ ']' :: rest) = some (item, ']' :: rest) :=
      value_toChars item proper.1 (Nat.le_of_lt_succ fits) (follows_cons (.inr (.inl rfl)))
    simp only [items, itemChars, read, Option.bind_eq_bind, Option.bind_some, skipBlanks_cons (c := ']') rfl]
  | item, next :: more, proper, fuel + 1, fits, rest => by
    have spelled : itemChars (item :: next :: more) = item.toChars ++ ',' :: itemChars (next :: more) :=
      itemChars.eq_3 item (next :: more) nofun
    have both : item.toChars.length + (itemChars (next :: more)).length < fuel := by simp [spelled] at fits; omega
    have first_fits : item.toChars.length ≤ fuel := by omega
    have more_fit : (itemChars (next :: more)).length < fuel := by omega
    have others := items_itemChars next more proper.2 more_fit rest
    have read : value fuel (item.toChars ++ ',' :: (itemChars (next :: more) ++ ']' :: rest)) =
        some (item, ',' :: (itemChars (next :: more) ++ ']' :: rest)) :=
      value_toChars item proper.1 first_fits (follows_cons (.inl rfl))
    simp only [spelled, List.append_assoc, List.cons_append, items, read, others, Option.bind_eq_bind, Option.bind_some,
      skipBlanks_cons (c := ',') rfl]

theorem fields_fieldChars : (name : Option String) → (first : Json) → (more : List (Option String × Json)) →
    ProperFields ((name, first) :: more) → ∀ {fuel : Nat}, (fieldChars ((name, first) :: more)).length < fuel →
    ∀ rest : List Char, fields fuel (fieldChars ((name, first) :: more) ++ '\x7d' :: rest) = some ((name, first) :: more, rest)
  | none, _, _, proper, _, _, _ => nomatch proper.1
  | some name, first, [], proper, fuel + 1, fits, rest => by
    have shorter : first.toChars.length ≤ fuel := by simp [fieldChars] at fits; omega
    have read : value fuel (first.toChars ++ '\x7d' :: rest) = some (first, '\x7d' :: rest) :=
      value_toChars first proper.2.1 shorter (follows_cons (.inr (.inr rfl)))
    simp [fields, fieldChars, quote, string_quoted, read, skipBlanks_cons, isBlank]
  | some name, first, (other, second) :: more, proper, fuel + 1, fits, rest => by
    have spelled : fieldChars ((some name, first) :: (other, second) :: more) =
        quote name ++ ':' :: first.toChars ++ ',' :: fieldChars ((other, second) :: more) :=
      fieldChars.eq_3 (some name) first ((other, second) :: more) nofun
    have both : first.toChars.length + (fieldChars ((other, second) :: more)).length < fuel := by simp [spelled] at fits; omega
    have first_fits : first.toChars.length ≤ fuel := by omega
    have more_fit : (fieldChars ((other, second) :: more)).length < fuel := by omega
    have others := fields_fieldChars other second more proper.2.2 more_fit rest
    have read : value fuel (first.toChars ++ ',' :: (fieldChars ((other, second) :: more) ++ '\x7d' :: rest)) =
        some (first, ',' :: (fieldChars ((other, second) :: more) ++ '\x7d' :: rest)) :=
      value_toChars first proper.2.1 first_fits (follows_cons (.inl rfl))
    simp [fields, spelled, quote, string_quoted, read, others, skipBlanks_cons, isBlank]

end

end Parser

theorem parse_render (j : Json) (proper : j.Proper) : parse j.render = some j := by
  have fits : j.toChars.length ≤ 2 * j.toChars.length + 2 := by omega
  have read := Parser.value_toChars j proper fits Parser.follows_nil
  have whole : parseChars j.toChars = some j := by
    unfold parseChars
    rw [List.append_nil] at read
    rw [read]
    rfl
  rw [parse, render, String.toList_ofList, whole]

end Json

end Countersign
