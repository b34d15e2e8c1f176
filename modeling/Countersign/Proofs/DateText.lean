import Countersign.Calendar.Date
import Countersign.Proofs.DigitText

/-!
A date that is written is read back. Years of four digits and years with a sign are read by two
rules, which agree on what is a year; months and days have two digits in every text.
-/

namespace Countersign

namespace Blank

theorem trimStart_cons {c : Char} (solid : isBlank c = false) (text : List Char) : trimStart (c :: text) = c :: text := by
  simp [trimStart, solid]

theorem isBlank_digit {c : Char} (digit : c.isDigit = true) : isBlank c = false := by
  have range : 48 ≤ c.toNat ∧ c.toNat ≤ 57 := by
    simpa [Char.isDigit, UInt32.le_iff_toNat_le] using digit
  simp [isBlank]
  omega

end Blank

namespace Date

open Digits (Undigital takeWhile_digits)

theorem readNumber_run {run rest : List Char} {width : Nat} (digital : ∀ c ∈ run, c.isDigit = true) (nonempty : run ≠ [])
    (wide : run.length ≤ width) (ends : run.length = width ∨ Undigital rest)
    (fits : Digits.value run < UInt64.size / 2) :
    readNumber width (run ++ rest) = .ok (Digits.value run, rest) := by
  have taken : ((run ++ rest).take width).takeWhile Char.isDigit = run := by
    rw [List.take_append, List.take_of_length_le wide]
    apply takeWhile_digits digital
    rcases ends with exact_ | ends
    · simp [exact_, Undigital]
    · intro c first
      rw [List.head?_take] at first
      split at first
      · cases first
      · exact ends c first
  have more : (run ++ rest).isEmpty = false := by simp [nonempty]
  unfold readNumber
  simp only [taken, more, List.isEmpty_iff, nonempty, fits, List.drop_left, if_true, if_false, Bool.false_eq_true]

theorem fixed_cons (count n : Nat) : ∃ c text, Digits.fixed (count + 1) n = c :: text ∧ c.isDigit = true := by
  cases spelled : Digits.fixed (count + 1) n with
  | nil => simpa [spelled] using Digits.length_fixed (count + 1) n
  | cons c text => exact ⟨c, text, rfl, @Digits.isDigit_of_mem_fixed (count + 1) n c (by simp [spelled])⟩

theorem readNumber_fixed {count n : Nat} (fits : n < Digits.tenPow (count + 1))
    (short : Digits.tenPow (count + 1) ≤ UInt64.size / 2) (rest : List Char) :
    readNumber (count + 1) (Digits.fixed (count + 1) n ++ rest) = .ok (n, rest) := by
  have value : Digits.value (Digits.fixed (count + 1) n) = n := Digits.value_fixed fits
  have length : (Digits.fixed (count + 1) n).length = count + 1 := Digits.length_fixed (count + 1) n
  have nonempty : Digits.fixed (count + 1) n ≠ [] := List.ne_nil_of_length_eq_add_one length
  have small : Digits.value (Digits.fixed (count + 1) n) < UInt64.size / 2 := by
    rw [value]
    exact Nat.lt_of_lt_of_le fits short
  rw [readNumber_run (fun _ => Digits.isDigit_of_mem_fixed) nonempty (Nat.le_of_eq length) (.inl length) small, value]

theorem bind_of_ok {α β : Type} {work : Except ReadError α} {answer : α} (done : work = .ok answer)
    (next : α → Except ReadError β) : (work >>= next) = next answer := by
  rw [done]
  rfl

theorem readMark_cons {mark : Char} (solid : Blank.isBlank mark = false) (rest : List Char) :
    readMark mark (mark :: rest) = .ok rest := by
  simp [readMark, Blank.trimStart_cons solid]

theorem readPart_fixed {low high n : Nat} (least : low ≤ n) (most : n ≤ high) (short : high < 100) (rest : List Char) :
    readPart low high (Digits.fixed 2 n ++ rest) = .ok (n, rest) := by
  obtain ⟨c, text, spelled, digit⟩ := fixed_cons 1 n
  have solid : Blank.trimStart (Digits.fixed 2 n ++ rest) = Digits.fixed 2 n ++ rest := by
    rw [spelled]
    exact Blank.trimStart_cons (Blank.isBlank_digit digit) (text ++ rest)
  have fits : n < Digits.tenPow 2 := Nat.lt_of_le_of_lt most short
  unfold readPart
  rw [solid, readNumber_fixed fits (by decide) rest]
  simp [bind, Except.bind, least, most]

/-! The bounds of a year are compared once its number is known: for one that is not, the comparison
would be unfolded unit by unit. -/

theorem readYear_plain {year : Int} (plain : 0 ≤ year ∧ year ≤ 9999) (rest : List Char) :
    readYear (Digits.fixed 4 year.toNat ++ rest) = .ok (year, rest) := by
  obtain ⟨c, text, spelled, digit⟩ := fixed_cons 3 year.toNat
  have bound : Digits.tenPow 4 = 10000 := by decide
  have fits : year.toNat < Digits.tenPow 4 := by omega
  have read := readNumber_fixed fits (by decide) rest
  have value : (year.toNat : Int) = year := by omega
  have known : -2147483648 ≤ year ∧ year < 2147483648 := by omega
  rw [spelled, List.cons_append] at read ⊢
  unfold readYear
  rw [Blank.trimStart_cons (Blank.isBlank_digit digit)]
  split
  next minus => exact absurd (List.cons.inj minus).1 (Digits.ne_of_isDigit digit rfl)
  next plus => exact absurd (List.cons.inj plus).1 (Digits.ne_of_isDigit digit rfl)
  next =>
    refine (bind_of_ok read _).trans ((bind_of_ok (Eq.refl (Except.ok ((year.toNat : Int), rest))) _).trans ?_)
    rw [value]
    exact if_pos known

theorem readYear_signed {year : Int} (least : -262143 ≤ year) (most : year ≤ 262142) (rest : List Char) :
    readYear ((if year < 0 then '-' else '+') :: (Digits.atLeast 4 year.natAbs ++ '-' :: rest)) =
      .ok (year, '-' :: rest) := by
  have known : -2147483648 ≤ year ∧ year < 2147483648 := by omega
  have nonempty : Digits.atLeast 4 year.natAbs ≠ [] := by simp [Digits.atLeast, Digits.ofNat_ne_nil]
  have bound : 262144 ≤ UInt64.size / 2 := by decide
  have fits : Digits.value (Digits.atLeast 4 year.natAbs) < UInt64.size / 2 := by
    rw [Digits.value_atLeast]
    omega
  have read : readNumber (Digits.atLeast 4 year.natAbs ++ '-' :: rest).length (Digits.atLeast 4 year.natAbs ++ '-' :: rest) =
      .ok (year.natAbs, '-' :: rest) := by
    rw [readNumber_run (fun _ => Digits.isDigit_of_mem_atLeast) nonempty (by simp) (.inr (by simp [Undigital])) fits,
      Digits.value_atLeast]
  unfold readYear
  by_cases before : year < 0
  · have value : -(year.natAbs : Int) = year := by omega
    rw [if_pos before, Blank.trimStart_cons (by decide)]
    refine (bind_of_ok read _).trans ((bind_of_ok (Eq.refl (Except.ok (-(year.natAbs : Int), '-' :: rest))) _).trans ?_)
    rw [value]
    exact if_pos known
  · have value : (year.natAbs : Int) = year := by omega
    rw [if_neg before, Blank.trimStart_cons (by decide)]
    refine (bind_of_ok read _).trans ((bind_of_ok (Eq.refl (Except.ok ((year.natAbs : Int), '-' :: rest))) _).trans ?_)
    rw [value]
    exact if_pos known

theorem readYear_yearChars {year : Int} (least : -262143 ≤ year) (most : year ≤ 262142) (rest : List Char) :
    readYear (yearChars year ++ '-' :: rest) = .ok (year, '-' :: rest) := by
  unfold yearChars
  split
  next plain => exact readYear_plain plain ('-' :: rest)
  next => exact readYear_signed least most rest

theorem ofText_toText (date : Date) : ofText date.toText = .ok date := by
  obtain ⟨least, most, month_pos, month_le, day_pos, day_le⟩ := date.valid
  have day_le : date.day ≤ 31 := by
    unfold daysInMonth at day_le
    split at day_le <;> split at day_le <;> omega
  have parts : readParts date.toChars = .ok (date.year, date.month, date.day, []) := by
    have day := readPart_fixed day_pos day_le (by decide) []
    rw [List.append_nil] at day
    have dash (rest : List Char) : readMark '-' ('-' :: rest) = .ok rest := readMark_cons rfl rest
    unfold readParts toChars
    rw [List.append_assoc]
    simp only [List.cons_append, readYear_yearChars least most, dash,
      readPart_fixed month_pos month_le (by decide), day, bind, Except.bind]
  have whole : of? date.year date.month date.day = some date := dif_pos date.valid
  simp only [ofText, toText, String.toList_ofList, ofChars, parts, whole, bind, Except.bind]
  rfl

end Date

end Countersign
