import Countersign.Decimal.Text
import Countersign.Proofs.DigitText

/-!
A decimal that is written is read back with its value and its scale. The reader takes one digit at a
time and could stop short for want of room; the size of a decimal that exists leaves room for every
digit of it. Only the sign of a zero is lost.
-/

namespace Countersign

namespace Decimal

theorem readDigits_run {run : List Char} (digital : ∀ c ∈ run, c.isDigit = true) (seen point : Bool) (size scale : Nat)
    (fits : Nat.ofDigitChars 10 run size < bound) (room : point = true → scale + run.length ≤ 28) (rest : List Char) :
    readDigits seen point size scale (run ++ rest) =
      readDigits (seen || !run.isEmpty) point (Nat.ofDigitChars 10 run size) (if point then scale + run.length else scale)
        rest := by
  induction run generalizing seen size scale with
  | nil => simp
  | cons c run ih =>
    have digit : c.isDigit = true := digital c List.mem_cons_self
    rw [Digits.ofDigitChars_cons] at fits ⊢
    have next : size * 10 + Digits.digit c < bound := Nat.lt_of_le_of_lt (Digits.le_ofDigitChars run _) fits
    have space : (point && scale == 28) = false := by
      cases point with
      | false => rfl
      | true =>
        have fewer := room rfl
        simp only [List.length_cons] at fewer
        simp; omega
    rw [List.cons_append, readDigits]
    simp only [space, digit, next, if_true, if_false, Bool.false_eq_true]
    rw [ih (fun d mem => digital d (List.mem_cons_of_mem c mem)) _ _ _ fits ?_]
    · cases point <;> simp [Nat.add_assoc, Nat.add_comm 1]
    · intro pointed
      have fewer := room pointed
      simp only [List.length_cons] at fewer
      simp only [pointed, if_true]
      omega

def digitChars (d : Decimal) : List Char :=
  let whole := Digits.ofNat (d.size / Digits.tenPow d.scale)
  if d.scale = 0 then whole else whole ++ '.' :: Digits.fixed d.scale d.size

theorem toChars_eq (d : Decimal) : d.toChars = (if d.negative then ['-'] else []) ++ d.digitChars := by
  by_cases integral : d.scale = 0 <;> simp [toChars, digitChars, integral]

theorem readDigits_digitChars (d : Decimal) : readDigits false false 0 0 d.digitChars = some (d.size, d.scale) := by
  let whole := Digits.ofNat (d.size / Digits.tenPow d.scale)
  have value : Nat.ofDigitChars 10 whole 0 = d.size / Digits.tenPow d.scale := Digits.value_ofNat _
  have nonempty : whole.isEmpty = false := List.isEmpty_eq_false_iff.mpr (Digits.ofNat_ne_nil _)
  have fits : Nat.ofDigitChars 10 whole 0 < bound := value ▸ Nat.lt_of_le_of_lt (Nat.div_le_self ..) d.size_lt
  have read (rest : List Char) : readDigits false false 0 0 (whole ++ rest) =
      readDigits true false (d.size / Digits.tenPow d.scale) 0 rest := by
    rw [readDigits_run (fun _ => Digits.isDigit_of_mem) false false 0 0 fits nofun, value, nonempty]
    rfl
  by_cases integral : d.scale = 0
  · have all : d.size / Digits.tenPow d.scale = d.size := by simp [integral]
    rw [digitChars, if_pos integral, ← List.append_nil (Digits.ofNat _), read, all, integral]
    rfl
  · have size : Nat.ofDigitChars 10 (Digits.fixed d.scale d.size) (d.size / Digits.tenPow d.scale) = d.size := by
      rw [Digits.ofDigitChars_fixed, Nat.div_add_mod]
    have room : 0 + (Digits.fixed d.scale d.size).length ≤ 28 := by simpa [Digits.length_fixed] using d.scale_le
    have decimals : readDigits true true (d.size / Digits.tenPow d.scale) 0 (Digits.fixed d.scale d.size ++ []) =
        some (d.size, d.scale) := by
      rw [readDigits_run (fun _ => Digits.isDigit_of_mem_fixed) true true _ 0 (size.symm ▸ d.size_lt) fun _ => room, size]
      simp [Digits.length_fixed, readDigits]
    rw [List.append_nil] at decimals
    rw [digitChars, if_neg integral, read, readDigits]
    simp [decimals]

theorem splitSign_toChars (d : Decimal) : splitSign d.toChars = (d.negative, d.digitChars) := by
  rw [toChars_eq]
  cases d.negative with
  | true => rfl
  | false =>
    obtain ⟨c, text, whole, digit⟩ := Digits.ofNat_cons (d.size / Digits.tenPow d.scale)
    have minus : c ≠ '-' := Digits.ne_of_isDigit digit rfl
    have plus : c ≠ '+' := Digits.ne_of_isDigit digit rfl
    have spelled : ∃ text, d.digitChars = c :: text := by
      unfold digitChars
      rw [whole]
      split <;> exact ⟨_, rfl⟩
    obtain ⟨text, spelled⟩ := spelled
    simp [spelled, splitSign, minus, plus]

/-- A decimal is read back from its text, but for the sign of a zero. -/
theorem ofText?_toText (d : Decimal) : ofText? d.toText = some d.unsignZero := by
  have plain : readPlain d.toChars = some d.unsignZero := by
    unfold readPlain
    rw [splitSign_toChars]
    simp only [Option.bind_eq_bind, readDigits_digitChars, Option.bind_some, ofParts?, dif_pos (And.intro d.size_lt d.scale_le)]
    rfl
  simp [ofText?, toText, readChars, plain]

end Decimal

end Countersign
