import Countersign.Digits
import Mathlib.Data.List.Basic

/-!
Numbers as runs of digits: how they start, and what they are read back as after the digits that stand
before them.
-/

namespace Countersign.Digits

theorem isDigit_of_mem {n : Nat} {c : Char} (mem : c ∈ ofNat n) : c.isDigit = true :=
  Nat.isDigit_of_mem_toDigits (by decide) (by decide) mem

theorem ofNat_ne_nil (n : Nat) : ofNat n ≠ [] := Nat.toDigits_ne_nil

theorem ofNat_cons (n : Nat) : ∃ c text, ofNat n = c :: text ∧ c.isDigit = true := by
  cases spelled : ofNat n with
  | nil => exact absurd spelled (ofNat_ne_nil n)
  | cons c text => exact ⟨c, text, rfl, isDigit_of_mem (n := n) (by simp [spelled])⟩

theorem ne_of_isDigit {c mark : Char} (digit : c.isDigit = true) (other : mark.isDigit = false) : c ≠ mark := by
  rintro rfl
  rw [digit] at other
  cases other

theorem read?_ofNat (n : Nat) : read? (ofNat n) = some n := by
  have digits : (ofNat n).all Char.isDigit = true := List.all_eq_true.mpr fun _ mem => isDigit_of_mem mem
  rw [read?, if_pos ⟨ofNat_ne_nil n, digits⟩, value_ofNat]

theorem eq_zero_of_head {n : Nat} (leads : (ofNat n).head? = some '0') : n = 0 := by
  induction n using Nat.strongRecOn with
  | ind n ih =>
    by_cases single : n < 10
    · have only_zero : ∀ k < 10, some (Nat.digitChar k) = some '0' → k = 0 := by decide
      rw [ofNat, Nat.toDigits_of_lt_base single, List.head?_singleton] at leads
      exact only_zero n single leads
    · have longer : ofNat n = ofNat (n / 10) ++ [Nat.digitChar (n % 10)] :=
        Nat.toDigits_of_base_le (by decide) (Nat.le_of_not_lt single)
      rw [longer, List.head?_append_of_ne_nil _ (ofNat_ne_nil _)] at leads
      have smaller : n / 10 = 0 := ih (n / 10) (by omega) leads
      omega

theorem tenPow_succ (n : Nat) : tenPow (n + 1) = 10 * tenPow n := Nat.pow_succ'

theorem isDigit_of_mem_fixed {count n : Nat} {c : Char} (mem : c ∈ fixed count n) : c.isDigit = true := by
  induction count generalizing n with
  | zero => exact absurd mem List.not_mem_nil
  | succ count ih =>
    have digits : ∀ d < 10, (Nat.digitChar d).isDigit = true := by decide
    rw [fixed, List.mem_append, List.mem_singleton] at mem
    rcases mem with earlier | rfl
    · exact ih earlier
    · exact digits (n % 10) (Nat.mod_lt n (by decide))

theorem ofDigitChars_fixed (count n before : Nat) :
    Nat.ofDigitChars 10 (fixed count n) before = tenPow count * before + n % tenPow count := by
  induction count generalizing n with
  | zero => simp [fixed, Nat.mod_one]
  | succ count ih =>
    have last : n % 10 < 10 := Nat.mod_lt n (by decide)
    calc
      Nat.ofDigitChars 10 (fixed (count + 1) n) before = 10 * Nat.ofDigitChars 10 (fixed count (n / 10)) before + n % 10 := by
        rw [fixed, Nat.ofDigitChars_append, Nat.ofDigitChars_cons_digitChar_of_lt_ten last, Nat.ofDigitChars_nil]
      _ = tenPow (count + 1) * before + (n % 10 + 10 * (n / 10 % tenPow count)) := by
        rw [ih, tenPow_succ, Nat.mul_add, Nat.mul_assoc]
        omega
      _ = tenPow (count + 1) * before + n % tenPow (count + 1) := by
        rw [tenPow_succ, Nat.mod_mul]

theorem value_fixed {count n : Nat} (fits : n < tenPow count) : value (fixed count n) = n := by
  rw [value, ofDigitChars_fixed, Nat.mul_zero, Nat.zero_add, Nat.mod_eq_of_lt fits]

theorem value_atLeast (count n : Nat) : value (atLeast count n) = n := by
  rw [value, atLeast, Nat.ofDigitChars_append, Nat.ofDigitChars_replicate_zero, Nat.mul_zero]
  exact value_ofNat n

theorem isDigit_of_mem_atLeast {count n : Nat} {c : Char} (mem : c ∈ atLeast count n) : c.isDigit = true := by
  rcases List.mem_append.mp mem with zero | digit
  · rw [List.eq_of_mem_replicate zero]
    rfl
  · exact isDigit_of_mem digit

theorem le_ofDigitChars (run : List Char) (n : Nat) : n ≤ Nat.ofDigitChars 10 run n := by
  rw [Nat.ofDigitChars_eq_ofDigitChars_zero]
  exact Nat.le_trans (Nat.le_mul_of_pos_left n (Nat.pow_pos (by decide))) (Nat.le_add_right ..)

theorem ofDigitChars_cons (c : Char) (run : List Char) (n : Nat) :
    Nat.ofDigitChars 10 (c :: run) n = Nat.ofDigitChars 10 run (n * 10 + digit c) := by
  rw [Nat.ofDigitChars_cons, Nat.mul_comm 10 n]
  rfl

/-! A run of digits and what follows it. -/

def Undigital (rest : List Char) : Prop := ∀ c, rest.head? = some c → c.isDigit = false

variable {run rest : List Char}

theorem takeWhile_digits (digital : ∀ c ∈ run, c.isDigit = true) (ends : Undigital rest) :
    (run ++ rest).takeWhile Char.isDigit = run := by
  rw [List.takeWhile_append_of_pos digital]
  cases rest with
  | nil => simp
  | cons c rest => simp [ends c rfl]

theorem dropWhile_digits (digital : ∀ c ∈ run, c.isDigit = true) (ends : Undigital rest) :
    (run ++ rest).dropWhile Char.isDigit = rest := by
  rw [List.dropWhile_append_of_pos digital]
  cases rest with
  | nil => rfl
  | cons c rest => simp [ends c rfl]

end Countersign.Digits
