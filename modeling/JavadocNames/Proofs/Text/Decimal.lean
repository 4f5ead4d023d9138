import JavadocNames.Text.Basic

/-!
# Decimal numbers

A number is written in digits, without a zero in front, and its digits give it back.
-/

namespace JavadocNames

namespace Text

theorem isDigit_of_mem_decimal {n : Nat} {c : Char} (h : c ∈ decimal n) : c.isDigit = true :=
  Nat.isDigit_of_mem_toDigits (by decide) (by decide) h

/-- A character that is no digit does not occur in a number. -/
theorem not_mem_decimal {c : Char} (h : c.isDigit = false) (n : Nat) : c ∉ decimal n := by
  intro hc
  rw [isDigit_of_mem_decimal hc] at h
  contradiction

theorem decimal_ne_nil (n : Nat) : decimal n ≠ [] :=
  Nat.toDigits_ne_nil

theorem ofDigitChars_decimal (n : Nat) : Nat.ofDigitChars 10 (decimal n) 0 = n :=
  Nat.ofDigitChars_ten_toDigits

theorem decimal_injective : Function.Injective decimal := by
  intro m n h
  rw [← ofDigitChars_decimal m, ← ofDigitChars_decimal n, h]

/-- Only the number zero starts with a zero. -/
theorem head?_decimal {n : Nat} (h : 0 < n) : (decimal n).head? ≠ some '0' := by
  induction n using Nat.strongRecOn with
  | ind n ih =>
      rw [decimal, Nat.toDigits_eq_if (by decide)]
      split
      · rename_i hn
        simp only [List.head?_cons, ne_eq, Option.some.injEq]
        intro hdigit
        have hvalue := congrArg Char.toNat hdigit
        rw [Nat.toNat_digitChar_of_lt_ten hn] at hvalue
        change 48 + n = 48 at hvalue
        omega
      · have hfront := ih (n / 10) (by omega) (by omega)
        rw [decimal] at hfront
        rw [List.head?_append]
        cases hdigits : Nat.toDigits 10 (n / 10) with
        | nil => exact absurd hdigits Nat.toDigits_ne_nil
        | cons c rest =>
            rw [hdigits] at hfront
            exact hfront

end Text

end JavadocNames
