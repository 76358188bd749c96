import Mathlib.Data.Nat.Digits.Defs
import ShaderBuild.Decimal.Integer
import ShaderBuild.Text.Hexadecimal

/-! # Reading hexadecimal digits

The digits of a number are read as that number, whether they are cut to a width or padded to one.
-/

namespace ShaderBuild.Text

/-- One more digit of a number that is read from its first digit on. -/
def hexStep (value : Nat) (c : Char) : Option Nat := (hexValue? c).map (16 * value + ·)

theorem hexNumber?_eq (digits : List Char) : hexNumber? digits = digits.foldlM hexStep 0 := rfl

theorem hexValue?_hexDigit {n : Nat} (small : n < 16) : hexValue? (hexDigit n) = some n := by
  have all : ∀ n < 16, hexValue? (hexDigit n) = some n := by decide
  exact all n small

theorem hexValue?_digitChar {n : Nat} (small : n < 16) : hexValue? n.digitChar = some n := by
  have all : ∀ n < 16, hexValue? (Nat.digitChar n) = some n := by decide
  exact all n small

theorem length_hexFixed (width n : Nat) : (hexFixed width n).length = width := by
  induction width generalizing n with
  | zero => rfl
  | succ width ih => rw [hexFixed, List.length_append, ih, List.length_singleton]

/-- Digits of a fixed width shift what was read before them by that width. -/
theorem foldlM_hexFixed (width n value : Nat) :
    (hexFixed width n).foldlM hexStep value = some (value * 16 ^ width + n % 16 ^ width) := by
  induction width generalizing n with
  | zero => simp [hexFixed, Nat.mod_one]
  | succ width ih =>
      have last : hexValue? (hexDigit (n % 16)) = some (n % 16) :=
        hexValue?_hexDigit (Nat.mod_lt n (by decide))
      have cut : n % 16 ^ (width + 1) = 16 * (n / 16 % 16 ^ width) + n % 16 := by
        rw [Nat.pow_succ', Nat.mod_mul, Nat.add_comm]
      rw [hexFixed, List.foldlM_append, ih]
      simp only [hexStep, last, Option.bind_eq_bind, Option.bind_some, List.foldlM_cons, Option.map_some,
        List.foldlM_nil, Option.pure_def, cut]
      congr 1
      ring

theorem hexNumber?_hexFixed {width n : Nat} (fits : n < 16 ^ width) :
    hexNumber? (hexFixed width n) = some n := by
  rw [hexNumber?_eq, foldlM_hexFixed, Nat.zero_mul, Nat.zero_add, Nat.mod_eq_of_lt fits]

theorem hexNumber?_toDigits (n : Nat) : hexNumber? (Nat.toDigits 16 n) = some n := by
  induction n using Nat.strongRecOn with
  | ind n ih =>
      by_cases small : n < 16
      · rw [Nat.toDigits_of_lt_base small]
        simp [hexNumber?, hexValue?_digitChar small]
      · have large : 16 ≤ n := Nat.le_of_not_lt small
        have before : n / 16 < n := Nat.div_lt_self (by omega) (by decide)
        rw [Nat.toDigits_of_base_le (by decide) large, hexNumber?_eq, List.foldlM_append,
          ← hexNumber?_eq, ih _ before]
        have last := hexValue?_digitChar (Nat.mod_lt n (show 0 < 16 by decide))
        simp only [hexStep, last, Option.bind_eq_bind, Option.bind_some, List.foldlM_cons,
          Option.map_some, List.foldlM_nil, Option.pure_def, Nat.div_add_mod]

theorem digitsIn?_concat {base value digit : Nat} {digits : List Char} (narrow : base ≤ 16)
    (small : digit < base) (read : Decimal.digitsIn? base digits = some value) :
    Decimal.digitsIn? base (digits ++ [digit.digitChar]) = some (base * value + digit) := by
  rw [Decimal.digitsIn?] at read ⊢
  simp [List.foldlM_append, read, hexValue?_digitChar (Nat.lt_of_lt_of_le small narrow), small]

/-- The digits of a number are read as that number in their base. -/
theorem digitsIn?_toDigits {base : Nat} (wide : 1 < base) (narrow : base ≤ 16) (n : Nat) :
    Decimal.digitsIn? base (Nat.toDigits base n) = some n := by
  induction n using Nat.strongRecOn with
  | ind n ih =>
      by_cases small : n < base
      · have none : Decimal.digitsIn? base [] = some 0 := rfl
        rw [Nat.toDigits_of_lt_base small]
        simpa using digitsIn?_concat narrow small none
      · have large : base ≤ n := Nat.le_of_not_lt small
        have before : n / base < n := Nat.div_lt_self (by omega) wide
        rw [Nat.toDigits_of_base_le wide large,
          digitsIn?_concat narrow (Nat.mod_lt n (by omega)) (ih _ before), Nat.div_add_mod]

theorem hexNumber?_replicate_append (count : Nat) (digits : List Char) :
    hexNumber? (List.replicate count '0' ++ digits) = hexNumber? digits := by
  induction count with
  | zero => rfl
  | succ count ih =>
      rw [List.replicate_succ, List.cons_append, hexNumber?_eq, List.foldlM_cons]
      exact ih

theorem hexNumber?_hexPadded (width n : Nat) : hexNumber? (hexPadded width n) = some n := by
  rw [hexPadded, hexNumber?_replicate_append, hexNumber?_toDigits]

theorem hexPadded_ne_nil (width n : Nat) : hexPadded width n ≠ [] := by
  have some : Nat.toDigits 16 n ≠ [] := List.ne_nil_of_length_pos Nat.length_toDigits_pos
  simp [hexPadded, some]

/-! ## Which characters digits are -/

theorem exists_digit_of_mem_toDigits {base : Nat} (wide : 1 < base) (n : Nat) :
    ∀ c ∈ Nat.toDigits base n, ∃ digit < base, c = digit.digitChar := by
  induction n using Nat.strongRecOn with
  | ind n ih =>
      intro c member
      by_cases small : n < base
      · rw [Nat.toDigits_of_lt_base small] at member
        exact ⟨n, small, List.mem_singleton.mp member⟩
      · have large : base ≤ n := Nat.le_of_not_lt small
        rw [Nat.toDigits_of_base_le wide large] at member
        rcases List.mem_append.mp member with earlier | last
        · exact ih _ (Nat.div_lt_self (by omega) wide) c earlier
        · exact ⟨n % base, Nat.mod_lt n (by omega), List.mem_singleton.mp last⟩

theorem exists_digit_of_mem_hexPadded (width n : Nat) :
    ∀ c ∈ hexPadded width n, ∃ digit < 16, c = digit.digitChar := by
  intro c member
  rcases List.mem_append.mp member with zero | digit
  · exact ⟨0, by decide, List.eq_of_mem_replicate zero⟩
  · exact exists_digit_of_mem_toDigits (by decide) n c digit

theorem exists_digit_of_mem_hexFixed (width n : Nat) :
    ∀ c ∈ hexFixed width n, ∃ digit < 16, c = hexDigit digit := by
  induction width generalizing n with
  | zero => exact fun c none => absurd none List.not_mem_nil
  | succ width ih =>
      intro c member
      rcases List.mem_append.mp member with earlier | last
      · exact ih _ c earlier
      · exact ⟨n % 16, Nat.mod_lt n (by decide), List.mem_singleton.mp last⟩

end ShaderBuild.Text
