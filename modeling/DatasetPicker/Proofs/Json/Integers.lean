import DatasetPicker.Json.Reader
import DatasetPicker.Json.Writer

/-!
# Integers read back

An integer is written by its decimal digits, without a zero in front. Before a sign that ends
a value no digit, point or exponent goes on, so exactly these digits are read, and an integer
of 64 bits is their value.
-/

namespace DatasetPicker.Json

/-- What may come after a value: nothing, or a sign that separates or closes. -/
def Closes (rest : List Char) : Prop :=
  ∀ sign ∈ rest.head?, sign = ',' ∨ sign = ']' ∨ sign = '\x7d'

/-- Such a sign is no digit. -/
theorem Closes.digits {rest : List Char} (closes : Closes rest) :
    ∀ sign ∈ rest.head?, isDigit sign = false := by
  intro sign first
  obtain rfl | rfl | rfl := closes sign first <;> rfl

/-- Such a sign is no point. -/
theorem Closes.fraction? {rest : List Char} (closes : Closes rest) :
    fraction? rest = some ([], rest) := by
  cases rest with
  | nil => rfl
  | cons sign tail =>
    obtain rfl | rfl | rfl := closes sign rfl <;> rfl

/-- Such a sign begins no exponent. -/
theorem Closes.exponent? {rest : List Char} (closes : Closes rest) :
    exponent? rest = some (none, rest) := by
  cases rest with
  | nil => rfl
  | cons sign tail =>
    obtain rfl | rfl | rfl := closes sign rfl <;> rfl

/-! ## Digits -/

/-- Digits are read up to the first sign that is none. -/
theorem digits?_eq_some_iff {chars digits left : List Char} :
    digits? chars = some (digits, left) ↔
      chars = digits ++ left ∧ digits ≠ [] ∧ (∀ char ∈ digits, isDigit char = true) ∧
        ∀ sign ∈ left.head?, isDigit sign = false := by
  constructor
  · intro read
    unfold digits? at read
    split at read
    · contradiction
    · rename_i some
      cases read
      refine ⟨List.takeWhile_append_dropWhile.symm, some, ?_, ?_⟩
      · intro char among
        exact List.all_eq_true.mp List.all_takeWhile char among
      · intro sign first
        have stops := List.head?_dropWhile_not isDigit chars
        rw [Option.mem_def.mp first] at stops
        simpa using stops
  · rintro ⟨rfl, some, numeric, stops⟩
    have behind : left.takeWhile isDigit = [] ∧ left.dropWhile isDigit = left := by
      cases left with
      | nil => exact ⟨rfl, rfl⟩
      | cons sign tail => simp [stops sign rfl]
    rw [digits?, List.takeWhile_append_of_pos numeric, List.dropWhile_append_of_pos numeric,
      behind.1, behind.2, List.append_nil]
    split
    · contradiction
    · rfl

/-- The digits of a number are digits. -/
theorem toDigits_isDigit (value : Nat) : ∀ char ∈ Nat.toDigits 10 value, isDigit char = true :=
  fun _ among => Nat.isDigit_of_mem_toDigits (by decide) (by decide) among

/-- The digits of a number stand for it. -/
theorem decimal_toDigits (value : Nat) : decimal (Nat.toDigits 10 value) = value := by
  have same : decimal (Nat.toDigits 10 value) =
      Nat.ofDigitChars 10 (Nat.toDigits 10 value) 0 := by
    simp only [decimal, Nat.ofDigitChars_eq_foldl, Nat.mul_comm]
  rw [same, Nat.ofDigitChars_ten_toDigits]

/-- Only zero is written with a zero in front. -/
theorem toDigits_head (value : Nat) (zero : (Nat.toDigits 10 value).head? = some '0') :
    value = 0 := by
  induction value using Nat.strongRecOn with
  | ind value ih =>
    by_cases small : value < 10
    · have digit : ∀ value < 10, Nat.digitChar value = '0' → value = 0 := by decide
      rw [Nat.toDigits_of_lt_base small] at zero
      exact digit value small (Option.some.inj zero)
    · -- The digits in front are those of the tenth, which is less and not zero.
      rw [Nat.toDigits_of_base_le (by decide) (by omega)] at zero
      cases front : Nat.toDigits 10 (value / 10) with
      | nil => exact absurd front Nat.toDigits_ne_nil
      | cons first others =>
        rw [front] at zero
        have tenth := ih (value / 10) (by omega) (front ▸ zero)
        omega

/-- The digits of a number are read as a whole. -/
theorem whole?_toDigits (value : Nat) {rest : List Char} (closes : Closes rest) :
    whole? (Nat.toDigits 10 value ++ rest) = some (Nat.toDigits 10 value, rest) := by
  have read : digits? (Nat.toDigits 10 value ++ rest) = some (Nat.toDigits 10 value, rest) :=
    digits?_eq_some_iff.mpr
      ⟨rfl, Nat.toDigits_ne_nil, toDigits_isDigit value, closes.digits⟩
  simp only [whole?, read, Option.bind_eq_bind, Option.bind_some]
  split
  · rename_i second tail written
    have zero := toDigits_head value (by rw [written]; rfl)
    rw [zero, Nat.toDigits_zero] at written
    cases written
  · rfl

/-! ## Integers -/

/-- The numeral that an integer is written as. -/
def integerNumeral (value : Int) : Numeral :=
  { negative := decide (value < 0), whole := Nat.toDigits 10 value.natAbs }

/-- Behind its sign, a written integer is read as its numeral. -/
theorem numeral?_toDigits (value : Int) {rest : List Char} (closes : Closes rest) :
    numeral? (decide (value < 0)) (Nat.toDigits 10 value.natAbs ++ rest) =
      some (integerNumeral value, rest) := by
  simp only [numeral?, whole?_toDigits value.natAbs closes, closes.fraction?, closes.exponent?,
    Option.bind_eq_bind, Option.bind_some]
  rfl

/-- The numeral of an integer of 64 bits means this integer. -/
theorem integerNumeral_value? (value : Int) (fits : isInteger64 value = true) :
    (integerNumeral value).value? = some (.integer value) := by
  have half : Int.pow 2 63 = 9223372036854775808 := rfl
  have full : Int.pow 2 64 = 18446744073709551616 := rfl
  have whole : (integerNumeral value).integer? = some value := by
    simp only [isInteger64, Bool.and_eq_true, decide_eq_true_eq, half, full] at fits
    simp only [Numeral.integer?, integerNumeral, decimal_toDigits, half, full, List.isEmpty_nil,
      Option.isSome_none, Bool.not_true, Bool.or_self, Bool.false_eq_true, ↓reduceIte,
      decide_eq_true_eq]
    by_cases negative : value < 0
    · have same : -(value.natAbs : Int) = value := by omega
      rw [if_pos negative, if_pos (by omega), same]
    · have same : (value.natAbs : Int) = value := by omega
      rw [if_neg negative, same, if_pos fits.2]
  rw [Numeral.value?, whole]

/-- A written integer does not break the line. -/
theorem writeInteger_unbroken (value : Int) : '\n' ∉ writeInteger value := by
  intro broken
  obtain sign | digit := List.mem_append.mp broken
  · split at sign
    · contradiction
    · contradiction
  · have digit := toDigits_isDigit value.natAbs '\n' digit
    contradiction

end DatasetPicker.Json
