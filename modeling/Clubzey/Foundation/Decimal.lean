import Mathlib

/-! Decimal text: padded and signed numerals, and the reading of digits that
undoes them. -/

namespace Clubzey.Foundation.Decimal

def value (digits : List Char) : Nat := Nat.ofDigitChars 10 digits 0

def padded (width number : Nat) : List Char := (Nat.toDigits 10 number).leftpad width '0'

def signed (number : Int) : List Char :=
  if number < 0 then '-' :: Nat.toDigits 10 number.natAbs else Nat.toDigits 10 number.natAbs

def takeDigits (count : Nat) (text : List Char) : Option (Nat × List Char) :=
  if (text.take count).length = count ∧ (text.take count).all Char.isDigit then
    some (value (text.take count), text.drop count)
  else none

theorem isDigit_toDigits {number : Nat} {char : Char} (member : char ∈ Nat.toDigits 10 number) :
    char.isDigit = true :=
  Nat.isDigit_of_mem_toDigits (by decide) (by decide) member

theorem isDigit_padded {width number : Nat} {char : Char} (member : char ∈ padded width number) :
    char.isDigit = true := by
  rcases List.mem_append.mp member with zero | digit
  · rw [List.eq_of_mem_replicate zero]
    decide
  · exact isDigit_toDigits digit

@[simp] theorem value_toDigits (number : Nat) : value (Nat.toDigits 10 number) = number :=
  Nat.ofDigitChars_ten_toDigits

@[simp] theorem value_padded (width number : Nat) : value (padded width number) = number := by
  simp [value, padded, List.leftpad, Nat.ofDigitChars_append]

theorem padded_injective {width first second : Nat} (same : padded width first = padded width second) : first = second := by
  have values := congrArg value same
  rwa [value_padded, value_padded] at values

theorem value_append (first rest : List Char) :
    value (first ++ rest) = 10 ^ rest.length * value first + value rest := by
  rw [value, Nat.ofDigitChars_append, Nat.ofDigitChars_eq_ofDigitChars_zero]
  rfl

theorem length_padded {width number : Nat} (positive : 0 < width) (fits : number < 10 ^ width) :
    (padded width number).length = width := by
  have short := Nat.length_toDigits_le_iff (by decide : 1 < 10) positive |>.mpr fits
  simp only [padded, List.length_leftpad]
  omega

theorem takeDigits_digits {digits rest : List Char} (all : ∀ char ∈ digits, char.isDigit = true) :
    takeDigits digits.length (digits ++ rest) = some (value digits, rest) := by
  have every : digits.all Char.isDigit = true := List.all_eq_true.mpr all
  simp [takeDigits, every]

theorem takeDigits_padded {width number : Nat} {rest : List Char} (positive : 0 < width)
    (fits : number < 10 ^ width) :
    takeDigits width (padded width number ++ rest) = some (number, rest) := by
  have all : ∀ char ∈ padded width number, char.isDigit = true := fun _ member => isDigit_padded member
  have read : takeDigits (padded width number).length (padded width number ++ rest) = _ := takeDigits_digits all
  rwa [length_padded positive fits, value_padded] at read

theorem takeDigits_short {count : Nat} {digits rest : List Char} {other : Char}
    (short : digits.length < count) (stop : other.isDigit = false) :
    takeDigits count (digits ++ other :: rest) = none := by
  have taken : other ∈ (digits ++ other :: rest).take count := by
    obtain ⟨more, rfl⟩ := Nat.exists_eq_add_of_lt short
    rw [Nat.add_assoc, List.take_append]
    simp
  have notAll : ((digits ++ other :: rest).take count).all Char.isDigit = false := by
    rw [← Bool.not_eq_true, List.all_eq_true]
    intro all
    simp [all other taken] at stop
  rw [takeDigits, if_neg]
  simp [notAll]

theorem mem_signed {number : Int} {char : Char} (member : char ∈ signed number) :
    char.isDigit = true ∨ char = '-' := by
  unfold signed at member
  split at member
  · rcases List.mem_cons.mp member with minus | digit
    · exact Or.inr minus
    · exact Or.inl (isDigit_toDigits digit)
  · exact Or.inl (isDigit_toDigits member)

end Clubzey.Foundation.Decimal
