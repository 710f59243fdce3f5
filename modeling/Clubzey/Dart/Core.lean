import Clubzey.Foundation.Decimal

/-! The parts of Dart's core library that the app's own code calls: what its
expressions can throw, the outcome of a remote call, and integers as text. -/

namespace Clubzey.Dart
open Foundation

/-- What an expression of the app can throw. `requestFailed` stands for every
exception by which a remote call reports that it did not succeed. -/
inductive Thrown where
  | nullCheck
  | typeError
  | noSuchMethod
  | rangeError
  | formatException
  | requestFailed
  deriving DecidableEq, Repr

theorem bind_ok {first : Except Thrown α} {rest : α → Except Thrown β} {result : β}
    (returned : (first >>= rest) = .ok result) : ∃ value, first = .ok value ∧ rest value = .ok result := by
  cases first with
  | error thrown => cases returned
  | ok value => exact ⟨value, rfl, returned⟩

inductive Outcome where
  | success
  | failure
  deriving DecidableEq, Repr

/-- The characters that `String.trim` and `int.parse` strip from both ends. -/
def isWhitespace (char : Char) : Bool :=
  let code := char.toNat
  (9 ≤ code && code ≤ 13) || (0x2000 ≤ code && code ≤ 0x200A) ||
    [0x20, 0x85, 0xA0, 0x1680, 0x2028, 0x2029, 0x202F, 0x205F, 0x3000, 0xFEFF].contains code

def trim (text : List Char) : List Char :=
  ((text.dropWhile isWhitespace).reverse.dropWhile isWhitespace).reverse

def isHexDigit (char : Char) : Bool :=
  char.isDigit || ('a' ≤ char && char ≤ 'f') || ('A' ≤ char && char ≤ 'F')

def hexDigitValue (char : Char) : Nat :=
  if char.isDigit then char.toNat - '0'.toNat
  else if 'a' ≤ char then char.toNat - 'a'.toNat + 10
  else char.toNat - 'A'.toNat + 10

def hexValue (digits : List Char) : Nat := digits.foldl (fun total digit => 16 * total + hexDigitValue digit) 0

def isInt64 (number : Int) : Prop := -2 ^ 63 ≤ number ∧ number < 2 ^ 63

instance (number : Int) : Decidable (isInt64 number) := inferInstanceAs (Decidable (_ ∧ _))

/-- The digits of an integer literal after its sign. Hexadecimal literals stand
for the integer with the same sixty-four bits, decimal ones must be in range. -/
def parseMagnitude (negative : Bool) (digits : List Char) : Except Thrown Int :=
  match digits with
  | '0' :: 'x' :: hex | '0' :: 'X' :: hex =>
    if hex ≠ [] ∧ hex.all isHexDigit ∧ hexValue hex < 2 ^ 64 then
      .ok (BitVec.ofInt 64 (if negative then -(hexValue hex : Int) else hexValue hex)).toInt
    else .error .formatException
  | decimal =>
    let number : Int := if negative then -(Decimal.value decimal : Int) else Decimal.value decimal
    if decimal ≠ [] ∧ decimal.all Char.isDigit ∧ isInt64 number then .ok number else .error .formatException

def parseInt (source : String) : Except Thrown Int :=
  match trim source.toList with
  | '-' :: digits => parseMagnitude true digits
  | '+' :: digits => parseMagnitude false digits
  | digits => parseMagnitude false digits

def intText (number : Int) : String := String.ofList (Decimal.signed number)

theorem isWhitespace_visible {char : Char} (visible : 33 ≤ char.toNat ∧ char.toNat < 127) :
    isWhitespace char = false := by
  simp [isWhitespace]
  omega

theorem isWhitespace_digit {char : Char} (digit : char.isDigit = true) : isWhitespace char = false := by
  simp only [Char.isDigit, Bool.and_eq_true, decide_eq_true_eq] at digit
  have range : 48 ≤ char.toNat ∧ char.toNat ≤ 57 := ⟨digit.1, digit.2⟩
  apply isWhitespace_visible
  omega

theorem trim_plain {text : List Char} (plain : ∀ char ∈ text, isWhitespace char = false) : trim text = text := by
  have kept : ∀ {chars : List Char}, (∀ char ∈ chars, isWhitespace char = false) →
      chars.dropWhile isWhitespace = chars := by
    intro chars none
    cases chars with
    | nil => rfl
    | cons first rest => exact List.dropWhile_cons_of_neg (by simp [none first List.mem_cons_self])
  rw [trim, kept plain, kept fun char member => plain char (List.mem_reverse.mp member), List.reverse_reverse]

theorem parseMagnitude_toDigits (negative : Bool) (number : Nat)
    (small : isInt64 (if negative then -(number : Int) else number)) :
    parseMagnitude negative (Nat.toDigits 10 number) = .ok (if negative then -(number : Int) else number) := by
  have digits : ∀ char ∈ Nat.toDigits 10 number, char.isDigit = true := fun _ member => Decimal.isDigit_toDigits member
  have present : Nat.toDigits 10 number ≠ [] := Nat.toDigits_ne_nil
  -- An x or X would have to be one of the digits.
  unfold parseMagnitude
  split
  next hex same =>
    have letter := digits 'x' (by rw [same]; simp)
    simp at letter
  next hex same =>
    have letter := digits 'X' (by rw [same]; simp)
    simp at letter
  next =>
    rw [Decimal.value_toDigits]
    exact if_pos ⟨present, List.all_eq_true.mpr digits, small⟩

theorem parseInt_intText {number : Int} (small : isInt64 number) : parseInt (intText number) = .ok number := by
  have plain : ∀ char ∈ Decimal.signed number, isWhitespace char = false := by
    intro char member
    rcases Decimal.mem_signed member with digit | minus
    · exact isWhitespace_digit digit
    · rw [minus]
      decide
  rw [parseInt, intText, String.toList_ofList, trim_plain plain, Decimal.signed]
  by_cases below : number < 0
  · have same : -(number.natAbs : Int) = number := by omega
    have parsed := parseMagnitude_toDigits true number.natAbs (by rw [if_pos rfl, same]; exact small)
    rw [if_pos rfl, same] at parsed
    rw [if_pos below]
    exact parsed
  · have same : (number.natAbs : Int) = number := by omega
    have parsed := parseMagnitude_toDigits false number.natAbs (by rw [if_neg (by decide), same]; exact small)
    rw [if_neg (by decide), same] at parsed
    rw [if_neg below]
    split
    next digits minus =>
      have member : '-' ∈ Nat.toDigits 10 number.natAbs := by
        rw [minus]
        exact List.mem_cons_self
      have digit := Decimal.isDigit_toDigits member
      simp at digit
    next digits plus =>
      have member : '+' ∈ Nat.toDigits 10 number.natAbs := by
        rw [plus]
        exact List.mem_cons_self
      have digit := Decimal.isDigit_toDigits member
      simp at digit
    next => exact parsed

/-- `text.split(separator)` for a separator of one character. -/
def split (text : String) (separator : Char) : List String := (text.toList.splitOn separator).map String.ofList

/-- Replace a nonempty pattern from the left, after leaving out so many characters
of the occurrence before. -/
def replaceFrom (pattern replacement : List Char) : Nat → List Char → List Char
  | _, [] => []
  | covered + 1, _ :: rest => replaceFrom pattern replacement covered rest
  | 0, char :: rest =>
    if pattern.isPrefixOf (char :: rest) then
      replacement ++ replaceFrom pattern replacement (pattern.length - 1) rest
    else char :: replaceFrom pattern replacement 0 rest

/-- `text.replaceAll(pattern, replacement)`; an empty pattern occurs before every
character and at the end. -/
def replaceAll (text pattern replacement : String) : String :=
  if pattern.isEmpty then
    String.ofList ((text.toList.flatMap fun char => replacement.toList ++ [char]) ++ replacement.toList)
  else String.ofList (replaceFrom pattern.toList replacement.toList 0 text.toList)

example : replaceAll "ann has has" "has" "have" = "ann have have" ∧ replaceAll "ab" "" "-" = "-a-b-" := by decide

example : parseInt " -42 " = .ok (-42) := by decide
example : parseInt "0x1F" = .ok 31 ∧ parseInt "4.5" = .error .formatException := by decide

end Clubzey.Dart
