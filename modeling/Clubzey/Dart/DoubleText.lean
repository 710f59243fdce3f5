import Clubzey.Dart.Value

/-! `double.parse`: its grammar and the rounding of the number written. -/

namespace Clubzey.Dart
open Foundation

namespace Double

/-- The exponent of the last bit that is kept of a ratio: of fifty-three, or fewer near
zero. -/
def lastBit (numerator denominator : Nat) : Int :=
  let estimate : Int := (numerator.log2 : Int) - denominator.log2
  let below := numerator * 2 ^ (-estimate).toNat < denominator * 2 ^ estimate.toNat
  max ((if below then estimate - 1 else estimate) - 52) (-1074)

/-- The nearest number, ties to even; from two to the power of 1024 on it is infinite. -/
def ofRatio (numerator denominator : Nat) : Double :=
  let last := lastBit numerator denominator
  let scaled := numerator * 2 ^ (-last).toNat
  let unit := denominator * 2 ^ last.toNat
  let kept := scaled / unit
  let dropped := scaled % unit
  let bits := if unit < 2 * dropped ∨ unit = 2 * dropped ∧ kept % 2 = 1 then kept + 1 else kept
  if 1024 ≤ (bits * 2 ^ last.toNat).log2 then .infinite false
  else .finite (mkRat (bits * 2 ^ last.toNat : Nat) (2 ^ (-last).toNat))

def neg : Double → Double
  | .nan => .nan
  | .infinite negative => .infinite !negative
  | .finite value => .finite (-value)

/-- `number < bound`, which is false for NaN. -/
def isBelow (number : Double) (bound : ℚ) : Bool :=
  match number with
  | .nan => false
  | .infinite negative => negative
  | .finite value => decide (value < bound)

def exponent : List Char → Option Int
  | [] => some 0
  | char :: rest =>
    let (negative, digits) := match rest with
      | '-' :: digits => (true, digits)
      | '+' :: digits => (false, digits)
      | digits => (false, digits)
    if (char = 'e' ∨ char = 'E') ∧ digits ≠ [] ∧ digits.all Char.isDigit then
      some (if negative then -(Decimal.value digits : Int) else Decimal.value digits)
    else none

def unsigned (text : List Char) : Option Double :=
  let whole := text.takeWhile Char.isDigit
  let (broken, rest) := match text.dropWhile Char.isDigit with
    | '.' :: rest => (rest.takeWhile Char.isDigit, rest.dropWhile Char.isDigit)
    | rest => ([], rest)
  if whole = [] ∧ broken = [] then none
  else (exponent rest).map fun written =>
    let power : Int := written - broken.length
    ofRatio (Decimal.value (whole ++ broken) * 10 ^ power.toNat) (10 ^ (-power).toNat)

def ofText (text : List Char) : Option Double :=
  if text = "NaN".toList then some .nan
  else if text = "Infinity".toList then some (.infinite false)
  else unsigned text

end Double

def parseDouble (source : String) : Except Thrown Double :=
  let number := match trim source.toList with
    | '-' :: text => (Double.ofText text).map Double.neg
    | '+' :: text => Double.ofText text
    | text => Double.ofText text
  match number with
  | some number => .ok number
  | none => .error .formatException

theorem parseDouble_empty : parseDouble "" = .error .formatException := rfl

example : parseDouble " -2.50e2" = .ok (.finite (-250)) ∧ parseDouble "-NaN" = .ok .nan := by decide +kernel
example : parseDouble "1,000" = .error .formatException ∧ parseDouble "1e400" = .ok (.infinite false) := by decide +kernel
example : parseDouble "9007199254740993" = .ok (.finite 9007199254740992) := by decide +kernel

end Clubzey.Dart
