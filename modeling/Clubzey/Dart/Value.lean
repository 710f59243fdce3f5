import Clubzey.Dart.DateTime
import Clubzey.Foundation.Collection

/-! Values of type `dynamic`, the maps the models wrap, and the implicit casts
by which the models' getters read them. -/

namespace Clubzey.Dart
open Foundation

inductive Double where
  | nan
  | infinite (negative : Bool)
  | finite (value : ℚ)
  deriving DecidableEq

/-- The nearest number with fifty-three significant bits, ties to even. -/
def roundMagnitude (magnitude : Nat) : Nat :=
  let shift := magnitude.log2 - 52
  let kept := magnitude / 2 ^ shift
  let dropped := magnitude % 2 ^ shift
  let up := 2 ^ shift < 2 * dropped ∨ 2 ^ shift = 2 * dropped ∧ kept % 2 = 1
  if up then (kept + 1) * 2 ^ shift else kept * 2 ^ shift

/-- `int.toDouble`. -/
def Double.ofInt (number : Int) : Double := .finite (number.sign * roundMagnitude number.natAbs : Int)

/-- `timestamp` is the database's own instant, which `toDate` turns into a
`DateTime`; every other constructor is the Dart value of that name. -/
inductive Value where
  | null
  | int (number : Int)
  | double (number : Double)
  | string (text : String)
  | dateTime (time : DateTime)
  | timestamp (time : DateTime)
  | list (items : List Value)
  | map (entries : List (String × Value))

namespace Value

def asString : Value → Except Thrown String
  | .string text => .ok text
  | _ => .error .typeError

def asInt : Value → Except Thrown Int
  | .int number => .ok number
  | _ => .error .typeError

def asDouble : Value → Except Thrown Double
  | .double number => .ok number
  | _ => .error .typeError

def asDateTime : Value → Except Thrown DateTime
  | .dateTime time => .ok time
  | _ => .error .typeError

def toDate : Value → Except Thrown DateTime
  | .timestamp time => .ok time
  | _ => .error .noSuchMethod

def toDouble : Value → Except Thrown Double
  | .int number => .ok (Double.ofInt number)
  | .double number => .ok number
  | _ => .error .noSuchMethod

/-- `value ?? other`. -/
def orElse (value other : Value) : Value :=
  match value with
  | .null => other
  | value => value

end Value

def Value.isEqualTo : Value → String → Bool
  | .string other, text => other == text
  | _, _ => false

/-- What the database may answer where a value was written: an instant comes back as a
timestamp, and a number without a fraction possibly as an integer. -/
inductive Value.ReadBack : Value → Value → Prop where
  | dateTime (time : DateTime) : ReadBack (.dateTime time) (.timestamp time)
  | integral (number : Int) : ReadBack (.double (.ofInt number)) (.int number)
  | same (value : Value) (notDateTime : ∀ time, value ≠ .dateTime time) : ReadBack value value

def Value.timestamped : Value → Value
  | .dateTime time => .timestamp time
  | value => value

namespace Value.ReadBack

theorem string {text : String} {value : Value} (readBack : ReadBack (.string text) value) : value = .string text := by
  cases readBack
  rfl

theorem int {number : Int} {value : Value} (readBack : ReadBack (.int number) value) : value = .int number := by
  cases readBack
  rfl

theorem toDouble {number : Double} {value other : Value} (readBack : ReadBack (.double number) value) :
    (value.orElse other).toDouble = .ok number := by
  cases readBack <;> rfl

end Value.ReadBack

/-- A `Map<String, dynamic>`, also as the fields of a stored document. -/
abbrev Fields := Collection Value

/-- `fields[key]`, which is null for an absent key. -/
def Fields.at (fields : Fields) (key : String) : Value := (fields.doc key).getD .null

theorem Fields.at_set (fields : Fields) (key other : String) (value : Value) :
    Fields.at (fields.set key value) other = if key = other then value else fields.at other := by
  simp only [Fields.at, Collection.doc_set]
  split <;> rfl

/-- The fields of a stored document as they are delivered. -/
def Fields.ReadBack (stored delivered : Fields) : Prop :=
  ∀ key, Option.Rel Value.ReadBack (stored.doc key) (delivered.doc key)

def Fields.delivered (stored : Fields) : Fields := stored.map fun _ value => value.timestamped

theorem Fields.at_delivered (stored : Fields) (key : String) : stored.delivered.at key = (stored.at key).timestamped := by
  unfold Fields.at Fields.delivered Collection.doc
  rw [Std.ExtTreeMap.getElem?_map]
  cases stored[key]? <;> rfl

theorem Fields.ReadBack.at {stored delivered : Fields} (readBack : stored.ReadBack delivered) (key : String) :
    (stored.at key).ReadBack (delivered.at key) := by
  have reads := readBack key
  unfold Fields.at
  generalize stored.doc key = before at reads
  generalize delivered.doc key = after at reads
  cases reads with
  | some reads => exact reads
  | none => exact .same .null (by simp)

end Clubzey.Dart
