import Clubzey.Dart.Core
import Clubzey.Foundation.Calendar

/-! Dart's `DateTime`: instants to the microsecond, their local calendar text and
the reading of such text. The text carries no UTC offset, so printing and
reading both take the offset of the device they run on. -/

namespace Clubzey.Dart
open Foundation

def maxMicroseconds : Nat := 8640000000000000000

structure DateTime where
  microsecondsSinceEpoch : Int
  inRange : microsecondsSinceEpoch.natAbs ≤ maxMicroseconds
  deriving DecidableEq

theorem DateTime.epoch_inRange : (0 : Int).natAbs ≤ maxMicroseconds := by decide

/-- Noon of 1 March 2022, when the sample clubs draw; their next draw is a month later. -/
theorem DateTime.march_inRange : (1646136000000000 : Int).natAbs ≤ maxMicroseconds := by decide

theorem DateTime.april_inRange : (1648814400000000 : Int).natAbs ≤ maxMicroseconds := by decide

/-- The UTC offset of a device, less than a day either way. -/
structure UtcOffset where
  seconds : Int
  lessThanDay : seconds.natAbs < 86400
  deriving DecidableEq

structure Parts where
  date : Calendar.Date
  hour : Nat
  minute : Nat
  second : Nat
  microsecond : Nat
  deriving DecidableEq, Repr

namespace DateTime

def microsecondsPerDay : Int := 86400000000

def parts (micros : Int) : Parts :=
  let inDay := (micros % microsecondsPerDay).toNat
  { date := Calendar.dateOf (micros / microsecondsPerDay)
    hour := inDay / 3600000000
    minute := inDay / 60000000 % 60
    second := inDay / 1000000 % 60
    microsecond := inDay % 1000000 }

def localParts (offset : UtcOffset) (time : DateTime) : Parts :=
  parts (time.microsecondsSinceEpoch + offset.seconds * 1000000)

/-- The millisecond of the second. Offsets are whole seconds, so it does not
depend on the device. -/
def millisecond (time : DateTime) : Nat := (time.microsecondsSinceEpoch / 1000 % 1000).toNat

def fourDigits (number : Int) : List Char :=
  if number < 0 then '-' :: Decimal.padded 4 number.natAbs else Decimal.padded 4 number.natAbs

def twoDigits (number : Int) : List Char := Decimal.padded 2 number.toNat

/-- Milliseconds always, microseconds only when there are any. -/
def fractionDigits (microsecond : Nat) : List Char :=
  Decimal.padded 3 (microsecond / 1000) ++
    if microsecond % 1000 = 0 then [] else Decimal.padded 3 (microsecond % 1000)

def clockText (shown : Parts) : List Char :=
  twoDigits shown.hour ++ ':' :: (twoDigits shown.minute ++ ':' :: (twoDigits shown.second ++
    '.' :: fractionDigits shown.microsecond))

def calendarText (shown : Parts) : List Char :=
  fourDigits shown.date.year ++ '-' :: (twoDigits shown.date.month ++ '-' :: (twoDigits shown.date.day ++
    ' ' :: clockText shown))

/-- `DateTime.toString` of a local time. -/
def text (offset : UtcOffset) (time : DateTime) : String :=
  String.ofList (calendarText (time.localParts offset))

/-! The grammar of `DateTime.parse`. -/

def dropChar (expected : Char) : List Char → List Char
  | char :: rest => if char = expected then rest else char :: rest
  | [] => []

def fraction : List Char → Option (Nat × List Char)
  | [] => none
  | char :: rest =>
    let digits := rest.takeWhile Char.isDigit
    if (char = '.' ∨ char = ',') ∧ digits ≠ [] then
      some (Decimal.value ((digits.rightpad 6 '0').take 6), rest.dropWhile Char.isDigit)
    else none

def clock (text : List Char) : (Nat × Nat × Nat) × List Char :=
  match Decimal.takeDigits 2 (dropChar ':' text) with
  | none => ((0, 0, 0), text)
  | some (minute, afterMinute) =>
    match Decimal.takeDigits 2 (dropChar ':' afterMinute) with
    | none => ((minute, 0, 0), afterMinute)
    | some (second, afterSecond) =>
      match fraction afterSecond with
      | none => ((minute, second, 0), afterSecond)
      | some (micros, rest) => ((minute, second, micros), rest)

def offsetMinutes (negative : Bool) (text : List Char) : Option Int := do
  let (hours, rest) ← Decimal.takeDigits 2 text
  let minutes ← match rest with
    | [] => some 0
    | rest => match Decimal.takeDigits 2 (dropChar ':' rest) with
      | some (minutes, []) => some minutes
      | _ => none
  let total : Int := 60 * hours + minutes
  some (if negative then -total else total)

/-- The part after the time of day: nothing for a local time, otherwise the
minutes by which the text is ahead of UTC. -/
def zone : List Char → Option (Option Int)
  | [] => some none
  | text => match dropChar ' ' text with
    | ['z'] | ['Z'] => some (some 0)
    | '+' :: rest => (offsetMinutes false rest).map some
    | '-' :: rest => (offsetMinutes true rest).map some
    | _ => none

def timeOfDay : List Char → Option ((Nat × Nat × Nat × Nat) × Option Int)
  | [] => some ((0, 0, 0, 0), none)
  | char :: text =>
    if char = ' ' ∨ char = 'T' then do
      let (hour, afterHour) ← Decimal.takeDigits 2 text
      let ((minute, second, micros), rest) := clock afterHour
      let ahead ← zone rest
      some ((hour, minute, second, micros), ahead)
    else none

def unsignedDate (yearDigits : Nat) (negative : Bool) (text : List Char) : Option (Parts × Option Int) := do
  let (year, afterYear) ← Decimal.takeDigits yearDigits text
  let (month, afterMonth) ← Decimal.takeDigits 2 (dropChar '-' afterYear)
  let (day, afterDay) ← Decimal.takeDigits 2 (dropChar '-' afterMonth)
  let ((hour, minute, second, micros), ahead) ← timeOfDay afterDay
  some (⟨⟨if negative then -year else year, month, day⟩, hour, minute, second, micros⟩, ahead)

def signedDate (yearDigits : Nat) (text : List Char) : Option (Parts × Option Int) :=
  match text with
  | '-' :: rest => unsignedDate yearDigits true rest
  | '+' :: rest => unsignedDate yearDigits false rest
  | _ => unsignedDate yearDigits false text

/-- The longest year that lets the whole text match. -/
def brokenDown (text : List Char) : Option (Parts × Option Int) :=
  (signedDate 6 text).or ((signedDate 5 text).or (signedDate 4 text))

/-- Microseconds since the epoch of what a UTC calendar and clock show. -/
def microsOf (shown : Parts) : Int :=
  Calendar.dayNumber shown.date * microsecondsPerDay +
    (3600000000 * shown.hour + 60000000 * shown.minute + 1000000 * shown.second + shown.microsecond : Nat)

def ofMicros (micros : Int) : Except Thrown DateTime :=
  if inRange : micros.natAbs ≤ maxMicroseconds then .ok ⟨micros, inRange⟩ else .error .formatException

/-- `DateTime.parse` on a device with the given offset. -/
def parse (offset : UtcOffset) (source : String) : Except Thrown DateTime :=
  match brokenDown source.toList with
  | none => .error .formatException
  | some (shown, none) => ofMicros (microsOf shown - offset.seconds * 1000000)
  | some (shown, some ahead) => ofMicros (microsOf shown - ahead * 60000000)

/-- `a.difference(b).inSeconds`, which truncates towards zero. -/
def secondsSince (later earlier : DateTime) : Int :=
  (later.microsecondsSinceEpoch - earlier.microsecondsSinceEpoch).tdiv 1000000

end DateTime
end Clubzey.Dart
