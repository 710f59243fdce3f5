import Clubzey.Dart.DateTime

/-! Dart's `Duration`, a signed number of microseconds in sixty-four bits. -/

namespace Clubzey.Dart

structure Duration where
  inMicroseconds : Int
  deriving DecidableEq

namespace Duration

/-- The integer with the same sixty-four bits. -/
def wrap (number : Int) : Int := number.bmod (2 ^ 64)

/-- The getters truncate towards zero. -/
def inHours (duration : Duration) : Int := duration.inMicroseconds.tdiv 3600000000

def inMinutes (duration : Duration) : Int := duration.inMicroseconds.tdiv 60000000

def inSeconds (duration : Duration) : Int := duration.inMicroseconds.tdiv 1000000

def ofHours (hours : Int) : Duration := ⟨wrap (hours * 3600000000)⟩

def ofMinutes (minutes : Int) : Duration := ⟨wrap (minutes * 60000000)⟩

theorem inHours_natCast (micros : Nat) : inHours ⟨micros⟩ = (micros / 3600000000 : Nat) := (Int.ofNat_tdiv ..).symm

theorem inMinutes_natCast (micros : Nat) : inMinutes ⟨micros⟩ = (micros / 60000000 : Nat) := (Int.ofNat_tdiv ..).symm

theorem inSeconds_natCast (micros : Nat) : inSeconds ⟨micros⟩ = (micros / 1000000 : Nat) := (Int.ofNat_tdiv ..).symm

theorem wrap_small {number : Int} (small : isInt64 number) : wrap number = number := by
  obtain ⟨low, high⟩ := small
  rw [wrap, Int.bmod_eq_of_le (by omega) (by omega)]

end Duration

namespace DateTime

def isBefore (time other : DateTime) : Bool :=
  decide (time.microsecondsSinceEpoch < other.microsecondsSinceEpoch)

def difference (time other : DateTime) : Duration :=
  ⟨Duration.wrap (time.microsecondsSinceEpoch - other.microsecondsSinceEpoch)⟩

def add (time : DateTime) (duration : Duration) : Except Thrown DateTime :=
  let micros := Duration.wrap (time.microsecondsSinceEpoch + duration.inMicroseconds)
  if inRange : micros.natAbs ≤ maxMicroseconds then .ok ⟨micros, inRange⟩ else .error .rangeError

/-- A reading of the device's clock or of an NTP server. Both count from the epoch. -/
structure Reading extends DateTime where
  sinceEpoch : 0 ≤ microsecondsSinceEpoch

theorem Reading.until_small (now : Reading) (time : DateTime) :
    time.microsecondsSinceEpoch - now.microsecondsSinceEpoch < 2 ^ 63 := by
  have first := now.sinceEpoch
  have last := time.inRange
  unfold maxMicroseconds at last
  omega

theorem difference_add {now time : DateTime} {passed : Int} (positive : 0 ≤ passed)
    (fits : passed ≤ time.microsecondsSinceEpoch - now.microsecondsSinceEpoch)
    (small : time.microsecondsSinceEpoch - now.microsecondsSinceEpoch < 2 ^ 63) :
    ∃ later, now.add ⟨passed⟩ = .ok later ∧
      time.difference later = ⟨time.microsecondsSinceEpoch - now.microsecondsSinceEpoch - passed⟩ := by
  have nowInRange := now.inRange
  have timeInRange := time.inRange
  have inRange : (now.microsecondsSinceEpoch + passed).natAbs ≤ maxMicroseconds := by omega
  refine ⟨⟨_, inRange⟩, ?_, ?_⟩
  · have whole : Duration.wrap (now.microsecondsSinceEpoch + passed) = now.microsecondsSinceEpoch + passed := by
      apply Duration.wrap_small
      unfold maxMicroseconds at inRange
      constructor <;> omega
    simp only [add, whole, inRange, dite_true]
  · have rest : Duration.wrap (time.microsecondsSinceEpoch - (now.microsecondsSinceEpoch + passed)) =
        time.microsecondsSinceEpoch - now.microsecondsSinceEpoch - passed := by
      rw [← Int.sub_sub]
      apply Duration.wrap_small
      constructor <;> omega
    rw [difference, rest]

end DateTime
end Clubzey.Dart
