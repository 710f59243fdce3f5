import Clubzey.Dart.DateTimeText

/-! A device's time zone, whose offset may change from one instant to another. Local
text of an instant is read as an instant with the same calendar and clock, which in an
hour that the zone repeats need not be the same instant. -/

namespace Clubzey.Dart
open DateTime Foundation

def shownAt (offsetAt : Int → UtcOffset) (micros : Int) : Parts :=
  parts (micros + (offsetAt micros).seconds * 1000000)

def readAs (offsetFor : Parts → UtcOffset) (shown : Parts) : Int :=
  microsOf shown - (offsetFor shown).seconds * 1000000

structure TimeZone where
  offsetAt : Int → UtcOffset
  offsetFor : Parts → UtcOffset
  reads : ∀ micros, shownAt offsetAt (readAs offsetFor (shownAt offsetAt micros)) = shownAt offsetAt micros

namespace TimeZone

def utc : UtcOffset := ⟨0, by decide⟩

def fixed (offset : UtcOffset) : TimeZone where
  offsetAt _ := offset
  offsetFor _ := offset
  reads micros := by
    unfold shownAt readAs
    rw [microsOf_parts, Int.sub_add_cancel]

def hourAhead : UtcOffset := ⟨3600, by decide⟩

/-- A zone that puts its clocks back by an hour once and reads the hour that they show
twice as the first one. -/
def putBack (change : Int) : TimeZone where
  offsetAt micros := if micros < change then hourAhead else utc
  offsetFor shown := if microsOf shown < change + 3600000000 then hourAhead else utc
  reads micros := by
    simp only [readAs, shownAt, microsOf_parts]
    by_cases before : micros < change
    · have early : micros + 3600000000 < change + 3600000000 := by omega
      simp [before, early, hourAhead]
    · by_cases repeated : micros < change + 3600000000
      · have first : micros - 3600000000 < change := by omega
        simp [before, repeated, first, hourAhead, utc]
      · simp [before, repeated, utc]

def fields (zone : TimeZone) (time : DateTime) : Parts := shownAt zone.offsetAt time.microsecondsSinceEpoch

def offsetOf (zone : TimeZone) (time : DateTime) : UtcOffset := zone.offsetAt time.microsecondsSinceEpoch

def offsetToRead (zone : TimeZone) (source : String) : UtcOffset :=
  (brokenDown source.toList).elim utc fun read => zone.offsetFor read.1

def parse (zone : TimeZone) (source : String) : Except Thrown DateTime :=
  DateTime.parse (zone.offsetToRead source) source

/-- By how much an instant is late when its own text is read. -/
def shift (zone : TimeZone) (time : DateTime) : Int :=
  (zone.offsetOf time).shift (zone.offsetFor (zone.fields time))

theorem offsetToRead_text (zone : TimeZone) (time : DateTime) :
    zone.offsetToRead (time.text (zone.offsetOf time)) = zone.offsetFor (zone.fields time) := by
  have range := time.inRange
  have offset := (zone.offsetOf time).lessThanDay
  have valid : (time.localParts (zone.offsetOf time)).Valid := parts_valid (by omega)
  rw [offsetToRead, text, String.toList_ofList, brokenDown_calendarText valid]
  rfl

theorem parse_text (zone : TimeZone) (time : DateTime) :
    zone.parse (time.text (zone.offsetOf time)) = ofMicros (time.microsecondsSinceEpoch + zone.shift time) := by
  rw [parse, offsetToRead_text, DateTime.parse_text, shift]

theorem fields_shift (zone : TimeZone) (time : DateTime) :
    shownAt zone.offsetAt (time.microsecondsSinceEpoch + zone.shift time) = zone.fields time := by
  have read : readAs zone.offsetFor (zone.fields time) = time.microsecondsSinceEpoch + zone.shift time := by
    rw [readAs, fields, shownAt, microsOf_parts, ← shownAt, ← fields, shift, offsetOf, UtcOffset.shift]
    omega
  rw [← read]
  exact zone.reads _

theorem readable {zone : TimeZone} {time : DateTime} (first : 0 ≤ (zone.fields time).date.year)
    (last : (zone.fields time).date.year ≤ 9999) :
    (time.microsecondsSinceEpoch + zone.shift time).natAbs ≤ maxMicroseconds := by
  have printed := (zone.offsetOf time).lessThanDay
  have read := (zone.offsetFor (zone.fields time)).lessThanDay
  have near := Calendar.dateOf_near first last
  unfold shift UtcOffset.shift maxMicroseconds
  unfold offsetOf at printed ⊢
  unfold microsecondsPerDay at near
  omega

end TimeZone
end Clubzey.Dart
