import Clubzey.Dart.DateTime

/-! Reading the text of a local `DateTime`. On a device with the offset it was
printed at it gives the instant back, and elsewhere an instant shifted by the
difference of the offsets. -/

namespace Clubzey.Dart
open Foundation

/-- By how much an instant printed at one offset is late when read at the other. -/
def UtcOffset.shift (printed read : UtcOffset) : Int := (printed.seconds - read.seconds) * 1000000

@[simp] theorem UtcOffset.shift_self (offset : UtcOffset) : offset.shift offset = 0 := by
  rw [UtcOffset.shift]
  omega

namespace Parts

structure Valid (shown : Parts) : Prop where
  year : shown.date.year.natAbs < 1000000
  month : 1 ≤ shown.date.month ∧ shown.date.month ≤ 12
  day : 1 ≤ shown.date.day ∧ shown.date.day ≤ 31
  hour : shown.hour < 24
  minute : shown.minute < 60
  second : shown.second < 60
  microsecond : shown.microsecond < 1000000

end Parts

namespace DateTime

theorem isDigit_fractionDigits {microsecond : Nat} {char : Char} (member : char ∈ fractionDigits microsecond) :
    char.isDigit = true := by
  rcases List.mem_append.mp member with milli | micro
  · exact Decimal.isDigit_padded milli
  · split at micro
    · cases micro
    · exact Decimal.isDigit_padded micro

theorem value_fractionDigits {microsecond : Nat} (inside : microsecond < 1000000) :
    Decimal.value (((fractionDigits microsecond).rightpad 6 '0').take 6) = microsecond := by
  have millis : (Decimal.padded 3 (microsecond / 1000)).length = 3 :=
    Decimal.length_padded (by decide) (by omega)
  unfold fractionDigits
  split
  next whole =>
    have zeros : Decimal.value (List.replicate 3 '0') = 0 := by decide
    simp only [List.append_nil, List.rightpad, millis, List.length_append, List.length_replicate, List.take_of_length_le, Nat.reduceSub, Nat.reduceAdd, Nat.le_refl]
    rw [Decimal.value_append, Decimal.value_padded, zeros, List.length_replicate]
    omega
  next broken =>
    have micros : (Decimal.padded 3 (microsecond % 1000)).length = 3 :=
      Decimal.length_padded (by decide) (by omega)
    simp only [List.rightpad, List.length_append, millis, micros, Nat.reduceAdd, Nat.sub_self, List.replicate_zero,
      List.append_nil, List.take_of_length_le, Nat.le_refl]
    rw [Decimal.value_append, Decimal.value_padded, Decimal.value_padded, micros]
    omega

theorem fraction_fractionDigits {microsecond : Nat} (inside : microsecond < 1000000) :
    fraction ('.' :: fractionDigits microsecond) = some (microsecond, []) := by
  have all : ∀ char ∈ fractionDigits microsecond, char.isDigit = true := fun _ member => isDigit_fractionDigits member
  have taken := List.takeWhile_eq_self_iff.mpr all
  have dropped := List.dropWhile_eq_nil_iff.mpr all
  have present : fractionDigits microsecond ≠ [] := by
    intro empty
    have millis : (Decimal.padded 3 (microsecond / 1000)).length = 3 :=
      Decimal.length_padded (by decide) (by omega)
    have short := congrArg List.length empty
    rw [fractionDigits, List.length_append, millis, List.length_nil] at short
    omega
  simp only [fraction, taken, dropped, present, value_fractionDigits inside, ne_eq, not_false_eq_true, true_or, and_true,
    ite_true]

theorem takeDigits_twoDigits {number : Nat} (fits : number < 100) (rest : List Char) :
    Decimal.takeDigits 2 (twoDigits number ++ rest) = some (number, rest) :=
  Decimal.takeDigits_padded (by decide) (by simpa using fits)

theorem timeOfDay_clockText {shown : Parts} (valid : shown.Valid) :
    timeOfDay (' ' :: clockText shown) = some ((shown.hour, shown.minute, shown.second, shown.microsecond), none) := by
  have hour := valid.hour
  have minute := valid.minute
  have second := valid.second
  have clockRead : clock (':' :: (twoDigits shown.minute ++ ':' :: (twoDigits shown.second ++
      '.' :: fractionDigits shown.microsecond))) = ((shown.minute, shown.second, shown.microsecond), []) := by
    simp only [clock, dropChar, ite_true, takeDigits_twoDigits (by omega : shown.minute < 100),
      takeDigits_twoDigits (by omega : shown.second < 100), fraction_fractionDigits valid.microsecond]
  simp only [timeOfDay, clockText, true_or, ite_true, takeDigits_twoDigits (by omega : shown.hour < 100), clockRead,
    zone, Option.bind_eq_bind, Option.bind_some]

private def monthAndDayText (shown : Parts) : List Char :=
  '-' :: (twoDigits shown.date.month ++ '-' :: (twoDigits shown.date.day ++ ' ' :: clockText shown))

private theorem signed_year {year : Int} {negative : Bool} (sign : negative = decide (year < 0)) :
    (if negative = true then -(year.natAbs : Int) else year.natAbs) = year := by
  subst sign
  by_cases below : year < 0
  · rw [if_pos (decide_eq_true below)]
    omega
  · rw [if_neg (by simpa using below)]
    omega

private theorem unsignedDate_text {shown : Parts} (valid : shown.Valid) {negative : Bool}
    (sign : negative = decide (shown.date.year < 0)) :
    unsignedDate (Decimal.padded 4 shown.date.year.natAbs).length negative
      (Decimal.padded 4 shown.date.year.natAbs ++ monthAndDayText shown) = some (shown, none) := by
  have year : Decimal.takeDigits (Decimal.padded 4 shown.date.year.natAbs).length
      (Decimal.padded 4 shown.date.year.natAbs ++ monthAndDayText shown) =
      some (shown.date.year.natAbs, monthAndDayText shown) := by
    rw [Decimal.takeDigits_digits fun _ member => Decimal.isDigit_padded member, Decimal.value_padded]
  obtain ⟨month, monthIs⟩ := Int.eq_ofNat_of_zero_le (Int.le_of_lt valid.month.1)
  obtain ⟨day, dayIs⟩ := Int.eq_ofNat_of_zero_le (Int.le_of_lt valid.day.1)
  have lastMonth := valid.month.2
  have lastDay := valid.day.2
  have monthRead := takeDigits_twoDigits (by omega : month < 100) ('-' ::
    (twoDigits shown.date.day ++ ' ' :: clockText shown))
  have dayRead := takeDigits_twoDigits (by omega : day < 100) (' ' :: clockText shown)
  rw [← monthIs] at monthRead
  rw [← dayIs] at dayRead
  rw [unsignedDate, year]
  simp only [monthAndDayText, Option.bind_eq_bind, Option.bind_some, dropChar, ite_true, monthRead, dayRead,
    timeOfDay_clockText valid, signed_year sign, ← monthIs, ← dayIs]

private theorem unsignedDate_long {shown : Parts} {yearDigits : Nat} (negative : Bool)
    (long : (Decimal.padded 4 shown.date.year.natAbs).length < yearDigits) :
    unsignedDate yearDigits negative (Decimal.padded 4 shown.date.year.natAbs ++ monthAndDayText shown) = none := by
  have short : Decimal.takeDigits yearDigits (Decimal.padded 4 shown.date.year.natAbs ++ monthAndDayText shown) = none :=
    Decimal.takeDigits_short long (by decide)
  simp only [unsignedDate, short, Option.bind_eq_bind, Option.bind_none]

private theorem signedDate_text (shown : Parts) (yearDigits : Nat) :
    signedDate yearDigits (calendarText shown) = unsignedDate yearDigits (decide (shown.date.year < 0))
      (Decimal.padded 4 shown.date.year.natAbs ++ monthAndDayText shown) := by
  have same : calendarText shown = fourDigits shown.date.year ++ monthAndDayText shown := rfl
  rw [same, fourDigits]
  by_cases below : shown.date.year < 0
  · rw [if_pos below, decide_eq_true below]
    rfl
  · rw [if_neg below, decide_eq_false below]
    cases digits : Decimal.padded 4 shown.date.year.natAbs with
    | nil =>
      have long := congrArg List.length digits
      simp only [Decimal.padded, List.length_leftpad, List.length_nil] at long
      omega
    | cons first rest =>
      have digit : first.isDigit = true := by
        apply Decimal.isDigit_padded
        rw [digits]
        exact List.mem_cons_self
      rw [List.cons_append, signedDate]
      · intro _ minus
        cases minus
        simp at digit
      · intro _ plus
        cases plus
        simp at digit

private theorem length_year {year : Int} (inside : year.natAbs < 1000000) :
    4 ≤ (Decimal.padded 4 year.natAbs).length ∧ (Decimal.padded 4 year.natAbs).length ≤ 6 := by
  have short := Nat.length_toDigits_le_iff (by decide : 1 < 10) (by decide : 0 < 6) |>.mpr inside
  simp only [Decimal.padded, List.length_leftpad]
  omega

theorem brokenDown_calendarText {shown : Parts} (valid : shown.Valid) :
    brokenDown (calendarText shown) = some (shown, none) := by
  obtain ⟨atLeast, atMost⟩ := length_year valid.year
  obtain ⟨length, lengthIs⟩ : ∃ length, length = (Decimal.padded 4 shown.date.year.natAbs).length := ⟨_, rfl⟩
  have read := unsignedDate_text valid rfl
  have long : ∀ digits, length < digits → signedDate digits (calendarText shown) = none := by
    intro digits longer
    rw [signedDate_text, unsignedDate_long _ (lengthIs ▸ longer)]
  rw [← lengthIs, ← signedDate_text] at read
  rw [← lengthIs] at atLeast atMost
  unfold brokenDown
  obtain four | five | six : length = 4 ∨ length = 5 ∨ length = 6 := by omega
  · rw [long 6 (by omega), long 5 (by omega), ← four, read]
    rfl
  · rw [long 6 (by omega), ← five, read]
    rfl
  · rw [← six, read]
    rfl

theorem parts_valid {micros : Int} (inside : micros.natAbs ≤ maxMicroseconds + 86400000000) : (parts micros).Valid := by
  unfold maxMicroseconds at inside
  have year : (parts micros).date.year.natAbs < 1000000 := by
    apply Calendar.dateOf_year
    unfold microsecondsPerDay
    omega
  refine ⟨year, Calendar.dateOf_month _, Calendar.dateOf_day _, ?_, ?_, ?_, ?_⟩ <;>
    simp only [parts, microsecondsPerDay] <;> omega

theorem ofMicros_ok {micros : Int} (inside : micros.natAbs ≤ maxMicroseconds) :
    ofMicros micros = .ok ⟨micros, inside⟩ := dif_pos inside

theorem ofMicros_error {micros : Int} (outside : ¬ micros.natAbs ≤ maxMicroseconds) :
    ofMicros micros = .error .formatException := dif_neg outside

theorem microsOf_parts (micros : Int) : microsOf (parts micros) = micros := by
  simp only [microsOf, parts, Calendar.dayNumber_dateOf, microsecondsPerDay]
  omega

/-- Reading a text on a device whose offset need not be the one it was printed at. -/
theorem parse_text (printed read : UtcOffset) (time : DateTime) :
    parse read (text printed time) = ofMicros (time.microsecondsSinceEpoch + printed.shift read) := by
  have range := time.inRange
  have offset := printed.lessThanDay
  have valid : (time.localParts printed).Valid := parts_valid (by omega)
  have micros : microsOf (time.localParts printed) = time.microsecondsSinceEpoch + printed.seconds * 1000000 :=
    microsOf_parts _
  rw [parse, text, String.toList_ofList, brokenDown_calendarText valid]
  simp only [micros, UtcOffset.shift]
  congr 1
  omega

theorem mem_clockText {shown : Parts} {char : Char} (member : char ∈ clockText shown) :
    char.isDigit = true ∨ char = ':' ∨ char = '.' := by
  simp only [clockText, twoDigits, List.mem_append, List.mem_cons] at member
  rcases member with digit | colon | digit | colon | digit | point | digit
  · exact Or.inl (Decimal.isDigit_padded digit)
  · exact Or.inr (Or.inl colon)
  · exact Or.inl (Decimal.isDigit_padded digit)
  · exact Or.inr (Or.inl colon)
  · exact Or.inl (Decimal.isDigit_padded digit)
  · exact Or.inr (Or.inr point)
  · exact Or.inl (isDigit_fractionDigits digit)

theorem mem_calendarText {shown : Parts} {char : Char} (member : char ∈ calendarText shown) :
    char.isDigit = true ∨ char ∈ ['-', ' ', ':', '.'] := by
  simp only [calendarText, twoDigits, List.mem_append, List.mem_cons] at member
  rcases member with year | minus | digit | minus | digit | blank | clock
  · unfold fourDigits at year
    split at year
    · rcases List.mem_cons.mp year with minus | digit
      · simp [minus]
      · exact Or.inl (Decimal.isDigit_padded digit)
    · exact Or.inl (Decimal.isDigit_padded year)
  · simp [minus]
  · exact Or.inl (Decimal.isDigit_padded digit)
  · simp [minus]
  · exact Or.inl (Decimal.isDigit_padded digit)
  · simp [blank]
  · rcases mem_clockText clock with digit | colon | point
    · exact Or.inl digit
    · simp [colon]
    · simp [point]

theorem secondsSince_fresh (later earlier : DateTime) :
    (secondsSince later earlier < 31 ∧ 0 < secondsSince later earlier) ↔
      1000000 ≤ later.microsecondsSinceEpoch - earlier.microsecondsSinceEpoch ∧
        later.microsecondsSinceEpoch - earlier.microsecondsSinceEpoch < 31000000 := by
  unfold secondsSince
  rw [Int.tdiv_eq_ediv, show Int.sign 1000000 = 1 from rfl]
  split <;> omega

end DateTime
end Clubzey.Dart
