import Clubzey.Proofs.QrPayload
import Clubzey.Views.DateLabels

/-! What the labels of two instants tell apart. -/

namespace Clubzey.Proofs.DateLabels
open Dart Utils Views Foundation QrPayload

theorem fields_valid (zone : TimeZone) (time : DateTime) : (zone.fields time).Valid := by
  have range := time.inRange
  have offset := (zone.offsetOf time).lessThanDay
  unfold TimeZone.offsetOf at offset
  exact DateTime.parts_valid (by omega)

def dateText (date : Calendar.Date) : List Char :=
  DateTime.fourDigits date.year ++ '-' :: (DateTime.twoDigits date.month ++ '-' :: DateTime.twoDigits date.day)

theorem text_toList (zone : TimeZone) (time : DateTime) :
    (time.text (zone.offsetOf time)).toList =
      dateText (zone.fields time).date ++ ' ' :: DateTime.clockText (zone.fields time) := by
  rw [DateTime.text, String.toList_ofList, dateText]
  simp only [DateTime.calendarText, List.append_assoc, List.cons_append]
  rfl

theorem length_padded_le (width number : ℕ) : width ≤ (Decimal.padded width number).length := by
  rw [Decimal.padded, List.length_leftpad]
  exact le_max_left _ _

theorem length_dateText (date : Calendar.Date) : 10 ≤ (dateText date).length := by
  have year : 4 ≤ (DateTime.fourDigits date.year).length := by
    have digits := length_padded_le 4 date.year.natAbs
    unfold DateTime.fourDigits
    split
    · rw [List.length_cons]
      omega
    · exact digits
  have month := length_padded_le 2 date.month.toNat
  have day := length_padded_le 2 date.day.toNat
  simp only [dateText, List.length_append, List.length_cons, DateTime.twoDigits]
  omega

/-- The start of a local time is cut out of it without an error. -/
theorem substring_text (zone : TimeZone) (time : DateTime) {count : ℕ} (short : count ≤ 11) :
    substring (time.text (zone.offsetOf time)) count =
      .ok (String.ofList ((time.text (zone.offsetOf time)).toList.take count)) := by
  apply substring_take
  · have long := length_dateText (zone.fields time).date
    rw [text_toList, List.length_append, List.length_cons]
    omega
  · intro char member
    have inside := List.mem_of_mem_take member
    rw [DateTime.text, String.toList_ofList] at inside
    rcases DateTime.mem_calendarText inside with digit | other
    · simp only [Char.isDigit, Bool.and_eq_true, decide_eq_true_eq] at digit
      have below : char.toNat ≤ 57 := digit.2
      apply if_pos
      omega
    · simp only [List.mem_cons, List.not_mem_nil, or_false] at other
      rcases other with rfl | rfl | rfl | rfl <;> rfl

section
variable {zone : TimeZone} {first second : DateTime}

theorem length_fourDigits {year : ℤ} (positive : 0 ≤ year) (short : year ≤ 9999) : (DateTime.fourDigits year).length = 4 := by
  rw [DateTime.fourDigits, if_neg (by omega)]
  exact Decimal.length_padded (by decide) (by omega)

theorem length_twoDigits {number : ℤ} (short : number ≤ 31) : (DateTime.twoDigits number).length = 2 :=
  Decimal.length_padded (by decide) (by omega)

theorem dateText_ten (year : FourDigitYear zone first) : (dateText (zone.fields first).date).length = 10 := by
  have valid := fields_valid zone first
  have month := valid.month.2
  simp only [dateText, List.length_append, List.length_cons, length_fourDigits year.1 year.2,
    length_twoDigits (by omega : (zone.fields first).date.month ≤ 31), length_twoDigits valid.day.2]

theorem dateText_injective (firstYear : FourDigitYear zone first) (secondYear : FourDigitYear zone second)
    (same : dateText (zone.fields first).date = dateText (zone.fields second).date) :
    (zone.fields first).date = (zone.fields second).date := by
  have valid := fields_valid zone first
  have otherValid := fields_valid zone second
  have twoDigits : ∀ {one other : ℤ}, 1 ≤ one → 1 ≤ other → DateTime.twoDigits one = DateTime.twoDigits other → one = other := by
    intro one other positive otherPositive digits
    have numbers := Decimal.padded_injective digits
    omega
  obtain ⟨years, rest⟩ := List.append_inj same
    ((length_fourDigits firstYear.1 firstYear.2).trans (length_fourDigits secondYear.1 secondYear.2).symm)
  have monthShort : ∀ {time : DateTime}, (zone.fields time).date.month ≤ 31 :=
    fun {time} => (fields_valid zone time).month.2.trans (by decide)
  obtain ⟨months, rest⟩ := List.append_inj (List.cons.inj rest).2
    ((length_twoDigits monthShort).trans (length_twoDigits monthShort).symm)
  have days := (List.cons.inj rest).2
  have year : (zone.fields first).date.year = (zone.fields second).date.year := by
    obtain ⟨positive, _⟩ := firstYear
    obtain ⟨otherPositive, _⟩ := secondYear
    rw [DateTime.fourDigits, DateTime.fourDigits, if_neg (by omega), if_neg (by omega)] at years
    have numbers := Decimal.padded_injective years
    omega
  have month := twoDigits valid.month.1 otherValid.month.1 months
  have day := twoDigits valid.day.1 otherValid.day.1 days
  cases date : (zone.fields first).date
  cases otherDate : (zone.fields second).date
  simp_all

theorem drawDateLabel_eq (year : FourDigitYear zone first) :
    CreateClub.drawDateLabel zone (some first) = .ok (String.ofList (dateText (zone.fields first).date)) := by
  rw [CreateClub.drawDateLabel, substring_text zone first (by decide), text_toList,
    List.take_left' (dateText_ten year)]

theorem day_eq (year : FourDigitYear zone first) :
    ClubItemCard.day zone first = .ok (String.ofList (dateText (zone.fields first).date ++ [' '])) := by
  have split : dateText (zone.fields first).date ++ ' ' :: DateTime.clockText (zone.fields first) =
      (dateText (zone.fields first).date ++ [' ']) ++ DateTime.clockText (zone.fields first) := by simp
  have eleven : (dateText (zone.fields first).date ++ [' ']).length = 11 := by
    rw [List.length_append, dateText_ten year]
    rfl
  rw [ClubItemCard.day, substring_text zone first le_rfl, text_toList, split, List.take_left' eleven]

theorem stamp_ok (zone : TimeZone) (time : DateTime) :
    ∃ date, getFormattedDateTime (zone.fields time) = .ok date ∧
      TransactionCard.stamp zone time = .ok (getFormattedTime (zone.fields time) ++ "  |  " ++ date) := by
  obtain ⟨month, _, _, text⟩ := getFormattedDateTime_ok (fields_valid zone time)
  refine ⟨_, text, ?_⟩
  rw [TransactionCard.stamp, text]
  rfl

theorem stamp_eq_iff : TransactionCard.stamp zone first = TransactionCard.stamp zone second ↔
    (zone.fields first).date.month = (zone.fields second).date.month ∧
      (zone.fields first).date.day = (zone.fields second).date.day ∧
      (zone.fields first).hour = (zone.fields second).hour ∧ (zone.fields first).minute = (zone.fields second).minute := by
  obtain ⟨date, dated, stamped⟩ := stamp_ok zone first
  obtain ⟨otherDate, otherDated, otherStamped⟩ := stamp_ok zone second
  have valid := fields_valid zone first
  have otherValid := fields_valid zone second
  constructor
  · intro same
    rw [stamped, otherStamped] at same
    have chars := congrArg String.toList (Except.ok.inj same)
    simp only [String.toList_append, List.append_assoc] at chars
    obtain ⟨times, rest⟩ := List.append_inj chars
      ((length_getFormattedTime valid).trans (length_getFormattedTime otherValid).symm)
    have dates : date = otherDate := String.toList_inj.mp (List.append_cancel_left rest)
    obtain ⟨hour, minute⟩ := getFormattedTime_injective valid otherValid (String.toList_inj.mp times)
    obtain ⟨month, day⟩ := getFormattedDateTime_injective valid otherValid (dated.trans (dates ▸ otherDated.symm))
    exact ⟨month, day, hour, minute⟩
  · rintro ⟨month, day, hour, minute⟩
    simp only [TransactionCard.stamp, getFormattedTime, getFormattedDateTime, month, day, hour, minute]

/-- No label ever fails. The days on the form and on the home page are alike exactly for
one local date, as far as its year has four digits, and two payments have one stamp
exactly in the same minute of a day, of any year. -/
theorem labels_tell_apart (zone : TimeZone) (first second : DateTime) :
    (∃ label day stamp, CreateClub.drawDateLabel zone (some first) = .ok label ∧
      ClubItemCard.day zone first = .ok day ∧ TransactionCard.stamp zone first = .ok stamp) ∧
    (FourDigitYear zone first → FourDigitYear zone second →
      (CreateClub.drawDateLabel zone (some first) = CreateClub.drawDateLabel zone (some second) ↔
        (zone.fields first).date = (zone.fields second).date) ∧
      (ClubItemCard.day zone first = ClubItemCard.day zone second ↔
        (zone.fields first).date = (zone.fields second).date)) ∧
    (TransactionCard.stamp zone first = TransactionCard.stamp zone second ↔
      (zone.fields first).date.month = (zone.fields second).date.month ∧
        (zone.fields first).date.day = (zone.fields second).date.day ∧
        (zone.fields first).hour = (zone.fields second).hour ∧ (zone.fields first).minute = (zone.fields second).minute) := by
  refine ⟨?_, ?_, stamp_eq_iff⟩
  · obtain ⟨_, _, stamped⟩ := stamp_ok zone first
    exact ⟨_, _, _, substring_text zone first (by decide), substring_text zone first le_rfl, stamped⟩
  · intro year otherYear
    rw [drawDateLabel_eq year, drawDateLabel_eq otherYear, day_eq year, day_eq otherYear]
    refine ⟨⟨?_, ?_⟩, ⟨?_, ?_⟩⟩
    · intro same
      exact dateText_injective year otherYear (String.ofList_injective (Except.ok.inj same))
    · intro same
      rw [same]
    · intro same
      have chars := String.ofList_injective (Except.ok.inj same)
      exact dateText_injective year otherYear (List.append_cancel_right chars)
    · intro same
      rw [same]

end

end Clubzey.Proofs.DateLabels
