import Clubzey.Dart.DateTimeText
import Clubzey.Utils.Helper

/-! Helper: the time of day on a clock of twelve hours, and the day without its year. -/

namespace Clubzey.Utils
open Dart Foundation

/-- `_months`. -/
def months : List String :=
  ["Jan", "Feb", "Mar", "Apr", "May", "Jun", "Jul", "Aug", "Sep", "Oct", "Nov", "Dec"]

def amPm (hour : ℕ) : String := if hour < 12 then "AM" else "PM"

/-- Midnight and noon are twelve. -/
def twelveHour (hour : ℕ) : ℕ := if hour = 0 then 12 else if hour < 13 then hour else hour - 12

def getFormattedTime (dateTime : Parts) : String :=
  twoDigits (twelveHour dateTime.hour) ++ ":" ++ twoDigits dateTime.minute ++ " " ++ amPm dateTime.hour

def getFormattedDateTime (dateTime : Parts) : Except Thrown String :=
  if dateTime.date.month < 1 then .error .rangeError
  else
    match months[(dateTime.date.month - 1).toNat]? with
    | none => .error .rangeError
    | some month => .ok (month ++ " " ++ intText dateTime.date.day ++ " ")

theorem twelveHour_injective {first second : ℕ} (firstHour : first < 24) (secondHour : second < 24)
    (hours : twelveHour first = twelveHour second) (halves : amPm first = amPm second) : first = second := by
  have morning : first < 12 ↔ second < 12 := by
    unfold amPm at halves
    split at halves <;> split at halves <;> first | omega | simp at halves
  unfold twelveHour at hours
  split_ifs at hours <;> omega

theorem getFormattedTime_toList (dateTime : Parts) :
    (getFormattedTime dateTime).toList =
      Decimal.padded 2 (twelveHour dateTime.hour) ++ ':' :: (Decimal.padded 2 dateTime.minute ++
        ' ' :: (amPm dateTime.hour).toList) := by
  simp [getFormattedTime, twoDigits_padded]

theorem length_twelveHour {hour : ℕ} (inside : hour < 24) : (Decimal.padded 2 (twelveHour hour)).length = 2 := by
  apply Decimal.length_padded (by decide)
  unfold twelveHour
  split_ifs <;> omega

theorem length_getFormattedTime {dateTime : Parts} (valid : dateTime.Valid) :
    (getFormattedTime dateTime).toList.length = 8 := by
  have minute : (Decimal.padded 2 dateTime.minute).length = 2 :=
    Decimal.length_padded (by decide) (valid.minute.trans (by decide))
  have half : (amPm dateTime.hour).toList.length = 2 := by
    unfold amPm
    split <;> rfl
  simp only [getFormattedTime_toList, List.length_append, List.length_cons, length_twelveHour valid.hour, minute, half]

/-- The text of the time tells the hour and the minute. -/
theorem getFormattedTime_injective {first second : Parts} (firstValid : first.Valid) (secondValid : second.Valid)
    (same : getFormattedTime first = getFormattedTime second) : first.hour = second.hour ∧ first.minute = second.minute := by
  have chars := congrArg String.toList same
  rw [getFormattedTime_toList, getFormattedTime_toList] at chars
  have width : ∀ {number : ℕ}, number < 60 → (Decimal.padded 2 number).length = 2 :=
    fun below => Decimal.length_padded (by decide) (below.trans (by decide))
  obtain ⟨hours, rest⟩ := List.append_inj chars
    ((length_twelveHour firstValid.hour).trans (length_twelveHour secondValid.hour).symm)
  obtain ⟨minutes, halves⟩ := List.append_inj (List.cons.inj rest).2
    ((width firstValid.minute).trans (width secondValid.minute).symm)
  have half := String.toList_inj.mp (List.cons.inj halves).2
  exact ⟨twelveHour_injective firstValid.hour secondValid.hour (Decimal.padded_injective hours) half, Decimal.padded_injective minutes⟩

theorem getFormattedDateTime_ok {dateTime : Parts} (valid : dateTime.Valid) :
    ∃ month ∈ months, months[(dateTime.date.month - 1).toNat]? = some month ∧
      getFormattedDateTime dateTime = .ok (month ++ " " ++ intText dateTime.date.day ++ " ") := by
  obtain ⟨first, last⟩ := valid.month
  have inside : (dateTime.date.month - 1).toNat < months.length := by
    have twelve : months.length = 12 := rfl
    omega
  refine ⟨_, List.getElem_mem inside, List.getElem?_eq_getElem inside, ?_⟩
  rw [getFormattedDateTime, if_neg (by omega), List.getElem?_eq_getElem inside]

/-- The text of the day tells the month and the day. -/
theorem getFormattedDateTime_injective {first second : Parts} (firstValid : first.Valid) (secondValid : second.Valid)
    (same : getFormattedDateTime first = getFormattedDateTime second) :
    first.date.month = second.date.month ∧ first.date.day = second.date.day := by
  obtain ⟨firstMonth, firstIn, firstAt, firstText⟩ := getFormattedDateTime_ok firstValid
  obtain ⟨secondMonth, secondIn, secondAt, secondText⟩ := getFormattedDateTime_ok secondValid
  rw [firstText, secondText] at same
  have chars := congrArg String.toList (Except.ok.inj same)
  simp only [String.toList_append, List.append_assoc] at chars
  have short : ∀ month ∈ months, month.toList.length = 3 := by decide
  obtain ⟨names, rest⟩ := List.append_inj chars ((short _ firstIn).trans (short _ secondIn).symm)
  refine ⟨?_, ?_⟩
  · have sameMonth : firstMonth = secondMonth := String.toList_inj.mp names
    have distinct : months.Nodup := by decide
    have inside : (first.date.month - 1).toNat < months.length := (List.getElem?_eq_some_iff.mp firstAt).1
    have index := (List.getElem?_inj inside distinct).mp (firstAt.trans (sameMonth ▸ secondAt.symm))
    have firstBounds := firstValid.month
    have secondBounds := secondValid.month
    omega
  · have days := List.append_cancel_right (List.append_cancel_left rest)
    have dayText : intText first.date.day = intText second.date.day := String.toList_inj.mp days
    have read : ∀ {dateTime : Parts}, dateTime.Valid → parseInt (intText dateTime.date.day) = .ok dateTime.date.day := by
      intro dateTime valid
      apply parseInt_intText
      have bounds := valid.day
      unfold isInt64
      omega
    have numbers := read firstValid
    rw [dayText, read secondValid] at numbers
    exact (Except.ok.inj numbers).symm

end Clubzey.Utils
