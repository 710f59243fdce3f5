import Clubzey.Dart.Duration
import Clubzey.Foundation.Sexagesimal

/-! Helper: what passes for an e-mail, and the remaining time until a draw as text. -/

namespace Clubzey.Utils
open Dart Foundation

/-- A part of a regular expression: one character, or one or more of a class. -/
inductive Piece where
  | char (char : Char)
  | many (accepts : Char → Bool)

def matchesPrefix : List Piece → List Char → Bool
  | [], _ => true
  | _ :: _, [] => false
  | .char expected :: pieces, char :: rest => char == expected && matchesPrefix pieces rest
  | .many accepts :: pieces, char :: rest =>
    accepts char && (matchesPrefix pieces rest || matchesPrefix (.many accepts :: pieces) rest)

/-- The class before the at sign. In the source the plus, the minus and the slash make
a range, from the plus to the slash. -/
def isLocalChar (char : Char) : Bool :=
  char.isAlphanum || ".!#$%&'*+,-./=?^_`\x7b|\x7d~".toList.contains char

/-- The expression is anchored at the start of the text and not at its end. -/
def isEmail (email : String) : Bool :=
  matchesPrefix [.many isLocalChar, .char '@', .many Char.isAlphanum, .char '.', .many Char.isAlpha] email.toList

example : isEmail "ann@b.c" ∧ isEmail "a@b.c, bob" ∧ ¬ isEmail "ann@b." := by decide

/-- `"${number<10?"0$number":number}"`. -/
def twoDigits (number : Int) : String := if number < 10 then "0" ++ intText number else intText number

/-- `formatDuration` once `getActualDateTime` has answered. -/
def formatDuration (now dateTime : DateTime) : Except Thrown String :=
  if dateTime.isBefore now then .ok "Draw ended"
  else do
    let hours := (dateTime.difference now).inHours
    let minutes := (dateTime.difference (← now.add (.ofHours hours))).inMinutes
    let seconds := (dateTime.difference (← now.add (.ofMinutes (hours * 60 + minutes)))).inSeconds
    return twoDigits hours ++ ":" ++ twoDigits minutes ++ ":" ++ twoDigits seconds

theorem twoDigits_padded (number : Nat) : twoDigits number = String.ofList (Decimal.padded 2 number) := by
  have text : intText number = String.ofList (Nat.toDigits 10 number) := by
    rw [intText, Decimal.signed, if_neg (by omega), Int.natAbs_natCast]
  unfold twoDigits
  split
  next below =>
    have single : Nat.toDigits 10 number = [Nat.digitChar number] := Nat.toDigits_of_lt_base (by omega)
    have padded : List.leftpad 2 '0' [Nat.digitChar number] = ['0'] ++ [Nat.digitChar number] := rfl
    rw [text, single, Decimal.padded, single, padded, String.ofList_append]
  next above =>
    have long : 2 ≤ (Nat.toDigits 10 number).length := by
      by_contra short
      have atMost : (Nat.toDigits 10 number).length ≤ 1 := by omega
      have small := Nat.length_toDigits_le_iff (by omega : 1 < 10) (by omega : 0 < 1) |>.mp atMost
      omega
    rw [text, Decimal.padded, List.leftpad, Nat.sub_eq_zero_of_le long]
    rfl

private theorem mem_twoDigits {number : Int} {char : Char} (member : char ∈ (twoDigits number).toList) :
    char.isDigit = true ∨ char = '-' := by
  have digits : char ∈ '0' :: Decimal.signed number := by
    unfold twoDigits at member
    split at member
    · simpa [intText] using member
    · exact List.mem_cons_of_mem _ (by simpa [intText] using member)
  rcases List.mem_cons.mp digits with zero | signed
  · exact Or.inl (by rw [zero]; rfl)
  · exact Decimal.mem_signed signed

private theorem time_not_ended (hours minutes seconds : Int) :
    twoDigits hours ++ ":" ++ twoDigits minutes ++ ":" ++ twoDigits seconds ≠ "Draw ended" := by
  intro same
  have letter : 'D' ∈ (twoDigits hours ++ ":" ++ twoDigits minutes ++ ":" ++ twoDigits seconds).toList := by
    rw [same]
    simp
  simp only [String.toList_append, List.mem_append] at letter
  have notDigit : ∀ {number : Int}, 'D' ∉ (twoDigits number).toList := by
    intro number member
    rcases mem_twoDigits member with digit | minus <;> simp at *
  simp [notDigit] at letter

theorem formatDuration_ended {now dateTime : DateTime} :
    formatDuration now dateTime = .ok "Draw ended" ↔
      dateTime.microsecondsSinceEpoch < now.microsecondsSinceEpoch := by
  unfold formatDuration DateTime.isBefore
  by_cases before : dateTime.microsecondsSinceEpoch < now.microsecondsSinceEpoch
  · simp [before]
  · simp only [before, decide_false, Bool.false_eq_true, if_false, iff_false]
    intro ended
    cases first : now.add (.ofHours (dateTime.difference now).inHours) with
    | error error =>
      rw [first] at ended
      cases ended
    | ok afterHours =>
      simp only [first, bind, Except.bind] at ended
      split at ended
      · cases ended
      · exact time_not_ended _ _ _ (Except.ok.inj ended)

/-- The three truncated differences are the quotients and remainders of one number of
whole seconds. -/
theorem formatDuration_pending {now dateTime : DateTime}
    (pending : now.microsecondsSinceEpoch ≤ dateTime.microsecondsSinceEpoch)
    (small : dateTime.microsecondsSinceEpoch - now.microsecondsSinceEpoch < 2 ^ 63) :
    formatDuration now dateTime = .ok (String.ofList (Sexagesimal.render
      ((dateTime.microsecondsSinceEpoch - now.microsecondsSinceEpoch) / 1000000).toNat)) := by
  -- The three differences are cut from one number of microseconds, none of which wraps.
  obtain ⟨left, leftIs⟩ : ∃ left : Nat,
      dateTime.microsecondsSinceEpoch - now.microsecondsSinceEpoch = left := Int.eq_ofNat_of_zero_le (by omega)
  have after : ∀ passed : Nat, passed ≤ left →
      ∃ later, now.add ⟨passed⟩ = .ok later ∧ dateTime.difference later = ⟨(left - passed : Nat)⟩ := by
    intro passed fits
    obtain ⟨later, added, rest⟩ := DateTime.difference_add (Int.natCast_nonneg passed) (by omega) small
    refine ⟨later, added, ?_⟩
    rw [rest, leftIs, Int.natCast_sub fits]
  have hours : (dateTime.difference now).inHours = (left / 3600000000 : Nat) := by
    have whole : Duration.wrap left = left := Duration.wrap_small ⟨by omega, by omega⟩
    rw [DateTime.difference, leftIs, whole, Duration.inHours_natCast]
  have ofHours : Duration.ofHours (left / 3600000000 : Nat) = ⟨(left / 3600000000 * 3600000000 : Nat)⟩ := by
    have same : (left / 3600000000 : Nat) * 3600000000 = ((left / 3600000000 * 3600000000 : Nat) : Int) := by omega
    rw [Duration.ofHours, same, Duration.wrap_small ⟨by omega, by omega⟩]
  obtain ⟨afterHours, hoursAdded, hoursRest⟩ := after (left / 3600000000 * 3600000000) (by omega)
  have minutes : (dateTime.difference afterHours).inMinutes = (left / 60000000 % 60 : Nat) := by
    have same : (left - left / 3600000000 * 3600000000) / 60000000 = left / 60000000 % 60 := by omega
    rw [hoursRest, Duration.inMinutes_natCast, same]
  have ofMinutes : Duration.ofMinutes ((left / 3600000000 : Nat) * 60 + (left / 60000000 % 60 : Nat)) =
      ⟨(left / 60000000 * 60000000 : Nat)⟩ := by
    have same : ((left / 3600000000 : Nat) * 60 + (left / 60000000 % 60 : Nat)) * 60000000 =
        ((left / 60000000 * 60000000 : Nat) : Int) := by omega
    rw [Duration.ofMinutes, same, Duration.wrap_small ⟨by omega, by omega⟩]
  obtain ⟨afterMinutes, minutesAdded, minutesRest⟩ := after (left / 60000000 * 60000000) (by omega)
  have seconds : (dateTime.difference afterMinutes).inSeconds = (left / 1000000 % 60 : Nat) := by
    have same : (left - left / 60000000 * 60000000) / 1000000 = left / 1000000 % 60 := by omega
    rw [minutesRest, Duration.inSeconds_natCast, same]
  have notBefore : dateTime.isBefore now = false := decide_eq_false (by omega)
  have whole : ((left : Int) / 1000000).toNat = left / 1000000 := by omega
  rw [formatDuration, notBefore, leftIs, whole]
  simp only [Bool.false_eq_true, if_false, hours, ofHours, hoursAdded, minutes, ofMinutes, minutesAdded, seconds,
    twoDigits_padded, bind, Except.bind, pure, Except.pure, Sexagesimal.render]
  have wholeHours : left / 1000000 / 3600 = left / 3600000000 := by omega
  have wholeMinutes : left / 1000000 / 60 = left / 60000000 := by omega
  rw [wholeHours, wholeMinutes]
  apply congrArg Except.ok
  apply String.toList_inj.mp
  simp

end Clubzey.Utils
