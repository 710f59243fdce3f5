import Clubzey.Dart.Core

/-! Texts: trimming, and lengths and parts in UTF-16 code units. -/

namespace Clubzey.Dart

/-- `text.trim()`. -/
def trimmed (text : String) : String := String.ofList (trim text.toList)

/-- Characters outside the basic plane take two units. -/
def unitsOf (char : Char) : Nat := if char.toNat < 0x10000 then 1 else 2

def length (text : String) : Nat := (text.toList.map unitsOf).sum

/-- The first units of a text; half a character is shown as the replacement character. -/
def takeUnits : Nat → List Char → Option (List Char)
  | 0, _ => some []
  | _ + 1, [] => none
  | 1, char :: _ => some [if unitsOf char = 1 then char else '\uFFFD']
  | count + 2, char :: rest =>
    if unitsOf char = 1 then (takeUnits (count + 1) rest).map (char :: ·) else (takeUnits count rest).map (char :: ·)

/-- `text.substring(0, count)`. -/
def substring (text : String) (count : Nat) : Except Thrown String :=
  match takeUnits count text.toList with
  | some chars => .ok (String.ofList chars)
  | none => .error .rangeError

/-- A text that does not begin with whitespace is trimmed at its end only. -/
theorem trim_end {first : Char} (rest : List Char) (visible : isWhitespace first = false) :
    trim (first :: rest) = (first :: rest).rdropWhile isWhitespace := by
  rw [trim, List.dropWhile_cons_of_neg (by simp [visible]), List.rdropWhile]

theorem rdropWhile_append {last : Char} (front rest : List Char) (visible : isWhitespace last = false) :
    (front ++ last :: rest).rdropWhile isWhitespace = front ++ last :: rest.rdropWhile isWhitespace := by
  simp only [List.rdropWhile, List.reverse_append, List.reverse_cons, List.append_assoc, List.singleton_append]
  rw [List.dropWhile_append]
  split
  next blank =>
    rw [List.dropWhile_cons_of_neg (by simp [visible]), List.isEmpty_iff.mp blank]
    simp
  next => simp

theorem takeUnits_take {count : Nat} {text : List Char} (enough : count ≤ text.length)
    (single : ∀ char ∈ text.take count, unitsOf char = 1) : takeUnits count text = some (text.take count) := by
  induction count generalizing text with
  | zero => simp [takeUnits]
  | succ count ih =>
    cases text with
    | nil => cases enough
    | cons char rest =>
      rw [List.take_succ_cons] at single ⊢
      obtain ⟨here, others⟩ := List.forall_mem_cons.mp single
      have later := ih (Nat.le_of_succ_le_succ enough) others
      cases count with
      | zero => simp [takeUnits, here]
      | succ count => rw [takeUnits, if_pos here, later, Option.map_some]

theorem substring_take {count : Nat} {text : String} (enough : count ≤ text.toList.length)
    (single : ∀ char ∈ text.toList.take count, unitsOf char = 1) :
    substring text count = .ok (String.ofList (text.toList.take count)) := by
  rw [substring, takeUnits_take enough single]

theorem substring_one {text : String} {first : Char} (head : text.toList.head? = some first)
    (single : unitsOf first = 1) : substring text 1 = .ok (String.singleton first) := by
  obtain ⟨later, split⟩ := List.head?_eq_some_iff.mp head
  have taken : text.toList.take 1 = [first] := by rw [split, List.take_succ_cons, List.take_zero]
  rw [substring_take (by simp [split]), taken, String.singleton_eq_ofList]
  intro char member
  rw [taken, List.mem_singleton] at member
  rw [member, single]

theorem length_single {text : String} (single : ∀ char ∈ text.toList, unitsOf char = 1) :
    length text = text.toList.length := by
  rw [length, List.map_congr_left single]
  simp

end Clubzey.Dart
