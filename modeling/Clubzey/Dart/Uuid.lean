import Mathlib

/-! The identifiers that `Uuid().v4()` draws. -/

namespace Clubzey.Dart

/-- Whether a character may stand where the layout has the given one: `x` is any
hexadecimal digit and `y` one of the four variant digits. -/
def fitsLayout (layout char : Char) : Bool :=
  match layout with
  | 'x' => char.isDigit || ('a' ≤ char && char ≤ 'f')
  | 'y' => ['8', '9', 'a', 'b'].contains char
  | fixed => char == fixed

def uuidLayout : List Char := "xxxxxxxx-xxxx-4xxx-yxxx-xxxxxxxxxxxx".toList

structure Uuid where
  text : String
  v4 : List.Forall₂ (fun layout char => fitsLayout layout char = true) uuidLayout text.toList

namespace Uuid

theorem ext_text {first second : Uuid} (same : first.text = second.text) : first = second := by
  cases first
  cases second
  congr

theorem length (uuid : Uuid) : uuid.text.toList.length = 36 := by
  rw [← uuid.v4.length_eq]
  decide

def substring (uuid : Uuid) (count : Nat) : List Char := uuid.text.toList.take count

theorem length_substring (uuid : Uuid) {count : Nat} (inside : count ≤ 36) :
    (uuid.substring count).length = count := by
  rw [substring, List.length_take, uuid.length]
  omega

end Uuid
end Clubzey.Dart
