import Clubzey.Foundation.Generator

/-! The generators that count seconds down: CustomTimer for the next invitation code, and
AddMemberPage's two for its QR code. -/

namespace Clubzey.Utils
open Foundation

/-- `countStream`, which ignores the number it is given. It yields before it waits. -/
def countStream : Generator ℤ ℤ where
  start := 30
  resume i := if 0 ≤ i then some (i, i - 1) else none

/-- `timerCount`, which waits before it yields and starts again at the given count, and
without one counts on below zero, as `qrReload` does. -/
def timerCount (timerSeconds : ℤ) (minCount : Option ℤ) : Generator ℤ ℤ where
  start := timerSeconds
  resume i := some (i, if some (i - 1) = minCount then timerSeconds else i - 1)

theorem countStream_after {count : ℕ} (inside : count ≤ 31) : countStream.after count = some ((30 : ℤ) - count) := by
  induction count with
  | zero => rfl
  | succ count ih =>
    rw [Generator.after, ih (by omega), Option.bind_some]
    simp only [countStream]
    rw [if_pos (by omega), Option.map_some]
    congr 1
    push_cast
    omega

/-- Zero is the last of thirty-one items. -/
theorem countStream_item {index : ℕ} {item : ℤ} (yielded : countStream.item index = some item) :
    index ≤ 30 ∧ item = 30 - index := by
  have inside : index ≤ 31 := by
    by_contra outside
    have ended : ∀ later, countStream.after (32 + later) = none := by
      intro later
      induction later with
      | zero =>
        rw [Generator.after, countStream_after le_rfl]
        rfl
      | succ later ih =>
        rw [← add_assoc, Generator.after, ih]
        rfl
    obtain ⟨later, rfl⟩ := Nat.exists_eq_add_of_le (by omega : 32 ≤ index)
    rw [Generator.item, ended] at yielded
    cases yielded
  rw [Generator.item, countStream_after inside, Option.bind_some] at yielded
  simp only [countStream] at yielded
  split at yielded
  · cases yielded
    exact ⟨by omega, rfl⟩
  · cases yielded

/-- The count runs from the top to one and around, and never shows zero. -/
theorem timerCount_item {timerSeconds : ℕ} (positive : 0 < timerSeconds) (index : ℕ) :
    (timerCount timerSeconds (some 0)).item index = some ((timerSeconds : ℤ) - (index % timerSeconds : ℕ)) := by
  have after : (timerCount timerSeconds (some 0)).after index = some ((timerSeconds : ℤ) - (index % timerSeconds : ℕ)) := by
    induction index with
    | zero => simp [Generator.after, timerCount]
    | succ index ih =>
      have below : index % timerSeconds < timerSeconds := Nat.mod_lt _ positive
      rw [Generator.after, ih, Option.bind_some]
      simp only [timerCount, Option.map_some, Option.some.injEq]
      have split := Nat.div_add_mod index timerSeconds
      by_cases last : index % timerSeconds + 1 = timerSeconds
      · have next : (index + 1) % timerSeconds = 0 := by
          have whole : index + 1 = timerSeconds * (index / timerSeconds + 1) := by
            rw [Nat.mul_succ]
            omega
          rw [whole, Nat.mul_mod_right]
        rw [if_pos (by omega), next]
        simp
      · have next : (index + 1) % timerSeconds = index % timerSeconds + 1 := by
          have same : index + 1 = timerSeconds * (index / timerSeconds) + (index % timerSeconds + 1) := by omega
          rw [same, Nat.mul_add_mod, Nat.mod_eq_of_lt (by omega)]
        rw [if_neg (by omega), next]
        push_cast
        omega
  rw [Generator.item, after]
  rfl

end Clubzey.Utils
