import Clubzey.Utils.Helper

/-! The text of the remaining time until a draw, read back as a number of seconds. -/

namespace Clubzey.Proofs.RemainingTime
open Dart Utils Foundation

/-- Hours, minutes and seconds in digits, at least two for the hours and exactly two
for the others, which are below sixty. -/
def Shows (text : String) (seconds : Nat) : Prop :=
  ∃ hours minutes rest : List Char, text = String.ofList (hours ++ ':' :: (minutes ++ ':' :: rest)) ∧
    (∀ char ∈ hours ++ minutes ++ rest, char.isDigit = true) ∧
    2 ≤ hours.length ∧ minutes.length = 2 ∧ rest.length = 2 ∧
    Decimal.value minutes < 60 ∧ Decimal.value rest < 60 ∧
    3600 * Decimal.value hours + 60 * Decimal.value minutes + Decimal.value rest = seconds

theorem shows_render (seconds : Nat) : Shows (String.ofList (Sexagesimal.render seconds)) seconds := by
  refine ⟨_, _, _, rfl, ?_, ?_, ?_, ?_, ?_, ?_, ?_⟩
  · intro char member
    simp only [List.mem_append] at member
    rcases member with (hours | minutes) | rest
    · exact Decimal.isDigit_padded hours
    · exact Decimal.isDigit_padded minutes
    · exact Decimal.isDigit_padded rest
  · rw [Decimal.padded, List.length_leftpad]
    exact Nat.le_max_left ..
  · exact Decimal.length_padded (by omega) (by omega)
  · exact Decimal.length_padded (by omega) (by omega)
  · rw [Decimal.value_padded]
    omega
  · rw [Decimal.value_padded]
    omega
  · simp only [Decimal.value_padded]
    omega

theorem shows_unique {text : String} {first second : Nat} (one : Shows text first) (other : Shows text second) :
    first = second := by
  obtain ⟨hours, minutes, rest, rfl, digits, _, _, _, _, _, rfl⟩ := one
  obtain ⟨hours', minutes', rest', same, digits', _, _, _, _, _, rfl⟩ := other
  have plain : ∀ {chars : List Char}, (∀ char ∈ chars, char.isDigit = true) → ':' ∉ chars := by
    intro chars all colon
    have digit := all ':' colon
    simp at digit
  simp only [List.mem_append] at digits digits'
  have parts := congrArg (List.splitOn ':') (String.ofList_injective same)
  rw [List.splitOn_append_cons_self_of_not_mem (plain fun char member => digits char (Or.inl (Or.inl member))),
    List.splitOn_append_cons_self_of_not_mem (plain fun char member => digits char (Or.inl (Or.inr member))),
    List.splitOn_eq_singleton (plain fun char member => digits char (Or.inr member)),
    List.splitOn_append_cons_self_of_not_mem (plain fun char member => digits' char (Or.inl (Or.inl member))),
    List.splitOn_append_cons_self_of_not_mem (plain fun char member => digits' char (Or.inl (Or.inr member))),
    List.splitOn_eq_singleton (plain fun char member => digits' char (Or.inr member))] at parts
  cases parts
  rfl

def secondsLeft (now dateTime : DateTime) : Nat :=
  ((dateTime.microsecondsSinceEpoch - now.microsecondsSinceEpoch) / 1000000).toNat

private theorem pending_text {now : DateTime.Reading} {dateTime : DateTime}
    (pending : now.microsecondsSinceEpoch ≤ dateTime.microsecondsSinceEpoch) :
    formatDuration now.toDateTime dateTime =
      .ok (String.ofList (Sexagesimal.render (secondsLeft now.toDateTime dateTime))) :=
  formatDuration_pending pending (now.until_small dateTime)

/-- The text says exactly whether the draw has ended and otherwise how many whole
seconds are left, so it never grows and differs for different numbers of them. -/
theorem remaining_time_exact (now : DateTime.Reading) (draw : DateTime) :
    (formatDuration now.toDateTime draw = .ok "Draw ended" ↔
      draw.microsecondsSinceEpoch < now.microsecondsSinceEpoch) ∧
    (now.microsecondsSinceEpoch ≤ draw.microsecondsSinceEpoch →
      ∃ text seconds, formatDuration now.toDateTime draw = .ok text ∧ Shows text seconds ∧
        (seconds : Int) = (draw.microsecondsSinceEpoch - now.microsecondsSinceEpoch) / 1000000) ∧
    (∀ later : DateTime.Reading, now.microsecondsSinceEpoch ≤ later.microsecondsSinceEpoch →
      later.microsecondsSinceEpoch ≤ draw.microsecondsSinceEpoch → ∀ first second before after,
      formatDuration now.toDateTime draw = .ok first → formatDuration later.toDateTime draw = .ok second →
      Shows first before → Shows second after → after ≤ before) ∧
    (∀ (other : DateTime.Reading) (next : DateTime),
      now.microsecondsSinceEpoch ≤ draw.microsecondsSinceEpoch →
      other.microsecondsSinceEpoch ≤ next.microsecondsSinceEpoch →
      (formatDuration now.toDateTime draw = formatDuration other.toDateTime next ↔
        (draw.microsecondsSinceEpoch - now.microsecondsSinceEpoch) / 1000000 =
          (next.microsecondsSinceEpoch - other.microsecondsSinceEpoch) / 1000000)) := by
  refine ⟨formatDuration_ended, ?_, ?_, ?_⟩
  · intro pending
    refine ⟨_, _, pending_text pending, shows_render _, ?_⟩
    unfold secondsLeft
    omega
  · intro later passes pending first second before after firstText secondText firstShows secondShows
    rw [pending_text (Int.le_trans passes pending)] at firstText
    rw [pending_text pending] at secondText
    cases firstText
    cases secondText
    rw [shows_unique firstShows (shows_render _), shows_unique secondShows (shows_render _)]
    unfold secondsLeft
    omega
  · intro other next pending otherPending
    rw [pending_text pending, pending_text otherPending]
    constructor
    · intro same
      have equal := Sexagesimal.render_injective (String.ofList_injective (Except.ok.inj same))
      unfold secondsLeft at equal
      omega
    · intro same
      unfold secondsLeft
      rw [same]

end Clubzey.Proofs.RemainingTime
