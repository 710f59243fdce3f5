import Clubzey.Proofs.QrFreshness
import Clubzey.Systems.ScanLabel

/-! What "Scan within" promises. The label and the code are timed apart, and still the
number is what is left for the code on display. -/

namespace Clubzey.Proofs.ScanLabel
open Dart Models Foundation Systems.ScanLabel QrFreshness

section
variable {encryption : Encryption} (roundTrips : encryption.RoundTrips) {club : Club} {id : String}
  (named : club.getId = .ok id) (plain : '*' ∉ id.toList)
include roundTrips named plain

/-- Once all that is due has come, the code can be scanned exactly while the label shows a
number other than one. It then stays so for all but the last of the seconds shown, even if
it is replaced meanwhile, and not longer than for all of them. -/
theorem label_tells_time_left {zone : TimeZone} {opened : DateTime} {events : List Event} {state : State}
    (ran : Runs.run step (construct opened) events = some state) (settled : Settled state)
    (unshifted : zone.shift state.display.qrCreated = 0) (shares : Int) :
    (scannable encryption zone club shares state.display.qrCreated state.display.now = true ↔
      ∃ left, state.label.data = some left ∧ left ≠ 1) ∧
    ∀ left, state.label.data = some left → left ≠ 1 →
      state.text = "Scan within " ++ intText left ∧ 1 < left ∧ left ≤ 30 ∧ ∀ later : DateTime,
        (state.now ≤ later.microsecondsSinceEpoch → later.microsecondsSinceEpoch ≤ state.now + (left - 1) * second →
          scannable encryption zone club shares state.display.qrCreated later = true) ∧
        (state.now + left * second ≤ later.microsecondsSinceEpoch →
          scannable encryption zone club shares state.display.qrCreated later = false) := by
  have kept := (kept_preserved opened.microsecondsSinceEpoch).always (kept_construct opened) ran
  obtain ⟨nonneg, below, first, counted⟩ := label_data kept settled
  have decided : ∀ scanned : DateTime,
      scannable encryption zone club shares state.display.qrCreated scanned = true ↔
        state.stamped + second ≤ scanned.microsecondsSinceEpoch ∧
          scanned.microsecondsSinceEpoch < state.stamped + 31 * second := by
    intro scanned
    rw [scannable_iff roundTrips named plain, readFresh_plain unshifted, QrZones.Fresh, QrZones.elapsed]
    unfold State.stamped second
    omega
  have age : state.stamped + state.age * second ≤ state.now ∧ state.now < state.stamped + (state.age + 1) * second := by
    unfold State.age second
    omega
  have older : ∀ left, state.label.data = some left → left ≠ 1 → 0 < state.age := by
    intro left data other
    by_contra fresh
    rcases first (by omega) with nothing | one
    · rw [nothing] at data
      cases data
    · rw [one] at data
      exact other (Option.some.inj data).symm
  refine ⟨?_, ?_⟩
  · rw [decided]
    have now : state.display.now.microsecondsSinceEpoch = state.now := rfl
    rw [now]
    constructor
    · intro inTime
      have aged : 0 < state.age := by
        unfold second at *
        omega
      exact ⟨_, counted aged, by omega⟩
    · rintro ⟨left, data, other⟩
      have aged := older left data other
      unfold second at *
      omega
  · intro left data other
    have aged := older left data other
    have shown := counted aged
    rw [data] at shown
    cases shown
    refine ⟨?_, by omega, by omega, ?_⟩
    · rw [State.text, data, Option.getD_some]
    · intro later
      refine ⟨?_, ?_⟩
      · intro now soon
        rw [decided]
        unfold second at *
        omega
      · intro late
        rw [← Bool.not_eq_true, decided]
        unfold second at *
        omega

end

/-- The label has counted twice. -/
def twoSeconds : State :=
  (Runs.run step (construct QrZones.midnight)
    [.pass (QrZones.later 1), .count, .pass (QrZones.later 2), .count]).get (by decide +kernel)

theorem twenty_nine_left : twoSeconds.text = "Scan within 29" ∧
    scannable .counterMode (.fixed QrZones.paris) QrZones.club 2 QrZones.midnight (QrZones.later 30) = true ∧
    scannable .counterMode (.fixed QrZones.paris) QrZones.club 2 QrZones.midnight (QrZones.later 31) = false := by
  have settled : Settled twoSeconds := ⟨by decide +kernel, by decide +kernel⟩
  have data : twoSeconds.label.data = some 29 := by decide +kernel
  have named : QrZones.club.getId = .ok "c1" := rfl
  have unshifted : TimeZone.shift (.fixed QrZones.paris) twoSeconds.display.qrCreated = 0 := by decide +kernel
  obtain ⟨text, -, -, promised⟩ := (label_tells_time_left Encryption.counterMode_roundTrips named (by decide)
    (Option.some_get _).symm settled unshifted 2).2 29 data (by decide)
  refine ⟨text, ?_, ?_⟩
  · exact (promised (QrZones.later 30)).1 (by decide +kernel) (by decide +kernel)
  · exact (promised (QrZones.later 31)).2 (by decide +kernel)

end Clubzey.Proofs.ScanLabel
