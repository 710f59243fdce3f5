import Clubzey.Proofs.QrZones
import Clubzey.Systems.QrDisplay

/-! When the code on display can be scanned. The page shows a code from its stamp on,
the scanner accepts it a whole second later. -/

namespace Clubzey.Proofs.QrFreshness
open Dart Models Views Foundation Systems.QrDisplay QrZones

def scannable (encryption : Encryption) (zone : TimeZone) (club : Club) (shares : Int) (stamped scanned : DateTime) :
    Bool :=
  match qrImageData encryption (zone.offsetOf stamped) club stamped shares with
  | .error _ => false
  | .ok code =>
    match (Scan.scan encryption (Scan.offsetToRead encryption zone (some code)) scanned scanned (some code)).1 with
    | .adding _ => true
    | _ => false

/-- The zone reads the text of the stamp as an instant from one whole second to just
under thirty-one seconds before the scan. -/
def ReadFresh (zone : TimeZone) (stamped scanned : DateTime) : Prop :=
  Fresh (elapsed stamped scanned - zone.shift stamped) ∧
    (stamped.microsecondsSinceEpoch + zone.shift stamped).natAbs ≤ maxMicroseconds

def Outdated (stamped scanned : DateTime) : Prop := 31000000 ≤ elapsed stamped scanned ∨ elapsed stamped scanned < 0

theorem readFresh_plain {zone : TimeZone} {stamped scanned : DateTime} (plain : zone.shift stamped = 0) :
    ReadFresh zone stamped scanned ↔ Fresh (elapsed stamped scanned) := by
  rw [ReadFresh, plain, Int.sub_zero, Int.add_zero]
  exact and_iff_left stamped.inRange

section
variable {encryption : Encryption} (roundTrips : encryption.RoundTrips) {club : Club} {id : String}
  (named : club.getId = .ok id) (plain : '*' ∉ id.toList)
include roundTrips named plain

theorem scannable_iff (zone : TimeZone) (shares : Int) (stamped scanned : DateTime) :
    scannable encryption zone club shares stamped scanned = true ↔ ReadFresh zone stamped scanned := by
  have shown : qrImageData encryption (zone.offsetOf stamped) club stamped shares =
      .ok (encryption.encrypted (qrCode (zone.offsetOf stamped) id stamped shares)) := by
    rw [qrImageData, named]
    rfl
  have parts := split_qrCode (zone.offsetOf stamped) plain stamped shares
  -- The zone reads its own text at the offset of the calendar fields in it.
  have read : Scan.offsetToRead encryption zone
      (some (encryption.encrypted (qrCode (zone.offsetOf stamped) id stamped shares))) =
      zone.offsetFor (zone.fields stamped) := by
    rw [Scan.offsetToRead, Option.map_some, roundTrips]
    dsimp only
    rw [parts]
    exact zone.offsetToRead_text stamped
  have decided := accepted_iff roundTrips named plain (zone.offsetOf stamped) (zone.offsetFor (zone.fields stamped))
    shares stamped scanned
  rw [accepted, shown] at decided
  rw [scannable, shown]
  simp only [read]
  exact decided

/-- A code on display is accepted exactly when the zone reads it as fresh, which outside
a repeated hour is from its first second on, and a code that is outdated is rejected
unless the zone reads it as fresh, which it does only in a repeated hour. -/
theorem display_scannable_iff (zone : TimeZone) (shares : Int) :
    (∀ start events state, Runs.run step (construct start) events = some state →
      (scannable encryption zone club shares state.qrCreated state.now = true ↔
        ReadFresh zone state.qrCreated state.now) ∧
      (zone.shift state.qrCreated = 0 →
        (scannable encryption zone club shares state.qrCreated state.now = true ↔ 1000000 ≤ state.age))) ∧
    ∀ stamped scanned, Outdated stamped scanned →
      (scannable encryption zone club shares stamped scanned = false ↔ ¬ ReadFresh zone stamped scanned) ∧
      (zone.shift stamped = 0 → scannable encryption zone club shares stamped scanned = false) := by
  refine ⟨?_, ?_⟩
  · intro start events state ran
    have decided := scannable_iff roundTrips named plain zone shares state.qrCreated state.now
    refine ⟨decided, ?_⟩
    intro unshifted
    have fresh : 0 ≤ (construct start).age ∧ (construct start).age ≤ timerSeconds * 1000000 := by
      rw [age_construct]
      decide
    obtain ⟨_, young⟩ := age_kept.always fresh ran
    have age : elapsed state.qrCreated state.now = state.age := rfl
    rw [decided, readFresh_plain unshifted, age, Fresh]
    unfold timerSeconds at young
    omega
  · intro stamped scanned outdated
    have decided := scannable_iff roundTrips named plain zone shares stamped scanned
    have rejected : scannable encryption zone club shares stamped scanned = false ↔ ¬ ReadFresh zone stamped scanned := by
      rw [← decided, Bool.not_eq_true]
    refine ⟨rejected, ?_⟩
    intro unshifted
    rw [rejected, readFresh_plain unshifted]
    intro fresh
    unfold Outdated at outdated
    obtain ⟨first, last⟩ := fresh
    omega

end

theorem paris_display_scannable :
    (∀ start events state, Runs.run step (construct start) events = some state →
      (scannable .counterMode (.fixed paris) club 2 state.qrCreated state.now = true ↔
        ReadFresh (.fixed paris) state.qrCreated state.now) ∧
      (TimeZone.shift (.fixed paris) state.qrCreated = 0 →
        (scannable .counterMode (.fixed paris) club 2 state.qrCreated state.now = true ↔ 1000000 ≤ state.age))) ∧
    ∀ stamped scanned, Outdated stamped scanned →
      (scannable .counterMode (.fixed paris) club 2 stamped scanned = false ↔
        ¬ ReadFresh (.fixed paris) stamped scanned) ∧
      (TimeZone.shift (.fixed paris) stamped = 0 →
        scannable .counterMode (.fixed paris) club 2 stamped scanned = false) := by
  have plain : '*' ∉ "c1".toList := by decide
  exact display_scannable_iff Encryption.counterMode_roundTrips rfl plain (.fixed paris) 2

def halfSecondLater : DateTime := ⟨500000, by decide⟩

/-- Half a second after the page has been opened its code is rejected. -/
theorem new_code_rejected : ¬ ∀ zone start events state, Runs.run step (construct start) events = some state →
    scannable .counterMode zone club 2 state.qrCreated state.now = true := by
  intro always
  have plain : '*' ∉ "c1".toList := by decide
  have taken := always (.fixed paris) midnight [.pass halfSecondLater] ⟨halfSecondLater, midnight⟩ rfl
  have fresh := (scannable_iff Encryption.counterMode_roundTrips rfl plain (.fixed paris) 2 midnight halfSecondLater).mp taken
  have unshifted : TimeZone.shift (.fixed paris) midnight = 0 := by decide
  rw [readFresh_plain unshifted] at fresh
  exact absurd fresh.1 (by decide)

end Clubzey.Proofs.QrFreshness
