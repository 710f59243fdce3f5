import Clubzey.Views.AddMemberPage

/-! The age of a QR code as the scanning device sees it. The instant travels as
local calendar text, so a difference of UTC offsets makes the code look older or
younger than it is. -/

namespace Clubzey.Proofs.QrZones
open Dart Models Views

def accepted (encryption : Encryption) (printed read : UtcOffset) (club : Club) (shares : Int)
    (generated scanned : DateTime) : Bool :=
  match qrImageData encryption printed club generated shares with
  | .error _ => false
  | .ok code =>
    match (Scan.scan encryption read scanned scanned (some code)).1 with
    | .adding _ => true
    | _ => false

def elapsed (generated scanned : DateTime) : Int :=
  scanned.microsecondsSinceEpoch - generated.microsecondsSinceEpoch

def Fresh (micros : Int) : Prop := 1000000 ≤ micros ∧ micros < 31000000

def Readable (printed read : UtcOffset) (generated : DateTime) : Prop :=
  (generated.microsecondsSinceEpoch + printed.shift read).natAbs ≤ maxMicroseconds

/-- The decision is that of two devices with one offset, and no code is accepted
more than thirty-one seconds after its generation. -/
def ZoneFree (encryption : Encryption) (printed read : UtcOffset) (club : Club) (shares : Int)
    (generated scanned : DateTime) : Prop :=
  (∀ common, accepted encryption printed read club shares generated scanned =
    accepted encryption common common club shares generated scanned) ∧
  (accepted encryption printed read club shares generated scanned = true → elapsed generated scanned ≤ 31000000)

def midnight : DateTime := ⟨0, DateTime.epoch_inRange⟩

def later (seconds : Fin 86400) : DateTime := ⟨seconds.val * 1000000, by unfold maxMicroseconds; omega⟩

section
variable {encryption : Encryption} (roundTrips : encryption.RoundTrips) {club : Club} {id : String}
  (named : club.getId = .ok id) (plain : '*' ∉ id.toList)
include roundTrips named plain

theorem accepted_iff (printed read : UtcOffset) (shares : Int) (generated scanned : DateTime) :
    accepted encryption printed read club shares generated scanned = true ↔
      Fresh (elapsed generated scanned - printed.shift read) ∧ Readable printed read generated := by
  have shown : qrImageData encryption printed club generated shares =
      .ok (encryption.encrypted (qrCode printed id generated shares)) := by
    rw [qrImageData, named]
    rfl
  rw [accepted, shown]
  simp only
  by_cases readable : Readable printed read generated
  · have age : scanned.microsecondsSinceEpoch - (generated.microsecondsSinceEpoch + printed.shift read) =
        elapsed generated scanned - printed.shift read := by
      rw [elapsed]
      omega
    have young := DateTime.secondsSince_fresh scanned ⟨generated.microsecondsSinceEpoch + printed.shift read, readable⟩
    simp only [age] at young
    rw [scan_qrCode roundTrips printed plain shares readable]
    by_cases fresh : Fresh (elapsed generated scanned - printed.shift read)
    · rw [if_pos (young.mpr fresh)]
      simp [fresh, readable]
    · rw [if_neg fun decided => fresh (young.mp decided)]
      simp [fresh]
  · rw [scan_qrCode_unreadable roundTrips printed plain shares readable]
    simp [readable]

theorem accepted_common (common : UtcOffset) (shares : Int) (generated scanned : DateTime) :
    accepted encryption common common club shares generated scanned = true ↔ Fresh (elapsed generated scanned) := by
  have readable : Readable common common generated := by
    rw [Readable, UtcOffset.shift_self, Int.add_zero]
    exact generated.inRange
  rw [accepted_iff roundTrips named plain, UtcOffset.shift_self, Int.sub_zero]
  exact and_iff_left readable

private theorem zone_free_input (printed read : UtcOffset) (shares : Int) (generated scanned : DateTime) :
    ZoneFree encryption printed read club shares generated scanned ↔
      (Fresh (elapsed generated scanned) ↔
        Fresh (elapsed generated scanned - printed.shift read) ∧ Readable printed read generated) := by
  have shifted := accepted_iff roundTrips named plain printed read shares generated scanned
  constructor
  · intro free
    rw [← shifted, free.1 read]
    exact (accepted_common roundTrips named plain read shares generated scanned).symm
  · intro same
    refine ⟨?_, ?_⟩
    · intro common
      rw [Bool.eq_iff_iff, shifted, accepted_common roundTrips named plain, same]
    · intro taken
      have fresh := same.mpr (shifted.mp taken)
      exact Int.le_of_lt fresh.2

private theorem zone_free_offsets (printed read : UtcOffset) :
    (∀ shares generated scanned, ZoneFree encryption printed read club shares generated scanned) ↔ printed = read := by
  constructor
  · intro free
    by_contra different
    have apart : printed.seconds ≠ read.seconds := by
      intro same
      apply different
      cases printed
      cases read
      congr
    have kept : ∀ {scanned micros}, elapsed midnight scanned = micros → Fresh micros →
        Fresh (micros - printed.shift read) := by
      intro scanned micros age young
      have same := (zone_free_input roundTrips named plain printed read 1 midnight scanned).mp (free 1 midnight scanned)
      rw [age] at same
      exact (same.mp young).1
    -- A code at either end of its thirty seconds is moved out of them.
    rcases Int.lt_or_gt_of_ne apart with behind | ahead
    · have age : elapsed midnight (later 30) = 30000000 := rfl
      have moved := kept age ⟨by decide, by decide⟩
      unfold Fresh UtcOffset.shift at moved
      omega
    · have age : elapsed midnight (later 1) = 1000000 := rfl
      have moved := kept age ⟨by decide, by decide⟩
      unfold Fresh UtcOffset.shift at moved
      omega
  · rintro rfl shares generated scanned
    rw [zone_free_input roundTrips named plain, ← accepted_iff roundTrips named plain printed printed shares]
    exact (accepted_common roundTrips named plain printed shares generated scanned).symm

/-- Exactly when the difference of two offsets leaves the decision about a code
alone, and that only equal offsets always do. -/
theorem zone_free_iff (printed read : UtcOffset) :
    (∀ shares generated scanned, ZoneFree encryption printed read club shares generated scanned ↔
      (Fresh (elapsed generated scanned) ↔
        Fresh (elapsed generated scanned - printed.shift read) ∧ Readable printed read generated)) ∧
    ((∀ shares generated scanned, ZoneFree encryption printed read club shares generated scanned) ↔
      printed = read) :=
  ⟨zone_free_input roundTrips named plain printed read, zone_free_offsets roundTrips named plain printed read⟩

end

def club : Club := ⟨∅, some "c1"⟩

def paris : UtcOffset := ⟨3600, TimeZone.hourAhead.lessThanDay⟩

def london : UtcOffset := ⟨0, TimeZone.utc.lessThanDay⟩

theorem paris_london_zones :
    (∀ shares generated scanned, ZoneFree .counterMode paris london club shares generated scanned ↔
      (Fresh (elapsed generated scanned) ↔
        Fresh (elapsed generated scanned - paris.shift london) ∧ Readable paris london generated)) ∧
    ((∀ shares generated scanned, ZoneFree .counterMode paris london club shares generated scanned) ↔
      paris = london) := by
  have plain : '*' ∉ "c1".toList := by decide
  exact zone_free_iff Encryption.counterMode_roundTrips rfl plain paris london

/-- A code printed in Paris is accepted in London an hour and ten seconds later. -/
theorem hour_old_accepted : ¬ ∀ printed read shares generated scanned,
    ZoneFree .counterMode printed read club shares generated scanned := by
  intro always
  have plain : '*' ∉ "c1".toList := by decide
  have taken : accepted .counterMode paris london club 2 midnight (later 3610) = true := by
    rw [accepted_iff Encryption.counterMode_roundTrips rfl plain]
    unfold Fresh Readable elapsed UtcOffset.shift
    decide
  have young := (always paris london 2 midnight (later 3610)).2 taken
  exact absurd young (by unfold elapsed; decide)

end Clubzey.Proofs.QrZones
