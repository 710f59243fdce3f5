import Clubzey.Views.AddMemberPage

/-! One AddMemberPage and everybody who scans its codes. A code is not used up: each
scan that is in time adds its scanner, and no other scan changes anything. -/

namespace Clubzey.Proofs.QrReuse
open Dart Models Views Backend

/-- A scan of the code that was stamped at this instant, by a device that reads it at
its own offset and clock. -/
structure Attempt where
  stamped : DateTime
  read : UtcOffset
  now : DateTime
  again : DateTime
  currentUser : Option String
  post : Outcome

def scanAttempt (encryption : Encryption) (printed : UtcOffset) (club : Club) (shares : Int) (server : Server)
    (attempt : Attempt) : Server :=
  match qrImageData encryption printed club attempt.stamped shares with
  | .error _ => server
  | .ok code =>
    (onScan encryption attempt.read attempt.now attempt.again server attempt.currentUser (some code) attempt.post).2

def scanAll (encryption : Encryption) (printed : UtcOffset) (club : Club) (shares : Int) (server : Server)
    (attempts : List Attempt) : Server :=
  attempts.foldl (scanAttempt encryption printed club shares) server

/-- The stamp as the scanning device reads it is less than thirty-one and more than zero
whole seconds old. -/
def inTime (printed : UtcOffset) (attempt : Attempt) : Bool :=
  match DateTime.ofMicros (attempt.stamped.microsecondsSinceEpoch + printed.shift attempt.read) with
  | .error _ => false
  | .ok shown => DateTime.secondsSince attempt.now shown < 31 ∧ 0 < DateTime.secondsSince attempt.again shown

def joins (printed : UtcOffset) (id : String) (shares : Int) (attempt : Attempt) : Option Membership :=
  match attempt.currentUser, attempt.post with
  | some email, .success => if inTime printed attempt then some ⟨id, shares, email⟩ else none
  | _, _ => none

section
variable {encryption : Encryption} (roundTrips : encryption.RoundTrips) {club : Club} {id : String}
  (named : club.getId = .ok id) (plain : '*' ∉ id.toList) {shares : Int} (word : isInt64 shares)
  (printed : UtcOffset)
include roundTrips named plain word

theorem scanAttempt_members (server : Server) (attempt : Attempt) :
    scanAttempt encryption printed club shares server attempt =
      { server with members := (joins printed id shares attempt).toList ++ server.members } := by
  have shown : qrImageData encryption printed club attempt.stamped shares =
      .ok (encryption.encrypted (qrCode printed id attempt.stamped shares)) := by
    rw [qrImageData, named]
    rfl
  rw [scanAttempt, shown]
  dsimp only
  by_cases readable : (attempt.stamped.microsecondsSinceEpoch + printed.shift attempt.read).natAbs ≤ maxMicroseconds
  · have scanned := scan_qrCode roundTrips printed plain shares readable attempt.now attempt.again
    have dated := DateTime.ofMicros_ok readable
    by_cases young : DateTime.secondsSince attempt.now ⟨_, readable⟩ < 31 ∧
        0 < DateTime.secondsSince attempt.again ⟨_, readable⟩
    · rw [if_pos young] at scanned
      have timely : inTime printed attempt = true := by
        rw [inTime, dated]
        exact decide_eq_true young
      rw [onScan, scanned, joins]
      dsimp only
      cases attempt.currentUser with
      | none => rfl
      | some email =>
        rw [Scan.add_signed (EncryptedId.getId_parts _ _ _), EncryptedId.getShares_parts, parseInt_intText word, timely]
        cases attempt.post <;> rfl
    · rw [if_neg young] at scanned
      have late : inTime printed attempt = false := by
        rw [inTime, dated]
        exact decide_eq_false young
      rw [onScan, scanned, joins, late]
      cases attempt.currentUser <;> cases attempt.post <;> rfl
  · have scanned := scan_qrCode_unreadable roundTrips printed plain shares readable attempt.now attempt.again
    have late : inTime printed attempt = false := by
      rw [inTime, DateTime.ofMicros_error readable]
    rw [onScan, scanned, joins, late]
    cases attempt.currentUser <;> cases attempt.post <;> rfl

/-- The memberships registered are those of the scans in time that somebody signed in made
and whose request succeeded, each once and in their order, and nothing else changes. -/
theorem scanAll_members (server : Server) (attempts : List Attempt) :
    scanAll encryption printed club shares server attempts =
      { server with members := (attempts.filterMap (joins printed id shares)).reverse ++ server.members } := by
  induction attempts generalizing server with
  | nil => rfl
  | cons attempt attempts ih =>
    have first := scanAttempt_members roundTrips named plain word printed server attempt
    have rest := ih (scanAttempt encryption printed club shares server attempt)
    rw [scanAll] at rest ⊢
    rw [List.foldl_cons, rest, first, List.filterMap_cons]
    cases joins printed id shares attempt with
    | none => rfl
    | some member => simp

end

def luckyClub : Club := { data := ∅, _id := some "c1" }

def noon : DateTime := ⟨1646136000000000, DateTime.march_inRange⟩

def soon : DateTime := ⟨1646136010000000, by unfold maxMicroseconds; omega⟩

def scanBy (email : String) : Attempt := ⟨noon, TimeZone.utc, soon, soon, some email, .success⟩

/-- Ann and Bob scan one code, Ann twice. -/
theorem three_scans_join :
    (scanAll .counterMode TimeZone.utc luckyClub 2 {} [scanBy "ann@b.c", scanBy "bob@b.c", scanBy "ann@b.c"]).members =
      [⟨"c1", 2, "ann@b.c"⟩, ⟨"c1", 2, "bob@b.c"⟩, ⟨"c1", 2, "ann@b.c"⟩] := by
  have named : luckyClub.getId = .ok "c1" := rfl
  rw [scanAll_members Encryption.counterMode_roundTrips named (by decide) (by decide)]
  decide +kernel

end Clubzey.Proofs.QrReuse
