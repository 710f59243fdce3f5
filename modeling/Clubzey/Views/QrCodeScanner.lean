import Clubzey.Backend.Server
import Clubzey.Models.EncryptedId

/-! QrCodeScanner: what its listener does with a scanned code, up to its one remote
call and after it. -/

namespace Clubzey.Views
open Dart Models Backend

/-- Where the listener stands with a code. `adding` waits for addMemberFromQR. -/
inductive Scan where
  | adding (encryptedId : EncryptedId)
  | popped
  | expired
  | thrown (error : Thrown)
  deriving DecidableEq

namespace Scan

/-- The condition under which a code is accepted; it reads the clock twice. -/
def fresh (offset : UtcOffset) (now again : DateTime) (encryptedId : EncryptedId) : Except Thrown Bool := do
  let created ← encryptedId.getDateTime offset
  if DateTime.secondsSince now created < 31 then
    let created ← encryptedId.getDateTime offset
    return decide (DateTime.secondsSince again created > 0)
  else return false

/-- The listener up to the remote call, and whether it has disposed the controller. -/
def scan (encryption : Encryption) (offset : UtcOffset) (now again : DateTime) (code : Option String) : Scan × Bool :=
  match code with
  | none => (.thrown .nullCheck, false)
  | some code =>
    match encryption.decrypted code with
    | .error error => (.thrown error, false)
    | .ok text =>
      let encryptedId : EncryptedId := ⟨split text '*'⟩
      match fresh offset now again encryptedId with
      | .error error => (.thrown error, true)
      | .ok true => (.adding encryptedId, true)
      | .ok false => (.expired, true)

def offsetToRead (encryption : Encryption) (zone : TimeZone) (code : Option String) : UtcOffset :=
  match code.map encryption.decrypted with
  | some (.ok text) => zone.offsetToRead ((split text '*')[1]?.getD "")
  | _ => TimeZone.utc

theorem scan_dated {encryption : Encryption} {offset : UtcOffset} {code text : String} {created : DateTime}
    (decrypted : encryption.decrypted code = .ok text)
    (dated : EncryptedId.getDateTime offset ⟨split text '*'⟩ = .ok created) (now again : DateTime) :
    scan encryption offset now again (some code) =
      if DateTime.secondsSince now created < 31 ∧ 0 < DateTime.secondsSince again created then
        (.adding ⟨split text '*'⟩, true)
      else (.expired, true) := by
  have decision : fresh offset now again ⟨split text '*'⟩ =
      .ok (decide (DateTime.secondsSince now created < 31 ∧ 0 < DateTime.secondsSince again created)) := by
    unfold fresh
    rw [dated]
    by_cases young : DateTime.secondsSince now created < 31
    · simp [bind, Except.bind, young, pure, Except.pure]
    · simp [bind, Except.bind, young, pure, Except.pure]
  rw [scan, decrypted]
  simp only [decision]
  by_cases young : DateTime.secondsSince now created < 31 ∧ 0 < DateTime.secondsSince again created
  · rw [decide_eq_true young, if_pos young]
  · rw [decide_eq_false young, if_neg young]

theorem scan_undated {encryption : Encryption} {offset : UtcOffset} {code text : String} {error : Thrown}
    (decrypted : encryption.decrypted code = .ok text)
    (undated : EncryptedId.getDateTime offset ⟨split text '*'⟩ = .error error) (now again : DateTime) :
    scan encryption offset now again (some code) = (.thrown error, true) := by
  have decision : fresh offset now again ⟨split text '*'⟩ = .error error := by
    rw [fresh, undated]
    rfl
  rw [scan, decrypted]
  simp only [decision]

theorem split_getId (text : String) : ∃ id, (⟨split text '*'⟩ : EncryptedId).getId = .ok id := by
  cases parts : split text '*' with
  | nil =>
    have empty : text.toList.splitOn '*' = [] := List.map_eq_nil_iff.mp parts
    exact absurd empty (List.splitOn_ne_nil '*' text.toList)
  | cons id rest => exact ⟨id, rfl⟩

theorem scan_adding {encryption : Encryption} {offset : UtcOffset} {now again : DateTime} {code : Option String}
    {encryptedId : EncryptedId} (accepted : (scan encryption offset now again code).1 = .adding encryptedId) :
    ∃ id, encryptedId.getId = .ok id := by
  unfold scan at accepted
  cases code with
  | none => cases accepted
  | some code =>
    cases decrypted : encryption.decrypted code with
    | error error =>
      simp only [decrypted] at accepted
      cases accepted
    | ok text =>
      simp only [decrypted] at accepted
      split at accepted <;> cases accepted
      exact split_getId text

theorem scan_popped (encryption : Encryption) (offset : UtcOffset) (now again : DateTime) (code : Option String) :
    (scan encryption offset now again code).1 ≠ .popped := by
  intro popped
  unfold scan at popped
  cases code with
  | none => cases popped
  | some code =>
    cases decrypted : encryption.decrypted code <;> simp only [decrypted] at popped
    · cases popped
    · split at popped <;> cases popped

/-- The remote call, after which the page and the one below it are popped. -/
def add (server : Server) (currentUser : Option String) (encryptedId : EncryptedId) (post : Outcome) : Scan × Server :=
  match addMemberFromQR server currentUser encryptedId post with
  | (.error error, after) => (.thrown error, after)
  | (.ok _, after) => (.popped, after)

/-- Shares that do not parse end like a failed POST: nobody is added and the pages
are popped. -/
theorem add_signed {encryptedId : EncryptedId} {id : String} (named : encryptedId.getId = .ok id) (server : Server)
    (email : String) (post : Outcome) :
    add server (some email) encryptedId post = (.popped,
      match encryptedId.getShares with
      | .error _ => server
      | .ok shares => (server.postAddMember ⟨id, shares, email⟩ post).2) := by
  rw [add, addMemberFromQR]
  cases parsed : encryptedId.getShares with
  | error error => simp only [named]
  | ok shares => simp only [named]

end Scan

def onScan (encryption : Encryption) (offset : UtcOffset) (now again : DateTime) (server : Server)
    (currentUser : Option String) (code : Option String) (post : Outcome) : Scan × Server :=
  match (Scan.scan encryption offset now again code).1 with
  | .adding encryptedId => Scan.add server currentUser encryptedId post
  | stopped => (stopped, server)

end Clubzey.Views
