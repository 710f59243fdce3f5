import Clubzey.Views.AddMemberPage
import Clubzey.Views.JoinWithCodePage

/-! The three operations that end in POST /addMember. Its failure is caught and
printed, so each of them goes on as if the member had been added. -/

namespace Clubzey.Proofs.Membership
open Dart Models Backend Views Foundation

def Added (before after : Server) (member : Membership) : Prop := after.members = member :: before.members

def Deleted (before after : Server) : Prop :=
  ∃ id, before.invitationRoom.doc id ≠ none ∧ after.invitationRoom.doc id = none

private theorem not_added {before after : Server} (same : after.members = before.members) (member : Membership) :
    ¬ Added before after member := by
  intro added
  have lengths := congrArg List.length (same.symm.trans added)
  simp at lengths

private theorem not_deleted {before after : Server} (same : after.invitationRoom = before.invitationRoom) :
    ¬ Deleted before after := by
  intro deleted
  obtain ⟨id, stored, gone⟩ := deleted
  exact stored (same ▸ gone)

/-! Redeeming a code. -/

def RedemptionSafe (server : Server) (currentUser : Option String) (code : String) (query post delete : Outcome) :
    Prop :=
  Deleted server (onCompleted server currentUser code query post delete).2 →
    ∃ email data, currentUser = some email ∧ server.findInvitation code = some data ∧
      Added server (onCompleted server currentUser code query post delete).2 ⟨data.clubId, data.shares, email⟩

/-- Only the POST fails, and there is a document to delete. -/
def RedemptionLost (server : Server) (currentUser : Option String) (code : String) (query post delete : Outcome) :
    Prop :=
  query = .success ∧ currentUser.isSome ∧ post = .failure ∧ delete = .success ∧
    ∃ data, server.findInvitation code = some data ∧ server.invitationRoom.doc data.id ≠ none

/-- A signed-in joiner who finds a document goes on to delete it whatever becomes of
the POST. -/
theorem onCompleted_found {server : Server} {code : String} {data : Invitation}
    (present : server.findInvitation code = some data) (email : String) (post delete : Outcome) :
    onCompleted server (some email) code .success post delete =
      Joiner.delete (server.postAddMember ⟨data.clubId, data.shares, email⟩ post).2 data delete := by
  have adding : Joiner.check server code .success = .adding data := by
    simp only [Joiner.check, checkInvitationCode, present]
  rw [onCompleted, adding]
  cases post <;> rfl

private theorem onCompleted_idle {server : Server} {currentUser : Option String} {code : String} {query : Outcome}
    (idle : query = .failure ∨ server.findInvitation code = none ∨ currentUser = none) (post delete : Outcome) :
    (onCompleted server currentUser code query post delete).2 = server := by
  cases query with
  | failure => rfl
  | success =>
    cases present : server.findInvitation code with
    | none =>
      have rejected : Joiner.check server code .success = .rejected := by
        simp only [Joiner.check, checkInvitationCode, present]
      rw [onCompleted, rejected]
    | some data =>
      obtain rfl : currentUser = none := by simpa [present] using idle
      have adding : Joiner.check server code .success = .adding data := by
        simp only [Joiner.check, checkInvitationCode, present]
      rw [onCompleted, adding]
      rfl

private theorem deleted_iff (server : Server) (id : String) :
    Deleted server { server with invitationRoom := server.invitationRoom.delete id } ↔
      server.invitationRoom.doc id ≠ none := by
  constructor
  · intro deleted
    obtain ⟨other, stored, gone⟩ := deleted
    simp only [Collection.doc_delete] at gone
    split at gone
    next same => exact same ▸ stored
    next => exact absurd gone stored
  · intro stored
    exact ⟨id, stored, by simp only [Collection.doc_delete, ite_true]⟩

theorem redemption_safe_iff (server : Server) (currentUser : Option String) (code : String)
    (query post delete : Outcome) :
    RedemptionSafe server currentUser code query post delete ↔
      ¬ RedemptionLost server currentUser code query post delete := by
  by_cases idle : query = .failure ∨ server.findInvitation code = none ∨ currentUser = none
  · constructor
    · intro _ lost
      obtain ⟨rfl, signed, _, _, data, present, _⟩ := lost
      rcases idle with impossible | missing | unsigned
      · cases impossible
      · rw [missing] at present
        cases present
      · rw [unsigned] at signed
        cases signed
    · intro _ deleted
      exact absurd deleted (not_deleted (by rw [onCompleted_idle idle]))
  · simp only [not_or] at idle
    obtain ⟨asked, found, signed⟩ := idle
    obtain ⟨data, present⟩ := Option.ne_none_iff_exists'.mp found
    obtain ⟨email, rfl⟩ := Option.ne_none_iff_exists'.mp signed
    cases query with
    | failure => exact absurd rfl asked
    | success =>
      rw [RedemptionSafe, onCompleted_found present]
      cases post with
      | success =>
        constructor
        · intro _ lost
          obtain ⟨_, _, impossible, _⟩ := lost
          cases impossible
        · intro _ _
          refine ⟨email, data, rfl, present, ?_⟩
          cases delete <;> rfl
      | failure =>
        cases delete with
        | failure =>
          constructor
          · intro _ lost
            obtain ⟨_, _, _, impossible, _⟩ := lost
            cases impossible
          · intro _ deleted
            exact absurd deleted (not_deleted rfl)
        | success =>
          constructor
          · intro safe lost
            obtain ⟨_, _, _, _, other, same, stored⟩ := lost
            cases present.symm.trans same
            obtain ⟨_, _, _, _, added⟩ := safe ((deleted_iff server data.id).mpr stored)
            exact not_added rfl _ added
          · intro kept deleted
            exact absurd ⟨rfl, rfl, rfl, rfl, data, present, (deleted_iff server data.id).mp deleted⟩ kept

/-! Creating a club. -/

/-- Returning normally means that the creator's shares are registered. -/
def CreationSafe (server : Server) (currentUser : Option String) (club : Club) (shares : Int) (set post : Outcome) :
    Prop :=
  (createClub server currentUser club shares set post).1 = .ok () →
    ∃ email id, currentUser = some email ∧ club._id = some id ∧
      Added server (createClub server currentUser club shares set post).2 ⟨id, shares, email⟩

def CreationLost (currentUser : Option String) (club : Club) (set post : Outcome) : Prop :=
  club._id.isSome ∧ set = .success ∧ currentUser.isSome ∧ post = .failure

theorem creation_safe_iff (server : Server) (currentUser : Option String) (club : Club) (shares : Int)
    (set post : Outcome) :
    CreationSafe server currentUser club shares set post ↔ ¬ CreationLost currentUser club set post := by
  cases named : club._id with
  | none =>
    have thrown := createClub_unnamed named server currentUser shares set post
    constructor
    · intro _ lost
      obtain ⟨given, _⟩ := lost
      rw [named] at given
      cases given
    · intro _ returned
      rw [thrown] at returned
      cases returned
  | some id =>
    cases set with
    | failure =>
      have thrown := createClub_named named server currentUser shares .failure post
      constructor
      · intro _ lost
        obtain ⟨_, impossible, _⟩ := lost
        cases impossible
      · intro _ returned
        rw [thrown] at returned
        cases returned
    | success =>
      rw [CreationSafe, createClub_named named]
      cases currentUser with
      | none =>
        constructor
        · intro _ lost
          obtain ⟨_, _, impossible, _⟩ := lost
          cases impossible
        · intro _ returned
          cases returned
      | some email =>
        cases post with
        | success =>
          constructor
          · intro _ lost
            obtain ⟨_, _, _, impossible⟩ := lost
            cases impossible
          · intro _ _
            exact ⟨email, id, rfl, named, rfl⟩
        | failure =>
          constructor
          · intro safe _
            obtain ⟨_, _, _, _, added⟩ := safe rfl
            exact not_added rfl _ added
          · intro kept
            exact absurd ⟨by rw [named]; rfl, rfl, rfl, rfl⟩ kept

/-! Scanning a QR code. -/

def ScanSafe (encryption : Encryption) (offset : UtcOffset) (now again : DateTime) (server : Server)
    (currentUser : Option String) (code : Option String) (post : Outcome) : Prop :=
  (onScan encryption offset now again server currentUser code post).1 = .popped →
    ∃ email encryptedId id shares, currentUser = some email ∧
      (Scan.scan encryption offset now again code).1 = .adding encryptedId ∧ encryptedId.getId = .ok id ∧
      encryptedId.getShares = .ok shares ∧
      Added server (onScan encryption offset now again server currentUser code post).2 ⟨id, shares, email⟩

def ScanLost (encryption : Encryption) (offset : UtcOffset) (now again : DateTime)
    (currentUser : Option String) (code : Option String) (post : Outcome) : Prop :=
  currentUser.isSome ∧ ∃ encryptedId, (Scan.scan encryption offset now again code).1 = .adding encryptedId ∧
    (encryptedId.getShares.toOption = none ∨ post = .failure)

theorem scan_safe_iff (encryption : Encryption) (offset : UtcOffset) (now again : DateTime) (server : Server)
    (currentUser : Option String) (code : Option String) (post : Outcome) :
    ScanSafe encryption offset now again server currentUser code post ↔
      ¬ ScanLost encryption offset now again currentUser code post := by
  by_cases accepted : ∃ encryptedId, (Scan.scan encryption offset now again code).1 = .adding encryptedId
  · obtain ⟨encryptedId, scanned⟩ := accepted
    obtain ⟨id, named⟩ := Scan.scan_adding scanned
    have added : onScan encryption offset now again server currentUser code post =
        Scan.add server currentUser encryptedId post := by
      rw [onScan, scanned]
    rw [ScanSafe, added]
    cases currentUser with
    | none =>
      constructor
      · intro _ lost
        obtain ⟨impossible, _⟩ := lost
        cases impossible
      · intro _ popped
        cases popped
    | some email =>
      rw [Scan.add_signed named]
      constructor
      · intro safe lost
        obtain ⟨_, other, same, lost⟩ := lost
        cases scanned.symm.trans same
        obtain ⟨_, _, _, shares, _, again, _, parsed, registered⟩ := safe rfl
        cases scanned.symm.trans again
        rw [parsed] at lost registered
        rcases lost with impossible | rfl
        · cases impossible
        · exact not_added rfl _ registered
      · intro kept _
        cases parsed : encryptedId.getShares with
        | error error => exact absurd ⟨rfl, encryptedId, scanned, Or.inl (by rw [parsed]; rfl)⟩ kept
        | ok shares =>
          cases post with
          | failure => exact absurd ⟨rfl, encryptedId, scanned, Or.inr rfl⟩ kept
          | success => exact ⟨email, encryptedId, id, shares, rfl, scanned, named, parsed, rfl⟩
  · constructor
    · intro _ lost
      obtain ⟨_, encryptedId, scanned, _⟩ := lost
      exact accepted ⟨encryptedId, scanned⟩
    · intro _ popped
      cases scanned : (Scan.scan encryption offset now again code).1 with
      | adding encryptedId => exact absurd ⟨encryptedId, scanned⟩ accepted
      | popped => exact absurd scanned (Scan.scan_popped encryption offset now again code)
      | expired =>
        rw [onScan, scanned] at popped
        cases popped
      | thrown error =>
        rw [onScan, scanned] at popped
        cases popped

/-- Exactly when each of the three operations commits its effects only for a
registered member. -/
theorem membership_safe_iff (server : Server) (currentUser : Option String) :
    (∀ code query post delete, RedemptionSafe server currentUser code query post delete ↔
      ¬ RedemptionLost server currentUser code query post delete) ∧
    (∀ club shares set post, CreationSafe server currentUser club shares set post ↔
      ¬ CreationLost currentUser club set post) ∧
    (∀ encryption offset now again code post, ScanSafe encryption offset now again server currentUser code post ↔
      ¬ ScanLost encryption offset now again currentUser code post) :=
  ⟨redemption_safe_iff server currentUser, creation_safe_iff server currentUser,
    fun encryption offset now again => scan_safe_iff encryption offset now again server currentUser⟩

def code : InvitationCode := ⟨"0123ABCD", InvitationCode.first_length⟩

def inviting : Server := Server.sendInvitationCode {} (createInvitationRequest "c1" 2 code)

def newClub : Club := ⟨Collection.set ∅ "members" (.list [.string "ann@example.com"]), some "c1"⟩

def utc : UtcOffset := ⟨0, TimeZone.utc.lessThanDay⟩

def shown : DateTime := ⟨0, DateTime.epoch_inRange⟩

def tenSecondsLater : DateTime := ⟨10000000, by decide⟩

def qr : String := Encryption.counterMode.encrypted (qrCode utc "c1" shown 2)

/-- In all three the POST fails and everything else succeeds. -/
theorem failed_post_commits :
    ¬ RedemptionSafe inviting (some "bob@example.com") code.text .success .failure .success ∧
      ¬ CreationSafe {} (some "ann@example.com") newClub 2 .success .failure ∧
      ¬ ScanSafe .counterMode utc tenSecondsLater tenSecondsLater {} (some "bob@example.com") (some qr) .failure := by
  refine ⟨?_, ?_, ?_⟩
  · intro safe
    obtain ⟨_, _, _, _, added⟩ := safe ⟨"c1", by decide, by decide⟩
    exact not_added rfl _ added
  · intro safe
    obtain ⟨_, _, _, _, added⟩ := safe rfl
    exact not_added rfl _ added
  · intro safe
    have scanned := scan_qrCode Encryption.counterMode_roundTrips utc (by decide : '*' ∉ "c1".toList) 2
      (by decide : (shown.microsecondsSinceEpoch + utc.shift utc).natAbs ≤ maxMicroseconds) tenSecondsLater
      tenSecondsLater
    rw [if_pos (by decide)] at scanned
    have accepted := congrArg Prod.fst scanned
    exact (scan_safe_iff _ _ _ _ _ _ _ _).mp safe ⟨rfl, _, accepted, Or.inr rfl⟩

end Clubzey.Proofs.Membership
