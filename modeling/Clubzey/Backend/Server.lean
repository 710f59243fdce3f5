import Clubzey.Models.Club
import Clubzey.Models.EncryptedId
import Clubzey.Models.Invitation

/-! What the clients share: the documents the app reads and writes and the
registrations made by POST /addMember. A remote call that fails has no effect. -/

namespace Clubzey.Backend
open Dart Models Foundation

/-- The body of POST /addMember. -/
structure Membership where
  clubId : String
  shares : Int
  memberEmail : String
  deriving DecidableEq, Repr

structure Server where
  invitationRoom : Collection Invitation := ∅
  /-- How many requests /sendInvitationCode has accepted. -/
  invitations : Nat := 0
  clubs : Collection Fields := ∅
  /-- Handled POST /addMember requests, latest first. -/
  members : List Membership := []

namespace Server

/-- The document a request leads to; the server keeps the shares as an integer. -/
def invitation (server : Server) (request : InvitationRequest) : Invitation where
  id := request.id
  invitationCode := request.invitationCode
  clubId := request.clubId
  shares := (parseInt request.shares).toOption.getD 0
  serial := server.invitations

/-- /sendInvitationCode sets invitationRoom/<posted id> to the posted fields. -/
def sendInvitationCode (server : Server) (request : InvitationRequest) : Server :=
  { server with
    invitationRoom := server.invitationRoom.set request.id (server.invitation request)
    invitations := server.invitations + 1 }

/-- The first document whose code is the given one. -/
def findInvitation (server : Server) (code : String) : Option Invitation :=
  (server.invitationRoom.docsWhere fun invitation => invitation.invitationCode == code).head?

def deleteInvitation (server : Server) (id : String) (outcome : Outcome) : Except Thrown Unit × Server :=
  match outcome with
  | .success => (.ok (), { server with invitationRoom := server.invitationRoom.delete id })
  | .failure => (.error .requestFailed, server)

def setClub (server : Server) (id : String) (fields : Fields) (outcome : Outcome) : Except Thrown Unit × Server :=
  match outcome with
  | .success => (.ok (), { server with clubs := server.clubs.set id fields })
  | .failure => (.error .requestFailed, server)

def postAddMember (server : Server) (member : Membership) (outcome : Outcome) : Except Thrown Unit × Server :=
  match outcome with
  | .success => (.ok (), { server with members := member :: server.members })
  | .failure => (.error .requestFailed, server)

theorem findInvitation_some {server : Server} {code : String} {found : Invitation}
    (first : server.findInvitation code = some found) :
    ∃ id, server.invitationRoom.doc id = some found ∧ found.invitationCode = code := by
  obtain ⟨id, stored, matching⟩ := Collection.head_docsWhere first
  exact ⟨id, stored, by simpa using matching⟩

end Server

/-! InvitationCodeData and ClubData. -/

def checkInvitationCode (server : Server) (invitationCode : String) (query : Outcome) :
    Except Thrown (Option Invitation) :=
  match query with
  | .success => .ok (server.findInvitation invitationCode)
  | .failure => .error .requestFailed

/-- The user is looked up outside the try block, so a device without one throws;
whatever the POST throws is caught and printed. -/
def addMember (server : Server) (currentUser : Option String) (clubId : String) (shares : Int) (post : Outcome) :
    Except Thrown Unit × Server :=
  match currentUser with
  | none => (.error .nullCheck, server)
  | some email =>
    match server.postAddMember ⟨clubId, shares, email⟩ post with
    | (.ok _, after) => (.ok (), after)
    | (.error _, after) => (.ok (), after)

theorem addMember_clubs (server : Server) (currentUser : Option String) (clubId : String) (shares : Int)
    (post : Outcome) : (addMember server currentUser clubId shares post).2.clubs = server.clubs := by
  cases currentUser with
  | none => rfl
  | some email => cases post <;> rfl

def createClub (server : Server) (currentUser : Option String) (club : Club) (shares : Int) (set post : Outcome) :
    Except Thrown Unit × Server :=
  let (data, club) := club.getData
  match club.getId with
  | .error error => (.error error, server)
  | .ok id =>
    match server.setClub id data set with
    | (.error error, after) => (.error error, after)
    | (.ok _, stored) => addMember stored currentUser id shares post

theorem createClub_unnamed {club : Club} (unnamed : club._id = none) (server : Server) (currentUser : Option String)
    (shares : Int) (set post : Outcome) :
    createClub server currentUser club shares set post = (.error .typeError, server) := by
  have id := club.getId_getData
  rw [unnamed] at id
  rw [createClub]
  simp only [id, Option.elim_none]

theorem createClub_named {club : Club} {id : String} (named : club._id = some id) (server : Server)
    (currentUser : Option String) (shares : Int) (set post : Outcome) :
    createClub server currentUser club shares set post =
      match set with
      | .failure => (.error .requestFailed, server)
      | .success => addMember { server with clubs := server.clubs.set id club.getData.1 } currentUser id shares post := by
  have same := club.getId_getData
  rw [named] at same
  rw [createClub]
  simp only [same, Option.elim_some]
  cases set <;> rfl

theorem createClub_clubs {club : Club} {id : String} (named : club._id = some id) (server : Server)
    (currentUser : Option String) (shares : Int) (post : Outcome) :
    (createClub server currentUser club shares .success post).2.clubs = server.clubs.set id club.getData.1 := by
  rw [createClub_named named]
  exact addMember_clubs _ _ _ _ _

/-- Only the user is looked up outside the try block, so a code whose shares do not
parse is printed and dropped. -/
def addMemberFromQR (server : Server) (currentUser : Option String) (encryptedId : EncryptedId) (post : Outcome) :
    Except Thrown Unit × Server :=
  match currentUser with
  | none => (.error .nullCheck, server)
  | some email =>
    match encryptedId.getId, encryptedId.getShares with
    | .ok clubId, .ok shares => (.ok (), (server.postAddMember ⟨clubId, shares, email⟩ post).2)
    | _, _ => (.ok (), server)

end Clubzey.Backend
