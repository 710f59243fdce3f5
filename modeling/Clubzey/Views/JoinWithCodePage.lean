import Clubzey.Backend.Server

/-! JoinWithCodePage: what completing the pin field does, one remote call at a
time. Between two calls every other client may act. -/

namespace Clubzey.Views
open Dart Models Backend

/-- Where the handler stands. `adding` and `deleting` wait for the call named,
with the document the query answered with. -/
inductive Joiner where
  | idle
  | adding (data : Invitation)
  | deleting (data : Invitation)
  | joined
  | rejected
  | thrown (error : Thrown)
  deriving DecidableEq

namespace Joiner

def Holds (joiner : Joiner) (data : Invitation) : Prop := joiner = .adding data ∨ joiner = .deleting data

def check (server : Server) (code : String) (query : Outcome) : Joiner :=
  match checkInvitationCode server code query with
  | .error error => .thrown error
  | .ok none => .rejected
  | .ok (some data) => .adding data

def add (server : Server) (currentUser : Option String) (data : Invitation) (post : Outcome) : Joiner × Server :=
  match addMember server currentUser data.clubId data.shares post with
  | (.error error, after) => (.thrown error, after)
  | (.ok _, after) => (.deleting data, after)

def delete (server : Server) (data : Invitation) (delete : Outcome) : Joiner × Server :=
  match server.deleteInvitation data.id delete with
  | (.error error, after) => (.thrown error, after)
  | (.ok _, after) => (.joined, after)

end Joiner

def onCompleted (server : Server) (currentUser : Option String) (code : String) (query post delete : Outcome) :
    Joiner × Server :=
  match Joiner.check server code query with
  | .adding data =>
    match Joiner.add server currentUser data post with
    | (.deleting data, added) => Joiner.delete added data delete
    | stopped => stopped
  | stopped => (stopped, server)

end Clubzey.Views
