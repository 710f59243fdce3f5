import Clubzey.Foundation.Runs
import Clubzey.Backend.Server

/-! One CreateInvitationPage and the server. Every build posts a fresh code; the
server handles the requests, and the replies arrive, in any order. A request can
fail without being handled, and be handled although its reply is a failure. -/

namespace Clubzey.Systems.Invitation
open Dart Models Backend Foundation

structure Request where
  code : InvitationCode
  handled : Bool := false
  answered : Bool := false

/-- What the call returns; an exception is caught and printed. -/
def createInvitationCode (code : InvitationCode) : Outcome → String
  | .success => code.text
  | .failure => ""

/-- A FutureBuilder listens to its newest future and keeps the data of older ones
until that completes. -/
structure FutureBuilder where
  future : Option Nat := none
  data : Option String := none

namespace FutureBuilder

def update (builder : FutureBuilder) (future : Nat) : FutureBuilder := { builder with future := some future }

def complete (builder : FutureBuilder) (future : Nat) (data : String) : FutureBuilder :=
  if builder.future = some future then { builder with data := some data } else builder

end FutureBuilder

/-- What has happened, for stating when the shared text is a live code. `taken` is
a reply that the page did not ignore. -/
inductive Record where
  | handled (code : InvitationCode)
  | taken (code : InvitationCode) (reply : Outcome)
  deriving DecidableEq

structure State where
  server : Server
  requests : List Request := []
  snapshot : FutureBuilder := {}
  log : List Record := []

/-- A build is a rebuild of the page or a press of Reload. -/
inductive Event where
  | build (code : InvitationCode)
  | handle (request : Nat)
  | reply (request : Nat) (outcome : Outcome)

/-- `Share.share('${snapshot.data}')`. -/
def State.shareText (state : State) : String := state.snapshot.data.getD "null"

def step (clubId : String) (shares : Int) (state : State) : Event → Option State
  | .build code => some
    { state with
      requests := state.requests ++ [{ code }]
      snapshot := state.snapshot.update state.requests.length }
  | .handle index =>
    match state.requests[index]? with
    | none => none
    | some request =>
      if request.handled then none
      else some
        { state with
          server := state.server.sendInvitationCode (createInvitationRequest clubId shares request.code)
          requests := state.requests.set index { request with handled := true }
          log := .handled request.code :: state.log }
  | .reply index outcome =>
    match state.requests[index]? with
    | none => none
    | some request =>
      if request.answered ∨ outcome = .success ∧ ¬ request.handled then none
      else some
        { state with
          requests := state.requests.set index { request with answered := true }
          snapshot := state.snapshot.complete index (createInvitationCode request.code outcome)
          log := if state.snapshot.future = some index then .taken request.code outcome :: state.log else state.log }

end Clubzey.Systems.Invitation
