import Clubzey.Dart.Core
import Clubzey.Dart.Uuid

/-! Invitation codes, the request that registers one and the document that
/sendInvitationCode stores for it. -/

namespace Clubzey.Models
open Dart

/-- The text shared with a new member: eight characters of a fresh identifier. -/
structure InvitationCode where
  text : String
  length : text.toList.length = 8
  deriving DecidableEq

theorem InvitationCode.first_length : "0123ABCD".toList.length = 8 := by decide

theorem InvitationCode.second_length : "4567ABCD".toList.length = 8 := by decide

theorem InvitationCode.ext_text {first second : InvitationCode} (same : first.text = second.text) :
    first = second := by
  cases first
  cases second
  congr

/-- `Uuid().v4().substring(0,8).toUpperCase()`. -/
def InvitationCode.draw (uuid : Uuid) : InvitationCode where
  text := String.ofList ((uuid.substring 8).map Char.toUpper)
  length := by simp [uuid.length_substring]

structure InvitationRequest where
  id : String
  invitationCode : String
  clubId : String
  shares : String
  deriving DecidableEq, Repr

/-- A document of invitationRoom. `serial` is the database's record of which
accepted request wrote it; no client reads it. -/
structure Invitation where
  id : String
  invitationCode : String
  clubId : String
  shares : Int
  serial : Nat
  deriving DecidableEq, Repr

/-- The body that createInvitationCode posts: the club id is also the id under
which the server stores the document. -/
def createInvitationRequest (clubId : String) (shares : Int) (code : InvitationCode) : InvitationRequest where
  id := clubId
  invitationCode := code.text
  clubId := clubId
  shares := intText shares

end Clubzey.Models
