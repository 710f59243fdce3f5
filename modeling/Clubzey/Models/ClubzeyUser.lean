import Clubzey.Dart.Text
import Clubzey.Dart.Value

/-! ClubzeyUser, a wrapper around the fields of a userData document. -/

namespace Clubzey.Models
open Dart

structure ClubzeyUser where
  data : Fields

namespace ClubzeyUser

def getEmail (user : ClubzeyUser) : Except Thrown String := (user.data.at "email").asString

def getUsername (user : ClubzeyUser) : Except Thrown String :=
  match user.data.at "username" with
  | .null => do substring (← user.getEmail) 5
  | username => username.asString

theorem getUsername_empty : (ClubzeyUser.mk ∅).getUsername = .error .typeError := by
  simp [getUsername, getEmail, Fields.at, Value.asString, bind, Except.bind]

end ClubzeyUser
end Clubzey.Models
