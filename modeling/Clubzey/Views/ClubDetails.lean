import Clubzey.Models.Club
import Clubzey.Models.ClubzeyUser
import Clubzey.Models.UserPayment

/-! ClubDetails: what the page, its countdown, the avatars of the members and the cards
of the payments read, and from which document. A missing document is replaced by an
empty map. -/

namespace Clubzey.Views
open Dart Models Foundation

structure Database where
  clubs : Collection Fields
  /-- `clubs/<id>/payment/payment`. -/
  payments : Collection Fields
  userData : Collection Fields

inductive Source where
  | club
  | payment (id : String)
  | user (email : String)
  deriving DecidableEq

inductive Shown where
  | text (text : String)
  | username (username : String)
  | time (time : DateTime)
  | amount (amount : Double)
  | members (members : List Value)
  | payments (payments : List PaymentDetails)

/-- What one getter answers on the way to a build. -/
structure Read where
  source : Source
  result : Except Thrown Shown

namespace Database

def getAClub (database : Database) (id : String) : Club := { data := (database.clubs.doc id).getD ∅ }

def getPayments (database : Database) (clubId : String) : UserPayment := ⟨(database.payments.doc clubId).getD ∅⟩

def getAUser (database : Database) (email : String) : ClubzeyUser := ⟨(database.userData.doc email).getD ∅⟩

def userReads (database : Database) (email : String) : List Read :=
  let username := (database.getAUser email).getUsername
  [⟨.user email, username.map .username⟩, ⟨.user email, (username.bind (substring · 1)).map .text⟩]

def avatar (database : Database) (member : Value) : List Read :=
  match member.asString with
  | .error thrown => [⟨.club, .error thrown⟩]
  | .ok email => ⟨.club, .ok (.text email)⟩ :: database.userReads email

def memberCard (database : Database) (clubId : String) (details : PaymentDetails) : List Read :=
  match details.getEmail with
  | .error thrown => [⟨.payment clubId, .error thrown⟩]
  | .ok email => ⟨.payment clubId, .ok (.text email)⟩ :: (database.userReads email ++
      [⟨.payment clubId, details.getPaid.map .amount⟩, ⟨.payment clubId, details.getTotalStock.map .amount⟩])

def paymentReads (database : Database) (clubId : String) : List Read :=
  let payments := (database.getPayments clubId).getPayments
  ⟨.payment clubId, payments.map .payments⟩ :: (payments.toOption.getD []).flatMap (database.memberCard clubId)

/-- The countdown reads the draw date. Without an id there is no query for payments. -/
def clubDetails (database : Database) (clubId : String) : List Read :=
  let club := database.getAClub clubId
  [⟨.club, club.getName.map .text⟩, ⟨.club, club.getMembers.map .members⟩, ⟨.club, club.getDrawDate.map .time⟩,
      ⟨.club, club.getId.map .text⟩] ++
    (club.getMembers.toOption.getD []).flatMap database.avatar ++
    match club.getId with
    | .error _ => []
    | .ok id => database.paymentReads id

def Absent (database : Database) (clubId : String) : Source → Prop
  | .club => database.clubs.doc clubId = none
  | .payment id => database.payments.doc id = none
  | .user email => database.userData.doc email = none

end Database
end Clubzey.Views
