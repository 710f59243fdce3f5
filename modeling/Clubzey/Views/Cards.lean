import Clubzey.Dart.DoubleArithmetic
import Clubzey.Models.Club
import Clubzey.Models.UserPayment

/-! The amounts on ClubItemCard and MemberCard. -/

namespace Clubzey.Views
open Dart Models

/-- `getPerAmount * getMembers.length`; the members are counted without being read. -/
def ClubItemCard.prizeMoney (club : Club) : Except Thrown Double := do
  let perAmount ← club.getPerAmount
  let members ← club.getMembers
  return perAmount.mul (.ofInt members.length)

/-- `getTotalStock - getPaid`. -/
def MemberCard.due (paymentDetails : PaymentDetails) : Except Thrown Double := do
  let totalStock ← paymentDetails.getTotalStock
  let paid ← paymentDetails.getPaid
  return totalStock.sub paid

end Clubzey.Views
