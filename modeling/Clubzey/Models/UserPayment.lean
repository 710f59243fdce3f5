import Clubzey.Dart.Value

/-! UserPayment and PaymentDetails, wrappers around the payment document of a club and
the entries of its list. -/

namespace Clubzey.Models
open Dart Foundation

structure PaymentDetails where
  data : Fields

namespace PaymentDetails

def getEmail (details : PaymentDetails) : Except Thrown String := (details.data.at "email").asString

def getPaid (details : PaymentDetails) : Except Thrown Double := (details.data.at "paid").toDouble

def getTotalStock (details : PaymentDetails) : Except Thrown Double := (details.data.at "totalStock").toDouble

end PaymentDetails

structure UserPayment where
  data : Fields

namespace UserPayment

def paymentDetails : Value → Except Thrown PaymentDetails
  | .map entries => .ok ⟨Collection.setAll ∅ entries⟩
  | _ => .error .typeError

/-- The empty list stands behind a call on the value, which comes too late for null. -/
def getPayments (payment : UserPayment) : Except Thrown (List PaymentDetails) :=
  match payment.data.at "payments" with
  | .list items => items.mapM paymentDetails
  | _ => .error .noSuchMethod

theorem getPayments_empty : (UserPayment.mk ∅).getPayments = .error .noSuchMethod := by
  simp [getPayments, Fields.at]

end UserPayment
end Clubzey.Models
