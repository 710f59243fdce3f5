import Clubzey.Dart.DoubleText
import Clubzey.Dart.Uuid
import Clubzey.Models.Transactions

/-! PaymentDetailsPage: what confirming a payment with Done writes. -/

namespace Clubzey.Views
open Dart Models Foundation

/-- A payment that passed the form, with the identifier drawn for it and the two
readings of the clock. -/
structure Payment where
  clubId : String
  amount : Double
  payor : String
  uuid : Uuid
  stampedAt : DateTime
  createdAt : DateTime

namespace Payment

/-- `"${Uuid().v4().substring(0,5)}${DateTime.now().millisecond}"`. -/
def id (payment : Payment) : String :=
  String.ofList (payment.uuid.substring 5 ++ Nat.toDigits 10 payment.stampedAt.millisecond)

def clubTransaction (payment : Payment) : ClubTransaction where
  data := Collection.setAll ∅
    [("id", .string payment.id), ("clubId", .string payment.clubId), ("amount", .double payment.amount),
      ("createdAt", .dateTime payment.createdAt), ("payor", .string payment.payor), ("cycle", .int 1)]

end Payment

def onDone (transactions : Collection Fields) (payment : Payment) : Except Thrown (Collection Fields) :=
  createTransaction transactions payment.clubTransaction

/-- Done, on a sheet with this text; the amount of the payment is `_amount` before. The
parse of the validator stands in no try block. -/
def pressDone (transactions : Collection Fields) (value : String) (payment : Payment) :
    Except Thrown (Option String × Collection Fields) := do
  if value.isEmpty then return (some "Please enter your amount", transactions)
  let amount ← parseDouble value
  let transactions ← onDone transactions { payment with amount }
  return (none, transactions)

def onDoneAll (payments : List Payment) : Except Thrown (Collection Fields) := payments.foldlM onDone ∅

theorem getId_payment (payment : Payment) : payment.clubTransaction.getId = .ok payment.id := by
  simp [ClubTransaction.getId, Payment.clubTransaction, Fields.at_set, Value.asString]

theorem toMap_payment (payment : Payment) : payment.clubTransaction.toMap = .ok payment.clubTransaction.data := by
  have clubId : payment.clubTransaction.getClubId = .ok payment.clubId := by
    simp [ClubTransaction.getClubId, Payment.clubTransaction, Fields.at_set, Value.asString]
  have amount : payment.clubTransaction.getAmount = .ok payment.amount := by
    simp [ClubTransaction.getAmount, Payment.clubTransaction, Fields.at_set, Value.orElse, Value.toDouble]
  have createdAt : payment.clubTransaction.createAt = .ok payment.createdAt := by
    simp [ClubTransaction.createAt, Payment.clubTransaction, Fields.at_set, Value.asDateTime]
  have payor : payment.clubTransaction.getPayor = .ok payment.payor := by
    simp [ClubTransaction.getPayor, Payment.clubTransaction, Fields.at_set, Value.asString]
  have cycle : payment.clubTransaction.getCycle = .ok 1 := by
    simp [ClubTransaction.getCycle, Payment.clubTransaction, Fields.at_set, Value.asInt]
  simp only [ClubTransaction.toMap, getId_payment, clubId, amount, createdAt, payor, cycle]
  rfl

theorem onDone_set (transactions : Collection Fields) (payment : Payment) :
    onDone transactions payment = .ok (transactions.set payment.id payment.clubTransaction.data) := by
  simp only [onDone, createTransaction, getId_payment, toMap_payment]
  rfl

def Payment.entry (payment : Payment) : String × Fields := (payment.id, payment.clubTransaction.data)

theorem onDoneAll_setAll (payments : List Payment) :
    onDoneAll payments = .ok (Collection.setAll ∅ (payments.map Payment.entry)) := by
  have every : ∀ transactions : Collection Fields,
      payments.foldlM onDone transactions = .ok (transactions.setAll (payments.map Payment.entry)) := by
    induction payments with
    | nil =>
      intro transactions
      rfl
    | cons payment payments ih =>
      intro transactions
      rw [List.foldlM_cons, onDone_set]
      exact ih _
  exact every ∅

end Clubzey.Views
