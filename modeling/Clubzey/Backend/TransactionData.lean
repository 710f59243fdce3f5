import Clubzey.Models.Transactions

/-! TransactionData: the calls that write transactions, and the query for the payments
of one payor to one club. -/

namespace Clubzey.Backend
open Dart Models Foundation

/-- `where("clubId", isEqualTo: clubId).where("payor", isEqualTo: email)`. -/
def paidBy (clubId email : String) (document : Fields) : Bool :=
  (document.at "clubId").isEqualTo clubId && (document.at "payor").isEqualTo email

/-- What `get` may deliver: each document found, as it is read back. -/
def Delivers (transactions : Collection Fields) (clubId email : String) (delivered : List ClubTransaction) : Prop :=
  List.Forall₂ (fun document transaction => Fields.ReadBack document transaction.data)
    (transactions.docsWhere (paidBy clubId email)) delivered

end Clubzey.Backend
