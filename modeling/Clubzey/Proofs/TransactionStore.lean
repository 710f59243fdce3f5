import Clubzey.Backend.TransactionData

/-! The transactions that a query delivers are the ones created, although instants and
numbers come back in another representation. -/

namespace Clubzey.Proofs.TransactionStore
open Dart Models Backend Foundation

def wanted (clubId email : String) (transaction : ClubTransaction) : Bool :=
  decide (transaction.getClubId = .ok clubId) && decide (transaction.getPayor = .ok email)

def entry (transaction : ClubTransaction) : String × Fields :=
  (transaction.getId.toOption.getD "", transaction.toMap.toOption.getD ∅)

end Clubzey.Proofs.TransactionStore
