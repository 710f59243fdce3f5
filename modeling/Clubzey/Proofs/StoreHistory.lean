import Clubzey.Foundation.LastWrites
import Clubzey.Proofs.TransactionStore
import Clubzey.Systems.Store

/-! The shared documents answer every query from the last call for each id alone. -/

namespace Clubzey.Proofs.StoreHistory
open Dart Models Backend Foundation Systems.Store TransactionStore

/-- The clubs that the calls have left, each under its id. -/
def clubs (calls : List (Call × Outcome)) : List (String × Fields) := Collection.lastWrites (calls.filterMap clubWrite)

/-- The payments that the calls have left. -/
def payments (calls : List (Call × Outcome)) : List ClubTransaction :=
  (Collection.lastWrites (calls.filterMap transactionWrite)).map Prod.snd

def decoded (document : Fields) : Club := { data := document.delivered }

end Clubzey.Proofs.StoreHistory
