import Clubzey.Backend.Server

/-! ClubData: club documents as the clients read them. -/

namespace Clubzey.Backend
open Dart Models Foundation

/-- A snapshot without a document becomes a club without fields. -/
def getAClub (server : Server) (id : String) : Club where
  data := ((server.clubs.doc id).map Fields.delivered).getD ∅

def arrayContains (value : Value) (email : String) : Bool :=
  match value with
  | .list items => items.any (·.isEqualTo email)
  | _ => false

def getAllClubs (server : Server) (admin : String) : List Club :=
  (server.clubs.docsWhere fun document => arrayContains (document.at "members") admin).map fun document =>
    { data := document.delivered }

end Clubzey.Backend
