import Clubzey.Dart.Value

/-! ClubTransaction, a wrapper around the fields of a payment, and the shared
collection it is written to. -/

namespace Clubzey.Models
open Dart Foundation

structure ClubTransaction where
  data : Fields

namespace ClubTransaction

def getId (transaction : ClubTransaction) : Except Thrown String := (transaction.data.at "id").asString

def getClubId (transaction : ClubTransaction) : Except Thrown String := (transaction.data.at "clubId").asString

def getAmount (transaction : ClubTransaction) : Except Thrown Double :=
  ((transaction.data.at "amount").orElse (.int 0)).toDouble

def getPayor (transaction : ClubTransaction) : Except Thrown String := (transaction.data.at "payor").asString

/-- An instant that is not a `DateTime` yet is one the database returned. -/
def createAt (transaction : ClubTransaction) : Except Thrown DateTime :=
  match (transaction.data.at "createdAt").asDateTime with
  | .ok time => .ok time
  | .error _ => (transaction.data.at "createdAt").toDate

def getCycle (transaction : ClubTransaction) : Except Thrown Int := (transaction.data.at "cycle").asInt

def toMap (transaction : ClubTransaction) : Except Thrown Fields := do
  let id ← transaction.getId
  let clubId ← transaction.getClubId
  let amount ← transaction.getAmount
  let createdAt ← transaction.createAt
  let payor ← transaction.getPayor
  let cycle ← transaction.getCycle
  return Collection.setAll ∅
    [("id", .string id), ("clubId", .string clubId), ("amount", .double amount), ("createdAt", .dateTime createdAt),
      ("payor", .string payor), ("cycle", .int cycle)]

/-- The fields that `toMap` has read, and where it has put them. -/
structure Written (transaction : ClubTransaction) (document : Fields) (id clubId : String) (amount : Double)
    (createdAt : DateTime) (payor : String) (cycle : Int) : Prop where
  readId : transaction.getId = .ok id
  readClubId : transaction.getClubId = .ok clubId
  readAmount : transaction.getAmount = .ok amount
  readCreatedAt : transaction.createAt = .ok createdAt
  readPayor : transaction.getPayor = .ok payor
  readCycle : transaction.getCycle = .ok cycle
  atId : document.at "id" = .string id
  atClubId : document.at "clubId" = .string clubId
  atAmount : document.at "amount" = .double amount
  atCreatedAt : document.at "createdAt" = .dateTime createdAt
  atPayor : document.at "payor" = .string payor
  atCycle : document.at "cycle" = .int cycle

theorem toMap_written {transaction : ClubTransaction} {document : Fields} (mapped : transaction.toMap = .ok document) :
    ∃ id clubId amount createdAt payor cycle,
      transaction.Written document id clubId amount createdAt payor cycle := by
  unfold toMap at mapped
  obtain ⟨id, idIs, mapped⟩ := bind_ok mapped
  obtain ⟨clubId, clubIdIs, mapped⟩ := bind_ok mapped
  obtain ⟨amount, amountIs, mapped⟩ := bind_ok mapped
  obtain ⟨createdAt, createdAtIs, mapped⟩ := bind_ok mapped
  obtain ⟨payor, payorIs, mapped⟩ := bind_ok mapped
  obtain ⟨cycle, cycleIs, mapped⟩ := bind_ok mapped
  cases mapped
  refine ⟨id, clubId, amount, createdAt, payor, cycle, idIs, clubIdIs, amountIs, createdAtIs, payorIs, cycleIs,
    ?_, ?_, ?_, ?_, ?_, ?_⟩ <;> simp [Fields.at_set]

end ClubTransaction

/-- `collection("transactions").doc(getId).set(toMap)`. -/
def createTransaction (transactions : Collection Fields) (transaction : ClubTransaction) :
    Except Thrown (Collection Fields) := do
  let id ← transaction.getId
  let document ← transaction.toMap
  return transactions.set id document

end Clubzey.Models
