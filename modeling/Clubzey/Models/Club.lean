import Clubzey.Dart.Value

/-! Club, a wrapper around the fields of a club document. -/

namespace Clubzey.Models
open Dart

structure Club where
  data : Fields
  _id : Option String := none

namespace Club

/-- `getData` writes the id it was given, null when it was given none, into the
wrapped map before it returns the map. -/
def getData (club : Club) : Fields × Club :=
  let data := club.data.set "id" (club._id.elim .null .string)
  (data, { club with data })

def getId (club : Club) : Except Thrown String :=
  match club._id with
  | some id => .ok id
  | none => (club.data.at "id").asString

def getCreatedBy (club : Club) : Except Thrown String := (club.data.at "createdBy").asString

def getCreatedAt (club : Club) : Except Thrown DateTime := (club.data.at "createdAt").toDate

def getName (club : Club) : Except Thrown String := ((club.data.at "name").orElse (.string "")).asString

/-- The literal zero stands where a double is expected, so it is one. -/
def getPerAmount (club : Club) : Except Thrown Double :=
  ((club.data.at "perAmount").orElse (.double (.finite 0))).asDouble

def getDrawDate (club : Club) : Except Thrown DateTime :=
  match (club.data.at "drawDate").toDate with
  | .ok time => .ok time
  | .error _ => (club.data.at "drawDate").asDateTime

/-- The cast to a list of strings is made item by item, when an item is read. -/
def getMembers (club : Club) : Except Thrown (List Value) :=
  match (club.data.at "members").orElse (.list []) with
  | .list items => .ok items
  | _ => .error .noSuchMethod

def setId (club : Club) (id : String) : Club := { club with _id := some id }

theorem getId_getData (club : Club) : club.getData.2.getId = club._id.elim (.error .typeError) .ok := by
  cases set : club._id with
  | none => simp [getData, getId, set, Fields.at_set, Value.asString]
  | some id => simp [getData, getId, set]

inductive Getter where
  | getData
  | getId
  | getCreatedBy
  | getCreatedAt
  | getName
  | getPerAmount
  | getDrawDate
  | getMembers
  deriving DecidableEq

inductive Answer where
  | fields (fields : Fields)
  | text (text : String)
  | amount (amount : Double)
  | time (time : DateTime)
  | items (items : List Value)

/-- A call of a getter: what it answers and the club it leaves. -/
def call (club : Club) : Getter → Except Thrown Answer × Club
  | .getData => (.ok (.fields club.getData.1), club.getData.2)
  | .getId => (club.getId.map .text, club)
  | .getCreatedBy => (club.getCreatedBy.map .text, club)
  | .getCreatedAt => (club.getCreatedAt.map .time, club)
  | .getName => (club.getName.map .text, club)
  | .getPerAmount => (club.getPerAmount.map .amount, club)
  | .getDrawDate => (club.getDrawDate.map .time, club)
  | .getMembers => (club.getMembers.map .items, club)

def calls (club : Club) (getters : List Getter) : Club := getters.foldl (fun club getter => (club.call getter).2) club

def answers : Club → List Getter → List (Getter × Except Thrown Answer)
  | _, [] => []
  | club, getter :: getters => (getter, (club.call getter).1) :: answers (club.call getter).2 getters

theorem call_unchanged (club : Club) {getter : Getter} (plain : getter ≠ .getData) : (club.call getter).2 = club := by
  cases getter <;> first | rfl | exact absurd rfl plain

theorem answers_plain (club : Club) {getters : List Getter} (plain : .getData ∉ getters) :
    club.answers getters = getters.map fun getter => (getter, (club.call getter).1) := by
  induction getters with
  | nil => rfl
  | cons getter getters ih =>
    obtain ⟨different, rest⟩ := List.ne_and_not_mem_of_not_mem_cons plain
    rw [answers, call_unchanged club (Ne.symm different), ih rest, List.map_cons]

theorem answers_called {club : Club} {getters : List Getter} {getter : Getter} (called : getter ∈ getters) :
    ∃ earlier, (getter, ((club.calls earlier).call getter).1) ∈ club.answers getters := by
  induction getters generalizing club with
  | nil => cases called
  | cons first getters ih =>
    rcases List.mem_cons.mp called with rfl | later
    · exact ⟨[], List.mem_cons_self⟩
    · obtain ⟨earlier, member⟩ := @ih (club.call first).2 later
      exact ⟨first :: earlier, List.mem_cons_of_mem _ member⟩

theorem calls_keep (club : Club) (getters : List Getter) :
    (club.calls getters)._id = club._id ∧
      ∀ key, key ≠ "id" → (club.calls getters).data.at key = club.data.at key := by
  induction getters generalizing club with
  | nil => exact ⟨rfl, fun _ _ => rfl⟩
  | cons getter getters ih =>
    obtain ⟨set, fields⟩ := ih (club.call getter).2
    by_cases plain : getter = .getData
    · subst plain
      refine ⟨set, ?_⟩
      intro key other
      have unwritten : (club.call .getData).2.data.at key = club.data.at key := by
        rw [call, getData, Fields.at_set, if_neg (Ne.symm other)]
      rw [← unwritten]
      exact fields key other
    · rw [call_unchanged club plain] at set fields
      rw [calls, List.foldl_cons, call_unchanged club plain]
      exact ⟨set, fields⟩

end Club
end Clubzey.Models
