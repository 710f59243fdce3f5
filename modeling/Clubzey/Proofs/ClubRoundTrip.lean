import Clubzey.Backend.ClubData
import Clubzey.Views.CreateClub

/-! A club as the form builds it against the club decoded from its document, getter by
getter and over any sequence of calls. -/

namespace Clubzey.Proofs.ClubRoundTrip
open Dart Models Backend Views Foundation

section
variable (clubName : String) (perAmount : Double) (drawDate : DateTime) (admin : String) (createdAt : DateTime)
  (id : String)

structure Holds (instant : DateTime → Value) (data : Fields) : Prop where
  name : data.at "name" = .string clubName
  perAmount : data.at "perAmount" = .double perAmount
  drawDate : data.at "drawDate" = instant drawDate
  members : data.at "members" = .list [.string admin]
  createdAt : data.at "createdAt" = instant createdAt
  createdBy : data.at "createdBy" = .string admin

theorem newClub_holds : Holds clubName perAmount drawDate admin createdAt .dateTime
    (newClub clubName perAmount (some drawDate) admin createdAt id).data := by
  constructor <;> simp [newClub, Club.setId, Fields.at_set]

variable {clubName perAmount drawDate admin createdAt id}

theorem Holds.congr {instant : DateTime → Value} {data other : Fields}
    (holds : Holds clubName perAmount drawDate admin createdAt instant data)
    (same : ∀ key, key ≠ "id" → other.at key = data.at key) :
    Holds clubName perAmount drawDate admin createdAt instant other := by
  refine ⟨?_, ?_, ?_, ?_, ?_, ?_⟩
  · rw [same "name" (by decide), holds.name]
  · rw [same "perAmount" (by decide), holds.perAmount]
  · rw [same "drawDate" (by decide), holds.drawDate]
  · rw [same "members" (by decide), holds.members]
  · rw [same "createdAt" (by decide), holds.createdAt]
  · rw [same "createdBy" (by decide), holds.createdBy]

theorem Holds.delivered {data : Fields}
    (holds : Holds clubName perAmount drawDate admin createdAt .dateTime data) :
    Holds clubName perAmount drawDate admin createdAt .timestamp data.delivered := by
  refine ⟨?_, ?_, ?_, ?_, ?_, ?_⟩
  · rw [Fields.at_delivered, holds.name]
    rfl
  · rw [Fields.at_delivered, holds.perAmount]
    rfl
  · rw [Fields.at_delivered, holds.drawDate]
    rfl
  · rw [Fields.at_delivered, holds.members]
    rfl
  · rw [Fields.at_delivered, holds.createdAt]
    rfl
  · rw [Fields.at_delivered, holds.createdBy]
    rfl

/-- Both representations give the same answers, except for the instant of creation,
which only a timestamp has. -/
theorem call_same_iff {club decoded : Club} (named : club.getId = .ok id) (found : decoded.getId = .ok id)
    (holds : Holds clubName perAmount drawDate admin createdAt .dateTime club.data)
    (read : Holds clubName perAmount drawDate admin createdAt .timestamp decoded.data)
    {getter : Club.Getter} (plain : getter ≠ .getData) :
    (club.call getter).1 = (decoded.call getter).1 ↔ getter ≠ .getCreatedAt := by
  cases getter with
  | getData => exact absurd rfl plain
  | getId => simp [Club.call, named, found]
  | getCreatedBy => simp [Club.call, Club.getCreatedBy, holds.createdBy, read.createdBy]
  | getCreatedAt => simp [Club.call, Club.getCreatedAt, holds.createdAt, read.createdAt, Value.toDate, Except.map]
  | getName => simp [Club.call, Club.getName, holds.name, read.name]
  | getPerAmount => simp [Club.call, Club.getPerAmount, holds.perAmount, read.perAmount]
  | getDrawDate => simp [Club.call, Club.getDrawDate, holds.drawDate, read.drawDate, Value.toDate, Value.asDateTime]
  | getMembers => simp [Club.call, Club.getMembers, holds.members, read.members]

end

/-- Every call of `getId` answers with the id and every call of `getData` with the document. -/
def Faithful (id : String) (document : Fields) (club : Club) (getters : List Club.Getter) : Prop :=
  ∀ answer ∈ club.answers getters, (answer.1 = .getId → answer.2 = .ok (.text id)) ∧
    (answer.1 = .getData → answer.2 = .ok (.fields document))

theorem faithful_iff {document : Fields} {id : String} (written : document.at "id" = .string id)
    (getters : List Club.Getter) : Faithful id document { data := document } getters ↔ .getData ∉ getters := by
  constructor
  · intro faithful called
    obtain ⟨earlier, answered⟩ := @Club.answers_called { data := document } getters .getData called
    have same := (faithful _ answered).2 rfl
    have kept := (Club.calls_keep { data := document } earlier).1
    have null : (Club.calls { data := document } earlier).getData.1.at "id" = .null := by
      rw [Club.getData, kept]
      exact Fields.at_set _ _ _ _
    simp only [Club.call, Except.ok.injEq, Club.Answer.fields.injEq] at same
    rw [same, written] at null
    cases null
  · intro plain answer member
    rw [Club.answers_plain _ plain] at member
    obtain ⟨getter, called, rfl⟩ := List.mem_map.mp member
    refine ⟨?_, ?_⟩
    · intro same
      dsimp only at same
      subst same
      simp [Club.call, Club.getId, written, Value.asString, Except.map]
    · intro same
      dsimp only at same
      subst same
      exact absurd called plain

/-- A club of the form is in the answers of both queries once it is written. Between the
object and the decoded one every getter but `getCreatedAt` agrees, whatever has been
called on the object, and calls on the decoded one are faithful as long as `getData` is
not among them. -/
theorem club_round_trip_iff (server : Server) (currentUser : Option String) (shares : Int) (post : Outcome)
    (clubName : String) (perAmount : Double) (drawDate : DateTime) (admin : String) (createdAt : DateTime)
    (id : String) :
    let club := newClub clubName perAmount (some drawDate) admin createdAt id
    let after := (createClub server currentUser club shares .success post).2
    let decoded := getAClub after id
    decoded ∈ getAllClubs after admin ∧
      (∀ getters getter, getter ≠ .getData →
        (((club.calls getters).call getter).1 = (decoded.call getter).1 ↔ getter ≠ .getCreatedAt)) ∧
      ∀ getters, Faithful id decoded.data decoded getters ↔ .getData ∉ getters := by
  intro club after decoded
  have clubs : after.clubs = server.clubs.set id club.getData.1 := by
    have named : club._id = some id := rfl
    exact createClub_clubs named server currentUser shares post
  have stored : after.clubs.doc id = some club.getData.1 := by rw [clubs, Collection.doc_set_same]
  -- The id is in the document and not set on what is decoded from it.
  have decodedIs : decoded = { data := club.getData.1.delivered } := by
    simp only [decoded, getAClub, stored, Option.map_some, Option.getD_some]
  have holds : Holds clubName perAmount drawDate admin createdAt .dateTime club.data :=
    newClub_holds clubName perAmount drawDate admin createdAt id
  have documented : Holds clubName perAmount drawDate admin createdAt .dateTime club.getData.1 := by
    apply holds.congr
    intro key other
    rw [Club.getData, Fields.at_set, if_neg (Ne.symm other)]
  have written : decoded.data.at "id" = .string id := by
    rw [decodedIs]
    dsimp only
    rw [Fields.at_delivered, Club.getData, Fields.at_set, if_pos rfl]
    rfl
  refine ⟨?_, ?_, ?_⟩
  · rw [decodedIs]
    apply List.mem_map.mpr
    refine ⟨club.getData.1, Collection.mem_docsWhere.mpr ⟨id, stored, ?_⟩, rfl⟩
    rw [documented.members]
    simp [arrayContains, Value.isEqualTo]
  · intro getters getter plain
    obtain ⟨set, fields⟩ := club.calls_keep getters
    have named : (club.calls getters).getId = .ok id := by
      rw [Club.getId, set]
      rfl
    have found : decoded.getId = .ok id := by
      have unset : decoded._id = none := by rw [decodedIs]
      rw [Club.getId, unset]
      dsimp only
      rw [written]
      rfl
    have read : Holds clubName perAmount drawDate admin createdAt .timestamp decoded.data := by
      rw [decodedIs]
      exact documented.delivered
    exact call_same_iff named found (holds.congr fields) read plain
  · intro getters
    have unset : decoded = { data := decoded.data } := by rw [decodedIs]
    rw [unset]
    exact faithful_iff written getters

def luckyClub : Club :=
  newClub "Lucky" (.finite 100) (some ⟨1648814400000000, DateTime.april_inRange⟩) "ann@b.c" ⟨1646136000000000, DateTime.march_inRange⟩ "c1"

def luckyDecoded : Club := getAClub (createClub {} (some "ann@b.c") luckyClub 2 .success .success).2 "c1"

/-- The object built by the form throws where the decoded one answers, and the decoded
one loses its id with the first call of `getData`. -/
theorem lucky_club_differs :
    (luckyClub.call .getCreatedAt).1 ≠ (luckyDecoded.call .getCreatedAt).1 ∧
      ¬ Faithful "c1" luckyDecoded.data luckyDecoded [.getData, .getId] := by
  refine ⟨?_, ?_⟩
  · intro same
    have throws : (luckyClub.call .getCreatedAt).1 = .error .noSuchMethod := rfl
    rw [throws] at same
    cases same
  · intro faithful
    have asked : (.getId, .error .typeError) ∈ luckyDecoded.answers [.getData, .getId] :=
      List.mem_cons_of_mem _ List.mem_cons_self
    cases (faithful _ asked).1 rfl

end Clubzey.Proofs.ClubRoundTrip
