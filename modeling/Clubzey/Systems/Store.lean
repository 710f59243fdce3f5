import Clubzey.Backend.ClubData
import Clubzey.Backend.TransactionData
import Clubzey.Foundation.Keyed
import Clubzey.Foundation.LastWrites

/-! The shared documents under the remote calls of all clients. A run is any list of
calls, so it contains every interleaving of the handlers that make them. -/

namespace Clubzey.Systems.Store
open Dart Models Backend Foundation

structure State where
  server : Server := {}
  transactions : Collection Fields := ∅

/-- What a client asks for. A user who is not signed in asks for nothing. -/
inductive Call where
  | setClub (club : Club)
  | addMember (currentUser : Option String) (clubId : String) (shares : Int)
  | addMemberFromQR (currentUser : Option String) (encryptedId : EncryptedId)
  | sendInvitationCode (club : Club) (shares : Int) (code : InvitationCode)
  | deleteInvitation (id : String)
  | createTransaction (transaction : ClubTransaction)

/-- A call that fails has no effect, and neither has one whose body throws. -/
def step (state : State) : Call × Outcome → State
  | (.setClub club, outcome) =>
    let (data, club) := club.getData
    match club.getId with
    | .error _ => state
    | .ok id => { state with server := (state.server.setClub id data outcome).2 }
  | (.addMember currentUser clubId shares, outcome) =>
    { state with server := (addMember state.server currentUser clubId shares outcome).2 }
  | (.addMemberFromQR currentUser encryptedId, outcome) =>
    { state with server := (addMemberFromQR state.server currentUser encryptedId outcome).2 }
  | (.sendInvitationCode club shares code, outcome) =>
    match club.getId, outcome with
    | .ok id, .success =>
      { state with server := state.server.sendInvitationCode (createInvitationRequest id shares code) }
    | _, _ => state
  | (.deleteInvitation id, outcome) => { state with server := (state.server.deleteInvitation id outcome).2 }
  | (.createTransaction transaction, outcome) =>
    match Models.createTransaction state.transactions transaction, outcome with
    | .ok transactions, .success => { state with transactions }
    | _, _ => state

def run (state : State) (calls : List (Call × Outcome)) : State := calls.foldl step state

theorem run_append (state : State) (first rest : List (Call × Outcome)) :
    run state (first ++ rest) = run (run state first) rest := List.foldl_append

/-! What the calls write. -/

/-- The club document that a call stores, after its id. -/
def clubWrite : Call × Outcome → Option (String × Fields)
  | (.setClub club, .success) => club._id.map fun id => (id, club.getData.1)
  | _ => none

/-- The transaction that a call stores, after its id. -/
def transactionWrite : Call × Outcome → Option (String × ClubTransaction)
  | (.createTransaction transaction, .success) =>
    match transaction.getId, transaction.toMap with
    | .ok id, .ok _ => some (id, transaction)
    | _, _ => none
  | _ => none

/-- The membership that a call registers. -/
def membership : Call × Outcome → Option Membership
  | (.addMember (some email) clubId shares, .success) => some ⟨clubId, shares, email⟩
  | (.addMemberFromQR (some email) encryptedId, .success) =>
    match encryptedId.getId, encryptedId.getShares with
    | .ok clubId, .ok shares => some ⟨clubId, shares, email⟩
    | _, _ => none
  | _ => none

theorem addMemberFromQR_documents (server : Server) (currentUser : Option String) (encryptedId : EncryptedId)
    (post : Outcome) :
    (addMemberFromQR server currentUser encryptedId post).2.invitationRoom = server.invitationRoom ∧
      (addMemberFromQR server currentUser encryptedId post).2.clubs = server.clubs := by
  unfold addMemberFromQR
  cases currentUser with
  | none => exact ⟨rfl, rfl⟩
  | some email =>
    cases encryptedId.getId with
    | error => exact ⟨rfl, rfl⟩
    | ok id =>
      cases encryptedId.getShares with
      | error => exact ⟨rfl, rfl⟩
      | ok shares => cases post <;> exact ⟨rfl, rfl⟩

theorem step_members (state : State) (call : Call × Outcome) :
    (step state call).server.members =
      (membership call).elim state.server.members fun member => member :: state.server.members := by
  obtain ⟨call, outcome⟩ := call
  cases call with
  | setClub club =>
    simp only [step]
    cases club.getData.2.getId with
    | error => rfl
    | ok id => cases outcome <;> rfl
  | addMember currentUser clubId shares => cases currentUser <;> cases outcome <;> rfl
  | addMemberFromQR currentUser encryptedId =>
    cases currentUser with
    | none => rfl
    | some email =>
      simp only [step, addMemberFromQR]
      cases named : encryptedId.getId with
      | error => cases outcome <;> simp [membership, named]
      | ok id =>
        cases counted : encryptedId.getShares <;> cases outcome <;>
          simp [membership, named, counted, Server.postAddMember]
  | sendInvitationCode club shares code =>
    simp only [step]
    split <;> rfl
  | deleteInvitation id => cases outcome <;> rfl
  | createTransaction transaction =>
    simp only [step]
    split <;> rfl

theorem run_members (state : State) (calls : List (Call × Outcome)) :
    (run state calls).server.members = (calls.filterMap membership).reverse ++ state.server.members := by
  rw [← List.foldl_flip_cons_eq_append']
  exact foldl_writes (fun state => state.server.members) (fun members member => member :: members) step_members state calls

/-! What every call keeps. -/

def nameOf (document : Fields) : Option String := (document.at "id").asString.toOption

/-- Every document carries the id it is stored under, and an invitation that of its club
as well. -/
structure Sound (state : State) : Prop where
  clubs : Collection.Keyed nameOf state.server.clubs
  invitations : Collection.Keyed (some ∘ Invitation.id) state.server.invitationRoom
  clubIds : Collection.Keyed (some ∘ Invitation.clubId) state.server.invitationRoom
  transactions : Collection.Keyed nameOf state.transactions

theorem sound_initial : Sound {} := ⟨Collection.keyed_empty, Collection.keyed_empty, Collection.keyed_empty, Collection.keyed_empty⟩

theorem addMember_room (server : Server) (currentUser : Option String) (clubId : String) (shares : Int)
    (post : Outcome) : (addMember server currentUser clubId shares post).2.invitationRoom = server.invitationRoom := by
  cases currentUser with
  | none => rfl
  | some email => cases post <;> rfl

theorem createTransaction_set {transactions after : Collection Fields} {transaction : ClubTransaction}
    (created : Models.createTransaction transactions transaction = .ok after) :
    ∃ id document, after = transactions.set id document ∧ nameOf document = some id := by
  unfold Models.createTransaction at created
  obtain ⟨id, named, created⟩ := bind_ok created
  obtain ⟨document, mapped, created⟩ := bind_ok created
  cases created
  obtain ⟨_, _, _, _, _, _, written⟩ := ClubTransaction.toMap_written mapped
  have same := named.symm.trans written.readId
  cases same
  refine ⟨id, document, rfl, ?_⟩
  rw [nameOf, written.atId]
  rfl

theorem sound_step {state : State} (sound : Sound state) (call : Call × Outcome) : Sound (step state call) := by
  obtain ⟨call, outcome⟩ := call
  cases call with
  | setClub club =>
    have found := club.getId_getData
    simp only [step]
    cases named : club._id with
    | none =>
      rw [named, Option.elim_none] at found
      rw [found]
      exact sound
    | some id =>
      rw [named, Option.elim_some] at found
      rw [found]
      cases outcome with
      | failure => exact sound
      | success =>
        refine ⟨sound.clubs.set ?_, sound.invitations, sound.clubIds, sound.transactions⟩
        rw [nameOf, Club.getData, Fields.at_set, if_pos rfl, named]
        rfl
  | addMember currentUser clubId shares =>
    have clubs := addMember_clubs state.server currentUser clubId shares outcome
    have room := addMember_room state.server currentUser clubId shares outcome
    exact ⟨clubs.symm ▸ sound.clubs, room.symm ▸ sound.invitations, room.symm ▸ sound.clubIds, sound.transactions⟩
  | addMemberFromQR currentUser encryptedId =>
    obtain ⟨room, clubs⟩ := addMemberFromQR_documents state.server currentUser encryptedId outcome
    exact ⟨clubs.symm ▸ sound.clubs, room.symm ▸ sound.invitations, room.symm ▸ sound.clubIds, sound.transactions⟩
  | sendInvitationCode club shares code =>
    simp only [step]
    split
    · exact ⟨sound.clubs, sound.invitations.set rfl, sound.clubIds.set rfl, sound.transactions⟩
    · exact sound
  | deleteInvitation id =>
    cases outcome with
    | failure => exact sound
    | success => exact ⟨sound.clubs, sound.invitations.delete id, sound.clubIds.delete id, sound.transactions⟩
  | createTransaction transaction =>
    simp only [step]
    split
    next transactions created =>
      obtain ⟨id, document, same, named⟩ := createTransaction_set created
      refine ⟨sound.clubs, sound.invitations, sound.clubIds, ?_⟩
      rw [same]
      exact sound.transactions.set named
    · exact sound

theorem sound_run {state : State} (sound : Sound state) (calls : List (Call × Outcome)) : Sound (run state calls) := by
  induction calls generalizing state with
  | nil => exact sound
  | cons call calls ih => exact ih (sound_step sound call)

end Clubzey.Systems.Store
