import Clubzey.Proofs.ClubRoundTrip
import Clubzey.Proofs.TopicSync
import Clubzey.Systems.Store
import Clubzey.Views.CreateClub

/-! What the clients can rely on when they read the shared documents, after any calls of
any clients. -/

namespace Clubzey.Proofs.StoreSafety
open Dart Models Backend Views Foundation Systems.Store

theorem nameOf_some {document : Fields} {id : String} : nameOf document = some id ↔ document.at "id" = .string id := by
  unfold nameOf
  cases document.at "id" <;> simp [Value.asString, Except.toOption]

/-- An answer of the query for clubs, decoded, against the document it was decoded from. -/
theorem listed_club {state : State} (sound : Sound state) {admin : String} {club : Club}
    (listed : club ∈ getAllClubs state.server admin) :
    ∃ id, club.getId = .ok id ∧ getAClub state.server id = club := by
  obtain ⟨document, member, rfl⟩ := List.mem_map.mp listed
  obtain ⟨id, named, stored⟩ := sound.clubs.found member
  refine ⟨id, ?_, ?_⟩
  · simp only [Club.getId]
    rw [Fields.at_delivered, nameOf_some.mp named]
    rfl
  · rw [getAClub, stored]
    rfl

theorem listed_ids {state : State} (sound : Sound state) (admin : String) :
    ((getAllClubs state.server admin).map Club.getId).Nodup := by
  have distinct := sound.clubs.nodup fun document => arrayContains (document.at "members") admin
  have same : ((getAllClubs state.server admin).map Club.getId).map Except.toOption =
      (state.server.clubs.docsWhere fun document => arrayContains (document.at "members") admin).map nameOf := by
    rw [getAllClubs, List.map_map, List.map_map]
    apply List.map_congr_left
    intro document member
    obtain ⟨id, named, -⟩ := sound.clubs.found member
    simp only [Function.comp_apply, Club.getId]
    rw [Fields.at_delivered, named, nameOf_some.mp named]
    rfl
  exact List.Nodup.of_map _ (same ▸ distinct)

theorem found_invitation {state : State} (sound : Sound state) {code : String} {data : Invitation}
    (found : state.server.findInvitation code = some data) :
    state.server.invitationRoom.doc data.id = some data ∧ data.clubId = data.id := by
  obtain ⟨id, stored, -⟩ := Server.findInvitation_some found
  have own : data.id = id := Option.some.inj (sound.invitations id data stored)
  have club : data.clubId = id := Option.some.inj (sound.clubIds id data stored)
  exact ⟨own.symm ▸ stored, club.trans own.symm⟩

private theorem map_eq_of_forall {α β γ : Type} {related : α → β → Prop} {first : α → γ} {second : β → γ}
    {items : List α} {others : List β} (pairs : List.Forall₂ related items others)
    (same : ∀ item ∈ items, ∀ other, related item other → second other = first item) :
    others.map second = items.map first := by
  induction pairs with
  | nil => rfl
  | cons related rest ih =>
    rw [List.map_cons, List.map_cons, same _ List.mem_cons_self _ related,
      ih fun item member => same item (List.mem_cons_of_mem _ member)]

theorem delivered_ids {state : State} (sound : Sound state) {clubId email : String}
    {delivered : List ClubTransaction} (delivers : Delivers state.transactions clubId email delivered) :
    (delivered.map ClubTransaction.getId).Nodup := by
  have distinct := sound.transactions.nodup (paidBy clubId email)
  have same : (delivered.map ClubTransaction.getId).map Except.toOption =
      (state.transactions.docsWhere (paidBy clubId email)).map nameOf := by
    rw [List.map_map]
    apply map_eq_of_forall delivers
    intro document member transaction readBack
    obtain ⟨id, named, -⟩ := sound.transactions.found member
    have reads := readBack.at "id"
    rw [nameOf_some.mp named] at reads
    rw [named, Function.comp_apply, ClubTransaction.getId, reads.string]
    rfl
  exact List.Nodup.of_map _ (same ▸ distinct)

/-- Whatever calls have been made, every club listed is the one that its id opens, every
invitation found is the one that redeeming it deletes and is for the club it names, and no
two clubs or payments of a list share an id. -/
theorem lists_open_what_they_show (calls : List (Call × Outcome)) :
    let state := run {} calls
    (∀ admin, ((getAllClubs state.server admin).map Club.getId).Nodup ∧
      ∀ club ∈ getAllClubs state.server admin, ∃ id, club.getId = .ok id ∧ getAClub state.server id = club) ∧
    (∀ code data, state.server.findInvitation code = some data →
      state.server.invitationRoom.doc data.id = some data ∧ data.clubId = data.id) ∧
    ∀ clubId email delivered, Delivers state.transactions clubId email delivered →
      (delivered.map ClubTransaction.getId).Nodup := by
  intro state
  have sound : Sound state := sound_run sound_initial calls
  refine ⟨?_, ?_, ?_⟩
  · intro admin
    exact ⟨listed_ids sound admin, fun club listed => listed_club sound listed⟩
  · intro code data found
    exact found_invitation sound found
  · intro clubId email delivered delivers
    exact delivered_ids sound delivers

def inviting : List (Call × Outcome) :=
  [(.setClub (newClub "Lucky" (.finite 100) none "ann@b.c" ⟨1646136000000000, DateTime.march_inRange⟩ "c1"), .success),
    (.sendInvitationCode { data := ∅, _id := some "c1" } 2 ⟨"0123ABCD", InvitationCode.first_length⟩, .success)]

theorem inviting_opens : ∃ data, (run {} inviting).server.findInvitation "0123ABCD" = some data ∧
    (run {} inviting).server.invitationRoom.doc data.id = some data ∧ data.clubId = data.id := by
  have found : (run {} inviting).server.findInvitation "0123ABCD" =
      some ⟨"c1", "0123ABCD", "c1", 2, 0⟩ := by
    decide +kernel
  exact ⟨_, found, (lists_open_what_they_show inviting).2.1 _ _ found⟩

/-! Clubs that the form has created. -/

def lucky : Club := newClub "Lucky" (.finite 100) (some ⟨1648814400000000, DateTime.april_inRange⟩) "ann@b.c"
  ⟨1646136000000000, DateTime.march_inRange⟩ "c1"

/-- Another club, a payment and an invitation later Ann's club is still hers. -/
def later : List (Call × Outcome) :=
  [(.addMember (some "ann@b.c") "c1" 2, .success), (.setClub (lucky.setId "c2"), .success),
    (.sendInvitationCode lucky 1 ⟨"0123ABCD", InvitationCode.first_length⟩, .success)]

structure World where
  store : State := {}
  session : TopicSync.Session := {}

inductive Event where
  | call (call : Call × Outcome)
  | calculateSubscription (query : Outcome)
  | logout
  | signIn (email : String)

/-- The answer to getAllClubsOnce. -/
def World.answer (world : World) : Outcome → Except Thrown (List Fields)
  | .failure => .error .requestFailed
  | .success => .ok ((getAllClubs world.store.server (world.session.currentUser.getD "")).map Club.data)

def World.visit (world : World) (visit : TopicSync.Visit) : Option World :=
  (TopicSync.visit world.session visit).map fun session => { world with session }

def World.step (world : World) : Event → Option World
  | .call call => some { world with store := Systems.Store.step world.store call }
  | .calculateSubscription query => world.visit (.calculateSubscription (world.answer query))
  | .logout => world.visit .logout
  | .signIn email => world.visit (.signIn email)

end Clubzey.Proofs.StoreSafety
