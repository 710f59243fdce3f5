import Clubzey.Systems.Redemption

/-! Whether a code stays redeemable until it is redeemed or replaced. Documents
are keyed by the club and deleted by that key, so a redemption deletes whatever
code the club has by then, which need not be the one it redeemed. -/

namespace Clubzey.Proofs.LiveCode
open Dart Models Backend Views Foundation Systems.Redemption

def latest (clubId : String) : List Record → Option Invitation
  | [] => none
  | .accepted invitation :: earlier => if invitation.clubId = clubId then some invitation else latest clubId earlier
  | .redeemed _ :: earlier => latest clubId earlier

/-- Accepted, not replaced by a later code of the club, and redeemed by nobody. -/
def Outstanding (state : State) (invitation : Invitation) : Prop :=
  latest invitation.clubId state.log = some invitation ∧ .redeemed invitation ∉ state.log

def Live (state : State) : Prop :=
  ∀ invitation, Outstanding state invitation →
    checkInvitationCode state.server invitation.invitationCode .success = .ok (some invitation)

def Distinct (state : State) : Event → Prop
  | .createInvitationCode clubId _ code =>
    ∀ id data, state.server.invitationRoom.doc id = some data → id ≠ clubId → data.invitationCode ≠ code.text
  | _ => True

/-- No code is accepted for a club while a joiner who has read a document of the
club has not yet deleted it. -/
def Undisturbed (state : State) : Event → Prop
  | .createInvitationCode clubId _ _ => ∀ joiner data, (state.joiners joiner).Holds data → data.clubId ≠ clubId
  | _ => True

structure Valid (state : State) : Prop where
  live : ∀ invitation, Outstanding state invitation →
    state.server.invitationRoom.doc invitation.clubId = some invitation
  held : ∀ joiner data, (state.joiners joiner).Holds data →
    state.server.invitationRoom.doc data.id = none ∨ state.server.invitationRoom.doc data.id = some data
  distinct : ∀ first second data other, state.server.invitationRoom.doc first = some data →
    state.server.invitationRoom.doc second = some other → data.invitationCode = other.invitationCode → first = second

theorem initial : Valid {} := by
  refine ⟨?_, ?_, ?_⟩
  · intro invitation outstanding
    cases outstanding.1
  · intro joiner data holds
    exact False.elim (idle_free rfl data holds)
  · intro first second data other stored
    simp at stored

theorem Valid.answers {state : State} (valid : Valid state) : Live state := by
  intro invitation outstanding
  have document := valid.live invitation outstanding
  have answer : state.server.findInvitation invitation.invitationCode = some invitation := by
    apply Collection.head_docsWhere_unique document (by simp)
    intro id found stored matching
    have same := valid.distinct id invitation.clubId found invitation stored document (by simpa using matching)
    subst id
    exact Option.some.inj (stored.symm.trans document)
  simp only [checkInvitationCode, answer]

private theorem accepted {state : State} (sound : Sound state) (valid : Valid state) (clubId : String) (shares : Int)
    (code : InvitationCode) (distinct : Distinct state (.createInvitationCode clubId shares code))
    (undisturbed : Undisturbed state (.createInvitationCode clubId shares code)) :
    Valid (state.accept (createInvitationRequest clubId shares code)) := by
  have room : ∀ id, (state.accept (createInvitationRequest clubId shares code)).server.invitationRoom.doc id =
      if clubId = id then some (state.server.invitation (createInvitationRequest clubId shares code))
      else state.server.invitationRoom.doc id := fun id => Collection.doc_set ..
  refine ⟨?_, ?_, ?_⟩
  · intro invitation outstanding
    obtain ⟨last, unredeemed⟩ := outstanding
    rw [room]
    change (if clubId = invitation.clubId then some _ else latest invitation.clubId state.log) = _ at last
    by_cases same : clubId = invitation.clubId
    · rw [if_pos same]
      rwa [if_pos same] at last
    · rw [if_neg same]
      rw [if_neg same] at last
      exact valid.live invitation ⟨last, fun member => unredeemed (List.mem_cons_of_mem _ member)⟩
  · intro joiner data holds
    have different : ¬ clubId = data.id := by
      intro same
      exact undisturbed joiner data holds ((sound.held joiner data holds).1 ▸ same.symm)
    rw [room, if_neg different]
    exact valid.held joiner data holds
  · intro first second data other firstStored secondStored same
    rw [room] at firstStored secondStored
    split at firstStored
    next firstNew =>
      split at secondStored
      next secondNew => exact firstNew.symm.trans secondNew
      next secondOld =>
        cases firstStored
        exact False.elim (distinct second other secondStored (fun equal => secondOld equal.symm) same.symm)
    next firstOld =>
      split at secondStored
      next secondNew =>
        cases secondStored
        exact False.elim (distinct first data firstStored (fun equal => firstOld equal.symm) same)
      next => exact valid.distinct first second data other firstStored secondStored same

private theorem deleted {state : State} (sound : Sound state) (valid : Valid state) (joiner : Nat)
    (data : Invitation) (deleting : state.joiners joiner = .deleting data) : Valid (state.delete joiner data) := by
  have holds := sound.held joiner data (Or.inr deleting)
  refine ⟨?_, ?_, ?_⟩
  · intro invitation outstanding
    have document := valid.live invitation outstanding
    -- The deleted document is the joiner's own, which has been redeemed.
    have different : ¬ data.id = invitation.clubId := by
      intro same
      rcases valid.held joiner data (Or.inr deleting) with gone | own
      · rw [same, document] at gone
        cases gone
      · rw [same, document] at own
        cases own
        exact outstanding.2 (sound.redeemed joiner data deleting)
    rw [delete_room, Collection.doc_delete, if_neg different]
    exact document
  · intro other found otherHolds
    rw [delete_room, Collection.doc_delete]
    split
    · exact Or.inl rfl
    · exact valid.held other found (holds_move otherHolds (by simp [Joiner.Holds])).2
  · intro first second found other firstStored secondStored
    rw [delete_room, Collection.doc_delete] at firstStored secondStored
    split at firstStored
    · cases firstStored
    · split at secondStored
      · cases secondStored
      · exact valid.distinct first second found other firstStored secondStored

theorem preserved : Runs.Keeps step
    (fun state event => (Distinct state event ∧ Undisturbed state event) ∧ Sound state) Valid := by
  intro before event after valid allowed stepped
  obtain ⟨⟨distinct, undisturbed⟩, sound⟩ := allowed
  cases transition stepped with
  | accepted clubId shares code => exact accepted sound valid clubId shares code distinct undisturbed
  | missing joiner code idle absent =>
    refine ⟨valid.live, ?_, valid.distinct⟩
    intro other data holds
    exact valid.held other data (holds_move holds (by simp [Joiner.Holds])).2
  | found joiner code data idle present =>
    obtain ⟨id, document, _⟩ := Server.findInvitation_some present
    refine ⟨valid.live, ?_, valid.distinct⟩
    intro other found holds
    rcases holds_found holds with ⟨_, rfl⟩ | ⟨_, held⟩
    · exact Or.inr ((sound.stored id found document).1 ▸ document)
    · exact valid.held other found held
  | unsigned joiner data adding =>
    refine ⟨valid.live, ?_, valid.distinct⟩
    intro other data holds
    exact valid.held other data (holds_move holds (by simp [Joiner.Holds])).2
  | added joiner email data adding =>
    refine ⟨?_, ?_, valid.distinct⟩
    · intro invitation outstanding
      obtain ⟨last, unredeemed⟩ := outstanding
      exact valid.live invitation ⟨last, fun member => unredeemed (List.mem_cons_of_mem _ member)⟩
    · intro other found holds
      exact valid.held other found (holds_added adding holds)
  | deleted joiner data deleting => exact deleted sound valid joiner data deleting

/-- As long as no code is accepted for a club in the middle of a redemption of
one of its codes, every redemption deletes nothing but the code it redeemed. -/
theorem outstanding_codes_live {events : List Event} {state : State}
    (ran : Runs.run step {} events = some state) (distinct : Runs.Meets step Distinct {} events)
    (undisturbed : Runs.Meets step Undisturbed {} events) : Live state := by
  have kept := (sound_preserved.restrict fun _ _ _ => trivial).and preserved
  exact (kept.run ⟨sound_initial, initial⟩ (distinct.and undisturbed) ran).2.answers

private theorem deleted_not_live {state : State} (sound : Sound state) {invitation : Invitation}
    (outstanding : Outstanding state invitation)
    (gone : state.server.invitationRoom.doc invitation.clubId = none) : ¬ Live state := by
  intro live
  -- No query answers with a document that is not there.
  have answer := live invitation outstanding
  simp only [checkInvitationCode, Except.ok.injEq] at answer
  obtain ⟨id, document, _⟩ := Server.findInvitation_some answer
  rw [← (sound.stored id invitation document).2.1, gone] at document
  cases document

/-- A reload in the middle of a redemption always costs the new code: from any
reachable state in which a joiner has read a document of the club, the joiner's
remaining calls delete the code accepted now. -/
theorem reload_loses_code {events : List Event} {state : State} (ran : Runs.run step {} events = some state)
    {joiner : Nat} {data : Invitation} (held : (state.joiners joiner).Holds data) (shares : Int)
    (code : InvitationCode) :
    ∃ rest final, Runs.run step {} (events ++ .createInvitationCode data.clubId shares code :: rest) = some final ∧
      ¬ Live final := by
  obtain ⟨sameId, earlier⟩ := (sound ran).held joiner data held
  obtain ⟨request, requestIs⟩ : ∃ request, request = createInvitationRequest data.clubId shares code := ⟨_, rfl⟩
  have reloaded : step state (.createInvitationCode data.clubId shares code) = some (state.accept request) := by
    rw [requestIs]
    rfl
  have club : data.clubId = (state.server.invitation request).clubId := by
    rw [requestIs]
    rfl
  have unseen : .redeemed (state.server.invitation request) ∉ (state.accept request).log := by
    intro member
    rcases List.mem_cons.mp member with impossible | old
    · cases impossible
    · exact Nat.lt_irrefl _ ((sound ran).logged _ old)
  have last : latest (state.server.invitation request).clubId (state.accept request).log =
      some (state.server.invitation request) := by
    simp only [State.accept, latest, ite_true]
  have deleted : ∀ middle : State,
      (middle.delete joiner data).server.invitationRoom.doc (state.server.invitation request).clubId = none := by
    intro middle
    rw [delete_room, Collection.doc_delete, if_pos (sameId.trans club)]
  rcases held with adding | deleting
  · have waiting : (state.accept request).joiners joiner = .adding data := adding
    have ready : ((state.accept request).add joiner "" data).joiners joiner = .deleting data := move_same ..
    have reached : Runs.run step {} (events ++ [.createInvitationCode data.clubId shares code,
        .addMember joiner (some ""), .delete joiner]) =
        some (((state.accept request).add joiner "" data).delete joiner data) := by
      apply Runs.run_trans ran
      rw [Runs.run_first reloaded, Runs.run_first (step_added "" waiting), Runs.run_first (step_deleted ready),
        Runs.run_nil]
    have unredeemed : .redeemed (state.server.invitation request) ∉ ((state.accept request).add joiner "" data).log := by
      intro member
      rcases List.mem_cons.mp member with new | old
      · have serials := congrArg Invitation.serial (Record.redeemed.inj new)
        exact Nat.lt_irrefl _ (serials ▸ earlier)
      · exact unseen old
    exact ⟨_, _, reached, deleted_not_live (sound reached) ⟨last, unredeemed⟩ (deleted _)⟩
  · have ready : (state.accept request).joiners joiner = .deleting data := deleting
    have reached : Runs.run step {} (events ++ [.createInvitationCode data.clubId shares code, .delete joiner]) =
        some ((state.accept request).delete joiner data) := by
      apply Runs.run_trans ran
      rw [Runs.run_first reloaded, Runs.run_first (step_deleted ready), Runs.run_nil]
    exact ⟨_, _, reached, deleted_not_live (sound reached) ⟨last, unseen⟩ (deleted _)⟩

def club : String := "c1"
def firstCode : InvitationCode := ⟨"0123ABCD", InvitationCode.first_length⟩
def secondCode : InvitationCode := ⟨"4567ABCD", InvitationCode.second_length⟩

def reloadedAfter : List Event :=
  [.createInvitationCode club 2 firstCode, .checkInvitationCode 0 firstCode.text,
    .addMember 0 (some "ann@example.com"), .delete 0, .createInvitationCode club 1 secondCode]

def afterReload : State := (Runs.run step {} reloadedAfter).get (by decide)

theorem reloaded_after_live : Live afterReload := by
  have ran : Runs.run step {} reloadedAfter = some afterReload := by rw [afterReload, Option.some_get]
  apply outstanding_codes_live ran
  · refine Runs.meets_first rfl ?_ (Runs.meets_first rfl trivial (Runs.meets_first rfl trivial
      (Runs.meets_first rfl trivial (Runs.meets_first rfl ?_ trivial))))
    · intro id data stored
      simp at stored
    · intro id data stored
      change (((∅ : Collection Invitation).set club _).delete club).doc id = some data at stored
      rw [Collection.doc_delete, Collection.doc_set] at stored
      split at stored <;> simp at stored
  · refine Runs.meets_first rfl ?_ (Runs.meets_first rfl trivial (Runs.meets_first rfl trivial
      (Runs.meets_first rfl trivial (Runs.meets_first rfl ?_ trivial))))
    · intro joiner data holds
      exact False.elim (idle_free rfl data holds)
    · intro joiner data holds
      by_cases same : joiner = 0
      · subst joiner
        rcases holds with impossible | impossible <;> cases impossible
      · change (Function.update (Function.update (Function.update (fun _ => Joiner.idle) 0 _) 0 _) 0 _ joiner).Holds
          data at holds
        simp only [Function.update_of_ne same] at holds
        exact False.elim (idle_free rfl data holds)

def reloadedDuring : List Event :=
  [.createInvitationCode club 2 firstCode, .checkInvitationCode 0 firstCode.text,
    .createInvitationCode club 1 secondCode, .addMember 0 (some "ann@example.com"), .delete 0]

theorem reloaded_during_deletes : ¬ ∀ events state, Runs.run step {} events = some state →
    Runs.Meets step Distinct {} events → Live state := by
  intro always
  have lost : (Runs.run step {} reloadedDuring).map
      (fun state => (latest club state.log, state.server.findInvitation secondCode.text)) =
      some (some ⟨club, secondCode.text, club, 1, 1⟩, none) := by decide
  have unredeemed : (Runs.run step {} reloadedDuring).map
      (fun state => decide (.redeemed ⟨club, secondCode.text, club, 1, 1⟩ ∈ state.log)) = some false := by decide
  obtain ⟨state, ran, answers⟩ := Option.map_eq_some_iff.mp lost
  rw [ran, Option.map_some, Option.some.injEq, decide_eq_false_iff_not] at unredeemed
  obtain ⟨last, absent⟩ := Prod.mk.inj answers
  have distinct : Runs.Meets step Distinct {} reloadedDuring := by
    refine Runs.meets_first rfl ?_ (Runs.meets_first rfl trivial (Runs.meets_first rfl ?_
      (Runs.meets_first rfl trivial (Runs.meets_first rfl trivial trivial))))
    · intro id data stored
      simp at stored
    · intro id data stored different
      change ((∅ : Collection Invitation).set club _).doc id = some data at stored
      rw [Collection.doc_set, if_neg (Ne.symm different)] at stored
      simp at stored
  have live := always reloadedDuring state ran distinct ⟨club, secondCode.text, club, 1, 1⟩ ⟨last, unredeemed⟩
  simp [checkInvitationCode, absent] at live

end Clubzey.Proofs.LiveCode
