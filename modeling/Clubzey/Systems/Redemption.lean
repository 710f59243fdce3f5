import Clubzey.Foundation.Runs
import Clubzey.Views.JoinWithCodePage

/-! Any number of clients creating and redeeming invitation codes against one
server. Every event is one remote call, all of which succeed, so a run is an
interleaving of the clients' calls. -/

namespace Clubzey.Systems.Redemption
open Dart Models Backend Views Foundation

/-- What the server has done, for stating what it should have done. -/
inductive Record where
  | accepted (invitation : Invitation)
  | redeemed (invitation : Invitation)
  deriving DecidableEq

structure State where
  server : Server := {}
  joiners : Nat → Joiner := fun _ => .idle
  log : List Record := []

inductive Event where
  | createInvitationCode (clubId : String) (shares : Int) (code : InvitationCode)
  | checkInvitationCode (joiner : Nat) (code : String)
  | addMember (joiner : Nat) (currentUser : Option String)
  | delete (joiner : Nat)

def State.accept (state : State) (request : InvitationRequest) : State :=
  { state with
    server := state.server.sendInvitationCode request
    log := .accepted (state.server.invitation request) :: state.log }

def State.move (state : State) (joiner : Nat) (phase : Joiner) : State :=
  { state with joiners := Function.update state.joiners joiner phase }

def State.add (state : State) (joiner : Nat) (email : String) (data : Invitation) : State :=
  { state.move joiner (.deleting data) with
    server := { state.server with members := ⟨data.clubId, data.shares, email⟩ :: state.server.members }
    log := .redeemed data :: state.log }

def State.delete (state : State) (joiner : Nat) (data : Invitation) : State :=
  { state.move joiner .joined with
    server := { state.server with invitationRoom := state.server.invitationRoom.delete data.id } }

def step (state : State) : Event → Option State
  | .createInvitationCode clubId shares code => some (state.accept (createInvitationRequest clubId shares code))
  | .checkInvitationCode joiner code =>
    if state.joiners joiner = .idle then some (state.move joiner (Joiner.check state.server code .success)) else none
  | .addMember joiner currentUser =>
    match state.joiners joiner with
    | .adding data =>
      let (phase, server) := Joiner.add state.server currentUser data .success
      let log := if currentUser.isSome then .redeemed data :: state.log else state.log
      some { state.move joiner phase with server, log }
    | _ => none
  | .delete joiner =>
    match state.joiners joiner with
    | .deleting data =>
      let (phase, server) := Joiner.delete state.server data .success
      some { state.move joiner phase with server }
    | _ => none

inductive Transition (state : State) : Event → State → Prop where
  | accepted (clubId shares code) :
      Transition state (.createInvitationCode clubId shares code)
        (state.accept (createInvitationRequest clubId shares code))
  | missing (joiner code) (idle : state.joiners joiner = .idle) (absent : state.server.findInvitation code = none) :
      Transition state (.checkInvitationCode joiner code) (state.move joiner .rejected)
  | found (joiner code data) (idle : state.joiners joiner = .idle)
      (present : state.server.findInvitation code = some data) :
      Transition state (.checkInvitationCode joiner code) (state.move joiner (.adding data))
  | unsigned (joiner data) (adding : state.joiners joiner = .adding data) :
      Transition state (.addMember joiner none) (state.move joiner (.thrown .nullCheck))
  | added (joiner email data) (adding : state.joiners joiner = .adding data) :
      Transition state (.addMember joiner (some email)) (state.add joiner email data)
  | deleted (joiner data) (deleting : state.joiners joiner = .deleting data) :
      Transition state (.delete joiner) (state.delete joiner data)

theorem transition {state after : State} {event : Event} (stepped : step state event = some after) :
    Transition state event after := by
  cases event with
  | createInvitationCode clubId shares code =>
    cases stepped
    exact .accepted clubId shares code
  | checkInvitationCode joiner code =>
    by_cases idle : state.joiners joiner = .idle
    · cases query : state.server.findInvitation code with
      | none =>
        have rejected : Joiner.check state.server code .success = .rejected := by
          simp only [Joiner.check, checkInvitationCode, query]
        simp only [step, idle, ite_true, rejected, Option.some.injEq] at stepped
        exact stepped ▸ .missing joiner code idle query
      | some data =>
        have adding : Joiner.check state.server code .success = .adding data := by
          simp only [Joiner.check, checkInvitationCode, query]
        simp only [step, idle, ite_true, adding, Option.some.injEq] at stepped
        exact stepped ▸ .found joiner code data idle query
    · simp only [step, idle, ite_false, reduceCtorEq] at stepped
  | addMember joiner currentUser =>
    cases phase : state.joiners joiner <;> simp only [step, phase, reduceCtorEq] at stepped
    case adding data =>
      cases currentUser <;> cases stepped
      · exact .unsigned joiner data phase
      · exact .added joiner _ data phase
  | delete joiner =>
    cases phase : state.joiners joiner <;> simp only [step, phase, reduceCtorEq] at stepped
    case deleting data =>
      cases stepped
      exact .deleted joiner data phase

theorem step_found {state : State} {joiner : Nat} {code : String} {data : Invitation}
    (idle : state.joiners joiner = .idle) (present : state.server.findInvitation code = some data) :
    step state (.checkInvitationCode joiner code) = some (state.move joiner (.adding data)) := by
  simp only [step, idle, ite_true, Joiner.check, checkInvitationCode, present]

theorem step_added {state : State} {joiner : Nat} {data : Invitation} (email : String)
    (adding : state.joiners joiner = .adding data) :
    step state (.addMember joiner (some email)) = some (state.add joiner email data) := by
  simp only [step, adding]
  rfl

theorem step_deleted {state : State} {joiner : Nat} {data : Invitation}
    (deleting : state.joiners joiner = .deleting data) :
    step state (.delete joiner) = some (state.delete joiner data) := by
  simp only [step, deleting]
  rfl

@[simp] theorem move_same (state : State) (joiner : Nat) (phase : Joiner) :
    (state.move joiner phase).joiners joiner = phase := Function.update_self ..

theorem move_other (state : State) {joiner other : Nat} (phase : Joiner) (different : other ≠ joiner) :
    (state.move joiner phase).joiners other = state.joiners other := Function.update_of_ne different ..

@[simp] theorem add_joiners (state : State) (joiner : Nat) (email : String) (data : Invitation) :
    (state.add joiner email data).joiners = (state.move joiner (.deleting data)).joiners := rfl

@[simp] theorem add_log (state : State) (joiner : Nat) (email : String) (data : Invitation) :
    (state.add joiner email data).log = .redeemed data :: state.log := rfl

@[simp] theorem delete_joiners (state : State) (joiner : Nat) (data : Invitation) :
    (state.delete joiner data).joiners = (state.move joiner .joined).joiners := rfl

@[simp] theorem delete_room (state : State) (joiner : Nat) (data : Invitation) :
    (state.delete joiner data).server.invitationRoom = state.server.invitationRoom.delete data.id := rfl

theorem holds_move {state : State} {joiner other : Nat} {phase : Joiner} {data : Invitation}
    (holds : ((state.move joiner phase).joiners other).Holds data) (released : ¬ phase.Holds data) :
    other ≠ joiner ∧ (state.joiners other).Holds data := by
  have different : other ≠ joiner := by
    intro same
    subst other
    exact released (by simpa using holds)
  exact ⟨different, by rwa [move_other state phase different] at holds⟩

theorem holds_found {state : State} {joiner other : Nat} {data found : Invitation}
    (holds : ((state.move joiner (.adding data)).joiners other).Holds found) :
    (other = joiner ∧ found = data) ∨ (other ≠ joiner ∧ (state.joiners other).Holds found) := by
  by_cases same : other = joiner
  · subst other
    rw [move_same] at holds
    rcases holds with adding | impossible
    · cases adding
      exact Or.inl ⟨rfl, rfl⟩
    · cases impossible
  · rw [move_other state _ same] at holds
    exact Or.inr ⟨same, holds⟩

theorem holds_added {state : State} {joiner other : Nat} {email : String} {data found : Invitation}
    (adding : state.joiners joiner = .adding data)
    (holds : ((state.add joiner email data).joiners other).Holds found) : (state.joiners other).Holds found := by
  rw [add_joiners] at holds
  by_cases same : other = joiner
  · subst other
    rw [move_same] at holds
    rcases holds with impossible | deleting
    · cases impossible
    · cases deleting
      exact Or.inl adding
  · rwa [move_other state _ same] at holds

theorem idle_free {joiner : Joiner} (idle : joiner = .idle) (data : Invitation) : ¬ joiner.Holds data := by
  intro holds
  rw [idle] at holds
  rcases holds with impossible | impossible <;> cases impossible

structure Sound (state : State) : Prop where
  stored : ∀ id data, state.server.invitationRoom.doc id = some data →
    data.id = id ∧ data.clubId = id ∧ data.serial < state.server.invitations
  held : ∀ joiner data, (state.joiners joiner).Holds data →
    data.id = data.clubId ∧ data.serial < state.server.invitations
  logged : ∀ data, .redeemed data ∈ state.log → data.serial < state.server.invitations
  redeemed : ∀ joiner data, state.joiners joiner = .deleting data → .redeemed data ∈ state.log

theorem sound_initial : Sound {} := by
  refine ⟨?_, ?_, ?_, ?_⟩
  · intro id data stored
    simp at stored
  · intro joiner data holds
    exact False.elim (idle_free rfl data holds)
  · intro data member
    cases member
  · intro joiner data deleting
    cases deleting

private theorem sound_accepted {state : State} (sound : Sound state) (clubId : String) (shares : Int)
    (code : InvitationCode) : Sound (state.accept (createInvitationRequest clubId shares code)) := by
  refine ⟨?_, ?_, ?_, ?_⟩
  · intro id data stored
    simp only [State.accept, Server.sendInvitationCode, Collection.doc_set] at stored
    split at stored
    next same =>
      cases stored
      exact ⟨same, same, Nat.lt_succ_self _⟩
    next =>
      have before := sound.stored id data stored
      exact ⟨before.1, before.2.1, Nat.lt_succ_of_lt before.2.2⟩
  · intro joiner data holds
    have before := sound.held joiner data holds
    exact ⟨before.1, Nat.lt_succ_of_lt before.2⟩
  · intro data member
    rcases List.mem_cons.mp member with impossible | member
    · cases impossible
    · exact Nat.lt_succ_of_lt (sound.logged data member)
  · intro joiner data deleting
    exact List.mem_cons_of_mem _ (sound.redeemed joiner data deleting)

private theorem sound_released {state : State} (sound : Sound state) (joiner : Nat) (phase : Joiner)
    (free : ∀ data, ¬ phase.Holds data) : Sound (state.move joiner phase) := by
  refine ⟨sound.stored, ?_, sound.logged, ?_⟩
  · intro other data holds
    exact sound.held other data (holds_move holds (free data)).2
  · intro other data deleting
    have before := holds_move (Or.inr deleting) (free data)
    rw [move_other state phase before.1] at deleting
    exact sound.redeemed other data deleting

private theorem sound_found {state : State} (sound : Sound state) (joiner : Nat) {code : String} {data : Invitation}
    (present : state.server.findInvitation code = some data) : Sound (state.move joiner (.adding data)) := by
  obtain ⟨id, document, _⟩ := Server.findInvitation_some present
  obtain ⟨sameId, sameClub, serial⟩ := sound.stored id data document
  refine ⟨sound.stored, ?_, sound.logged, ?_⟩
  · intro other found holds
    rcases holds_found holds with ⟨_, rfl⟩ | ⟨_, before⟩
    · exact ⟨sameId.trans sameClub.symm, serial⟩
    · exact sound.held other found before
  · intro other found deleting
    rcases holds_found (Or.inr deleting) with ⟨rfl, rfl⟩ | ⟨different, _⟩
    · simp at deleting
    · rw [move_other state _ different] at deleting
      exact sound.redeemed other found deleting

private theorem sound_added {state : State} (sound : Sound state) (joiner : Nat) (email : String) {data : Invitation}
    (adding : state.joiners joiner = .adding data) : Sound (state.add joiner email data) := by
  refine ⟨sound.stored, ?_, ?_, ?_⟩
  · intro other found holds
    exact sound.held other found (holds_added adding holds)
  · intro found member
    rcases List.mem_cons.mp member with new | old
    · cases new
      exact (sound.held joiner data (Or.inl adding)).2
    · exact sound.logged found old
  · intro other found deleting
    by_cases same : other = joiner
    · subst other
      simp only [add_joiners, move_same, Joiner.deleting.injEq] at deleting
      subst found
      exact List.mem_cons_self
    · rw [add_joiners, move_other state _ same] at deleting
      exact List.mem_cons_of_mem _ (sound.redeemed other found deleting)

theorem sound_preserved : Runs.Keeps step Runs.Free Sound := by
  intro before event after sound _ stepped
  cases transition stepped with
  | accepted clubId shares code => exact sound_accepted sound clubId shares code
  | missing joiner code idle absent => exact sound_released sound joiner _ (by simp [Joiner.Holds])
  | found joiner code data idle present => exact sound_found sound joiner present
  | unsigned joiner data adding => exact sound_released sound joiner _ (by simp [Joiner.Holds])
  | added joiner email data adding => exact sound_added sound joiner email adding
  | deleted joiner data deleting =>
    have released := sound_released sound joiner .joined (by simp [Joiner.Holds])
    refine ⟨?_, released.held, released.logged, released.redeemed⟩
    intro id found stored
    rw [delete_room, Collection.doc_delete] at stored
    split at stored
    · cases stored
    · exact sound.stored id found stored

/-- A joiner whom nothing comes between does to the server what the handler does. -/
theorem joiner_alone {state : State} {joiner : Nat} {code : String} {data : Invitation} (email : String)
    (idle : state.joiners joiner = .idle) (present : state.server.findInvitation code = some data) :
    (Runs.run step state [.checkInvitationCode joiner code, .addMember joiner (some email), .delete joiner]).map
        State.server = some (onCompleted state.server (some email) code .success .success .success).2 := by
  have adding : Joiner.check state.server code .success = .adding data := by
    simp only [Joiner.check, checkInvitationCode, present]
  have added := step_added email (move_same state joiner (.adding data))
  have deleting : ((state.move joiner (.adding data)).add joiner email data).joiners joiner = .deleting data := by
    rw [add_joiners, move_same]
  rw [Runs.run_first (step_found idle present), Runs.run_first added, Runs.run_first (step_deleted deleting),
    Runs.run_nil, onCompleted, adding]
  rfl

theorem sound {events : List Event} {state : State} (ran : Runs.run step {} events = some state) : Sound state :=
  sound_preserved.always sound_initial ran

end Clubzey.Systems.Redemption
