import Clubzey.Systems.Redemption

/-! How often an invitation code is redeemed. Nothing but the order of the calls
keeps two joiners apart: once both queries have answered with the document, both
add their member, and the delete comes too late. -/

namespace Clubzey.Proofs.OneTimeCode
open Dart Models Backend Views Foundation Systems.Redemption

def OneTime (state : State) : Prop := ∀ invitation, state.log.count (.redeemed invitation) ≤ 1

/-- No query answers with a document while another joiner, who has read it, has
not yet deleted it. -/
def Exclusive (state : State) : Event → Prop
  | .checkInvitationCode _ code =>
    ∀ data, state.server.findInvitation code = some data → ∀ other, ¬ (state.joiners other).Holds data
  | _ => True

structure Valid (state : State) : Prop where
  alone : ∀ first second data, (state.joiners first).Holds data → (state.joiners second).Holds data → first = second
  unused : ∀ joiner data, state.joiners joiner = .adding data → .redeemed data ∉ state.log
  fresh : ∀ data, state.server.invitationRoom.doc data.id = some data →
    (∀ joiner, ¬ (state.joiners joiner).Holds data) → .redeemed data ∉ state.log
  once : OneTime state

theorem initial : Valid {} := by
  refine ⟨?_, ?_, ?_, ?_⟩
  · intro first second data holds
    exact False.elim (idle_free rfl data holds)
  · intro joiner data adding
    cases adding
  · intro data stored
    simp at stored
  · intro invitation
    simp

private theorem accepted {state : State} (sound : Sound state) (valid : Valid state) (request : InvitationRequest) :
    Valid (state.accept request) := by
  -- The new document carries a serial that nothing carried before.
  have unseen : ¬ (state.server.invitation request).serial < state.server.invitations := Nat.lt_irrefl _
  have log : ∀ data, .redeemed data ∈ (state.accept request).log ↔ .redeemed data ∈ state.log := by
    intro data
    simp [State.accept]
  refine ⟨valid.alone, ?_, ?_, ?_⟩
  · intro joiner data adding member
    exact valid.unused joiner data adding ((log data).mp member)
  · intro data stored free member
    simp only [State.accept, Server.sendInvitationCode, Collection.doc_set] at stored
    split at stored
    next =>
      cases stored
      exact unseen (sound.logged _ ((log _).mp member))
    next => exact valid.fresh data stored free ((log data).mp member)
  · intro invitation
    simpa [State.accept] using valid.once invitation

private theorem released {state : State} (valid : Valid state) (joiner : Nat) (phase : Joiner)
    (free : ∀ data, ¬ phase.Holds data)
    (gone : ∀ data, (state.joiners joiner).Holds data → .redeemed data ∈ state.log →
      state.server.invitationRoom.doc data.id ≠ some data) :
    Valid (state.move joiner phase) := by
  refine ⟨?_, ?_, ?_, valid.once⟩
  · intro first second data firstHolds secondHolds
    exact valid.alone first second data (holds_move firstHolds (free data)).2 (holds_move secondHolds (free data)).2
  · intro other data adding
    have before := holds_move (Or.inl adding) (free data)
    rw [move_other state phase before.1] at adding
    exact valid.unused other data adding
  · intro data stored unheld member
    by_cases held : (state.joiners joiner).Holds data
    · exact gone data held member stored
    · refine valid.fresh data stored ?_ member
      intro other holds
      by_cases same : other = joiner
      · subst other
        exact held holds
      · exact unheld other (by rwa [move_other state phase same])

private theorem found {state : State} (sound : Sound state) (valid : Valid state) (joiner : Nat) (code : String)
    (data : Invitation) (idle : state.joiners joiner = .idle)
    (present : state.server.findInvitation code = some data)
    (exclusive : Exclusive state (.checkInvitationCode joiner code)) :
    Valid (state.move joiner (.adding data)) := by
  obtain ⟨id, document, _⟩ := Server.findInvitation_some present
  have unheld := exclusive data present
  have key : data.id = id := (sound.stored id data document).1
  refine ⟨?_, ?_, ?_, valid.once⟩
  · intro first second found firstHolds secondHolds
    rcases holds_found firstHolds with ⟨rfl, rfl⟩ | ⟨_, before⟩
    · rcases holds_found secondHolds with ⟨rfl, _⟩ | ⟨_, before⟩
      · rfl
      · exact False.elim (unheld second before)
    · rcases holds_found secondHolds with ⟨rfl, rfl⟩ | ⟨_, other⟩
      · exact False.elim (unheld first before)
      · exact valid.alone first second found before other
  · intro other found adding
    rcases holds_found (Or.inl adding) with ⟨rfl, rfl⟩ | ⟨different, _⟩
    · exact valid.fresh found (by rw [key]; exact document) unheld
    · rw [move_other state _ different] at adding
      exact valid.unused other found adding
  · intro found stored free
    refine valid.fresh found stored ?_
    intro other before
    have different : other ≠ joiner := by
      intro same
      subst other
      exact idle_free idle found before
    exact free other (by rwa [move_other state _ different])

private theorem added {state : State} (valid : Valid state) (joiner : Nat) (data : Invitation)
    (adding : state.joiners joiner = .adding data) (email : String) : Valid (state.add joiner email data) := by
  have unused := valid.unused joiner data adding
  have now : ((state.add joiner email data).joiners joiner).Holds data := by
    rw [add_joiners, move_same]
    exact Or.inr rfl
  refine ⟨?_, ?_, ?_, ?_⟩
  · intro first second found firstHolds secondHolds
    exact valid.alone first second found (holds_added adding firstHolds) (holds_added adding secondHolds)
  · intro other found otherAdding member
    have different : other ≠ joiner := by
      intro same
      subst other
      simp at otherAdding
    rw [add_joiners, move_other state _ different] at otherAdding
    rcases List.mem_cons.mp member with new | old
    · cases new
      exact different (valid.alone other joiner _ (Or.inl otherAdding) (Or.inl adding))
    · exact valid.unused other found otherAdding old
  · intro found stored free member
    rcases List.mem_cons.mp member with new | old
    · cases new
      exact free joiner now
    · refine valid.fresh found stored ?_ old
      intro other before
      by_cases same : other = joiner
      · subst other
        rw [adding] at before
        rcases before with same | impossible
        · cases same
          exact free joiner now
        · cases impossible
      · exact free other (by rwa [add_joiners, move_other state _ same])
  · intro invitation
    by_cases same : invitation = data
    · subst invitation
      simp [List.count_eq_zero.mpr unused]
    · have different : ¬ data = invitation := fun equal => same equal.symm
      simpa [List.count_cons, different] using valid.once invitation

private theorem deleted {state : State} (valid : Valid state) (joiner : Nat) (data : Invitation)
    (deleting : state.joiners joiner = .deleting data) : Valid (state.delete joiner data) := by
  have kept : ∀ found, (state.delete joiner data).server.invitationRoom.doc found.id = some found →
      state.server.invitationRoom.doc found.id = some found ∧ found ≠ data := by
    intro found stored
    rw [delete_room, Collection.doc_delete] at stored
    split at stored
    · cases stored
    next different => exact ⟨stored, fun same => different (same ▸ rfl)⟩
  have free : ∀ found, ¬ Joiner.joined.Holds found := by simp [Joiner.Holds]
  refine ⟨?_, ?_, ?_, valid.once⟩
  · intro first second found firstHolds secondHolds
    exact valid.alone first second found (holds_move firstHolds (free found)).2 (holds_move secondHolds (free found)).2
  · intro other found adding
    have before := holds_move (Or.inl adding) (free found)
    rw [delete_joiners, move_other state _ before.1] at adding
    exact valid.unused other found adding
  · intro found stored unheld
    obtain ⟨before, different⟩ := kept found stored
    refine valid.fresh found before ?_
    intro other holds
    by_cases same : other = joiner
    · subst other
      rw [deleting] at holds
      rcases holds with impossible | equal
      · cases impossible
      · cases equal
        exact different rfl
    · exact unheld other (by rwa [delete_joiners, move_other state _ same])

theorem preserved : Runs.Keeps step (fun state event => Exclusive state event ∧ Sound state) Valid := by
  intro before event after valid allowed stepped
  obtain ⟨exclusive, sound⟩ := allowed
  cases transition stepped with
  | accepted clubId shares code => exact accepted sound valid _
  | missing joiner code idle absent =>
    apply released valid joiner _ (by simp [Joiner.Holds])
    intro data holds
    exact False.elim (idle_free idle data holds)
  | found joiner code data idle present => exact found sound valid joiner code data idle present exclusive
  | unsigned joiner data adding =>
    apply released valid joiner _ (by simp [Joiner.Holds])
    intro other holds member
    rw [adding] at holds
    rcases holds with same | impossible
    · cases same
      exact False.elim (valid.unused joiner data adding member)
    · cases impossible
  | added joiner email data adding => exact added valid joiner data adding email
  | deleted joiner data deleting => exact deleted valid joiner data deleting

/-- Codes are used once in every run in which the redemptions of one document do
not overlap. -/
theorem redeemed_once {events : List Event} {state : State} (ran : Runs.run step {} events = some state)
    (exclusive : Runs.Meets step Exclusive {} events) : OneTime state := by
  have kept := (sound_preserved.restrict fun _ _ _ => trivial).and preserved
  exact (kept.run ⟨sound_initial, initial⟩ exclusive ran).2.once

def club : String := "c1"
def code : InvitationCode := ⟨"0123ABCD", InvitationCode.first_length⟩

def inTurn : List Event :=
  [.createInvitationCode club 2 code, .checkInvitationCode 0 code.text, .addMember 0 (some "ann@example.com"),
    .delete 0, .checkInvitationCode 1 code.text]

def afterTurns : State := (Runs.run step {} inTurn).get (by decide)

theorem redeemed_once_in_turn : OneTime afterTurns := by
  have ran : Runs.run step {} inTurn = some afterTurns := by rw [afterTurns, Option.some_get]
  apply redeemed_once ran
  · refine Runs.meets_first rfl trivial (Runs.meets_first rfl ?_ (Runs.meets_first rfl trivial
      (Runs.meets_first rfl trivial (Runs.meets_first rfl ?_ trivial))))
    · intro data _ other holds
      rcases holds with impossible | impossible <;> cases impossible
    · intro data present
      have answered := (congrArg Option.isSome present).trans Option.isSome_some
      exact absurd answered (by decide)

/-- An overlap is always enough to break the promise: from any reachable state in
which a query finds a document that another joiner still holds, the two can both
add their member. -/
theorem overlap_redeems_twice {events : List Event} {state : State} (ran : Runs.run step {} events = some state)
    {joiner other : Nat} {code : String} {data : Invitation} (idle : state.joiners joiner = .idle)
    (present : state.server.findInvitation code = some data) (held : (state.joiners other).Holds data) :
    ∃ rest final, Runs.run step {} (events ++ .checkInvitationCode joiner code :: rest) = some final ∧
      2 ≤ final.log.count (.redeemed data) := by
  have different : other ≠ joiner := by
    intro same
    subst other
    rw [idle] at held
    rcases held with impossible | impossible <;> cases impossible
  have checked := step_found idle present
  obtain ⟨middle, middleIs⟩ : ∃ middle, middle = state.move joiner (.adding data) := ⟨_, rfl⟩
  have waiting : middle.joiners joiner = .adding data := by rw [middleIs, move_same]
  rcases held with adding | deleting
  · have otherWaiting : middle.joiners other = .adding data := by rw [middleIs, move_other state _ different, adding]
    have stillWaiting : (middle.add other "" data).joiners joiner = .adding data := by
      rwa [add_joiners, move_other middle _ (Ne.symm different)]
    refine ⟨[.addMember other (some ""), .addMember joiner (some "")],
      (middle.add other "" data).add joiner "" data, Runs.run_trans ran ?_, ?_⟩
    · rw [Runs.run_first checked, ← middleIs, Runs.run_first (step_added "" otherWaiting),
        Runs.run_first (step_added "" stillWaiting), Runs.run_nil]
    · simp
  · have redeemed : .redeemed data ∈ middle.log := by
      rw [middleIs]
      exact (sound ran).redeemed other data deleting
    refine ⟨[.addMember joiner (some "")], middle.add joiner "" data, Runs.run_trans ran ?_, ?_⟩
    · rw [Runs.run_first checked, ← middleIs, Runs.run_first (step_added "" waiting), Runs.run_nil]
    · have counted := List.count_pos_iff.mpr redeemed
      simpa using counted

def overlapping : List Event :=
  [.createInvitationCode club 2 code, .checkInvitationCode 0 code.text, .checkInvitationCode 1 code.text,
    .addMember 0 (some "ann@example.com"), .addMember 1 (some "bob@example.com")]

theorem overlapping_redeems_twice :
    ¬ ∀ events state, Runs.run step {} events = some state → OneTime state := by
  intro always
  have twice : (Runs.run step {} overlapping).map
      (fun state => state.log.count (.redeemed ⟨club, code.text, club, 2, 0⟩)) = some 2 := by decide
  obtain ⟨state, ran, count⟩ := Option.map_eq_some_iff.mp twice
  have once := always overlapping state ran ⟨club, code.text, club, 2, 0⟩
  omega

end Clubzey.Proofs.OneTimeCode
