import Clubzey.Systems.Invitation
import Clubzey.Utils.Timer

/-! CreateInvitationPage with its countdown. Every build of what stands under the
FutureBuilder, be it for the page or for a reply, starts the countdown again, and until
its first number comes the last number of the one before is shown. -/

namespace Clubzey.Systems.Reload
open Dart Models Foundation Utils

def second : ℤ := 1000000

structure State where
  now : ℤ
  page : Invitation.State
  countdown : Generator.Listener ℤ ℤ
  /-- When the countdown was started. -/
  built : ℤ

inductive Event where
  | pass (later : ℤ)
  | count
  | rebuild (code : InvitationCode)
  | reload (code : InvitationCode)
  | handle (request : Nat)
  | reply (request : Nat) (outcome : Outcome)

def State.restart (state : State) : State :=
  { state with countdown := countStream.listen state.now 0 state.countdown.data, built := state.now }

/-- `timerSnapshot.data == 0`. -/
def State.offersReload (state : State) : Prop := state.countdown.data = some 0

instance (state : State) : Decidable state.offersReload := inferInstanceAs (Decidable (_ = _))

/-- The page before its first build, which nothing has been shown on. -/
def opened (server : Backend.Server) (now : ℤ) : State where
  now
  page := { server }
  countdown := countStream.listen now 0 none
  built := now

def build (clubId : String) (shares : Int) (state : State) (code : InvitationCode) : Option State :=
  (Invitation.step clubId shares state.page (.build code)).map fun page => State.restart { state with page }

def step (clubId : String) (shares : Int) (state : State) : Event → Option State
  | .pass later => if state.now ≤ later then some { state with now := later } else none
  | .count => (countStream.deliver second state.now state.countdown).map fun countdown => { state with countdown }
  | .rebuild code => build clubId shares state code
  | .reload code => if state.offersReload then build clubId shares state code else none
  | .handle request =>
    (Invitation.step clubId shares state.page (.handle request)).map fun page => { state with page }
  | .reply request outcome =>
    (Invitation.step clubId shares state.page (.reply request outcome)).map fun page =>
      if state.page.snapshot.future = some request then State.restart { state with page } else { state with page }

/-- The countdown is no faster than the clock. -/
structure Kept (state : State) : Prop where
  paced : countStream.Paced state.built 0 second state.countdown
  soon : state.countdown.due ≤ state.now + second

theorem kept_restart (state : State) : Kept state.restart := by
  refine ⟨Generator.paced_listen _ _ _ _ _, ?_⟩
  simp [State.restart, Generator.listen, second]

variable {clubId : String} {shares : Int}

/-- What an event may do to the countdown: leave it alone, start it again or deliver its
next number. -/
inductive Moves (before after : State) : Prop where
  | alone (passes : before.now ≤ after.now) (countdown : after.countdown = before.countdown)
      (built : after.built = before.built)
  | restarts (now : after.now = before.now) (countdown : after.countdown = before.restart.countdown)
      (built : after.built = before.now)
  | counts (now : after.now = before.now) (built : after.built = before.built)
      (delivered : countStream.deliver second before.now before.countdown = some after.countdown)

theorem step_moves {before after : State} {event : Event} (stepped : step clubId shares before event = some after) :
    Moves before after := by
  have restarted : ∀ page, State.restart { before with page } = after → Moves before after := by
    rintro page rfl
    exact .restarts rfl rfl rfl
  cases event with
  | pass later =>
    obtain ⟨passes, same⟩ := Option.ite_none_right_eq_some.mp stepped
    cases same
    exact .alone passes rfl rfl
  | count =>
    obtain ⟨countdown, delivered, rfl⟩ := Option.map_eq_some_iff.mp stepped
    exact .counts rfl rfl delivered
  | rebuild code =>
    have built : build clubId shares before code = some after := stepped
    obtain ⟨page, _, same⟩ := Option.map_eq_some_iff.mp built
    exact restarted page same
  | reload code =>
    obtain ⟨_, built⟩ := Option.ite_none_right_eq_some.mp stepped
    obtain ⟨page, _, same⟩ := Option.map_eq_some_iff.mp built
    exact restarted page same
  | handle request =>
    obtain ⟨page, _, rfl⟩ := Option.map_eq_some_iff.mp stepped
    exact .alone le_rfl rfl rfl
  | reply request outcome =>
    obtain ⟨page, _, same⟩ := Option.map_eq_some_iff.mp stepped
    split at same
    · exact restarted page same
    · cases same
      exact .alone le_rfl rfl rfl

theorem kept_preserved : Runs.Keeps (step clubId shares) Runs.Free Kept := by
  intro before event after kept _ stepped
  cases step_moves stepped with
  | alone passes countdown built =>
    refine ⟨?_, ?_⟩
    · rw [countdown, built]
      exact kept.paced
    · rw [countdown]
      have soon := kept.soon
      omega
  | restarts now countdown built =>
    have fresh := kept_restart before
    refine ⟨?_, ?_⟩
    · rw [countdown, built]
      exact fresh.paced
    · rw [countdown, now]
      exact fresh.soon
  | counts now built delivered =>
    refine ⟨?_, ?_⟩
    · rw [built]
      exact kept.paced.deliver delivered
    · obtain ⟨_, _, _, _, same⟩ := Generator.deliver_some delivered
      rw [same, now]

/-- A number that has been counted is as many seconds below thirty as have passed since
the countdown was started, or fewer. -/
theorem Kept.counted {state : State} (kept : Kept state) {number : ℤ} (shown : state.countdown.data = some number)
    (counting : state.countdown.delivered ≠ 0) :
    0 ≤ number ∧ number ≤ 30 ∧ state.built + (30 - number) * second ≤ state.now := by
  obtain ⟨index, last⟩ := Nat.exists_eq_succ_of_ne_zero counting
  obtain ⟨item, passed⟩ := kept.paced.shown kept.soon last
  rw [item] at shown
  obtain ⟨inside, rfl⟩ := countStream_item shown
  refine ⟨by omega, by omega, ?_⟩
  rw [sub_sub_cancel]
  simpa using passed

end Clubzey.Systems.Reload
