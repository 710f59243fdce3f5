import Clubzey.Foundation.Runs
import Clubzey.Views.AddMemberPage

/-! The QR code of one AddMemberPage. It is stamped when the page is built and again
every thirty seconds, and shown at once. -/

namespace Clubzey.Systems.QrDisplay
open Dart Foundation

structure State where
  now : DateTime
  qrCreated : DateTime

inductive Event where
  | pass (later : DateTime)
  | reload

def timerSeconds : Int := 30

def construct (now : DateTime) : State := { now, qrCreated := now }

def State.age (state : State) : Int := state.now.microsecondsSinceEpoch - state.qrCreated.microsecondsSinceEpoch

/-- Time passes no further than the next reload, which comes when the delay is over. -/
def step (state : State) : Event → Option State
  | .pass later =>
    if state.now.microsecondsSinceEpoch ≤ later.microsecondsSinceEpoch ∧
        State.age { state with now := later } ≤ timerSeconds * 1000000 then
      some { state with now := later }
    else none
  | .reload => if state.age = timerSeconds * 1000000 then some { state with qrCreated := state.now } else none

@[simp] theorem age_construct (now : DateTime) : (construct now).age = 0 := Int.sub_self _

theorem age_kept : Runs.Keeps step Runs.Free fun state => 0 ≤ state.age ∧ state.age ≤ timerSeconds * 1000000 := by
  intro before event after young _ stepped
  cases event with
  | pass later =>
    simp only [step] at stepped
    split at stepped
    next passes =>
      cases stepped
      refine ⟨?_, passes.2⟩
      have first := young.1
      unfold State.age at first ⊢
      dsimp only
      omega
    next => cases stepped
  | reload =>
    simp only [step] at stepped
    split at stepped <;> cases stepped
    unfold State.age timerSeconds
    dsimp only
    omega

end Clubzey.Systems.QrDisplay
