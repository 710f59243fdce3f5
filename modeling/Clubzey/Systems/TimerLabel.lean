import Clubzey.Systems.Invitation
import Clubzey.Utils.Helper

/-! One State of TimerLabel. Every build calls formatDuration anew; its periodic timer,
the answers of these calls and new clubs from the page's stream arrive in any order. -/

namespace Clubzey.Systems.TimerLabel
open Dart Utils Foundation Invitation

structure Call where
  drawDate : DateTime
  created : DateTime
  answered : Bool := false

/-- A future that completes with an error leaves the FutureBuilder without data. -/
def fail (builder : FutureBuilder) (future : Nat) : FutureBuilder :=
  if builder.future = some future then { builder with data := none } else builder

structure State where
  now : DateTime
  /-- `widget.club.getDrawDate`. -/
  drawDate : DateTime
  mounted : Bool := true
  /-- `_timer.isActive`. -/
  timerActive : Bool := true
  calls : List Call := []
  snapshot : FutureBuilder := {}

inductive Event where
  | pass (later : DateTime)
  | tick
  | answer (call : Nat) (readAt : DateTime)
  | fail (call : Nat)
  | update (drawDate : DateTime)
  | dispose

def State.drawEnded (state : State) : Bool := state.snapshot.data.getD "" == "Draw ended"

def State.builder (state : State) : State :=
  if state.drawEnded then { state with timerActive := false } else state

def State.build (state : State) : State :=
  let asked : State :=
    { state with
      calls := state.calls ++ [{ drawDate := state.drawDate, created := state.now }]
      snapshot := state.snapshot.update state.calls.length }
  asked.builder

def initial (now drawDate : DateTime) : State := State.build { now, drawDate }

def State.complete (state : State) (index : Nat) (call : Call) (text : Option String) : State :=
  let answered : State := { state with calls := state.calls.set index { call with answered := true } }
  if state.mounted ∧ state.snapshot.future = some index then
    let shown : State :=
      { answered with
        snapshot := match text with
          | some text => state.snapshot.complete index text
          | none => fail state.snapshot index }
    shown.builder
  else answered

def step (state : State) : Event → Option State
  | .pass later => if state.now.microsecondsSinceEpoch ≤ later.microsecondsSinceEpoch then
      some { state with now := later } else none
  | .tick => if state.timerActive then some state.build else none
  | .answer index readAt =>
    match state.calls[index]? with
    | none => none
    | some call =>
      if ¬ call.answered ∧ call.created.microsecondsSinceEpoch ≤ readAt.microsecondsSinceEpoch ∧
          readAt.microsecondsSinceEpoch ≤ state.now.microsecondsSinceEpoch then
        some (state.complete index call (formatDuration readAt call.drawDate).toOption)
      else none
  | .fail index =>
    match state.calls[index]? with
    | none => none
    | some call => if call.answered then none else some (state.complete index call none)
  | .update drawDate => if state.mounted then some (State.build { state with drawDate }) else none
  | .dispose => if state.mounted then some { state with mounted := false, timerActive := false } else none

/-- What an event needs when it happens, and what it leaves behind. -/
inductive Transition (state : State) : Event → State → Prop where
  | pass {later : DateTime} (passes : state.now.microsecondsSinceEpoch ≤ later.microsecondsSinceEpoch) :
      Transition state (.pass later) { state with now := later }
  | tick (active : state.timerActive = true) : Transition state .tick state.build
  | answer {index : Nat} {readAt : DateTime} {call : Call} (found : state.calls[index]? = some call)
      (waiting : ¬ call.answered)
      (after : call.created.microsecondsSinceEpoch ≤ readAt.microsecondsSinceEpoch)
      (past : readAt.microsecondsSinceEpoch ≤ state.now.microsecondsSinceEpoch) :
      Transition state (.answer index readAt)
        (state.complete index call (formatDuration readAt call.drawDate).toOption)
  | fail {index : Nat} {call : Call} (found : state.calls[index]? = some call) (waiting : ¬ call.answered) :
      Transition state (.fail index) (state.complete index call none)
  | update {drawDate : DateTime} (mounted : state.mounted = true) :
      Transition state (.update drawDate) (State.build { state with drawDate })
  | dispose (mounted : state.mounted = true) :
      Transition state .dispose { state with mounted := false, timerActive := false }

theorem step_transition {state next : State} {event : Event} (stepped : step state event = some next) :
    Transition state event next := by
  cases event with
  | pass later =>
    obtain ⟨passes, same⟩ := Option.ite_none_right_eq_some.mp stepped
    cases same
    exact .pass passes
  | tick =>
    obtain ⟨active, same⟩ := Option.ite_none_right_eq_some.mp stepped
    cases same
    exact .tick active
  | answer index readAt =>
    simp only [step] at stepped
    split at stepped
    · cases stepped
    next call found =>
      obtain ⟨⟨waiting, after, past⟩, same⟩ := Option.ite_none_right_eq_some.mp stepped
      cases same
      exact .answer found waiting after past
  | fail index =>
    simp only [step] at stepped
    split at stepped
    · cases stepped
    next call found =>
      obtain ⟨waiting, same⟩ := Option.ite_none_left_eq_some.mp stepped
      cases same
      exact .fail found waiting
  | update drawDate =>
    obtain ⟨mounted, same⟩ := Option.ite_none_right_eq_some.mp stepped
    cases same
    exact .update mounted
  | dispose =>
    obtain ⟨mounted, same⟩ := Option.ite_none_right_eq_some.mp stepped
    cases same
    exact .dispose mounted

@[simp] theorem builder_now (state : State) : state.builder.now = state.now := by
  unfold State.builder
  split <;> rfl

@[simp] theorem builder_drawDate (state : State) : state.builder.drawDate = state.drawDate := by
  unfold State.builder
  split <;> rfl

@[simp] theorem builder_mounted (state : State) : state.builder.mounted = state.mounted := by
  unfold State.builder
  split <;> rfl

@[simp] theorem builder_calls (state : State) : state.builder.calls = state.calls := by
  unfold State.builder
  split <;> rfl

@[simp] theorem builder_snapshot (state : State) : state.builder.snapshot = state.snapshot := by
  unfold State.builder
  split <;> rfl

@[simp] theorem builder_drawEnded (state : State) : state.builder.drawEnded = state.drawEnded := by
  rw [State.drawEnded, builder_snapshot, State.drawEnded]

@[simp] theorem builder_timerActive (state : State) :
    state.builder.timerActive = (state.timerActive && !state.drawEnded) := by
  unfold State.builder
  cases ended : state.drawEnded <;> simp

theorem build_newest {state : State} {index : Nat} {call : Call}
    (newest : state.build.snapshot.future = some index) (found : state.build.calls[index]? = some call) :
    call.drawDate = state.drawDate := by
  simp only [State.build, builder_snapshot, builder_calls] at newest found
  cases newest
  rw [List.getElem?_concat_length] at found
  cases found
  rfl

/-- A rebuild shows the text of the last answer, so it leaves a timer running that this
text has not stopped before. -/
theorem build_timerActive {state : State} (stopped : state.drawEnded = true → state.timerActive = false) :
    state.build.timerActive = state.timerActive := by
  have same : ∀ active ended : Bool, (ended = true → active = false) → (active && !ended) = active := by decide
  rw [State.build, builder_timerActive]
  exact same _ _ stopped

end Clubzey.Systems.TimerLabel
