import Clubzey.Systems.TimerLabel

/-! When the countdown stands still. The timer is cancelled for the club shown at the
time, and nothing starts it again for a later one. -/

namespace Clubzey.Proofs.Countdown
open Dart Utils Foundation Systems.TimerLabel

/-- A cancelled timer of a mounted label means that the draw is over. -/
def Running (state : State) : Prop :=
  state.mounted = true → state.timerActive = false →
    state.drawDate.microsecondsSinceEpoch < state.now.microsecondsSinceEpoch

/-- A club that arrives after the timer has been cancelled has a draw that is over too. -/
def Timely (state : State) : Event → Prop
  | .update drawDate => state.mounted = true → state.timerActive = false →
      drawDate.microsecondsSinceEpoch < state.now.microsecondsSinceEpoch
  | _ => True

structure Valid (state : State) : Prop where
  stopped : state.mounted = true → state.drawEnded = true → state.timerActive = false
  newest : ∀ index call, state.snapshot.future = some index → state.calls[index]? = some call →
    call.drawDate = state.drawDate

theorem build_valid (state : State) : Valid state.build := by
  refine ⟨?_, ?_⟩
  · intro _ ended
    simp only [State.build, builder_drawEnded] at ended
    simp only [State.build, builder_timerActive, ended, Bool.not_true, Bool.and_false]
  · intro index call newest found
    rw [build_newest newest found]
    simp only [State.build, builder_drawDate]

private theorem complete_valid {state : State} {index : Nat} {call : Call} {text : Option String}
    (valid : Valid state) (found : state.calls[index]? = some call) :
    Valid (state.complete index call text) := by
  have asked : ∀ other answered, state.snapshot.future = some other →
      (state.calls.set index { call with answered := true })[other]? = some answered →
      answered.drawDate = state.drawDate := by
    intro other answered newest member
    rw [List.getElem?_set] at member
    split at member
    next same =>
      subst same
      split at member
      · cases member
        exact valid.newest index call newest found
      · cases member
    next => exact valid.newest other answered newest member
  unfold State.complete
  dsimp only
  split
  next current =>
    refine ⟨?_, ?_⟩
    · intro _ ended
      rw [builder_drawEnded] at ended
      simp only [builder_timerActive, ended, Bool.not_true, Bool.and_false]
    · intro other answered newest member
      simp only [builder_snapshot, builder_calls, builder_drawDate] at newest member ⊢
      apply asked other answered _ member
      cases text <;> simpa [fail, Systems.Invitation.FutureBuilder.complete, current.2] using newest
  next => exact ⟨valid.stopped, asked⟩

theorem preserved : Runs.Keeps step Runs.Free Valid := by
  intro before event after valid _ stepped
  cases step_transition stepped with
  | pass => exact ⟨valid.stopped, valid.newest⟩
  | tick => exact build_valid before
  | answer found => exact complete_valid valid found
  | fail found => exact complete_valid valid found
  | update => exact build_valid _
  | dispose => exact ⟨fun _ _ => rfl, valid.newest⟩

/-- The label listens to the answer for the club it shows, so an answer that ends the
countdown is about this club's draw. -/
private theorem complete_running {state : State} {index : Nat} {call : Call} {text : Option String}
    (valid : Valid state) (running : Running state) (found : state.calls[index]? = some call)
    (past : text = some "Draw ended" → call.drawDate.microsecondsSinceEpoch < state.now.microsecondsSinceEpoch) :
    Running (state.complete index call text) := by
  unfold State.complete
  dsimp only
  split
  next current =>
    intro mounted stopped
    simp only [builder_mounted] at mounted
    simp only [builder_timerActive, builder_drawDate, builder_now, Bool.and_eq_false_iff] at stopped ⊢
    rcases stopped with before | ended
    · exact running mounted before
    · have same := valid.newest index call current.2 found
      rw [← same]
      apply past
      cases text with
      | none => simp [State.drawEnded, fail, current.2] at ended
      | some text => simpa [State.drawEnded, Systems.Invitation.FutureBuilder.complete, current.2] using ended
  next => exact running

/-- The call read the clock no later than now. -/
private theorem answer_running {state : State} {index : Nat} {call : Call} {readAt : DateTime} (valid : Valid state)
    (running : Running state) (found : state.calls[index]? = some call)
    (past : readAt.microsecondsSinceEpoch ≤ state.now.microsecondsSinceEpoch) :
    Running (state.complete index call (formatDuration readAt call.drawDate).toOption) := by
  apply complete_running valid running found
  intro text
  have ended : formatDuration readAt call.drawDate = .ok "Draw ended" := by
    cases result : formatDuration readAt call.drawDate with
    | error thrown =>
      rw [result] at text
      cases text
    | ok shown =>
      rw [result] at text
      cases text
      rfl
  exact Int.lt_of_lt_of_le (formatDuration_ended.mp ended) past

/-- The timer is left as it is, whatever the draw of the new club. -/
private theorem update_running {state : State} {drawDate : DateTime} (valid : Valid state)
    (mounted : state.mounted = true) :
    Running (State.build { state with drawDate }) ↔ Timely state (.update drawDate) := by
  have timer : (State.build { state with drawDate }).timerActive = state.timerActive :=
    build_timerActive (valid.stopped mounted)
  unfold Running Timely
  rw [timer]
  simp only [State.build, builder_mounted, builder_drawDate, builder_now]

private theorem step_running (state : State) (event : Event) (next : State) (valid : Valid state)
    (running : Running state) (stepped : step state event = some next) : Running next ↔ Timely state event := by
  cases step_transition stepped with
  | pass passes =>
    refine ⟨fun _ => trivial, ?_⟩
    intro _ mounted stopped
    exact Int.lt_of_lt_of_le (running mounted stopped) passes
  | tick active =>
    refine ⟨fun _ => trivial, ?_⟩
    intro _ mounted stopped
    simp only [State.build, builder_mounted] at mounted
    rw [build_timerActive (valid.stopped mounted), active] at stopped
    cases stopped
  | answer found _ _ past => exact ⟨fun _ => trivial, fun _ => answer_running valid running found past⟩
  | fail found =>
    refine ⟨fun _ => trivial, ?_⟩
    intro _
    apply complete_running valid running found
    intro text
    cases text
  | update mounted => exact update_running valid mounted
  | dispose =>
    refine ⟨fun _ => trivial, ?_⟩
    intro _ mounted
    cases mounted

private theorem disabled_timely (state : State) (event : Event) (disabled : step state event = none) :
    Timely state event := by
  cases event with
  | update drawDate =>
    intro mounted
    simp [step, mounted] at disabled
  | _ => trivial

/-- The countdown of a mounted label stands still before a draw in no state of a run
exactly when every club that arrives after a draw has ended has a draw that is over. -/
theorem never_frozen_iff (now drawDate : DateTime) (events : List Event) :
    Runs.Throughout step Running (initial now drawDate) events ↔
      Runs.Meets step Timely (initial now drawDate) events := by
  have start : (initial now drawDate).timerActive = true := by
    apply build_timerActive
    intro ended
    simp [State.drawEnded] at ended
  apply preserved.throughout_iff step_running disabled_timely (build_valid _)
  change Running (initial now drawDate)
  intro _ stopped
  rw [start] at stopped
  cases stopped

theorem complete_cancelled {state : State} (cancelled : state.timerActive = false) (index : Nat) (call : Call)
    (text : Option String) : (state.complete index call text).timerActive = false := by
  unfold State.complete
  dsimp only
  split
  · simp only [builder_timerActive, cancelled, Bool.false_and]
  · exact cancelled

theorem cancelled_stays : Runs.Keeps step Runs.Free fun state => state.timerActive = false := by
  intro before event after cancelled _ stepped
  cases step_transition stepped with
  | pass => exact cancelled
  | tick active =>
    rw [cancelled] at active
    cases active
  | answer | fail => exact complete_cancelled cancelled _ _ _
  | update => simp only [State.build, builder_timerActive, cancelled, Bool.false_and]
  | dispose => rfl

def firstDraw : DateTime := ⟨1646136000000000, DateTime.march_inRange⟩

def afterDraw : DateTime := ⟨1646136001000000, by decide⟩

def nextDraw : DateTime := ⟨1648814400000000, DateTime.april_inRange⟩

theorem next_draw_frozen : ¬ ∀ now drawDate events, Runs.Throughout step Running (initial now drawDate) events := by
  intro always
  let events : List Event := [.pass afterDraw, .tick, .answer 1 afterDraw, .update nextDraw]
  have facts : (Runs.run step (initial firstDraw firstDraw) events).map (fun state =>
      (state.mounted, state.timerActive, decide (state.drawDate.microsecondsSinceEpoch <
        state.now.microsecondsSinceEpoch))) = some (true, false, false) := by
    decide
  obtain ⟨state, ran, facts⟩ := Option.map_eq_some_iff.mp facts
  obtain ⟨mounted, facts⟩ := Prod.mk.inj facts
  obtain ⟨cancelled, pending⟩ := Prod.mk.inj facts
  have past := always firstDraw firstDraw events events [] state (List.append_nil _).symm ran mounted cancelled
  exact of_decide_eq_false pending past

end Clubzey.Proofs.Countdown
