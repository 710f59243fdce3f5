import Clubzey.Systems.Subscription

/-! One run that is killed between two of its steps, or some of whose requests fail.
The subscribes go out before the list is put, and the list is put whatever became of
the unsubscribes. -/

namespace Clubzey.Proofs.TopicRecovery
open Dart Backend Foundation Systems.Subscription

/-- When a run that is killed after so many steps leaves every topic on the list. -/
def Recoverable (device : Device) (new : List String) (served : List (Request String)) (steps : Nat) : Prop :=
  if steps < 3 then True
  else if steps = 3 then
    ∀ topic, subscribeToTopic topic ∈ served → topic ∈ device.subscriptionMembersList
  else ∀ topic ∈ device.topics, topic ∉ new → unsubscribeFromTopic topic ∈ served

private theorem issued_recorded {device : Device} (recorded : device.Recorded) {new : List String}
    {served : List (Request String)} (sublist : served.Sublist (requests device.subscriptionMembersList new)) :
    (device.perform served).Recorded ↔
      ∀ topic, subscribeToTopic topic ∈ served → topic ∈ device.subscriptionMembersList := by
  constructor
  · intro after topic subscribe
    exact after topic ((mem_perform_served sublist topic).mpr (Or.inl subscribe))
  · intro listed topic member
    rcases (mem_perform_served sublist topic).mp member with subscribe | ⟨before, _⟩
    · exact listed topic subscribe
    · exact recorded topic before

private theorem put_recorded {device : Device} {new : List String} {served : List (Request String)}
    (sublist : served.Sublist (requests device.subscriptionMembersList new)) :
    ((device.perform served).put new).Recorded ↔
      ∀ topic ∈ device.topics, topic ∉ new → unsubscribeFromTopic topic ∈ served := by
  constructor
  · intro after topic before unlisted
    by_contra unserved
    exact unlisted (after topic ((mem_perform_served sublist topic).mpr (Or.inr ⟨before, unserved⟩)))
  · intro unsubscribed topic member
    rcases (mem_perform_served sublist topic).mp member with subscribe | ⟨before, unserved⟩
    · exact mem_requests_subscribe.mp (sublist.subset subscribe)
    · by_contra unlisted
      exact unserved (unsubscribed topic before unlisted)

/-- Exactly when an interrupted run can be made good by the next one. -/
theorem interrupted_recorded {state : State} {run : Nat} {snapshot : Except Thrown (List Fields)} {email : String}
    {new : List String} {served : List (Request String)} (recorded : state.device.Recorded)
    (idle : state.runs run = .idle) (signed : state.currentUser = some email)
    (listed : newSubscriptions snapshot = .ok new)
    (sublist : served.Sublist (requests state.device.subscriptionMembersList new)) (steps : Nat) :
    ∃ after, Runs.run step state ((eventsOf run snapshot served).take steps) = some after ∧
      (after.device.Recorded ↔ Recoverable state.device new served steps) := by
  have first := step_listed idle signed listed
  obtain ⟨waiting, waitingIs⟩ : ∃ waiting, waiting = state.move run (.listed new) := ⟨_, rfl⟩
  have second : step waiting (.load run) = some (waiting.move run (.loaded new state.device.subscriptionMembersList)) := by
    rw [waitingIs]
    exact step_loaded (move_same ..)
  obtain ⟨ready, readyIs⟩ : ∃ ready, ready = waiting.move run (.loaded new state.device.subscriptionMembersList) :=
    ⟨_, rfl⟩
  have third : step ready (.issue run served) = some (ready.issue run new served) := by
    rw [readyIs]
    exact step_issued (move_same ..) sublist
  have fourth : step (ready.issue run new served) (.put run) = some ((ready.issue run new served).put run new) :=
    step_put (move_same ..)
  have device : waiting.device = state.device ∧ ready.device = state.device := by
    rw [readyIs, waitingIs]
    exact ⟨rfl, rfl⟩
  rw [← waitingIs] at first
  rw [← readyIs] at second
  match steps with
  | 0 => exact ⟨state, rfl, by simp [Recoverable, recorded]⟩
  | 1 =>
    refine ⟨waiting, Runs.run_first first, ?_⟩
    rw [device.1]
    simp [Recoverable, recorded]
  | 2 =>
    refine ⟨ready, (Runs.run_first first).trans (Runs.run_first second), ?_⟩
    rw [device.2]
    simp [Recoverable, recorded]
  | 3 =>
    refine ⟨ready.issue run new served,
      (Runs.run_first first).trans ((Runs.run_first second).trans (Runs.run_first third)), ?_⟩
    rw [issue_device, device.2, issued_recorded recorded sublist]
    rfl
  | more + 4 =>
    refine ⟨(ready.issue run new served).put run new, ?_, ?_⟩
    · simp only [eventsOf, List.take_succ_cons, List.take_nil]
      rw [Runs.run_first first, Runs.run_first second, Runs.run_first third, Runs.run_first fourth, Runs.run_nil]
    · rw [put_device, issue_device, device.2, put_recorded sublist]
      simp [Recoverable]

def subscribed : State where
  device := ⟨{"c1"}, some ["c1"]⟩
  currentUser := some "ann@example.com"

/-- She has left c1 for c2, and the app is killed once both requests are served. -/
theorem interrupted_after_move : ∃ after,
    Runs.run step subscribed ((eventsOf 0 (clubsOf ["c2"]) [unsubscribeFromTopic "c1"]).take 3) = some after ∧
      (after.device.Recorded ↔ Recoverable subscribed.device ["c2"] [unsubscribeFromTopic "c1"] 3) := by
  have recorded : subscribed.device.Recorded := by decide
  have listed : newSubscriptions (clubsOf ["c2"]) = .ok ["c2"] := rfl
  have sublist : [unsubscribeFromTopic "c1"].Sublist (requests subscribed.device.subscriptionMembersList ["c2"]) := by
    decide
  exact interrupted_recorded recorded rfl rfl listed sublist 3

/-- The unsubscribe of the club she left fails, and the list is put without it. -/
theorem failed_unsubscribe_forgotten : ¬ ∀ state run snapshot email new served, state.device.Recorded →
    state.runs run = .idle → state.currentUser = some email → newSubscriptions snapshot = .ok new →
    served.Sublist (requests state.device.subscriptionMembersList new) → ∀ steps after,
    Runs.run step state ((eventsOf run snapshot served).take steps) = some after → after.device.Recorded := by
  intro always
  have recorded : subscribed.device.Recorded := by decide
  have listed : newSubscriptions (clubsOf []) = .ok [] := rfl
  have ran : Runs.run step subscribed ((eventsOf 0 (clubsOf []) []).take 4) = some
      ((((subscribed.move 0 (.listed [])).move 0 (.loaded [] ["c1"])).issue 0 [] []).put 0 []) := rfl
  have left := always subscribed 0 (clubsOf []) "ann@example.com" [] [] recorded rfl rfl listed
    (List.nil_sublist _) 4 _ ran
  exact absurd left (by decide)

end Clubzey.Proofs.TopicRecovery
