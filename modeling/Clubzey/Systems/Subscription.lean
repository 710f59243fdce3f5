import Clubzey.Foundation.Runs
import Clubzey.Backend.TopicSubscription

/-! Any number of runs of calculateSubscription on one device. A run is four
events, between which other runs, logins and logouts may come. Any part of the
requests that a run issues may fail. -/

namespace Clubzey.Systems.Subscription
open Dart Backend Foundation

inductive Phase where
  | idle
  | listed (new : List String)
  | loaded (new old : List String)
  | issued (new : List String)
  | finished
  | thrown (error : Thrown)
  deriving DecidableEq

namespace Phase

def InFlight : Phase → Prop
  | .listed _ | .loaded _ _ | .issued _ => True
  | _ => False

/-- `FirebaseAuth.instance.currentUser!.email` and the answer to its query. -/
def list (currentUser : Option String) (snapshot : Except Thrown (List Fields)) : Phase :=
  match currentUser, newSubscriptions snapshot with
  | none, _ => .thrown .nullCheck
  | some _, .error error => .thrown error
  | some _, .ok new => .listed new

end Phase

structure State where
  device : Device := {}
  currentUser : Option String := none
  runs : Nat → Phase := fun _ => .idle

inductive Event where
  | signIn (email : String)
  | signOut
  | deleteToken
  | list (run : Nat) (snapshot : Except Thrown (List Fields))
  | load (run : Nat)
  | issue (run : Nat) (served : List (Request String))
  | put (run : Nat)

namespace State

def move (state : State) (run : Nat) (phase : Phase) : State :=
  { state with runs := Function.update state.runs run phase }

def issue (state : State) (run : Nat) (new : List String) (served : List (Request String)) : State :=
  { state.move run (.issued new) with device := state.device.perform served }

def put (state : State) (run : Nat) (new : List String) : State :=
  { state.move run .finished with device := state.device.put new }

def Quiet (state : State) : Prop := ∀ run, ¬ (state.runs run).InFlight

end State

def step (state : State) : Event → Option State
  | .signIn email => some { state with currentUser := some email }
  | .signOut => some { state with currentUser := none }
  | .deleteToken => some { state with device := state.device.deleteToken }
  | .list run snapshot =>
    if state.runs run = .idle then some (state.move run (.list state.currentUser snapshot)) else none
  | .load run =>
    match state.runs run with
    | .listed new => some (state.move run (.loaded new state.device.subscriptionMembersList))
    | _ => none
  | .issue run served =>
    match state.runs run with
    | .loaded new old => if served.Sublist (requests old new) then some (state.issue run new served) else none
    | _ => none
  | .put run =>
    match state.runs run with
    | .issued new => some (state.put run new)
    | _ => none

inductive Transition (state : State) : Event → State → Prop where
  | signedIn (email) : Transition state (.signIn email) { state with currentUser := some email }
  | signedOut : Transition state .signOut { state with currentUser := none }
  | tokenDeleted : Transition state .deleteToken { state with device := state.device.deleteToken }
  | listed (run snapshot) (idle : state.runs run = .idle) :
      Transition state (.list run snapshot) (state.move run (.list state.currentUser snapshot))
  | loaded (run new) (listed : state.runs run = .listed new) :
      Transition state (.load run) (state.move run (.loaded new state.device.subscriptionMembersList))
  | issued (run new old served) (loaded : state.runs run = .loaded new old)
      (sublist : served.Sublist (requests old new)) :
      Transition state (.issue run served) (state.issue run new served)
  | put (run new) (issued : state.runs run = .issued new) : Transition state (.put run) (state.put run new)

theorem transition {state after : State} {event : Event} (stepped : step state event = some after) :
    Transition state event after := by
  cases event with
  | signIn email =>
    cases stepped
    exact .signedIn email
  | signOut =>
    cases stepped
    exact .signedOut
  | deleteToken =>
    cases stepped
    exact .tokenDeleted
  | list run snapshot =>
    by_cases idle : state.runs run = .idle
    · simp only [step, idle, ite_true, Option.some.injEq] at stepped
      exact stepped ▸ .listed run snapshot idle
    · simp only [step, idle, ite_false, reduceCtorEq] at stepped
  | load run =>
    cases phase : state.runs run <;> simp only [step, phase, reduceCtorEq] at stepped
    case listed new =>
      cases stepped
      exact .loaded run new phase
  | issue run served =>
    cases phase : state.runs run <;> simp only [step, phase, reduceCtorEq] at stepped
    case loaded new old =>
      by_cases sublist : served.Sublist (requests old new)
      · simp only [sublist, ite_true, Option.some.injEq] at stepped
        exact stepped ▸ .issued run new old served phase sublist
      · simp only [sublist, ite_false, reduceCtorEq] at stepped
  | put run =>
    cases phase : state.runs run <;> simp only [step, phase, reduceCtorEq] at stepped
    case issued new =>
      cases stepped
      exact .put run new phase

theorem step_listed {state : State} {run : Nat} {snapshot : Except Thrown (List Fields)} {email : String}
    {new : List String} (idle : state.runs run = .idle) (signed : state.currentUser = some email)
    (listed : newSubscriptions snapshot = .ok new) :
    step state (.list run snapshot) = some (state.move run (.listed new)) := by
  simp only [step, idle, ite_true, Phase.list, signed, listed]

theorem step_loaded {state : State} {run : Nat} {new : List String} (listed : state.runs run = .listed new) :
    step state (.load run) = some (state.move run (.loaded new state.device.subscriptionMembersList)) := by
  simp only [step, listed]

theorem step_issued {state : State} {run : Nat} {new old : List String} {served : List (Request String)}
    (loaded : state.runs run = .loaded new old) (sublist : served.Sublist (requests old new)) :
    step state (.issue run served) = some (state.issue run new served) := by
  simp only [step, loaded, sublist, ite_true]

theorem step_put {state : State} {run : Nat} {new : List String} (issued : state.runs run = .issued new) :
    step state (.put run) = some (state.put run new) := by
  simp only [step, issued]

@[simp] theorem move_same (state : State) (run : Nat) (phase : Phase) :
    (state.move run phase).runs run = phase := Function.update_self ..

theorem move_other (state : State) {run other : Nat} (phase : Phase) (different : other ≠ run) :
    (state.move run phase).runs other = state.runs other := Function.update_of_ne different ..

theorem move_cases {state : State} {run other : Nat} {phase found : Phase}
    (stands : (state.move run phase).runs other = found) :
    other = run ∧ phase = found ∨ other ≠ run ∧ state.runs other = found := by
  by_cases same : other = run
  · subst other
    exact Or.inl ⟨rfl, (move_same ..).symm.trans stands⟩
  · exact Or.inr ⟨same, (move_other state phase same).symm.trans stands⟩

theorem move_before {state : State} {run other : Nat} {phase found : Phase}
    (stands : (state.move run phase).runs other = found) (different : phase ≠ found) :
    state.runs other = found := by
  rcases move_cases stands with ⟨_, same⟩ | ⟨_, before⟩
  · exact absurd same different
  · exact before

@[simp] theorem move_device (state : State) (run : Nat) (phase : Phase) :
    (state.move run phase).device = state.device := rfl

@[simp] theorem issue_runs (state : State) (run : Nat) (new : List String) (served : List (Request String)) :
    (state.issue run new served).runs = (state.move run (.issued new)).runs := rfl

@[simp] theorem issue_device (state : State) (run : Nat) (new : List String) (served : List (Request String)) :
    (state.issue run new served).device = state.device.perform served := rfl

@[simp] theorem put_runs (state : State) (run : Nat) (new : List String) :
    (state.put run new).runs = (state.move run .finished).runs := rfl

@[simp] theorem put_device (state : State) (run : Nat) (new : List String) :
    (state.put run new).device = state.device.put new := rfl

def eventsOf (run : Nat) (snapshot : Except Thrown (List Fields)) (served : List (Request String)) : List Event :=
  [.list run snapshot, .load run, .issue run served, .put run]

/-- A run that nothing comes between, with every request served, does to the device
what calculateSubscription does. -/
theorem run_alone {state : State} {run : Nat} {snapshot : Except Thrown (List Fields)} {email : String}
    {new : List String} (idle : state.runs run = .idle) (signed : state.currentUser = some email)
    (listed : newSubscriptions snapshot = .ok new) :
    (Runs.run step state (eventsOf run snapshot (requests state.device.subscriptionMembersList new))).map State.device =
      some (calculateSubscription state.device state.currentUser snapshot).2 := by
  have loaded : step (state.move run (.listed new)) (.load run) = some
      ((state.move run (.listed new)).move run (.loaded new state.device.subscriptionMembersList)) :=
    step_loaded (move_same ..)
  rw [eventsOf, Runs.run_first (step_listed idle signed listed), Runs.run_first loaded,
    Runs.run_first (step_issued (move_same ..) (List.Sublist.refl _)),
    Runs.run_first (step_put (by rw [issue_runs, move_same])), Runs.run_nil, Option.map_some]
  simp only [put_device, issue_device, move_device, calculateSubscription, signed, listed]

def clubDocument (id : String) : Fields := Collection.set ∅ "id" (.string id)

def clubsOf (ids : List String) : Except Thrown (List Fields) := .ok (ids.map clubDocument)

end Clubzey.Systems.Subscription
