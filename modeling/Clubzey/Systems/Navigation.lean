import Clubzey.Foundation.Runs
import Clubzey.Views.Dashboard

/-! The pages of the app over a whole run: who is signed in, the stack of routes,
and the listeners for foreground messages. A Dashboard adds a listener when it is
mounted and none is ever cancelled. -/

namespace Clubzey.Systems.Navigation
open Dart Views Foundation

/-- The routes on the navigator. `sheet` is the bottom sheet of CreateClub with its
Continue button, `page` any other route, from which no Dashboard is reached. -/
inductive Route where
  | splash
  | login
  | home
  | dashboard (mountedFor : Option String)
  | setting
  | createClub
  | sheet
  | joinWithCode
  | page
  deriving DecidableEq

def Route.hasLogout : Route → Bool
  | .setting | .dashboard _ => true
  | _ => false

structure State where
  currentUser : Option String
  routes : List Route := [.splash]
  /-- The e-mails that the listeners captured, latest first. -/
  listeners : List String := []
  /-- How many presses of Log In and Log out wait for their request. -/
  signingIn : Nat := 0
  signingOut : Nat := 0
  /-- How many presses of Log out are past `signOut` and delete the token. -/
  deletingToken : Nat := 0

def launch (currentUser : Option String) : State := { currentUser }

inductive Event where
  | checkLoggedIn
  | logIn
  | signIn (email : String)
  | openSetting
  | openCreateClub
  | openSheet
  | openJoinWithCode
  | openPage
  | continueClub
  | joined
  | pop
  | logout
  | signOut
  | deleteToken

namespace State

/-- `initMessaging` throws before it listens when nobody is signed in. -/
def mountDashboard (state : State) (below : List Route) : State :=
  { state with
    routes := .dashboard state.currentUser :: below
    listeners := state.currentUser.toList ++ state.listeners }

def push (state : State) (route : Route) : State := { state with routes := route :: state.routes }

def badges (state : State) (message : RemoteMessage) : List NotificationBadge :=
  state.listeners.filterMap fun email => (notificationBadge email message).toOption

/-- The rest of the Log In handler, after the account has been created. It goes on
after its page has been covered, and then takes the route on top away; once the page
is gone its context finds no navigator. -/
def signedIn (state : State) (email : String) : State :=
  let signed := { state with currentUser := some email, signingIn := state.signingIn - 1 }
  if .login ∈ state.routes then signed.mountDashboard state.routes.tail else signed

def tokenDeleted (state : State) : State :=
  let left := if state.routes.any Route.hasLogout then [.login] else state.routes
  { state with routes := left, deletingToken := state.deletingToken - 1 }

end State

/-- Which routes an event needs and what it leaves on the navigator. The tabs of a
Dashboard are HomePage and SettingPage, so it has the buttons of both. -/
def step (state : State) : Event → Option State
  | .checkLoggedIn =>
    if state.routes = [.splash] then
      some { state with routes := [if state.currentUser.isSome then .home else .login] }
    else none
  | .logIn =>
    if state.routes.head? = some .login then some { state with signingIn := state.signingIn + 1 } else none
  | .signIn email => if state.signingIn = 0 then none else some (state.signedIn email)
  | .openSetting =>
    match state.routes with
    | .home :: _ | .dashboard _ :: _ | .createClub :: _ => some (state.push .setting)
    | _ => none
  | .openCreateClub =>
    match state.routes with
    | .home :: _ | .dashboard _ :: _ => some (state.push .createClub)
    | _ => none
  | .openSheet => if state.routes.head? = some .createClub then some (state.push .sheet) else none
  | .openJoinWithCode => if state.routes.head? = some .createClub then some (state.push .joinWithCode) else none
  -- A badge opens club details from every page.
  | .openPage => if state.routes = [.splash] then none else some (state.push .page)
  | .continueClub =>
    match state.routes with
    | .sheet :: below => some (state.mountDashboard below)
    | _ => none
  | .joined => if .joinWithCode ∈ state.routes then some (state.mountDashboard state.routes) else none
  | .pop =>
    match state.routes with
    | _ :: route :: below => some { state with routes := route :: below }
    | _ => none
  | .logout =>
    if state.routes.head?.any Route.hasLogout then some { state with signingOut := state.signingOut + 1 } else none
  | .signOut =>
    if state.signingOut = 0 then none
    else some { state with
      currentUser := none, signingOut := state.signingOut - 1, deletingToken := state.deletingToken + 1 }
  | .deleteToken => if state.deletingToken = 0 then none else some state.tokenDeleted

def mountedBy (state : State) : Event → List String
  | .signIn email => if .login ∈ state.routes then [email] else []
  | .continueClub | .joined => state.currentUser.toList
  | _ => []

def mounts : State → List Event → List String
  | _, [] => []
  | state, event :: events =>
    mountedBy state event ++ match step state event with
      | some next => mounts next events
      | none => []

/-- A listener is added for every Dashboard that is mounted and every other is kept;
a Dashboard on the navigator was there before or is the one mounted. -/
structure Effect (mounted : List String) (before after : State) : Prop where
  listeners : after.listeners = mounted ++ before.listeners
  dashboards : ∀ email, .dashboard (some email) ∈ after.routes →
    .dashboard (some email) ∈ before.routes ∨ email ∈ mounted

theorem mountDashboard_effect {state : State} {below : List Route} (kept : below ⊆ state.routes) :
    Effect state.currentUser.toList state (state.mountDashboard below) := by
  refine ⟨rfl, ?_⟩
  intro email member
  rcases List.mem_cons.mp member with mounted | earlier
  · right
    rw [← Route.dashboard.inj mounted]
    exact List.mem_singleton_self email
  · exact Or.inl (kept earlier)

theorem signedIn_effect (state : State) (email : String) :
    Effect (mountedBy state (.signIn email)) state (state.signedIn email) := by
  let signed := { state with currentUser := some email, signingIn := state.signingIn - 1 }
  have kept : state.routes.tail ⊆ signed.routes := (List.tail_sublist state.routes).subset
  rw [State.signedIn, mountedBy]
  split
  · exact ⟨rfl, (mountDashboard_effect kept).dashboards⟩
  · exact ⟨rfl, fun _ member => Or.inl member⟩

theorem tokenDeleted_effect (state : State) : Effect [] state state.tokenDeleted := by
  refine ⟨rfl, ?_⟩
  intro email member
  simp only [State.tokenDeleted] at member
  split at member
  · exact absurd member (by simp)
  · exact Or.inl member

theorem push_effect {route : Route} (state : State) (other : ∀ email, route ≠ .dashboard (some email)) :
    Effect [] state (state.push route) := by
  refine ⟨rfl, ?_⟩
  intro email member
  rcases List.mem_cons.mp member with now | earlier
  · exact absurd now.symm (other email)
  · exact Or.inl earlier

theorem step_effect {state next : State} {event : Event} (stepped : step state event = some next) :
    Effect (mountedBy state event) state next := by
  cases event with
  | signIn email =>
    simp only [step] at stepped
    split at stepped <;> cases stepped
    exact signedIn_effect state email
  | continueClub =>
    simp only [step] at stepped
    split at stepped <;> cases stepped
    next below routes =>
      apply mountDashboard_effect
      rw [routes]
      exact List.subset_cons_self _ _
  | joined =>
    simp only [step] at stepped
    split at stepped <;> cases stepped
    exact mountDashboard_effect (List.Subset.refl _)
  | deleteToken =>
    simp only [step] at stepped
    split at stepped <;> cases stepped
    exact tokenDeleted_effect state
  | openSetting | openCreateClub | openSheet | openJoinWithCode | openPage =>
    simp only [step] at stepped
    split at stepped <;> cases stepped
    all_goals
      apply push_effect
      nofun
  | checkLoggedIn =>
    simp only [step] at stepped
    split at stepped <;> cases stepped
    refine ⟨rfl, ?_⟩
    intro email member
    have first := List.mem_singleton.mp member
    split at first <;> cases first
  | pop =>
    simp only [step] at stepped
    split at stepped <;> cases stepped
    next route below routes =>
      refine ⟨rfl, ?_⟩
      intro email member
      left
      rw [routes]
      exact List.mem_cons_of_mem _ member
  | logIn | logout | signOut =>
    simp only [step] at stepped
    split at stepped <;> cases stepped
    exact ⟨rfl, fun _ member => Or.inl member⟩

theorem listeners_mounts {state final : State} {events : List Event} (ran : Runs.run step state events = some final) :
    final.listeners = (mounts state events).reverse ++ state.listeners := by
  induction events generalizing state with
  | nil =>
    cases ran
    rfl
  | cons event events ih =>
    obtain ⟨next, stepped, rest⟩ := Option.bind_eq_some_iff.mp ran
    have alone : (mountedBy state event).reverse = mountedBy state event := by
      unfold mountedBy
      split
      · split <;> rfl
      · cases state.currentUser <;> rfl
      · cases state.currentUser <;> rfl
      · rfl
    rw [ih rest, (step_effect stepped).listeners, mounts, stepped, List.reverse_append, alone, List.append_assoc]

def Listening (state : State) : Prop :=
  ∀ email, .dashboard (some email) ∈ state.routes → email ∈ state.listeners

theorem listening_preserved : Runs.Keeps step Runs.Free Listening := by
  intro before event after listening _ stepped
  have effect := step_effect stepped
  intro email mounted
  rw [effect.listeners]
  apply List.mem_append.mpr
  rcases effect.dashboards email mounted with earlier | now
  · exact Or.inr (listening email earlier)
  · exact Or.inl now

theorem listening {currentUser : Option String} {events : List Event} {state : State}
    (ran : Runs.run step (launch currentUser) events = some state) : Listening state := by
  apply listening_preserved.always _ ran
  intro email mounted
  simp [launch] at mounted

end Clubzey.Systems.Navigation
