import Clubzey.Foundation.Runs
import Clubzey.Views.LoginPage

/-! The accounts and the sign-in of any number of devices. Log In and Log out wait for
their requests, and every device may go on meanwhile. -/

namespace Clubzey.Systems.Login
open Dart Views Foundation

inductive Screen where
  | login
  | home
  | dashboard
  deriving DecidableEq

structure Device where
  currentUser : Option String
  screen : Screen
  pushed : Nat := 0
  /-- The mounted LoginPage and its route. After a login it stays until the transition
  to Dashboard is over. -/
  page : Option (Nat × LoginPage)
  /-- The presses of Log In that wait for createUserWithEmailAndPassword: the route and
  the e-mail. -/
  signingIn : List (Nat × String) := []
  /-- The presses of Log out that delete the token, by the route they are from. -/
  loggingOut : List Nat := []
  deriving DecidableEq

namespace Device

def launch : Option String → Device
  | some email => { currentUser := some email, screen := .home, page := none }
  | none => { currentUser := none, screen := .login, page := some (0, {}) }

/-- The rest of the Log In handler once the account has been created. The new user is
signed in whatever has become of the page. -/
def signedIn (device : Device) (route : Nat) (email : String) : Device :=
  match device.page with
  | none => { device with currentUser := some email }
  | some (number, page) =>
    if number = route then
      { device with
        currentUser := some email
        screen := .dashboard
        pushed := device.pushed + 1
        page := some (number, page.setState) }
    else { device with currentUser := some email }

/-- The rest of `_logout` once the token has been deleted. -/
def tokenDeleted (device : Device) (route : Nat) : Device :=
  if device.pushed = route then
    { device with screen := .login, pushed := device.pushed + 1, page := some (device.pushed + 1, {}) }
  else device

end Device

structure State where
  accounts : String → Bool
  devices : Nat → Device
  /-- The e-mails submitted by a press that passed validation, latest first. -/
  submitted : List String := []

def launch (accounts : String → Bool) (users : Nat → Option String) : State :=
  { accounts, devices := fun index => .launch (users index) }

namespace State

def update (state : State) (index : Nat) (device : Device) : State :=
  { state with devices := Function.update state.devices index device }

@[simp] theorem devices_update_same (state : State) (index : Nat) (device : Device) :
    (state.update index device).devices index = device := Function.update_self ..

theorem devices_update_other {state : State} {index other : Nat} {device : Device} (different : other ≠ index) :
    (state.update index device).devices other = state.devices other := Function.update_of_ne different ..

end State

inductive Action where
  | edit (value : String)
  | press
  | answer (request : Nat)
  | settle
  | logout
  | leave (request : Nat)

structure Event where
  device : Nat
  action : Action

/-- A press of Log In. Whether or not the text passes, the page is built anew; for a
text that passes only after the account has been created. -/
def press (state : State) (index : Nat) (number : Nat) (page : LoginPage) : State :=
  let device := state.devices index
  let validated := page.validate
  if emailError page.value = none then
    { state.update index { device with
        page := some (number, validated)
        signingIn := device.signingIn ++ [(number, validated.email)] } with
      submitted := validated.email :: state.submitted }
  else state.update index { device with page := some (number, validated.setState) }

/-- The answer to createUserWithEmailAndPassword. If there is an account it throws, and
nothing of the handler runs any more. -/
def answer (state : State) (index : Nat) (request : Nat) (route : Nat) (email : String) : State :=
  let device := state.devices index
  let answered := { device with signingIn := device.signingIn.eraseIdx request }
  if state.accounts email then state.update index answered
  else
    { state.update index (answered.signedIn route email) with
      accounts := fun other => other == email || state.accounts other }

def step (state : State) (event : Event) : Option State :=
  let device := state.devices event.device
  match event.action with
  | .edit value =>
    match device.page with
    | some (number, page) =>
      if device.screen = .login ∧ page.banner = none then
        some (state.update event.device { device with page := some (number, page.edit value) })
      else none
    | none => none
  | .press =>
    match device.page with
    | some (number, page) =>
      if device.screen = .login ∧ page.banner = none then some (press state event.device number page) else none
    | none => none
  | .answer request =>
    match device.signingIn[request]? with
    | some (route, email) => some (answer state event.device request route email)
    | none => none
  | .settle =>
    if device.screen = .login then none else some (state.update event.device { device with page := none })
  | .logout =>
    if device.screen = .login then none
    else some (state.update event.device
      { device with currentUser := none, loggingOut := device.loggingOut ++ [device.pushed] })
  | .leave request =>
    match device.loggingOut[request]? with
    | some route => some (state.update event.device
        (Device.tokenDeleted { device with loggingOut := device.loggingOut.eraseIdx request } route))
    | none => none

end Clubzey.Systems.Login
