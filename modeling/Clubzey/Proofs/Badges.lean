import Clubzey.Systems.Navigation

/-! How many badges a foreground message produces, and for whom they are worded. -/

namespace Clubzey.Proofs.Badges
open Dart Views Foundation Systems.Navigation

def OnScreen (state : State) (email : String) : Prop :=
  state.currentUser = some email ∧ state.routes.head? = some (.dashboard (some email))

/-- The message shows the badge worded for the user and no other. -/
def ShownOnce (state : State) (email : String) (message : RemoteMessage) : Prop :=
  ∃ shown, notificationBadge email message = .ok shown ∧ state.badges message = [shown]

theorem badges_length {state : State} {message : RemoteMessage} (notified : message.notification.isSome) :
    (state.badges message).length = state.listeners.countP (wordable message) := by
  rw [State.badges, List.length_filterMap_eq_countP]
  apply List.countP_congr
  intro email _
  rw [notificationBadge_isSome notified]

theorem badge_shown {state : State} {email : String} {message : RemoteMessage} {shown : NotificationBadge}
    (listening : email ∈ state.listeners) (built : notificationBadge email message = .ok shown) :
    shown ∈ state.badges message := by
  apply List.mem_filterMap.mpr
  refine ⟨email, listening, ?_⟩
  rw [built]
  rfl

/-- In every run a message is shown once and for the right user exactly when the user's
listener can word it and no other listener of the run can. -/
theorem shown_once_iff {user : Option String} {events : List Event} {state : State} {email : String}
    {message : RemoteMessage} (ran : Runs.run step (launch user) events = some state)
    (onScreen : OnScreen state email) (notified : message.notification.isSome) :
    ShownOnce state email message ↔
      wordable message email ∧ (mounts (launch user) events).countP (wordable message) = 1 := by
  have mounted : email ∈ state.listeners := listening ran email (List.mem_of_head? onScreen.2)
  have listeners : state.listeners.countP (wordable message) =
      (mounts (launch user) events).countP (wordable message) := by
    rw [listeners_mounts ran, launch, List.append_nil, List.countP_reverse]
  rw [← listeners, ← badges_length notified, ← notificationBadge_isSome notified]
  constructor
  · intro once
    obtain ⟨shown, built, only⟩ := once
    rw [built, only]
    exact ⟨rfl, rfl⟩
  · intro alone
    obtain ⟨worded, one⟩ := alone
    cases built : notificationBadge email message with
    | error thrown =>
      rw [built] at worded
      cases worded
    | ok shown =>
      obtain ⟨only, badges⟩ := List.length_eq_one_iff.mp one
      have member := badge_shown mounted built
      rw [badges] at member
      have same := List.mem_singleton.mp member
      rw [← same] at badges
      exact ⟨shown, built, badges⟩

def ann : String := "ann@example.com"

def bobJoined : RemoteMessage where
  notification := some { title := some "Lucky club", body := some "Bob has joined" }
  data := Collection.set (Collection.set ∅ "username" "Bob") "clubId" "c1"

def signedIn : List Event := [.checkLoggedIn, .logIn, .signIn ann]

def dashboard : State := (Runs.run step (launch none) signedIn).get (by decide)

theorem signed_in_shown_once :
    ShownOnce dashboard ann bobJoined ↔
      wordable bobJoined ann ∧ (mounts (launch none) signedIn).countP (wordable bobJoined) = 1 := by
  have ran : Runs.run step (launch none) signedIn = some dashboard := by
    rw [dashboard, Option.some_get]
  exact shown_once_iff ran ⟨by decide, by decide⟩ rfl

/-- Ann signs in and creates a club, which mounts a second Dashboard: each message now
shows two badges. -/
theorem created_club_shows_twice : ¬ ∀ user events state email message,
    Runs.run step (launch user) events = some state → OnScreen state email →
    message.notification.isSome → ShownOnce state email message := by
  intro always
  let events := signedIn ++ [.openCreateClub, .openSheet, .continueClub]
  have twice : (Runs.run step (launch none) events).map (fun state =>
      (state.currentUser, state.routes.head?, (state.badges bobJoined).length)) =
      some (some ann, some (.dashboard (some ann)), 2) := by
    decide
  obtain ⟨state, ran, facts⟩ := Option.map_eq_some_iff.mp twice
  obtain ⟨user, facts⟩ := Prod.mk.inj facts
  obtain ⟨screen, two⟩ := Prod.mk.inj facts
  obtain ⟨shown, _, once⟩ := always none events state ann bobJoined ran ⟨user, screen⟩ rfl
  rw [once] at two
  cases two

end Clubzey.Proofs.Badges
