import Clubzey.Systems.Subscription

/-! The topics of a device follow the clubs of whoever is signed in. Logging out
drops the topics and keeps the list, so the list may name more than the topics
but never less. -/

namespace Clubzey.Proofs.TopicSync
open Dart Models Backend Foundation Systems.Subscription

structure Session where
  device : Device := {}
  currentUser : Option String := none

/-- A visit is over before the next one begins. Logging out is `signOut` and then
`deleteToken`. -/
inductive Visit where
  | calculateSubscription (snapshot : Except Thrown (List Fields))
  | logout
  | signIn (email : String)

def visit (session : Session) : Visit → Option Session
  | .calculateSubscription snapshot =>
    some { session with device := (calculateSubscription session.device session.currentUser snapshot).2 }
  | .logout => some { device := session.device.deleteToken, currentUser := none }
  | .signIn email => some { session with currentUser := some email }

theorem completed_run {device after : Device} {currentUser : Option String} {snapshot : Except Thrown (List Fields)}
    (completed : calculateSubscription device currentUser snapshot = (.ok (), after)) :
    ∃ new, newSubscriptions snapshot = .ok new ∧
      after = (device.perform (requests device.subscriptionMembersList new)).put new := by
  cases currentUser with
  | none => cases completed
  | some email =>
    cases listed : newSubscriptions snapshot with
    | error error =>
      simp only [calculateSubscription, listed] at completed
      cases completed
    | ok new =>
      simp only [calculateSubscription, listed] at completed
      cases completed
      exact ⟨new, rfl, rfl⟩

theorem run_topics {device : Device} (recorded : device.Recorded) (new : List String) :
    (device.perform (requests device.subscriptionMembersList new)).topics = new.toFinset := by
  ext topic
  rw [mem_perform_requests, List.mem_toFinset]
  constructor
  · rintro (listed | ⟨subscribed, unlisted⟩)
    · exact listed
    · exact absurd (recorded topic subscribed) unlisted
  · intro listed
    exact Or.inl listed

theorem initial : ({} : Session).device.Recorded := by
  intro topic member
  simp at member

theorem preserved : Runs.Keeps visit Runs.Free fun session => session.device.Recorded := by
  intro before event after recorded _ stepped
  cases event with
  | calculateSubscription snapshot =>
    cases stepped
    cases outcome : calculateSubscription before.device before.currentUser snapshot with
    | mk result device =>
      cases result with
      | ok =>
        obtain ⟨new, _, rfl⟩ := completed_run outcome
        intro topic member
        have kept := run_topics recorded new ▸ member
        exact List.mem_toFinset.mp kept
      | error error =>
        have same : device = before.device := by
          unfold calculateSubscription at outcome
          split at outcome
          · cases outcome
            rfl
          · split at outcome <;> cases outcome
            rfl
        subst same
        exact recorded
  | logout =>
    cases stepped
    intro topic member
    simp [Device.deleteToken] at member
  | signIn email =>
    cases stepped
    exact recorded

/-- After every completed run of every sequence of visits the device is subscribed
to the clubs of that run's snapshot, and its list names them. -/
theorem topics_follow_clubs {visits : List Visit} {session : Session} {snapshot : Except Thrown (List Fields)}
    {new : List String} {after : Device} (ran : Runs.run visit {} visits = some session)
    (listed : newSubscriptions snapshot = .ok new)
    (completed : calculateSubscription session.device session.currentUser snapshot = (.ok (), after)) :
    after.topics = new.toFinset ∧ after.stored = some new := by
  have recorded := preserved.always initial ran
  obtain ⟨subscriptions, same, rfl⟩ := completed_run completed
  rw [listed] at same
  cases same
  exact ⟨run_topics recorded new, rfl⟩

def switched : List Visit :=
  [.signIn "ann@example.com", .calculateSubscription (clubsOf ["c1", "c2"]), .logout, .signIn "bob@example.com"]

def beforeBob : Session := ⟨⟨∅, some ["c1", "c2"]⟩, some "bob@example.com"⟩

def afterBob : Device := (calculateSubscription beforeBob.device beforeBob.currentUser (clubsOf ["c2", "c3"])).2

theorem topics_follow_switch : afterBob.topics = ["c2", "c3"].toFinset ∧ afterBob.stored = some ["c2", "c3"] := by
  have ran : Runs.run visit {} switched = some beforeBob := rfl
  have listed : newSubscriptions (clubsOf ["c2", "c3"]) = .ok ["c2", "c3"] := rfl
  exact topics_follow_clubs ran listed rfl

end Clubzey.Proofs.TopicSync
