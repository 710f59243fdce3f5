import Clubzey.Systems.Navigation

/-! Whose Dashboards are on the navigator, when nobody presses Log In or Log out while an
earlier press is still waiting. -/

namespace Clubzey.Proofs.Sessions
open Dart Views Foundation Systems.Navigation

def Settled (state : State) : Prop := state.signingIn = 0 ∧ state.signingOut = 0 ∧ state.deletingToken = 0

def Unhurried (state : State) : Event → Prop
  | .logIn | .logout => Settled state
  | _ => True

/-- Routes with LoginPage at the bottom, if anywhere. -/
def LoginLast (routes : List Route) : Prop := ∃ above, .login ∉ above ∧ (routes = above ∨ routes = above ++ [.login])

/-- At most one press waits. Log In waits under plain pages alone, and while no token is
being deleted, all Dashboards are of the user signed in. -/
structure Kept (state : State) : Prop where
  last : LoginLast state.routes
  pending : state.signingIn + state.signingOut + state.deletingToken ≤ 1
  signing : state.signingIn = 1 → ∃ pages : List Route, (∀ route ∈ pages, route = .page) ∧ state.routes = pages ++ [.login]
  mounted : state.deletingToken = 0 → ∀ user, .dashboard user ∈ state.routes → user = state.currentUser

namespace LoginLast

theorem cons {routes : List Route} (last : LoginLast routes) {route : Route} (other : route ≠ .login) :
    LoginLast (route :: routes) := by
  obtain ⟨above, absent, same⟩ := last
  refine ⟨route :: above, ?_, ?_⟩
  · intro member
    rcases List.mem_cons.mp member with first | later
    · exact other first.symm
    · exact absent later
  · rcases same with rfl | rfl
    · exact Or.inl rfl
    · exact Or.inr rfl

theorem tail {route : Route} {routes : List Route} (last : LoginLast (route :: routes)) : LoginLast routes := by
  obtain ⟨above, absent, same⟩ := last
  cases above with
  | nil =>
    rcases same with impossible | single
    · cases impossible
    · refine ⟨[], List.not_mem_nil, Or.inl (List.cons.inj single).2⟩
  | cons first above =>
    refine ⟨above, fun member => absent (List.mem_cons_of_mem _ member), ?_⟩
    exact same.imp (fun same => (List.cons.inj same).2) fun same => (List.cons.inj same).2

/-- LoginPage on top is alone. -/
theorem alone {routes : List Route} (last : LoginLast (.login :: routes)) : routes = [] := by
  obtain ⟨above, absent, same⟩ := last
  cases above with
  | nil =>
    rcases same with impossible | single
    · cases impossible
    · exact (List.cons.inj single).2
  | cons first above =>
    have top : first = .login := by
      rcases same with same | same
      · exact (List.cons.inj same).1.symm
      · exact (List.cons.inj same).1.symm
    exact absurd (top ▸ List.mem_cons_self) absent

theorem single (route : Route) : LoginLast [route] := by
  by_cases login : route = .login
  · exact ⟨[], List.not_mem_nil, Or.inr (by rw [login]; rfl)⟩
  · exact ⟨[route], by simpa using Ne.symm login, Or.inl rfl⟩

end LoginLast

/-- Pushing any route but LoginPage and Dashboard. While Log In waits only a plain page
can be pushed. -/
theorem kept_push {state : State} (kept : Kept state) {route : Route} (other : route ≠ .login)
    (plain : ∀ user, route ≠ .dashboard user) (free : state.signingIn = 1 → route = .page) : Kept (state.push route) := by
  refine ⟨kept.last.cons other, kept.pending, ?_, ?_⟩
  · intro signing
    obtain ⟨pages, all, routes⟩ := kept.signing signing
    refine ⟨route :: pages, ?_, ?_⟩
    · intro another member
      rcases List.mem_cons.mp member with rfl | earlier
      · exact free signing
      · exact all another earlier
    · rw [State.push, routes, List.cons_append]
  · intro undisturbed user member
    rcases List.mem_cons.mp member with now | earlier
    · exact absurd now.symm (plain user)
    · exact kept.mounted undisturbed user earlier

/-- Mounting a Dashboard over routes that were there while Log In does not wait. -/
theorem kept_mount {state : State} {below : List Route} (last : LoginLast below)
    (pending : state.signingIn + state.signingOut + state.deletingToken ≤ 1) (free : state.signingIn = 0)
    (mounted : state.deletingToken = 0 → ∀ user, .dashboard user ∈ below → user = state.currentUser) :
    Kept (state.mountDashboard below) := by
  refine ⟨last.cons (by simp), pending, ?_, ?_⟩
  · intro signing
    have same : (state.mountDashboard below).signingIn = state.signingIn := rfl
    omega
  · intro undisturbed user member
    rcases List.mem_cons.mp member with now | earlier
    · exact Route.dashboard.inj now
    · exact mounted undisturbed user earlier

/-- While Log In waits, LoginPage or a plain page is on top. -/
theorem top_while_signing {state : State} (kept : Kept state) (signing : state.signingIn = 1) :
    state.routes.head? = some .login ∨ state.routes.head? = some .page := by
  obtain ⟨pages, all, routes⟩ := kept.signing signing
  rw [routes]
  cases pages with
  | nil => exact Or.inl rfl
  | cons top pages =>
    rw [all top List.mem_cons_self]
    exact Or.inr rfl

theorem kept_signedIn {state : State} (kept : Kept state) (signing : state.signingIn = 1) (email : String) :
    Kept (state.signedIn email) := by
  obtain ⟨pages, all, routes⟩ := kept.signing signing
  have pending := kept.pending
  have present : Route.login ∈ state.routes := by
    rw [routes]
    simp
  rw [State.signedIn, if_pos present]
  have tail : LoginLast state.routes.tail := by
    rw [routes]
    cases pages with
    | nil => exact ⟨[], List.not_mem_nil, Or.inl rfl⟩
    | cons top pages =>
      refine ⟨pages, ?_, Or.inr rfl⟩
      intro login
      cases all _ (List.mem_cons_of_mem _ login)
  apply kept_mount tail
  · dsimp only
    omega
  · dsimp only
    omega
  · intro _ user member
    have inside := List.mem_of_mem_tail member
    rw [routes] at inside
    rcases List.mem_append.mp inside with above | bottom
    · cases all _ above
    · cases List.mem_singleton.mp bottom

theorem kept_tail {state : State} {top route : Route} {below : List Route} (kept : Kept state)
    (routes : state.routes = top :: route :: below) : Kept { state with routes := route :: below } := by
  have last := kept.last
  rw [routes] at last
  refine ⟨last.tail, kept.pending, ?_, ?_⟩
  · intro signing
    obtain ⟨pages, all, split⟩ := kept.signing signing
    rw [routes] at split
    cases pages with
    | nil => cases (List.cons.inj split).2
    | cons first pages =>
      exact ⟨pages, fun another member => all another (List.mem_cons_of_mem _ member), (List.cons.inj split).2⟩
  · intro undisturbed user member
    apply kept.mounted undisturbed user
    rw [routes]
    exact List.mem_cons_of_mem _ member

theorem kept_tokenDeleted {state : State} (kept : Kept state) (deleting : state.deletingToken ≠ 0) :
    Kept state.tokenDeleted := by
  have pending := kept.pending
  have free : state.tokenDeleted.signingIn = 0 := by
    have same : state.tokenDeleted.signingIn = state.signingIn := rfl
    omega
  refine ⟨?_, ?_, ?_, ?_⟩
  · simp only [State.tokenDeleted]
    split
    · exact .single .login
    · exact kept.last
  · simp only [State.tokenDeleted]
    omega
  · intro signing
    omega
  · intro _ user member
    simp only [State.tokenDeleted] at member
    split at member
    · cases List.mem_singleton.mp member
    next nowhere =>
      exact absurd (List.any_eq_true.mpr ⟨_, member, rfl⟩) nowhere

theorem kept_preserved : Runs.Keeps step Unhurried Kept := by
  intro before event after kept allowed stepped
  have pending := kept.pending
  -- Whatever needs another route on top is not possible while Log In waits.
  have waits : ∀ route, before.routes.head? = some route → route ≠ .login → route ≠ .page → before.signingIn ≠ 1 := by
    intro route top notLogin notPage signing
    rcases top_while_signing kept signing with login | page
    · exact notLogin (Option.some.inj (top.symm.trans login))
    · exact notPage (Option.some.inj (top.symm.trans page))
  cases event with
  | checkLoggedIn =>
    obtain ⟨splash, same⟩ := Option.ite_none_right_eq_some.mp stepped
    cases same
    refine ⟨.single _, pending, ?_, ?_⟩
    · intro signing
      exact absurd signing (waits .splash (by rw [splash]; rfl) (by simp) (by simp))
    · intro _ user member
      have first := List.mem_singleton.mp member
      split at first <;> cases first
  | logIn =>
    obtain ⟨top, same⟩ := Option.ite_none_right_eq_some.mp stepped
    cases same
    obtain ⟨noneIn, noneOut, noneDeleting⟩ := allowed
    obtain ⟨rest, routes⟩ := List.head?_eq_some_iff.mp top
    have last := kept.last
    rw [routes] at last
    refine ⟨kept.last, ?_, ?_, kept.mounted⟩
    · dsimp only
      omega
    · intro _
      refine ⟨[], by simp, ?_⟩
      rw [routes, last.alone]
      rfl
  | signIn email =>
    simp only [step] at stepped
    split at stepped <;> cases stepped
    exact kept_signedIn kept (by omega) email
  | openSetting | openCreateClub =>
    simp only [step] at stepped
    split at stepped <;> cases stepped
    all_goals
      next routes =>
        apply kept_push kept (by simp) (by simp)
        intro signing
        exact absurd signing (waits _ (by rw [routes]; rfl) (by simp) (by simp))
  | openSheet | openJoinWithCode =>
    obtain ⟨top, same⟩ := Option.ite_none_right_eq_some.mp stepped
    cases same
    apply kept_push kept (by simp) (by simp)
    intro signing
    exact absurd signing (waits .createClub top (by simp) (by simp))
  | openPage =>
    obtain ⟨_, same⟩ := Option.ite_none_left_eq_some.mp stepped
    cases same
    exact kept_push kept (by simp) (by simp) fun _ => rfl
  | continueClub =>
    simp only [step] at stepped
    split at stepped <;> cases stepped
    next below routes =>
      have last := kept.last
      rw [routes] at last
      have free := waits .sheet (by rw [routes]; rfl) (by simp) (by simp)
      apply kept_mount last.tail pending (by omega)
      intro undisturbed user member
      apply kept.mounted undisturbed user
      rw [routes]
      exact List.mem_cons_of_mem _ member
  | joined =>
    obtain ⟨present, same⟩ := Option.ite_none_right_eq_some.mp stepped
    cases same
    have free : before.signingIn ≠ 1 := by
      intro signing
      obtain ⟨pages, all, routes⟩ := kept.signing signing
      rw [routes] at present
      rcases List.mem_append.mp present with above | bottom
      · cases all _ above
      · cases List.mem_singleton.mp bottom
    exact kept_mount kept.last pending (by omega) kept.mounted
  | pop =>
    simp only [step] at stepped
    split at stepped <;> cases stepped
    next top route below routes => exact kept_tail kept routes
  | logout =>
    obtain ⟨_, same⟩ := Option.ite_none_right_eq_some.mp stepped
    cases same
    obtain ⟨noneIn, noneOut, noneDeleting⟩ := allowed
    refine ⟨kept.last, ?_, kept.signing, kept.mounted⟩
    dsimp only
    omega
  | signOut =>
    simp only [step] at stepped
    split at stepped <;> cases stepped
    refine ⟨kept.last, ?_, kept.signing, ?_⟩
    · dsimp only
      omega
    · intro undisturbed
      cases undisturbed
  | deleteToken =>
    simp only [step] at stepped
    split at stepped <;> cases stepped
    next deleting => exact kept_tokenDeleted kept deleting

end Clubzey.Proofs.Sessions
