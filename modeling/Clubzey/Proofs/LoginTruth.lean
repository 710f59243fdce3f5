import Clubzey.Systems.Login

/-! What the login page tells against what happens: where a press of Log In ends, and
which e-mails the banner names. -/

namespace Clubzey.Proofs.LoginTruth
open Dart Views Foundation Systems.Login

def OnForm (device : Device) : Prop :=
  device.screen = .login ∧ ∃ number page, device.page = some (number, page) ∧ page.banner = none

def OnDashboard (device : Device) (email : String) : Prop :=
  device.screen = .dashboard ∧ device.currentUser = some email

def Names (submitted : List String) (device : Device) : Prop :=
  ∀ number page text, device.page = some (number, page) → page.banner = some text →
    ∃ email ∈ submitted, text = loginLinkSent email

def Honest (state : State) : Prop := ∀ index, Names state.submitted (state.devices index)

/-- What an event must do. A text that passes is asked for as trimmed, and its answer
finds the device on Dashboard; a text that fails leaves the form. -/
structure Told (before : State) (event : Event) (after : State) : Prop where
  asks : ∀ number page, event.action = .press → (before.devices event.device).page = some (number, page) →
    emailError page.value = none → (number, trimmed page.value) ∈ (after.devices event.device).signingIn
  ends : ∀ request route email, event.action = .answer request →
    (before.devices event.device).signingIn[request]? = some (route, email) →
    OnDashboard (after.devices event.device) email
  stays : ∀ number page, event.action = .press → (before.devices event.device).page = some (number, page) →
    emailError page.value ≠ none → OnForm (after.devices event.device)
  honest : Honest after

def Truthful (state : State) (event : Event) : Prop :=
  ∀ next, step state event = some next → Told state event next

/-- An answer comes for an e-mail without an account, to the mounted page of the press,
whose last accepted text has been submitted; or the device is on Dashboard already. -/
def Expected (state : State) (device : Device) (route : Nat) (email : String) : Prop :=
  if state.accounts email then OnDashboard device email
  else match device.page with
    | none => device.screen = .dashboard
    | some (number, page) =>
      if number = route then page.email = "" ∨ page.email ∈ state.submitted else device.screen = .dashboard

/-- A press fails validation only while its page has accepted no text, and every answer
is expected. -/
def Sound (state : State) (event : Event) : Prop :=
  let device := state.devices event.device
  match event.action with
  | .press => ∀ number page, device.page = some (number, page) → OnForm device →
      emailError page.value ≠ none → page.email = ""
  | .answer request => ∀ route email, device.signingIn[request]? = some (route, email) →
      Expected state device route email
  | _ => True

theorem names_page {submitted : List String} {device other : Device} (same : other.page = device.page)
    (names : Names submitted device) : Names submitted other := by
  intro number page text mounted shown
  exact names number page text (same.symm.trans mounted) shown

theorem launch_honest (accounts : String → Bool) (users : Nat → Option String) : Honest (launch accounts users) := by
  intro index number page text mounted shown
  unfold launch Device.launch at mounted
  dsimp only at mounted
  split at mounted
  · cases mounted
  · cases mounted
    cases shown

theorem honest_update {state : State} {index : Nat} {device : Device} {accounts : String → Bool}
    {submitted : List String} (honest : Honest state) (more : state.submitted ⊆ submitted)
    (names : Names submitted device) : Honest { state.update index device with accounts, submitted } := by
  intro other
  by_cases same : other = index
  · subst same
    dsimp only
    rw [State.devices_update_same]
    exact names
  · dsimp only
    rw [State.devices_update_other same]
    intro number page text mounted shown
    obtain ⟨email, member, text⟩ := honest other number page text mounted shown
    exact ⟨email, more member, text⟩

theorem names_setState {submitted : List String} {device : Device} {number : Nat} {page : LoginPage}
    (mounted : device.page = some (number, page.setState)) :
    Names submitted device ↔ page.email = "" ∨ page.email ∈ submitted := by
  constructor
  · intro names
    by_cases empty : page.email = ""
    · exact Or.inl empty
    · obtain ⟨email, member, same⟩ := names number page.setState _ mounted (LoginPage.setState_banner.mpr ⟨empty, rfl⟩)
      rw [← loginLinkSent_injective same] at member
      exact Or.inr member
  · intro known other shown text found banner
    rw [mounted] at found
    cases found
    obtain ⟨filled, rfl⟩ := LoginPage.setState_banner.mp banner
    exact ⟨page.email, known.resolve_left filled, rfl⟩

theorem truthful_step {state next : State} {event : Event} (stepped : step state event = some next) :
    Truthful state event ↔ Told state event next := by
  constructor
  · intro truthful
    exact truthful next stepped
  · intro told other reached
    rw [stepped] at reached
    cases reached
    exact told

theorem truthful_disabled {state : State} {event : Event} (disabled : step state event = none) :
    Truthful state event := by
  intro next stepped
  rw [disabled] at stepped
  cases stepped

private theorem press_accepted {state : State} {index number : Nat} {page : LoginPage} (honest : Honest state)
    (mounted : (state.devices index).page = some (number, page)) (form : page.banner = none)
    (accepted : emailError page.value = none) : Told state ⟨index, .press⟩ (press state index number page) := by
  refine ⟨?_, ?_, ?_, ?_⟩
  · intro other found _ same _
    rw [mounted] at same
    cases same
    rw [press, if_pos accepted]
    dsimp only
    rw [State.devices_update_same, LoginPage.validate_accepted accepted]
    exact List.mem_append_right _ List.mem_cons_self
  · intro request route email impossible
    cases impossible
  · intro other found _ same rejected
    rw [mounted] at same
    cases same
    exact absurd accepted rejected
  · rw [press, if_pos accepted]
    apply honest_update honest (List.subset_cons_self _ _)
    intro other found text same shown
    cases same
    rw [LoginPage.validate_banner, form] at shown
    cases shown

private theorem press_rejected {state : State} {index number : Nat} {page : LoginPage} (honest : Honest state)
    (mounted : (state.devices index).page = some (number, page)) (login : (state.devices index).screen = .login)
    (rejected : emailError page.value ≠ none) :
    Told state ⟨index, .press⟩ (press state index number page) ↔ page.email = "" := by
  have pressed : press state index number page =
      state.update index { state.devices index with page := some (number, page.setState) } := by
    rw [press, if_neg rejected, LoginPage.validate_rejected rejected]
  rw [pressed]
  constructor
  · intro told
    obtain ⟨_, other, found, same, none⟩ := told.stays number page rfl mounted rejected
    rw [State.devices_update_same] at same
    cases same
    exact LoginPage.setState_form.mp none
  · intro empty
    refine ⟨?_, ?_, ?_, ?_⟩
    · intro other found _ same passes
      rw [mounted] at same
      cases same
      exact absurd passes rejected
    · intro request route email impossible
      cases impossible
    · intro _ _ _ _ _
      rw [State.devices_update_same]
      exact ⟨login, number, page.setState, rfl, LoginPage.setState_form.mpr empty⟩
    · apply honest_update honest (List.Subset.refl _)
      exact (names_setState rfl).mpr (Or.inl empty)

private theorem press_told {state : State} {index number : Nat} {page : LoginPage} (honest : Honest state)
    (mounted : (state.devices index).page = some (number, page)) (login : (state.devices index).screen = .login)
    (form : page.banner = none) :
    Told state ⟨index, .press⟩ (press state index number page) ↔
      (emailError page.value ≠ none → page.email = "") := by
  by_cases accepted : emailError page.value = none
  · refine ⟨fun _ rejected => absurd accepted rejected, ?_⟩
    intro _
    exact press_accepted honest mounted form accepted
  · rw [press_rejected honest mounted login accepted]
    exact ⟨fun empty _ => empty, fun clean => clean accepted⟩

/-- Of an event that answers a request only where it ends and what is shown matters. -/
private theorem told_answer_iff {state after : State} {index request route : Nat} {email : String}
    (waiting : (state.devices index).signingIn[request]? = some (route, email)) :
    Told state ⟨index, .answer request⟩ after ↔ OnDashboard (after.devices index) email ∧ Honest after := by
  constructor
  · intro told
    exact ⟨told.ends request route email rfl waiting, told.honest⟩
  · intro holds
    refine ⟨?_, ?_, ?_, holds.2⟩
    · intro number page impossible
      cases impossible
    · intro other number address same found
      cases same
      rw [waiting] at found
      cases found
      exact holds.1
    · intro number page impossible
      cases impossible

private theorem answer_told {state : State} {index request route : Nat} {email : String} (honest : Honest state)
    (waiting : (state.devices index).signingIn[request]? = some (route, email)) :
    Told state ⟨index, .answer request⟩ (answer state index request route email) ↔
      Expected state (state.devices index) route email := by
  rw [told_answer_iff waiting, Expected, answer]
  by_cases taken : state.accounts email
  · simp only [taken, if_true, State.devices_update_same]
    refine ⟨fun told => told.1, ?_⟩
    intro already
    exact ⟨already, honest_update honest (List.Subset.refl _) (honest index)⟩
  · simp only [taken, Bool.false_eq_true, if_false, State.devices_update_same, Device.signedIn]
    cases mounted : (state.devices index).page with
    | none =>
      refine ⟨fun told => told.1.1, ?_⟩
      intro dashboard
      refine ⟨⟨dashboard, rfl⟩, honest_update honest (List.Subset.refl _) ?_⟩
      intro number page text found
      cases found
    | some shown =>
      obtain ⟨number, page⟩ := shown
      by_cases same : number = route
      · simp only [same, if_true]
        constructor
        · intro told
          have names := told.2 index
          dsimp only at names
          rw [State.devices_update_same] at names
          exact (names_setState rfl).mp names
        · intro known
          refine ⟨⟨rfl, rfl⟩, honest_update honest (List.Subset.refl _) ?_⟩
          exact (names_setState rfl).mpr known
      · simp only [same, if_false]
        refine ⟨fun told => told.1.1, ?_⟩
        intro dashboard
        refine ⟨⟨dashboard, rfl⟩, honest_update honest (List.Subset.refl _) ?_⟩
        exact names_page mounted.symm (honest index)

private theorem other_truthful {state : State} {event : Event} (honest : Honest state)
    (press : event.action ≠ .press) (answer : ∀ request, event.action ≠ .answer request) :
    Truthful state event := by
  intro next stepped
  refine ⟨?_, ?_, ?_, ?_⟩
  · intro number page same
    exact absurd same press
  · intro request route email same
    exact absurd same (answer request)
  · intro number page same
    exact absurd same press
  obtain ⟨index, action⟩ := event
  cases action with
  | press => exact absurd rfl press
  | answer request => exact absurd rfl (answer request)
  | edit value =>
    simp only [step] at stepped
    split at stepped
    next number page mounted =>
      split at stepped <;> cases stepped
      next form =>
        apply honest_update honest (List.Subset.refl _)
        intro other edited text same shown
        cases same
        rw [LoginPage.edit, LoginPage.validate_banner, form.2] at shown
        cases shown
    next => cases stepped
  | settle =>
    simp only [step] at stepped
    split at stepped <;> cases stepped
    apply honest_update honest (List.Subset.refl _)
    intro number page text gone
    cases gone
  | logout =>
    simp only [step] at stepped
    split at stepped <;> cases stepped
    exact honest_update honest (List.Subset.refl _) (names_page rfl (honest index))
  | leave request =>
    simp only [step] at stepped
    split at stepped <;> cases stepped
    apply honest_update honest (List.Subset.refl _)
    unfold Device.tokenDeleted
    split
    · intro number page text fresh shown
      cases fresh
      cases shown
    · exact names_page rfl (honest index)

private theorem truthful_iff (state : State) (event : Event) (honest : Honest state) :
    Truthful state event ↔ Sound state event := by
  obtain ⟨index, action⟩ := event
  cases action with
  | press =>
    by_cases form : OnForm (state.devices index)
    · obtain ⟨login, number, page, mounted, none⟩ := form
      have stepped : step state ⟨index, .press⟩ = some (press state index number page) := by
        simp only [step, mounted, login, none, and_self, if_true]
      rw [truthful_step stepped, press_told honest mounted login none]
      constructor
      · intro clean other found same _
        cases mounted.symm.trans same
        exact clean
      · intro sound
        exact sound number page mounted ⟨login, number, page, mounted, none⟩
    · refine ⟨fun _ number page mounted shown => absurd shown form, ?_⟩
      intro _
      apply truthful_disabled
      simp only [step]
      split
      next number page mounted =>
        apply if_neg
        intro enabled
        exact form ⟨enabled.1, number, page, mounted, enabled.2⟩
      next => rfl
  | answer request =>
    cases waiting : (state.devices index).signingIn[request]? with
    | none =>
      refine ⟨?_, fun _ => truthful_disabled ?_⟩
      · intro _ route email found
        cases waiting.symm.trans found
      · simp only [step, waiting]
    | some asked =>
      obtain ⟨route, email⟩ := asked
      have stepped : step state ⟨index, .answer request⟩ = some (answer state index request route email) := by
        simp only [step, waiting]
      rw [truthful_step stepped, answer_told honest waiting]
      constructor
      · intro expected other address found
        cases waiting.symm.trans found
        exact expected
      · intro sound
        exact sound route email waiting
  | edit value => exact ⟨fun _ => trivial, fun _ => other_truthful honest (by simp) (by simp)⟩
  | settle => exact ⟨fun _ => trivial, fun _ => other_truthful honest (by simp) (by simp)⟩
  | logout => exact ⟨fun _ => trivial, fun _ => other_truthful honest (by simp) (by simp)⟩
  | leave request => exact ⟨fun _ => trivial, fun _ => other_truthful honest (by simp) (by simp)⟩

/-- Whatever accounts there are and whoever is signed in at first, the page tells the
truth in a run exactly when every press that fails validation comes before the first
accepted text and every answer is expected. -/
theorem login_truthful_iff (accounts : String → Bool) (users : Nat → Option String) (events : List Event) :
    Runs.Meets step Truthful (launch accounts users) events ↔
      Runs.Meets step Sound (launch accounts users) events := by
  apply Runs.meets_congr truthful_iff _ (launch_honest accounts users)
  intro before event after _ truthful stepped
  exact (truthful after stepped).honest

def ann : String := "ann@b.c"

def secondLogin : List Event :=
  [⟨0, .edit ann⟩, ⟨0, .press⟩, ⟨0, .answer 0⟩, ⟨0, .settle⟩, ⟨0, .logout⟩, ⟨0, .leave 0⟩, ⟨0, .edit ann⟩, ⟨0, .press⟩]

theorem second_login_stuck : ¬ ∀ accounts users events,
    Runs.Meets step Truthful (launch accounts users) events := by
  intro always
  have facts : (Runs.run step (launch (fun _ => false) fun _ => none) secondLogin).map (fun state =>
      ((state.devices 0).signingIn, (step state ⟨0, .answer 0⟩).map fun next => (next.devices 0).screen)) =
      some ([(2, ann)], some .login) := by
    decide
  obtain ⟨state, ran, facts⟩ := Option.map_eq_some_iff.mp facts
  obtain ⟨waiting, stuck⟩ := Prod.mk.inj facts
  obtain ⟨next, stepped, login⟩ := Option.map_eq_some_iff.mp stuck
  have truthful := (always (fun _ => false) (fun _ => none) (secondLogin ++ [⟨0, .answer 0⟩])).last ran
  have found : (state.devices 0).signingIn[0]? = some (2, ann) := by rw [waiting, List.getElem?_cons_zero]
  obtain ⟨dashboard, _⟩ := (truthful next stepped).ends 0 2 ann rfl found
  rw [login] at dashboard
  cases dashboard

/-- A press on a text that fails, after a text that has passed, puts the banner for that
text in the place of the form, whether or not it was ever submitted. -/
theorem mistyped_banner (number : Nat) (page : LoginPage) (state : State) (index : Nat)
    (accepted : page.email ≠ "") (rejected : emailError page.value ≠ none) :
    ∃ shown, ((press state index number page).devices index).page = some (number, shown) ∧
      shown.banner = some (loginLinkSent page.email) := by
  refine ⟨page.setState, ?_, LoginPage.setState_banner.mpr ⟨accepted, rfl⟩⟩
  rw [press, if_neg rejected, LoginPage.validate_rejected rejected, State.devices_update_same]

end Clubzey.Proofs.LoginTruth
