import Clubzey.Systems.Subscription

/-! Runs that overlap. A run decides from the list it read what to unsubscribe and
later overwrites the list with its own snapshot, so a topic that another run
subscribes in between is forgotten. -/

namespace Clubzey.Proofs.TopicOverlap
open Dart Backend Foundation Systems.Subscription

def Served (state : State) : Event → Prop
  | .issue run served => ∀ new old, state.runs run = .loaded new old → served = requests old new
  | _ => True

/-- A run that reads the list has the same clubs as every run that has read it and
not issued its requests, no club beyond those of a run that has issued them and not
put its list, and no topic to give up that the list does not name. -/
def Compatible (state : State) : Event → Prop
  | .load run => ∀ new, state.runs run = .listed new →
      (∀ other clubs old, state.runs other = .loaded clubs old → ∀ topic, topic ∈ clubs ↔ topic ∈ new) ∧
      (∀ other clubs, state.runs other = .issued clubs → ∀ topic ∈ new, topic ∈ clubs) ∧
      ∀ topic ∈ state.device.topics, topic ∈ new ∨ topic ∈ state.device.subscriptionMembersList
  | _ => True

structure Valid (state : State) : Prop where
  together : ∀ first second clubs old more older, state.runs first = .loaded clubs old →
    state.runs second = .loaded more older → ∀ topic, topic ∈ clubs ↔ topic ∈ more
  within : ∀ first second clubs old more, state.runs first = .loaded clubs old →
    state.runs second = .issued more → ∀ topic ∈ clubs, topic ∈ more
  known : ∀ run new old, state.runs run = .loaded new old → ∀ topic ∈ state.device.topics, topic ∈ new ∨ topic ∈ old
  subscribed : ∀ run new, state.runs run = .issued new → ∀ topic ∈ state.device.topics, topic ∈ new
  recorded : state.device.Recorded ∨ ∃ run new, state.runs run = .issued new

theorem initial : Valid {} := by
  refine ⟨?_, ?_, ?_, ?_, Or.inl ?_⟩
  · intro first second clubs old more older loaded
    cases loaded
  · intro first second clubs old more loaded
    cases loaded
  · intro run new old loaded
    cases loaded
  · intro run new issued
    cases issued
  · intro topic member
    simp at member

/-- A step after which fewer runs are between their read and their put, and fewer
topics are subscribed, has only the list to answer for. -/
private theorem fewer {state after : State} (valid : Valid state)
    (loadedBefore : ∀ run new old, after.runs run = .loaded new old → state.runs run = .loaded new old)
    (issuedBefore : ∀ run new, after.runs run = .issued new → state.runs run = .issued new)
    (topics : ∀ topic ∈ after.device.topics, topic ∈ state.device.topics)
    (recorded : after.device.Recorded ∨ ∃ run new, after.runs run = .issued new) : Valid after := by
  refine ⟨?_, ?_, ?_, ?_, recorded⟩
  · intro first second clubs old more older loaded other
    exact valid.together first second clubs old more older (loadedBefore _ _ _ loaded) (loadedBefore _ _ _ other)
  · intro first second clubs old more loaded issued
    exact valid.within first second clubs old more (loadedBefore _ _ _ loaded) (issuedBefore _ _ issued)
  · intro run new old loaded topic member
    exact valid.known run new old (loadedBefore _ _ _ loaded) topic (topics topic member)
  · intro run new issued topic member
    exact valid.subscribed run new (issuedBefore _ _ issued) topic (topics topic member)

private theorem listed {state : State} (valid : Valid state) (run : Nat) (snapshot : Except Thrown (List Fields))
    (idle : state.runs run = .idle) : Valid (state.move run (.list state.currentUser snapshot)) := by
  have notLoaded : ∀ new old, Phase.list state.currentUser snapshot ≠ .loaded new old := by
    intro new old
    unfold Phase.list
    split <;> simp
  have notIssued : ∀ new, Phase.list state.currentUser snapshot ≠ .issued new := by
    intro new
    unfold Phase.list
    split <;> simp
  refine fewer valid ?_ ?_ (fun _ member => member) ?_
  · intro other new old loaded
    exact move_before loaded (notLoaded new old)
  · intro other new issued
    exact move_before issued (notIssued new)
  · rcases valid.recorded with recorded | ⟨other, new, issued⟩
    · exact Or.inl recorded
    · refine Or.inr ⟨other, new, ?_⟩
      have different : other ≠ run := by
        intro same
        subst other
        rw [idle] at issued
        cases issued
      rwa [move_other state _ different]

private theorem loaded {state : State} (valid : Valid state) (run : Nat) (new : List String)
    (listed : state.runs run = .listed new) (compatible : Compatible state (.load run)) :
    Valid (state.move run (.loaded new state.device.subscriptionMembersList)) := by
  obtain ⟨sameClubs, fewerClubs, named⟩ := compatible new listed
  refine ⟨?_, ?_, ?_, ?_, ?_⟩
  · intro first second clubs old more older firstLoaded secondLoaded
    rcases move_cases firstLoaded with ⟨_, first⟩ | ⟨_, first⟩
    · cases first
      rcases move_cases secondLoaded with ⟨_, second⟩ | ⟨_, second⟩
      · cases second
        exact fun _ => Iff.rfl
      · exact fun topic => (sameClubs _ more older second topic).symm
    · rcases move_cases secondLoaded with ⟨_, second⟩ | ⟨_, second⟩
      · cases second
        exact sameClubs _ clubs old first
      · exact valid.together _ _ clubs old more older first second
  · intro first second clubs old more firstLoaded secondIssued
    rcases move_cases secondIssued with ⟨_, impossible⟩ | ⟨_, second⟩
    · cases impossible
    · rcases move_cases firstLoaded with ⟨_, first⟩ | ⟨_, first⟩
      · cases first
        exact fewerClubs _ more second
      · exact valid.within _ _ clubs old more first second
  · intro other clubs old otherLoaded
    rcases move_cases otherLoaded with ⟨_, now⟩ | ⟨_, before⟩
    · cases now
      exact named
    · exact valid.known other clubs old before
  · intro other clubs issued
    rcases move_cases issued with ⟨_, impossible⟩ | ⟨_, before⟩
    · cases impossible
    · exact valid.subscribed other clubs before
  · rcases valid.recorded with recorded | ⟨other, clubs, issued⟩
    · exact Or.inl recorded
    · refine Or.inr ⟨other, clubs, ?_⟩
      have different : other ≠ run := by
        intro same
        subst other
        rw [listed] at issued
        cases issued
      rwa [move_other state _ different]

private theorem issue_topics {state : State} (valid : Valid state) {run : Nat} {new old : List String}
    (standing : state.runs run = .loaded new old) {topic : String}
    (member : topic ∈ (state.device.perform (requests old new)).topics) : topic ∈ new := by
  rcases (mem_perform_requests _ _ _ _).mp member with listed | ⟨subscribed, unlisted⟩
  · exact listed
  · rcases valid.known run new old standing topic subscribed with listed | impossible
    · exact listed
    · exact absurd impossible unlisted

private theorem issued {state : State} (valid : Valid state) (run : Nat) (new old : List String)
    (standing : state.runs run = .loaded new old) : Valid (state.issue run new (requests old new)) := by
  refine ⟨?_, ?_, ?_, ?_, Or.inr ⟨run, new, by rw [issue_runs, move_same]⟩⟩
  · intro first second clubs older more oldest firstLoaded secondLoaded
    rcases move_cases firstLoaded with ⟨_, impossible⟩ | ⟨_, first⟩
    · cases impossible
    · rcases move_cases secondLoaded with ⟨_, impossible⟩ | ⟨_, second⟩
      · cases impossible
      · exact valid.together _ _ clubs older more oldest first second
  · intro first second clubs older more firstLoaded secondIssued
    rcases move_cases firstLoaded with ⟨_, impossible⟩ | ⟨_, first⟩
    · cases impossible
    · rcases move_cases secondIssued with ⟨_, now⟩ | ⟨_, second⟩
      · cases now
        intro topic member
        exact (valid.together _ _ clubs older new old first standing topic).mp member
      · exact valid.within _ _ clubs older more first second
  · intro other clubs older otherLoaded topic member
    rcases move_cases otherLoaded with ⟨_, impossible⟩ | ⟨_, before⟩
    · cases impossible
    · have listed := issue_topics valid standing member
      exact Or.inl ((valid.together _ _ clubs older new old before standing topic).mpr listed)
  · intro other clubs otherIssued topic member
    have listed := issue_topics valid standing member
    rcases move_cases otherIssued with ⟨_, now⟩ | ⟨_, before⟩
    · cases now
      exact listed
    · exact valid.within _ _ new old clubs standing before topic listed

private theorem put {state : State} (valid : Valid state) (run : Nat) (new : List String)
    (standing : state.runs run = .issued new) : Valid (state.put run new) := by
  refine fewer valid ?_ ?_ (fun _ member => member) (Or.inl (valid.subscribed run new standing))
  · intro other clubs old loaded
    exact move_before loaded (by simp)
  · intro other clubs issued
    exact move_before issued (by simp)

theorem preserved : Runs.Keeps step (fun state event => Served state event ∧ Compatible state event) Valid := by
  intro before event after valid allowed transitioned
  obtain ⟨served, compatible⟩ := allowed
  cases transition transitioned with
  | signedIn email =>
    exact fewer valid (fun _ _ _ loaded => loaded) (fun _ _ issued => issued) (fun _ member => member) valid.recorded
  | signedOut =>
    exact fewer valid (fun _ _ _ loaded => loaded) (fun _ _ issued => issued) (fun _ member => member) valid.recorded
  | tokenDeleted =>
    have dropped : ∀ topic, topic ∉ before.device.deleteToken.topics := by simp [Device.deleteToken]
    refine fewer valid (fun _ _ _ loaded => loaded) (fun _ _ issued => issued) ?_ (Or.inl ?_)
    · intro topic member
      exact absurd member (dropped topic)
    · intro topic member
      exact absurd member (dropped topic)
  | listed run snapshot idle => exact listed valid run snapshot idle
  | loaded run new listed => exact loaded valid run new listed compatible
  | issued run new old requested standing sublist =>
    rw [served new old standing]
    exact issued valid run new old standing
  | put run new standing => exact put valid run new standing

/-- After every interleaving of compatible runs, whenever no run is in flight every
topic is on the list. -/
theorem quiet_topics_recorded {events : List Event} {state : State} (ran : Runs.run step {} events = some state)
    (served : Runs.Meets step Served {} events) (compatible : Runs.Meets step Compatible {} events)
    (quiet : state.Quiet) : state.device.Recorded := by
  have valid := preserved.run initial (served.and compatible) ran
  rcases valid.recorded with recorded | ⟨run, new, issued⟩
  · exact recorded
  · have inFlight := quiet run
    rw [issued] at inFlight
    exact absurd trivial inFlight

def sameClubs : List Event :=
  [.signIn "ann@example.com", .list 0 (clubsOf ["c1"]), .list 1 (clubsOf ["c1"]), .load 0, .load 1,
    .issue 0 (requests [] ["c1"]), .issue 1 (requests [] ["c1"]), .put 0, .put 1]

def bothListed : State :=
  (({ currentUser := some "ann@example.com" } : State).move 0 (.listed ["c1"])).move 1 (.listed ["c1"])

def oneLoaded : State := bothListed.move 0 (.loaded ["c1"] [])

def bothIssued : State :=
  ((oneLoaded.move 1 (.loaded ["c1"] [])).issue 0 ["c1"] (requests [] ["c1"])).issue 1 ["c1"] (requests [] ["c1"])

def bothPut : State := (bothIssued.put 0 ["c1"]).put 1 ["c1"]

private theorem bothListed_runs (run : Nat) :
    bothListed.runs run = .listed ["c1"] ∨ bothListed.runs run = .idle := by
  rcases move_cases (rfl : bothListed.runs run = bothListed.runs run) with ⟨_, listed⟩ | ⟨_, before⟩
  · exact Or.inl listed.symm
  · rcases move_cases before with ⟨_, listed⟩ | ⟨_, idle⟩
    · exact Or.inl listed.symm
    · exact Or.inr idle.symm

private theorem oneLoaded_runs (run : Nat) :
    oneLoaded.runs run = .loaded ["c1"] [] ∨ oneLoaded.runs run = .listed ["c1"] ∨ oneLoaded.runs run = .idle := by
  rcases move_cases (rfl : oneLoaded.runs run = oneLoaded.runs run) with ⟨_, loaded⟩ | ⟨_, before⟩
  · exact Or.inl loaded.symm
  · rw [← before]
    exact Or.inr (bothListed_runs run)

private theorem quiet_pair {state : State} (zero : state.runs 0 = .finished) (one : state.runs 1 = .finished)
    (others : ∀ run, run ≠ 0 → run ≠ 1 → state.runs run = .idle) : state.Quiet := by
  intro run inFlight
  by_cases isZero : run = 0
  · subst run
    rw [zero] at inFlight
    exact inFlight
  · by_cases isOne : run = 1
    · subst run
      rw [one] at inFlight
      exact inFlight
    · rw [others run isZero isOne] at inFlight
      exact inFlight

private theorem bothPut_quiet : bothPut.Quiet := by
  apply quiet_pair rfl rfl
  intro run notZero notOne
  simp [bothPut, bothIssued, oneLoaded, bothListed, State.put, State.issue, State.move, notZero, notOne]

theorem same_clubs_recorded : bothPut.device.Recorded := by
  have ran : Runs.run step {} sameClubs = some bothPut := rfl
  have served : Runs.Meets step Served {} sameClubs := by
    refine Runs.meets_first rfl trivial (Runs.meets_first rfl trivial (Runs.meets_first rfl trivial
      (Runs.meets_first rfl trivial (Runs.meets_first rfl trivial (Runs.meets_first rfl ?_ (Runs.meets_first rfl ?_
      (Runs.meets_first rfl trivial (Runs.meets_first rfl trivial trivial))))))))
    · intro new old loaded
      cases loaded
      rfl
    · intro new old loaded
      cases loaded
      rfl
  have compatible : Runs.Meets step Compatible {} sameClubs := by
    refine Runs.meets_first rfl trivial (Runs.meets_first rfl trivial (Runs.meets_first rfl trivial
      (Runs.meets_first rfl ?_ (Runs.meets_first rfl ?_ (Runs.meets_first rfl trivial (Runs.meets_first rfl trivial
      (Runs.meets_first rfl trivial (Runs.meets_first rfl trivial trivial))))))))
    · intro new listed
      cases listed
      refine ⟨?_, ?_, ?_⟩
      · intro other clubs old loaded
        change bothListed.runs other = _ at loaded
        rcases bothListed_runs other with same | same <;> rw [same] at loaded <;> cases loaded
      · intro other clubs issued
        change bothListed.runs other = _ at issued
        rcases bothListed_runs other with same | same <;> rw [same] at issued <;> cases issued
      · intro topic member
        cases member
    · intro new listed
      cases listed
      refine ⟨?_, ?_, ?_⟩
      · intro other clubs old loaded topic
        change oneLoaded.runs other = _ at loaded
        rcases oneLoaded_runs other with same | same | same <;> rw [same] at loaded <;> cases loaded
        exact Iff.rfl
      · intro other clubs issued
        change oneLoaded.runs other = _ at issued
        rcases oneLoaded_runs other with same | same | same <;> rw [same] at issued <;> cases issued
      · intro topic member
        cases member
  exact quiet_topics_recorded ran served compatible bothPut_quiet

/-- From here, with every request served, the runs in flight can end with a topic
that is not on the list. -/
def Loses (state : State) : Prop :=
  ∃ rest final, Runs.run step state rest = some final ∧ Runs.Meets step Served state rest ∧
    final.Quiet ∧ ¬ final.device.Recorded

private theorem loses_earlier {state next : State} {event : Event} (stepped : step state event = some next)
    (served : Served state event) (loses : Loses next) : Loses state := by
  obtain ⟨rest, final, ran, meets, lost⟩ := loses
  exact ⟨event :: rest, final, (Runs.run_first stepped).trans ran, Runs.meets_first stepped served meets, lost⟩

def Only (state : State) (first last : Nat) : Prop :=
  ∀ run, run ≠ first → run ≠ last → ¬ (state.runs run).InFlight

private theorem only_first {state : State} {first last : Nat} (only : Only state first last) (phase : Phase) :
    Only (state.move first phase) first last := by
  intro run notFirst notLast
  rw [move_other state phase notFirst]
  exact only run notFirst notLast

private theorem only_symm {state : State} {first last : Nat} (only : Only state first last) : Only state last first :=
  fun run notLast notFirst => only run notFirst notLast

private theorem both_issued_lose {state : State} {first last : Nat} {more new : List String} {topic : String}
    (different : last ≠ first) (only : Only state first last) (firstIssued : state.runs first = .issued more)
    (lastIssued : state.runs last = .issued new) (subscribed : topic ∈ state.device.topics)
    (forgotten : topic ∉ new) : Loses state := by
  have stillIssued : (state.put first more).runs last = .issued new := by
    rw [put_runs, move_other state _ different, lastIssued]
  -- The last put decides what is remembered.
  refine ⟨[.put first, .put last], (state.put first more).put last new, ?_, ?_, ?_, ?_⟩
  · rw [Runs.run_first (step_put firstIssued), Runs.run_first (step_put stillIssued), Runs.run_nil]
  · exact Runs.meets_first (step_put firstIssued) trivial (Runs.meets_first (step_put stillIssued) trivial trivial)
  · intro run inFlight
    by_cases isLast : run = last
    · subst run
      rw [put_runs, move_same] at inFlight
      exact inFlight
    · rw [put_runs, move_other _ _ isLast, put_runs] at inFlight
      by_cases isFirst : run = first
      · subst run
        rw [move_same] at inFlight
        exact inFlight
      · rw [move_other _ _ isFirst] at inFlight
        exact only run isFirst isLast inFlight
  · intro recorded
    exact forgotten (recorded topic subscribed)

private theorem issue_served {state : State} {run : Nat} {new old : List String}
    (loaded : state.runs run = .loaded new old) : Served state (.issue run (requests old new)) := by
  intro clubs older same
  rw [loaded] at same
  cases same
  rfl

private theorem issued_after_lose {state : State} {first last : Nat} {more new old : List String} {topic : String}
    (different : last ≠ first) (only : Only state first last) (firstLoaded : state.runs first = .loaded more old)
    (lastIssued : state.runs last = .issued new) (subscribes : topic ∈ more) (forgotten : topic ∉ new) :
    Loses state := by
  apply loses_earlier (step_issued firstLoaded (List.Sublist.refl _)) (issue_served firstLoaded)
  have firstIssued : (state.issue first more (requests old more)).runs first = .issued more := move_same ..
  have stillIssued : (state.issue first more (requests old more)).runs last = .issued new := by
    rw [issue_runs, move_other state _ different, lastIssued]
  have subscribed : topic ∈ (state.issue first more (requests old more)).device.topics :=
    (mem_perform_requests _ _ _ _).mpr (Or.inl subscribes)
  exact both_issued_lose different (only_first only (.issued more)) firstIssued stillIssued subscribed forgotten

private theorem both_loaded_lose {state : State} {first last : Nat} {more new old older : List String} {topic : String}
    (different : last ≠ first) (only : Only state first last) (firstLoaded : state.runs first = .loaded more old)
    (lastLoaded : state.runs last = .loaded new older) (subscribes : topic ∈ more) (forgotten : topic ∉ new) :
    Loses state := by
  apply loses_earlier (step_issued lastLoaded (List.Sublist.refl _)) (issue_served lastLoaded)
  have stillLoaded : (state.issue last new (requests older new)).runs first = .loaded more old := by
    rw [issue_runs, move_other state _ (Ne.symm different), firstLoaded]
  have lastIssued : (state.issue last new (requests older new)).runs last = .issued new := move_same ..
  exact issued_after_lose different (only_symm (only_first (only_symm only) (.issued new))) stillLoaded lastIssued
    subscribes forgotten

private theorem unnamed_lose {state : State} {first last : Nat} {more new old : List String} {topic : String}
    (different : last ≠ first) (only : Only state first last) (firstIssued : state.runs first = .issued more)
    (lastLoaded : state.runs last = .loaded new old) (subscribed : topic ∈ state.device.topics)
    (unlisted : topic ∉ old) (forgotten : topic ∉ new) : Loses state := by
  apply loses_earlier (step_issued lastLoaded (List.Sublist.refl _)) (issue_served lastLoaded)
  have stillIssued : (state.issue last new (requests old new)).runs first = .issued more := by
    rw [issue_runs, move_other state _ (Ne.symm different), firstIssued]
  have lastIssued : (state.issue last new (requests old new)).runs last = .issued new := move_same ..
  have kept : topic ∈ (state.issue last new (requests old new)).device.topics :=
    (mem_perform_requests _ _ _ _).mpr (Or.inr ⟨subscribed, unlisted⟩)
  exact both_issued_lose different (only_symm (only_first (only_symm only) (.issued new))) stillIssued lastIssued kept
    forgotten

/-- The first incompatible read is always enough to lose a topic, when at most one
other run is in flight at it. -/
theorem incompatible_loses {events : List Event} {state : State} (ran : Runs.run step {} events = some state)
    (served : Runs.Meets step Served {} events) (compatible : Runs.Meets step Compatible {} events)
    {run other : Nat} (different : run ≠ other) (only : Only state other run)
    (incompatible : ¬ Compatible state (.load run)) :
    ∃ next, step state (.load run) = some next ∧ Loses next := by
  have valid := preserved.run initial (served.and compatible) ran
  simp only [Compatible, not_forall] at incompatible
  obtain ⟨new, listed, violated⟩ := incompatible
  refine ⟨_, step_loaded listed, ?_⟩
  have onlyNext := only_symm (only_first (only_symm only) (.loaded new state.device.subscriptionMembersList))
  have loaded := move_same state run (.loaded new state.device.subscriptionMembersList)
  have isOther : ∀ {third phase}, state.runs third = phase → phase.InFlight → phase ≠ .listed new → third = other := by
    intro third phase stands inFlight unlisted
    by_contra notOther
    have notRun : third ≠ run := by
      intro same
      subst third
      exact unlisted (stands.symm.trans listed)
    exact only third notOther notRun (stands ▸ inFlight)
  have stays : ∀ {phase}, state.runs other = phase →
      (state.move run (.loaded new state.device.subscriptionMembersList)).runs other = phase := by
    intro phase stands
    rw [move_other state _ (Ne.symm different), stands]
  rw [not_and_or, not_and_or] at violated
  rcases violated with unlike | beyond | unnamed
  · simp only [not_forall] at unlike
    obtain ⟨third, clubs, old, standing, topic, unlike⟩ := unlike
    cases isOther standing trivial (by simp)
    by_cases inClubs : topic ∈ clubs
    · have notInNew : topic ∉ new := fun inNew => unlike ⟨fun _ => inNew, fun _ => inClubs⟩
      exact both_loaded_lose different onlyNext (stays standing) loaded inClubs notInNew
    · have inNew : topic ∈ new := by
        by_contra notInNew
        exact unlike ⟨fun member => absurd member inClubs, fun member => absurd member notInNew⟩
      exact both_loaded_lose (Ne.symm different) (only_symm onlyNext) loaded (stays standing) inNew inClubs
  · simp only [not_forall] at beyond
    obtain ⟨third, clubs, standing, topic, inNew, notInClubs⟩ := beyond
    cases isOther standing trivial (by simp)
    exact issued_after_lose (Ne.symm different) (only_symm onlyNext) loaded (stays standing) inNew notInClubs
  · simp only [not_forall, not_or] at unnamed
    obtain ⟨topic, subscribed, notInNew, unlisted⟩ := unnamed
    rcases valid.recorded with recorded | ⟨third, clubs, standing⟩
    · exact absurd (recorded topic subscribed) unlisted
    · cases isOther standing trivial (by simp)
      exact unnamed_lose different onlyNext (stays standing) loaded subscribed unlisted notInNew

/-- The second run reads the empty list before the first has put its own. -/
def lostUpdate : List Event :=
  [.signIn "ann@example.com", .list 0 (clubsOf ["c1"]), .list 1 (clubsOf ["c2"]), .load 0, .load 1,
    .issue 0 (requests [] ["c1"]), .put 0, .issue 1 (requests [] ["c2"]), .put 1]

def bothRead : State :=
  (((({ currentUser := some "ann@example.com" } : State).move 0 (.listed ["c1"])).move 1 (.listed ["c2"])).move 0
    (.loaded ["c1"] [])).move 1 (.loaded ["c2"] [])

def overwritten : State :=
  (((bothRead.issue 0 ["c1"] (requests [] ["c1"])).put 0 ["c1"]).issue 1 ["c2"] (requests [] ["c2"])).put 1 ["c2"]

theorem lost_update_unrecorded : ¬ ∀ events state, Runs.run step {} events = some state →
    Runs.Meets step Served {} events → state.Quiet → state.device.Recorded := by
  intro always
  have ran : Runs.run step {} lostUpdate = some overwritten := rfl
  have served : Runs.Meets step Served {} lostUpdate := by
    refine Runs.meets_first rfl trivial (Runs.meets_first rfl trivial (Runs.meets_first rfl trivial
      (Runs.meets_first rfl trivial (Runs.meets_first rfl trivial (Runs.meets_first rfl ?_ (Runs.meets_first rfl trivial
      (Runs.meets_first rfl ?_ (Runs.meets_first rfl trivial trivial))))))))
    · intro new old loaded
      cases loaded
      rfl
    · intro new old loaded
      cases loaded
      rfl
  have quiet : overwritten.Quiet := by
    apply quiet_pair rfl rfl
    intro run notZero notOne
    simp [overwritten, bothRead, State.put, State.issue, State.move, notZero, notOne]
  exact absurd (always lostUpdate overwritten ran served quiet) (by decide)

end Clubzey.Proofs.TopicOverlap
