import Mathlib

/-! Finite runs of a partial step function. A run is the list of its events, so
quantifying over runs quantifies over every order in which the events can fire.
A guard restricts which events a run may take in which states. -/

namespace Clubzey.Foundation.Runs

variable {σ : Type u} {ε : Type v} {step : σ → ε → Option σ}

/-- The state a list of events leads to, or `none` when one of them is not
enabled where the run reaches it. -/
def run (step : σ → ε → Option σ) : σ → List ε → Option σ
  | state, [] => some state
  | state, event :: events => (step state event).bind (run step · events)

@[simp] theorem run_nil (state : σ) : run step state [] = some state := rfl

theorem run_cons (state : σ) (event : ε) (events : List ε) :
    run step state (event :: events) = (step state event).bind (run step · events) := rfl

theorem run_first {state next : σ} {event : ε} {events : List ε} (stepped : step state event = some next) :
    run step state (event :: events) = run step next events := by
  rw [run_cons, stepped, Option.bind_some]

theorem run_append (state : σ) (first rest : List ε) :
    run step state (first ++ rest) = (run step state first).bind (run step · rest) := by
  induction first generalizing state with
  | nil => rfl
  | cons event events ih =>
    rw [List.cons_append, run_cons, run_cons]
    cases step state event with
    | none => rfl
    | some next => exact ih next

theorem run_trans {state middle final : σ} {first rest : List ε}
    (earlier : run step state first = some middle) (later : run step middle rest = some final) :
    run step state (first ++ rest) = some final := by
  rw [run_append, earlier]
  exact later

def Keeps (step : σ → ε → Option σ) (guard : σ → ε → Prop) (assertion : σ → Prop) : Prop :=
  ∀ before event after, assertion before → guard before event →
    step before event = some after → assertion after

def Meets (step : σ → ε → Option σ) (guard : σ → ε → Prop) : σ → List ε → Prop
  | _, [] => True
  | state, event :: events =>
      guard state event ∧ ∀ next, step state event = some next → Meets step guard next events

theorem meets_first {guard : σ → ε → Prop} {state next : σ} {event : ε} {events : List ε}
    (stepped : step state event = some next) (allowed : guard state event)
    (rest : Meets step guard next events) : Meets step guard state (event :: events) := by
  refine ⟨allowed, ?_⟩
  intro other reached
  rw [stepped] at reached
  cases reached
  exact rest

theorem Meets.last {guard : σ → ε → Prop} {state reached : σ} {events rest : List ε} {event : ε}
    (meets : Meets step guard state (events ++ event :: rest)) (ran : run step state events = some reached) :
    guard reached event := by
  induction events generalizing state with
  | nil =>
    cases ran
    exact meets.1
  | cons first events ih =>
    obtain ⟨next, stepped, ran⟩ := Option.bind_eq_some_iff.mp ran
    exact ih (meets.2 next stepped) ran

/-- Two guards that agree wherever an assertion holds, which the first one keeps, allow
the same runs. -/
theorem meets_congr {first second : σ → ε → Prop} {assertion : σ → Prop}
    (exact : ∀ state event, assertion state → (first state event ↔ second state event))
    (keeps : ∀ before event after, assertion before → first before event →
      step before event = some after → assertion after)
    {state : σ} {events : List ε} (holds : assertion state) :
    Meets step first state events ↔ Meets step second state events := by
  induction events generalizing state with
  | nil => exact Iff.rfl
  | cons event events ih =>
    constructor
    · intro meets
      obtain ⟨allowed, rest⟩ := meets
      refine ⟨(exact state event holds).mp allowed, ?_⟩
      intro next stepped
      exact (ih (keeps state event next holds allowed stepped)).mp (rest next stepped)
    · intro meets
      obtain ⟨allowed, rest⟩ := meets
      have permitted := (exact state event holds).mpr allowed
      refine ⟨permitted, ?_⟩
      intro next stepped
      exact (ih (keeps state event next holds permitted stepped)).mpr (rest next stepped)

/-- The rule of invariants for guarded runs: a step lemma gives the run lemma. -/
theorem Keeps.run {guard : σ → ε → Prop} {assertion : σ → Prop} (keeps : Keeps step guard assertion)
    {state final : σ} {events : List ε} (initial : assertion state)
    (guarded : Meets step guard state events) (ran : run step state events = some final) :
    assertion final := by
  induction events generalizing state with
  | nil =>
    cases ran
    exact initial
  | cons event events ih =>
    obtain ⟨next, stepped, rest⟩ := Option.bind_eq_some_iff.mp ran
    have kept := keeps state event next initial guarded.1 stepped
    exact ih kept (guarded.2 next stepped) rest

def Free : σ → ε → Prop := fun _ _ => True

theorem meets_free (state : σ) (events : List ε) : Meets step Free state events := by
  induction events generalizing state with
  | nil => trivial
  | cons event events ih => exact ⟨trivial, fun next _ => ih next⟩

theorem Keeps.always {assertion : σ → Prop} (keeps : Keeps step Free assertion)
    {state final : σ} {events : List ε} (initial : assertion state)
    (ran : Runs.run step state events = some final) : assertion final :=
  keeps.run initial (meets_free state events) ran

theorem Keeps.restrict {allowed guard : σ → ε → Prop} {assertion : σ → Prop} (keeps : Keeps step allowed assertion)
    (implies : ∀ state event, guard state event → allowed state event) : Keeps step guard assertion :=
  fun before event after holds permitted stepped =>
    keeps before event after holds (implies before event permitted) stepped

theorem Meets.and {first second : σ → ε → Prop} {state : σ} {events : List ε}
    (left : Meets step first state events) (right : Meets step second state events) :
    Meets step (fun state event => first state event ∧ second state event) state events := by
  induction events generalizing state with
  | nil => trivial
  | cons event events ih =>
    refine ⟨⟨left.1, right.1⟩, ?_⟩
    intro next stepped
    exact ih (left.2 next stepped) (right.2 next stepped)

theorem Keeps.and {guard : σ → ε → Prop} {first second : σ → Prop}
    (keeps : Keeps step guard first)
    (under : Keeps step (fun state event => guard state event ∧ first state) second) :
    Keeps step guard (fun state => first state ∧ second state) := by
  intro before event after holds allowed stepped
  exact ⟨keeps before event after holds.1 allowed stepped,
    under before event after holds.2 ⟨allowed, holds.1⟩ stepped⟩

def Throughout (step : σ → ε → Option σ) (assertion : σ → Prop) (state : σ) (events : List ε) : Prop :=
  ∀ earlier later reached, events = earlier ++ later → run step state earlier = some reached → assertion reached

theorem throughout_cons {assertion : σ → Prop} {state : σ} {event : ε} {events : List ε} :
    Throughout step assertion state (event :: events) ↔
      assertion state ∧ ∀ next, step state event = some next → Throughout step assertion next events := by
  constructor
  · intro always
    refine ⟨always [] _ state rfl rfl, ?_⟩
    intro next stepped earlier later reached split ran
    apply always (event :: earlier) later reached
    · rw [split, List.cons_append]
    · rw [run_first stepped, ran]
  · intro holds earlier later reached split ran
    obtain ⟨now, rest⟩ := holds
    cases earlier with
    | nil =>
      cases ran
      exact now
    | cons first earlier =>
      obtain ⟨same, tail⟩ := List.cons.inj split
      obtain ⟨next, stepped, ran⟩ := Option.bind_eq_some_iff.mp ran
      rw [← same] at stepped
      exact rest next stepped earlier later reached tail ran

/-- Where an enabled event leads to a good state exactly when it is allowed, the run
stays in good states exactly when all its events are allowed. -/
theorem Keeps.throughout_iff {guard : σ → ε → Prop} {invariant assertion : σ → Prop}
    (keeps : Keeps step Free invariant)
    (exact : ∀ state event next, invariant state → assertion state → step state event = some next →
      (assertion next ↔ guard state event))
    (disabled : ∀ state event, step state event = none → guard state event)
    {state : σ} {events : List ε} (holds : invariant state) (good : assertion state) :
    Throughout step assertion state events ↔ Meets step guard state events := by
  induction events generalizing state with
  | nil =>
    refine ⟨fun _ => trivial, ?_⟩
    intro _ earlier later reached split ran
    obtain ⟨rfl, _⟩ := List.append_eq_nil_iff.mp split.symm
    cases ran
    exact good
  | cons event events ih =>
    rw [throughout_cons]
    constructor
    · intro always
      obtain ⟨_, rest⟩ := always
      refine ⟨?_, ?_⟩
      · cases stepped : step state event with
        | none => exact disabled state event stepped
        | some next =>
          have now := rest next stepped [] _ next rfl rfl
          exact (exact state event next holds good stepped).mp now
      · intro next stepped
        have now := rest next stepped [] _ next rfl rfl
        exact (ih (keeps state event next holds trivial stepped) now).mp (rest next stepped)
    · intro meets
      obtain ⟨allowed, rest⟩ := meets
      refine ⟨good, ?_⟩
      intro next stepped
      have now := (exact state event next holds good stepped).mpr allowed
      exact (ih (keeps state event next holds trivial stepped) now).mpr (rest next stepped)

end Clubzey.Foundation.Runs
