import Clubzey.Foundation.Runs

/-! Handlers that run among each other over one shared state. A handler makes one request at
a time and goes on with the answer; between two of its requests any other may be served. -/

namespace Clubzey.Foundation

/-- What is left of a handler: nothing, or a request and what follows each answer. -/
inductive Handler (κ : Type u) (β : Type v) where
  | stop
  | ask (request : κ) (resume : β → Handler κ β)

namespace Handler
variable {κ : Type u} {β : Type v}

def next : Handler κ β → Option κ
  | .stop => none
  | .ask request _ => some request

/-- What is left after these answers. -/
def follow : Handler κ β → List β → Handler κ β
  | .ask _ resume, answer :: answers => (resume answer).follow answers
  | handler, _ => handler

@[simp] theorem follow_nil (handler : Handler κ β) : handler.follow [] = handler := by
  cases handler <;> rfl

@[simp] theorem follow_stop (answers : List β) : (stop : Handler κ β).follow answers = .stop := by
  cases answers <;> rfl

@[simp] theorem follow_ask (request : κ) (resume : β → Handler κ β) (answer : β) (answers : List β) :
    (ask request resume).follow (answer :: answers) = (resume answer).follow answers := rfl

theorem follow_append (handler : Handler κ β) (first rest : List β) :
    handler.follow (first ++ rest) = (handler.follow first).follow rest := by
  induction first generalizing handler with
  | nil => rw [List.nil_append, follow_nil]
  | cons answer answers ih =>
    cases handler with
    | stop => simp
    | ask request resume => exact ih (resume answer)

end Handler

namespace Handlers
variable {σ : Type u} {π : Type v} {κ : Type w} {β : Type x} {μ : Type y}

/-- A request as it was served. -/
structure Exchange (κ : Type w) (β : Type x) (μ : Type y) where
  handler : ℕ
  request : κ
  moment : μ
  answer : β

structure State (σ : Type u) (π : Type v) (κ : Type w) (β : Type x) (μ : Type y) where
  shared : σ
  /-- The handlers begun so far, each with what began it. -/
  running : List (π × Handler κ β) := []
  /-- What has been served, for stating where the shared state comes from. -/
  history : List (Exchange κ β μ) := []

inductive Event (π : Type v) (μ : Type y) where
  | start (press : π)
  | serve (handler : ℕ) (moment : μ)

def State.press (state : State σ π κ β μ) (index : ℕ) : Option π := state.running[index]?.map Prod.fst

def answersTo (index : ℕ) (history : List (Exchange κ β μ)) : List β :=
  (history.filter fun exchange => exchange.handler = index).map Exchange.answer

section
variable (perform : σ → κ → μ → β × σ) (program : π → Handler κ β)

def start (state : State σ π κ β μ) (press : π) : State σ π κ β μ :=
  { state with running := state.running ++ [(press, program press)] }

def serve (state : State σ π κ β μ) (index : ℕ) (moment : μ) (press : π) (request : κ)
    (resume : β → Handler κ β) : State σ π κ β μ :=
  let (answer, shared) := perform state.shared request moment
  { shared
    running := state.running.set index (press, resume answer)
    history := state.history ++ [⟨index, request, moment, answer⟩] }

def step (state : State σ π κ β μ) : Event π μ → Option (State σ π κ β μ)
  | .start press => some (start program state press)
  | .serve index moment =>
    match state.running[index]? with
    | some (press, .ask request resume) => some (serve perform state index moment press request resume)
    | _ => none

/-- The shared state that a history leads to. -/
def replay (initial : σ) (history : List (Exchange κ β μ)) : σ :=
  history.foldl (fun shared exchange => (perform shared exchange.request exchange.moment).2) initial

/-- The exchange continues the history: its handler has got so far, and the answer is the
one that the shared state gives. -/
structure Continues (initial : σ) (state : State σ π κ β μ) (earlier : List (Exchange κ β μ))
    (exchange : Exchange κ β μ) : Prop where
  asked : ∃ press, state.press exchange.handler = some press ∧
    ((program press).follow (answersTo exchange.handler earlier)).next = some exchange.request
  answered : exchange.answer = (perform (replay perform initial earlier) exchange.request exchange.moment).1

structure Sound (initial : σ) (state : State σ π κ β μ) : Prop where
  shared : state.shared = replay perform initial state.history
  running : ∀ index press handler, state.running[index]? = some (press, handler) →
    handler = (program press).follow (answersTo index state.history)
  begun : ∀ exchange ∈ state.history, exchange.handler < state.running.length
  continues : ∀ earlier exchange later, state.history = earlier ++ exchange :: later →
    Continues perform program initial state earlier exchange

variable {perform program} {initial : σ} {state after : State σ π κ β μ}

theorem replay_append (initial : σ) (first rest : List (Exchange κ β μ)) :
    replay perform initial (first ++ rest) = replay perform (replay perform initial first) rest := List.foldl_append

theorem answersTo_append (index : ℕ) (first rest : List (Exchange κ β μ)) :
    answersTo index (first ++ rest) = answersTo index first ++ answersTo index rest := by
  simp only [answersTo, List.filter_append, List.map_append]

theorem answersTo_other {index : ℕ} {history : List (Exchange κ β μ)}
    (other : ∀ exchange ∈ history, exchange.handler ≠ index) : answersTo index history = [] := by
  have none : history.filter (fun exchange => exchange.handler = index) = [] := by
    rw [List.filter_eq_nil_iff]
    intro exchange member
    simpa using other exchange member
  rw [answersTo, none, List.map_nil]

theorem answersTo_own {index : ℕ} {exchange : Exchange κ β μ} (own : exchange.handler = index)
    (history : List (Exchange κ β μ)) :
    answersTo index (history ++ [exchange]) = answersTo index history ++ [exchange.answer] := by
  simp [answersTo, own]

theorem answersTo_idle {index : ℕ} {exchange : Exchange κ β μ} (other : exchange.handler ≠ index)
    (history : List (Exchange κ β μ)) : answersTo index (history ++ [exchange]) = answersTo index history := by
  simp [answersTo, other]

variable (perform program) in
inductive Transition (state : State σ π κ β μ) : State σ π κ β μ → Prop where
  | started (press : π) : Transition state (start program state press)
  | served (index : ℕ) (moment : μ) (press : π) (request : κ) (resume : β → Handler κ β)
      (asking : state.running[index]? = some (press, .ask request resume)) :
      Transition state (serve perform state index moment press request resume)

theorem start_running (press : π) :
    (start program state press).running = state.running ++ [(press, program press)] := rfl

section
variable (index : ℕ) (moment : μ) (press : π) (request : κ) (resume : β → Handler κ β)

theorem serve_running : (serve perform state index moment press request resume).running =
    state.running.set index (press, resume (perform state.shared request moment).1) := rfl

theorem serve_history : (serve perform state index moment press request resume).history =
    state.history ++ [⟨index, request, moment, (perform state.shared request moment).1⟩] := rfl

end

theorem serve_left {index : ℕ} {press : π} {request : κ} {resume : β → Handler κ β}
    (asking : state.running[index]? = some (press, .ask request resume)) (moment : μ) :
    (serve perform state index moment press request resume).running[index]? =
      some (press, resume (perform state.shared request moment).1) := by
  obtain ⟨inside, -⟩ := List.getElem?_eq_some_iff.mp asking
  rw [serve_running, List.getElem?_set_self inside]

variable (perform program) in
theorem step_asking {index : ℕ} {press : π} {request : κ} {resume : β → Handler κ β}
    (asking : state.running[index]? = some (press, .ask request resume)) (moment : μ) :
    step perform program state (.serve index moment) = some (serve perform state index moment press request resume) := by
  simp only [step, asking]

theorem transition {event : Event π μ} (stepped : step perform program state event = some after) :
    Transition perform program state after := by
  cases event with
  | start press =>
    cases stepped
    exact .started press
  | serve index moment =>
    cases present : state.running[index]? with
    | none => simp only [step, present, reduceCtorEq] at stepped
    | some begun =>
      obtain ⟨press, handler⟩ := begun
      cases handler with
      | stop => simp only [step, present, reduceCtorEq] at stepped
      | ask request resume =>
        rw [step_asking perform program present, Option.some.injEq] at stepped
        exact stepped ▸ .served index moment press request resume present

/-- What has begun a handler stays what has begun it. -/
theorem Transition.press (moved : Transition perform program state after) {index : ℕ}
    {press : π} (begun : state.press index = some press) : after.press index = some press := by
  obtain ⟨⟨same, handler⟩, present, rfl⟩ := Option.map_eq_some_iff.mp begun
  obtain ⟨inside, -⟩ := List.getElem?_eq_some_iff.mp present
  cases moved with
  | started other => rw [State.press, start_running, List.getElem?_append_left inside, present, Option.map_some]
  | served changed moment press request resume asking =>
    by_cases here : changed = index
    · subst changed
      cases present.symm.trans asking
      rw [State.press, serve_running, List.getElem?_set_self inside, Option.map_some]
    · rw [State.press, serve_running, List.getElem?_set_ne here, present, Option.map_some]

theorem Continues.mono {earlier : List (Exchange κ β μ)} {exchange : Exchange κ β μ}
    (continues : Continues perform program initial state earlier exchange)
    (moved : Transition perform program state after) :
    Continues perform program initial after earlier exchange := by
  obtain ⟨⟨press, begun, asked⟩, answered⟩ := continues
  exact ⟨⟨press, moved.press begun, asked⟩, answered⟩

theorem sound_initial (initial : σ) :
    Sound perform program initial ({ shared := initial } : State σ π κ β μ) := by
  refine ⟨rfl, ?_, ?_, ?_⟩
  · intro index press handler impossible
    cases impossible
  · intro exchange impossible
    cases impossible
  · intro earlier exchange later impossible
    cases List.append_eq_nil_iff.mp impossible.symm |>.2

theorem Sound.started (sound : Sound perform program initial state) (press : π) :
    Sound perform program initial (start program state press) := by
  have moved : Transition perform program state _ := .started press
  refine ⟨sound.shared, ?_, ?_, ?_⟩
  · intro index begun handler present
    rw [start_running] at present
    by_cases old : index < state.running.length
    · rw [List.getElem?_append_left old] at present
      exact sound.running index begun handler present
    · rw [List.getElem?_append_right (Nat.le_of_not_lt old), List.getElem?_singleton] at present
      split at present
      next =>
        cases present
        have unasked : answersTo index state.history = [] := by
          apply answersTo_other
          intro exchange member
          have before := sound.begun exchange member
          omega
        exact (Handler.follow_nil _).symm.trans (congrArg _ unasked.symm)
      next => cases present
  · intro exchange member
    rw [start_running, List.length_append]
    exact Nat.lt_add_right _ (sound.begun exchange member)
  · intro earlier exchange later split
    exact (sound.continues earlier exchange later split).mono moved

theorem Sound.served (sound : Sound perform program initial state) {index : ℕ} (moment : μ) {press : π} {request : κ}
    {resume : β → Handler κ β} (asking : state.running[index]? = some (press, .ask request resume)) :
    Sound perform program initial (serve perform state index moment press request resume) := by
  have moved : Transition perform program state _ :=
    .served index moment press request resume asking
  obtain ⟨inside, -⟩ := List.getElem?_eq_some_iff.mp asking
  have left := sound.running index press _ asking
  refine ⟨?_, ?_, ?_, ?_⟩
  · rw [serve_history, replay_append, ← sound.shared]
    rfl
  · intro other begun handler present
    rw [serve_running] at present
    rw [serve_history]
    by_cases here : index = other
    · rw [answersTo_own here]
      subst other
      rw [List.getElem?_set_self inside] at present
      cases present
      rw [Handler.follow_append, ← left, Handler.follow_ask, Handler.follow_nil]
    · rw [List.getElem?_set_ne here] at present
      rw [answersTo_idle here]
      exact sound.running other begun handler present
  · intro exchange member
    rw [serve_running, List.length_set]
    rcases List.mem_append.mp member with old | new
    · exact sound.begun exchange old
    · rw [List.mem_singleton.mp new]
      exact inside
  · intro earlier exchange later split
    rw [serve_history] at split
    rcases List.eq_nil_or_concat' later with rfl | ⟨before, last, rfl⟩
    · obtain ⟨rfl, same⟩ := List.append_inj' split rfl
      cases same
      refine ⟨⟨press, moved.press ?_, ?_⟩, ?_⟩
      · rw [State.press, asking, Option.map_some]
      · rw [← left]
        rfl
      · rw [← sound.shared]
    · rw [← List.cons_append, ← List.append_assoc] at split
      obtain ⟨same, -⟩ := List.append_inj' split rfl
      exact (sound.continues earlier exchange before same).mono moved

theorem sound_preserved : Runs.Keeps (step perform program) Runs.Free (Sound perform program initial) := by
  intro before event after sound _ stepped
  cases transition stepped with
  | started press => exact sound.started press
  | served index moment press request resume asking => exact sound.served moment asking

/-- In every run each request is the one that its handler makes after the answers it has
had, and it is answered by the shared state that the requests before it have left. -/
theorem sound {events : List (Event π μ)}
    (ran : Runs.run (step perform program) { shared := initial } events = some state) :
    Sound perform program initial state := sound_preserved.always (sound_initial initial) ran

/-- No two wanted requests of a run are of one handler, where each handler makes them at a
turn of their own. -/
theorem Sound.once (sound : Sound perform program initial state) {wanted : κ → Prop} {turn : π → ℕ}
    (turns : ∀ press answers request, ((program press).follow answers).next = some request → wanted request →
      answers.length = turn press) :
    state.history.Pairwise fun earlier later =>
      wanted earlier.request → wanted later.request → earlier.handler ≠ later.handler := by
  have every : ∀ history rest, state.history = history ++ rest → history.Pairwise fun earlier later =>
      wanted earlier.request → wanted later.request → earlier.handler ≠ later.handler := by
    intro history
    induction history using List.reverseRecOn with
    | nil =>
      intro rest split
      exact .nil
    | append_singleton history last ih =>
      intro rest split
      rw [List.append_assoc] at split
      refine List.pairwise_append.mpr ⟨ih _ split, List.pairwise_singleton _ _, ?_⟩
      intro exchange member final isLast was wants same
      rw [List.mem_singleton.mp isLast] at wants same
      obtain ⟨first, between, rfl⟩ := List.append_of_mem member
      obtain ⟨press, begun, again⟩ := (sound.continues _ _ _ split).asked
      rw [List.append_assoc, List.cons_append] at split
      obtain ⟨other, alsoBegun, asked⟩ := (sound.continues _ _ _ split).asked
      rw [same] at alsoBegun asked
      cases begun.symm.trans alsoBegun
      have now := turns press _ _ again wants
      have before := turns press _ _ asked was
      rw [← before] at now
      simp [answersTo, same] at now
  exact every _ [] (List.append_nil _).symm

theorem answersTo_split {index : ℕ} {history : List (Exchange κ β μ)} {before after : List β} {answer : β}
    (had : answersTo index history = before ++ answer :: after) :
    ∃ first asked rest, history = first ++ asked :: rest ∧ asked.handler = index ∧ asked.answer = answer ∧
      answersTo index first = before := by
  obtain ⟨own, others, filtered, rfl, mapped⟩ := List.map_eq_append_iff.mp had
  obtain ⟨asked, later, rfl, answers, -⟩ := List.map_eq_cons_iff.mp mapped
  obtain ⟨first, rest, rfl, same, found⟩ := List.filter_eq_append_iff.mp filtered
  obtain ⟨skipped, tail, rfl, none, here, -⟩ := List.filter_eq_cons_iff.mp found
  refine ⟨first ++ skipped, asked, tail, by rw [List.append_assoc], by simpa using here, answers, ?_⟩
  have idle : answersTo index skipped = [] := by
    apply answersTo_other
    intro exchange member
    simpa using none exchange member
  rw [answersTo_append, idle, List.append_nil, answersTo, same]

/-- An answer that a handler has had was given to the request it had come to then. -/
theorem Sound.had (sound : Sound perform program initial state) {earlier later : List (Exchange κ β μ)}
    {exchange : Exchange κ β μ} (split : state.history = earlier ++ exchange :: later) {press : π}
    (begun : state.press exchange.handler = some press) {before after : List β} {answer : β}
    (had : answersTo exchange.handler earlier = before ++ answer :: after) :
    ∃ first asked rest, earlier = first ++ asked :: rest ∧ asked.handler = exchange.handler ∧
      answersTo asked.handler first = before ∧ ((program press).follow before).next = some asked.request ∧
      answer = (perform (replay perform initial first) asked.request asked.moment).1 := by
  obtain ⟨first, asked, rest, rfl, own, rfl, shorter⟩ := answersTo_split had
  rw [List.append_assoc, List.cons_append] at split
  obtain ⟨⟨other, alsoBegun, came⟩, answered⟩ := sound.continues first asked _ split
  rw [own] at alsoBegun came
  cases begun.symm.trans alsoBegun
  rw [shorter] at came
  exact ⟨first, asked, rest, rfl, own, own ▸ shorter, came, answered⟩

theorem answersTo_at (earlier : List (Exchange κ β μ)) (exchange : Exchange κ β μ) (later : List (Exchange κ β μ)) :
    answersTo exchange.handler (earlier ++ exchange :: later) =
      answersTo exchange.handler earlier ++ exchange.answer :: answersTo exchange.handler later := by
  simp [answersTo]

/-- A handler that has ended has had an answer to each request it has come to. -/
theorem Sound.goes_on (sound : Sound perform program initial state) {index : ℕ} {press : π}
    (ended : state.running[index]? = some (press, .stop)) {before after : List β}
    (had : answersTo index state.history = before ++ after) {request : κ}
    (next : ((program press).follow before).next = some request) :
    ∃ first moment answer rest answers, state.history = first ++ ⟨index, request, moment, answer⟩ :: rest ∧
      after = answer :: answers ∧ answer = (perform (replay perform initial first) request moment).1 := by
  have begun : state.press index = some press := by
    rw [State.press, ended, Option.map_some]
  cases after with
  | nil =>
    have left := sound.running index press .stop ended
    rw [had, List.append_nil] at left
    rw [← left] at next
    cases next
  | cons answer answers =>
    obtain ⟨first, ⟨own, asked, moment, given⟩, rest, split, rfl, rfl, shorter⟩ := answersTo_split had
    obtain ⟨⟨other, alsoBegun, came⟩, answered⟩ := sound.continues first _ rest split
    cases begun.symm.trans alsoBegun
    rw [shorter, next] at came
    cases came
    exact ⟨first, moment, given, rest, answers, split, rfl, answered⟩

/-- What becomes of the shared state when nothing comes between a handler's requests. -/
def alone (perform : σ → κ → μ → β × σ) : σ → Handler κ β → List μ → σ
  | shared, .ask request resume, moment :: moments =>
    alone perform (perform shared request moment).2 (resume (perform shared request moment).1) moments
  | shared, _, _ => shared

private theorem run_left {index : ℕ} {press : π} {handler : Handler κ β}
    (present : state.running[index]? = some (press, handler)) (moments : List μ) :
    ∃ served final, served <+: moments ∧
      Runs.run (step perform program) state (served.map (.serve index)) = some final ∧
      final.shared = alone perform state.shared handler moments := by
  induction moments generalizing state handler with
  | nil =>
    refine ⟨[], state, List.prefix_rfl, rfl, ?_⟩
    cases handler <;> rfl
  | cons moment moments ih =>
    cases handler with
    | stop => exact ⟨[], state, List.nil_prefix, rfl, rfl⟩
    | ask request resume =>
      have stepped := step_asking perform program present moment
      obtain ⟨served, final, prefixed, ran, same⟩ := ih (serve_left present moment)
      refine ⟨moment :: served, final, List.cons_prefix_cons.mpr ⟨rfl, prefixed⟩, ?_, same⟩
      rw [List.map_cons, Runs.run_first stepped]
      exact ran

/-- A handler that nothing comes between is one of the runs. -/
theorem run_alone (state : State σ π κ β μ) (press : π) (moments : List μ) :
    ∃ served final, served <+: moments ∧
      Runs.run (step perform program) state (.start press :: served.map (.serve state.running.length)) = some final ∧
      final.shared = alone perform state.shared (program press) moments := by
  have present : (start program state press).running[state.running.length]? = some (press, program press) := by
    rw [start_running, List.getElem?_concat_length]
  obtain ⟨served, final, prefixed, ran, same⟩ := run_left present moments
  exact ⟨served, final, prefixed, ran, same⟩

end
end Handlers
end Clubzey.Foundation
