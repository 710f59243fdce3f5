import Clubzey.Systems.QrDisplay
import Clubzey.Utils.Timer

/-! AddMemberPage with the label under its QR code. Two generators run beside each other:
one stamps the code anew, the other counts the seconds that the label shows. Neither delay
is longer than it was asked to be. -/

namespace Clubzey.Systems.ScanLabel
open Dart Foundation Utils

def second : ℤ := 1000000

/-- `timerCount(Duration(seconds: 1), 0)`. -/
def seconds : Generator ℤ ℤ := timerCount QrDisplay.timerSeconds (some 0)

structure State where
  display : QrDisplay.State
  label : Generator.Listener ℤ ℤ

inductive Event where
  | pass (later : DateTime)
  | reload
  | count

/-- The clock in microseconds. -/
def State.now (state : State) : ℤ := state.display.now.microsecondsSinceEpoch

/-- When the code on display was stamped. -/
def State.stamped (state : State) : ℤ := state.display.qrCreated.microsecondsSinceEpoch

def construct (now : DateTime) : State where
  display := QrDisplay.construct now
  label := seconds.listen now.microsecondsSinceEpoch second none

/-- `Scan within ${snapshot.data ?? "$_timerSeconds"}`. -/
def State.text (state : State) : String := "Scan within " ++ intText (state.label.data.getD QrDisplay.timerSeconds)

/-- Time passes no further than the end of a delay that is waited for. -/
def step (state : State) : Event → Option State
  | .pass later =>
    if later.microsecondsSinceEpoch ≤ state.label.due then
      (QrDisplay.step state.display (.pass later)).map fun display => { state with display }
    else none
  | .reload => (QrDisplay.step state.display .reload).map fun display => { state with display }
  | .count => (seconds.deliver second state.now state.label).map fun label => { state with label }

/-- Since the page was opened the label has got a number each second, and the code a
stamp each thirty. -/
structure Kept (opened : ℤ) (state : State) : Prop where
  paced : seconds.Paced opened second second state.label
  initial : state.label.delivered = 0 → state.label.data = none
  due : state.label.due = opened + (state.label.delivered + 1) * second
  waiting : state.now ≤ state.label.due ∧ state.label.due ≤ state.now + second
  stamped : ∃ reloads : ℕ, state.stamped = opened + reloads * (30 * second)
  young : state.stamped ≤ state.now ∧ state.now ≤ state.stamped + 30 * second

theorem kept_construct (now : DateTime) : Kept now.microsecondsSinceEpoch (construct now) := by
  refine ⟨Generator.paced_listen _ _ _ _ _, fun _ => rfl, ?_, ?_, ⟨0, ?_⟩, ?_⟩
  · simp [construct, Generator.listen]
  · simp [construct, Generator.listen, State.now, QrDisplay.construct, second]
  · simp [construct, State.stamped, QrDisplay.construct]
  · simp [construct, State.stamped, State.now, QrDisplay.construct, second]

theorem kept_preserved (opened : ℤ) : Runs.Keeps step Runs.Free (Kept opened) := by
  intro before event after kept _ stepped
  cases event with
  | pass later =>
    obtain ⟨inTime, passed⟩ := Option.ite_none_right_eq_some.mp stepped
    obtain ⟨display, displayed, rfl⟩ := Option.map_eq_some_iff.mp passed
    obtain ⟨⟨passes, young⟩, same⟩ := Option.ite_none_right_eq_some.mp displayed
    cases same
    obtain ⟨_, soon⟩ := kept.waiting
    obtain ⟨old, _⟩ := kept.young
    have now : before.display.now.microsecondsSinceEpoch = before.now := rfl
    refine ⟨kept.paced, kept.initial, kept.due, ?_, kept.stamped, ?_⟩
    · simp only [State.now]
      omega
    · simp only [QrDisplay.State.age, QrDisplay.timerSeconds] at young
      simp only [State.now, State.stamped, second] at old ⊢
      omega
  | reload =>
    obtain ⟨display, displayed, rfl⟩ := Option.map_eq_some_iff.mp stepped
    obtain ⟨late, same⟩ := Option.ite_none_right_eq_some.mp displayed
    cases same
    obtain ⟨reloads, stamped⟩ := kept.stamped
    have now : before.now = before.stamped + 30 * second := by
      simp only [QrDisplay.State.age, QrDisplay.timerSeconds] at late
      simp only [State.now, State.stamped, second]
      omega
    refine ⟨kept.paced, kept.initial, kept.due, kept.waiting, ⟨reloads + 1, ?_⟩, ?_⟩
    · have again : State.stamped { before with display := { before.display with qrCreated := before.display.now } } =
          before.now := rfl
      rw [again, now, stamped]
      push_cast
      ring
    · simp only [State.now, State.stamped, second]
      omega
  | count =>
    obtain ⟨label, delivered, rfl⟩ := Option.map_eq_some_iff.mp stepped
    have paced := kept.paced.deliver delivered
    obtain ⟨ended, item, suspended, _, rfl⟩ := Generator.deliver_some delivered
    have now : before.now = before.label.due := le_antisymm kept.waiting.1 ended
    refine ⟨paced, ?_, ?_, ?_, kept.stamped, kept.young⟩
    · intro impossible
      cases impossible
    · dsimp only
      rw [now, kept.due]
      push_cast
      ring
    · simp only [State.now, second]
      omega

/-- Nothing that is due is still to come. -/
structure Settled (state : State) : Prop where
  counted : state.now < state.label.due
  reloaded : state.now < state.stamped + 30 * second

/-- How many whole seconds ago the code was stamped. -/
def State.age (state : State) : ℤ := (state.now - state.stamped) / second

/-- The label is at one during the first second of a code, which the count has not
noticed yet, and then at what is left of thirty-one seconds. -/
theorem label_data {opened : ℤ} {state : State} (kept : Kept opened state) (settled : Settled state) :
    0 ≤ state.age ∧ state.age < 30 ∧
      (state.age = 0 → state.label.data = none ∨ state.label.data = some 1) ∧
      (0 < state.age → state.label.data = some (31 - state.age)) := by
  obtain ⟨reloads, stamped⟩ := kept.stamped
  have due := kept.due
  have counted := settled.counted
  have reloaded := settled.reloaded
  have waiting := kept.waiting.2
  have young := kept.young.1
  have age : state.age = state.label.delivered - reloads * 30 := by
    unfold State.age
    unfold second at *
    omega
  have bounds : 0 ≤ state.age ∧ state.age < 30 := by
    unfold State.age
    unfold second at *
    omega
  have shown : ∀ index, state.label.delivered = index + 1 →
      state.label.data = some ((30 : ℤ) - (index % 30 : ℕ)) := by
    intro index last
    rw [kept.paced.data index last]
    exact timerCount_item (by omega : 0 < 30) index
  refine ⟨bounds.1, bounds.2, ?_, ?_⟩
  · intro fresh
    by_cases first : state.label.delivered = 0
    · exact Or.inl (kept.initial first)
    · obtain ⟨index, last⟩ := Nat.exists_eq_succ_of_ne_zero first
      have turn : index % 30 = 29 := by omega
      rw [shown index last, turn]
      exact Or.inr rfl
  · intro older
    obtain ⟨index, last⟩ := Nat.exists_eq_succ_of_ne_zero (by omega : state.label.delivered ≠ 0)
    have turn : ((index % 30 : ℕ) : ℤ) = state.age - 1 := by omega
    rw [shown index last, turn]
    congr 1
    omega

end Clubzey.Systems.ScanLabel
