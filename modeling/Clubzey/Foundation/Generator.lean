import Mathlib

/-! Generators that yield one item after a delay, and a listener that keeps the last item.
A delay may take longer than it was asked to, but never less. -/

namespace Clubzey.Foundation

/-- What a generator yields next in a state it is suspended in, and the state it is
suspended in after that; none at its end. -/
structure Generator (σ : Type u) (α : Type v) where
  start : σ
  resume : σ → Option (α × σ)

namespace Generator
variable {σ : Type u} {α : Type v} (generator : Generator σ α)

/-- The state after so many items. -/
def after : ℕ → Option σ
  | 0 => some generator.start
  | count + 1 => ((after count).bind generator.resume).map Prod.snd

def item (index : ℕ) : Option α := ((generator.after index).bind generator.resume).map Prod.fst

/-- A listener with the item it got last, which may be an earlier generator's. -/
structure Listener (σ : Type u) (α : Type v) where
  suspended : Option σ
  /-- When the delay that the generator awaits is over. -/
  due : ℤ
  delivered : ℕ := 0
  data : Option α := none

/-- Listening begins a delay before the first item; what the listener shows is kept. -/
def listen (now delay : ℤ) (data : Option α) : Listener σ α where
  suspended := some generator.start
  due := now + delay
  data

def deliver (interval now : ℤ) (listener : Listener σ α) : Option (Listener σ α) :=
  if listener.due ≤ now then
    (listener.suspended.bind generator.resume).map fun (item, suspended) =>
      { suspended := some suspended, due := now + interval, delivered := listener.delivered + 1, data := some item }
  else none

/-- A listener since an instant: no item has come before its time, and it shows the last. -/
structure Paced (started delay interval : ℤ) (listener : Listener σ α) : Prop where
  suspended : listener.suspended = generator.after listener.delivered
  due : started + delay + listener.delivered * interval ≤ listener.due
  data : ∀ index, listener.delivered = index + 1 → listener.data = generator.item index

theorem paced_listen (now delay interval : ℤ) (data : Option α) :
    generator.Paced now delay interval (generator.listen now delay data) := by
  refine ⟨rfl, ?_, ?_⟩
  · simp [listen]
  · intro index impossible
    cases impossible

variable {generator} {started delay interval now : ℤ} {listener later : Listener σ α}

theorem deliver_some (delivered : generator.deliver interval now listener = some later) :
    listener.due ≤ now ∧ ∃ item suspended, listener.suspended.bind generator.resume = some (item, suspended) ∧
      later = ⟨some suspended, now + interval, listener.delivered + 1, some item⟩ := by
  obtain ⟨due, resumed⟩ := Option.ite_none_right_eq_some.mp delivered
  obtain ⟨⟨item, suspended⟩, next, rfl⟩ := Option.map_eq_some_iff.mp resumed
  exact ⟨due, item, suspended, next, rfl⟩

theorem Paced.deliver (paced : generator.Paced started delay interval listener)
    (delivered : generator.deliver interval now listener = some later) :
    generator.Paced started delay interval later := by
  obtain ⟨due, item, suspended, resumed, rfl⟩ := deliver_some delivered
  rw [paced.suspended] at resumed
  refine ⟨?_, ?_, ?_⟩
  · rw [after, resumed, Option.map_some]
  · have earlier := paced.due
    push_cast
    linarith
  · intro index same
    obtain rfl : listener.delivered = index := Nat.succ.inj same
    rw [Generator.item, resumed, Option.map_some]

/-- The item shown came no earlier than its turn. -/
theorem Paced.shown (paced : generator.Paced started delay interval listener) (passed : listener.due ≤ now + interval)
    {index : ℕ} (last : listener.delivered = index + 1) :
    listener.data = generator.item index ∧ started + delay + index * interval ≤ now := by
  refine ⟨paced.data index last, ?_⟩
  have due := paced.due
  rw [last] at due
  push_cast at due
  linarith

end Generator
end Clubzey.Foundation
