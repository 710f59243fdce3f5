import Clubzey.Foundation.Collection

/-! What a series of writes leaves behind: of those under one id the last. -/

namespace Clubzey.Foundation

/-- Where each step does to a part of the state at most one write, a run does the writes of
its steps to it. -/
theorem foldl_writes {σ : Type u} {ε : Type v} {τ : Type w} {ω : Type x} {step : σ → ε → σ} {write : ε → Option ω}
    (part : σ → τ) (apply : τ → ω → τ)
    (writes : ∀ state event, part (step state event) = (write event).elim (part state) (apply (part state)))
    (state : σ) (events : List ε) :
    part (events.foldl step state) = (events.filterMap write).foldl apply (part state) := by
  induction events generalizing state with
  | nil => rfl
  | cons event events ih =>
    rw [List.foldl_cons, ih, writes, List.filterMap_cons]
    cases write event <;> rfl

namespace Collection
variable {α : Type u} {β : Type v}

/-- The entries that no later one of the same id replaces. -/
def lastWrites : List (String × α) → List (String × α)
  | [] => []
  | entry :: entries =>
    if entries.any fun later => later.1 == entry.1 then lastWrites entries else entry :: lastWrites entries

end Collection
end Clubzey.Foundation
