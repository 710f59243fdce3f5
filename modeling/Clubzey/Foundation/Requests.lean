import Mathlib

/-! A finite set that is changed by requests to add and to remove single items,
of which some may fail. -/

namespace Clubzey.Foundation

inductive Request (α : Type u) where
  | add (item : α)
  | remove (item : α)
  deriving DecidableEq

namespace Request

variable {α : Type u} [DecidableEq α]

def perform (items : Finset α) : Request α → Finset α
  | .add item => insert item items
  | .remove item => items.erase item

/-- Requests take effect in the order in which they are issued. -/
def performAll (items : Finset α) (requests : List (Request α)) : Finset α := requests.foldl perform items

theorem performAll_append (items : Finset α) (first rest : List (Request α)) :
    performAll items (first ++ rest) = performAll (performAll items first) rest :=
  List.foldl_append

theorem mem_performAll_adds {items : Finset α} {requests : List (Request α)} {item : α}
    (adds : ∀ other, .remove other ∉ requests) :
    item ∈ performAll items requests ↔ .add item ∈ requests ∨ item ∈ items := by
  induction requests generalizing items with
  | nil => simp [performAll]
  | cons request requests ih =>
    have later : ∀ other, .remove other ∉ requests := fun other member => adds other (List.mem_cons_of_mem _ member)
    cases request with
    | add other =>
      have first : performAll items (.add other :: requests) = performAll (insert other items) requests := rfl
      rw [first, ih later, Finset.mem_insert, List.mem_cons, Request.add.injEq]
      tauto
    | remove other => exact absurd List.mem_cons_self (adds other)

theorem mem_performAll_removes {items : Finset α} {requests : List (Request α)} {item : α}
    (removes : ∀ other, .add other ∉ requests) :
    item ∈ performAll items requests ↔ item ∈ items ∧ .remove item ∉ requests := by
  induction requests generalizing items with
  | nil => simp [performAll]
  | cons request requests ih =>
    have later : ∀ other, .add other ∉ requests := fun other member => removes other (List.mem_cons_of_mem _ member)
    cases request with
    | add other => exact absurd List.mem_cons_self (removes other)
    | remove other =>
      have first : performAll items (.remove other :: requests) = performAll (items.erase other) requests := rfl
      rw [first, ih later, Finset.mem_erase, List.mem_cons, Request.remove.injEq]
      tauto

theorem mem_performAll_served {items : Finset α} {removes adds : List α} {served : List (Request α)}
    (sublist : served.Sublist (removes.map .remove ++ adds.map .add)) (item : α) :
    item ∈ performAll items served ↔ .add item ∈ served ∨ item ∈ items ∧ .remove item ∉ served := by
  obtain ⟨removed, added, rfl, fromRemoves, fromAdds⟩ := List.sublist_append_iff.mp sublist
  have noAdd : ∀ other, .add other ∉ removed := by
    intro other member
    obtain ⟨_, _, impossible⟩ := List.mem_map.mp (fromRemoves.subset member)
    cases impossible
  have noRemove : ∀ other, .remove other ∉ added := by
    intro other member
    obtain ⟨_, _, impossible⟩ := List.mem_map.mp (fromAdds.subset member)
    cases impossible
  rw [performAll_append, mem_performAll_adds noRemove, mem_performAll_removes noAdd]
  simp only [List.mem_append, noAdd, noRemove, false_or, or_false]

/-- When every request is served the additions are present, and of the other items
those that were not removed. -/
theorem performAll_replace (items : Finset α) (removes adds : List α) :
    performAll items (removes.map .remove ++ adds.map .add) = items \ removes.toFinset ∪ adds.toFinset := by
  ext item
  rw [mem_performAll_served (List.Sublist.refl _) item]
  simp only [List.mem_append, List.mem_map, reduceCtorEq, and_false, exists_false, false_or, Request.add.injEq,
    exists_eq_right, Request.remove.injEq, or_false, Finset.mem_union, Finset.mem_sdiff, List.mem_toFinset]
  tauto

end Request
end Clubzey.Foundation
