import Mathlib

/-! Labels with a separator between them, told from what stands next to the separators. -/

namespace Clubzey.Foundation
variable {accepts : α → Bool} {separator : α}

def IsLabel (accepts : α → Bool) (label : List α) : Prop := label ≠ [] ∧ ∀ item ∈ label, accepts item = true

def Opens (accepts : α → Bool) (items : List α) : Prop := ∃ item later, items = item :: later ∧ accepts item = true

theorem two_labels (apart : accepts separator = false) {labels : List (List α)}
    (valid : ∀ label ∈ labels, IsLabel accepts label) (separated : separator ∈ [separator].intercalate labels) :
    2 ≤ labels.length := by
  by_contra short
  match labels with
  | [] => cases separated
  | [alone] =>
    rw [List.intercalate_singleton] at separated
    rw [(valid alone List.mem_cons_self).2 separator separated] at apart
    cases apart
  | _ :: _ :: _ => simp at short

/-- Apart from separators all items are accepted, and there is one at the beginning and
one behind every separator. -/
structure Spaced (accepts : α → Bool) (separator : α) (items : List α) : Prop where
  each : ∀ item ∈ items, accepts item = true ∨ item = separator
  first : Opens accepts items
  behind : ∀ rest, separator :: rest <:+ items → Opens accepts rest

namespace Spaced
variable {items label : List α}

theorem tail {item : α} (spaced : Spaced accepts separator (item :: items)) (first : Opens accepts items) :
    Spaced accepts separator items := by
  refine ⟨?_, first, ?_⟩
  · intro other member
    exact spaced.each other (List.mem_cons_of_mem _ member)
  · intro rest ends
    exact spaced.behind rest (ends.trans (List.suffix_cons _ _))

theorem append (apart : accepts separator = false) (valid : IsLabel accepts label)
    (each : ∀ item ∈ items, accepts item = true ∨ item = separator)
    (behind : ∀ rest, separator :: rest <:+ items → Opens accepts rest) :
    Spaced accepts separator (label ++ items) := by
  obtain ⟨filled, accepted⟩ := valid
  refine ⟨?_, ?_, ?_⟩
  · intro item member
    rcases List.mem_append.mp member with inside | later
    · exact Or.inl (accepted item inside)
    · exact each item later
  · obtain ⟨item, label, rfl⟩ := List.exists_cons_of_ne_nil filled
    exact ⟨item, label ++ items, rfl, accepted item List.mem_cons_self⟩
  · -- No suffix that begins with the separator begins inside the label.
    clear filled
    induction label with
    | nil => exact behind
    | cons item label ih =>
      obtain ⟨here, others⟩ := List.forall_mem_cons.mp accepted
      intro rest ends
      rcases List.suffix_cons_iff.mp ends with whole | later
      · rw [(List.cons.inj whole).1, here] at apart
        cases apart
      · exact ih others rest later

theorem of_labels (apart : accepts separator = false) {labels : List (List α)} (present : labels ≠ [])
    (valid : ∀ label ∈ labels, IsLabel accepts label) :
    Spaced accepts separator ([separator].intercalate labels) := by
  induction labels with
  | nil => exact absurd rfl present
  | cons label labels ih =>
    obtain ⟨here, others⟩ := List.forall_mem_cons.mp valid
    cases labels with
    | nil =>
      have alone : Spaced accepts separator (label ++ []) := append apart here (by simp) (by simp)
      simpa using alone
    | cons next labels =>
      have later := ih (List.cons_ne_nil _ _) others
      rw [List.intercalate_cons_cons, List.append_assoc, List.singleton_append]
      apply append apart here
      · intro item member
        rcases List.mem_cons.mp member with rfl | inside
        · exact Or.inr rfl
        · exact later.each item inside
      · intro rest ends
        rcases List.suffix_cons_iff.mp ends with whole | inside
        · rw [(List.cons.inj whole).2]
          exact later.first
        · exact later.behind rest inside

/-- What stands next to the separators is enough to cut a list into labels. -/
theorem labels (spaced : Spaced accepts separator items) :
    ∃ labels : List (List α), labels ≠ [] ∧ (∀ label ∈ labels, IsLabel accepts label) ∧
      items = [separator].intercalate labels := by
  induction items using List.twoStepInduction with
  | nil =>
    obtain ⟨_, _, impossible, _⟩ := spaced.first
    cases impossible
  | singleton item =>
    obtain ⟨_, _, same, accepted⟩ := spaced.first
    cases same
    have valid : IsLabel accepts [item] := ⟨List.cons_ne_nil _ _, by simpa using accepted⟩
    exact ⟨[[item]], by simp, by simpa using valid, by simp⟩
  | cons_cons item next rest shorter short =>
    obtain ⟨_, _, same, accepted⟩ := spaced.first
    cases same
    rcases spaced.each next (by simp) with inside | rfl
    · obtain ⟨labels, present, valid, split⟩ := short next (spaced.tail ⟨next, rest, rfl, inside⟩)
      obtain ⟨label, labels, rfl⟩ := List.exists_cons_of_ne_nil present
      obtain ⟨here, others⟩ := List.forall_mem_cons.mp valid
      have longer : IsLabel accepts (item :: label) :=
        ⟨List.cons_ne_nil _ _, List.forall_mem_cons.mpr ⟨accepted, here.2⟩⟩
      refine ⟨(item :: label) :: labels, List.cons_ne_nil _ _, List.forall_mem_cons.mpr ⟨longer, others⟩, ?_⟩
      rw [List.intercalate_cons_cons_left, split]
    · have opens := spaced.behind rest (List.suffix_cons _ _)
      have spacedRest : Spaced accepts next rest := by
        refine ⟨?_, opens, ?_⟩
        · intro other member
          exact spaced.each other (by simp [member])
        · intro suffix ends
          exact spaced.behind suffix (ends.trans ⟨[item, next], rfl⟩)
      obtain ⟨labels, present, valid, split⟩ := shorter spacedRest
      have alone : IsLabel accepts [item] := ⟨List.cons_ne_nil _ _, by simpa using accepted⟩
      refine ⟨[item] :: labels, List.cons_ne_nil _ _, List.forall_mem_cons.mpr ⟨alone, valid⟩, ?_⟩
      rw [List.intercalate_cons_of_ne_nil present, split]
      rfl

end Spaced
end Clubzey.Foundation
