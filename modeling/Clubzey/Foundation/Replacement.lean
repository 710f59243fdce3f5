import Mathlib

/-! Replacing a pattern in a list. What the replaced occurrences weigh tells, item by
item, whether there were any. -/

namespace Clubzey.Foundation

/-- What the items of a list weigh together. -/
def total (weight : α → Int) (items : List α) : Int := (items.map weight).sum

@[simp] theorem total_nil (weight : α → Int) : total weight [] = 0 := rfl

@[simp] theorem total_cons (weight : α → Int) (item : α) (items : List α) :
    total weight (item :: items) = weight item + total weight items := by
  simp [total]

@[simp] theorem total_append (weight : α → Int) (first second : List α) :
    total weight (first ++ second) = total weight first + total weight second := by
  simp [total]

theorem total_const (weight : Int) (items : List α) : total (fun _ => weight) items = items.length * weight := by
  simp [total]

theorem total_nonneg {weight : α → Int} (light : ∀ item, 0 ≤ weight item) (items : List α) : 0 ≤ total weight items := by
  induction items with
  | nil => exact Int.le_refl _
  | cons item items ih =>
    rw [total_cons]
    exact Int.add_nonneg (light item) ih

theorem infix_cons_of_absent {pattern rest : List α} {item : α} (absent : ¬ pattern <+: item :: rest) :
    pattern <:+: item :: rest ↔ pattern <:+: rest := by
  rw [List.infix_cons_iff, or_iff_right absent]

/-- The occurrences of a pattern are replaced from the left, none inside another. -/
inductive Replaced (pattern replacement : List α) : List α → List α → Prop where
  | nil : Replaced pattern replacement [] []
  | found {rest result : List α} (replaced : Replaced pattern replacement rest result) :
      Replaced pattern replacement (pattern ++ rest) (replacement ++ result)
  | passed {item : α} {rest result : List α} (absent : ¬ pattern <+: item :: rest)
      (replaced : Replaced pattern replacement rest result) :
      Replaced pattern replacement (item :: rest) (item :: result)

namespace Replaced
variable {pattern replacement text result : List α}

theorem eq_of_absent (replaced : Replaced pattern replacement text result) (absent : ¬ pattern <:+: text) :
    result = text := by
  induction replaced with
  | nil => rfl
  | found => exact absurd (List.prefix_append _ _).isInfix absent
  | passed _ _ ih => rw [ih fun inside => absent (List.infix_cons inside)]

theorem total_le {weight : α → Int} (replaced : Replaced pattern replacement text result)
    (lighter : total weight replacement ≤ total weight pattern) : total weight result ≤ total weight text := by
  induction replaced with
  | nil => exact Int.le_refl _
  | found _ ih =>
    rw [total_append, total_append]
    omega
  | passed _ _ ih =>
    rw [total_cons, total_cons]
    omega

/-- A pattern heavier than its replacement does not occur in a text that keeps its weight. -/
theorem absent_of_total (weight : α → Int) (replaced : Replaced pattern replacement text result)
    (present : pattern ≠ []) (lighter : total weight replacement < total weight pattern)
    (same : total weight result = total weight text) : ¬ pattern <:+: text := by
  induction replaced with
  | nil => exact fun inside => present (List.infix_nil.mp inside)
  | found replaced ih =>
    have less := replaced.total_le (Int.le_of_lt lighter)
    rw [total_append, total_append] at same
    omega
  | passed absent replaced ih =>
    rw [total_cons, total_cons] at same
    rw [infix_cons_of_absent absent]
    exact ih (by omega)

theorem absent_of_length (replaced : Replaced pattern replacement text result) (present : pattern ≠ [])
    (different : pattern.length ≠ replacement.length) (same : result.length = text.length) : ¬ pattern <:+: text := by
  rcases Nat.lt_or_gt_of_ne different with longer | shorter
  · apply absent_of_total (fun _ => -1) replaced present
    · rw [total_const, total_const]
      omega
    · rw [total_const, total_const, same]
  · apply absent_of_total (fun _ => 1) replaced present
    · rw [total_const, total_const]
      omega
    · rw [total_const, total_const, same]

/-- A text is left as it is only when there is nothing to replace or nothing changes. -/
theorem eq_iff (replaced : Replaced pattern replacement text result) (present : pattern ≠ []) :
    result = text ↔ pattern = replacement ∨ ¬ pattern <:+: text := by
  constructor
  · intro same
    by_cases equal : pattern.length = replacement.length
    · induction replaced with
      | nil => exact Or.inr fun inside => present (List.infix_nil.mp inside)
      | found => exact Or.inl (List.append_inj_left same equal.symm).symm
      | passed absent _ ih =>
        rw [infix_cons_of_absent absent]
        exact ih (List.cons.inj same).2
    · exact Or.inr (replaced.absent_of_length present equal (by rw [same]))
  · intro harmless
    rcases harmless with unchanged | absent
    · subst unchanged
      induction replaced with
      | nil => rfl
      | found _ ih => rw [ih]
      | passed _ _ ih => rw [ih]
    · exact replaced.eq_of_absent absent

end Replaced
end Clubzey.Foundation
