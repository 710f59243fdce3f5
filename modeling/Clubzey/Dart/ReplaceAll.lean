import Clubzey.Dart.Core
import Clubzey.Foundation.Replacement

/-! What `replaceAll` replaces. -/

namespace Clubzey.Dart
open Foundation

section
variable {pattern replacement : List Char}

private theorem replaceFrom_covered (covered : Nat) (text : List Char) :
    replaceFrom pattern replacement covered text = replaceFrom pattern replacement 0 (text.drop covered) := by
  induction covered generalizing text with
  | zero => rfl
  | succ covered ih =>
    cases text with
    | nil => rfl
    | cons char rest => exact ih rest

theorem replaceFrom_found (present : pattern ≠ []) (rest : List Char) :
    replaceFrom pattern replacement 0 (pattern ++ rest) = replacement ++ replaceFrom pattern replacement 0 rest := by
  cases pattern with
  | nil => exact absurd rfl present
  | cons first pattern =>
    have starts : (first :: pattern).isPrefixOf (first :: (pattern ++ rest)) = true :=
      List.isPrefixOf_iff_prefix.mpr (List.prefix_append _ _)
    rw [List.cons_append, replaceFrom, if_pos starts, replaceFrom_covered]
    simp

theorem replaceFrom_passed {char : Char} {rest : List Char} (absent : ¬ pattern <+: char :: rest) :
    replaceFrom pattern replacement 0 (char :: rest) = char :: replaceFrom pattern replacement 0 rest := by
  rw [replaceFrom, if_neg fun starts => absent (List.isPrefixOf_iff_prefix.mp starts)]

/-- The first occurrence begins after a front or in it. -/
theorem replaceFrom_append (present : pattern ≠ []) (front rest : List Char) :
    (replaceFrom pattern replacement 0 (front ++ rest) = front ++ replaceFrom pattern replacement 0 rest ∧
      (pattern <:+: front ++ rest ↔ pattern <:+: rest)) ∨
    ∃ passed result, passed <+: front ∧ passed ≠ front ∧ pattern <:+: front ++ rest ∧
      replaceFrom pattern replacement 0 (front ++ rest) = passed ++ replacement ++ result := by
  induction front with
  | nil => exact Or.inl ⟨rfl, Iff.rfl⟩
  | cons char front ih =>
    by_cases starts : pattern <+: char :: (front ++ rest)
    · obtain ⟨later, split⟩ := starts
      refine Or.inr ⟨[], replaceFrom pattern replacement 0 later, List.nil_prefix, by simp, ?_, ?_⟩
      · exact ⟨[], later, split⟩
      · rw [List.cons_append, ← split, replaceFrom_found present, List.nil_append]
    · rw [List.cons_append, replaceFrom_passed starts, infix_cons_of_absent starts]
      rcases ih with ⟨passed, same⟩ | ⟨passed, result, before, shorter, occurs, found⟩
      · exact Or.inl ⟨by rw [passed, List.cons_append], same⟩
      · refine Or.inr ⟨char :: passed, result, ?_, ?_, occurs, ?_⟩
        · exact List.cons_prefix_cons.mpr ⟨rfl, before⟩
        · simpa using shorter
        · rw [found, List.cons_append, List.cons_append]

theorem replaceFrom_replaced (present : pattern ≠ []) (text : List Char) :
    Replaced pattern replacement text (replaceFrom pattern replacement 0 text) := by
  induction size : text.length using Nat.strong_induction_on generalizing text with
  | _ bound ih =>
    cases text with
    | nil => exact .nil
    | cons char rest =>
      by_cases starts : pattern <+: char :: rest
      · obtain ⟨later, split⟩ := starts
        have shorter : later.length < bound := by
          rw [← size, ← split, List.length_append]
          have filled := List.length_pos_of_ne_nil present
          omega
        rw [← split, replaceFrom_found present]
        exact .found (ih _ shorter later rfl)
      · have shorter : rest.length < bound := by
          rw [← size]
          exact Nat.lt_succ_self _
        rw [replaceFrom_passed starts]
        exact .passed starts (ih _ shorter rest rfl)

end

theorem toList_replaceAll (text replacement : String) {pattern : String} (present : pattern ≠ "") :
    (replaceAll text pattern replacement).toList = replaceFrom pattern.toList replacement.toList 0 text.toList := by
  rw [replaceAll, if_neg (by simpa using present), String.toList_ofList]

end Clubzey.Dart
