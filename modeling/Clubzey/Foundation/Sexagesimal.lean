import Clubzey.Foundation.Decimal

/-! A number of seconds as hours, minutes and seconds. -/

namespace Clubzey.Foundation.Sexagesimal

def render (seconds : Nat) : List Char :=
  Decimal.padded 2 (seconds / 3600) ++ ':' ::
    (Decimal.padded 2 (seconds / 60 % 60) ++ ':' :: Decimal.padded 2 (seconds % 60))

theorem split_render (seconds : Nat) : (render seconds).splitOn ':' =
    [Decimal.padded 2 (seconds / 3600), Decimal.padded 2 (seconds / 60 % 60), Decimal.padded 2 (seconds % 60)] := by
  have plain : ∀ number, ':' ∉ Decimal.padded 2 number := by
    intro number colon
    have digit := Decimal.isDigit_padded colon
    simp at digit
  rw [render, List.splitOn_append_cons_self_of_not_mem (plain _), List.splitOn_append_cons_self_of_not_mem (plain _),
    List.splitOn_eq_singleton (plain _)]

theorem render_injective : Function.Injective render := by
  intro first second same
  have parts := congrArg (List.splitOn ':') same
  rw [split_render, split_render] at parts
  obtain ⟨hours, minutes, seconds, _⟩ : _ ∧ _ ∧ _ ∧ True := by simpa using parts
  have equal : ∀ {one other}, Decimal.padded 2 one = Decimal.padded 2 other → one = other := by
    intro one other padded
    have values := congrArg Decimal.value padded
    rwa [Decimal.value_padded, Decimal.value_padded] at values
  have sameHours := equal hours
  have sameMinutes := equal minutes
  have sameSeconds := equal seconds
  omega

end Clubzey.Foundation.Sexagesimal
