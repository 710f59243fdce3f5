import Clubzey.Models.ClubzeyUser
import Clubzey.Utils.Email
import Clubzey.Views.LoginPage

/-! The name shown for a user without one: the beginning of the e-mail, which every text
that passes the login page is long enough for. -/

namespace Clubzey.Proofs.FallbackName
open Dart Models Utils Views Foundation

theorem getUsername_nameless {user : ClubzeyUser} {email : String} (nameless : user.data.at "username" = .null)
    (found : user.data.at "email" = .string email) : user.getUsername = substring email 5 := by
  rw [ClubzeyUser.getUsername, nameless, ClubzeyUser.getEmail, found]
  rfl

/-- For every account the name is five characters of the e-mail, and its first letter
the one that was typed first. -/
theorem fallback_in_range {value : String} (accepted : emailError value = none) {user : ClubzeyUser}
    (email : user.data.at "email" = .string (trimmed value)) (nameless : user.data.at "username" = .null) :
    ∃ username first, user.getUsername = .ok username ∧ username.toList <+: (trimmed value).toList ∧
      username.toList.length = 5 ∧ length username = 5 ∧
      value.toList.head? = some first ∧ substring username 1 = .ok (String.singleton first) := by
  obtain ⟨name, label, letter, rest, begins⟩ := isEmail_iff.mp (emailError_none accepted)
  have text : (trimmed value).toList = value.toList.rdropWhile isWhitespace := by
    rw [trimmed, String.toList_ofList, begins.trim_text]
  have stored := begins.trimmed
  rw [← text] at stored
  obtain ⟨enough, visible⟩ := stored.five
  have single : ∀ char ∈ (trimmed value).toList.take 5, unitsOf char = 1 := by
    intro char member
    exact unitsOf_visible (visible char member)
  let username := String.ofList ((trimmed value).toList.take 5)
  have taken : username.toList = (trimmed value).toList.take 5 := String.toList_ofList
  have five : username.toList.length = 5 := by
    rw [taken, List.length_take]
    omega
  obtain ⟨first, later, named⟩ := List.exists_cons_of_ne_nil begins.named
  refine ⟨username, first, ?_, ?_, five, ?_, ?_, ?_⟩
  · rw [getUsername_nameless nameless email]
    exact substring_take enough single
  · rw [taken]
    exact List.take_prefix _ _
  · rw [length_single, five]
    rw [taken]
    exact single
  · rw [begins.head, named]
    rfl
  · have shown : username.toList.head? = some first := by
      rw [taken, List.head?_take, if_neg (by decide), stored.head, named]
      rfl
    apply substring_one shown
    exact unitsOf_visible (begins.visible first (by simp [named]))

/-- Stored for the text "a@b.c ", one of the shortest that pass. -/
def nameless : ClubzeyUser := ⟨Collection.setAll ∅ [("email", .string "a@b.c")]⟩

theorem shortest_in_range :
    ∃ username first, nameless.getUsername = .ok username ∧ username.toList <+: (trimmed "a@b.c ").toList ∧
      username.toList.length = 5 ∧ length username = 5 ∧
      "a@b.c ".toList.head? = some first ∧ substring username 1 = .ok (String.singleton first) := by
  have accepted : emailError "a@b.c " = none := by decide
  have stored : trimmed "a@b.c " = "a@b.c" := by decide
  exact fallback_in_range accepted (by rw [stored]; rfl) rfl

end Clubzey.Proofs.FallbackName
