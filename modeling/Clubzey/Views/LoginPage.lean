import Clubzey.Dart.Text
import Clubzey.Utils.Helper

/-! LoginPage: the validator of its e-mail field writes the field that decides whether
the form or a banner is built. -/

namespace Clubzey.Views
open Dart Utils

structure LoginPage where
  value : String := ""
  email : String := ""
  /-- What the last build has put in the place of the form. -/
  banner : Option String := none
  deriving DecidableEq

def emailError (value : String) : Option String :=
  if value.isEmpty then some "Please enter your email"
  else if ¬ isEmail value then some "Please enter a valid email address"
  else none

theorem emailError_none {value : String} (accepted : emailError value = none) : isEmail value = true := by
  unfold emailError at accepted
  split at accepted
  · cases accepted
  · split at accepted
    · cases accepted
    next email => simpa using email

def loginLinkSent (email : String) : String := "Login link has been sent to your email " ++ email

namespace LoginPage

/-- The validator of the e-mail field; the other field accepts every text. -/
def validate (page : LoginPage) : LoginPage :=
  if emailError page.value = none then { page with email := trimmed page.value } else page

/-- The validator also runs on edits. -/
def edit (page : LoginPage) (value : String) : LoginPage := validate { page with value }

def setState (page : LoginPage) : LoginPage :=
  { page with banner := if page.email = "" then none else some (loginLinkSent page.email) }

@[simp] theorem validate_banner (page : LoginPage) : page.validate.banner = page.banner := by
  unfold validate
  split <;> rfl

theorem validate_accepted {page : LoginPage} (accepted : emailError page.value = none) :
    page.validate.email = trimmed page.value := by
  rw [validate, if_pos accepted]

theorem validate_rejected {page : LoginPage} (rejected : emailError page.value ≠ none) : page.validate = page :=
  if_neg rejected

theorem setState_banner {page : LoginPage} {text : String} :
    page.setState.banner = some text ↔ page.email ≠ "" ∧ text = loginLinkSent page.email := by
  unfold setState
  by_cases empty : page.email = ""
  · simp [empty]
  · simp [empty, eq_comm]

theorem setState_form {page : LoginPage} : page.setState.banner = none ↔ page.email = "" := by
  unfold setState
  by_cases empty : page.email = "" <;> simp [empty]

end LoginPage

theorem loginLinkSent_injective {email other : String} (same : loginLinkSent email = loginLinkSent other) :
    email = other := by
  unfold loginLinkSent at same
  exact (String.append_right_inj _).mp same

end Clubzey.Views
