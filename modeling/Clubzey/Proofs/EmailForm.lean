import Clubzey.Foundation.Labels
import Clubzey.Utils.Email
import Clubzey.Views.LoginPage

/-! What the login page takes for an e-mail. The expression is not anchored at the end
of the text, and a range among its characters takes in the comma. -/

namespace Clubzey.Proofs.EmailForm
open Dart Utils Views Foundation

/-- The characters that are listed before the at sign, the minus as itself. -/
def isListed (char : Char) : Bool :=
  char.isAlphanum || ".!#$%&'*+-/=?^_`\x7b|\x7d~".toList.contains char

/-- `local@label(.label)+` and nothing else. -/
structure WholeEmail (text : List Char) : Prop where
  form : ∃ name labels, text = name ++ '@' :: ['.'].intercalate labels ∧ IsLabel isListed name ∧ 2 ≤ labels.length ∧
    ∀ label ∈ labels, IsLabel Char.isAlphanum label
  once : text.count '@' = 1
  unspaced : ∀ char ∈ text, isWhitespace char = false

/-- What stands before the first at sign. -/
def localPart (text : List Char) : List Char := text.takeWhile fun char => char != '@'

def domain (text : List Char) : List Char := (text.dropWhile fun char => char != '@').tail

/-- There is no comma before the first at sign, and behind it are letters, digits and
dots, each of the dots in front of a letter or a digit. -/
structure Clean (text : List Char) : Prop where
  comma : ',' ∉ localPart text
  each : ∀ char ∈ domain text, char.isAlphanum = true ∨ char = '.'
  dots : ∀ rest, '.' :: rest <:+ domain text → Opens Char.isAlphanum rest

theorem before_at {name : List Char} (single : '@' ∉ name) : ∀ char ∈ name, (char != '@') = true := by
  intro char member
  exact bne_iff_ne.mpr fun same => single (same ▸ member)

theorem localPart_append {name : List Char} (single : '@' ∉ name) (rest : List Char) :
    localPart (name ++ '@' :: rest) = name := by
  rw [localPart, List.takeWhile_append_of_pos (before_at single), List.takeWhile_cons_of_neg (by decide), List.append_nil]

theorem domain_append {name : List Char} (single : '@' ∉ name) (rest : List Char) :
    domain (name ++ '@' :: rest) = rest := by
  rw [domain, List.dropWhile_append_of_pos (before_at single), List.dropWhile_cons_of_neg (by decide), List.tail_cons]

theorem isListed_localChar {char : Char} (accepted : isLocalChar char = true) (other : char ≠ ',') :
    isListed char = true := by
  rcases Bool.or_eq_true_iff.mp accepted with alphanum | listed
  · rw [isListed, alphanum, Bool.true_or]
  · have all : ".!#$%&'*+,-./=?^_`\x7b|\x7d~".toList.all (fun char => char == ',' || isListed char) = true := by decide
    have either := List.all_eq_true.mp all char (List.contains_iff_mem.mp listed)
    rw [Bool.or_eq_true_iff, beq_iff_eq] at either
    exact either.resolve_left other

theorem clean_of_whole {text : List Char} (whole : WholeEmail text) : Clean text := by
  obtain ⟨name, labels, rfl, ⟨_, listed⟩, two, valid⟩ := whole.form
  have single : '@' ∉ name := by
    intro member
    cases listed '@' member
  have present : labels ≠ [] := by
    intro empty
    rw [empty] at two
    cases two
  have spaced : Spaced Char.isAlphanum '.' (['.'].intercalate labels) := Spaced.of_labels (by decide) present valid
  refine ⟨?_, ?_, ?_⟩
  · rw [localPart_append single]
    intro member
    cases listed ',' member
  · rw [domain_append single]
    exact spaced.each
  · rw [domain_append single]
    exact spaced.behind

theorem whole_of_clean {text name label rest : List Char} {letter : Char} (begins : Begins text name label letter rest)
    (clean : Clean text) : WholeEmail text := by
  have single : '@' ∉ name := by
    intro member
    cases begins.nameChars '@' member
  have split := begins.split
  generalize behind : label ++ '.' :: letter :: rest = shown at split
  obtain ⟨comma, each, dots⟩ := clean
  rw [split, localPart_append single] at comma
  rw [split, domain_append single] at each dots
  have opens : Opens Char.isAlphanum shown := by
    obtain ⟨first, later, same⟩ := List.exists_cons_of_ne_nil begins.labelled
    refine ⟨first, later ++ '.' :: letter :: rest, ?_, begins.labelChars first (by simp [same])⟩
    rw [← behind, same, List.cons_append]
  obtain ⟨labels, _, valid, cut⟩ := (Spaced.mk each opens dots).labels
  have listed : ∀ char ∈ name, isListed char = true := by
    intro char member
    exact isListed_localChar (begins.nameChars char member) fun same => comma (same ▸ member)
  have elsewhere : '@' ∉ shown := by
    intro member
    rcases each '@' member with alphanum | dot
    · cases alphanum
    · exact absurd dot (by decide)
  refine ⟨⟨name, labels, by rw [split, cut], ⟨begins.named, listed⟩, ?_, valid⟩, ?_, ?_⟩
  · have dot : '.' ∈ ['.'].intercalate labels := by
      rw [← cut, ← behind]
      simp
    exact two_labels (by decide) valid dot
  · rw [split, List.count_append, List.count_cons_self, List.count_eq_zero.mpr single, List.count_eq_zero.mpr elsewhere]
  · intro char member
    rw [split] at member
    exact isWhitespace_visible (visible_address begins.nameChars each char member)

/-- Of the texts that the validator accepts, exactly the clean ones are stored as whole
e-mail addresses; whitespace at the end does no harm. -/
theorem whole_email_iff {page : LoginPage} (accepted : emailError page.value = none) :
    WholeEmail page.validate.email.toList ↔ Clean (page.value.toList.rdropWhile isWhitespace) := by
  obtain ⟨name, label, letter, rest, begins⟩ := isEmail_iff.mp (emailError_none accepted)
  rw [LoginPage.validate_accepted accepted, trimmed, String.toList_ofList, begins.trim_text]
  exact ⟨clean_of_whole, whole_of_clean begins.trimmed⟩

theorem padded_email_iff :
    WholeEmail (LoginPage.validate { value := "ann@example.com " }).email.toList ↔
      Clean ("ann@example.com ".toList.rdropWhile isWhitespace) := by
  have accepted : emailError "ann@example.com " = none := by decide
  exact @whole_email_iff { value := "ann@example.com " } accepted

/-- Two addresses pass, one behind the other, and so does a comma in the first one. -/
theorem addresses_accepted : ¬ ∀ page : LoginPage, emailError page.value = none →
    WholeEmail page.validate.email.toList := by
  intro always
  have whole := always { value := "ann,bob@b.c, eve@b.c" } (by decide)
  exact absurd whole.once (by decide)

end Clubzey.Proofs.EmailForm
