import Clubzey.Dart.Text
import Clubzey.Utils.Helper

/-! The texts that pass for an e-mail: how they begin, and what trimming leaves of them. -/

namespace Clubzey.Utils
open Dart

theorem matchesPrefix_char {expected : Char} {pieces : List Piece} {text : List Char} :
    matchesPrefix (.char expected :: pieces) text = true ↔
      ∃ rest, text = expected :: rest ∧ matchesPrefix pieces rest = true := by
  cases text with
  | nil => simp [matchesPrefix]
  | cons char rest =>
    rw [matchesPrefix, Bool.and_eq_true, beq_iff_eq]
    constructor
    · intro starts
      exact ⟨rest, by rw [starts.1], starts.2⟩
    · intro split
      obtain ⟨_, same, later⟩ := split
      cases same
      exact ⟨rfl, later⟩

theorem matchesPrefix_many {accepts : Char → Bool} {pieces : List Piece} {text : List Char} :
    matchesPrefix (.many accepts :: pieces) text = true ↔
      ∃ run rest, text = run ++ rest ∧ run ≠ [] ∧ (∀ char ∈ run, accepts char = true) ∧
        matchesPrefix pieces rest = true := by
  induction text with
  | nil =>
    simp [matchesPrefix]
  | cons char text ih =>
    rw [matchesPrefix, Bool.and_eq_true, Bool.or_eq_true, ih]
    constructor
    · intro starts
      obtain ⟨accepted, last | ⟨run, rest, split, _, others, later⟩⟩ := starts
      · exact ⟨[char], text, rfl, by simp, by simpa using accepted, last⟩
      · refine ⟨char :: run, rest, by rw [split, List.cons_append], by simp, ?_, later⟩
        exact List.forall_mem_cons.mpr ⟨accepted, others⟩
    · intro split
      obtain ⟨run, rest, split, filled, accepted, later⟩ := split
      obtain ⟨_, run, rfl⟩ := List.exists_cons_of_ne_nil filled
      cases split
      obtain ⟨here, others⟩ := List.forall_mem_cons.mp accepted
      refine ⟨here, ?_⟩
      cases run with
      | nil => exact Or.inl later
      | cons next run => exact Or.inr ⟨next :: run, rest, rfl, by simp, others, later⟩

/-- How an accepted text begins, up to the first letter behind the dot. -/
structure Begins (text name label : List Char) (letter : Char) (rest : List Char) : Prop where
  split : text = name ++ '@' :: (label ++ '.' :: letter :: rest)
  named : name ≠ []
  nameChars : ∀ char ∈ name, isLocalChar char = true
  labelled : label ≠ []
  labelChars : ∀ char ∈ label, char.isAlphanum = true
  alpha : letter.isAlpha = true

theorem isEmail_iff {email : String} :
    isEmail email = true ↔ ∃ name label letter rest, Begins email.toList name label letter rest := by
  constructor
  · intro accepted
    obtain ⟨name, _, split, named, nameChars, more⟩ := matchesPrefix_many.mp accepted
    obtain ⟨_, rfl, more⟩ := matchesPrefix_char.mp more
    obtain ⟨label, _, rfl, labelled, labelChars, more⟩ := matchesPrefix_many.mp more
    obtain ⟨_, rfl, more⟩ := matchesPrefix_char.mp more
    obtain ⟨run, rest, rfl, filled, letters, _⟩ := matchesPrefix_many.mp more
    obtain ⟨letter, run, rfl⟩ := List.exists_cons_of_ne_nil filled
    have alpha := letters letter List.mem_cons_self
    exact ⟨name, label, letter, run ++ rest, split, named, nameChars, labelled, labelChars, alpha⟩
  · intro begins
    obtain ⟨name, label, letter, rest, split, named, nameChars, labelled, labelChars, alpha⟩ := begins
    apply matchesPrefix_many.mpr
    refine ⟨name, _, split, named, nameChars, matchesPrefix_char.mpr ⟨_, rfl, ?_⟩⟩
    apply matchesPrefix_many.mpr
    refine ⟨label, _, rfl, labelled, labelChars, matchesPrefix_char.mpr ⟨_, rfl, ?_⟩⟩
    apply matchesPrefix_many.mpr
    exact ⟨[letter], rest, rfl, by simp, by simpa using alpha, by rw [matchesPrefix]⟩

/-- The printable characters of ASCII other than the blank. -/
def Visible (char : Char) : Prop := 33 ≤ char.toNat ∧ char.toNat < 127

instance (char : Char) : Decidable (Visible char) := inferInstanceAs (Decidable (_ ∧ _))

theorem visible_alphanum {char : Char} (alphanum : char.isAlphanum = true) : Visible char := by
  simp only [Char.isAlphanum, Char.isAlpha, Char.isUpper, Char.isLower, Char.isDigit, Bool.or_eq_true, Bool.and_eq_true,
    decide_eq_true_eq] at alphanum
  have ranges : (65 ≤ char.toNat ∧ char.toNat ≤ 90 ∨ 97 ≤ char.toNat ∧ char.toNat ≤ 122) ∨
      48 ≤ char.toNat ∧ char.toNat ≤ 57 := alphanum
  unfold Visible
  omega

theorem visible_localChar {char : Char} (accepted : isLocalChar char = true) : Visible char := by
  rcases Bool.or_eq_true_iff.mp accepted with alphanum | listed
  · exact visible_alphanum alphanum
  · have all : ".!#$%&'*+,-./=?^_`\x7b|\x7d~".toList.all (fun char => decide (Visible char)) = true := by decide
    exact of_decide_eq_true (List.all_eq_true.mp all char (List.contains_iff_mem.mp listed))

theorem visible_address {name domain : List Char} (nameChars : ∀ char ∈ name, isLocalChar char = true)
    (each : ∀ char ∈ domain, char.isAlphanum = true ∨ char = '.') :
    ∀ char ∈ name ++ '@' :: domain, Visible char := by
  intro char member
  rcases List.mem_append.mp member with inName | later
  · exact visible_localChar (nameChars char inName)
  · rcases List.mem_cons.mp later with rfl | inDomain
    · exact ⟨by decide, by decide⟩
    · rcases each char inDomain with alphanum | rfl
      · exact visible_alphanum alphanum
      · exact ⟨by decide, by decide⟩

theorem unitsOf_visible {char : Char} (visible : Visible char) : unitsOf char = 1 := by
  have below := visible.2
  apply if_pos
  omega

namespace Begins
variable {text name label rest : List Char} {letter : Char}

theorem visible (begins : Begins text name label letter rest) :
    ∀ char ∈ name ++ '@' :: (label ++ ['.', letter]), Visible char := by
  apply visible_address begins.nameChars
  intro char member
  rcases List.mem_append.mp member with inLabel | ending
  · exact Or.inl (begins.labelChars char inLabel)
  · rcases List.mem_pair.mp ending with rfl | rfl
    · exact Or.inr rfl
    · rw [Char.isAlphanum, begins.alpha]
      exact Or.inl (Bool.true_or _)

/-- Trimming takes nothing but whitespace behind the match. -/
theorem trim_text (begins : Begins text name label letter rest) : trim text = text.rdropWhile isWhitespace := by
  obtain ⟨first, later, same⟩ := List.exists_cons_of_ne_nil begins.named
  have visible := begins.visible first (by simp [same])
  rw [begins.split, same, List.cons_append]
  exact trim_end _ (isWhitespace_visible visible)

theorem trimmed (begins : Begins text name label letter rest) :
    Begins (text.rdropWhile isWhitespace) name label letter (rest.rdropWhile isWhitespace) := by
  have visible := begins.visible letter (by simp)
  have front : text = (name ++ '@' :: (label ++ ['.'])) ++ letter :: rest := by simp [begins.split]
  refine ⟨?_, begins.named, begins.nameChars, begins.labelled, begins.labelChars, begins.alpha⟩
  rw [front, rdropWhile_append _ _ (isWhitespace_visible visible)]
  simp

/-- A character, the at sign, a character, the dot and a letter are the least. -/
theorem five (begins : Begins text name label letter rest) : 5 ≤ text.length ∧ ∀ char ∈ text.take 5, Visible char := by
  have named := List.length_pos_of_ne_nil begins.named
  have labelled := List.length_pos_of_ne_nil begins.labelled
  have front : text = (name ++ '@' :: (label ++ ['.', letter])) ++ rest := by simp [begins.split]
  have long : 5 ≤ (name ++ '@' :: (label ++ ['.', letter])).length := by
    simp only [List.length_append, List.length_cons, List.length_nil]
    omega
  rw [front, List.take_append_of_le_length long]
  refine ⟨?_, ?_⟩
  · rw [List.length_append]
    omega
  · intro char member
    exact begins.visible char (List.mem_of_mem_take member)

theorem head (begins : Begins text name label letter rest) : text.head? = name.head? := by
  obtain ⟨first, later, same⟩ := List.exists_cons_of_ne_nil begins.named
  rw [begins.split, same]
  rfl

end Begins
end Clubzey.Utils
