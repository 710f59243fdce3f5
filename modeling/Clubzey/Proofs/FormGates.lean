import Clubzey.Views.CreateClub
import Clubzey.Views.PaymentDetailsPage

/-! The forms for a club and for a payment: what their checks let through. -/

namespace Clubzey.Proofs.FormGates
open Dart Models Views Backend Foundation

/-- The document of a club against the texts and the date it was made from. -/
structure Accepted (page : CreateClub) (document : Fields) : Prop where
  name : document.at "name" = .string (trimmed page.name)
  long : 3 ≤ length (trimmed page.name)
  amount : ∃ value, document.at "perAmount" = .double (.finite value) ∧
    parseDouble page.amount = .ok (.finite value) ∧ 100 ≤ value
  drawDate : ∃ time, document.at "drawDate" = .dateTime time ∧ page.drawDate = some time

def Refused : Pressed → Prop
  | .errors name amount => name ≠ none ∨ amount ≠ none
  | .snackbar text => text = "Please select a draw date"
  | .sheet => False

/-- Create answers with a message and without Continue, or Continue writes an accepted
club. -/
def CreateGated (page : CreateClub) : Prop :=
  ∃ pressed after, page.pressCreate = (.ok pressed, after) ∧
    (Refused pressed ∧ (∀ server currentUser createdAt id set post,
        after.pressContinue pressed server currentUser createdAt id set post = none) ∨
      ∀ server currentUser createdAt id post, ∃ answer written document,
        after.pressContinue pressed server currentUser createdAt id .success post = some (answer, written) ∧
          written.clubs.doc id = some document ∧ Accepted page document)

/-- Done answers with a message and writes nothing, or it writes the number typed. -/
def DoneGated (transactions : Collection Fields) (value : String) (payment : Payment) : Prop :=
  ∃ error after, pressDone transactions value payment = .ok (error, after) ∧
    (error ≠ none ∧ after = transactions ∨
      ∃ amount document, parseDouble value = .ok (.finite amount) ∧ after = transactions.set payment.id document ∧
        document.at "amount" = .double (.finite amount))

/-- The amount is left empty or parses; texts that pass, with a date, are a name that is
as long without the blanks around it and a finite number. -/
structure Sensible (page : CreateClub) : Prop where
  parses : page.amount = "" ∨ ∃ amount, parseDouble page.amount = .ok amount
  passes : ∀ amount, parseDouble page.amount = .ok amount → amount.isBelow 100 = false → 3 ≤ length page.name →
    page.drawDate ≠ none → 3 ≤ length (trimmed page.name) ∧ ∃ value, amount = .finite value

theorem nameError_none {value : String} : nameError value = none ↔ 3 ≤ length value := by
  unfold nameError
  by_cases empty : value = ""
  · subst empty
    decide
  · simp [empty]

theorem amountError_parsed {value : String} {amount : Double} (parsed : parseDouble value = .ok amount) :
    amountError value =
      .ok (if amount.isBelow 100 then some "Amount must be at least 3 digits long" else none) := by
  have typed : value ≠ "" := by
    intro empty
    rw [empty, parseDouble_empty] at parsed
    cases parsed
  simp only [amountError, String.isEmpty_iff, typed, if_false, parsed]
  rfl

theorem amountError_thrown {value : String} {thrown : Thrown} (typed : value ≠ "")
    (failed : parseDouble value = .error thrown) : amountError value = .error thrown := by
  simp only [amountError, String.isEmpty_iff, typed, if_false, failed]
  rfl

theorem isBelow_finite {value bound : ℚ} : (Double.finite value).isBelow bound = false ↔ bound ≤ value := by
  rw [Double.isBelow, decide_eq_false_iff_not, not_lt]

theorem refused_of_stopped {page : CreateClub} {answer : Option String}
    (answered : amountError page.amount = .ok answer)
    (stopped : nameError page.name ≠ none ∨ answer ≠ none ∨ page.drawDate = none) :
    ∃ pressed, page.pressCreate.1 = .ok pressed ∧ Refused pressed := by
  have pressed := page.pressCreate_fst
  simp only [answered, Except.map] at pressed
  refine ⟨_, pressed, ?_⟩
  split
  next fails => exact fails
  next passes =>
    rw [not_or, not_not, not_not] at passes
    rcases stopped with name | amount | undated
    · exact absurd passes.1 name
    · exact absurd passes.2 amount
    · rw [if_pos undated]
      rfl

theorem gated_of_refused {page : CreateClub} {pressed : Pressed} (answered : page.pressCreate.1 = .ok pressed)
    (refused : Refused pressed) : CreateGated page := by
  refine ⟨pressed, page.pressCreate.2, Prod.ext answered rfl, Or.inl ⟨refused, ?_⟩⟩
  intro server currentUser createdAt id set post
  cases pressed with
  | errors name amount => rfl
  | snackbar text => rfl
  | sheet => cases refused

theorem accepted_newClub {page : CreateClub} {value : ℚ} {time : DateTime}
    (parsed : parseDouble page.amount = .ok (.finite value)) (enough : 100 ≤ value)
    (long : 3 ≤ length (trimmed page.name)) (dated : page.drawDate = some time) (createdAt : DateTime) (id : String) :
    Accepted page (newClub (trimmed page.name) (.finite value) page.drawDate page.admin createdAt id).getData.1 := by
  refine ⟨?_, long, ⟨value, ?_, parsed, enough⟩, time, ?_, dated⟩
  · simp [newClub, Club.setId, Club.getData, Fields.at_set]
  · simp [newClub, Club.setId, Club.getData, Fields.at_set]
  · simp [newClub, Club.setId, Club.getData, Fields.at_set, dated]

theorem gated_of_passed {page : CreateClub} {amount : Double} {time : DateTime}
    (parsed : parseDouble page.amount = .ok amount) (enough : amount.isBelow 100 = false)
    (long : 3 ≤ length page.name) (dated : page.drawDate = some time) :
    CreateGated page ↔ 3 ≤ length (trimmed page.name) ∧ ∃ value, amount = .finite value := by
  have named : nameError page.name = none := nameError_none.mpr long
  have answered : amountError page.amount = .ok none := by
    rw [amountError_parsed parsed, enough]
    rfl
  have opened : page.pressCreate.1 = .ok .sheet := by
    rw [CreateClub.pressCreate_fst, answered, named, dated]
    rfl
  have filled := CreateClub.pressCreate_filled named answered parsed
  constructor
  · intro gated
    obtain ⟨pressed, after, result, outcome⟩ := gated
    rw [result] at opened filled
    cases opened
    rcases outcome with ⟨refused, _⟩ | written
    · cases refused
    · dsimp only at filled
      obtain ⟨answer, server, document, continued, stored, accepted⟩ :=
        written {} none ⟨0, by decide⟩ "" .success
      obtain ⟨value, _, same, _⟩ := accepted.amount
      rw [parsed] at same
      cases same
      exact ⟨accepted.long, value, rfl⟩
  · intro sound
    obtain ⟨trim, value, finite⟩ := sound
    subst finite
    refine ⟨.sheet, _, Prod.ext opened filled, Or.inr ?_⟩
    intro server currentUser createdAt id post
    let club := newClub (trimmed page.name) (.finite value) page.drawDate page.admin createdAt id
    let written := createClub server currentUser club (page.selectedValue + 1) .success post
    have clubs : written.2.clubs = server.clubs.set id club.getData.1 := createClub_clubs rfl _ _ _ _
    refine ⟨written.1, written.2, club.getData.1, rfl, ?_, ?_⟩
    · rw [clubs, Collection.doc_set_same]
    · exact accepted_newClub parsed (isBelow_finite.mp enough) trim dated createdAt id

/-- An amount that is not a number throws, unless it is empty. -/
theorem gated_of_unparsed {page : CreateClub} {thrown : Thrown} (failed : parseDouble page.amount = .error thrown) :
    CreateGated page ↔ page.amount = "" := by
  constructor
  · intro gated
    by_contra typed
    obtain ⟨pressed, after, result, _⟩ := gated
    have throws := page.pressCreate_fst
    rw [result, amountError_thrown typed failed] at throws
    cases throws
  · intro empty
    have answered : amountError page.amount = .ok (some "Please enter Per Amount") := by
      rw [empty]
      rfl
    obtain ⟨pressed, result, refused⟩ := refused_of_stopped answered (Or.inr (Or.inl (Option.some_ne_none _)))
    exact gated_of_refused result refused

theorem gated_of_failed {page : CreateClub} {amount : Double} (parsed : parseDouble page.amount = .ok amount)
    (fails : ¬ (amount.isBelow 100 = false ∧ 3 ≤ length page.name ∧ page.drawDate ≠ none)) : CreateGated page := by
  have stopped : nameError page.name ≠ none ∨
      (if amount.isBelow 100 then some "Amount must be at least 3 digits long" else none) ≠ none ∨
      page.drawDate = none := by
    by_contra goes
    rw [not_or, not_or, not_not, not_not] at goes
    apply fails
    refine ⟨?_, nameError_none.mp goes.1, goes.2.2⟩
    simpa using goes.2.1
  obtain ⟨pressed, result, refused⟩ := refused_of_stopped (amountError_parsed parsed) stopped
  exact gated_of_refused result refused

private theorem create_gated_iff (page : CreateClub) : CreateGated page ↔ Sensible page := by
  cases parsed : parseDouble page.amount with
  | error thrown =>
    rw [gated_of_unparsed parsed]
    constructor
    · intro empty
      refine ⟨Or.inl empty, ?_⟩
      intro amount other
      cases parsed.symm.trans other
    · intro sensible
      rcases sensible.parses with empty | ⟨amount, other⟩
      · exact empty
      · cases parsed.symm.trans other
  | ok amount =>
    by_cases passes : amount.isBelow 100 = false ∧ 3 ≤ length page.name ∧ page.drawDate ≠ none
    · obtain ⟨enough, long, dated⟩ := passes
      obtain ⟨time, drawDate⟩ := Option.ne_none_iff_exists'.mp dated
      rw [gated_of_passed parsed enough long drawDate]
      constructor
      · intro sound
        refine ⟨Or.inr ⟨amount, parsed⟩, ?_⟩
        intro other same _ _ _
        cases parsed.symm.trans same
        exact sound
      · intro sensible
        exact sensible.passes amount parsed enough long dated
    · refine ⟨fun _ => ⟨Or.inr ⟨amount, parsed⟩, ?_⟩, fun _ => gated_of_failed parsed passes⟩
      intro other same enough long dated
      cases parsed.symm.trans same
      exact absurd ⟨enough, long, dated⟩ passes

theorem pressDone_typed {value : String} (typed : value ≠ "") (transactions : Collection Fields) (payment : Payment) :
    pressDone transactions value payment = (parseDouble value).map fun amount =>
      (none, transactions.set payment.id { payment with amount : Payment }.clubTransaction.data) := by
  simp only [pressDone, String.isEmpty_iff, typed, if_false, onDone_set]
  cases parseDouble value <;> rfl

private theorem done_gated_iff (transactions : Collection Fields) (value : String) (payment : Payment) :
    DoneGated transactions value payment ↔ value = "" ∨ ∃ amount, parseDouble value = .ok (.finite amount) := by
  by_cases typed : value = ""
  · refine ⟨fun _ => Or.inl typed, ?_⟩
    intro _
    subst typed
    exact ⟨some "Please enter your amount", transactions, rfl, Or.inl ⟨by simp, rfl⟩⟩
  · have pressed := pressDone_typed typed transactions payment
    constructor
    · intro gated
      obtain ⟨error, after, result, outcome⟩ := gated
      rw [result] at pressed
      cases parsed : parseDouble value with
      | error thrown =>
        rw [parsed] at pressed
        cases pressed
      | ok amount =>
        rw [parsed] at pressed
        cases pressed
        rcases outcome with ⟨shown, _⟩ | ⟨finite, document, same, _⟩
        · exact absurd rfl shown
        · rw [parsed] at same
          exact Or.inr ⟨finite, same⟩
    · intro numeric
      obtain ⟨amount, parsed⟩ := numeric.resolve_left typed
      rw [parsed] at pressed
      refine ⟨none, _, pressed, Or.inr ⟨amount, _, parsed, rfl, ?_⟩⟩
      simp [Payment.clubTransaction, Fields.at_set]

/-- Pressing Create is sound on a form exactly when its texts are sensible, and Done on
exactly the empty text and the texts of finite numbers. -/
theorem form_gates_iff (page : CreateClub) (transactions : Collection Fields) (value : String) (payment : Payment) :
    (CreateGated page ↔ Sensible page) ∧
      (DoneGated transactions value payment ↔ value = "" ∨ ∃ amount, parseDouble value = .ok (.finite amount)) :=
  ⟨create_gated_iff page, done_gated_iff transactions value payment⟩

def form (name amount : String) : CreateClub where
  name
  amount
  drawDate := some ⟨1648814400000000, DateTime.april_inRange⟩
  admin := "ann@b.c"

/-- A number with a separator throws; a name of blanks and NaN are written. -/
theorem texts_not_gated :
    ¬ CreateGated (form "Lucky" "1,000") ∧ ¬ CreateGated (form "   " "100") ∧ ¬ CreateGated (form "Lucky" "NaN") := by
  refine ⟨?_, ?_, ?_⟩
  · intro gated
    have failed : parseDouble "1,000" = .error .formatException := by decide +kernel
    rcases ((create_gated_iff _).mp gated).parses with empty | ⟨amount, parsed⟩
    · revert empty
      decide
    · cases failed.symm.trans parsed
  · intro gated
    have parsed : parseDouble "100" = .ok (.finite 100) := by decide +kernel
    obtain ⟨long, _⟩ := ((create_gated_iff _).mp gated).passes _ parsed (by decide) (by decide) (by simp [form])
    revert long
    decide
  · intro gated
    obtain ⟨_, value, finite⟩ := ((create_gated_iff _).mp gated).passes .nan rfl rfl (by decide) (by simp [form])
    cases finite

end Clubzey.Proofs.FormGates
