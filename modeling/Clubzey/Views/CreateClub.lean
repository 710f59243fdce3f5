import Clubzey.Backend.Server
import Clubzey.Dart.DoubleText
import Clubzey.Dart.Text

/-! CreateClub: the form, what its validators write, and the club that Continue builds
from it. -/

namespace Clubzey.Views
open Dart Models Foundation Backend

def newClub (clubName : String) (perAmount : Double) (drawDate : Option DateTime) (admin : String)
    (createdAt : DateTime) (id : String) : Club :=
  Club.setId
    { data := Collection.setAll ∅
        [("name", .string clubName), ("perAmount", .double perAmount), ("drawDate", drawDate.elim .null .dateTime),
          ("members", .list [.string admin]), ("createdAt", .dateTime createdAt), ("createdBy", .string admin)] }
    id

structure CreateClub where
  /-- What stands in the field Club Name. -/
  name : String := ""
  /-- What stands in the field Per Amount. -/
  amount : String := ""
  clubName : String := " "
  perAmount : Double := .finite 0
  drawDate : Option DateTime := none
  admin : String
  selectedValue : Nat := 0

def nameError (value : String) : Option String :=
  if value.isEmpty then some "Please enter your club name"
  else if length value < 3 then some "Name must be 3 characters"
  else none

def amountError (value : String) : Except Thrown (Option String) := do
  if value.isEmpty then return some "Please enter Per Amount"
  let amount ← parseDouble value
  return if amount.isBelow 100 then some "Amount must be at least 3 digits long" else none

/-- What a press of Create shows: the messages under the two fields, the snackbar, or
the sheet with Continue. -/
inductive Pressed where
  | errors (name amount : Option String)
  | snackbar (text : String)
  | sheet
  deriving DecidableEq

namespace CreateClub

def validateName (page : CreateClub) : Option String × CreateClub :=
  match nameError page.name with
  | some error => (some error, page)
  | none => (none, { page with clubName := trimmed page.name })

/-- Only the second parse stands in the try block. -/
def validateAmount (page : CreateClub) : Except Thrown (Option String) × CreateClub :=
  match amountError page.amount with
  | .ok none =>
    match parseDouble page.amount with
    | .ok perAmount => (.ok none, { page with perAmount })
    | .error _ => (.ok none, page)
  | answer => (answer, page)

/-- Both fields are validated, whatever the first one answers. -/
def pressCreate (page : CreateClub) : Except Thrown Pressed × CreateClub :=
  let (name, page) := page.validateName
  match page.validateAmount with
  | (.error thrown, page) => (.error thrown, page)
  | (.ok amount, page) =>
    if name ≠ none ∨ amount ≠ none then (.ok (.errors name amount), page)
    else if page.drawDate = none then (.ok (.snackbar "Please select a draw date"), page)
    else (.ok .sheet, page)

def pressContinue (page : CreateClub) (pressed : Pressed) (server : Server) (currentUser : Option String)
    (createdAt : DateTime) (id : String) (set post : Outcome) : Option (Except Thrown Unit × Server) :=
  match pressed with
  | .sheet =>
    let club := newClub page.clubName page.perAmount page.drawDate page.admin createdAt id
    some (createClub server currentUser club (page.selectedValue + 1) set post)
  | _ => none

@[simp] theorem validateName_fst (page : CreateClub) : page.validateName.1 = nameError page.name := by
  unfold validateName
  cases nameError page.name <;> rfl

@[simp] theorem validateName_amount (page : CreateClub) : page.validateName.2.amount = page.amount := by
  unfold validateName
  cases nameError page.name <;> rfl

@[simp] theorem validateName_drawDate (page : CreateClub) : page.validateName.2.drawDate = page.drawDate := by
  unfold validateName
  cases nameError page.name <;> rfl

@[simp] theorem validateAmount_fst (page : CreateClub) : page.validateAmount.1 = amountError page.amount := by
  unfold validateAmount
  split
  next answered =>
    rw [answered]
    cases parseDouble page.amount <;> rfl
  next => rfl

@[simp] theorem validateAmount_drawDate (page : CreateClub) : page.validateAmount.2.drawDate = page.drawDate := by
  unfold validateAmount
  split
  next => cases parseDouble page.amount <;> rfl
  next => rfl

theorem pressCreate_fst (page : CreateClub) :
    page.pressCreate.1 = (amountError page.amount).map fun amount =>
      if nameError page.name ≠ none ∨ amount ≠ none then .errors (nameError page.name) amount
      else if page.drawDate = none then .snackbar "Please select a draw date"
      else .sheet := by
  have answered := page.validateName.2.validateAmount_fst
  have dated := page.validateName.2.validateAmount_drawDate
  rw [validateName_amount] at answered
  rw [validateName_drawDate] at dated
  unfold pressCreate
  dsimp only
  rw [validateName_fst]
  generalize page.validateName.2.validateAmount = validated at answered dated
  obtain ⟨answer, after⟩ := validated
  dsimp only at answered dated
  rw [← answered, ← dated]
  cases answer with
  | error thrown => rfl
  | ok amount =>
    dsimp only [Except.map]
    split
    next => rfl
    next =>
      split <;> rfl

theorem pressCreate_filled {page : CreateClub} {amount : Double} (named : nameError page.name = none)
    (answered : amountError page.amount = .ok none) (parsed : parseDouble page.amount = .ok amount) :
    page.pressCreate.2 = { page with clubName := trimmed page.name, perAmount := amount } := by
  unfold pressCreate validateName validateAmount
  simp only [named, answered, parsed, ne_eq, not_true_eq_false, or_self, if_false]
  split <;> rfl

end CreateClub
end Clubzey.Views
