import Clubzey.Views.Cards
import Clubzey.Proofs.ClubRoundTrip
import Clubzey.Proofs.FormGates

/-! The amounts that the cards show: what rounding can and cannot do to them, and that
a whole amount is shown as it was typed. -/

namespace Clubzey.Proofs.Amounts
open Dart Models Views Backend Foundation Foundation.Rounding

theorem prizeMoney_ok {club : Club} {price : Double} {members : List Value} (priced : club.getPerAmount = .ok price)
    (listed : club.getMembers = .ok members) :
    ClubItemCard.prizeMoney club = .ok (price.mul (.ofInt members.length)) := by
  rw [ClubItemCard.prizeMoney, priced, listed]
  rfl

/-- A club with a share price that a double can hold. -/
structure Priced (club : Club) (price : ℚ) (members : List Value) : Prop where
  amount : club.getPerAmount = .ok (.finite price)
  listed : club.getMembers = .ok members
  nonneg : 0 ≤ price
  valid : (Double.finite price).Valid

/-- The text stands for this amount: a whole number in digits, blanks around it aside. -/
structure TypedWhole (text : String) (amount : ℕ) : Prop where
  typed : trim text.toList ≠ []
  digits : (trim text.toList).all Char.isDigit = true
  value : Decimal.value (trim text.toList) = amount
  small : amount ≤ 2 ^ 53

theorem TypedWhole.parsed {text : String} {amount : ℕ} (whole : TypedWhole text amount) :
    parseDouble text = .ok (.finite amount) := by
  have read := parseDouble_digits whole.digits rfl whole.typed (whole.value.trans_le whole.small)
  rwa [whole.value] at read

section
variable {text : String} {amount : ℚ} (typed : parseDouble text = .ok (.finite amount))
include typed

theorem nonempty_of_parsed : text ≠ "" := by
  rintro rfl
  cases parseDouble_empty.symm.trans typed

/-- The form accepts the price, and whatever becomes of the membership, the club written
shows it. -/
theorem club_shows_price {page : CreateClub} (same : page.amount = text) (enough : 100 ≤ amount)
    (long : 3 ≤ length page.name) (dated : page.drawDate ≠ none) :
    ∃ after, page.pressCreate = (.ok .sheet, after) ∧ ∀ server currentUser createdAt id post, ∃ answer written,
      after.pressContinue .sheet server currentUser createdAt id .success post = some (answer, written) ∧
        Priced (getAClub written id) amount [.string page.admin] := by
  subst same
  obtain ⟨time, dateIs⟩ := Option.ne_none_iff_exists'.mp dated
  have named := FormGates.nameError_none.mpr long
  have answered : amountError page.amount = .ok none := by
    rw [FormGates.amountError_parsed typed, FormGates.isBelow_finite.mpr enough]
    rfl
  have opened : page.pressCreate.1 = .ok .sheet := by
    rw [CreateClub.pressCreate_fst, answered, named, dateIs]
    rfl
  have filled := CreateClub.pressCreate_filled named answered typed
  refine ⟨_, Prod.ext opened filled, ?_⟩
  intro server currentUser createdAt id post
  let club := newClub (trimmed page.name) (.finite amount) page.drawDate page.admin createdAt id
  let written := createClub server currentUser club (page.selectedValue + 1) .success post
  have clubs : written.2.clubs = server.clubs.set id club.getData.1 := createClub_clubs rfl _ _ _ _
  have decoded : (getAClub written.2 id).data = club.getData.1.delivered := by
    rw [getAClub, clubs, Collection.doc_set_same]
    rfl
  have holds := ClubRoundTrip.newClub_holds (trimmed page.name) (.finite amount) time page.admin createdAt id
  rw [← dateIs] at holds
  have fields : ∀ key, key ≠ "id" → club.getData.1.at key = club.data.at key := by
    intro key other
    rw [Club.getData, Fields.at_set, if_neg (Ne.symm other)]
  have documented := holds.congr fields
  refine ⟨written.1, written.2, rfl, ?_⟩
  constructor
  · rw [Club.getPerAmount, decoded, documented.delivered.perAmount]
    rfl
  · rw [Club.getMembers, decoded, documented.delivered.members]
    rfl
  · exact (by norm_num : (0 : ℚ) ≤ 100).trans enough
  · exact valid_parseDouble typed

/-- A payment confirmed with Done is read back with the amount that was typed. -/
theorem payment_keeps_amount (transactions : Collection Fields) (payment : Payment) :
    ∃ after document, pressDone transactions text payment = .ok (none, after) ∧
      after.doc payment.id = some document ∧
      ∀ delivered, document.ReadBack delivered → (ClubTransaction.mk delivered).getAmount = .ok (.finite amount) := by
  have pressed := FormGates.pressDone_typed (nonempty_of_parsed typed) transactions payment
  rw [typed] at pressed
  refine ⟨_, _, pressed, Collection.doc_set_same _ _ _, ?_⟩
  intro delivered readBack
  have reads := readBack.at "amount"
  have stored : { payment with amount := .finite amount : Payment }.clubTransaction.data.at "amount" =
      .double (.finite amount) := by
    simp [Payment.clubTransaction, Fields.at_set]
  rw [stored] at reads
  exact reads.toDouble

end

/-- With its first member alone a club's prize is its price. -/
theorem prizeMoney_alone {club : Club} {price : ℚ} {member : Value} (priced : Priced club price [member]) :
    ClubItemCard.prizeMoney club = .ok (.finite price) := by
  have one : Double.ofInt 1 = .finite ((1 : ℤ) : ℚ) := Double.ofInt_small (by norm_num)
  rw [prizeMoney_ok priced.amount priced.listed, List.length_singleton, Nat.cast_one, one, Double.mul, Int.cast_one,
    mul_one, Double.ofRat_exact priced.valid]

/-- From the forms to the cards no finite amount changes: what the text parses to, and for
up to fifty-three bits in digits that is the number written, is the price and the first
prize of the club made with it, and the amount of the payment confirmed with it. -/
theorem typed_amount_kept {text : String} {amount : ℚ} (typed : parseDouble text = .ok (.finite amount)) :
    (∀ whole, TypedWhole text whole → amount = whole) ∧
    (∀ page : CreateClub, page.amount = text → 100 ≤ amount → 3 ≤ length page.name → page.drawDate ≠ none →
      ∃ after, page.pressCreate = (.ok .sheet, after) ∧ ∀ server currentUser createdAt id post, ∃ answer written,
        after.pressContinue .sheet server currentUser createdAt id .success post = some (answer, written) ∧
          (getAClub written id).getPerAmount = .ok (.finite amount) ∧
          ClubItemCard.prizeMoney (getAClub written id) = .ok (.finite amount)) ∧
    ∀ transactions payment, ∃ after document, pressDone transactions text payment = .ok (none, after) ∧
      after.doc payment.id = some document ∧
      ∀ delivered, document.ReadBack delivered → (ClubTransaction.mk delivered).getAmount = .ok (.finite amount) := by
  refine ⟨?_, ?_, payment_keeps_amount typed⟩
  · intro whole digits
    have same := Except.ok.inj (typed.symm.trans digits.parsed)
    exact Double.finite.inj same
  · intro page same enough long dated
    obtain ⟨after, pressed, continued⟩ := club_shows_price typed same enough long dated
    refine ⟨after, pressed, ?_⟩
    intro server currentUser createdAt id post
    obtain ⟨answer, written, wrote, priced⟩ := continued server currentUser createdAt id post
    exact ⟨answer, written, wrote, priced.amount, prizeMoney_alone priced⟩

theorem typed_250 :
    ∃ after, (FormGates.form "Lucky" " 250 ").pressCreate = (.ok .sheet, after) ∧
      (getAClub ((after.pressContinue .sheet {} none ⟨0, DateTime.epoch_inRange⟩ "c1" .success .success).elim {} Prod.snd)
        "c1").getPerAmount = .ok (.finite 250) := by
  have whole : TypedWhole " 250 " 250 := ⟨by decide, by decide, by decide, by norm_num⟩
  obtain ⟨after, pressed, continued⟩ :=
    (typed_amount_kept whole.parsed).2.1 (FormGates.form "Lucky" " 250 ") rfl (by norm_num) (by decide)
      (by simp [FormGates.form])
  obtain ⟨answer, written, wrote, shown, -⟩ := continued {} none ⟨0, DateTime.epoch_inRange⟩ "c1" .success
  refine ⟨after, pressed, ?_⟩
  rw [wrote]
  exact shown

end Clubzey.Proofs.Amounts
