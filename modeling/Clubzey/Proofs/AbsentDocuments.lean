import Clubzey.Views.ClubDetails

/-! The empty maps that stand in for missing documents, and the getters that read them. -/

namespace Clubzey.Proofs.AbsentDocuments
open Dart Models Views Views.Database Foundation

/-- The getter has answered, without a payment and with some username. -/
def Defined (result : Except Thrown Shown) : Prop :=
  ∃ shown, result = .ok shown ∧ (∀ payments, shown = .payments payments → payments = []) ∧
    ∀ username, shown = .username username → username ≠ ""

/-- Everything that the page reads from a substituted map is defined. -/
def Survives (database : Database) (clubId : String) : Prop :=
  ∀ read ∈ database.clubDetails clubId, database.Absent clubId read.source → Defined read.result

/-- The club is there, its payments are, and so is everybody who is a member or has a
payment. -/
structure Complete (database : Database) (clubId : String) : Prop where
  club : database.clubs.doc clubId ≠ none
  members : ∀ members email, (database.getAClub clubId).getMembers = .ok members → .string email ∈ members →
    database.userData.doc email ≠ none
  payments : ∀ id, (database.getAClub clubId).getId = .ok id → database.payments.doc id ≠ none
  payers : ∀ id payments details email, (database.getAClub clubId).getId = .ok id →
    (database.getPayments id).getPayments = .ok payments → details ∈ payments → details.getEmail = .ok email →
    database.userData.doc email ≠ none

theorem not_defined {thrown : Thrown} : ¬ Defined (.error thrown) := by
  intro defined
  obtain ⟨shown, impossible, _⟩ := defined
  cases impossible

variable {database : Database} {clubId : String}

theorem absent_user {email : String} (absent : database.userData.doc email = none) :
    ⟨.user email, .error .typeError⟩ ∈ database.userReads email := by
  have username : (database.getAUser email).getUsername = .error .typeError := by
    rw [getAUser, absent]
    exact ClubzeyUser.getUsername_empty
  simp [userReads, username, Except.map]

theorem avatar_reads {members : List Value} {email : String} {read : Read}
    (listed : (database.getAClub clubId).getMembers = .ok members) (member : .string email ∈ members)
    (inside : read ∈ database.userReads email) : read ∈ database.clubDetails clubId := by
  have shown : read ∈ database.avatar (.string email) := List.mem_cons_of_mem _ inside
  have avatars : read ∈ members.flatMap database.avatar := List.mem_flatMap.mpr ⟨_, member, shown⟩
  unfold clubDetails
  simp only [listed, Except.toOption, Option.getD_some]
  exact List.mem_append_left _ (List.mem_append_right _ avatars)

theorem payment_reads {id : String} {read : Read} (named : (database.getAClub clubId).getId = .ok id)
    (inside : read ∈ database.paymentReads id) : read ∈ database.clubDetails clubId := by
  unfold clubDetails
  simp only [named]
  exact List.mem_append_right _ inside

theorem card_reads {id email : String} {payments : List PaymentDetails} {details : PaymentDetails} {read : Read}
    (listed : (database.getPayments id).getPayments = .ok payments) (member : details ∈ payments)
    (payer : details.getEmail = .ok email) (inside : read ∈ database.userReads email) :
    read ∈ database.paymentReads id := by
  have shown : read ∈ database.memberCard id details := by
    unfold memberCard
    rw [payer]
    exact List.mem_cons_of_mem _ (List.mem_append_left _ inside)
  unfold paymentReads
  simp only [listed, Except.toOption, Option.getD_some]
  exact List.mem_cons_of_mem _ (List.mem_flatMap.mpr ⟨details, member, shown⟩)

theorem userReads_source {email : String} {read : Read} (inside : read ∈ database.userReads email) :
    read.source = .user email := by
  simp only [userReads, List.mem_cons, List.not_mem_nil, or_false] at inside
  rcases inside with rfl | rfl <;> rfl

theorem avatar_source {member : Value} {read : Read} (inside : read ∈ database.avatar member) :
    read.source = .club ∨ ∃ email, member = .string email ∧ read.source = .user email := by
  cases text : member.asString with
  | error thrown =>
    rw [avatar, text] at inside
    obtain rfl := List.mem_singleton.mp inside
    exact Or.inl rfl
  | ok email =>
    have string : member = .string email := by
      cases member <;> cases text
      rfl
    rw [avatar, text] at inside
    rcases List.mem_cons.mp inside with rfl | user
    · exact Or.inl rfl
    · exact Or.inr ⟨email, string, userReads_source user⟩

theorem memberCard_source {id : String} {details : PaymentDetails} {read : Read}
    (inside : read ∈ database.memberCard id details) :
    read.source = .payment id ∨ ∃ email, details.getEmail = .ok email ∧ read.source = .user email := by
  cases payer : details.getEmail with
  | error thrown =>
    rw [memberCard, payer] at inside
    obtain rfl := List.mem_singleton.mp inside
    exact Or.inl rfl
  | ok email =>
    rw [memberCard, payer] at inside
    rcases List.mem_cons.mp inside with rfl | rest
    · exact Or.inl rfl
    · rcases List.mem_append.mp rest with user | amounts
      · exact Or.inr ⟨email, rfl, userReads_source user⟩
      · simp only [List.mem_cons, List.not_mem_nil, or_false] at amounts
        rcases amounts with rfl | rfl <;> exact Or.inl rfl

theorem paymentReads_source {id : String} {read : Read} (inside : read ∈ database.paymentReads id) :
    read.source = .payment id ∨
      ∃ payments details email, (database.getPayments id).getPayments = .ok payments ∧ details ∈ payments ∧
        details.getEmail = .ok email ∧ read.source = .user email := by
  rcases List.mem_cons.mp inside with rfl | cards
  · exact Or.inl rfl
  · obtain ⟨details, listed, shown⟩ := List.mem_flatMap.mp cards
    cases answered : (database.getPayments id).getPayments with
    | error thrown =>
      rw [answered] at listed
      cases listed
    | ok payments =>
      rw [answered] at listed
      rcases memberCard_source shown with payment | ⟨email, payer, user⟩
      · exact Or.inl payment
      · exact Or.inr ⟨payments, details, email, rfl, listed, payer, user⟩

theorem clubDetails_source {read : Read} (inside : read ∈ database.clubDetails clubId) :
    read.source = .club ∨
      (∃ members email, (database.getAClub clubId).getMembers = .ok members ∧ .string email ∈ members ∧
        read.source = .user email) ∨
      ∃ id, (database.getAClub clubId).getId = .ok id ∧ (read.source = .payment id ∨
        ∃ payments details email, (database.getPayments id).getPayments = .ok payments ∧ details ∈ payments ∧
          details.getEmail = .ok email ∧ read.source = .user email) := by
  -- The page and the countdown, then the avatars, then the cards.
  rcases List.mem_append.mp inside with first | cards
  · rcases List.mem_append.mp first with page | avatars
    · simp only [List.mem_cons, List.not_mem_nil, or_false] at page
      rcases page with rfl | rfl | rfl | rfl <;> exact Or.inl rfl
    · obtain ⟨member, listed, shown⟩ := List.mem_flatMap.mp avatars
      cases answered : (database.getAClub clubId).getMembers with
      | error thrown =>
        rw [answered] at listed
        cases listed
      | ok members =>
        rw [answered] at listed
        rcases avatar_source shown with club | ⟨email, rfl, user⟩
        · exact Or.inl club
        · exact Or.inr (Or.inl ⟨members, email, rfl, listed, user⟩)
  · cases named : (database.getAClub clubId).getId with
    | error thrown =>
      simp only [named] at cards
      cases cards
    | ok id =>
      simp only [named] at cards
      exact Or.inr (Or.inr ⟨id, rfl, paymentReads_source cards⟩)

/-- The page survives missing documents only when none that it asks for is missing. -/
theorem survives_iff (database : Database) (clubId : String) : Survives database clubId ↔ Complete database clubId := by
  constructor
  · intro survives
    refine ⟨?_, ?_, ?_, ?_⟩
    · intro absent
      have club : database.getAClub clubId = { data := ∅ } := by rw [getAClub, absent, Option.getD_none]
      have date : (database.getAClub clubId).getDrawDate = .error .typeError := by
        rw [club]
        simp [Club.getDrawDate, Fields.at, Value.toDate, Value.asDateTime]
      have asked : ⟨.club, .error .typeError⟩ ∈ database.clubDetails clubId := by
        unfold clubDetails
        simp [date, Except.map]
      exact not_defined (survives _ asked absent)
    · intro members email listed member absent
      exact not_defined (survives _ (avatar_reads listed member (absent_user absent)) absent)
    · intro id named absent
      have none : (database.getPayments id).getPayments = .error .noSuchMethod := by
        rw [getPayments, absent]
        exact UserPayment.getPayments_empty
      have asked : ⟨.payment id, .error .noSuchMethod⟩ ∈ database.paymentReads id := by
        unfold paymentReads
        simp [none, Except.map]
      exact not_defined (survives _ (payment_reads named asked) absent)
    · intro id payments details email named listed member payer absent
      have asked := card_reads listed member payer (absent_user absent)
      exact not_defined (survives _ (payment_reads named asked) absent)
  · intro complete read inside absent
    rcases clubDetails_source inside with club | ⟨members, email, listed, member, user⟩ | ⟨id, named, rest⟩
    · rw [club] at absent
      exact absurd absent complete.club
    · rw [user] at absent
      exact absurd absent (complete.members members email listed member)
    · rcases rest with payment | ⟨payments, details, email, listed, member, payer, user⟩
      · rw [payment] at absent
        exact absurd absent (complete.payments id named)
      · rw [user] at absent
        exact absurd absent (complete.payers id payments details email named listed member payer)

/-- A club between createClub and the server's answer to addMember: its document is
there and its payments are not. -/
def newlyCreated : Database where
  clubs := Collection.setAll ∅ [("c1", Collection.setAll ∅ [("id", .string "c1"), ("name", .string "Lucky"),
    ("members", .list [.string "ann@b.c"]), ("drawDate", .timestamp ⟨1648814400000000, DateTime.april_inRange⟩)])]
  payments := ∅
  userData := Collection.setAll ∅ [("ann@b.c", Collection.setAll ∅ [("email", .string "ann@b.c")])]

theorem new_club_throws : ¬ ∀ database clubId, Survives database clubId := by
  intro always
  have named : (newlyCreated.getAClub "c1").getId = .ok "c1" := rfl
  have asked : ⟨.payment "c1", .error .noSuchMethod⟩ ∈ newlyCreated.paymentReads "c1" := List.mem_cons_self
  have absent : newlyCreated.Absent "c1" (.payment "c1") := rfl
  exact not_defined (always newlyCreated "c1" _ (payment_reads named asked) absent)

end Clubzey.Proofs.AbsentDocuments
