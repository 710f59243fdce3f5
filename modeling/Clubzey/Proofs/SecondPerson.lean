import Clubzey.Dart.ReplaceAll
import Clubzey.Views.Dashboard

/-! The badge for the user whom a message is about. Both replacements go through the
whole body, so they leave the rest of it alone only where neither finds anything. -/

namespace Clubzey.Proofs.SecondPerson
open Dart Views Foundation

/-- One text stands somewhere in another. -/
def Within (part text : String) : Prop := part.toList <:+: text.toList

instance (part text : String) : Decidable (Within part text) := inferInstanceAs (Decidable (_ <:+: _))

/-- The message is about the user who reads it, in the words that the server sends. -/
structure Addressed (message : RemoteMessage) (notification : Notification) (email username rest : String) : Prop where
  notified : message.notification = some notification
  body : notification.body = some (username ++ " has " ++ rest)
  userEmail : message.data.doc "userEmail" = some email
  named : message.data.doc "username" = some username
  nonempty : username ≠ ""

/-- The first replacement, of a username. -/
def subject (username text : List Char) : List Char := replaceFrom username "You".toList 0 text

/-- The second replacement. -/
def verb (text : List Char) : List Char := replaceFrom "has".toList "have".toList 0 text

theorem subject_replaced {username : List Char} (present : username ≠ []) (text : List Char) :
    Replaced username "You".toList text (subject username text) := replaceFrom_replaced present text

theorem verb_replaced (text : List Char) : Replaced "has".toList "have".toList text (verb text) :=
  replaceFrom_replaced (by decide) text

theorem verb_you (text : List Char) : verb ("You".toList ++ text) = "You".toList ++ verb text := by
  simp [verb, replaceFrom]

theorem verb_has (text : List Char) : verb (" has ".toList ++ text) = " have ".toList ++ verb text := by
  simp [verb, replaceFrom]

theorem verb_early {passed : List Char} (early : passed <+: " has ".toList) (shorter : passed ≠ " has ".toList)
    (result rest : List Char) : verb (passed ++ "You".toList ++ result) ≠ " have ".toList ++ rest := by
  have options : passed = [] ∨ passed = " ".toList ∨ passed = " h".toList ∨ passed = " ha".toList ∨
      passed = " has".toList ∨ passed = " has ".toList := by
    simpa using (List.mem_inits _ _).mpr early
  rcases options with rfl | rfl | rfl | rfl | rfl | rfl
  · simp [verb, replaceFrom]
  · simp [verb, replaceFrom]
  · simp [verb, replaceFrom]
  · simp [verb, replaceFrom]
  · simp [verb, replaceFrom]
  · exact absurd rfl shorter

/-- Both replacements together leave a text as it is only if each of them does: no
letter s is ever written, and every replaced verb takes one away. -/
theorem rewritten_eq_iff {username : List Char} (present : username ≠ []) (text : List Char) :
    verb (subject username text) = text ↔
      (username = "You".toList ∨ ¬ username <:+: text) ∧ ¬ "has".toList <:+: text := by
  let weight : Char → Int := fun char => if char = 's' then 1 else 0
  have subjects := subject_replaced present text
  constructor
  · intro same
    have verbs := verb_replaced (subject username text)
    rw [same] at verbs
    have light : total weight "You".toList ≤ total weight username := by
      apply Int.le_trans (b := 0)
      · decide
      · apply total_nonneg
        intro char
        dsimp only [weight]
        split <;> decide
    have first := subjects.total_le light
    have lost : total weight "have".toList < total weight "has".toList := by decide
    have second := verbs.total_le (Int.le_of_lt lost)
    have absent := verbs.absent_of_total weight (by decide) lost (Int.le_antisymm second first)
    have kept := verbs.eq_of_absent absent
    rw [← kept] at absent
    exact ⟨(subjects.eq_iff present).mp kept.symm, absent⟩
  · intro harmless
    obtain ⟨named, absent⟩ := harmless
    rw [(subjects.eq_iff present).mpr named]
    exact (verb_replaced text).eq_of_absent absent

/-- The body's rest, with the verb before it, is rewritten as it should be. -/
theorem rewritten_has_iff {username : List Char} (present : username ≠ []) (rest : List Char) :
    verb (subject username (" has ".toList ++ rest)) = " have ".toList ++ rest ↔
      (username = "You".toList ∨ ¬ username <:+: " has ".toList ++ rest) ∧ ¬ "has".toList <:+: rest := by
  rcases replaceFrom_append present " has ".toList rest with
    ⟨passed, same⟩ | ⟨passed, result, early, shorter, occurs, found⟩
  · rw [subject, passed, verb_has, List.append_right_inj, same]
    exact rewritten_eq_iff present rest
  · rw [subject, found]
    constructor
    · intro rewritten
      exact absurd rewritten (verb_early early shorter result rest)
    · intro harmless
      rcases harmless.1 with named | absent
      · have kept := ((subject_replaced present (" has ".toList ++ rest)).eq_iff present).mpr (Or.inl named)
        rw [subject, found] at kept
        apply absurd _ (verb_early early shorter result (verb rest))
        rw [kept, verb_has]
      · exact absurd occurs absent

theorem badgeBody_addressed {message : RemoteMessage} {notification : Notification} {email username rest : String}
    (addressed : Addressed message notification email username rest) :
    badgeBody email message notification = .ok (String.ofList
      ("You".toList ++ verb (subject username.toList (" has ".toList ++ rest.toList)))) := by
  have present : username.toList ≠ [] := by simpa using addressed.nonempty
  have whole : (replaceAll (replaceAll (username ++ " has " ++ rest) username "You") "has" "have").toList =
      "You".toList ++ verb (subject username.toList (" has ".toList ++ rest.toList)) := by
    rw [toList_replaceAll _ _ (by decide), toList_replaceAll _ _ addressed.nonempty, String.toList_append,
      String.toList_append, List.append_assoc, replaceFrom_found present]
    exact verb_you _
  rw [badgeBody, if_pos addressed.userEmail, addressed.named, addressed.body]
  dsimp only [nullText, Option.getD_some]
  rw [← whole, String.ofList_toList]

/-- The badge tells the user in the second person what the body tells exactly when the
username, unless it is "You", is found nowhere behind itself and no "has" behind the verb. -/
theorem second_person_iff {message : RemoteMessage} {notification : Notification} {email username rest : String}
    (addressed : Addressed message notification email username rest) :
    (∃ badge, notificationBadge email message = .ok badge ∧ badge.body = "You have " ++ rest) ↔
      (username = "You" ∨ ¬ Within username (" has " ++ rest)) ∧ ¬ Within "has" rest := by
  have present : username.toList ≠ [] := by simpa using addressed.nonempty
  rw [notificationBadge_body addressed.notified, badgeBody_addressed addressed, Except.ok.injEq, ← String.toList_inj]
  have texts : ("You have " ++ rest).toList = "You".toList ++ (" have ".toList ++ rest.toList) := by simp
  rw [String.toList_ofList, texts, List.append_right_inj, rewritten_has_iff present, Within, Within,
    String.toList_append, String.toList_inj]

def told (rest : String) : Notification where
  title := some "Lucky club"
  body := some ("Ann" ++ " has " ++ rest)

def toAnn (rest : String) : RemoteMessage where
  notification := some (told rest)
  data := Collection.setAll ∅ [("userEmail", "ann@example.com"), ("username", "Ann")]

theorem toAnn_addressed (rest : String) : Addressed (toAnn rest) (told rest) "ann@example.com" "Ann" rest :=
  ⟨rfl, rfl, rfl, rfl, by simp⟩

theorem payment_rewritten :
    (∃ badge, notificationBadge "ann@example.com" (toAnn "paid 100") = .ok badge ∧
      badge.body = "You have " ++ "paid 100") ↔
      ("Ann" = "You" ∨ ¬ Within "Ann" (" has " ++ "paid 100")) ∧ ¬ Within "has" "paid 100" :=
  second_person_iff (toAnn_addressed "paid 100")

/-- The verb is found in a purchase too. -/
theorem purchase_misspelt : ¬ ∀ message notification email username rest,
    Addressed message notification email username rest →
    ∃ badge, notificationBadge email message = .ok badge ∧ badge.body = "You have " ++ rest := by
  intro always
  obtain ⟨badge, built, body⟩ := always _ _ _ _ _ (toAnn_addressed "purchased a share")
  have misspelt : (notificationBadge "ann@example.com" (toAnn "purchased a share")).toOption.map
      NotificationBadge.body = some "You have purchaveed a share" := by
    decide
  rw [built] at misspelt
  exact absurd (body.symm.trans (Option.some.inj misspelt)) (by decide)

end Clubzey.Proofs.SecondPerson
