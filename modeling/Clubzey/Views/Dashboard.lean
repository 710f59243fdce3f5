import Clubzey.Dart.Core
import Clubzey.Foundation.Collection

/-! Dashboard: the badge that its listener builds for a foreground message. -/

namespace Clubzey.Views
open Dart Foundation

structure Notification where
  title : Option String
  body : Option String
  deriving DecidableEq

structure RemoteMessage where
  notification : Option Notification
  data : Collection String

structure NotificationBadge where
  title : String
  body : String
  /-- The club whose details pressing the badge opens, if it opens any. -/
  opens : Option (Option String)
  deriving DecidableEq

/-- `toString()`, which spells out a null. -/
def nullText (text : Option String) : String := text.getD "null"

def badgeBody (email : String) (message : RemoteMessage) (notification : Notification) : Except Thrown String :=
  if message.data.doc "userEmail" = some email then
    match message.data.doc "username" with
    | none => .error .typeError
    | some username => .ok (replaceAll (replaceAll (nullText notification.body) username "You") "has" "have")
  else .ok (nullText notification.body)

def notificationBadge (email : String) (message : RemoteMessage) : Except Thrown NotificationBadge :=
  match message.notification with
  | none => .error .nullCheck
  | some notification => do
    let body ← badgeBody email message notification
    let silent := message.data.doc "userEmail" = some email ∧ message.data.doc "added" ≠ some "true"
    return { title := nullText notification.title, body, opens := if silent then none else some (message.data.doc "clubId") }

/-- Whether the message can be worded for a user: its own user needs a name in it. -/
def wordable (message : RemoteMessage) (email : String) : Bool :=
  (message.data.doc "username").isSome || message.data.doc "userEmail" != some email

theorem notificationBadge_body {message : RemoteMessage} {notification : Notification}
    (notified : message.notification = some notification) (email body : String) :
    (∃ badge, notificationBadge email message = .ok badge ∧ badge.body = body) ↔
      badgeBody email message notification = .ok body := by
  simp only [notificationBadge, notified]
  cases badgeBody email message notification <;> simp [bind, Except.bind, pure, Except.pure]

theorem notificationBadge_isSome {message : RemoteMessage} (notified : message.notification.isSome) (email : String) :
    (notificationBadge email message).toOption.isSome = wordable message email := by
  obtain ⟨notification, present⟩ := Option.isSome_iff_exists.mp notified
  have built : (notificationBadge email message).toOption.isSome =
      (badgeBody email message notification).toOption.isSome := by
    simp only [notificationBadge, present]
    cases badgeBody email message notification <;> rfl
  rw [built, badgeBody, wordable]
  by_cases addressed : message.data.doc "userEmail" = some email
  · rw [if_pos addressed, addressed, bne_self_eq_false, Bool.or_false]
    cases message.data.doc "username" <;> rfl
  · rw [if_neg addressed, bne_iff_ne.mpr addressed, Bool.or_true]
    rfl

end Clubzey.Views
