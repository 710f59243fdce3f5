import Clubzey.Foundation.Requests
import Clubzey.Models.Club

/-! TopicSubscription: which messaging topics a device is subscribed to and the
list of them it keeps in its Hive box. -/

namespace Clubzey.Backend
open Dart Models Foundation

structure Device where
  topics : Finset String := ∅
  /-- The entry of subscriptionBox, absent until the first put. -/
  stored : Option (List String) := none
  deriving DecidableEq

namespace Device

def subscriptionMembersList (device : Device) : List String := device.stored.getD []

def perform (device : Device) (requests : List (Request String)) : Device :=
  { device with topics := Request.performAll device.topics requests }

def put (device : Device) (subscriptions : List String) : Device := { device with stored := some subscriptions }

/-- FirebaseMessaging drops every subscription of a token it deletes. -/
def deleteToken (device : Device) : Device := { device with topics := ∅ }

/-- Every topic is on the list, so a later run can unsubscribe it. -/
def Recorded (device : Device) : Prop := ∀ topic ∈ device.topics, topic ∈ device.subscriptionMembersList

instance (device : Device) : Decidable device.Recorded :=
  inferInstanceAs (Decidable (∀ topic ∈ device.topics, topic ∈ device.subscriptionMembersList))

end Device

def unsubscribeFromTopic (topic : String) : Request String := .remove topic

def subscribeToTopic (topic : String) : Request String := .add topic

def getAllClubsOnce (snapshot : Except Thrown (List Fields)) : Except Thrown (List Club) :=
  snapshot.map (List.map fun data => { data })

def newSubscriptions (snapshot : Except Thrown (List Fields)) : Except Thrown (List String) := do
  (← getAllClubsOnce snapshot).mapM Club.getId

/-- `oldSubscriptions.toSet().difference(newSubscriptions.toSet()).toList()`. -/
def unSubscriptions (oldSubscriptions newSubscriptions : List String) : List String :=
  oldSubscriptions.eraseDups.filter (· ∉ newSubscriptions)

/-- What a run issues: calculateSubscription its unsubscribes and then
updateSubscription its subscribes, none of them awaited. -/
def requests (oldSubscriptions newSubscriptions : List String) : List (Request String) :=
  (unSubscriptions oldSubscriptions newSubscriptions).map unsubscribeFromTopic ++
    newSubscriptions.map subscribeToTopic

def calculateSubscription (device : Device) (currentUser : Option String) (snapshot : Except Thrown (List Fields)) :
    Except Thrown Unit × Device :=
  match currentUser with
  | none => (.error .nullCheck, device)
  | some _ =>
    match newSubscriptions snapshot with
    | .error error => (.error error, device)
    | .ok subscriptions =>
      (.ok (), (device.perform (requests device.subscriptionMembersList subscriptions)).put subscriptions)

theorem mem_unSubscriptions {old new : List String} {topic : String} :
    topic ∈ unSubscriptions old new ↔ topic ∈ old ∧ topic ∉ new := by
  simp [unSubscriptions]

theorem mem_requests_subscribe {old new : List String} {topic : String} :
    subscribeToTopic topic ∈ requests old new ↔ topic ∈ new := by
  simp [requests, subscribeToTopic, unsubscribeFromTopic]

theorem mem_perform_served {device : Device} {old new : List String} {served : List (Request String)}
    (sublist : served.Sublist (requests old new)) (topic : String) :
    topic ∈ (device.perform served).topics ↔
      subscribeToTopic topic ∈ served ∨ topic ∈ device.topics ∧ unsubscribeFromTopic topic ∉ served :=
  Request.mem_performAll_served sublist topic

theorem mem_perform_requests (device : Device) (old new : List String) (topic : String) :
    topic ∈ (device.perform (requests old new)).topics ↔
      topic ∈ new ∨ topic ∈ device.topics ∧ topic ∉ old := by
  have replaced : (device.perform (requests old new)).topics =
      device.topics \ (unSubscriptions old new).toFinset ∪ new.toFinset :=
    Request.performAll_replace ..
  rw [replaced, Finset.mem_union, Finset.mem_sdiff, List.mem_toFinset, List.mem_toFinset, mem_unSubscriptions]
  tauto

end Clubzey.Backend
