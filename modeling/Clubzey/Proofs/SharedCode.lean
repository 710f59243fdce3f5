import Clubzey.Systems.Invitation

/-! Which text the page hands to the share sheet. The button is there before the
first reply, after a failure and while an old code is still shown. -/

namespace Clubzey.Proofs.SharedCode
open Dart Models Backend Foundation Systems.Invitation

def latestHandled : List Record → Option InvitationCode
  | [] => none
  | .handled code :: _ => some code
  | _ :: log => latestHandled log

def latestTaken : List Record → Option (InvitationCode × Outcome)
  | [] => none
  | .taken code reply :: _ => some (code, reply)
  | _ :: log => latestTaken log

/-- The shared text is a code the server has accepted and still holds. -/
def Live (clubId : String) (state : State) : Prop :=
  ∃ code : InvitationCode, state.shareText = code.text ∧ .handled code ∈ state.log ∧
    (state.server.invitationRoom.doc clubId).map Invitation.invitationCode = some code.text

/-- The reply last taken by the page was a success, and the server has since handled
no request with another code. -/
def Current (log : List Record) : Prop :=
  ∃ code, latestTaken log = some (code, .success) ∧ latestHandled log = some code

structure Valid (clubId : String) (state : State) : Prop where
  shown : state.snapshot.data = (latestTaken state.log).map fun taken => createInvitationCode taken.1 taken.2
  stored : ∀ code, latestHandled state.log = some code →
    (state.server.invitationRoom.doc clubId).map Invitation.invitationCode = some code.text

theorem latestHandled_mem {log : List Record} {code : InvitationCode} (latest : latestHandled log = some code) :
    .handled code ∈ log := by
  induction log with
  | nil => cases latest
  | cons record log ih =>
    cases record with
    | handled other =>
      cases latest
      exact List.mem_cons_self
    | taken other reply => exact List.mem_cons_of_mem _ (ih latest)

theorem latestHandled_some {log : List Record} {code : InvitationCode} (member : .handled code ∈ log) :
    ∃ latest, latestHandled log = some latest := by
  induction log with
  | nil => cases member
  | cons record log ih =>
    cases record with
    | handled other => exact ⟨other, rfl⟩
    | taken other reply =>
      rcases List.mem_cons.mp member with impossible | rest
      · cases impossible
      · exact ih rest

theorem initial (clubId : String) (server : Server) : Valid clubId { server } := by
  refine ⟨rfl, ?_⟩
  intro code latest
  cases latest

theorem preserved (clubId : String) (shares : Int) : Runs.Keeps (step clubId shares) Runs.Free (Valid clubId) := by
  intro before event after valid _ stepped
  cases event with
  | build code =>
    cases stepped
    exact ⟨valid.shown, valid.stored⟩
  | handle index =>
    simp only [step] at stepped
    split at stepped
    · cases stepped
    · split at stepped <;> cases stepped
      refine ⟨valid.shown, ?_⟩
      intro code latest
      cases latest
      simp [Server.sendInvitationCode, createInvitationRequest, Server.invitation]
  | reply index outcome =>
    simp only [step] at stepped
    split at stepped
    · cases stepped
    next request found =>
      split at stepped <;> cases stepped
      by_cases newest : before.snapshot.future = some index
      · refine ⟨?_, ?_⟩
        · simp only [FutureBuilder.complete, newest, ite_true]
          rfl
        · intro code latest
          simp only [newest, ite_true] at latest
          exact valid.stored code latest
      · refine ⟨?_, ?_⟩
        · simp only [FutureBuilder.complete, newest, ite_false]
          exact valid.shown
        · intro code latest
          simp only [newest, ite_false] at latest
          exact valid.stored code latest

private theorem shared_code {taken : Option (InvitationCode × Outcome)} {code : InvitationCode}
    (shared : (taken.map fun taken => createInvitationCode taken.1 taken.2).getD "null" = code.text) :
    taken = some (code, .success) := by
  -- A code has eight characters, unlike the texts before a reply and after a failure.
  have length := code.length
  rw [← shared] at length
  cases taken with
  | none => exact absurd length (by decide)
  | some reply =>
    obtain ⟨other, outcome⟩ := reply
    cases outcome with
    | failure => exact absurd length (by simp [createInvitationCode])
    | success =>
      have same : other = code := InvitationCode.ext_text shared
      rw [same]

/-- In every reachable state the shared text is a live code exactly when the reply
last taken carries the code the server handled last. -/
theorem shared_live_iff {clubId : String} {shares : Int} {server : Server} {events : List Event} {state : State}
    (ran : Runs.run (step clubId shares) { server } events = some state) :
    Live clubId state ↔ Current state.log := by
  have valid := (preserved clubId shares).always (initial clubId server) ran
  constructor
  · intro live
    obtain ⟨code, shared, handled, current⟩ := live
    rw [State.shareText, valid.shown] at shared
    obtain ⟨latest, latestIs⟩ := latestHandled_some handled
    have same : latest = code := by
      apply InvitationCode.ext_text
      exact Option.some.inj ((valid.stored latest latestIs).symm.trans current)
    subst latest
    exact ⟨code, shared_code shared, latestIs⟩
  · intro current
    obtain ⟨code, taken, latest⟩ := current
    refine ⟨code, ?_, latestHandled_mem latest, valid.stored code latest⟩
    rw [State.shareText, valid.shown, taken]
    rfl

def club : String := "c1"

def firstCode : InvitationCode := ⟨"0123ABCD", InvitationCode.first_length⟩

def secondCode : InvitationCode := ⟨"4567ABCD", InvitationCode.second_length⟩

def reloaded : List Event :=
  [.build firstCode, .handle 0, .reply 0 .success, .build secondCode, .handle 1]

def answered : State := (Runs.run (step club 2) { server := {} } (reloaded ++ [.reply 1 .success])).get (by decide)

theorem answered_live_iff : Live club answered ↔ Current answered.log := by
  have ran : Runs.run (step club 2) { server := {} } (reloaded ++ [.reply 1 .success]) = some answered := by
    rw [answered, Option.some_get]
  exact shared_live_iff ran

/-- Until the second reply arrives the page offers the code that the second request
has replaced. -/
theorem reloaded_shares_replaced : ¬ ∀ clubId shares server events state,
    Runs.run (step clubId shares) { server } events = some state → Live clubId state := by
  intro always
  have replaced : (Runs.run (step club 2) { server := {} } reloaded).map (fun state => (state.shareText,
      (state.server.invitationRoom.doc club).map Invitation.invitationCode)) =
      some (firstCode.text, some secondCode.text) := by
    decide
  obtain ⟨state, ran, texts⟩ := Option.map_eq_some_iff.mp replaced
  obtain ⟨shared, stored⟩ := Prod.mk.inj texts
  obtain ⟨code, same, _, current⟩ := always club 2 {} reloaded state ran
  rw [stored] at current
  rw [shared] at same
  exact absurd (same.trans (Option.some.inj current).symm) (by decide)

end Clubzey.Proofs.SharedCode
