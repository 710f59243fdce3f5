import Clubzey.Foundation.Handlers
import Clubzey.Systems.Store
import Clubzey.Views.JoinWithCodePage
import Clubzey.Views.PaymentDetailsPage
import Clubzey.Views.QrCodeScanner

/-! All clients at once. Every press starts a handler that makes its remote calls one after
the other, and between two of them any other handler's call may be served. Every call may
fail, and who is signed in on a device may change between any two. -/

namespace Clubzey.Systems.Clients
open Dart Models Backend Views Foundation Store

/-- What a handler awaits: the query for a code or one of the calls that write. -/
inductive Request where
  | check (code : String)
  | call (call : Call)

/-- How a request ends, and who is signed in on the handler's device when it does. -/
structure Moment where
  outcome : Outcome
  currentUser : Option String

/-- What the handler goes on with. The query alone has a document to return. -/
structure Answer where
  result : Except Thrown (Option Invitation)
  currentUser : Option String

/-- What a call returns. The one that sends a code has caught whatever it throws. -/
def returned (state : Store.State) (outcome : Outcome) : Call → Except Thrown Unit
  | .setClub club =>
    let (data, club) := club.getData
    match club.getId with
    | .error thrown => .error thrown
    | .ok id => (state.server.setClub id data outcome).1
  | .addMember currentUser clubId shares => (addMember state.server currentUser clubId shares outcome).1
  | .addMemberFromQR currentUser encryptedId => (addMemberFromQR state.server currentUser encryptedId outcome).1
  | .sendInvitationCode _ _ _ => .ok ()
  | .deleteInvitation id => (state.server.deleteInvitation id outcome).1
  | .createTransaction transaction =>
    match Models.createTransaction state.transactions transaction, outcome with
    | .error thrown, _ => .error thrown
    | .ok _, .success => .ok ()
    | .ok _, .failure => .error .requestFailed

def perform (state : Store.State) (request : Request) (moment : Moment) : Answer × Store.State :=
  match request with
  | .check code => (⟨checkInvitationCode state.server code moment.outcome, moment.currentUser⟩, state)
  | .call call =>
    (⟨(returned state moment.outcome call).map fun _ => none, moment.currentUser⟩,
      Store.step state (call, moment.outcome))

/-- What starts a handler. The shares of an invitation are an `int` of the client. -/
inductive Press where
  | createClub (club : Club) (shares : Int)
  | onCompleted (code : String)
  | onScan (encryption : Encryption) (offset : UtcOffset) (now again : DateTime) (currentUser : Option String)
      (code : Option String)
  | createInvitationCode (club : Club) (shares : { shares : Int // isInt64 shares }) (code : InvitationCode)
  | onDone (payment : Payment)

def handler : Press → Handler Request Answer
  | .createClub club shares =>
    match club.getData.2.getId with
    | .error _ => .stop
    | .ok id => .ask (.call (.setClub club)) fun stored =>
      match stored.result with
      | .error _ => .stop
      | .ok _ => .ask (.call (.addMember stored.currentUser id shares)) fun _ => .stop
  | .onCompleted code => .ask (.check code) fun checked =>
    match checked.result with
    | .ok (some data) => .ask (.call (.addMember checked.currentUser data.clubId data.shares)) fun added =>
      match added.result with
      | .error _ => .stop
      | .ok _ => .ask (.call (.deleteInvitation data.id)) fun _ => .stop
    | _ => .stop
  | .onScan encryption offset now again currentUser code =>
    match (Scan.scan encryption offset now again code).1 with
    | .adding encryptedId => .ask (.call (.addMemberFromQR currentUser encryptedId)) fun _ => .stop
    | _ => .stop
  | .createInvitationCode club shares code => .ask (.call (.sendInvitationCode club shares code)) fun _ => .stop
  | .onDone payment => .ask (.call (.createTransaction payment.clubTransaction)) fun _ => .stop

/-- What the handlers ask for, and after which answers. -/
inductive Asks : Press → List Answer → Request → Prop where
  | setClub {club : Club} (shares : Int) {id : String} (named : club._id = some id) :
      Asks (.createClub club shares) [] (.call (.setClub club))
  | creator {club : Club} (shares : Int) {id : String} {stored : Answer} {result : Option Invitation}
      (named : club._id = some id) (returned : stored.result = .ok result) :
      Asks (.createClub club shares) [stored] (.call (.addMember stored.currentUser id shares))
  | check (code : String) : Asks (.onCompleted code) [] (.check code)
  | joiner (code : String) {checked : Answer} {data : Invitation} (found : checked.result = .ok (some data)) :
      Asks (.onCompleted code) [checked] (.call (.addMember checked.currentUser data.clubId data.shares))
  | delete (code : String) {checked added : Answer} {data : Invitation} {result : Option Invitation}
      (found : checked.result = .ok (some data)) (returned : added.result = .ok result) :
      Asks (.onCompleted code) [checked, added] (.call (.deleteInvitation data.id))
  | scanner {encryption : Encryption} {offset : UtcOffset} {now again : DateTime} (currentUser : Option String)
      {code : Option String} {encryptedId : EncryptedId}
      (accepted : (Scan.scan encryption offset now again code).1 = .adding encryptedId) :
      Asks (.onScan encryption offset now again currentUser code) [] (.call (.addMemberFromQR currentUser encryptedId))
  | sendInvitationCode (club : Club) (shares : { shares : Int // isInt64 shares }) (code : InvitationCode) :
      Asks (.createInvitationCode club shares code) [] (.call (.sendInvitationCode club shares code))
  | createTransaction (payment : Payment) :
      Asks (.onDone payment) [] (.call (.createTransaction payment.clubTransaction))

private theorem asks_last {request : Request} {answers : List Answer} {asked : Request}
    (next : ((Handler.ask request fun _ => .stop).follow answers).next = some asked) :
    answers = [] ∧ asked = request := by
  cases answers with
  | nil =>
    cases next
    exact ⟨rfl, rfl⟩
  | cons answer answers => simp [Handler.next] at next

theorem asks {press : Press} {answers : List Answer} {request : Request}
    (next : ((handler press).follow answers).next = some request) : Asks press answers request := by
  cases press with
  | createClub club shares =>
    have found := club.getId_getData
    simp only [handler] at next
    cases named : club._id with
    | none =>
      rw [named, Option.elim_none] at found
      simp [found, Handler.next] at next
    | some id =>
      rw [named, Option.elim_some] at found
      simp only [found] at next
      cases answers with
      | nil =>
        cases next
        exact .setClub shares named
      | cons stored answers =>
        rw [Handler.follow_ask] at next
        cases returned : stored.result with
        | error thrown => simp [returned, Handler.next] at next
        | ok result =>
          simp only [returned] at next
          obtain ⟨rfl, rfl⟩ := asks_last next
          exact .creator shares named returned
  | onCompleted code =>
    simp only [handler] at next
    cases answers with
    | nil =>
      cases next
      exact .check code
    | cons checked answers =>
      rw [Handler.follow_ask] at next
      cases found : checked.result with
      | error thrown => simp [found, Handler.next] at next
      | ok result =>
        cases result with
        | none => simp [found, Handler.next] at next
        | some data =>
          simp only [found] at next
          cases answers with
          | nil =>
            cases next
            exact .joiner code found
          | cons added answers =>
            rw [Handler.follow_ask] at next
            cases returned : added.result with
            | error thrown => simp [returned, Handler.next] at next
            | ok result =>
              simp only [returned] at next
              obtain ⟨rfl, rfl⟩ := asks_last next
              exact .delete code found returned
  | onScan encryption offset now again currentUser code =>
    simp only [handler] at next
    cases accepted : (Scan.scan encryption offset now again code).1 with
    | adding encryptedId =>
      simp only [accepted] at next
      obtain ⟨rfl, rfl⟩ := asks_last next
      exact .scanner currentUser accepted
    | _ => simp [accepted, Handler.next] at next
  | createInvitationCode club shares code =>
    obtain ⟨rfl, rfl⟩ := asks_last next
    exact .sendInvitationCode club shares code
  | onDone payment =>
    obtain ⟨rfl, rfl⟩ := asks_last next
    exact .createTransaction payment

theorem joiner_next (code : String) {checked : Answer} {data : Invitation} (found : checked.result = .ok (some data)) :
    ((handler (.onCompleted code)).follow [checked]).next =
      some (.call (.addMember checked.currentUser data.clubId data.shares)) := by
  simp [handler, found, Handler.next]

theorem delete_next (code : String) {checked added : Answer} {data : Invitation} {result : Option Invitation}
    (found : checked.result = .ok (some data)) (returned : added.result = .ok result) :
    ((handler (.onCompleted code)).follow [checked, added]).next = some (.call (.deleteInvitation data.id)) := by
  simp [handler, found, returned, Handler.next]

abbrev Exchange := Handlers.Exchange Request Answer Moment

abbrev State := Handlers.State Store.State Press Request Answer Moment

abbrev Event := Handlers.Event Press Moment

abbrev run (events : List Event) : Option State := Runs.run (Handlers.step perform handler) { shared := {} } events

/-- The calls among the exchanges, as the store sees them. -/
def call (exchange : Exchange) : Option (Call × Outcome) :=
  match exchange.request with
  | .check _ => none
  | .call call => some (call, exchange.moment.outcome)

theorem replay_calls (state : Store.State) (history : List Exchange) :
    Handlers.replay perform state history = Store.run state (history.filterMap call) := by
  induction history generalizing state with
  | nil => rfl
  | cons exchange history ih =>
    obtain ⟨index, request, moment, answer⟩ := exchange
    have rest := ih (perform state request moment).2
    cases request with
    | check code => exact rest
    | call call => exact rest

/-! A handler that nothing comes between does what the model of its page does. -/

def Undisturbed (state : State) (press : Press) (moments : List Moment) (after : Store.State) : Prop :=
  ∃ served final, served <+: moments ∧
    Runs.run (Handlers.step perform handler) state (.start press :: served.map (.serve state.running.length)) =
      some final ∧ final.shared = after

theorem undisturbed {state : State} {press : Press} {moments : List Moment} {after : Store.State}
    (alone : Handlers.alone perform state.shared (handler press) moments = after) :
    Undisturbed state press moments after := by
  obtain ⟨served, final, prefixed, ran, same⟩ := Handlers.run_alone state press moments
  exact ⟨served, final, prefixed, ran, same.trans alone⟩

theorem createClub_undisturbed (state : State) (club : Club) (shares : Int) (currentUser last : Option String)
    (set post : Outcome) :
    Undisturbed state (.createClub club shares) [⟨set, currentUser⟩, ⟨post, last⟩]
      { state.shared with server := (createClub state.shared.server currentUser club shares set post).2 } := by
  apply undisturbed
  have found := club.getId_getData
  cases named : club._id with
  | none =>
    rw [named, Option.elim_none] at found
    rw [createClub_unnamed named]
    simp only [handler, found, Handlers.alone]
  | some id =>
    rw [named, Option.elim_some] at found
    rw [createClub_named named]
    cases set <;> simp [handler, found, Handlers.alone, perform, returned, Store.step, Server.setClub, Except.map]

theorem onCompleted_undisturbed (state : State) (code : String) (currentUser second last : Option String)
    (query post delete : Outcome) :
    Undisturbed state (.onCompleted code) [⟨query, currentUser⟩, ⟨post, second⟩, ⟨delete, last⟩]
      { state.shared with server := (onCompleted state.shared.server currentUser code query post delete).2 } := by
  apply undisturbed
  unfold onCompleted
  rw [Joiner.check]
  cases checked : checkInvitationCode state.shared.server code query with
  | error thrown => simp [handler, Handlers.alone, perform, checked]
  | ok found =>
    cases found with
    | none => simp [handler, Handlers.alone, perform, checked]
    | some data =>
      simp only [handler, Handlers.alone, perform, checked, returned, Store.step, Joiner.add]
      generalize addMember state.shared.server currentUser data.clubId data.shares post = added
      obtain ⟨answer, after⟩ := added
      cases answer <;> cases delete <;> rfl

theorem onScan_undisturbed (state : State) (encryption : Encryption) (offset : UtcOffset) (now again : DateTime)
    (currentUser last code : Option String) (post : Outcome) :
    Undisturbed state (.onScan encryption offset now again currentUser code) [⟨post, last⟩]
      { state.shared with server := (onScan encryption offset now again state.shared.server currentUser code post).2 } := by
  apply undisturbed
  unfold onScan
  cases scanned : (Scan.scan encryption offset now again code).1 with
  | adding encryptedId =>
    simp only [handler, scanned, Handlers.alone, perform, Store.step, Scan.add]
    generalize addMemberFromQR state.shared.server currentUser encryptedId post = added
    obtain ⟨answer, after⟩ := added
    cases answer <;> rfl
  | _ => simp only [handler, scanned, Handlers.alone]

theorem onDone_undisturbed (state : State) (payment : Payment) (last : Option String) :
    ∃ transactions, onDone state.shared.transactions payment = .ok transactions ∧
      Undisturbed state (.onDone payment) [⟨.success, last⟩] { state.shared with transactions } := by
  refine ⟨_, onDone_set _ _, undisturbed ?_⟩
  have created : Models.createTransaction state.shared.transactions payment.clubTransaction = _ := onDone_set _ _
  simp only [handler, Handlers.alone, perform, Store.step, created]

end Clubzey.Systems.Clients
