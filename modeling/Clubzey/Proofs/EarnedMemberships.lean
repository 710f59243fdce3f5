import Clubzey.Proofs.CodeResolution
import Clubzey.Systems.Clients

/-! Where every membership comes from, however the handlers of all clients run among each
other and whichever of their calls fail. -/

namespace Clubzey.Proofs.EarnedMemberships
open Dart Models Backend Views Foundation Systems Systems.Clients CodeResolution

/-- The handler's request was served and ended so, after the first of these exchanges. -/
def Asked (earlier first : List Exchange) (index : ℕ) (request : Request) (moment : Moment) : Prop :=
  ∃ answer rest, earlier = first ++ ⟨index, request, moment, answer⟩ :: rest

theorem Asked.served {earlier first : List Exchange} {index : ℕ} {request : Request} {moment : Moment}
    (asked : Asked earlier first index request moment) :
    ∃ answer, (⟨index, request, moment, answer⟩ : Exchange) ∈ earlier := by
  obtain ⟨answer, rest, rfl⟩ := asked
  exact ⟨answer, List.mem_append_right _ List.mem_cons_self⟩

/-- What entitles a press to a membership: its own club stored, a code that led to the club
when it was looked up, or a scanned text that was fresh. -/
inductive Earned (earlier : List Exchange) (index : ℕ) : Press → Membership → Prop where
  | created {club : Club} {shares : Int} {id email : String} {first : List Exchange} (named : club._id = some id)
      (stored : Asked earlier first index (.call (.setClub club)) ⟨.success, some email⟩) :
      Earned earlier index (.createClub club shares) ⟨id, shares, email⟩
  | invited {code clubId email : String} {shares : Int} {first : List Exchange}
      (looked : Asked earlier first index (.check code) ⟨.success, some email⟩)
      (leads : Leads (first.filterMap call) code clubId shares) :
      Earned earlier index (.onCompleted code) ⟨clubId, shares, email⟩
  | scanned {encryption : Encryption} {offset : UtcOffset} {now again created : DateTime}
      {code text clubId email : String} {shares : Int} (decrypted : encryption.decrypted code = .ok text)
      (dated : EncryptedId.getDateTime offset ⟨split text '*'⟩ = .ok created)
      (young : DateTime.secondsSince now created < 31) (past : 0 < DateTime.secondsSince again created)
      (named : EncryptedId.getId ⟨split text '*'⟩ = .ok clubId)
      (counted : EncryptedId.getShares ⟨split text '*'⟩ = .ok shares) :
      Earned earlier index (.onScan encryption offset now again (some email) (some code)) ⟨clubId, shares, email⟩

/-- The membership that an exchange registers. -/
def registered (exchange : Exchange) : Option Membership := (call exchange).bind Store.membership

def Adds : Request → Prop
  | .call (.addMember _ _ _) => True
  | .call (.addMemberFromQR _ _) => True
  | _ => False

theorem adds_of_registered {exchange : Exchange} {member : Membership} (adds : registered exchange = some member) :
    Adds exchange.request := by
  obtain ⟨index, request, moment, answer⟩ := exchange
  cases request with
  | check code => cases adds
  | call call => cases call <;> trivial

/-- How many answers a press has had when it asks for a membership. -/
def turn : Press → ℕ
  | .createClub _ _ => 1
  | .onCompleted _ => 1
  | _ => 0

theorem adds_at_turn (press : Press) (answers : List Answer) (request : Request)
    (next : ((handler press).follow answers).next = some request) (adds : Adds request) :
    answers.length = turn press := by
  cases asks next <;> first | rfl | exact adds.elim

/-- The shares of an invitation that a press asks for are those of an `int`. -/
theorem word_of_asks {press : Press} {answers : List Answer} {call : Store.Call}
    (asked : Asks press answers (.call call)) : Word call := by
  cases asked with
  | sendInvitationCode club shares code => exact shares.2
  | _ => trivial

theorem found_id {calls : List (Store.Call × Outcome)} {code : String} {data : Invitation}
    (present : (Store.run {} calls).server.findInvitation code = some data) : data.id = data.clubId := by
  obtain ⟨id, stored, -⟩ := Server.findInvitation_some present
  have kept := Store.sound_run Store.sound_initial calls
  exact Option.some.inj ((kept.invitations id data stored).trans (kept.clubIds id data stored).symm)

section
variable {state : State} (sound : Handlers.Sound perform handler {} state) {earlier later : List Exchange}
  {exchange : Exchange} (split : state.history = earlier ++ exchange :: later)
include sound split

theorem words : ∀ written ∈ earlier.filterMap call, Word written.1 := by
  intro written member
  obtain ⟨before, inside, calls⟩ := List.mem_filterMap.mp member
  obtain ⟨first, rest, rfl⟩ := List.append_of_mem inside
  rw [List.append_assoc, List.cons_append] at split
  obtain ⟨⟨press, -, asked⟩, -⟩ := sound.continues first before _ split
  obtain ⟨index, request, moment, answer⟩ := before
  cases request with
  | check code => cases calls
  | call call =>
    cases calls
    exact word_of_asks (asks asked)

variable {press : Press} (begun : state.press exchange.handler = some press)
include begun

/-- A handler's first answer, if it has had one, with what it was asked. -/
theorem first_asked {answer : Answer} {answers : List Answer}
    (had : Handlers.answersTo exchange.handler earlier = answer :: answers) :
    ∃ first request moment, Asked earlier first exchange.handler request moment ∧ Asks press [] request ∧
      answer = (perform (Store.run {} (first.filterMap call)) request moment).1 := by
  have had : Handlers.answersTo exchange.handler earlier = [] ++ answer :: answers := had
  obtain ⟨first, asked, rest, rfl, own, -, next, answered⟩ := sound.had split begun had
  obtain ⟨index, request, moment, given⟩ := asked
  subst own
  rw [replay_calls] at answered
  exact ⟨first, request, moment, ⟨given, rest, rfl⟩, asks next, answered⟩

/-- A creator's first answer says that the club has been stored. -/
theorem earned_creating {club : Club} {shares : Int} {id email : String} (named : club._id = some id)
    (isCreator : press = .createClub club shares) {stored : Answer} {result : Option Invitation}
    (returned : stored.result = .ok result) (signedIn : stored.currentUser = some email)
    (had : Handlers.answersTo exchange.handler earlier = [stored]) :
    Earned earlier exchange.handler press ⟨id, shares, email⟩ := by
  subst isCreator
  obtain ⟨first, request, moment, asked, start, rfl⟩ := first_asked sound split begun had
  cases start with
  | setClub _ again =>
    obtain ⟨outcome, currentUser⟩ := moment
    obtain rfl : currentUser = some email := signedIn
    cases outcome with
    | success => exact .created named asked
    | failure =>
      have found := club.getId_getData
      rw [named, Option.elim_some] at found
      simp [perform, Clients.returned, found, Server.setClub, Except.map] at returned

/-- A joiner's first answer is the document that the code led to. -/
theorem looked_up {code email : String} (isJoiner : press = .onCompleted code) {checked : Answer} {data : Invitation}
    (found : checked.result = .ok (some data)) (signedIn : checked.currentUser = some email) {answers : List Answer}
    (had : Handlers.answersTo exchange.handler earlier = checked :: answers) :
    ∃ first, Asked earlier first exchange.handler (.check code) ⟨.success, some email⟩ ∧
      Leads (first.filterMap call) code data.clubId data.shares ∧ data.id = data.clubId := by
  subst isJoiner
  obtain ⟨first, request, moment, asked, start, rfl⟩ := first_asked sound split begun had
  cases start with
  | check =>
    obtain ⟨outcome, currentUser⟩ := moment
    obtain rfl : currentUser = some email := signedIn
    cases outcome with
    | failure => cases found
    | success =>
      have present : (Store.run {} (first.filterMap call)).server.findInvitation code = some data := Except.ok.inj found
      have known : ∀ written ∈ first.filterMap call, Word written.1 := by
        intro written member
        obtain ⟨answer, rest, rfl⟩ := asked
        rw [List.append_assoc, List.cons_append] at split
        exact words sound split written member
      exact ⟨first, asked, (leads_iff known).mpr ⟨data, present, rfl, rfl⟩, found_id present⟩

end

/-- A scanner accepts a text whose stamp is fresh. -/
theorem earned_scanning (earlier : List Exchange) (index : ℕ) {encryption : Encryption} {offset : UtcOffset}
    {now again : DateTime} {code : Option String} {encryptedId : EncryptedId} {id email : String} {shares : Int}
    (accepted : (Scan.scan encryption offset now again code).1 = .adding encryptedId)
    (named : encryptedId.getId = .ok id) (counted : encryptedId.getShares = .ok shares) :
    Earned earlier index (.onScan encryption offset now again (some email) code) ⟨id, shares, email⟩ := by
  cases code with
  | none => cases accepted
  | some code =>
    cases decrypted : encryption.decrypted code with
    | error thrown => simp [Scan.scan, decrypted] at accepted
    | ok text =>
      cases dated : EncryptedId.getDateTime offset ⟨split text '*'⟩ with
      | error thrown =>
        rw [Scan.scan_undated decrypted dated] at accepted
        cases accepted
      | ok created =>
        rw [Scan.scan_dated decrypted dated] at accepted
        split at accepted
        next fresh =>
          cases accepted
          exact .scanned decrypted dated fresh.1 fresh.2 named counted
        next => cases accepted

theorem earned {state : State} (sound : Handlers.Sound perform handler {} state) {earlier later : List Exchange}
    {exchange : Exchange} (split : state.history = earlier ++ exchange :: later) {member : Backend.Membership}
    (adds : registered exchange = some member) :
    ∃ press, state.press exchange.handler = some press ∧ Earned earlier exchange.handler press member := by
  obtain ⟨⟨press, begun, next⟩, -⟩ := sound.continues earlier exchange later split
  refine ⟨press, begun, ?_⟩
  obtain ⟨index, request, ⟨outcome, last⟩, answer⟩ := exchange
  generalize had : Handlers.answersTo index earlier = answers at next
  cases asks next with
  | @creator club shares id stored result named returned =>
    obtain ⟨storedResult, currentUser⟩ := stored
    cases currentUser with
    | none => cases adds
    | some email =>
      cases outcome with
      | failure => cases adds
      | success =>
        cases adds
        exact earned_creating sound split begun named rfl returned rfl had
  | @joiner code checked data found =>
    obtain ⟨checkedResult, currentUser⟩ := checked
    cases currentUser with
    | none => cases adds
    | some email =>
      cases outcome with
      | failure => cases adds
      | success =>
        cases adds
        obtain ⟨first, looked, leads, -⟩ := looked_up sound split begun rfl found rfl had
        exact .invited looked leads
  | @scanner encryption offset now again currentUser code encryptedId accepted =>
    cases currentUser with
    | none => cases adds
    | some email =>
      cases outcome with
      | failure => cases adds
      | success =>
        cases named : encryptedId.getId with
        | error thrown => simp [registered, call, Store.membership, named] at adds
        | ok id =>
          cases counted : encryptedId.getShares with
          | error thrown => simp [registered, call, Store.membership, named, counted] at adds
          | ok shares =>
            simp only [registered, call, Store.membership, named, counted, Option.bind_some, Option.some.injEq] at adds
            rw [← adds]
            exact earned_scanning earlier index accepted named counted
  | _ => cases adds

/-- The memberships are those of the calls that succeeded for a signed-in user, no press has
two of them, and each was earned. -/
theorem members_earned {events : List Event} {state : State} (ran : run events = some state) :
    state.shared.server.members = (state.history.filterMap registered).reverse ∧
    (state.history.Pairwise fun earlier later =>
      (registered earlier).isSome → (registered later).isSome → earlier.handler ≠ later.handler) ∧
    ∀ earlier exchange later member, state.history = earlier ++ exchange :: later → registered exchange = some member →
      ∃ press, state.press exchange.handler = some press ∧ Earned earlier exchange.handler press member := by
  have sound := Handlers.sound ran
  refine ⟨?_, ?_, ?_⟩
  · rw [sound.shared, replay_calls, Store.run_members, List.filterMap_filterMap, List.append_nil]
    rfl
  · apply (sound.once adds_at_turn).imp
    intro earlier later differ first second
    obtain ⟨_, before⟩ := Option.isSome_iff_exists.mp first
    obtain ⟨_, after⟩ := Option.isSome_iff_exists.mp second
    exact differ (adds_of_registered before) (adds_of_registered after)
  · intro earlier exchange later member split adds
    exact earned sound split adds

/-- A code is sent and redeemed. -/
def redeeming : List Event :=
  [.start (.createInvitationCode { data := ∅, _id := some "c1" } ⟨2, by simp [isInt64]⟩
      ⟨"0123ABCD", InvitationCode.first_length⟩),
    .start (.onCompleted "0123ABCD"), .serve 0 ⟨.success, some "ann@b.c"⟩, .serve 1 ⟨.success, some "bob@b.c"⟩,
    .serve 1 ⟨.success, some "bob@b.c"⟩, .serve 1 ⟨.success, some "bob@b.c"⟩]

theorem redeeming_earned : ∃ state, run redeeming = some state ∧
    state.shared.server.members = [⟨"c1", 2, "bob@b.c"⟩] ∧
    ∃ earlier press, state.press 1 = some press ∧ Earned earlier 1 press ⟨"c1", 2, "bob@b.c"⟩ := by
  have ran : run redeeming = some _ := rfl
  obtain ⟨members, -, earned⟩ := members_earned ran
  obtain ⟨press, begun, deserved⟩ := earned [_, _] _ [_] _ rfl rfl
  exact ⟨_, ran, members, _, press, begun, deserved⟩

/-- An invitation is deleted only by a signed-in joiner whom its code led to the club and
who has asked to be added with its shares. -/
theorem deletions_redeem {events : List Event} {state : State} (ran : run events = some state) :
    ∀ earlier exchange later id, state.history = earlier ++ exchange :: later →
      exchange.request = .call (.deleteInvitation id) →
      ∃ code email shares first second moment, state.press exchange.handler = some (.onCompleted code) ∧
        Asked second first exchange.handler (.check code) ⟨.success, some email⟩ ∧
        Leads (first.filterMap call) code id shares ∧
        Asked earlier second exchange.handler (.call (.addMember (some email) id shares)) moment := by
  intro earlier exchange later id split deletes
  have sound := Handlers.sound ran
  obtain ⟨⟨press, begun, next⟩, -⟩ := sound.continues earlier exchange later split
  rw [deletes] at next
  generalize had : Handlers.answersTo exchange.handler earlier = answers at next
  cases asks next with
  | @delete code checked added data result found returned =>
    have had : Handlers.answersTo exchange.handler earlier = [checked] ++ added :: [] := had
    obtain ⟨second, asked, rest, rfl, own, shorter, came, answered⟩ := sound.had split begun had
    rw [List.append_assoc, List.cons_append] at split
    obtain ⟨index, request, moment, given⟩ := asked
    subst own
    cases asks came with
    | joiner _ again =>
      cases found.symm.trans again
      cases signedIn : checked.currentUser with
      | none =>
        rw [answered, signedIn] at returned
        cases returned
      | some email =>
        obtain ⟨first, looked, leads, same⟩ := looked_up sound split begun rfl found signedIn shorter
        rw [same]
        exact ⟨code, email, data.shares, first, second, moment, begun, looked, leads, given, rest, rfl⟩

theorem redeeming_deletes : ∃ state, run redeeming = some state ∧ ∃ code email shares first second,
    state.press 1 = some (.onCompleted code) ∧ Asked second first 1 (.check code) ⟨.success, some email⟩ ∧
      Leads (first.filterMap call) code "c1" shares := by
  have ran : run redeeming = some _ := rfl
  obtain ⟨code, email, shares, first, second, moment, begun, looked, leads, -⟩ :=
    deletions_redeem ran [_, _, _] _ [] _ rfl rfl
  exact ⟨_, ran, code, email, shares, first, second, begun, looked, leads⟩

section
variable {state : State} {index : ℕ} {code email : String}

/-- The join handler has ended, with every request answered and the same user signed in. -/
structure Joined (state : State) (index : ℕ) (code email : String) : Prop where
  ended : state.running[index]? = some (.onCompleted code, .stop)
  served : ∀ exchange ∈ state.history, exchange.handler = index → exchange.moment = ⟨.success, some email⟩

section
variable (joined : Joined state index code email) (sound : Handlers.Sound perform handler {} state)
include joined sound

/-- Each request it has come to has been answered, to the same user. -/
theorem Joined.goes_on {before after : List Answer} (had : Handlers.answersTo index state.history = before ++ after)
    {request : Request} (next : ((handler (.onCompleted code)).follow before).next = some request) :
    ∃ first answers, Asked state.history first index request ⟨.success, some email⟩ ∧
      (∀ written ∈ first.filterMap call, Word written.1) ∧
      after = (perform (Store.run {} (first.filterMap call)) request ⟨.success, some email⟩).1 :: answers := by
  obtain ⟨first, moment, answer, rest, answers, split, same, answered⟩ := sound.goes_on joined.ended had next
  have inside : (⟨index, request, moment, answer⟩ : Exchange) ∈ state.history := by
    rw [split]
    exact List.mem_append_right _ List.mem_cons_self
  cases joined.served _ inside rfl
  rw [replay_calls] at answered
  exact ⟨first, answers, ⟨answer, rest, split⟩, words sound split, answered ▸ same⟩

/-- After its first answer it asks for what the document found says. -/
theorem Joined.asked {checked : Answer} {answers : List Answer}
    (had : Handlers.answersTo index state.history = checked :: answers) {exchange : Exchange}
    (member : exchange ∈ state.history) (own : exchange.handler = index) :
    exchange.request = .check code ∨ ∃ data, checked.result = .ok (some data) ∧
      (exchange.request = .call (.addMember checked.currentUser data.clubId data.shares) ∨
        exchange.request = .call (.deleteInvitation data.id)) := by
  obtain ⟨earlier, rest, split⟩ := List.append_of_mem member
  obtain ⟨⟨press, begun, next⟩, -⟩ := sound.continues earlier exchange rest split
  have position := Handlers.answersTo_at earlier exchange rest
  rw [← split, own, had] at position
  rw [own, Handlers.State.press, joined.ended] at begun
  cases begun
  rw [own] at next
  generalize Handlers.answersTo index earlier = before at next position
  generalize exchange.request = request at next ⊢
  cases Clients.asks next with
  | check => exact Or.inl rfl
  | joiner _ found =>
    obtain ⟨rfl, -⟩ := List.cons.inj position
    exact Or.inr ⟨_, found, Or.inl rfl⟩
  | delete _ found returned =>
    obtain ⟨rfl, -⟩ := List.cons.inj position
    exact Or.inr ⟨_, found, Or.inr rfl⟩

end

/-- A joiner whose requests are all answered joins exactly the club that its code led to
when it was looked up, whatever has been called since, and deletes exactly its invitation. -/
theorem joiners_decided {events : List Event} (ran : run events = some state) (joined : Joined state index code email) :
    ∃ first, Asked state.history first index (.check code) ⟨.success, some email⟩ ∧
      (∀ member, (∃ exchange ∈ state.history, exchange.handler = index ∧ registered exchange = some member) ↔
        member.memberEmail = email ∧ Leads (first.filterMap call) code member.clubId member.shares) ∧
      ∀ id, (∃ exchange ∈ state.history, exchange.handler = index ∧ exchange.request = .call (.deleteInvitation id)) ↔
        ∃ shares, Leads (first.filterMap call) code id shares := by
  have sound := Handlers.sound ran
  have start : Handlers.answersTo index state.history = [] ++ Handlers.answersTo index state.history := rfl
  obtain ⟨first, answers, looked, known, had⟩ := joined.goes_on sound start rfl
  let found := (Store.run {} (first.filterMap call)).server.findInvitation code
  let checked : Answer := ⟨.ok found, some email⟩
  have had : Handlers.answersTo index state.history = [checked] ++ answers := had
  have adding : ∀ data, found = some data → ∃ second later, Asked state.history second index
      (.call (.addMember (some email) data.clubId data.shares)) ⟨.success, some email⟩ ∧
      answers = ⟨.ok none, some email⟩ :: later := by
    intro data present
    have result : checked.result = .ok (some data) := congrArg Except.ok present
    obtain ⟨second, later, asked, -, same⟩ := joined.goes_on sound had (joiner_next code result)
    exact ⟨second, later, asked, same⟩
  refine ⟨first, looked, ?_, ?_⟩
  · intro member
    constructor
    · intro joins
      obtain ⟨exchange, inside, own, adds⟩ := joins
      have moment := joined.served exchange inside own
      have asked := joined.asked sound had inside own
      obtain ⟨index, request, _, answer⟩ := exchange
      obtain rfl := moment
      rcases asked with rfl | ⟨data, present, rfl | rfl⟩
      · cases adds
      · cases adds
        exact ⟨rfl, (leads_iff known).mpr ⟨data, Except.ok.inj present, rfl, rfl⟩⟩
      · cases adds
    · intro entitled
      obtain ⟨sameEmail, leads⟩ := entitled
      obtain ⟨data, present, sameClub, sameShares⟩ := (leads_iff known).mp leads
      obtain ⟨second, later, asked, -⟩ := adding data present
      obtain ⟨answer, inside⟩ := asked.served
      refine ⟨_, inside, rfl, ?_⟩
      rw [sameClub, sameShares, ← sameEmail]
      rfl
  · intro id
    constructor
    · intro deletes
      obtain ⟨exchange, inside, own, deletion⟩ := deletes
      rcases joined.asked sound had inside own with check | ⟨data, present, add | delete⟩
      · cases check.symm.trans deletion
      · cases add.symm.trans deletion
      · cases delete.symm.trans deletion
        have present : found = some data := Except.ok.inj present
        exact ⟨data.shares, (leads_iff known).mpr ⟨data, present, (found_id present).symm, rfl⟩⟩
    · intro led
      obtain ⟨shares, leads⟩ := led
      obtain ⟨data, present, sameClub, -⟩ := (leads_iff known).mp leads
      obtain ⟨second, later, -, rfl⟩ := adding data present
      have result : checked.result = .ok (some data) := congrArg Except.ok present
      have both : Handlers.answersTo index state.history = [checked, ⟨.ok none, some email⟩] ++ later := had
      obtain ⟨third, last, asked, -⟩ := joined.goes_on sound both (delete_next code result rfl)
      obtain ⟨answer, inside⟩ := asked.served
      refine ⟨_, inside, rfl, ?_⟩
      rw [found_id present, sameClub]

end

theorem redeeming_joined {state : State} (ran : run redeeming = some state) :
    Joined state 1 "0123ABCD" "bob@b.c" := by
  have reached : run redeeming = some _ := rfl
  cases reached.symm.trans ran
  refine ⟨rfl, ?_⟩
  intro exchange member own
  have member : exchange ∈ [_, _, _, _] := member
  simp only [List.mem_cons, List.not_mem_nil, or_false] at member
  rcases member with rfl | rfl | rfl | rfl
  · cases own
  · rfl
  · rfl
  · rfl

theorem redeeming_decided : ∃ state, run redeeming = some state ∧
    ∃ first, Asked state.history first 1 (.check "0123ABCD") ⟨.success, some "bob@b.c"⟩ ∧
      Leads (first.filterMap call) "0123ABCD" "c1" 2 := by
  have ran : run redeeming = some _ := rfl
  obtain ⟨first, looked, members, -⟩ := joiners_decided ran (redeeming_joined ran)
  have joins := (members ⟨"c1", 2, "bob@b.c"⟩).mp
    ⟨_, List.mem_cons_of_mem _ (List.mem_cons_of_mem _ List.mem_cons_self), rfl, rfl⟩
  exact ⟨_, ran, first, looked, joins.2⟩

end Clubzey.Proofs.EarnedMemberships
