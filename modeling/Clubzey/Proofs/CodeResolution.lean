import Clubzey.Systems.Store
import Clubzey.Views.JoinWithCodePage

/-! Which club an invitation code leads to, told from the calls alone. -/

namespace Clubzey.Proofs.CodeResolution
open Dart Models Backend Views Foundation Systems.Store

/-- The code and the shares of a club's last accepted request, unless its invitation has
been deleted since. The calls are given latest first. -/
def current (clubId : String) : List (Call × Outcome) → Option (String × Int)
  | [] => none
  | (.sendInvitationCode club shares code, .success) :: earlier =>
    if club.getId.toOption = some clubId then some (code.text, shares) else current clubId earlier
  | (.deleteInvitation id, .success) :: earlier => if id = clubId then none else current clubId earlier
  | _ :: earlier => current clubId earlier

/-- The shares are an `int` of the client. -/
def Word : Call → Prop
  | .sendInvitationCode _ shares _ => isInt64 shares
  | _ => True

/-- Of the clubs whose current code this is, the one with the least id. -/
def Leads (calls : List (Call × Outcome)) (code clubId : String) (shares : Int) : Prop :=
  current clubId calls.reverse = some (code, shares) ∧
    ∀ other number, current other calls.reverse = some (code, number) → clubId ≤ other

def shown (invitation : Invitation) : String × Int := (invitation.invitationCode, invitation.shares)

theorem current_step {state : State} {calls : List (Call × Outcome)} {clubId : String} {call : Call}
    (holds : (state.server.invitationRoom.doc clubId).map shown = current clubId calls) (word : Word call)
    (outcome : Outcome) :
    ((step state (call, outcome)).server.invitationRoom.doc clubId).map shown =
      current clubId ((call, outcome) :: calls) := by
  cases call with
  | setClub club =>
    have same : (step state (.setClub club, outcome)).server.invitationRoom = state.server.invitationRoom := by
      simp only [step]
      cases club.getData.2.getId with
      | error => rfl
      | ok id => cases outcome <;> rfl
    rw [same]
    exact holds
  | addMember currentUser id shares =>
    have same := addMember_room state.server currentUser id shares outcome
    simp only [step, same]
    exact holds
  | addMemberFromQR currentUser encryptedId =>
    have same := (addMemberFromQR_documents state.server currentUser encryptedId outcome).1
    simp only [step, same]
    exact holds
  | sendInvitationCode club shares code =>
    cases outcome with
    | failure =>
      simp only [step]
      cases club.getId <;> exact holds
    | success =>
      simp only [step, current]
      cases named : club.getId with
      | error => exact holds
      | ok id =>
        simp only [Except.toOption, Option.some.injEq, Server.sendInvitationCode, createInvitationRequest,
          Collection.doc_set]
        split
        · simp only [Option.map_some, shown, Server.invitation, parseInt_intText word]
          rfl
        · exact holds
  | deleteInvitation id =>
    cases outcome with
    | failure => exact holds
    | success =>
      simp only [step, current, Server.deleteInvitation, Collection.doc_delete]
      split
      · rfl
      · exact holds
  | createTransaction transaction =>
    have same : (step state (.createTransaction transaction, outcome)).server = state.server := by
      simp only [step]
      split <;> rfl
    rw [same]
    exact holds

/-- The documents of invitationRoom are the current invitations. -/
theorem current_run {calls : List (Call × Outcome)} (words : ∀ call ∈ calls, Word call.1) (clubId : String) :
    ((run {} calls).server.invitationRoom.doc clubId).map shown = current clubId calls.reverse := by
  induction calls using List.reverseRecOn with
  | nil => simp [run, current]
  | append_singleton calls call ih =>
    have before := ih fun other member => words other (List.mem_append_left _ member)
    have word := words call (List.mem_append_right _ List.mem_cons_self)
    rw [run_append, List.reverse_append]
    exact current_step before word call.2

section
variable {calls : List (Call × Outcome)} (words : ∀ call ∈ calls, Word call.1)
include words

theorem current_some {clubId code : String} {shares : Int} :
    current clubId calls.reverse = some (code, shares) ↔
      ∃ data, (run {} calls).server.invitationRoom.doc clubId = some data ∧ data.invitationCode = code ∧
        data.shares = shares := by
  rw [← current_run words, Option.map_eq_some_iff]
  simp only [shown, Prod.mk.injEq]

theorem leads_iff {code clubId : String} {shares : Int} :
    Leads calls code clubId shares ↔
      ∃ data, (run {} calls).server.findInvitation code = some data ∧ data.clubId = clubId ∧ data.shares = shares := by
  have sound : Sound (run {} calls) := sound_run sound_initial calls
  constructor
  · intro leads
    obtain ⟨own, least⟩ := leads
    obtain ⟨data, stored, sameCode, sameShares⟩ := (current_some words).mp own
    have sameClub : data.clubId = clubId := Option.some.inj (sound.clubIds clubId data stored)
    refine ⟨data, Collection.head_docsWhere_iff.mpr ⟨clubId, stored, by simpa using sameCode, ?_⟩, sameClub, sameShares⟩
    intro other found present matching
    exact least other found.shares ((current_some words).mpr ⟨found, present, by simpa using matching, rfl⟩)
  · intro answered
    obtain ⟨data, found, rfl, rfl⟩ := answered
    obtain ⟨id, stored, matching, least⟩ := Collection.head_docsWhere_iff.mp found
    have sameClub : data.clubId = id := Option.some.inj (sound.clubIds id data stored)
    refine ⟨(current_some words).mpr ⟨data, sameClub.symm ▸ stored, by simpa using matching, rfl⟩, ?_⟩
    intro other number now
    obtain ⟨another, present, sameCode, -⟩ := (current_some words).mp now
    rw [sameClub]
    exact least other another present (by simpa using sameCode)

theorem leads_nowhere_iff {code : String} :
    (∀ clubId shares, current clubId calls.reverse ≠ some (code, shares)) ↔
      (run {} calls).server.findInvitation code = none := by
  rw [Server.findInvitation, Collection.head_docsWhere_none]
  constructor
  · intro nowhere id document stored
    by_contra matching
    exact nowhere id document.shares
      ((current_some words).mpr ⟨document, stored, by simpa using matching, rfl⟩)
  · intro unmatched clubId shares now
    obtain ⟨data, stored, sameCode, -⟩ := (current_some words).mp now
    have different := unmatched clubId data stored
    rw [sameCode, beq_self_eq_true] at different
    cases different

end

/-- A signed-in joiner is added, with the shares of its last request, to the club with the
least id among those whose current code was entered, and this club's invitation is gone;
with no such club the code is rejected and nothing changes. -/
theorem code_leads_iff {calls : List (Call × Outcome)} (words : ∀ call ∈ calls, Word call.1) (code email : String) :
    let server := (run {} calls).server
    let redeemed := onCompleted server (some email) code .success .success .success
    (∀ clubId shares, Leads calls code clubId shares ↔
      redeemed = (.joined, { server with
        members := ⟨clubId, shares, email⟩ :: server.members
        invitationRoom := server.invitationRoom.delete clubId })) ∧
    ((∀ clubId shares, current clubId calls.reverse ≠ some (code, shares)) ↔ redeemed = (.rejected, server)) := by
  intro server redeemed
  have sound : Sound (run {} calls) := sound_run sound_initial calls
  cases found : server.findInvitation code with
  | none =>
    have rejected : redeemed = (.rejected, server) := by
      simp only [redeemed, onCompleted, Joiner.check, checkInvitationCode, found]
    refine ⟨?_, ?_⟩
    · intro clubId shares
      rw [rejected, leads_iff words]
      constructor
      · intro answered
        obtain ⟨data, present, -⟩ := answered
        cases found.symm.trans present
      · intro impossible
        cases congrArg Prod.fst impossible
    · rw [leads_nowhere_iff words]
      exact ⟨fun _ => rejected, fun _ => found⟩
  | some data =>
    have joined : redeemed = (.joined, { server with
        members := ⟨data.clubId, data.shares, email⟩ :: server.members
        invitationRoom := server.invitationRoom.delete data.id }) := by
      simp only [redeemed, onCompleted, Joiner.check, checkInvitationCode, found]
      rfl
    obtain ⟨id, stored, -⟩ := Server.findInvitation_some found
    have sameId : data.id = id := Option.some.inj (sound.invitations id data stored)
    have sameClub : data.clubId = id := Option.some.inj (sound.clubIds id data stored)
    refine ⟨?_, ?_⟩
    · intro clubId shares
      rw [joined, leads_iff words]
      constructor
      · intro answered
        obtain ⟨other, present, rfl, rfl⟩ := answered
        cases found.symm.trans present
        rw [sameId, sameClub]
      · intro same
        have members := congrArg Server.members (congrArg Prod.snd same)
        have first := (List.cons.inj members).1
        exact ⟨data, found, congrArg Membership.clubId first, congrArg Membership.shares first⟩
    · rw [leads_nowhere_iff words, joined]
      constructor
      · intro missing
        cases found.symm.trans missing
      · intro impossible
        cases congrArg Prod.fst impossible

/-- Two clubs have drawn the same code. -/
def twice : List (Call × Outcome) :=
  [(.sendInvitationCode { data := ∅, _id := some "c2" } 3 ⟨"0123ABCD", InvitationCode.first_length⟩, .success),
    (.sendInvitationCode { data := ∅, _id := some "c1" } 2 ⟨"0123ABCD", InvitationCode.first_length⟩, .success)]

theorem twice_leads_to_first :
    (onCompleted (run {} twice).server (some "bob@b.c") "0123ABCD" .success .success .success).2.members =
      [⟨"c1", 2, "bob@b.c"⟩] := by
  have words : ∀ call ∈ twice, Word call.1 := by
    intro call member
    simp only [twice, List.mem_cons, List.not_mem_nil, or_false] at member
    rcases member with rfl | rfl <;> simp [Word, isInt64]
  have leads : Leads twice "0123ABCD" "c1" 2 := by
    refine ⟨by decide, ?_⟩
    intro other number now
    by_cases first : other = "c1"
    · exact first.symm.le
    · by_cases second : other = "c2"
      · subst second
        decide
      · simp [twice, current, Club.getId, Except.toOption, Ne.symm first, Ne.symm second] at now
  rw [((code_leads_iff words "0123ABCD" "bob@b.c").1 "c1" 2).mp leads]
  rfl

end Clubzey.Proofs.CodeResolution
