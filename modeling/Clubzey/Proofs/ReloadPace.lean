import Clubzey.Systems.Reload

/-! How soon after a press of Reload the next one can come. -/

namespace Clubzey.Proofs.ReloadPace
open Dart Models Foundation Utils Systems.Reload

variable {clubId : String} {shares : Int}

theorem kept_opened (server : Backend.Server) (now : ℤ) : Kept (opened server now) := by
  refine ⟨Generator.paced_listen _ _ _ _ _, ?_⟩
  simp [opened, Generator.listen, second]

/-- Once an instant has passed, no countdown is started before it. -/
theorem started_since (bound : ℤ) :
    Runs.Keeps (step clubId shares) Runs.Free fun state => bound ≤ state.built ∧ bound ≤ state.now := by
  intro before event after holds _ stepped
  obtain ⟨built, now⟩ := holds
  cases step_moves stepped with
  | alone passes _ same =>
    rw [same]
    exact ⟨built, now.trans passes⟩
  | restarts same _ started =>
    rw [same, started]
    exact ⟨now, now⟩
  | counts same started _ =>
    rw [same, started]
    exact ⟨built, now⟩

/-- After a press of Reload, and whatever happens then, either the countdown started last
has shown no number yet, or the number shown is at least what is left of thirty seconds
since the press. So once a countdown has begun, Reload comes back after thirty seconds. -/
theorem reload_paced {server : Backend.Server} {now number : ℤ} {code : InvitationCode} {first rest : List Event}
    {state reloaded later : State} (ran : Runs.run (step clubId shares) (opened server now) first = some state)
    (pressed : step clubId shares state (.reload code) = some reloaded)
    (went : Runs.run (step clubId shares) reloaded rest = some later)
    (shown : later.countdown.data = some number) :
    later.countdown.delivered = 0 ∨
      0 ≤ number ∧ number ≤ 30 ∧ state.now + (30 - number) * second ≤ later.now := by
  have kept := kept_preserved.always (kept_opened server now) ran
  have still := kept_preserved state (.reload code) reloaded kept trivial pressed
  have built : reloaded.built = state.now ∧ reloaded.now = state.now := by
    obtain ⟨_, rebuilt⟩ := Option.ite_none_right_eq_some.mp pressed
    obtain ⟨page, _, same⟩ := Option.map_eq_some_iff.mp rebuilt
    rw [← same]
    exact ⟨rfl, rfl⟩
  have since := (started_since state.now).always ⟨built.1.ge, built.2.ge⟩ went
  by_cases counting : later.countdown.delivered = 0
  · exact Or.inl counting
  · obtain ⟨atLeast, atMost, passed⟩ := (kept_preserved.always still went).counted shown counting
    exact Or.inr ⟨atLeast, atMost, (add_le_add_left since.1 _).trans passed⟩

def firstCode : InvitationCode := ⟨"0123ABCD", InvitationCode.first_length⟩

/-- The page is built and its countdown runs down to zero, a number each second. -/
def countdown : List Event :=
  .rebuild firstCode :: .count :: (List.range 30).flatMap fun index => [.pass ((index + 1) * second), .count]

def countedDown : State := (Runs.run (step "c1" 2) (opened {} 0) countdown).get (by decide +kernel)

def reloaded : State := (step "c1" 2 countedDown (.reload firstCode)).get (by decide +kernel)

def again : State := (Runs.run (step "c1" 2) reloaded [.count, .pass (31 * second), .count]).get (by decide +kernel)

theorem counts_again : again.countdown.delivered = 0 ∨ 0 ≤ (29 : ℤ) ∧ (29 : ℤ) ≤ 30 ∧
    countedDown.now + (30 - 29) * second ≤ again.now :=
  reload_paced (Option.some_get _).symm (Option.some_get _).symm (Option.some_get _).symm (by decide +kernel)

end Clubzey.Proofs.ReloadPace
