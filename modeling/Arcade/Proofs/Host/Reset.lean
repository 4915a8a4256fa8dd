import Arcade.Proofs.Duel.Setup
import Arcade.Proofs.Host.Lifecycle
import Arcade.Proofs.Mechanics.BetweenCalls
import Arcade.Proofs.Mechanics.Questions
import Arcade.Proofs.Play.Reset
/-!
# Every game can be reset

The built-in games forget what they have played when the next game is opened. Clicker holds nothing
but its target. A duel holds its match, the buttons gathered and the last frame, and opening sets all
of it anew, so that only the configuration of the engine is left (`setup`). The built-in injectors are
left with their options, the generator of the questions included.

So `reset_is_a_fresh_start` holds of every game that a host creates: resetting it is the same as
creating it anew and starting it with the seed of the old one.
-/

namespace Arcade

open Play Live Mechanics

/-! ### Rules -/

theorem forgetful_clicker : Forgetful Clicker where
  prepare {rules _ _ _ _ _} h := (Clicker.keptByRules (Reopens rules)).prepare h (.refl rules)
  act {rules _ _ _ _ _ _ _ _} h := (Clicker.keptByRules (Reopens rules)).act h (.refl rules)
  tick {rules _ _ _ _ _ _} h := (Clicker.keptByRules (Reopens rules)).tick h (.refl rules)

namespace Duel

theorem reopens_of_setup {a a' : Game} (hdescriptor : a'.descriptor = a.descriptor)
    (hsetup : setup a'.slot = setup a.slot) : Reopens a a' := by
  refine ⟨fun {players stage data opened stage'} h => ?_⟩
  simp only [GameRules.prepare, Adapter.prepare] at h ⊢
  rcases hstart : Adapter.startEngine a.slot players stage.draw.1 with ⟨answer, slot⟩
  rw [hstart] at h
  cases answer with
  | error fault => cases h
  | ok _ =>
      rw [startEngine_congr hsetup hstart, hdescriptor]
      exact h

end Duel

theorem forgetful_duel : Forgetful Duel.Game where
  prepare h :=
    have hkept := Duel.kept_prepare h
    Duel.reopens_of_setup hkept.descriptor hkept.setup
  act h :=
    have hkept := Duel.kept_act h
    Duel.reopens_of_setup hkept.descriptor hkept.setup
  tick h :=
    have hkept := Duel.kept_tick h
    Duel.reopens_of_setup hkept.descriptor hkept.setup

/-! ### Injectors -/

namespace Mechanics.BuiltIn

theorem prepare_challenge (c : Challenge) (players : List PlayerId) :
    Injector.prepare (challenge c) players = ([], challenge (c.fresh players)) := rfl

theorem before_challenge (c : Challenge) (player : PlayerId) (action : Action) (data : Data) :
    (Injector.before (challenge c) player action data).2
      = challenge (c.before player action).2 := rfl

theorem after_challenge (c : Challenge) (player : PlayerId) (action : Action) (outcome : Outcome) :
    (Injector.after (challenge c) player action outcome).2 = challenge (c.after player) := rfl

/-- A challenge is set afresh but for its options. -/
theorem prepare_of_options {c c' : Challenge} (h : c'.options = c.options)
    (players : List PlayerId) :
    Injector.prepare (challenge c') players = Injector.prepare (challenge c) players := by
  rw [prepare_challenge, prepare_challenge, Challenge.fresh, Challenge.fresh, h]

end Mechanics.BuiltIn

theorem forgetful_builtIn : ForgetfulInjectors BuiltIn where
  prepare i players players' := by
    cases i with
    | energy e => rfl
    | challenge c =>
        rw [BuiltIn.prepare_challenge c players]
        exact BuiltIn.prepare_of_options (c.options_fresh players) players'
  before i player action data players := by
    cases i with
    | energy e => rfl
    | challenge c =>
        rw [BuiltIn.before_challenge]
        exact BuiltIn.prepare_of_options (c.options_before player action) players
  after i player action outcome players := by
    cases i with
    | energy e => rfl
    | challenge c =>
        rw [BuiltIn.after_challenge]
        exact BuiltIn.prepare_of_options rfl players

/-! ### Games -/

namespace HostedGame

/-- The seed of the game under way. -/
def seed (g : HostedGame BuiltIn) : UInt64 :=
  g.ask fun s => s.seed

variable {id : String} {config : GameConfig} {first again begun : HostedGame BuiltIn}
  {players : List PlayerId} {seed : Option UInt64} {events : List Event} {calls : List Call}

/-- **A reset is a fresh start.** Whatever is played, also if it is tried to start the game again, a
reset succeeds and leaves the game as its start has left it, which is what creating the game anew and
starting it with the seed of the old one does: the events are the same, and the games are, and so are the
answers to all that is called later. -/
theorem reset_is_a_fresh_start (hfirst : Host.create BuiltIn.catalog id config = .ok first)
    (hagain : Host.create BuiltIn.catalog id config = .ok again)
    (hstart : first.perform (.start players seed) = (.started (.ok events), begun))
    (hcalls : ∀ c ∈ calls, c.playsOn = true) :
    let played := begun.after calls
    played.perform .reset = (.started (.ok events), begun) ∧
      again.perform (.start players (some played.seed)) = (.started (.ok events), begun) := by
  intro played
  -- a host makes the same game of the same configuration
  obtain rfl : first = again := Except.ok.inj (hfirst.symm.trans hagain)
  cases first with
  | clicker s =>
      rcases hs : s.start players seed with ⟨answer, t⟩
      simp only [perform_clicker, Session.perform, hs, Prod.mk.injEq, Answer.started.injEq] at hstart
      obtain ⟨rfl, rfl⟩ := hstart
      obtain ⟨hreset, hagain⟩ := Session.reset_eq_start forgetful_clicker forgetful_builtIn hs hcalls
      have hplayed : played = .clicker (t.after calls) := after_clicker t calls
      rw [hplayed]
      simp only [perform_clicker, Session.perform, hreset, HostedGame.seed, ask, hagain, and_self]
  | duel s =>
      rcases hs : s.start players seed with ⟨answer, t⟩
      simp only [perform_duel, Session.perform, hs, Prod.mk.injEq, Answer.started.injEq] at hstart
      obtain ⟨rfl, rfl⟩ := hstart
      obtain ⟨hreset, hagain⟩ := Session.reset_eq_start forgetful_duel forgetful_builtIn hs hcalls
      have hplayed : played = .duel (t.after calls) := after_duel t calls
      rw [hplayed]
      simp only [perform_duel, Session.perform, hreset, HostedGame.seed, ask, hagain, and_self]

/-- A duel with questions: two actions, the second of which is held back, a second start, a frame. -/
theorem reset_is_a_fresh_start_of_duel :
    let config : GameConfig :=
      { gameType := "duel", injectors := [⟨"challenge", .obj [("every", .nat 2)]⟩] }
    let first : HostedGame BuiltIn :=
      .duel (.create "d" (.attached Duel.descriptor {}) config [.challenge { options := { every := 2 } }])
    let begun := (first.perform (.start ["a", "b"] none)).2
    let calls : List Call :=
      [.act "a" { kind := "jump" }, .act "a" { kind := "jump" }, .start ["c"] none, .tick 0.1]
    let played := begun.after calls
    (played.perform .reset).2 = begun ∧
      (first.perform (.start ["a", "b"] (some played.seed))).2 = begun := by
  intro config first begun calls played
  have hcreate : Host.create BuiltIn.catalog "d" config = .ok first := rfl
  have hstart : first.perform (.start ["a", "b"] none)
      = (.started (.ok [Event.started ["a", "b"]]), begun) := rfl
  have hcalls : ∀ c ∈ calls, c.playsOn = true := by simp [calls, Call.playsOn]
  obtain ⟨hreset, hagain⟩ := reset_is_a_fresh_start hcreate hcreate hstart hcalls
  exact ⟨congrArg Prod.snd hreset, congrArg Prod.snd hagain⟩

end HostedGame

end Arcade
