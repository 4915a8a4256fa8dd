import Arcade.Proofs.Duel.Setup
import Arcade.Proofs.Host.Lifecycle
import Arcade.Proofs.Mechanics.BetweenCalls
import Arcade.Proofs.Mechanics.Built
import Arcade.Proofs.Mechanics.Questions
import Arcade.Proofs.Play.Restore
/-!
# What a restore leaves of the game before

A restore puts the stored record in place, and sets the match, the buttons and the last frame of a duel
anew. It does not touch the injectors. Whatever a game was used for before, it is therefore what a newly
created one would be, but for its injectors: the questions that wait for an answer go on waiting, and
the counts go on counting (`restore_keeps_questions`). Only a game whose injectors are as good as new
goes on like a new one.
-/

namespace Arcade

open Play Mechanics

namespace HostedGame

def id (g : HostedGame BuiltIn) : String :=
  g.ask fun s => s.id

/-- The same game under another id. -/
def withId (g : HostedGame BuiltIn) (id : String) : HostedGame BuiltIn :=
  (g.run fun s => ((), { s with id := id })).2

/-- The questions that wait for a player's answer. -/
def outstanding (g : HostedGame BuiltIn) (player : PlayerId) : List Pending :=
  g.ask fun s => s.outstanding player

/-- Games of one configuration differ in their ids alone. -/
theorem create_withId {catalog : Catalog BuiltIn} {id : String} {config : GameConfig}
    {g : HostedGame BuiltIn} (h : Host.create catalog id config = .ok g) (id' : String) :
    Host.create catalog id' config = .ok (g.withId id') := by
  have hmap : Host.create catalog id' config
      = (Host.create catalog id config).map fun g => g.withId id' := by
    unfold Host.create Session.ofConfig
    split
    · cases Clicker.ofConfig config with
      | error fault => rfl
      | ok rules => cases catalog.buildAll config.injectors <;> rfl
    · split
      · cases Duel.ofConfig config with
        | error fault => rfl
        | ok rules => cases catalog.buildAll config.injectors <;> rfl
      · rfl
  rw [hmap, h]
  rfl

/-! ### Beside a new session -/

section

variable {γ : Type} [GameRules γ] {s₀ s restored : Session γ BuiltIn} {c : Call}

/-- What a restore makes of a new session of the same make. -/
structure BesideNew (s₀ s : Session γ BuiltIn) (c : Call) (restored : Session γ BuiltIn) : Prop where
  perform : ({ s₀ with id := s.id } : Session γ BuiltIn).perform c
    = (.restored (.ok ()), { restored with injectors := s₀.injectors })
  injectors : restored.injectors = s.injectors

/-- Rules of which something is true as long as they are not released go on with states as they did at
first, if that is all there is to going on with a state. -/
theorem besideNew {P : γ → Prop} (hP : Session.KeptInPlay P) (h : P s₀.rules)
    (hresume : ∀ {rules players state opened}, P rules →
      GameRules.resume rules players state = (.ok (), opened) →
        GameRules.resume s₀.rules players state = (.ok (), opened))
    {calls : List Call} (hs : s = s₀.after calls)
    (hrestore : s.perform c = (.restored (.ok ()), restored)) : BesideNew s₀ s c restored := by
  have hok : (s.perform c).1 = .restored (.ok ()) := congrArg Prod.fst hrestore
  obtain ⟨saved, rules, -, htakes, htaken⟩ := Session.restored_of_ok hok
  -- a restore succeeds on a session that was not given up, whose rules have never been released
  have henabled : (s₀.after calls).disposed = false := by
    rw [← hs]
    exact htakes.disposed
  obtain ⟨hmake, hrules⟩ := Session.sameMake_after hP h calls henabled
  rw [← hs] at hmake hrules
  have hid : ({ s₀ with id := s.id } : Session γ BuiltIn).id = s.id := rfl
  have hmake' : Session.SameMake { s₀ with id := s.id } s :=
    ⟨hmake.config.symm, hmake.maxPlayers.symm, hmake.disposed.symm⟩
  obtain rfl : restored = s.takeUp saved rules := (congrArg Prod.snd hrestore).symm.trans htaken
  have hnew := Session.restored_of_sameMake hid hmake' (hresume hrules) hok
  rw [htaken] at hnew
  exact ⟨hnew, rfl⟩

theorem BesideNew.outstanding_eq (h : BesideNew s₀ s c restored) (player : PlayerId) :
    restored.outstanding player = s.outstanding player := by
  rw [Session.outstanding, h.injectors]
  rfl

/-- If the injectors are as good as new, the restored session answers like the new one. -/
theorem BesideNew.answers_eq (h : BesideNew s₀ s c restored)
    (hrest : SameAtRest s.injectors s₀.injectors) (later : List Call) :
    restored.answers later
      = Session.answers { restored with injectors := s₀.injectors } later := by
  rw [← h.injectors] at hrest
  exact Session.answers_eq_of_alike (.intro restored hrest) later

/-- No question waits in a session that was just created. -/
theorem unasked_of_ofConfig {id : String} {rules : γ} {config : GameConfig}
    (h : Session.ofConfig BuiltIn.catalog id rules config = .ok s) :
    ∀ c ∈ challenges s.injectors, c.pending = [] := by
  obtain ⟨injectors, hbuilt, rfl⟩ := create_of_ofConfig h
  exact unasked_of_buildAll hbuilt

end

/-- **A restore keeps the questions.** Take any game that a host has created, whatever was called on it,
and a restore that succeeds on it. On a game created anew, of the same configuration and under the same
id, the restore succeeds too, with no question waiting afterwards; and the two are the same games then,
but for their injectors. Those of the old game are what they were before, with all the questions that wait
for an answer. If they are as good as new, the two games answer alike whatever is called later. -/
theorem restore_keeps_questions {id : String} {config : GameConfig} {first : HostedGame BuiltIn}
    (hfirst : Host.create BuiltIn.catalog id config = .ok first) {calls : List Call} {c : Call}
    {g restored : HostedGame BuiltIn} (hg : g = first.after calls)
    (hrestore : g.perform c = (.restored (.ok ()), restored)) :
    (∃ anew, Host.create BuiltIn.catalog g.id config = .ok anew ∧
      anew.perform c = (.restored (.ok ()), restored.withInjectors anew.injectors) ∧
      (∀ player, (anew.perform c).2.outstanding player = []) ∧
      (SameAtRest g.injectors anew.injectors →
        ∀ later, restored.answers later = (anew.perform c).2.answers later)) ∧
    restored.injectors = g.injectors ∧
    ∀ player, restored.outstanding player = g.outstanding player := by
  cases first with
  | clicker s₀ =>
      obtain ⟨rules, -, hconfig⟩ := clicker_of_create hfirst
      have hunasked := unasked_of_ofConfig hconfig
      rw [after_clicker] at hg
      obtain ⟨s, hs⟩ : ∃ s, s = s₀.after calls := ⟨_, rfl⟩
      rw [← hs] at hg
      subst hg
      rcases hnext : s.perform c with ⟨answer, t⟩
      rw [perform_clicker, hnext, Prod.mk.injEq] at hrestore
      obtain ⟨rfl, rfl⟩ := hrestore
      have hnew : BesideNew s₀ s c t :=
        besideNew (Clicker.keptByRules (· = s₀.rules)).inPlay rfl
          (fun hrules hresume => by rwa [hrules] at hresume) hs hnext
      have hanew : (HostedGame.clicker { s₀ with id := s.id }).perform c
          = (.restored (.ok ()), .clicker { t with injectors := s₀.injectors }) := by
        rw [perform_clicker, hnew.perform]
      refine ⟨⟨.clicker { s₀ with id := s.id }, create_withId hfirst s.id, hanew, ?_, ?_⟩,
        hnew.injectors, hnew.outstanding_eq⟩
      · rw [hanew]
        exact Session.outstanding_of_unasked hunasked
      · intro hrest later
        rw [hanew, answers_clicker, answers_clicker]
        exact hnew.answers_eq hrest later
  | duel s₀ =>
      obtain ⟨rules, -, hconfig⟩ := duel_of_create hfirst
      have hunasked := unasked_of_ofConfig hconfig
      rw [after_duel] at hg
      obtain ⟨s, hs⟩ : ∃ s, s = s₀.after calls := ⟨_, rfl⟩
      rw [← hs] at hg
      subst hg
      rcases hnext : s.perform c with ⟨answer, t⟩
      rw [perform_duel, hnext, Prod.mk.injEq] at hrestore
      obtain ⟨rfl, rfl⟩ := hrestore
      have hnew : BesideNew s₀ s c t :=
        besideNew (Duel.keptInPlay fun h hmade => Duel.SameSetup.trans hmade h) ⟨rfl, rfl⟩
          (fun hsetup hresume => Duel.resume_congr hsetup.symm hresume) hs hnext
      have hanew : (HostedGame.duel { s₀ with id := s.id }).perform c
          = (.restored (.ok ()), .duel { t with injectors := s₀.injectors }) := by
        rw [perform_duel, hnew.perform]
      refine ⟨⟨.duel { s₀ with id := s.id }, create_withId hfirst s.id, hanew, ?_, ?_⟩,
        hnew.injectors, hnew.outstanding_eq⟩
      · rw [hanew]
        exact Session.outstanding_of_unasked hunasked
      · intro hrest later
        rw [hanew, answers_duel, answers_duel]
        exact hnew.answers_eq hrest later

/-- A pass is held back, and the question about it is still there after a restore. -/
theorem restore_keeps_questions_of_pass :
    let config : GameConfig :=
      { gameType := "clicker", injectors := [⟨"challenge", .obj [("every", .nat 1)]⟩] }
    let first : HostedGame BuiltIn :=
      .clicker (.create "g" (Clicker.ofTarget 50) config [.challenge { options := { every := 1 } }])
    let g := first.after [.start ["p"] (some 7), .act "p" { kind := "pass" }]
    let restored := (g.perform (.restoreState ["p"] (.playing []))).2
    (restored.outstanding "p").length = 1 := by
  intro config first g restored
  have hcreate : Host.create BuiltIn.catalog "g" config = .ok first := rfl
  have hrestore : g.perform (.restoreState ["p"] (.playing [])) = (.restored (.ok ()), restored) := rfl
  obtain ⟨-, -, hkept⟩ := restore_keeps_questions hcreate rfl hrestore
  rw [hkept]
  decide +kernel

end HostedGame

end Arcade
