import Arcade.Host
import Arcade.Proofs.Play.Calls
/-!
# Runs of hosted games

A hosted game is used by the same calls as the session inside it. `HostedGame.Reached` are the games
that a host can come to have: created from readable options around any injectors, and then used by
any calls. What is true of all of them is shown by `Reached.clicker_invariant` and
`Reached.duel_invariant`, for the session of each game.
-/

namespace Arcade.HostedGame

open Play

variable {ι : Type} [Injector ι]

/-! ### Calls -/

/-- One call: its answer, and the game afterwards. -/
def perform (g : HostedGame ι) (c : Call) : Answer × HostedGame ι :=
  g.run fun s => s.perform c

/-- Handles one action of a player. -/
def act (g : HostedGame ι) (player : PlayerId) (action : Action) : ActionResult × HostedGame ι :=
  g.run fun s => s.handleAction player action

/-- Handles one action of a player in a build that checks its sums. -/
def act? (g : HostedGame ι) (player : PlayerId) (action : Action) :
    Option (ActionResult × HostedGame ι) :=
  g.run? fun s => s.handleAction? player action

/-- The game after a run of calls. -/
abbrev after (g : HostedGame ι) (calls : List Call) : HostedGame ι :=
  Run.after perform g calls

/-- The answers to a run of calls. -/
abbrev answers (g : HostedGame ι) (calls : List Call) : List Answer :=
  Run.answers perform g calls

@[simp] theorem perform_clicker (s : Session Clicker ι) (c : Call) :
    (clicker s).perform c = ((s.perform c).1, .clicker (s.perform c).2) := rfl

@[simp] theorem perform_duel (s : Session Duel.Game ι) (c : Call) :
    (duel s).perform c = ((s.perform c).1, .duel (s.perform c).2) := rfl

theorem act?_clicker {s : Session Clicker ι} {player : PlayerId} {action : Action}
    {r : ActionResult × HostedGame ι} : (clicker s).act? player action = some r ↔
      ∃ result s', s.handleAction? player action = some (result, s') ∧ (result, .clicker s') = r := by
  simp [act?, run?, Option.map_eq_some_iff, Prod.map]

theorem act?_duel {s : Session Duel.Game ι} {player : PlayerId} {action : Action}
    {r : ActionResult × HostedGame ι} : (duel s).act? player action = some r ↔
      ∃ result s', s.handleAction? player action = some (result, s') ∧ (result, .duel s') = r := by
  simp [act?, run?, Option.map_eq_some_iff, Prod.map]

@[simp] theorem after_clicker (s : Session Clicker ι) (calls : List Call) :
    (clicker s).after calls = .clicker (s.after calls) := by
  induction calls generalizing s with
  | nil => rfl
  | cons c rest ih => exact ih (s.perform c).2

@[simp] theorem after_duel (s : Session Duel.Game ι) (calls : List Call) :
    (duel s).after calls = .duel (s.after calls) := by
  induction calls generalizing s with
  | nil => rfl
  | cons c rest ih => exact ih (s.perform c).2

@[simp] theorem answers_clicker (s : Session Clicker ι) (calls : List Call) :
    (clicker s).answers calls = s.answers calls := by
  induction calls generalizing s with
  | nil => rfl
  | cons c rest ih => exact congrArg (List.cons _) (ih (s.perform c).2)

@[simp] theorem answers_duel (s : Session Duel.Game ι) (calls : List Call) :
    (duel s).answers calls = s.answers calls := by
  induction calls generalizing s with
  | nil => rfl
  | cons c rest ih => exact congrArg (List.cons _) (ih (s.perform c).2)

/-! ### Questions -/

/-- The state that is stored, if the game was started. -/
def state? (g : HostedGame ι) : Option GameState :=
  g.ask fun s => s.state

/-- The events that wait to be handed over. -/
def queued (g : HostedGame ι) : List Event :=
  g.ask fun s => s.events.pending

def injectors (g : HostedGame ι) : List ι :=
  g.ask fun s => s.injectors

/-- The same game around other injectors. -/
def withInjectors (g : HostedGame ι) (injectors : List ι) : HostedGame ι :=
  (g.run fun s => ((), { s with injectors := injectors })).2

/-- Whether an injector holds an action back. -/
def Vetoes (g : HostedGame ι) (player : PlayerId) (action : Action) : Prop :=
  g.ask fun s => s.Vetoes player action

/-! ### The games that a host can have -/

/-- Created from readable options, and used by any calls. -/
inductive Reached : HostedGame ι → Prop
  | clicker {options : GameConfig} {rules : Clicker} (hrules : Clicker.ofConfig options = .ok rules)
      (id : String) (config : GameConfig) (injectors : List ι) :
      Reached (.clicker (.create id rules config injectors))
  | duel {options : GameConfig} {rules : Duel.Game} (hrules : Duel.ofConfig options = .ok rules)
      (id : String) (config : GameConfig) (injectors : List ι) :
      Reached (.duel (.create id rules config injectors))
  | perform {g : HostedGame ι} (hg : Reached g) (c : Call) : Reached (g.perform c).2

theorem Reached.after {g : HostedGame ι} (hg : g.Reached) (calls : List Call) :
    (g.after calls).Reached :=
  Run.after_invariant Reached (fun _ => True) (fun _ c _ h => h.perform c) (fun _ _ => trivial) hg

theorem ok_of_map {ε α β : Type} {f : α → β} {answer : Except ε α} {b : β}
    (h : answer.map f = .ok b) : ∃ a, answer = .ok a ∧ f a = b := by
  cases answer with
  | error fault => cases h
  | ok a => exact ⟨a, rfl, Except.ok.inj h⟩

omit [Injector ι] in
theorem create_of_ofConfig {γ : Type} [GameRules γ] {catalog : Catalog ι} {id : String} {rules : γ}
    {config : GameConfig} {s : Session γ ι}
    (h : Session.ofConfig catalog id rules config = .ok s) :
    ∃ injectors, catalog.buildAll config.injectors = .ok injectors ∧
      s = .create id rules config injectors := by
  unfold Session.ofConfig at h
  cases hbuilt : catalog.buildAll config.injectors with
  | error fault =>
      rw [hbuilt] at h
      cases h
  | ok injectors =>
      rw [hbuilt] at h
      exact ⟨injectors, rfl, (Except.ok.inj h).symm⟩

omit [Injector ι] in
/-- What a host creates as clicker: rules from readable options, and injectors from the catalog. -/
theorem clicker_of_create {catalog : Catalog ι} {id : String} {config : GameConfig}
    {s : Session Clicker ι} (h : Host.create catalog id config = .ok (.clicker s)) :
    ∃ rules, Clicker.ofConfig config = .ok rules ∧
      Session.ofConfig catalog id rules config = .ok s := by
  unfold Host.create at h
  split at h
  · split at h
    · cases h
    next rules hrules =>
      obtain ⟨t, ht, hts⟩ := ok_of_map h
      exact ⟨rules, hrules, HostedGame.clicker.inj hts ▸ ht⟩
  · split at h
    · split at h
      · cases h
      · obtain ⟨t, -, hts⟩ := ok_of_map h
        cases hts
    · cases h

omit [Injector ι] in
/-- What a host creates as a duel. -/
theorem duel_of_create {catalog : Catalog ι} {id : String} {config : GameConfig}
    {s : Session Duel.Game ι} (h : Host.create catalog id config = .ok (.duel s)) :
    ∃ rules, Duel.ofConfig config = .ok rules ∧
      Session.ofConfig catalog id rules config = .ok s := by
  unfold Host.create at h
  split at h
  · split at h
    · cases h
    · obtain ⟨t, -, hts⟩ := ok_of_map h
      cases hts
  · split at h
    · split at h
      · cases h
      next rules hrules =>
        obtain ⟨t, ht, hts⟩ := ok_of_map h
        exact ⟨rules, hrules, HostedGame.duel.inj hts ▸ ht⟩
    · cases h

/-- What is true of a fresh clicker session, and kept by every call, is true whatever was called. -/
theorem Reached.clicker_invariant (Inv : Session Clicker ι → Prop)
    (hfresh : ∀ {options rules}, Clicker.ofConfig options = .ok rules →
      ∀ id config injectors, Inv (.create id rules config injectors))
    (hstep : ∀ s c, Inv s → Inv (s.perform c).2) {s : Session Clicker ι}
    (h : Reached (.clicker s)) : Inv s := by
  generalize hg : HostedGame.clicker s = g at h
  induction h generalizing s with
  | clicker hrules id config injectors =>
      cases hg
      exact hfresh hrules id config injectors
  | duel hrules id config injectors => cases hg
  | @perform g _ c ih =>
      cases g with
      | duel t => cases hg
      | clicker t =>
          obtain rfl : s = _ := HostedGame.clicker.inj hg
          exact hstep t c (ih rfl)

/-- What is true of a fresh duel session, and kept by every call, is true whatever was called. -/
theorem Reached.duel_invariant (Inv : Session Duel.Game ι → Prop)
    (hfresh : ∀ {options rules}, Duel.ofConfig options = .ok rules →
      ∀ id config injectors, Inv (.create id rules config injectors))
    (hstep : ∀ s c, Inv s → Inv (s.perform c).2) {s : Session Duel.Game ι}
    (h : Reached (.duel s)) : Inv s := by
  generalize hg : HostedGame.duel s = g at h
  induction h generalizing s with
  | clicker hrules id config injectors => cases hg
  | duel hrules id config injectors =>
      cases hg
      exact hfresh hrules id config injectors
  | @perform g _ c ih =>
      cases g with
      | clicker t => cases hg
      | duel t =>
          obtain rfl : s = _ := HostedGame.duel.inj hg
          exact hstep t c (ih rfl)

theorem Reached.events_clicker {s : Session Clicker ι} (h : Reached (.clicker s)) :
    s.events = {} :=
  Reached.clicker_invariant (fun s => s.events = {}) (fun _ _ _ _ => rfl)
    (fun _ c hs => Session.events_perform hs c) h

theorem Reached.events_duel {s : Session Duel.Game ι} (h : Reached (.duel s)) : s.events = {} :=
  Reached.duel_invariant (fun s => s.events = {}) (fun _ _ _ _ => rfl)
    (fun _ c hs => Session.events_perform hs c) h

end Arcade.HostedGame
