import Arcade.Proofs.Clicker.Click
import Arcade.Proofs.Host.DryRuns
/-!
# Games that are over

Whether a game is over is asked in two ways. `isOver` asks its phase and its rules; the actions, and
what is listed as open to a player, only go by the phase. In a game that was never restored the two
come to the same, since every call that changes the state ends the game where the rules call it
decided (`settled_perform`). A restore takes up any state, also one that the rules call decided and
whose phase does not: such a game is over and is played on, by whoever it listens to
(`over_games_refuse_once_ended`).
-/

namespace Arcade

open Play Live Mechanics Checked

/-! ### Rules that list what they allow -/

/-- Rules that list what they allow, and make sums only for what they accept. -/
structure Play.ListsAllowed (γ : Type) [GameRules γ] : Prop where
  /-- where nothing is listed for a player, he is refused everything -/
  refuses : ∀ {rules : γ} {state player}, state.phase ≠ .ended →
    GameRules.validActions rules state player = [] → ∀ action multiplier stage,
      ∃ refusal, (GameRules.act rules state player action multiplier stage).answer = .error refusal
  /-- where something is listed, something is that makes no sum -/
  spares : ∀ {rules : γ} {state player}, GameRules.validActions rules state player ≠ [] →
    ∃ kind ∈ GameRules.validActions rules state player, ∀ timestamp multiplier,
      GameRules.actFits rules state player ⟨kind, [], timestamp⟩ multiplier = true
  adds : AddsAccepted γ

theorem Clicker.validActions_eq_nil_iff (c : Clicker) {state : GameState} {player : PlayerId}
    (hphase : state.phase ≠ .ended) :
    GameRules.validActions c state player = [] ↔ whoseTurn? state ≠ some player := by
  have hended : state.isEnded = false := by simpa [GameState.isEnded] using hphase
  by_cases hturn : whoseTurn? state = some player
  · simp [GameRules.validActions, hended, checkTurn, hturn, Except.toBool]
  · simp [GameRules.validActions, hended, checkTurn, hturn, Except.toBool]

theorem listsAllowed_clicker : ListsAllowed Clicker where
  refuses {rules state player} hphase hlisted action multiplier stage := by
    have hturn := (rules.validActions_eq_nil_iff hphase).mp hlisted
    have hcheck : Clicker.checkTurn state player = .error .notYourTurn := if_neg hturn
    refine ⟨.byRules Clicker.Fault.notYourTurn.message, ?_⟩
    simp only [GameRules.act, Clicker.apply, hcheck]
    rfl
  spares {rules state player} hlisted := by
    -- a pass is listed with the clicks
    have hpass : "pass" ∈ GameRules.validActions rules state player := by
      simp only [GameRules.validActions] at hlisted ⊢
      split at hlisted
      · exact absurd rfl hlisted
      next hopen =>
        rw [if_neg hopen]
        exact List.mem_cons_of_mem _ List.mem_cons_self
    refine ⟨"pass", hpass, fun timestamp multiplier => ?_⟩
    show (Clicker.applied? state player ⟨"pass", [], timestamp⟩ multiplier).isSome = true
    rw [Option.isSome_iff_ne_none, ne_eq, Clicker.applied?_eq_none_iff]
    simp
  adds := Clicker.addsAccepted

theorem Live.Adapter.validActions_eq_nil_iff {β : Type} [Engine β] (a : Adapter β)
    (state : GameState) (player : PlayerId) :
    GameRules.validActions a state player = [] ↔ a.isDisposed = true := by
  cases hdisposed : a.isDisposed with
  | true => simp [GameRules.validActions, hdisposed]
  | false => simp [GameRules.validActions, hdisposed, Buttons.named]

theorem listsAllowed_adapter {β : Type} [Engine β] : ListsAllowed (Adapter β) where
  refuses {rules state player} _ hlisted action multiplier stage := by
    have hdisposed := (rules.validActions_eq_nil_iff state player).mp hlisted
    refine ⟨.byRules EngineFailure.disposed.message, ?_⟩
    simp only [GameRules.act, Adapter.act, hdisposed, if_true]
  spares hlisted := by
    obtain ⟨kind, hkind⟩ := List.exists_mem_of_ne_nil _ hlisted
    exact ⟨kind, hkind, fun _ _ => rfl⟩
  adds _ := rfl

namespace Play.Session

variable {γ ι : Type} [GameRules γ] [Injector ι] {s : Session γ ι} {player : PlayerId}

/-! ### What is refused -/

/-- Every action of a player is refused and leaves the state as it was, and nothing is listed for
him. -/
def Refuses (s : Session γ ι) (player : PlayerId) : Prop :=
  (∀ action, ∃ result s', s.handleAction? player action = some (result, s') ∧
    result.success = false ∧ s'.state = s.state) ∧ s.validActions player = []

/-- Without injectors an action is answered by a refusal and leaves the state as it was, or is one that the
rules list something for, and counts as a turn if it is answered. -/
theorem refused_or_turned (hbare : s.injectors = []) (hγ : ListsAllowed γ) (player : PlayerId)
    (action : Action) :
    (∃ result s', s.handleAction? player action = some (result, s') ∧ result.success = false ∧
        s'.state = s.state) ∨
      (s.validActions player ≠ [] ∧ ∀ result s', s.handleAction? player action = some (result, s') →
        result.success = true ∧ s'.turn.toNat = s.turn.toNat + 1) := by
  rcases hnext : s.handleAction player action with ⟨result, s'⟩
  have hanswered : s.processed? player action = none →
      s.handleAction? player action = some (result, s') := by
    intro hidle
    rw [handleAction?_of_unprocessed hγ.adds hidle, hnext]
  cases handled_of_eq hnext with
  | refused hrefusal => exact Or.inl ⟨_, _, hanswered (processed?_of_refused hrefusal), rfl, rfl⟩
  | vetoed _ _ hbefore =>
      rw [hbare] at hbefore
      cases hbefore
  | rejected hrefusal hstate hbefore hact =>
      exact Or.inl ⟨_, _, hanswered (processed?_of_proceed hrefusal hstate hbefore hact), rfl, rfl⟩
  | @processed state forwarded multiplier _ _ _ _ _ _ _ state' _ _ hrefusal hstate hbefore hact _
      hsettle =>
      obtain ⟨-, state₀, hstate₀, hseated, hphase⟩ := state_of_refusal?_eq_none hrefusal
      obtain rfl : state = state₀ := Option.some.inj (hstate.symm.trans hstate₀)
      refine Or.inr ⟨fun hnone => ?_, fun result s' hgoes => ?_⟩
      · have hlisted : GameRules.validActions s.rules state player = [] := by
          simpa [validActions, hstate, isParticipant, hseated, GameState.isEnded, hphase]
            using hnone
        obtain ⟨refusal, hrefused⟩ := hγ.refuses hphase hlisted forwarded multiplier ⟨s.random, s.events⟩
        rw [hact] at hrefused
        cases hrefused
      · have hcounted := turn_lt_of_handleAction? hgoes
          (processed?_of_proceed hrefusal hstate hbefore hact)
        obtain ⟨-, hsame⟩ := handleAction?_eq_some_iff.mp hgoes
        rw [hnext] at hsame
        obtain ⟨rfl, rfl⟩ := Prod.mk.inj hsame
        refine ⟨rfl, ?_⟩
        rw [turn_of_holds hstate] at hcounted ⊢
        rw [turn_of_holds rfl, turn_of_settle hsettle]
        exact toNat_next64 hcounted

theorem refuses_iff (hbare : s.injectors = []) (hγ : ListsAllowed γ) :
    s.Refuses player ↔ s.validActions player = [] := by
  constructor
  · intro hrefuses
    exact hrefuses.2
  · intro hnone
    refine ⟨fun action => ?_, hnone⟩
    rcases refused_or_turned hbare hγ player action with hrefused | ⟨hlisted, -⟩
    · exact hrefused
    · exact absurd hnone hlisted

theorem eq_of_processed? (hbare : s.injectors = []) {action forwarded : Action}
    (h : s.processed? player action = some forwarded) : forwarded = action := by
  unfold processed? at h
  rw [hbare] at h
  split at h
  · dsimp only [Pipeline.before, Pipeline.beforeFrom] at h
    split at h
    · cases h
    · exact (Option.some.inj h).symm
  · cases h

/-- Where something is listed for a player, some action of his is accepted as long as the turns can be
counted. -/
theorem accepted_of_listed (hbare : s.injectors = []) (hγ : ListsAllowed γ)
    (hrules : Foretells s.rules) (henabled : s.disposed = false) (hlisted : s.validActions player ≠ [])
    (hturns : s.turn.toNat + 1 < UInt64.size) :
    ∃ action result s', s.handleAction? player action = some (result, s') ∧ result.success = true := by
  obtain ⟨state, hstate, hsame⟩ : ∃ state, s.state = some state ∧
      s.validActions player = GameRules.validActions s.rules state player := by
    unfold validActions at hlisted ⊢
    cases hstate : s.state with
    | none => simp [hstate] at hlisted
    | some state =>
        simp only [hstate] at hlisted ⊢
        split at hlisted
        next hopen => exact ⟨state, rfl, by rw [if_pos hopen]⟩
        · exact absurd rfl hlisted
  obtain ⟨kind, hkind, hfits⟩ := hγ.spares (hsame ▸ hlisted)
  have haccepted := (listed_accepted_iff hbare (fun _ => hrules) player).mpr (Or.inl henabled) kind
    (hsame ▸ hkind) 0
  have hgoes : s.handleAction? player ⟨kind, [], 0⟩ ≠ none := by
    rw [ne_eq, handleAction?_eq_none_iff hγ.adds]
    intro hnone
    obtain ⟨state', forwarded, multiplier, hstate', hprocessed, -, hstops⟩ := hnone
    obtain rfl : state = state' := Option.some.inj (hstate.symm.trans hstate')
    obtain rfl := eq_of_processed? hbare hprocessed
    rw [turn_of_holds hstate] at hturns
    rcases hstops with hlarge | hlarge
    · rw [hfits 0 multiplier] at hlarge
      cases hlarge
    · exact absurd hturns (Nat.not_lt.mpr hlarge)
  obtain ⟨⟨result, s'⟩, hr⟩ := Option.ne_none_iff_exists'.mp hgoes
  obtain ⟨-, hnext⟩ := handleAction?_eq_some_iff.mp hr
  rw [hnext] at haccepted
  exact ⟨_, _, _, hr, haccepted⟩

omit [Injector ι] in
/-- Nothing is listed for a player who takes part in the last phase, or where the rules list
nothing. -/
theorem validActions_eq_nil_iff {state : GameState} (hstate : s.state = some state)
    (hseated : player ∈ s.players) : s.validActions player = [] ↔
      s.phase = .ended ∨ GameRules.validActions s.rules state player = [] := by
  rw [phase_of_holds hstate]
  by_cases hended : state.phase = .ended
  · simp [validActions, hstate, GameState.isEnded, hended]
  · simp [validActions, hstate, isParticipant, hseated, GameState.isEnded, hended]

/-- What is true of a game that is over, if its rules list something for a player exactly where they
listen to him. -/
theorem refuses_once_ended {listens : Prop} (hbare : s.injectors = []) (hγ : ListsAllowed γ)
    (hrules : s.disposed = false → Foretells s.rules) (hover : s.isOver = true)
    (hseated : player ∈ s.players)
    (hlistens : ∀ {state}, s.state = some state → state.phase ≠ .ended →
      (GameRules.validActions s.rules state player = [] ↔ ¬ listens)) :
    (s.Refuses player ↔ s.phase = .ended ∨ ¬ listens) ∧
      (∀ action result s', s.handleAction? player action = some (result, s') →
        (result.success = true → s'.turn.toNat = s.turn.toNat + 1) ∧
        (result.success = false → s'.state = s.state)) ∧
      (s.disposed = false → s.phase ≠ .ended → listens → (s.turn.toNat + 1 < UInt64.size ↔
        ∃ action result s', s.handleAction? player action = some (result, s') ∧
          result.success = true)) := by
  obtain ⟨state, hstate⟩ : ∃ state, s.state = some state := by
    cases hstate : s.state with
    | none => simp [isOver, hstate] at hover
    | some state => exact ⟨state, rfl⟩
  have hlisted : s.validActions player = [] ↔ s.phase = .ended ∨ ¬ listens := by
    rw [validActions_eq_nil_iff hstate hseated, phase_of_holds hstate]
    by_cases hended : state.phase = .ended
    · simp [hended]
    · rw [hlistens hstate hended]
  have hanswers : ∀ action result s', s.handleAction? player action = some (result, s') →
      (result.success = true → s'.turn.toNat = s.turn.toNat + 1) ∧
      (result.success = false → s'.state = s.state) := by
    intro action result s' hgoes
    rcases refused_or_turned hbare hγ player action with ⟨_, _, hrefused, hfailed, hsame⟩ | ⟨-, hturned⟩
    · rw [hgoes] at hrefused
      cases hrefused
      simp [hfailed, hsame]
    · simp [hturned result s' hgoes]
  refine ⟨(refuses_iff hbare hγ).trans hlisted, hanswers, fun henabled hphase hopen => ⟨?_, ?_⟩⟩
  · refine accepted_of_listed hbare hγ (hrules henabled) henabled ?_
    rw [ne_eq, hlisted]
    simp [hphase, hopen]
  · intro haccepts
    obtain ⟨action, result, s', hgoes, haccepted⟩ := haccepts
    have hturn := (hanswers action result s' hgoes).1 haccepted
    rw [← hturn]
    exact s'.turn.toNat_lt

/-! ### Games that were never restored -/

/-- Whatever state is held, it is that of a game under way. -/
structure Settled (s : Session γ ι) : Prop where
  queue : s.events = {}
  underway : ∀ {state}, s.state = some state → s.Underway state

omit [Injector ι] in
theorem settled_of_underway {state : GameState} (h : s.Underway state) : s.Settled := by
  refine ⟨h.queue, fun hstate => ?_⟩
  obtain rfl := Option.some.inj (h.holds.symm.trans hstate)
  exact h

/-- Nothing is played in a game that was not started. -/
theorem state_perform_of_none (hnone : s.state = none) {c : Call} (hc : c.isPlay = true) :
    (s.perform c).2.state = none := by
  cases c with
  | act player action =>
      have hhandled := handled s player action
      simp only [perform]
      generalize (s.handleAction player action).1 = result at hhandled
      generalize (s.handleAction player action).2 = s' at hhandled ⊢
      cases hhandled with
      | refused _ => exact hnone
      | vetoed _ hstate _ => simp [hnone] at hstate
      | rejected _ hstate _ _ => simp [hnone] at hstate
      | processed _ hstate _ _ _ _ => simp [hnone] at hstate
  | tick seconds =>
      have hticked := ticked s seconds
      simp only [perform]
      generalize (s.tick seconds).1 = answer at hticked
      generalize (s.tick seconds).2 = s' at hticked ⊢
      cases hticked with
      | disposed _ => exact hnone
      | unstarted _ _ => exact hnone
      | decided _ hstate _ => simp [hnone] at hstate
      | failed _ hstate _ _ => simp [hnone] at hstate
      | advanced _ hstate _ _ _ => simp [hnone] at hstate
  | dispose =>
      simp only [perform, dispose]
      cases s.disposed <;> exact hnone
  | _ => simp [Call.isPlay] at hc

/-- What is asked of rules for a game that begins to be settled. -/
structure OpensSettled (s : Session γ ι) : Prop where
  orderly : Orderly γ
  sameVerdict : ∀ (rules : γ) players stage,
    SameVerdict rules (GameRules.prepare rules players stage).rules
  undecided : ∀ players, s.OpensUndecided players

theorem settled_begin (hγ : s.OpensSettled) (hs : s.Settled) (players : List PlayerId)
    (seed : Option UInt64) : (s.begin players seed).2.Settled := by
  have hbegun := begun s players seed
  generalize (s.begin players seed).1 = answer at hbegun
  generalize (s.begin players seed).2 = s' at hbegun ⊢
  cases answer with
  | ok events =>
      obtain ⟨⟨state, hunderway, -⟩, -⟩ :=
        underway_of_begun hγ.orderly (hγ.undecided players) hbegun
      exact settled_of_underway hunderway
  | error failure =>
      cases hbegun with
      | unseated _ => exact hs
      | failed _ hprepare =>
          -- the rules of a game that could not begin judge the state before as they did
          have hverdict := hγ.sameVerdict s.rules players ⟨.ofSeed (s.seedFor players seed), {}⟩
          rw [hprepare] at hverdict
          refine ⟨rfl, fun {state} hstate => ?_⟩
          have hunderway := hs.underway hstate
          refine ⟨rfl, hstate, hunderway.started, fun hover => hunderway.decided ?_⟩
          rw [← hverdict.isOver state]
          exact hover

/-- Only a restore brings a state that is decided and not in the last phase. -/
theorem settled_perform (hγ : s.OpensSettled) (hι : Discreet ι) (hs : s.Settled) {c : Call}
    (hc : c.isRestore = false) : (s.perform c).2.Settled := by
  have hplay : c.isPlay = true → (s.perform c).2.Settled := by
    intro hc
    cases hstate : s.state with
    | none =>
        refine ⟨events_perform hs.queue c, fun hsome => ?_⟩
        rw [state_perform_of_none hstate hc] at hsome
        cases hsome
    | some state =>
        obtain ⟨state', hunderway⟩ := underway_perform hγ.orderly hι (hs.underway hstate) hc
        exact settled_of_underway hunderway
  cases c with
  | start players seed =>
      rcases start_cases s players seed with ⟨failure, hrefused⟩ | ⟨-, -, hbegin⟩
      · simpa only [perform, hrefused] using hs
      · simpa only [perform, hbegin] using settled_begin hγ hs players seed
  | reset =>
      rcases reset_cases s with ⟨failure, hrefused⟩ | ⟨-, hbegin⟩
      · simpa only [perform, hrefused] using hs
      · simpa only [perform, hbegin] using settled_begin hγ hs s.players (some s.seed)
  | act player action => exact hplay rfl
  | tick seconds => exact hplay rfl
  | dispose => exact hplay rfl
  | _ => cases hc

omit [Injector ι] in
theorem phase_of_settled (hs : s.Settled) (hover : s.isOver = true) : s.phase = .ended := by
  unfold isOver at hover
  cases hstate : s.state with
  | none => simp [hstate] at hover
  | some state =>
      rw [phase_of_holds hstate]
      simp only [hstate, Bool.or_eq_true] at hover
      rcases hover with hended | hdecided
      · simpa [GameState.isEnded] using hended
      · exact (hs.underway hstate).decided hdecided

end Play.Session

namespace HostedGame

/-- Whether the game is over, by its phase or by its rules. -/
def isOver (g : HostedGame BuiltIn) : Bool :=
  g.ask fun s => s.isOver

def players (g : HostedGame BuiltIn) : List PlayerId :=
  g.ask fun s => s.players

/-- Every action of a player is refused and leaves the state as it was, and nothing is listed for
him. -/
def Refuses (g : HostedGame BuiltIn) (player : PlayerId) : Prop :=
  g.ask fun s => s.Refuses player

/-- Whether a game takes actions of a player by its rules: clicker from whose turn it is, a duel
from everybody as long as its engine is held. -/
def Listens : HostedGame BuiltIn → PlayerId → Prop
  | .clicker s, player => ∃ state ∈ s.state, Clicker.whoseTurn? state = some player
  | .duel s, _ => s.rules.isDisposed = false

theorem clicker_settled {options : GameConfig} {rules : Clicker}
    (hrules : Clicker.ofConfig options = .ok rules) {id : String} {config : GameConfig}
    {injectors : List BuiltIn} {calls : List Call} (hcalls : ∀ c ∈ calls, c.isRestore = false) :
    2 ≤ ((Session.create id rules config injectors).after calls).rules.target ∧
      ((Session.create id rules config injectors).after calls).Settled := by
  have hstep : ∀ (s : Session Clicker BuiltIn) (c : Call), c.isRestore = false →
      2 ≤ s.rules.target ∧ s.Settled →
        2 ≤ (s.perform c).2.rules.target ∧ (s.perform c).2.Settled := by
    intro s c hc ⟨htarget, hs⟩
    have hopens : s.OpensSettled :=
      ⟨orderly_clicker, fun _ _ _ => .refl _, Clicker.opensUndecided htarget⟩
    exact ⟨Session.rules_perform (Clicker.keptByRules (2 ≤ ·.target)) htarget c,
      Session.settled_perform hopens discreet hs hc⟩
  exact Run.after_invariant _ _ hstep hcalls
    ⟨Clicker.two_le_target_of_ofConfig hrules, rfl, nofun⟩

theorem duel_settled (rules : Duel.Game) {id : String} {config : GameConfig}
    {injectors : List BuiltIn} {calls : List Call} (hcalls : ∀ c ∈ calls, c.isRestore = false) :
    ((Session.create id rules config injectors).after calls).Settled := by
  have hstep : ∀ (s : Session Duel.Game BuiltIn) (c : Call), c.isRestore = false →
      s.Settled → (s.perform c).2.Settled := by
    intro s c hc hs
    have hopens : s.OpensSettled :=
      ⟨orderly_adapter, fun _ _ _ => sameVerdict_adapter _ _, Duel.opensUndecided s⟩
    exact Session.settled_perform hopens discreet hs hc
  exact Run.after_invariant _ _ hstep hcalls ⟨rfl, nofun⟩

/-- A game that was never restored is over only in the last phase. -/
theorem phase_of_unrestored {catalog : Catalog BuiltIn} {id : String} {config : GameConfig}
    {g : HostedGame BuiltIn} (hcreate : Host.create catalog id config = .ok g) {calls : List Call}
    (hcalls : ∀ c ∈ calls, c.isRestore = false) (hover : (g.after calls).isOver = true) :
    (g.after calls).phase = .ended := by
  cases g with
  | clicker s =>
      obtain ⟨rules, hrules, hs⟩ := clicker_of_create hcreate
      obtain ⟨injectors, -, rfl⟩ := create_of_ofConfig hs
      rw [after_clicker] at hover ⊢
      exact Session.phase_of_settled (clicker_settled hrules hcalls).2 hover
  | duel s =>
      obtain ⟨rules, hrules, hs⟩ := duel_of_create hcreate
      obtain ⟨injectors, -, rfl⟩ := create_of_ofConfig hs
      rw [after_duel] at hover ⊢
      exact Session.phase_of_settled (duel_settled rules hcalls) hover

/-- **Only the last phase refuses.** In a game without injectors that is over, whatever was called
on it, a player who takes part is refused everything exactly if the game is in its last phase, or is
not one that listens to him. Every accepted action counts as a turn, and every refused one leaves
the state as it was. Where the game listens, is not in its last phase and was not given up, some
action is accepted exactly if one more turn can be counted: a build that checks its sums stops at the others.
A game that was never restored is in its last phase. -/
theorem over_games_refuse_once_ended {g : HostedGame BuiltIn} (hg : g.Reached)
    (hbare : g.injectors = []) (hover : g.isOver = true) {player : PlayerId}
    (hseated : player ∈ g.players) :
    (g.Refuses player ↔ g.phase = .ended ∨ ¬ g.Listens player) ∧
      (∀ action result g', g.act? player action = some (result, g') →
        (result.success = true → g'.turn.toNat = g.turn.toNat + 1) ∧
        (result.success = false → g'.state? = g.state?)) ∧
      (g.disposed = false → g.phase ≠ .ended → g.Listens player → (g.turn.toNat + 1 < UInt64.size ↔
        ∃ action result g', g.act? player action = some (result, g') ∧ result.success = true)) ∧
      ∀ {catalog id config g₀ calls}, Host.create catalog id config = .ok g₀ → g = g₀.after calls →
        (∀ c ∈ calls, c.isRestore = false) → g.phase = .ended := by
  have hunrestored : ∀ {catalog id config g₀ calls}, Host.create catalog id config = .ok g₀ →
      g = g₀.after calls → (∀ c ∈ calls, c.isRestore = false) → g.phase = .ended := by
    rintro catalog id config g₀ calls hcreate rfl hcalls
    exact phase_of_unrestored hcreate hcalls hover
  cases g with
  | clicker s =>
      have hlistens : ∀ {state}, s.state = some state → state.phase ≠ .ended →
          (GameRules.validActions s.rules state player = [] ↔
            ¬ ∃ state ∈ s.state, Clicker.whoseTurn? state = some player) := by
        intro state hstate hphase
        rw [s.rules.validActions_eq_nil_iff hphase]
        simp [hstate]
      obtain ⟨hrefuses, hanswers, haccepts⟩ := Session.refuses_once_ended hbare listsAllowed_clicker
        (fun _ => foretells_clicker s.rules) hover hseated hlistens
      refine ⟨hrefuses, fun action result g' hgoes => ?_, fun henabled hphase hopen => ?_, hunrestored⟩
      · obtain ⟨_, s', hs', hsame⟩ := act?_clicker.mp hgoes
        cases hsame
        exact hanswers action result s' hs'
      · simpa [act?_clicker, turn, ask] using haccepts henabled hphase hopen
  | duel s =>
      have hlistens : ∀ {state}, s.state = some state → state.phase ≠ .ended →
          (GameRules.validActions s.rules state player = [] ↔ ¬ s.rules.isDisposed = false) := by
        intro state _ _
        rw [s.rules.validActions_eq_nil_iff state player, Bool.not_eq_false]
      obtain ⟨hrefuses, hanswers, haccepts⟩ := Session.refuses_once_ended hbare listsAllowed_adapter
        (fun henabled => foretells_adapter (isDisposed_of_reached hg henabled)) hover hseated
        hlistens
      refine ⟨hrefuses, fun action result g' hgoes => ?_, fun henabled hphase hopen => ?_, hunrestored⟩
      · obtain ⟨_, s', hs', hsame⟩ := act?_duel.mp hgoes
        cases hsame
        exact hanswers action result s' hs'
      · simpa [act?_duel, turn, ask] using haccepts henabled hphase hopen

/-- A game of clicker with a score of fifty, taken up while it is said to be played: an action is accepted,
unless no more turns can be counted. -/
theorem over_games_refuse_once_ended_of_restored :
    let fresh : HostedGame BuiltIn := .clicker (.create "g" (Clicker.ofTarget 50) {} [])
    let decided (turn : UInt64) : GameState :=
      ⟨turn, .playing, [("order", .strs ["a"]), ("scores", .obj [("a", .int 50)])]⟩
    let g (turn : UInt64) := fresh.after [.start ["a"] (some 7), .restoreState ["a"] (decided turn)]
    (g 0).isOver = true ∧ ¬ (g 0).Refuses "a" ∧
      (∃ action result g', (g 0).act? "a" action = some (result, g') ∧ result.success = true) ∧
      ¬ ∃ action result g', (g 18446744073709551615).act? "a" action = some (result, g') ∧
        result.success = true := by
  intro fresh decided g
  have hrules : Clicker.ofConfig {} = .ok (Clicker.ofTarget 50) := rfl
  have hg : ∀ turn, (g turn).Reached := fun turn => Reached.after (.clicker hrules _ _ _) _
  have hover : (g 0).isOver = true := by decide +kernel
  have hphase : (g 0).phase ≠ .ended := by decide +kernel
  have hlistens : (g 0).Listens "a" := ⟨decided 0, rfl, by decide +kernel⟩
  obtain ⟨hrefuses, -, haccepts, -⟩ :=
    over_games_refuse_once_ended (hg 0) rfl hover (show "a" ∈ (g 0).players by decide +kernel)
  obtain ⟨-, -, hstops, -⟩ := over_games_refuse_once_ended (hg 18446744073709551615) rfl
    (by decide +kernel) (show "a" ∈ (g 18446744073709551615).players by decide +kernel)
  refine ⟨hover, ?_, (haccepts rfl hphase hlistens).mp (by decide +kernel), ?_⟩
  · rw [hrefuses]
    simp [hphase, hlistens]
  · rw [← hstops rfl (by decide +kernel) ⟨decided _, rfl, by decide +kernel⟩]
    decide +kernel

end HostedGame

end Arcade
