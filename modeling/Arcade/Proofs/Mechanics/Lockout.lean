import Arcade.Proofs.Host.Lifecycle
import Arcade.Proofs.Mechanics.Questions
/-!
# Who is locked out by a challenge

In a game of clicker whose only injector is a challenge, the player whose turn it is can always take
the game a turn further, unless a question holds back an action of his that the rules do not allow.
Every right answer then releases that action, the rules forbid it, and the question stays; whatever
else he submits is held back. All others wait for their turn, so the state never changes again.
`locked_out_iff` says that this is the only way in which a game comes to a stop, and that it does. A
player who is alone can always bring it about (`stopped_after_passes`).

An action goes by `act_cases`: either the state stays as it is and no question is forgotten, or a turn
was taken, and then by the action that was held back, if there was one. The way out of a question that
can be answered is `turn_lt_of_answer`.
-/

namespace Arcade

open Play Mechanics

/-! ### The seats and the rules -/

namespace Clicker

variable {state : GameState} {player : PlayerId} {action : Action} {multiplier : Float}

theorem checkTurn_of_check (h : check state player action = .ok ()) :
    whoseTurn? state = some player := by
  unfold check checkTurn at h
  split at h
  · assumption
  · cases h

theorem order_congr {data data' : Data} (h : Dict.get? data' "order" = Dict.get? data "order") :
    order data' = order data := by
  unfold order
  rw [h]

theorem order_mergeMultiplier (data : Data) (multiplier : Float) :
    order (Session.mergeMultiplier data multiplier) = order data :=
  order_congr (Session.get?_mergeMultiplier data multiplier (by decide))

/-- The verdict on a state depends on the scores alone. -/
theorem isOver_mergeMultiplier (rules : Clicker) (state : GameState) (turn : UInt64)
    (multiplier : Float) :
    isOver rules ⟨turn, state.phase, Session.mergeMultiplier state.data multiplier⟩
      = isOver rules state := by
  have hscores : Dict.get? (Session.mergeMultiplier state.data multiplier) "scores"
      = Dict.get? state.data "scores" := Session.get?_mergeMultiplier _ _ (by decide)
  unfold isOver scoreTable
  rw [hscores]

/-- No action changes the seats. -/
theorem order_of_apply {data : Data} {events : List Event}
    (h : apply state player action multiplier = .ok (data, events)) :
    order data = order state.data := by
  obtain ⟨-, ⟨-, rfl, -⟩ | ⟨-, count, -, hclick⟩⟩ := apply_cases h
  · rfl
  · obtain rfl := congrArg Prod.fst hclick
    exact order_congr (get?_click state.data player _ (by decide) (by decide))

/-- The seats of a fresh game are those of its players. -/
theorem order_openingData {s : Session Clicker BuiltIn} {players : List PlayerId}
    (lucky : List (String × Json)) {fragment : Data} {injectors : List BuiltIn}
    (h : Pipeline.prepare players s.injectors = (fragment, injectors)) :
    order (s.openingData (s.rules.freshData players lucky) fragment) = players := by
  have hfresh : Dict.get? (s.rules.freshData players lucky) "order" = some (.strs players) := by
    show Dict.get? (Dict.insertAll (Dict.insert (Dict.insert [] "scores" _) "order" _) _) "order" = _
    rw [Dict.get?_insertAll_of_forall_ne _ (by simp), Dict.get?_insert_self]
  have horder := get?_openingData (s.rules.freshData players lucky) h
    (show "order" ≠ configKey by decide) (show "order" ≠ Energy.key by decide)
  have hread : Json.Decode.list Json.Decode.str (.ofJson (.strs players)) = .ok players :=
    Json.Decode.list_ofJson Json.Decode.str_ofJson players
  rw [order, horder, hfresh]
  simp only [hread]
  rfl

end Clicker

/-! ### Games with a challenge only -/

namespace Play.Session

variable {s : Session Clicker BuiltIn} {c : Challenge} {state : GameState} {player : PlayerId}
  {action : Action}

/-- A game of clicker under way, with a challenge as its only injector. -/
structure Quizzed (s : Session Clicker BuiltIn) (c : Challenge) (state : GameState) : Prop where
  only : s.injectors = [.challenge c]
  holds : s.state = some state
  enabled : s.disposed = false
  seated : Clicker.order state.data = s.players
  answerable : c.Answerable

/-- The action of a player that waits for the answer to a question. -/
def Holds (s : Session Clicker BuiltIn) (player : PlayerId) (held : Action) : Prop :=
  ∃ c q, BuiltIn.challenge c ∈ s.injectors ∧ Dict.get? c.pending player = some q ∧ q.held = held

/-- Whether a player can take the game a turn further without the help of others. -/
def CanMove (s : Session Clicker BuiltIn) (player : PlayerId) : Prop :=
  ∃ actions : List Action, (s.after (actions.map (.act player))).turn = s.turn + 1

/-- The verdict of a challenge that is the only injector. -/
theorem before_only (c : Challenge) (player : PlayerId) (action : Action) (data : Data) :
    (((c.before player action).1.proceed = false ∧ ∃ told,
        Pipeline.before player action data [BuiltIn.challenge c]
          = (.vetoed "challenge" told, [.challenge (c.before player action).2])) ∨
      ((c.before player action).1.proceed = true ∧ ∃ multiplier told,
        Pipeline.before player action data [BuiltIn.challenge c]
          = (.proceed ((c.before player action).1.action.getD action) multiplier told,
            [.challenge (c.before player action).2]))) := by
  cases hp : (c.before player action).1.proceed with
  | false => exact Or.inl ⟨rfl, _, Pipeline.beforeFrom_cons_of_veto hp⟩
  | true => exact Or.inr ⟨rfl, _, _, Pipeline.beforeFrom_cons_of_proceed hp⟩

/-- A pass. -/
def pass : Action := { kind := "pass" }

/-- The rules' verdict on an action, as a session asks for it. -/
theorem check_of_act_ok {rules rules' : Clicker} {multiplier : Float} {stage stage' : Stage}
    {replacement : Option Data}
    (h : GameRules.act rules state player action multiplier stage
      = ⟨.ok replacement, rules', stage'⟩) :
    Clicker.check state player action = .ok () ∧
      ∃ data events, Clicker.apply state player action multiplier = .ok (data, events) ∧
        replacement = some data := by
  obtain ⟨data, events, happly, hreplaced⟩ := Clicker.apply_of_act h
  rw [← Clicker.map_apply state player action multiplier, happly]
  exact ⟨rfl, data, events, rfl, hreplaced⟩

theorem check_of_act_error {rules rules' : Clicker} {multiplier : Float} {stage stage' : Stage}
    {refusal : Refusal}
    (h : GameRules.act rules state player action multiplier stage = ⟨.error refusal, rules', stage'⟩) :
    Clicker.check state player action ≠ .ok () := by
  rw [← Clicker.map_apply state player action multiplier]
  simp only [GameRules.act] at h
  cases happly : Clicker.apply state player action multiplier with
  | error fault => exact fun hok => nomatch hok
  | ok applied =>
      rw [happly] at h
      cases h

/-- An action either leaves the state as it is and forgets no question, or takes the game a turn
further: by an action that the rules allow, which is the one held back, if there was one. -/
theorem act_cases (h : s.Quizzed c state) (player : PlayerId) (action : Action) :
    (∃ c', (s.handleAction player action).2.Quizzed c' state ∧
        ∀ p q, Dict.get? c.pending p = some q → Dict.get? c'.pending p = some q) ∨
      ∃ c' state' forwarded, (s.handleAction player action).2.Quizzed c' state' ∧
        state'.turn = state.turn + 1 ∧ Clicker.check state player forwarded = .ok () ∧
        ∀ q, Dict.get? c.pending player = some q → forwarded = q.held := by
  have hbefore := before_only c player action state.data
  have hkept : ∀ p q, Dict.get? c.pending p = some q →
      Dict.get? (c.before player action).2.pending p = some q := fun _ _ => Challenge.pending_before
  have hanswerable : (c.before player action).2.Answerable :=
    Challenge.answerable_before h.answerable
  have hhandled := handled s player action
  generalize (s.handleAction player action).1 = result at hhandled
  generalize (s.handleAction player action).2 = s' at hhandled ⊢
  cases hhandled with
  | refused _ => exact Or.inl ⟨c, ⟨h.only, h.holds, h.enabled, h.seated, h.answerable⟩,
      fun _ _ hq => hq⟩
  | vetoed _ hstate hvetoed =>
      obtain rfl := Option.some.inj (h.holds.symm.trans hstate)
      rw [h.only] at hvetoed
      rcases hbefore with ⟨-, told, hasked⟩ | ⟨-, multiplier, told, hasked⟩
      · rw [hasked] at hvetoed
        cases hvetoed
        exact Or.inl ⟨_, ⟨rfl, h.holds, h.enabled, h.seated, hanswerable⟩, hkept⟩
      · rw [hasked] at hvetoed
        cases hvetoed
  | rejected _ hstate hproceed hact =>
      obtain rfl := Option.some.inj (h.holds.symm.trans hstate)
      rw [h.only] at hproceed
      rcases hbefore with ⟨-, told, hasked⟩ | ⟨-, multiplier, told, hasked⟩
      · rw [hasked] at hproceed
        cases hproceed
      · -- the rules forbid what was released, and so the question is never taken away
        rw [hasked] at hproceed
        cases hproceed
        exact Or.inl ⟨_, ⟨rfl, h.holds, h.enabled, h.seated, hanswerable⟩, hkept⟩
  | @processed _ forwarded multiplier challenge injectors replacement rules stage outcome injectors'
      state' queue ended _ hstate hproceed hact hafter hsettle =>
      obtain rfl := Option.some.inj (h.holds.symm.trans hstate)
      rw [h.only] at hproceed
      rcases hbefore with ⟨-, told, hasked⟩ | ⟨hpassed, multiplier', told, hasked⟩
      · rw [hasked] at hproceed
        cases hproceed
      · rw [hasked] at hproceed
        cases hproceed
        obtain ⟨hcheck, data, events, happly, rfl⟩ := check_of_act_ok hact
        cases hafter
        have hturn : state'.turn = state.turn + 1 := by
          rcases settle_cases hsettle with ⟨-, rfl, -⟩ | ⟨-, rfl, -⟩ <;> rfl
        have horder : Clicker.order state'.data = s.players := by
          rw [data_of_settle hsettle, Clicker.order_mergeMultiplier, ← h.seated]
          exact Clicker.order_of_apply happly
        refine Or.inr ⟨_, state', _, ⟨rfl, rfl, h.enabled, horder,
          Challenge.answerable_after hanswerable⟩, hturn, hcheck, fun q hq => ?_⟩
        rw [Challenge.held_of_proceed hq hpassed]
        rfl

/-! ### A way to take a turn -/

/-- Whose turn it is takes part. -/
theorem refusal?_of_turn (h : s.Quizzed c state) (hphase : state.phase ≠ .ended)
    (hturn : Clicker.whoseTurn? state = some player) : s.refusal? player = none := by
  have hseat : player ∈ s.players := by
    rw [← h.seated]
    exact List.mem_of_getElem? hturn
  have hended : state.isEnded = false := by simpa [GameState.isEnded] using hphase
  simp [refusal?, h.enabled, h.holds, isParticipant, hseat, hended]

/-- An action that gets past the challenge and is allowed takes a turn. -/
theorem turn_of_proceed (h : s.Quizzed c state) (hphase : state.phase ≠ .ended)
    (hturn : Clicker.whoseTurn? state = some player)
    (hproceed : (c.before player action).1.proceed = true)
    (hcheck : Clicker.check state player ((c.before player action).1.action.getD action) = .ok ()) :
    (s.handleAction player action).2.turn = s.turn + 1 := by
  have hrefusal := refusal?_of_turn h hphase hturn
  rcases before_only c player action state.data with ⟨hveto, -⟩ | ⟨-, multiplier, told, hasked⟩
  · rw [hproceed] at hveto
    cases hveto
  rw [← h.only] at hasked
  rw [turn_of_holds h.holds]
  have hhandled := handled s player action
  generalize (s.handleAction player action).1 = result at hhandled
  generalize (s.handleAction player action).2 = s' at hhandled ⊢
  cases hhandled with
  | refused hrefused =>
      rw [hrefusal] at hrefused
      cases hrefused
  | vetoed _ hstate hvetoed =>
      obtain rfl := Option.some.inj (h.holds.symm.trans hstate)
      rw [hasked] at hvetoed
      cases hvetoed
  | rejected _ hstate hpassed hact =>
      obtain rfl := Option.some.inj (h.holds.symm.trans hstate)
      rw [hasked] at hpassed
      cases hpassed
      exact absurd hcheck (check_of_act_error hact)
  | processed _ hstate _ _ _ hsettle =>
      obtain rfl := Option.some.inj (h.holds.symm.trans hstate)
      rw [turn_of_holds rfl]
      rcases settle_cases hsettle with ⟨-, rfl, -⟩ | ⟨-, rfl, -⟩ <;> rfl

/-- The right answer takes a turn, if the rules allow the action that the question holds back. -/
theorem turn_of_answer (h : s.Quizzed c state) (hphase : state.phase ≠ .ended)
    (hturn : Clicker.whoseTurn? state = some player) {q : Pending}
    (hq : Dict.get? c.pending player = some q)
    (hcheck : Clicker.check state player q.held = .ok ()) :
    (s.handleAction player (Challenge.rightAnswer q)).2.turn = s.turn + 1 := by
  have hproceed := Challenge.before_rightAnswer h.answerable hq
  refine turn_of_proceed h hphase hturn hproceed ?_
  rw [Challenge.held_of_proceed hq hproceed]
  exact hcheck

theorem check_pass (hturn : Clicker.whoseTurn? state = some player) :
    Clicker.check state player pass = .ok () := by
  simp [Clicker.check, Clicker.checkTurn, hturn, pass, bind, Except.bind]

/-- An action that the challenge holds back changes nothing but the challenge. -/
theorem handleAction_of_veto (h : s.Quizzed c state) (hphase : state.phase ≠ .ended)
    (hturn : Clicker.whoseTurn? state = some player)
    (hveto : (c.before player action).1.proceed = false) :
    (s.handleAction player action).2
      = { s with injectors := [.challenge (c.before player action).2], events := {} } := by
  have hrefusal := refusal?_of_turn h hphase hturn
  rcases before_only c player action state.data with ⟨-, told, hasked⟩ | ⟨hproceed, -⟩
  · rw [← h.only] at hasked
    simp only [handleAction, answerAction, hrefusal, h.holds, runAction, hasked]
  · rw [hveto] at hproceed
    cases hproceed

theorem quizzed_of_veto (h : s.Quizzed c state) (hphase : state.phase ≠ .ended)
    (hturn : Clicker.whoseTurn? state = some player)
    (hveto : (c.before player action).1.proceed = false) :
    (s.handleAction player action).2.Quizzed (c.before player action).2 state := by
  rw [handleAction_of_veto h hphase hturn hveto]
  exact ⟨rfl, h.holds, h.enabled, h.seated, Challenge.answerable_before h.answerable⟩

/-- Without a question before it, passing takes a turn, or answering the question that it raises. -/
theorem canMove_of_none (h : s.Quizzed c state) (hphase : state.phase ≠ .ended)
    (hturn : Clicker.whoseTurn? state = some player)
    (hnone : Dict.get? c.pending player = none) : s.CanMove player := by
  have hkind : pass.kind ≠ Challenge.answerKind := by decide
  by_cases hdue : (c.count player + 1) % c.options.every = 0
  · -- the pass itself is held back, and its release is allowed
    obtain ⟨hveto, q, hq, hheld⟩ := Challenge.before_of_due hkind hnone hdue
    have hasking := quizzed_of_veto h hphase hturn hveto
    have hanswer := turn_of_answer hasking hphase hturn hq (hheld ▸ check_pass hturn)
    rw [turn_of_holds hasking.holds, ← turn_of_holds h.holds] at hanswer
    exact ⟨[pass, Challenge.rightAnswer q], hanswer⟩
  · have hbefore := Challenge.before_of_undue hkind hnone hdue
    refine ⟨[pass], turn_of_proceed h hphase hturn ?_ ?_⟩
    · rw [hbefore]
      rfl
    · rw [hbefore]
      exact check_pass hturn

/-! ### A game at a stop -/

/-- A question holds back an action of the player whose turn it is, and the rules do not allow it. -/
def Stopped (s : Session Clicker BuiltIn) (state : GameState) (player : PlayerId) : Prop :=
  ∃ c q, s.Quizzed c state ∧ Clicker.whoseTurn? state = some player ∧
    Dict.get? c.pending player = some q ∧ Clicker.check state player q.held ≠ .ok ()

theorem stopped_act (h : s.Stopped state player) (other : PlayerId) (action : Action) :
    (s.handleAction other action).2.Stopped state player := by
  obtain ⟨c, q, hquizzed, hturn, hq, hcheck⟩ := h
  rcases act_cases hquizzed other action with ⟨c', hquizzed', hkept⟩ |
    ⟨c', state', forwarded, -, -, hallowed, hheld⟩
  · exact ⟨c', q, hquizzed', hturn, hkept player q hq, hcheck⟩
  · -- only the player himself could have taken the turn, and only by the action held back
    obtain rfl : other = player :=
      Option.some.inj ((Clicker.checkTurn_of_check hallowed).symm.trans hturn)
    rw [hheld q hq] at hallowed
    exact absurd hallowed hcheck

/-- Whoever submits whatever, the state stays. -/
theorem state_of_stopped (h : s.Stopped state player) (moves : List (PlayerId × Action)) :
    (s.after (moves.map fun m => .act m.1 m.2)).state = some state := by
  have hstopped : (s.after (moves.map fun m => .act m.1 m.2)).Stopped state player := by
    induction moves generalizing s with
    | nil => exact h
    | cons m rest ih => exact ih (stopped_act h m.1 m.2)
  obtain ⟨c, q, hquizzed, -⟩ := hstopped
  exact hquizzed.holds

theorem not_canMove_of_stopped (h : s.Stopped state player) : ¬ s.CanMove player := by
  have hholds : s.state = some state := state_of_stopped h []
  rintro ⟨actions, hnext⟩
  have hown : actions.map (Call.act player)
      = (actions.map fun a => (player, a)).map fun m => .act m.1 m.2 := by
    rw [List.map_map]
    rfl
  have hstate := state_of_stopped h (actions.map fun a => (player, a))
  rw [← hown] at hstate
  rw [turn_of_holds hstate, turn_of_holds hholds] at hnext
  exact absurd (UInt64.left_eq_add.mp hnext) (by decide)

/-! ### A player alone -/

/-- A player alone, in an undecided game, whom nothing is asked. -/
structure Alone (s : Session Clicker BuiltIn) (c : Challenge) (state : GameState)
    (player : PlayerId) : Prop extends s.Quizzed c state where
  seat : s.players = [player]
  playing : state.phase ≠ .ended
  undecided : Clicker.isOver s.rules state = false
  unasked : Dict.get? c.pending player = none

theorem Alone.turn (h : s.Alone c state player) : Clicker.whoseTurn? state = some player := by
  simp [Clicker.whoseTurn?, h.seated, h.seat, Nat.mod_one]

/-- A pass of a player alone that no question holds back changes the data by the multiplier only. -/
theorem handleAction_pass (h : s.Alone c state player)
    (hundue : (c.count player + 1) % c.options.every ≠ 0) :
    (s.handleAction player pass).2 =
      { s with
        injectors := [.challenge (Challenge.after { c with releasing := none } player)]
        state := some ⟨state.turn + 1, state.phase, mergeMultiplier state.data 1.0⟩
        events := {} } := by
  have hrefusal := refusal?_of_turn h.toQuizzed h.playing h.turn
  have hbefore : c.before player pass = (.pass, { c with releasing := none }) :=
    Challenge.before_of_undue (by decide) h.unasked hundue
  have hproceed : (c.before player pass).1.proceed = true := by
    rw [hbefore]
    rfl
  have hasked : Pipeline.before player pass state.data s.injectors
      = (.proceed pass 1.0 none, [.challenge { c with releasing := none }]) := by
    have hinjector : Injector.before (BuiltIn.challenge c) player pass state.data
        = (.pass, .challenge { c with releasing := none }) := by
      show (c.before player pass).map _ BuiltIn.challenge = _
      rw [hbefore]
      rfl
    rw [h.only]
    refine (Pipeline.beforeFrom_cons_of_proceed hproceed).trans ?_
    rw [hinjector]
    rfl
  have hact : ∀ stage, GameRules.act s.rules state player pass 1.0 stage
      = ⟨.ok (some state.data), s.rules,
          { stage with events := ⟨stage.events.pending ++ [⟨"passed", some player, .obj []⟩]⟩ }⟩ := by
    intro stage
    simp [GameRules.act, Clicker.apply, Clicker.checkTurn, h.turn, pass, bind, Except.bind]
  have hopen : GameRules.isOver s.rules
      ⟨state.turn + 1, state.phase, mergeMultiplier state.data 1.0⟩ = false :=
    (Clicker.isOver_mergeMultiplier _ _ _ _).trans h.undecided
  simp only [handleAction, answerAction, hrefusal, h.holds, runAction, hasked, hact, completeAction,
    Pipeline.after, Injector.after, Option.getD_some, settle, hopen, Bool.false_eq_true, if_false,
    EventQueue.drain, Prod.map, id_eq]

/-- A pass that no question holds back takes a turn, and is counted. -/
theorem alone_pass (h : s.Alone c state player)
    (hundue : (c.count player + 1) % c.options.every ≠ 0) :
    ∃ c' state', (s.handleAction player pass).2.Alone c' state' player ∧
      c'.options = c.options ∧ c'.count player = c.count player + 1 := by
  rw [handleAction_pass h hundue]
  refine ⟨Challenge.after { c with releasing := none } player,
    ⟨state.turn + 1, state.phase, mergeMultiplier state.data 1.0⟩, ?_, rfl, ?_⟩
  · refine ⟨⟨rfl, rfl, h.enabled, ?_, Challenge.answerable_after h.answerable⟩, h.seat, h.playing, ?_,
      h.unasked⟩
    · exact (Clicker.order_mergeMultiplier state.data 1.0).trans h.seated
    · exact (Clicker.isOver_mergeMultiplier _ _ _ _).trans h.undecided
  · simp [Challenge.after, Challenge.count, Dict.get?_insert_self]

theorem alone_passes (h : s.Alone c state player) (passes : Nat)
    (hundue : c.count player + passes < c.options.every) :
    ∃ c' state', (s.after (List.replicate passes (.act player pass))).Alone c' state'
        player ∧ c'.options = c.options ∧ c'.count player = c.count player + passes := by
  induction passes generalizing s c state with
  | zero => exact ⟨c, state, h, rfl, rfl⟩
  | succ n ih =>
      have hnow : (c.count player + 1) % c.options.every ≠ 0 := by
        rw [Nat.mod_eq_of_lt (by omega)]
        exact Nat.succ_ne_zero _
      obtain ⟨c₁, state₁, h₁, hoptions₁, hcount₁⟩ := alone_pass h hnow
      obtain ⟨c', state', h', hoptions', hcount'⟩ := ih h₁ (by rw [hoptions₁, hcount₁]; omega)
      exact ⟨c', state', h', hoptions'.trans hoptions₁, by rw [hcount', hcount₁]; omega⟩

/-- An action that is due for a question and that the rules never allow. -/
def Forbidden (action : Action) : Prop :=
  action.kind ≠ Challenge.answerKind ∧ action.kind ≠ "pass" ∧ action.kind ≠ "click"

theorem check_forbidden (h : Forbidden action) : Clicker.check state player action ≠ .ok () := by
  obtain ⟨-, hpass, hclick⟩ := h
  unfold Clicker.check
  cases Clicker.checkTurn state player with
  | error fault => exact fun hok => nomatch hok
  | ok _ => simp [hpass, hclick, bind, Except.bind]

/-- A player alone brings his game to a stop, whatever the options: he passes until an action of his
is due for a question, and then submits one that the rules never allow. -/
theorem stopped_after_passes (h : s.Alone c state player) (hcount : c.count player = 0)
    (hevery : 0 < c.options.every) (hforbidden : Forbidden action) :
    ∃ s' state', s.after (List.replicate (c.options.every - 1) (.act player pass)
        ++ [.act player action]) = s' ∧ s'.Stopped state' player ∧ s'.isOver = false := by
  obtain ⟨c', state', h', hoptions, hcount'⟩ :=
    alone_passes h (c.options.every - 1) (by omega)
  have hdue : (c'.count player + 1) % c'.options.every = 0 := by
    rw [hcount', hoptions, hcount, show 0 + (c.options.every - 1) + 1 = c.options.every by omega,
      Nat.mod_self]
  obtain ⟨hveto, q, hq, rfl⟩ := Challenge.before_of_due hforbidden.1 h'.unasked hdue
  have hlast := handleAction_of_veto h'.toQuizzed h'.playing h'.turn hveto
  refine ⟨_, state', by rw [after, Run.after_append]; rfl,
    ⟨_, q, quizzed_of_veto h'.toQuizzed h'.playing h'.turn hveto, h'.turn, hq,
      check_forbidden hforbidden⟩, ?_⟩
  have hended : state'.isEnded = false := by simpa [GameState.isEnded] using h'.playing
  rw [hlast]
  simp only [isOver, h'.holds, hended, Bool.false_or]
  exact h'.undecided

/-! ### From the start -/

/-- The injectors of a configuration that asks for one challenge. -/
theorem challenge_of_ofConfig {id : String} {rules : Clicker} {config : GameConfig} {options : Json}
    (honly : config.injectors = [⟨"challenge", options⟩])
    (h : Session.ofConfig BuiltIn.catalog id rules config = .ok s) :
    ∃ c, s.injectors = [.challenge c] := by
  unfold Session.ofConfig at h
  simp only [honly, Catalog.buildAll, Catalog.build, BuiltIn.catalog, Dict.get?, if_true] at h
  cases hoptions : Challenge.ofOptions options with
  | error fault =>
      rw [hoptions] at h
      cases h
  | ok c =>
      rw [hoptions] at h
      cases h
      exact ⟨c, rfl⟩

theorem quizzed_of_start {s' : Session Clicker BuiltIn} (honly : s.injectors = [.challenge c])
    {players : List PlayerId} {seed : Option UInt64} {events : List Event}
    (hstart : s.start players seed = (.ok events, s')) :
    s'.players = players ∧ ∃ state, s'.Quizzed (c.fresh players) state := by
  have henabled : s.disposed = false := by
    rcases start_cases s players seed with ⟨failure, hrefused⟩ | ⟨hdisposed, -⟩
    · rw [hrefused] at hstart
      cases hstart
    · exact hdisposed
  cases begun_of_start hstart with
  | @begun data fragment rules stage injectors hcheck hprepare hinjectors =>
      obtain rfl : s.rules.freshData players
          (s.rules.drawLucky players ⟨.ofSeed (s.seedFor players seed), {}⟩).1 = data :=
        Except.ok.inj (congrArg Ran.answer hprepare)
      have horder := Clicker.order_openingData
        (s.rules.drawLucky players ⟨.ofSeed (s.seedFor players seed), {}⟩).1 hinjectors
      rw [honly] at hinjectors
      obtain rfl : [BuiltIn.challenge (c.fresh players)] = injectors := congrArg Prod.snd hinjectors
      exact ⟨rfl, _, rfl, rfl, henabled, horder, fun _ _ hq => nomatch hq⟩

/-- A player who starts a game alone is asked nothing yet. -/
theorem alone_of_start {s' : Session Clicker BuiltIn} (honly : s.injectors = [.challenge c])
    (htarget : 2 ≤ s.rules.target) {seed : Option UInt64} {events : List Event}
    (hstart : s.start [player] seed = (.ok events, s')) :
    ∃ state, s'.Alone (c.fresh [player]) state player := by
  obtain ⟨hseat, state, hquizzed⟩ := quizzed_of_start honly hstart
  obtain ⟨⟨state', hunderway, hplaying⟩, -⟩ :=
    underway_of_start orderly_clicker (Clicker.opensUndecided htarget [player]) hstart
  obtain rfl : state = state' := Option.some.inj (hquizzed.holds.symm.trans hunderway.holds)
  have hphase : state.phase ≠ .ended := by
    rw [hplaying]
    decide
  have hundecided : Clicker.isOver s'.rules state = false :=
    Bool.eq_false_iff.mpr fun hover => hphase (hunderway.decided hover)
  exact ⟨state, hquizzed, hseat, hphase, hundecided, rfl⟩

theorem quizzed_after (h : s.Quizzed c state) (moves : List (PlayerId × Action)) :
    ∃ c' state', (s.after (moves.map fun m => .act m.1 m.2)).Quizzed c' state' := by
  induction moves generalizing s c state with
  | nil => exact ⟨c, state, h⟩
  | cons m rest ih =>
      rcases act_cases h m.1 m.2 with ⟨c', h', -⟩ | ⟨c', state', -, h', -⟩
      · exact ih h'
      · exact ih h'

/-- The rules' verdict on an action, as whoever's turn it is may ask for it. -/
theorem validate_iff_check (h : s.Quizzed c state) (hphase : state.phase ≠ .ended)
    (hturn : Clicker.whoseTurn? state = some player) :
    s.validate player action = .ok () ↔ Clicker.check state player action = .ok () := by
  have hseat : player ∈ s.players := by
    rw [← h.seated]
    exact List.mem_of_getElem? hturn
  have hended : state.isEnded = false := by simpa [GameState.isEnded] using hphase
  have hvalidate : s.validate player action
      = (Clicker.check state player action).mapError fun e => .byRules e.message := by
    simp [validate, h.holds, isParticipant, hseat, hended, GameRules.validate]
  rw [hvalidate]
  cases Clicker.check state player action with
  | error fault => constructor <;> intro hok <;> cases hok
  | ok _ => exact ⟨fun _ => rfl, fun _ => rfl⟩

/-- **Who is locked out.** In a game of clicker whose only injector is a challenge, and that is not
over, the player whose turn it is can take the game further by himself exactly if the action that a
question holds back for him, if there is one, is allowed. If it is not, no actions of any players ever
change the state again. -/
theorem locked_out_iff {config : GameConfig} {options : Json} {id : String}
    {s₀ s₁ : Session Clicker BuiltIn} (honly : config.injectors = [⟨"challenge", options⟩])
    (hcreate : Host.create BuiltIn.catalog id config = .ok (.clicker s₀))
    {players : List PlayerId} {seed : Option UInt64} {events : List Event}
    (hstart : s₀.start players seed = (.ok events, s₁)) {moves : List (PlayerId × Action)}
    {s : Session Clicker BuiltIn} (hs : s = s₁.after (moves.map fun m => .act m.1 m.2))
    (hopen : s.isOver = false) (hholds : s.state = some state)
    (hturn : Clicker.whoseTurn? state = some player) :
    (s.CanMove player ↔ ∀ held, s.Holds player held → s.validate player held = .ok ()) ∧
      (¬ s.CanMove player → ∀ later : List (PlayerId × Action),
        (s.after (later.map fun m => .act m.1 m.2)).state = s.state) := by
  obtain ⟨rules, -, hconfig⟩ := HostedGame.clicker_of_create hcreate
  obtain ⟨c₀, hc₀⟩ := challenge_of_ofConfig honly hconfig
  obtain ⟨-, state₁, hquizzed₁⟩ := quizzed_of_start hc₀ hstart
  obtain ⟨c, state', hquizzed⟩ := quizzed_after hquizzed₁ moves
  rw [← hs] at hquizzed
  obtain rfl : state = state' := Option.some.inj (hholds.symm.trans hquizzed.holds)
  have hphase : state.phase ≠ .ended := by
    intro hended
    simp [isOver, hholds, GameState.isEnded, hended] at hopen
  have hallowed : ∀ held, s.validate player held = .ok () ↔ Clicker.check state player held = .ok () :=
    fun held => validate_iff_check hquizzed hphase hturn
  -- what is held back for others does not matter, for it is not their turn
  cases hq : Dict.get? c.pending player with
  | none =>
      have hmove := canMove_of_none hquizzed hphase hturn hq
      refine ⟨⟨fun _ held hheld => ?_, fun _ => hmove⟩, fun hstuck => absurd hmove hstuck⟩
      obtain ⟨c', q, hmem, hq', -⟩ := hheld
      rw [hquizzed.only] at hmem
      obtain rfl : c' = c := BuiltIn.challenge.inj (List.mem_singleton.mp hmem)
      rw [hq] at hq'
      cases hq'
  | some q =>
      by_cases hcheck : Clicker.check state player q.held = .ok ()
      · have hmove : s.CanMove player :=
          ⟨[Challenge.rightAnswer q], turn_of_answer hquizzed hphase hturn hq hcheck⟩
        refine ⟨⟨fun _ held hheld => ?_, fun _ => hmove⟩, fun hstuck => absurd hmove hstuck⟩
        obtain ⟨c', q', hmem, hq', rfl⟩ := hheld
        rw [hquizzed.only] at hmem
        obtain rfl : c' = c := BuiltIn.challenge.inj (List.mem_singleton.mp hmem)
        obtain rfl := Option.some.inj (hq.symm.trans hq')
        exact (hallowed q.held).mpr hcheck
      · have hstopped : s.Stopped state player := ⟨c, q, hquizzed, hturn, hq, hcheck⟩
        have hstuck := not_canMove_of_stopped hstopped
        have hstays := fun later => (state_of_stopped hstopped later).trans hholds.symm
        refine ⟨⟨fun hmove => absurd hmove hstuck, fun hheld => ?_⟩, fun _ => hstays⟩
        have hvalid := hheld q.held ⟨c, q, by rw [hquizzed.only]; exact List.mem_singleton_self _, hq,
          rfl⟩
        exact absurd ((hallowed q.held).mp hvalid) hcheck

/-- A player alone who passes four times, and then asks for a dance, is locked out. -/
theorem locked_out_iff_of_dance :
    let config : GameConfig := { gameType := "clicker", injectors := [⟨"challenge", .null⟩] }
    let s₀ : Session Clicker BuiltIn :=
      .create "g" (Clicker.ofTarget 50) config [.challenge { options := {} }]
    let moves : List (PlayerId × Action) :=
      List.replicate 4 ("p", pass) ++ [("p", { kind := "dance" })]
    let s := (s₀.start ["p"] (some 7)).2.after (moves.map fun m => .act m.1 m.2)
    s.isOver = false ∧ ¬ s.CanMove "p" ∧ ∀ later : List (PlayerId × Action),
      (s.after (later.map fun m => .act m.1 m.2)).state = s.state := by
  intro config s₀ moves s
  have hcreate : Host.create BuiltIn.catalog "g" config = .ok (.clicker s₀) := rfl
  have hstart : s₀.start ["p"] (some 7)
      = (.ok [Event.started ["p"]], (s₀.start ["p"] (some 7)).2) := rfl
  have hforbidden : Forbidden { kind := "dance" } := ⟨by decide, by decide, by decide⟩
  have htarget : 2 ≤ s₀.rules.target := by decide
  have honly : s₀.injectors = [.challenge { options := {} }] := rfl
  obtain ⟨state₁, halone⟩ := alone_of_start honly htarget hstart
  have hmoves : moves.map (fun m => Call.act m.1 m.2)
      = List.replicate 4 (.act "p" pass) ++ [.act "p" { kind := "dance" }] := rfl
  obtain ⟨s', state, hafter, hstopped, hopen⟩ :=
    stopped_after_passes halone rfl (by decide) hforbidden
  have hs : s' = (s₀.start ["p"] (some 7)).2.after (moves.map fun m => .act m.1 m.2) := by
    rw [hmoves]
    exact hafter.symm
  have hsame : s = s' := hs.symm
  clear_value s
  subst hsame
  have hstuck := not_canMove_of_stopped hstopped
  obtain ⟨c, q, hquizzed, hturn, -⟩ := hstopped
  obtain ⟨-, hstays⟩ := locked_out_iff rfl hcreate hstart hs hopen hquizzed.holds hturn
  exact ⟨hopen, hstuck, hstays hstuck⟩

end Play.Session

end Arcade
