import Arcade.Proofs.Clicker.Click
import Arcade.Proofs.Mechanics.Lockout
import Arcade.Proofs.Mechanics.Multiplier
import Arcade.Proofs.Play.Movers
/-!
# What a call does to a game of clicker

An action that is processed is a pass or some clicks of the player whose turn it is; whatever else is
called leaves the game as it is. `Played` lists these ways, each with all that decided on it, with what
the game holds afterwards and with the events that tell of it (`played`).

Events are read by what they tell of a player: the points of his clicks (`pointsTold`) and how often he
won the bonus (`bonusesTold`). Injectors and the end of a game add events that tell of neither.
-/

namespace Arcade

open Play Mechanics

namespace Clicker

/-! ### What events tell -/

/-- The points that an event tells of a player's clicks. -/
def pointsOf (player : PlayerId) (e : Event) : Int :=
  if e.kind = "clicked" ∧ e.player = some player then
    ((e.data.field? "points").bind Json.asInt64?).getD 0
  else 0

/-- The points that events tell of a player's clicks, all together. -/
def pointsTold (player : PlayerId) : List Event → Int
  | [] => 0
  | e :: rest => pointsOf player e + pointsTold player rest

/-- Whether an event tells that a player has won the bonus. -/
def isBonusOf (player : PlayerId) (e : Event) : Bool :=
  e.kind == "lucky_bonus" && e.player == some player

/-- How often events tell that a player has won the bonus. -/
def bonusesTold (player : PlayerId) (events : List Event) : Nat :=
  events.countP (isBonusOf player)

/-- Whether an event tells neither of clicks nor of a bonus. -/
def Aside (e : Event) : Prop := e.kind ≠ "clicked" ∧ e.kind ≠ "lucky_bonus"

variable {p player : PlayerId} {events first second : List Event}

theorem pointsTold_append :
    pointsTold p (first ++ second) = pointsTold p first + pointsTold p second := by
  induction first with
  | nil => exact (Int.zero_add _).symm
  | cons e rest ih => rw [List.cons_append, pointsTold, pointsTold, ih, Int.add_assoc]

theorem bonusesTold_append :
    bonusesTold p (first ++ second) = bonusesTold p first + bonusesTold p second :=
  List.countP_append

theorem pointsTold_of_aside (h : ∀ e ∈ events, Aside e) : pointsTold p events = 0 := by
  induction events with
  | nil => rfl
  | cons e rest ih =>
      obtain ⟨⟨hclicked, -⟩, hrest⟩ := List.forall_mem_cons.mp h
      have he : pointsOf p e = 0 := if_neg fun hboth => hclicked hboth.1
      rw [pointsTold, he, ih hrest]
      rfl

theorem bonusesTold_of_aside (h : ∀ e ∈ events, Aside e) : bonusesTold p events = 0 := by
  rw [bonusesTold, List.countP_eq_zero]
  intro e he hbonus
  rw [isBonusOf, Bool.and_eq_true, beq_iff_eq] at hbonus
  exact (h e he).2 hbonus.1

theorem aside_ended (winner : Option PlayerId) (scores : Dict Int) : Aside (.ended winner scores) :=
  ⟨show "game_ended" ≠ "clicked" by decide, show "game_ended" ≠ "lucky_bonus" by decide⟩

theorem aside_passed (player : PlayerId) : Aside ⟨"passed", some player, .obj []⟩ :=
  ⟨show "passed" ≠ "clicked" by decide, show "passed" ≠ "lucky_bonus" by decide⟩

theorem pointsOf_clickEvent (p player : PlayerId) (points total : Int64) :
    pointsOf p (clickEvent player points total) = if player = p then points.toInt else 0 := by
  have hfield : (clickEvent player points total).data.field? "points" = some (.int points.toInt) := rfl
  unfold pointsOf
  rw [hfield, Option.bind_some, asInt64?_int, Option.getD_some]
  simp [clickEvent]

theorem pointsOf_bonusEvent (p player : PlayerId) (n : Int) : pointsOf p (bonusEvent player n) = 0 :=
  if_neg fun h => absurd h.1 (show "lucky_bonus" ≠ "clicked" by decide)

theorem isBonusOf_clickEvent (p player : PlayerId) (points total : Int64) :
    isBonusOf p (clickEvent player points total) = false := by
  have hkind : ("clicked" == "lucky_bonus") = false := by decide
  rw [isBonusOf, clickEvent, hkind, Bool.false_and]

theorem isBonusOf_bonusEvent (p player : PlayerId) (n : Int) :
    isBonusOf p (bonusEvent player n) = (player == p) := by
  simp [isBonusOf, bonusEvent]

/-! ### The rules on the stage -/

theorem pending_of_act {rules rules' : Clicker} {state : GameState} {action : Action}
    {multiplier : Float} {stage stage' : Stage} {replacement : Option Data} {data : Data}
    (hact : GameRules.act rules state player action multiplier stage
      = ⟨.ok replacement, rules', stage'⟩)
    (happly : apply state player action multiplier = .ok (data, events)) :
    stage'.events.pending = stage.events.pending ++ events := by
  simp only [GameRules.act, happly] at hact
  cases hact
  rfl

theorem whoseTurn?_of_checkTurn {state : GameState} (h : checkTurn state player = .ok ()) :
    whoseTurn? state = some player := by
  unfold checkTurn at h
  split at h
  · assumption
  · cases h

end Clicker

/-- After an action built-in injectors tell of balances only. -/
theorem Mechanics.told_after {player : PlayerId} {action : Action}
    {injectors injectors' : List BuiltIn} {outcome outcome' : Outcome}
    (h : Pipeline.after player action injectors outcome = (outcome', injectors')) :
    ∃ more, outcome'.events = outcome.events ++ more ∧ ∀ e ∈ more, e.kind = "energy_changed" := by
  obtain ⟨rfl, -⟩ := Prod.mk.inj h
  clear h
  induction injectors generalizing outcome with
  | nil => exact ⟨[], (List.append_nil _).symm, fun e he => absurd he List.not_mem_nil⟩
  | cons i rest ih =>
      cases i with
      | challenge c => exact ih
      | energy energy =>
          have hfirst : ∃ e : Event, e.kind = "energy_changed" ∧
              (Injector.after (BuiltIn.energy energy) player action outcome).1.events
                = outcome.events ++ [e] := ⟨⟨"energy_changed", _, _⟩, rfl, rfl⟩
          obtain ⟨e, he, hevents⟩ := hfirst
          obtain ⟨more, hmore, hkind⟩ :=
            @ih (Injector.after (BuiltIn.energy energy) player action outcome).1
          rw [hevents, List.append_assoc] at hmore
          exact ⟨e :: more, hmore, List.forall_mem_cons.mpr ⟨he, hkind⟩⟩

namespace Play.Session

open Clicker

variable {γ ι : Type} [GameRules γ] [Injector ι]

/-- The data of the game, none before the start. -/
def data (s : Session γ ι) : Data :=
  match s.state with
  | some state => state.data
  | none => []

omit [GameRules γ] [Injector ι] in
theorem data_of_holds {s : Session γ ι} {state : GameState} (h : s.state = some state) :
    s.data = state.data := by
  unfold data
  rw [h]

omit [GameRules γ] [Injector ι] in
theorem data_of_state {s s' : Session γ ι} (h : s'.state = s.state) : s'.data = s.data := by
  unfold data
  rw [h]

omit [GameRules γ] [Injector ι] in
theorem turn_of_state {s s' : Session γ ι} (h : s'.state = s.state) : s'.turn = s.turn := by
  unfold turn
  rw [h]

/-- The points of the clicks that the rules apply when a player submits an action. -/
def clickPoints? (s : Session Clicker ι) (player : PlayerId) (action : Action) : Option Int64 :=
  match s.processed? player action, s.multiplier? player action with
  | some forwarded, some multiplier =>
    if forwarded.kind = "click" then
      (clickCount forwarded).toOption.map (Clicker.points · multiplier)
    else none
  | _, _ => none

/-- The points are those of clicks that the rules apply, with the factor of the injectors. -/
theorem clickPoints?_cases {s : Session Clicker ι} {player : PlayerId} {action : Action}
    {points : Int64} (h : s.clickPoints? player action = some points) :
    ∃ forwarded multiplier count, s.processed? player action = some forwarded ∧
      forwarded.kind = "click" ∧ clickCount forwarded = .ok count ∧
      s.multiplier? player action = some multiplier ∧ points = Clicker.points count multiplier := by
  unfold clickPoints? at h
  split at h
  next forwarded multiplier hprocessed hmultiplier =>
    split at h
    next hclick =>
      obtain ⟨count, hcount, rfl⟩ := Option.map_eq_some_iff.mp h
      cases hclicks : clickCount forwarded with
      | error fault =>
          rw [hclicks] at hcount
          cases hcount
      | ok n =>
          rw [hclicks] at hcount
          obtain rfl : n = count := Option.some.inj hcount
          exact ⟨forwarded, multiplier, n, hprocessed, hclick, hclicks, hmultiplier, rfl⟩
    · cases h
  · cases h

/-- What a call does to a game of clicker, with the events that it hands over and the session after
it. -/
inductive Played (s : Session Clicker BuiltIn) (c : Call) (events : List Event)
    (s' : Session Clicker BuiltIn) : Prop
  /-- nothing is processed -/
  | idle (hmover : s.mover? c = none) (hturn : s'.turn = s.turn) (hsame : SameGame s.data s'.data)
      (haside : ∀ e ∈ events, Aside e)
  /-- a pass leaves the game as it is, but for the turn -/
  | passed {player : PlayerId} {action forwarded : Action} (hc : c = .act player action)
      (hmover : s.mover? c = some player)
      (hseat : (order s.data)[s.turn.toNat % (order s.data).length]? = some player)
      (hprocessed : s.processed? player action = some forwarded) (hpass : forwarded.kind = "pass")
      (hturn : s'.turn = s.turn + 1) (hsame : SameGame s.data s'.data)
      (haside : ∀ e ∈ events, Aside e)
  /-- clicks make points -/
  | clicked {player : PlayerId} {action forwarded : Action} {points : Int64} {more : List Event}
      (hc : c = .act player action) (hmover : s.mover? c = some player)
      (hseat : (order s.data)[s.turn.toNat % (order s.data).length]? = some player)
      (hprocessed : s.processed? player action = some forwarded)
      (hclick : forwarded.kind = "click") (hpoints : s.clickPoints? player action = some points)
      (hturn : s'.turn = s.turn + 1) (hsame : SameGame (click s.data player points).1 s'.data)
      (hevents : events = (click s.data player points).2 ++ more) (haside : ∀ e ∈ more, Aside e)

variable {s : Session Clicker BuiltIn} {player : PlayerId} {action : Action}

theorem unsigned_of_multiplier? (h : ∀ i ∈ s.injectors, Rewarding i) {multiplier : Float}
    (hmultiplier : s.multiplier? player action = some multiplier) : Real.Unsigned multiplier := by
  unfold multiplier? at hmultiplier
  split at hmultiplier
  · cases hmultiplier
  · split at hmultiplier
    next hbefore =>
      obtain rfl := Option.some.inj hmultiplier
      exact unsigned_of_proceed h hbefore
    · cases hmultiplier

/-- The points of processed clicks are not negative. -/
theorem clickPoints?_nonneg (h : ∀ i ∈ s.injectors, Rewarding i) {points : Int64}
    (hpoints : s.clickPoints? player action = some points) : 0 ≤ points.toInt := by
  obtain ⟨forwarded, multiplier, count, -, -, hcount, hmultiplier, rfl⟩ := clickPoints?_cases hpoints
  exact points_nonneg hcount (unsigned_of_multiplier? h hmultiplier)

/-- What the rules write is kept by the injectors and the host, and told along with events of theirs. -/
theorem sameGame_of_processed {state' : GameState} {turn : UInt64} {phase : Phase}
    {forwarded : Action} {multiplier : Float} {injectors injectors' : List BuiltIn} {data : Data}
    {events : List Event} {challenge : Option Json} {outcome : Outcome} {rules : Clicker}
    {queue : EventQueue} {ended : Bool}
    (hafter : Pipeline.after player forwarded injectors ⟨data, events, challenge⟩
      = (outcome, injectors'))
    (hsettle : settle rules ⟨turn, phase, mergeMultiplier outcome.data multiplier⟩ ⟨outcome.events⟩
      = (state', queue, ended)) :
    SameGame data state'.data ∧
      ∃ more, queue.pending = events ++ more ∧ ∀ e ∈ more, Aside e := by
  constructor
  · intro key henergy hmultiplier
    rw [data_of_settle hsettle, get?_mergeMultiplier _ _ hmultiplier]
    exact Pipeline.get?_after (fun i _ => not_rewrites i henergy) hafter
  · obtain ⟨more, hmore, hkind⟩ := told_after hafter
    have haside : ∀ e ∈ more, Aside e := by
      intro e he
      rw [Aside, hkind e he]
      decide
    rcases settle_cases hsettle with ⟨-, -, hqueue⟩ | ⟨-, -, hqueue⟩
    · exact ⟨more, by rw [hqueue, hmore], haside⟩
    · refine ⟨more ++ [_], by rw [hqueue, hmore, List.append_assoc], ?_⟩
      intro e he
      rcases List.mem_append.mp he with he | he
      · exact haside e he
      · obtain rfl := List.mem_singleton.mp he
        exact aside_ended _ _

/-- Where the state is kept and nothing is told, nothing is processed. -/
theorem played_of_state {c : Call} {s' : Session Clicker BuiltIn} (hmover : s.mover? c = none)
    (hstate : s'.state = s.state) : s.Played c [] s' := by
  refine .idle hmover (turn_of_state hstate) ?_ fun e he => absurd he List.not_mem_nil
  rw [data_of_state hstate]
  exact .refl s.data

theorem played_act (hqueue : s.events = {}) (player : PlayerId) (action : Action) :
    s.Played (.act player action) (s.handleAction player action).1.events
      (s.handleAction player action).2 := by
  rcases hnext : s.handleAction player action with ⟨result, s'⟩
  dsimp only
  cases handled_of_eq hnext with
  | refused _ => exact played_of_state (mover?_of_state hnext rfl) rfl
  | vetoed _ _ _ => exact played_of_state (mover?_of_state hnext rfl) rfl
  | rejected _ _ _ _ => exact played_of_state (mover?_of_state hnext rfl) rfl
  | @processed state forwarded multiplier told injectors replacement rules stage outcome injectors'
      state' queue ended hrefusal hstate hbefore hact hafter hsettle =>
      obtain ⟨data, events, happly, rfl⟩ := Clicker.apply_of_act hact
      have hpending := Clicker.pending_of_act hact happly
      rw [hqueue] at hpending
      obtain ⟨hturn, hcases⟩ := Clicker.apply_cases happly
      have hmover := mover?_of_settle hnext hstate hsettle rfl
      have hseat := Clicker.whoseTurn?_of_checkTurn hturn
      rw [whoseTurn?, ← data_of_holds hstate, ← turn_of_holds hstate] at hseat
      have hprocessed : s.processed? player action = some forwarded :=
        processed?_of_proceed hrefusal hstate hbefore hact
      obtain ⟨hsame, more, hevents, haside⟩ := sameGame_of_processed hafter hsettle
      rw [hpending] at hevents
      have hturn' : state'.turn = s.turn + 1 := by
        rw [turn_of_settle hsettle, turn_of_holds hstate]
      -- the rules know two kinds of actions
      obtain ⟨hpass, rfl, rfl⟩ | ⟨hclick, count, hcount, hclicked⟩ := hcases
      · rw [Option.getD_some, ← data_of_holds hstate] at hsame
        refine .passed rfl hmover hseat hprocessed hpass hturn' hsame ?_
        show ∀ e ∈ queue.pending, Aside e
        rw [hevents]
        exact List.forall_mem_cons.mpr ⟨aside_passed player, haside⟩
      · have hpoints : s.clickPoints? player action = some (Clicker.points count multiplier) := by
          rw [clickPoints?, hprocessed, multiplier?_of_proceed hstate hbefore]
          simp only [hclick, hcount, if_true]
          rfl
        rw [← data_of_holds hstate] at hclicked
        obtain ⟨rfl, rfl⟩ := Prod.mk.inj hclicked
        exact .clicked rfl hmover hseat hprocessed hclick hpoints hturn' hsame hevents haside

/-- A frame leaves the game as it is, but may find it decided. -/
theorem played_tick (hqueue : s.events = {}) (seconds : Float) :
    s.Played (.tick seconds) (Answer.ticked (s.tick seconds).1).events (s.tick seconds).2 := by
  have hticked := ticked s seconds
  generalize (s.tick seconds).1 = answer at hticked ⊢
  generalize (s.tick seconds).2 = s' at hticked ⊢
  cases hticked with
  | disposed _ => exact played_of_state rfl rfl
  | unstarted _ _ => exact played_of_state rfl rfl
  | decided _ _ _ => exact played_of_state rfl rfl
  | failed _ _ _ htick => cases htick
  | @advanced state replacement rules stage state' queue ended _ hstate _ htick hsettle =>
      cases htick
      have hturn : state'.turn = s.turn := by
        rw [turn_of_settle hsettle, turn_of_holds hstate]
      have hdata : state'.data = s.data := by
        rw [data_of_settle hsettle, data_of_holds hstate]
        rfl
      refine .idle rfl hturn ?_ ?_
      · show SameGame s.data state'.data
        rw [hdata]
        exact .refl s.data
      · show ∀ e ∈ queue.pending, Aside e
        rcases settle_cases hsettle with ⟨-, -, rfl⟩ | ⟨-, -, hevents⟩
        · rw [hqueue]
          exact fun e he => absurd he List.not_mem_nil
        · rw [hevents, hqueue]
          exact List.forall_mem_cons.mpr ⟨aside_ended _ _, fun e he => absurd he List.not_mem_nil⟩

/-- What is called plays on in one of these ways. -/
theorem played (hqueue : s.events = {}) {c : Call} (hc : c.isMove = true) :
    s.Played c (s.perform c).1.events (s.perform c).2 := by
  cases c with
  | act player action => exact played_act hqueue player action
  | tick seconds => exact played_tick hqueue seconds
  | _ => cases hc

end Play.Session

end Arcade
