import Arcade.Proofs.Dict
import Arcade.Proofs.Live.Adapter
import Arcade.Proofs.Play.Calls
import Arcade.Proofs.Play.Pipeline
import Arcade.Sample.Probe
import Arcade.Sample.Recorder
/-!
# What players press reaches the engine

Actions press buttons, which wait in the buffer of the adapter until a frame is advanced. Here the
buffer is told from the history alone: `notedAfter` lists the presses of the actions that were
processed since the last frame, and `Wired` says that the buffer holds for each player the union of
them. The next frame hands exactly these to the engine (`tick_makes_frameCalls`).

Nothing is asked of the engine, any call of which may fail, and nothing of the injectors. Where an
injector could meddle, in the data of the game, that is said (`frame_of_handleAction`).
-/

namespace Arcade.Live

open Play

/-! ### Presses -/

/-- Buttons that a player has pressed. -/
abbrev Press := PlayerId × Buttons

/-- The union of the buttons that a player has pressed. -/
def held (presses : List Press) (player : PlayerId) : Buttons :=
  (presses.filter (·.1 == player)).foldl (fun acc press => acc.union press.2) .none

theorem Buttons.union_comm (a b : Buttons) : a.union b = b.union a := by
  rw [Buttons.union, Buttons.union, UInt8.or_comm]

theorem Buttons.union_assoc (a b c : Buttons) : (a.union b).union c = a.union (b.union c) := by
  simp only [Buttons.union, UInt8.or_assoc]

theorem Buttons.none_union (a : Buttons) : Buttons.none.union a = a := by
  simp only [Buttons.union, Buttons.none, UInt8.zero_or]

theorem foldl_union (presses : List Press) (a : Buttons) :
    presses.foldl (fun acc press => acc.union press.2) a
      = a.union (presses.foldl (fun acc press => acc.union press.2) .none) := by
  induction presses generalizing a with
  | nil => rw [List.foldl_nil, List.foldl_nil, Buttons.union_comm, Buttons.none_union]
  | cons press rest ih =>
      rw [List.foldl_cons, List.foldl_cons, ih, ih (Buttons.none.union press.2),
        Buttons.none_union, Buttons.union_assoc]

theorem held_append (first second : List Press) (player : PlayerId) :
    held (first ++ second) player = (held first player).union (held second player) := by
  rw [held, List.filter_append, List.foldl_append, foldl_union]
  rfl

theorem held_singleton_self (player : PlayerId) (buttons : Buttons) :
    held [(player, buttons)] player = buttons := by
  simp [held, Buttons.none_union]

theorem held_singleton_of_ne {player other : PlayerId} (h : player ≠ other) (buttons : Buttons) :
    held [(player, buttons)] other = .none := by
  simp [held, h]

/-- What players hold does not depend on the order of their presses. -/
theorem held_perm {presses presses' : List Press} (h : presses.Perm presses') :
    held presses = held presses' := by
  funext player
  unfold held
  refine (h.filter _).foldl_eq' (fun x _ y _ acc => ?_) Buttons.none
  rw [Buttons.union_assoc, Buttons.union_comm x.2, ← Buttons.union_assoc]

/-- Pressing adds to what is pressed. -/
theorem pressed_press (inputs : InputBuffer) (player : PlayerId) (buttons : Buttons)
    (other : PlayerId) : (inputs.press player buttons).pressed other
      = (inputs.pressed other).union (held [(player, buttons)] other) := by
  by_cases h : player = other
  · subst h
    rw [InputBuffer.pressed_press_self, held_singleton_self]
  · rw [InputBuffer.pressed_press_of_ne _ _ h, held_singleton_of_ne h, Buttons.union_comm,
      Buttons.none_union]

end Arcade.Live

namespace Arcade.Play.Session

open Live Sample

variable {β ι : Type} [Engine β] [Injector ι] {s s' : Session (Adapter β) ι}

/-! ### The presses since the last frame -/

/-- The presses that wait after a call, of those that waited before it: a processed action adds its
own, and a frame that succeeds takes all. -/
def note (s : Session (Adapter β) ι) (noted : List Press) : Call → List Press
  | .act player action =>
    match (s.processed? player action).map Buttons.ofAction with
    | some (.ok buttons) => noted ++ [(player, buttons)]
    | _ => noted
  | .tick seconds =>
    match (s.tick seconds).1 with
    | .ok _ => []
    | .error _ => noted
  | _ => noted

/-- The presses that wait after a run of calls. -/
def notedAfter (s : Session (Adapter β) ι) (noted : List Press) : List Call → List Press
  | [] => noted
  | c :: rest => notedAfter (s.perform c).2 (s.note noted c) rest

/-- A session around an attached engine, whose buffer holds some presses. Once the game is decided the
buffer is no longer looked at. -/
structure Wired (s : Session (Adapter β) ι) (players : List PlayerId) (noted : List Press) :
    Prop where
  seats : s.players = players
  seated : s.rules.players = players
  attached : ∃ engine, s.rules.slot = .attached engine
  buffer : s.phase ≠ .ended → s.rules.inputs.pressed = held noted

variable {players : List PlayerId} {noted : List Press}

theorem note_act (player : PlayerId) (action : Action) (noted : List Press) :
    s.note noted (.act player action) =
      match (s.processed? player action).map Buttons.ofAction with
      | some (.ok buttons) => noted ++ [(player, buttons)]
      | _ => noted := rfl

theorem wired_handleAction (h : s.Wired players noted) (player : PlayerId) (action : Action) :
    (s.handleAction player action).2.Wired players (s.note noted (.act player action)) := by
  have hhandled := handled s player action
  generalize (s.handleAction player action).1 = result at hhandled
  generalize (s.handleAction player action).2 = s' at hhandled ⊢
  rw [note_act]
  cases hhandled with
  | refused hrefusal =>
      rw [processed?_of_refused hrefusal]
      exact ⟨h.seats, h.seated, h.attached, h.buffer⟩
  | vetoed hrefusal hstate hbefore =>
      rw [processed?_of_vetoed ⟨_, _, _, _, hrefusal, hstate, hbefore⟩]
      exact ⟨h.seats, h.seated, h.attached, h.buffer⟩
  | rejected hrefusal hstate hbefore hact =>
      obtain ⟨rfl, -⟩ := Adapter.act_error hact
      rw [processed?_of_proceed hrefusal hstate hbefore hact]
      exact ⟨h.seats, h.seated, h.attached, h.buffer⟩
  | processed hrefusal hstate hbefore hact hafter hsettle =>
      obtain ⟨buttons, hbuttons, -, -, rfl⟩ := Adapter.act_ok hact
      rw [processed?_of_proceed hrefusal hstate hbefore hact]
      dsimp only [Option.map_some]
      rw [hbuttons]
      refine ⟨h.seats, h.seated, h.attached, fun _ => ?_⟩
      obtain ⟨-, state', hstate', -, hphase⟩ := state_of_refusal?_eq_none hrefusal
      have hplaying : s.phase ≠ .ended := by
        unfold phase
        rw [hstate']
        exact hphase
      funext other
      rw [pressed_press, held_append, h.buffer hplaying]

theorem wired_tick (h : s.Wired players noted) (seconds : Float) :
    (s.tick seconds).2.Wired players (s.note noted (.tick seconds)) := by
  have hnote : s.note noted (.tick seconds) = match (s.tick seconds).1 with
      | .ok _ => []
      | .error _ => noted := rfl
  have hticked := ticked s seconds
  rw [hnote]
  generalize (s.tick seconds).1 = answer at hticked ⊢
  generalize (s.tick seconds).2 = s' at hticked ⊢
  obtain ⟨engine, hengine⟩ := h.attached
  cases hticked with
  | disposed _ => exact h
  | unstarted _ _ => exact h
  | decided _ hstate hended =>
      refine ⟨h.seats, h.seated, h.attached, fun hplaying => absurd ?_ hplaying⟩
      unfold phase
      rw [hstate]
      exact hended
  | failed _ _ _ htick =>
      obtain ⟨fault, hadvance, -, -⟩ := Adapter.tick_error htick
      rw [Adapter.advance_of_attached hengine] at hadvance
      obtain ⟨-, rfl⟩ := Prod.mk.inj hadvance
      exact ⟨h.seats, h.seated, ⟨_, rfl⟩, h.buffer⟩
  | advanced _ _ _ htick _ =>
      obtain ⟨frame, changes, b, hadvance, -, rfl⟩ := Adapter.tick_ok htick
      rw [Adapter.advance_of_attached hengine] at hadvance
      obtain ⟨-, rfl⟩ := Prod.mk.inj hadvance
      exact ⟨h.seats, h.seated, ⟨_, rfl⟩, fun _ => rfl⟩

/-- The buffer goes with the history. -/
theorem wired_after {calls : List Call} (hcalls : ∀ c ∈ calls, c.isMove = true)
    (h : s.Wired players noted) : (s.after calls).Wired players (s.notedAfter noted calls) := by
  induction calls generalizing s noted with
  | nil => exact h
  | cons c rest ih =>
      have hrest : ∀ d ∈ rest, d.isMove = true := fun d hd => hcalls d (List.mem_cons_of_mem c hd)
      have hmove : c.isMove = true := hcalls c List.mem_cons_self
      cases c with
      | act player action => exact ih hrest (wired_handleAction h player action)
      | tick seconds => exact ih hrest (wired_tick h seconds)
      | _ => simp [Call.isMove] at hmove

/-! ### The start -/

/-- A start around an attached engine leaves an empty buffer. -/
theorem wired_of_start {engine : β} (hslot : s.rules.slot = .attached engine)
    {seed : Option UInt64} {events : List Event}
    (hstart : s.start players seed = (.ok events, s')) : s'.Wired players [] ∧ players.Nodup := by
  cases begun_of_start hstart with
  | begun hcheck hprepare _ =>
      obtain ⟨hattached, hseated, hempty⟩ := Adapter.prepare_ok hslot hprepare
      refine ⟨⟨rfl, hseated, hattached, fun _ => ?_⟩, nodup_of_checkPlayers hcheck⟩
      funext p
      rw [hempty]
      rfl

/-! ### Frames and the engine -/

/-- The calls that the next frame makes on the engine; none if there is nothing to simulate. -/
def dueCalls (s : Session (Adapter β) ι) : List EngineCall :=
  if s.disposed || s.state.all GameState.isEnded then []
  else frameCalls s.players s.rules.inputs.pressed

omit [Engine β] [Injector ι] in
theorem dueCalls_of_playing {state : GameState} (hdisposed : s.disposed = false)
    (hstate : s.state = some state) (hplaying : state.phase ≠ .ended) :
    s.dueCalls = frameCalls s.players s.rules.inputs.pressed := by
  rw [dueCalls, hdisposed, hstate]
  simp [GameState.isEnded, hplaying]

omit [Injector ι] in
/-- A frame leaves the engine as the calls that were due have left it. -/
theorem slot_of_tick {engine : β} (hslot : s.rules.slot = .attached engine)
    (hseated : s.rules.players = s.players) (seconds : Float) :
    (s.tick seconds).2.rules.slot = .attached (EngineCall.run s.dueCalls engine).2 := by
  have hadvance : ∀ {answer : Except EngineFailure Frame} {b : Adapter β} {state : GameState},
      s.disposed = false → s.state = some state → state.phase ≠ .ended →
      s.rules.advance = (answer, b) → b.slot = .attached (EngineCall.run s.dueCalls engine).2 := by
    intro answer b state hdisposed hstate hplaying hadvance
    rw [Adapter.advance_of_attached hslot, Adapter.simulate_eq_run, hseated,
      ← dueCalls_of_playing hdisposed hstate hplaying] at hadvance
    obtain ⟨-, rfl⟩ := Prod.mk.inj hadvance
    rcases EngineCall.run s.dueCalls engine with ⟨made, engine'⟩
    cases made <;> rfl
  have hticked := ticked s seconds
  generalize (s.tick seconds).1 = answer at hticked
  generalize (s.tick seconds).2 = s' at hticked ⊢
  cases hticked with
  | disposed hdisposed =>
      rw [dueCalls, hdisposed]
      exact hslot
  | unstarted hdisposed hstate =>
      rw [dueCalls, hdisposed, hstate]
      exact hslot
  | decided hdisposed hstate hended =>
      rw [dueCalls, hdisposed, hstate]
      simp only [Option.all_some, GameState.isEnded, hended, decide_true, Bool.or_true, if_true]
      exact hslot
  | failed hdisposed hstate hplaying hrules =>
      obtain ⟨fault, h, -, -⟩ := Adapter.tick_error hrules
      exact hadvance hdisposed hstate hplaying h
  | advanced hdisposed hstate hplaying hrules _ =>
      obtain ⟨frame, changes, b, h, -, rfl⟩ := Adapter.tick_ok hrules
      have hb := hadvance hdisposed hstate hplaying h
      exact hb

omit [Injector ι] in
/-- A frame that succeeds in a game that is not decided makes the calls that are due, all of them with
success, and empties the buffer. -/
theorem tick_makes_frameCalls (h : s.Wired players noted) {seconds : Float} {report : TickReport}
    (hplaying : s.phase ≠ .ended) (htick : s.tick seconds = (.ok report, s')) :
    ∃ engine engine', s.rules.slot = .attached engine ∧ s'.rules.slot = .attached engine' ∧
      EngineCall.run (frameCalls players (held noted)) engine = (.ok (), engine') ∧
      s'.rules.inputs = [] := by
  obtain ⟨engine, hengine⟩ := h.attached
  cases ticked_of_eq htick with
  | decided _ hstate hended =>
      refine absurd ?_ hplaying
      unfold phase
      rw [hstate]
      exact hended
  | advanced hdisposed hstate hphase hrules _ =>
      obtain ⟨frame, changes, b, hadvance, -, rfl⟩ := Adapter.tick_ok hrules
      rw [Adapter.advance_of_attached hengine] at hadvance
      obtain ⟨hframe, rfl⟩ := Prod.mk.inj hadvance
      refine ⟨engine, _, hengine, rfl, ?_, rfl⟩
      rw [Adapter.simulate_eq_run, h.seated, h.buffer hplaying] at hframe ⊢
      rcases hrun : EngineCall.run (frameCalls players (held noted)) engine with ⟨made, engine'⟩
      rw [hrun] at hframe
      cases made with
      | error failure => cases hframe
      | ok _ => rfl

omit [Injector ι] in
/-- A frame that fails leaves the buffer as it was. -/
theorem inputs_of_tick_error (h : s.Wired players noted) {seconds : Float} {failure : Failure}
    (htick : s.tick seconds = (.error failure, s')) : s'.rules.inputs = s.rules.inputs := by
  obtain ⟨engine, hengine⟩ := h.attached
  cases ticked_of_eq htick with
  | disposed _ => rfl
  | unstarted _ _ => rfl
  | failed _ _ _ hrules =>
      obtain ⟨fault, hadvance, -, -⟩ := Adapter.tick_error hrules
      rw [Adapter.advance_of_attached hengine] at hadvance
      obtain ⟨-, rfl⟩ := Prod.mk.inj hadvance
      rfl

/-! ### What actions leave alone -/

/-- What the data of the game holds as its frame. -/
def frameEntry (s : Session (Adapter β) ι) : Option Json :=
  s.state.bind fun state => Dict.get? state.data frameKey

/-- A processed action leaves the frame that the hooks have made of it. -/
theorem frame_of_settle {state' : GameState} {rules : Adapter β} {turn : UInt64} {phase : Phase}
    {data : Data} {multiplier : Float} {events queue : EventQueue} {ended : Bool}
    (hsettle : settle rules ⟨turn, phase, mergeMultiplier data multiplier⟩ events
      = (state', queue, ended)) :
    Dict.get? state'.data frameKey = Dict.get? data frameKey := by
  rw [data_of_settle hsettle]
  exact get?_mergeMultiplier data multiplier (by decide)

/-- An action leaves the engine alone, and the frame too, unless one of the hooks that run after it, on what
the action has come to, rewrites the frame. -/
theorem frame_of_handleAction (s : Session (Adapter β) ι) (player : PlayerId) (action : Action) :
    (s.handleAction player action).2.rules.slot = s.rules.slot ∧
      (s.handleAction player action).2.rules.last = s.rules.last ∧
      ((s.handleAction player action).2.frameEntry = s.frameEntry ∨
        ∃ state forwarded multiplier told injectors, s.state = some state ∧
          s.processed? player action = some forwarded ∧
          Pipeline.before player action state.data s.injectors
            = (.proceed forwarded multiplier told, injectors) ∧
          Pipeline.Rewritten player forwarded frameKey injectors
            ⟨state.data, s.events.pending, told⟩) := by
  have hhandled := handled s player action
  generalize (s.handleAction player action).1 = result at hhandled
  generalize (s.handleAction player action).2 = s' at hhandled ⊢
  cases hhandled with
  | refused hrefusal => exact ⟨rfl, rfl, Or.inl rfl⟩
  | vetoed hrefusal hstate hbefore => exact ⟨rfl, rfl, Or.inl rfl⟩
  | rejected hrefusal hstate hbefore hact =>
      obtain ⟨rfl, -⟩ := Adapter.act_error hact
      exact ⟨rfl, rfl, Or.inl rfl⟩
  | @processed state forwarded multiplier challenge injectors _ _ _ outcome _ state' _ _ hrefusal hstate
      hbefore hact hafter hsettle =>
      -- the rules hand over no data, so only the hooks after the action could change the frame
      have hprocessed := processed?_of_proceed hrefusal hstate hbefore hact
      obtain ⟨buttons, -, rfl, rfl, rfl⟩ := Adapter.act_ok hact
      refine ⟨rfl, rfl, ?_⟩
      by_cases hrewritten : Pipeline.Rewritten player forwarded frameKey injectors
          ⟨state.data, s.events.pending, challenge⟩
      · exact Or.inr ⟨state, forwarded, multiplier, challenge, injectors, hstate, hprocessed, hbefore,
          hrewritten⟩
      · left
        calc Dict.get? state'.data frameKey
            = Dict.get? outcome.data frameKey := frame_of_settle hsettle
          _ = Dict.get? state.data frameKey :=
              Pipeline.get?_after_of_not_rewritten hrewritten hafter
          _ = s.frameEntry := by rw [frameEntry, hstate, Option.bind_some]

/-! ### The order of actions -/

/-- The press that an action makes, if it is looked at and can be read. -/
def press? (s : Session (Adapter β) ι) (act : PlayerId × Action) : Option Press :=
  match s.refusal? act.1, Buttons.ofAction act.2 with
  | none, .ok buttons => some (act.1, buttons)
  | _, _ => none

/-- The presses that some actions make. -/
def presses (s : Session (Adapter β) ι) (acts : List (PlayerId × Action)) : List Press :=
  acts.filterMap s.press?

/-- Actions as calls. -/
def submit (acts : List (PlayerId × Action)) : List Call :=
  acts.map fun act => .act act.1 act.2

/-- Nothing differs that decides on an action, apart from the buffer. -/
structure SameTable (s s' : Session (Adapter β) ι) : Prop where
  slot : s'.rules.slot = s.rules.slot
  seats : s'.players = s.players
  disposed : s'.disposed = s.disposed
  injectors : s'.injectors = s.injectors
  frame : s'.frameEntry = s.frameEntry

omit [Engine β] [Injector ι] in
theorem press?_congr (h : s.SameTable s')
    (hphase : s'.state.map GameState.phase = s.state.map GameState.phase) :
    s'.press? = s.press? := by
  funext act
  rw [press?, press?, refusal?_congr h.disposed h.seats hphase]

omit [Injector ι] in
/-- Whether a game is over is read off its phase and its frame. -/
theorem isOver_congr (h : s.SameTable s')
    (hphase : s'.state.map GameState.phase = s.state.map GameState.phase) :
    s'.isOver = s.isOver := by
  have hframe := h.frame
  unfold frameEntry at hframe
  unfold isOver
  rcases states_of_phase hphase with ⟨hs, hs'⟩ | ⟨state, state', hs, hs', -, hended⟩
  · rw [hs, hs']
  · rw [hs, hs', Option.bind_some, Option.bind_some] at hframe
    rw [hs, hs']
    simp only [hended, GameRules.isOver, storedFrame?, hframe]

omit [Engine β] [Injector ι] in
theorem phase_congr (h : s'.state.map GameState.phase = s.state.map GameState.phase) :
    s'.phase = s.phase := by
  unfold phase
  rcases states_of_phase h with ⟨hs, hs'⟩ | ⟨state, state', hs, hs', hphase, -⟩
  · rw [hs, hs']
  · rw [hs, hs']
    exact hphase

omit [Engine β] [Injector ι] in
theorem all_isEnded_congr (h : s'.state.map GameState.phase = s.state.map GameState.phase) :
    s'.state.all GameState.isEnded = s.state.all GameState.isEnded := by
  rcases states_of_phase h with ⟨hs, hs'⟩ | ⟨state, state', hs, hs', -, hended⟩
  · rw [hs, hs']
  · rw [hs, hs', Option.all_some, Option.all_some, hended]

omit [Engine β] [Injector ι] in
theorem dueCalls_of_ended (h : s.phase = .ended) : s.dueCalls = [] := by
  unfold phase at h
  cases hs : s.state with
  | none =>
      rw [hs] at h
      cases h
  | some state =>
      rw [hs] at h
      have hended : state.isEnded = true := by
        rw [GameState.isEnded]
        exact decide_eq_true h
      rw [dueCalls, hs, Option.all_some, hended, Bool.or_true, if_pos rfl]

omit [Engine β] [Injector ι] in
theorem SameTable.trans {s'' : Session (Adapter β) ι} (h : s.SameTable s') (h' : s'.SameTable s'') :
    s.SameTable s'' where
  slot := h'.slot.trans h.slot
  seats := h'.seats.trans h.seats
  disposed := h'.disposed.trans h.disposed
  injectors := h'.injectors.trans h.injectors
  frame := h'.frame.trans h.frame

omit [Injector ι] in
/-- Whether the game is over does not change by a turn or a multiplier, only by another frame. -/
theorem isOver_of_playing {state : GameState} (hstate : s.state = some state)
    (hplaying : state.phase ≠ .ended) (turn : UInt64) (multiplier : Float) :
    s.isOver = GameRules.isOver s.rules
      ⟨turn, state.phase, mergeMultiplier state.data multiplier⟩ := by
  have hentry : Dict.get? (mergeMultiplier state.data multiplier) frameKey
      = Dict.get? state.data frameKey := get?_mergeMultiplier state.data multiplier (by decide)
  unfold isOver
  rw [hstate]
  simp only [GameState.isEnded, hplaying, decide_false, Bool.false_or, GameRules.isOver,
    storedFrame?, hentry]

/-- Without injectors an action either does nothing at all, or presses its buttons; and it ends a
game whose frame shows a decided match. -/
theorem handleAction_bare (hbare : s.injectors = []) {engine : β}
    (hslot : s.rules.slot = .attached engine) (act : PlayerId × Action) :
    (s.press? act = none ∧ (s.handleAction act.1 act.2).2 = { s with events := {} }) ∨
      ∃ press, s.press? act = some press ∧ s.SameTable (s.handleAction act.1 act.2).2 ∧
        (s.handleAction act.1 act.2).2.rules.inputs = s.rules.inputs.press press.1 press.2 ∧
        (s.isOver = true ∧ (s.handleAction act.1 act.2).2.phase = .ended ∨
          s.isOver = false ∧ (s.handleAction act.1 act.2).2.state.map GameState.phase
            = s.state.map GameState.phase) := by
  obtain ⟨player, action⟩ := act
  have hbefore' : ∀ data, Pipeline.before player action data s.injectors
      = (.proceed action 1.0 none, []) := by
    intro data
    rw [hbare]
    rfl
  have hhandled := handled s player action
  generalize (s.handleAction player action).1 = result at hhandled
  dsimp only
  generalize (s.handleAction player action).2 = s' at hhandled ⊢
  cases hhandled with
  | refused hrefusal =>
      left
      simp only [press?, hrefusal, and_self]
  | vetoed hrefusal hstate hbefore =>
      rw [hbefore'] at hbefore
      cases hbefore
  | rejected hrefusal hstate hbefore hact =>
      left
      rw [hbefore'] at hbefore
      cases hbefore
      obtain ⟨rfl, hforbidden⟩ := Adapter.act_error hact
      have hattached : s.rules.isDisposed = false := by
        unfold Adapter.isDisposed
        rw [hslot]
      rcases hforbidden with hdisposed | ⟨fault, hfault⟩
      · rw [hattached] at hdisposed
        cases hdisposed
      · refine ⟨by simp only [press?, hrefusal, hfault], ?_⟩
        rw [← hbare]
  | @processed state forwarded multiplier _ injectors _ _ _ outcome _ state' _ _ hrefusal hstate
      hbefore hact hafter hsettle =>
      right
      rw [hbefore'] at hbefore
      cases hbefore
      obtain ⟨buttons, hbuttons, rfl, -, rfl⟩ := Adapter.act_ok hact
      obtain ⟨rfl, rfl⟩ := Prod.mk.inj hafter
      obtain ⟨-, state₀, hstate₀, -, hplaying⟩ := state_of_refusal?_eq_none hrefusal
      obtain rfl : state = state₀ := Option.some.inj (hstate.symm.trans hstate₀)
      refine ⟨(player, buttons), by simp only [press?, hrefusal, hbuttons],
        ⟨rfl, rfl, rfl, hbare.symm, ?_⟩, rfl, ?_⟩
      · simp only [frameEntry, hstate, Option.bind_some]
        exact frame_of_settle hsettle
      · have hover := isOver_of_playing hstate hplaying (state.turn + 1) 1.0
        rcases settle_cases hsettle with ⟨hno, rfl, -⟩ | ⟨hyes, rfl, -⟩
        · right
          rw [hstate]
          exact ⟨hover.trans hno, rfl⟩
        · exact Or.inl ⟨hover.trans hyes, rfl⟩

/-- Actions without injectors: the presses of all of them gather in the buffer, unless one of them
ends the game. -/
theorem after_submit (hbare : s.injectors = []) {engine : β}
    (hslot : s.rules.slot = .attached engine) (acts : List (PlayerId × Action)) :
    s.SameTable (s.after (submit acts)) ∧
      ((s.isOver = true ∧ s.presses acts ≠ [] ∧ (s.after (submit acts)).phase = .ended) ∨
        ((s.isOver = false ∨ s.presses acts = []) ∧
          (s.after (submit acts)).state.map GameState.phase = s.state.map GameState.phase ∧
          ∀ player, (s.after (submit acts)).rules.inputs.pressed player
            = (s.rules.inputs.pressed player).union (held (s.presses acts) player))) := by
  induction acts generalizing s with
  | nil =>
      refine ⟨⟨rfl, rfl, rfl, rfl, rfl⟩, Or.inr ⟨Or.inr rfl, rfl, fun player => ?_⟩⟩
      show s.rules.inputs.pressed player = (s.rules.inputs.pressed player).union .none
      rw [Buttons.union_comm, Buttons.none_union]
  | cons act rest ih =>
      have hstep : s.after (submit (act :: rest))
          = (s.handleAction act.1 act.2).2.after (submit rest) := rfl
      rw [hstep]
      rcases handleAction_bare hbare hslot act with
        ⟨hnone, hs'⟩ | ⟨press, hsome, htable, hinputs, hend⟩
      · have hpresses : s.presses (act :: rest) = s.presses rest := List.filterMap_cons_none hnone
        rw [hs', hpresses]
        obtain ⟨htable, hcases⟩ := ih (s := { s with events := {} }) hbare hslot
        exact ⟨⟨htable.slot, htable.seats, htable.disposed, htable.injectors, htable.frame⟩, hcases⟩
      · have hpresses : s.presses (act :: rest) = press :: s.presses rest :=
          List.filterMap_cons_some hsome
        generalize (s.handleAction act.1 act.2).2 = s' at htable hinputs hend ⊢
        obtain ⟨hrest, hcases⟩ := ih (htable.injectors.trans hbare) (htable.slot.trans hslot)
        refine ⟨htable.trans hrest, ?_⟩
        rcases hend with ⟨hover, hended⟩ | ⟨hnot, hphase⟩
        · -- the first press ends the game: what comes later is turned away
          refine Or.inl ⟨hover, by simp [hpresses], ?_⟩
          rcases hcases with ⟨-, -, hended'⟩ | ⟨-, hsame, -⟩
          · exact hended'
          · exact (phase_congr hsame).trans hended
        · -- the game goes on, and the others find the same table
          have hover' : s'.isOver = s.isOver := isOver_congr htable hphase
          have hpresses' : s'.presses rest = s.presses rest := by
            rw [presses, presses, press?_congr htable hphase]
          rw [hpresses'] at hcases
          rcases hcases with ⟨hover, -, -⟩ | ⟨-, hsame, hpressed⟩
          · rw [hover', hnot] at hover
            cases hover
          · refine Or.inr ⟨Or.inl hnot, hsame.trans hphase, fun player => ?_⟩
            rw [hpressed, hinputs, pressed_press, Buttons.union_assoc, ← held_append, hpresses]
            rfl

/-- **The order of actions does not matter.** Without injectors, the same actions in another order
leave the same calls due, on the same engine. -/
theorem dueCalls_perm (hbare : s.injectors = []) {engine : β}
    (hslot : s.rules.slot = .attached engine) {acts acts' : List (PlayerId × Action)}
    (hperm : acts.Perm acts') :
    (s.after (submit acts)).dueCalls = (s.after (submit acts')).dueCalls := by
  obtain ⟨htable, hcases⟩ := after_submit hbare hslot acts
  obtain ⟨htable', hcases'⟩ := after_submit hbare hslot acts'
  have hpresses : (s.presses acts).Perm (s.presses acts') := hperm.filterMap _
  -- whether the game ends on the way depends on there being a press at all, not on which is first
  rcases hcases with ⟨hover, hsome, hended⟩ | ⟨hnot, hphase, hpressed⟩
  · rcases hcases' with ⟨-, -, hended'⟩ | ⟨hnot', -, -⟩
    · rw [dueCalls_of_ended hended, dueCalls_of_ended hended']
    · rcases hnot' with hnot' | hnone
      · rw [hover] at hnot'
        cases hnot'
      · rw [hnone] at hpresses
        exact absurd hpresses.eq_nil hsome
  · rcases hcases' with ⟨hover', hsome', -⟩ | ⟨-, hphase', hpressed'⟩
    · rcases hnot with hnot | hnone
      · rw [hover'] at hnot
        cases hnot
      · rw [hnone] at hpresses
        exact absurd hpresses.symm.eq_nil hsome'
    · have hheld : (s.after (submit acts)).rules.inputs.pressed
          = (s.after (submit acts')).rules.inputs.pressed := by
        funext player
        rw [hpressed, hpressed', held_perm hpresses]
      rw [dueCalls, dueCalls, hheld, htable.seats, htable'.seats, htable.disposed,
        htable'.disposed, all_isEnded_congr (hphase.trans hphase'.symm)]

/-! ### Whole runs -/

/-- How presses reach the engine, in a session where some of them wait. -/
structure Delivers (s : Session (Adapter β) ι) (players : List PlayerId) (noted : List Press) :
    Prop where
  seats : s.players = players
  /-- a frame that succeeds hands each player's presses over, and then makes one step -/
  frame : ∀ {seconds report s'}, s.phase ≠ .ended → s.tick seconds = (.ok report, s') →
    ∃ engine engine', s.rules.slot = .attached engine ∧ s'.rules.slot = .attached engine' ∧
      EngineCall.run (frameCalls players (held noted)) engine = (.ok (), engine') ∧
      s'.rules.inputs = []
  /-- a frame that fails keeps them for the next one -/
  failure : ∀ {seconds failure s'}, s.tick seconds = (.error failure, s') →
    s'.rules.inputs = s.rules.inputs
  /-- an action touches neither the engine nor the frame, unless a hook that runs after it does: one that
  changes the frame in the very outcome that this action hands it -/
  action : ∀ player action,
    (s.handleAction player action).2.rules.slot = s.rules.slot ∧
      (s.handleAction player action).2.rules.last = s.rules.last ∧
      ((s.handleAction player action).2.frameEntry = s.frameEntry ∨
        ∃ state forwarded multiplier told injectors, s.state = some state ∧
          s.processed? player action = some forwarded ∧
          Pipeline.before player action state.data s.injectors
            = (.proceed forwarded multiplier told, injectors) ∧
          Pipeline.Rewritten player forwarded frameKey injectors
            ⟨state.data, s.events.pending, told⟩)
  /-- without injectors, the order of the actions before a frame does not matter to the engine -/
  order : s.injectors = [] → ∀ {acts acts'}, acts.Perm acts' → ∀ seconds,
    (s.after (submit acts)).dueCalls = (s.after (submit acts')).dueCalls ∧
      ((s.after (submit acts)).tick seconds).2.rules.slot
        = ((s.after (submit acts')).tick seconds).2.rules.slot

theorem delivers_of_wired (h : s.Wired players noted) : s.Delivers players noted where
  seats := h.seats
  frame hplaying htick := tick_makes_frameCalls h hplaying htick
  failure htick := inputs_of_tick_error h htick
  action := frame_of_handleAction s
  order := by
    intro hbare acts acts' hperm seconds
    obtain ⟨engine, hengine⟩ := h.attached
    have hdue := dueCalls_perm hbare hengine hperm
    have hslot : ∀ acts, ((s.after (submit acts)).tick seconds).2.rules.slot
        = .attached (EngineCall.run (s.after (submit acts)).dueCalls engine).2 := by
      intro acts
      have hmoves : ∀ c ∈ submit acts, c.isMove = true := by
        intro c hc
        obtain ⟨act, -, rfl⟩ := List.mem_map.mp hc
        rfl
      have hwired := wired_after hmoves h
      exact slot_of_tick ((after_submit hbare hengine acts).1.slot.trans hengine)
        (hwired.seated.trans hwired.seats.symm) seconds
    exact ⟨hdue, by rw [hslot acts, hslot acts', hdue]⟩

/-- **No input is lost or invented.** However actions and frames follow on a start, what waits for
the engine are the presses of the actions that were processed since the last frame. -/
theorem inputs_reach_the_engine {engine : β} (hslot : s.rules.slot = .attached engine)
    {seed : Option UInt64} {events : List Event}
    (hstart : s.start players seed = (.ok events, s')) {calls : List Call}
    (hcalls : ∀ c ∈ calls, c.isMove = true) :
    players.Nodup ∧ (s'.after calls).Delivers players (s'.notedAfter [] calls) := by
  obtain ⟨hwired, hnodup⟩ := wired_of_start hslot hstart
  exact ⟨hnodup, delivers_of_wired (wired_after hcalls hwired)⟩

/-- A jump that waits for the recorder. -/
theorem inputs_reach_the_engine_of_recorder :
    let fresh : Session (Adapter Recorder) Trial :=
      .create "g" (.attached (.byFrames "recorder" 3 30) {}) {} []
    let s := (fresh.start ["a", "b"] (some 7)).2
    let jump : Call := .act "a" { kind := "jump" }
    s.notedAfter [] [jump] = [("a", .jump)] ∧
      (s.after [jump]).Delivers ["a", "b"] [("a", .jump)] := by
  intro fresh s jump
  have hnoted : s.notedAfter [] [jump] = [("a", .jump)] := by decide +kernel
  have hslot : fresh.rules.slot = .attached {} := rfl
  have hstart : fresh.start ["a", "b"] (some 7) = (.ok [.started ["a", "b"]], s) := rfl
  have hmoves : ∀ c ∈ [jump], c.isMove = true := by simp [jump, Call.isMove]
  obtain ⟨-, hdelivers⟩ := inputs_reach_the_engine hslot hstart hmoves
  rw [hnoted] at hdelivers
  exact ⟨hnoted, hdelivers⟩

/-- An injector that puts a value of its own in place of the frame: an action changes the stored
frame. -/
theorem frame_rewritten_by_probe :
    let probe : Trial := .probe { afterData := [(frameKey, .null)] }
    let fresh : Session (Adapter Recorder) Trial :=
      .create "g" (.attached (.byFrames "recorder" 3 30) {}) {} [probe]
    let s := (fresh.start ["a"] (some 7)).2
    (fresh.start ["a"] (some 7)).1.toBool = true ∧ s.frameEntry.map Json.isNull = some false ∧
      (s.handleAction "a" { kind := "jump" }).2.frameEntry.map Json.isNull = some true := by
  intro probe fresh s
  refine ⟨by decide +kernel, by decide +kernel, ?_⟩
  have hrefusal : s.refusal? "a" = none := by decide +kernel
  have hhandled := handled s "a" { kind := "jump" }
  generalize (s.handleAction "a" { kind := "jump" }).1 = result at hhandled
  generalize (s.handleAction "a" { kind := "jump" }).2 = s' at hhandled ⊢
  cases hhandled with
  | refused h =>
      rw [hrefusal] at h
      cases h
  | vetoed _ hstate hbefore => cases hbefore
  | rejected _ hstate hbefore hact =>
      cases hbefore
      obtain ⟨-, hforbidden⟩ := Adapter.act_error hact
      rcases hforbidden with hdisposed | ⟨fault, hfault⟩
      · have hattached : s.rules.isDisposed = false := by decide +kernel
        rw [hattached] at hdisposed
        cases hdisposed
      · have hjump : Buttons.ofAction { kind := "jump" } = .ok .jump := rfl
        exact nomatch hjump.symm.trans hfault
  | @processed _ _ _ _ _ _ _ _ _ _ state' _ _ _ hstate hbefore hact hafter hsettle =>
      cases hbefore
      obtain ⟨rfl, -⟩ := Prod.mk.inj hafter
      show (Dict.get? state'.data frameKey).map Json.isNull = some true
      rw [frame_of_settle hsettle]
      show (Dict.get? (Dict.insert _ frameKey .null) frameKey).map Json.isNull = some true
      rw [Dict.get?_insert_self]
      rfl

end Arcade.Play.Session
