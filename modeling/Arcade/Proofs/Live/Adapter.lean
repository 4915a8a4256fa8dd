import Arcade.Live.Adapter
/-!
# What the adapter does

The calls that an adapter makes on its engine during a frame, as a list: the buttons of every seated
player, in the order of the seats, and then one step (`frameCalls`). `simulate_eq_run` says that a
frame makes these calls and no others, up to the first one that fails.

The other theorems turn an answer of the adapter round: what must have been the case for it, and what
the adapter is afterwards.
-/

namespace Arcade.Live

open Play

/-- A call that drives an engine. -/
inductive EngineCall where
  | setInput (player : PlayerId) (buttons : Buttons)
  | step
  deriving DecidableEq, Repr

namespace EngineCall

variable {β : Type} [Engine β]

/-- Makes one call. -/
def make (engine : β) : EngineCall → Except EngineFailure Unit × β
  | .setInput player buttons => Engine.setInput engine player buttons
  | .step => Engine.step engine

/-- Makes calls one after the other, up to the first that fails. -/
def run : List EngineCall → β → Except EngineFailure Unit × β
  | [], engine => (.ok (), engine)
  | c :: rest, engine =>
    match make engine c with
    | (.error failure, engine) => (.error failure, engine)
    | (.ok (), engine) => run rest engine

theorem run_append (first second : List EngineCall) (engine : β) :
    run (first ++ second) engine =
      match run first engine with
      | (.error failure, engine) => (.error failure, engine)
      | (.ok (), engine) => run second engine := by
  induction first generalizing engine with
  | nil => rfl
  | cons c rest ih =>
      simp only [List.cons_append, run]
      rcases make engine c with ⟨answer, engine'⟩
      cases answer with
      | error failure => rfl
      | ok _ => exact ih engine'

end EngineCall

/-- The calls of one frame, for players who hold some buttons. -/
def frameCalls (players : List PlayerId) (held : PlayerId → Buttons) : List EngineCall :=
  players.map (fun p => .setInput p (held p)) ++ [.step]

namespace Adapter

variable {β : Type} [Engine β]

theorem setInputs_eq_run (inputs : InputBuffer) (players : List PlayerId) (engine : β) :
    setInputs inputs players engine
      = EngineCall.run (players.map fun p => .setInput p (inputs.pressed p)) engine := by
  induction players generalizing engine with
  | nil => rfl
  | cons p rest ih =>
      simp only [List.map_cons, setInputs, EngineCall.run, EngineCall.make]
      rcases Engine.setInput engine p (inputs.pressed p) with ⟨answer, engine'⟩
      cases answer with
      | error failure => rfl
      | ok _ => exact ih engine'

/-- A frame makes the calls of `frameCalls`, and then looks at the engine. -/
theorem simulate_eq_run (inputs : InputBuffer) (players : List PlayerId) (engine : β) :
    simulate inputs players engine =
      match EngineCall.run (frameCalls players inputs.pressed) engine with
      | (.error failure, engine) => (.error failure, engine)
      | (.ok (), engine) => (Engine.snapshot engine, engine) := by
  rw [frameCalls, EngineCall.run_append, simulate, setInputs_eq_run]
  rcases EngineCall.run (players.map fun p => .setInput p (inputs.pressed p)) engine
    with ⟨answer, engine'⟩
  cases answer with
  | error failure => rfl
  | ok _ =>
      simp only [EngineCall.run, EngineCall.make]
      rcases Engine.step engine' with ⟨answer', engine''⟩
      cases answer' <;> rfl

variable {a a' : Adapter β} {stage stage' : Stage}

theorem advance_of_attached {engine : β} (h : a.slot = .attached engine) :
    a.advance = ((simulate a.inputs a.players engine).1,
      { a with slot := .attached (simulate a.inputs a.players engine).2 }) := by
  unfold advance
  rw [h]

omit [Engine β] in
/-- An action that is accepted presses its buttons, and does nothing else. -/
theorem act_ok {player : PlayerId} {action : Action} {replacement : Option Data}
    (h : a.act player action stage = ⟨.ok replacement, a', stage'⟩) :
    ∃ buttons, Buttons.ofAction action = .ok buttons ∧ replacement = none ∧ stage' = stage ∧
      a' = { a with inputs := a.inputs.press player buttons } := by
  unfold act at h
  split at h
  · cases h
  · cases hb : Buttons.ofAction action with
    | error fault =>
        rw [hb] at h
        cases h
    | ok buttons =>
        rw [hb] at h
        cases h
        exact ⟨buttons, rfl, rfl, rfl, rfl⟩

omit [Engine β] in
/-- An action that is refused does nothing. -/
theorem act_error {player : PlayerId} {action : Action} {refusal : Refusal}
    (h : a.act player action stage = ⟨.error refusal, a', stage'⟩) :
    a' = a ∧ (a.isDisposed = true ∨ ∃ fault, Buttons.ofAction action = .error fault) := by
  unfold act at h
  split at h
  next hdisposed =>
    cases h
    exact ⟨rfl, Or.inl hdisposed⟩
  · cases hb : Buttons.ofAction action with
    | error fault =>
        rw [hb] at h
        cases h
        exact ⟨rfl, Or.inr ⟨fault, rfl⟩⟩
    | ok buttons =>
        rw [hb] at h
        cases h

/-- A frame that is advanced empties the buffer. -/
theorem tick_ok {state : GameState} {replacement : Option Data}
    (h : a.tick state stage = ⟨.ok replacement, a', stage'⟩) :
    ∃ frame changes b, a.advance = (.ok frame, b) ∧
      replacement = some (storeFrame state.data frame changes) ∧
      a' = { b with inputs := [], last := some frame } := by
  unfold tick at h
  rcases hadvance : a.advance with ⟨answer, b⟩
  rw [hadvance] at h
  cases answer with
  | error failure => cases h
  | ok frame =>
      cases h
      exact ⟨frame, _, b, rfl, rfl, rfl⟩

/-- A frame that fails leaves all but the engine as it was. -/
theorem tick_error {state : GameState} {failure : Failure}
    (h : a.tick state stage = ⟨.error failure, a', stage'⟩) :
    ∃ fault, a.advance = (.error fault, a') ∧ failure = .engine fault ∧ stage' = stage := by
  unfold tick at h
  rcases hadvance : a.advance with ⟨answer, b⟩
  rw [hadvance] at h
  cases answer with
  | error fault =>
      cases h
      exact ⟨fault, rfl, rfl, rfl⟩
  | ok frame => cases h

/-- A start that succeeds seats the players, with nothing pressed, and keeps the engine attached. -/
theorem prepare_ok {engine : β} {players : List PlayerId} {data : Data}
    (hslot : a.slot = .attached engine)
    (h : a.prepare players stage = ⟨.ok data, a', stage'⟩) :
    (∃ engine', a'.slot = .attached engine') ∧ a'.players = players ∧ a'.inputs = [] := by
  unfold prepare at h
  rw [hslot] at h
  dsimp only [startEngine] at h
  rcases hstart : Engine.start engine players stage.draw.1 with ⟨answer, engine'⟩
  rw [hstart] at h
  cases answer with
  | error failure => cases h
  | ok _ =>
      dsimp only [capture] at h
      cases hsnapshot : Engine.snapshot engine' with
      | error failure =>
          simp only [hsnapshot] at h
          cases h
      | ok frame =>
          simp only [hsnapshot] at h
          cases h
          exact ⟨⟨engine', rfl⟩, rfl, rfl⟩

end Adapter

end Arcade.Live
