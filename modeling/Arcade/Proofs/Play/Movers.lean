import Arcade.Proofs.Play.Lifecycle
/-!
# Whose actions are processed

A processed action takes the game a turn further, and nothing else does. `Session.movers` lists the
players whose actions a run of calls processes, one entry for each. What is charged or counted by
processed actions is a function of that list.

An action that is refused, held back or rejected leaves the state alone (`mover?_of_state`); one that
the rules apply brings the next turn (`mover?_of_settle`).
-/

namespace Arcade.Play.Session

variable {γ ι : Type} [GameRules γ] [Injector ι] {s s' : Session γ ι} {player : PlayerId}
  {action forwarded : Action} {result : ActionResult}

/-- The player whose action a call processes. -/
def mover? (s : Session γ ι) : Call → Option PlayerId
  | .act player action =>
    if (s.handleAction player action).2.turn = s.turn then none else some player
  | _ => none

/-- The players whose actions a run of calls processes, in order. -/
def movers (s : Session γ ι) : List Call → List PlayerId
  | [] => []
  | c :: rest => (s.mover? c).toList ++ (s.perform c).2.movers rest

/-- The factor that the injectors give to an action that they let through. -/
def multiplier? (s : Session γ ι) (player : PlayerId) (action : Action) : Option Float :=
  match s.state with
  | none => none
  | some state =>
    match Pipeline.before player action state.data s.injectors with
    | (.proceed _ multiplier _, _) => some multiplier
    | (.vetoed _ _, _) => none

/-! ### One call -/

theorem mover?_of_state (hnext : s.handleAction player action = (result, s'))
    (h : s'.state = s.state) : s.mover? (.act player action) = none := by
  have hturn : s'.turn = s.turn := by
    unfold turn
    rw [h]
  simp only [mover?, hnext, hturn, if_true]

omit [Injector ι] in
theorem turn_of_settle {rules : γ} {next state' : GameState} {events queue : EventQueue}
    {ended : Bool} (h : settle rules next events = (state', queue, ended)) :
    state'.turn = next.turn := by
  rcases settle_cases h with ⟨-, rfl, -⟩ | ⟨-, rfl, -⟩ <;> rfl

theorem mover?_of_settle {state state' : GameState} {rules : γ} {phase : Phase} {data : Data}
    {events queue : EventQueue} {ended : Bool} (hnext : s.handleAction player action = (result, s'))
    (hstate : s.state = some state)
    (hsettle : settle rules ⟨state.turn + 1, phase, data⟩ events = (state', queue, ended))
    (hstate' : s'.state = some state') : s.mover? (.act player action) = some player := by
  have hturn : s'.turn ≠ s.turn := by
    rw [turn_of_holds hstate, turn_of_holds hstate', turn_of_settle hsettle]
    exact mt UInt64.add_eq_left.mp (by decide)
  simp only [mover?, hnext, hturn, if_false]

/-- What the rules apply takes a turn. -/
theorem mover?_of_processed? (h : s.processed? player action = some forwarded) :
    s.mover? (.act player action) = some player := by
  rcases hnext : s.handleAction player action with ⟨result, s'⟩
  cases handled_of_eq hnext with
  | refused hrefusal =>
      rw [processed?_of_refused hrefusal] at h
      cases h
  | vetoed hrefusal hstate hbefore =>
      rw [processed?_of_vetoed ⟨_, _, _, _, hrefusal, hstate, hbefore⟩] at h
      cases h
  | rejected hrefusal hstate hbefore hact =>
      rw [processed?_of_proceed hrefusal hstate hbefore hact] at h
      cases h
  | processed _ hstate _ _ _ hsettle => exact mover?_of_settle hnext hstate hsettle rfl

/-- What an injector holds back, and what is refused, takes no turn. -/
theorem mover?_of_turnedDown
    (h : s.Vetoes player action ∨ (s.handleAction player action).1.success = false) :
    s.mover? (.act player action) = none := by
  rcases hnext : s.handleAction player action with ⟨result, s'⟩
  rw [hnext] at h
  cases handled_of_eq hnext with
  | refused _ => exact mover?_of_state hnext rfl
  | vetoed _ _ _ => exact mover?_of_state hnext rfl
  | rejected _ _ _ _ => exact mover?_of_state hnext rfl
  | processed hrefusal hstate hbefore hact _ _ =>
      rcases h with hvetoed | hfailed
      · have hnone := processed?_of_vetoed hvetoed
        rw [processed?_of_proceed hrefusal hstate hbefore hact] at hnone
        cases hnone
      · cases hfailed

omit [GameRules γ] in
theorem multiplier?_of_proceed {state : GameState} {multiplier : Float} {challenge : Option Json}
    {injectors : List ι}
    (hstate : s.state = some state)
    (hbefore : Pipeline.before player action state.data s.injectors
      = (.proceed forwarded multiplier challenge, injectors)) :
    s.multiplier? player action = some multiplier := by
  simp only [multiplier?, hstate, hbefore]

/-- Invert a processed action: nothing refused it, the injectors let it through, and the rules have accepted
what they made of it. -/
theorem proceeds_of_processed? (h : s.processed? player action = some forwarded) :
    ∃ state multiplier challenge injectors replacement rules stage,
      s.refusal? player = none ∧ s.state = some state ∧
      Pipeline.before player action state.data s.injectors
        = (.proceed forwarded multiplier challenge, injectors) ∧
      GameRules.act s.rules state player forwarded multiplier ⟨s.random, s.events⟩
        = ⟨.ok replacement, rules, stage⟩ := by
  rcases hnext : s.handleAction player action with ⟨result, s'⟩
  cases handled_of_eq hnext with
  | refused hrefusal =>
      rw [processed?_of_refused hrefusal] at h
      cases h
  | vetoed hrefusal hstate hbefore =>
      rw [processed?_of_vetoed ⟨_, _, _, _, hrefusal, hstate, hbefore⟩] at h
      cases h
  | rejected hrefusal hstate hbefore hact =>
      rw [processed?_of_proceed hrefusal hstate hbefore hact] at h
      cases h
  | processed hrefusal hstate hbefore hact _ _ =>
      rw [processed?_of_proceed hrefusal hstate hbefore hact] at h
      obtain rfl := Option.some.inj h
      exact ⟨_, _, _, _, _, _, _, hrefusal, hstate, hbefore, hact⟩

/-- What is processed was let through with a factor, and the rules have accepted it. -/
theorem act_of_processed? (h : s.processed? player action = some forwarded) :
    ∃ state multiplier replacement rules stage, s.state = some state ∧
      s.multiplier? player action = some multiplier ∧
      GameRules.act s.rules state player forwarded multiplier ⟨s.random, s.events⟩
        = ⟨.ok replacement, rules, stage⟩ := by
  obtain ⟨_, _, _, _, _, _, _, -, hstate, hbefore, hact⟩ := proceeds_of_processed? h
  exact ⟨_, _, _, _, _, hstate, multiplier?_of_proceed hstate hbefore, hact⟩

/-! ### A run of calls -/

@[simp] theorem movers_nil : s.movers [] = [] := rfl

@[simp] theorem movers_cons (c : Call) (rest : List Call) :
    s.movers (c :: rest) = (s.mover? c).toList ++ (s.perform c).2.movers rest := rfl

theorem movers_append (first second : List Call) :
    s.movers (first ++ second) = s.movers first ++ (s.after first).movers second := by
  induction first generalizing s with
  | nil => rfl
  | cons c rest ih =>
      rw [List.cons_append, movers_cons, movers_cons, ih, List.append_assoc]
      rfl

variable {calls : List Call} {n : Nat} {c : Call}

theorem after_take_succ (h : calls[n]? = some c) :
    s.after (calls.take (n + 1)) = ((s.after (calls.take n)).perform c).2 := by
  rw [List.take_add_one, h, after, Run.after_append]
  rfl

theorem movers_take_succ (h : calls[n]? = some c) :
    s.movers (calls.take (n + 1))
      = s.movers (calls.take n) ++ ((s.after (calls.take n)).mover? c).toList := by
  rw [List.take_add_one, h, movers_append]
  simp

end Arcade.Play.Session
