import Arcade.Play.Event
/-!
# Actions and their results

An `Action` is what a player asks for, an `ActionResult` what the session answers: refused with a
reason, or accepted with the state after it and the events of the call. An action that an injector
holds back is accepted too, with the state unchanged.
-/

namespace Arcade.Play

/-- A move that a player asks for. -/
structure Action where
  kind : String
  payload : Dict Json := []
  /-- the client's time in milliseconds, for information only -/
  timestamp : Int := 0

namespace Action

/-- A field of the payload. -/
def field? (a : Action) (key : String) : Option Json :=
  Dict.get? a.payload key

/-- The action as a record. -/
def toJson (a : Action) : Json :=
  .obj [("type", .str a.kind), ("payload", .obj a.payload), ("timestamp", .int a.timestamp)]

/-- The fields of an action under construction. -/
structure Draft where
  kind : Option String := none
  payload : Dict Json := []
  timestamp : Int := 0

/-- The record of an action. -/
def schema : Json.Schema Draft Action where
  name := "Action"
  fields := [
    .of "type" false Json.Decode.str fun x d => { d with kind := some x },
    .of "payload" true (Json.Decode.dict Json.Decode.json) fun x d => { d with payload := x },
    .of "timestamp" true Json.Decode.int64 fun x d => { d with timestamp := x }]
  strict := false
  start := {}
  finish d := (Json.required "type" d.kind).map fun kind => ⟨kind, d.payload, d.timestamp⟩

end Action

/-- The answer to an action. -/
structure ActionResult where
  success : Bool
  error : Option String := none
  newState : Option GameState := none
  events : List Event := []
  /-- what an injector wants the player to know -/
  challenge : Option Json := none

namespace ActionResult

/-- An action that was refused: no state, no events. -/
def rejected (error : String) (challenge : Option Json) : ActionResult :=
  { success := false, error := some error, challenge := challenge }

/-- An action that was accepted. -/
def accepted (state : GameState) (events : List Event) (challenge : Option Json) : ActionResult :=
  { success := true, newState := some state, events := events, challenge := challenge }

/-- A field that is left out when there is nothing to say. -/
def optionalField (name : String) : Option Json → List (String × Json)
  | some j => [(name, j)]
  | none => []

/-- The answer as a record. -/
def toJson (r : ActionResult) : Json :=
  .obj ([("success", .bool r.success)]
    ++ optionalField "error" (r.error.map .str)
    ++ optionalField "newState" (r.newState.map GameState.toJson)
    ++ (if r.events.isEmpty then [] else [("events", .arr (r.events.map Event.toJson))])
    ++ optionalField "challengeState" r.challenge)

end ActionResult

end Arcade.Play
