import Arcade.Play.State
/-!
# Events

What happened during one call, in the order in which it happened. The host sends events on as they
are; a `StampedEvent` is one that has travelled and carries the time of its emission.

An `EventQueue` gathers the events of a call and is emptied when they are handed over.
-/

namespace Arcade.Play

/-- Something that happened. -/
structure Event where
  kind : String
  /-- the player concerned, if there is one -/
  player : Option PlayerId
  data : Json

/-- An event with the time of its emission, in milliseconds. -/
structure StampedEvent where
  event : Event
  timestamp : Int

namespace Event

/-- A game has started. -/
def started (players : List PlayerId) : Event :=
  ⟨"game_started", none, .obj [("players", .strs players)]⟩

/-- The scores as a document value. -/
def scoresJson (scores : Dict Int) : Json :=
  .obj (Dict.mapValues Json.int scores)

/-- A game has ended. -/
def ended (winner : Option PlayerId) (scores : Dict Int) : Event :=
  ⟨"game_ended", winner,
    .obj [("scores", scoresJson scores), ("winner", .orNull (winner.map .str))]⟩

/-- The fields of an event. -/
def fields (e : Event) : List (String × Json) :=
  [("type", .str e.kind)]
    ++ (match e.player with
      | some p => [("playerId", .str p)]
      | none => [])
    ++ [("data", e.data)]

/-- The event as a record without a time. -/
def toJson (e : Event) : Json := .obj e.fields

end Event

namespace StampedEvent

/-- The event as a record. -/
def toJson (e : StampedEvent) : Json :=
  .obj (e.event.fields ++ [("timestamp", .int e.timestamp)])

/-- The fields of an event under construction. -/
structure Draft where
  kind : Option String := none
  player : Option PlayerId := none
  data : Json := .null
  timestamp : Option Int := none

/-- The record of an event. -/
def schema : Json.Schema Draft StampedEvent where
  name := "Event"
  fields := [
    .of "type" false Json.Decode.str fun x d => { d with kind := some x },
    .of "playerId" true (Json.Decode.nullable Json.Decode.str) fun x d => { d with player := x },
    .of "data" true Json.Decode.json fun x d => { d with data := x },
    .of "timestamp" false Json.Decode.int64 fun x d => { d with timestamp := some x }]
  strict := false
  start := {}
  finish d := do
    let kind ← Json.required "type" d.kind
    let timestamp ← Json.required "timestamp" d.timestamp
    .ok ⟨⟨kind, d.player, d.data⟩, timestamp⟩

end StampedEvent

/-- The events of a call so far, oldest first. -/
structure EventQueue where
  pending : List Event := []

namespace EventQueue

/-- Adds an event. -/
def push (q : EventQueue) (e : Event) : EventQueue := ⟨q.pending ++ [e]⟩

/-- Adds an event made of its parts. -/
def emit (q : EventQueue) (kind : String) (player : Option PlayerId) (data : Json) : EventQueue :=
  q.push ⟨kind, player, data⟩

/-- Hands all events over. -/
def drain (q : EventQueue) : List Event × EventQueue := (q.pending, {})

def length (q : EventQueue) : Nat := q.pending.length
def isEmpty (q : EventQueue) : Bool := q.pending.isEmpty

@[simp] theorem pending_push (q : EventQueue) (e : Event) :
    (q.push e).pending = q.pending ++ [e] := rfl

end EventQueue

end Arcade.Play
