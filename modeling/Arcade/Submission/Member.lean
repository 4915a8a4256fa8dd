import Arcade.Pattern
/-!
# Required members

A game module has four properties and thirteen methods. A property is defined by a field or a
getter, a method by a body, a function or an arrow; a mere call or a longer name defines nothing.
The module should also say that it is one (`markerPattern`).

Patterns here are read on the text without comments.
-/

namespace Arcade.Submission

open Arcade.Pattern
open Arcade.Text (isWord)

/-- A member that a submission must define. -/
structure RequiredMember where
  name : String
  /-- how messages show it -/
  signature : String
  pattern : Pattern

/-- Where a defined name may begin: at the start of a line, or after a character that is neither a
dot nor part of a word. -/
def nameStart : Pattern :=
  .alt .lineStart (.one fun c => c != '.' && !isWord c)

/-- Characters up to, and without, the ones listed. One of those always follows in a pattern, so
taking fewer would lead to no further match. -/
def upTo (stops : String) : Pattern :=
  .span fun c => !(stops.toList.contains c)

/-- Something between parentheses. -/
def parenthesised : Pattern :=
  all [lit "(", upTo ")", lit ")"]

/-- The definition of a property: a getter, or the name followed by a colon or an equals sign. -/
def propertyPattern (name : String) : Pattern :=
  .seq nameStart <| any [
    all [lit "get", blanks1, lit name, blanks, lit "("],
    all [lit name, blanks, opt (oneOf "?!"), blanks, oneOf ":="]]

/-- The definition of a method: a function of the name, the name with parameters and a body, or the
name given a function or an arrow. -/
def methodPattern (name : String) : Pattern :=
  .seq nameStart <| any [
    all [lit "function", blanks1, lit name, blanks, oneOf "(<"],
    all [lit name, blanks, opt (all [lit "<", upTo ">", lit ">"]), blanks, parenthesised, blanks,
      opt (.seq (lit ":") (upTo "\x7b;=")), lit "\x7b"],
    all [lit name, blanks, oneOf ":=", blanks, opt (.seq (lit "async") blanks1), any [
      .seq (lit "function") .wordEdge,
      all [parenthesised, blanks, opt (.seq (lit ":") (upTo "=")), lit "=>"],
      all [.one isWord, .run isWord, blanks, lit "=>"]]]]

/-- The required properties. -/
def requiredProperties : List RequiredMember :=
  ["gameType", "maxPlayers", "turnBased", "tickRate"].map fun name =>
    ⟨name, name, propertyPattern name⟩

/-- The required methods. -/
def requiredMethods : List RequiredMember :=
  [("initialize", "initialize(playerIds, seed?)"), ("reset", "reset()"), ("destroy", "destroy()"),
    ("getState", "getState()"), ("getStateForPlayer", "getStateForPlayer(playerId)"),
    ("getValidActions", "getValidActions(playerId)"),
    ("validateAction", "validateAction(playerId, action)"),
    ("applyAction", "applyAction(playerId, action)"), ("tick", "tick(deltaTime)"),
    ("isTerminal", "isTerminal()"), ("getResult", "getResult()"), ("serialize", "serialize()"),
    ("deserialize", "deserialize(data)")].map fun (name, signature) =>
    ⟨name, signature, methodPattern name⟩

/-- The declaration that a class is a game module. -/
def markerPattern : Pattern :=
  .seq .wordEdge <| any [
    all [lit "implements", blanks1,
      opt (.seq (.run fun c => isWord c || c == ',' || Text.isBlank c) .wordEdge),
      lit "GameModule", .wordEdge],
    all [lit "extends", blanks1, anyLit ["BaseGame", "RealTimeGame"], .wordEdge]]

/-- The warning for a submission without that declaration. -/
def missingMarker : String :=
  "No module marker found: expected `implements GameModule` or `extends BaseGame`"

end Arcade.Submission
