import Arcade.Play.Action
import Arcade.Text.Blank
/-!
# Buttons

What a player presses during one frame is a set of eight buttons, one bit each. On the wire it is
an integer, a name, or names joined by bars; an action carries it in its payload, or else in its
kind.

* `Buttons.parse` reads a text: every part between bars must be a name, blanks around it aside;
* `decode` reads a document value, `ofAction` an action;
* `InputBuffer` gathers what each player presses between two frames; no bit is lost.
-/

namespace Arcade.Live

open Play (Action)

/-- A set of buttons. -/
structure Buttons where
  bits : UInt8
  deriving DecidableEq, Repr, Inhabited

namespace Buttons

/-- No button. -/
def none : Buttons := ⟨0⟩

def moveLeft : Buttons := ⟨1⟩
def moveRight : Buttons := ⟨2⟩
def moveUp : Buttons := ⟨4⟩
def moveDown : Buttons := ⟨8⟩
def attack1 : Buttons := ⟨16⟩
def attack2 : Buttons := ⟨32⟩
def jump : Buttons := ⟨64⟩
def special : Buttons := ⟨128⟩

/-- The buttons by their names, lowest bit first. -/
def named : List (String × Buttons) := [
  ("move_left", moveLeft), ("move_right", moveRight), ("move_up", moveUp),
  ("move_down", moveDown), ("attack1", attack1), ("attack2", attack2), ("jump", jump),
  ("special", special)]

/-- The buttons of either set. -/
def union (a b : Buttons) : Buttons := ⟨a.bits ||| b.bits⟩

/-- Whether all buttons of `b` are in `a`. -/
def contains (a b : Buttons) : Bool := a.bits &&& b.bits == b.bits

def isEmpty (a : Buttons) : Bool := a.bits == 0

/-- The button of a name. -/
def ofName? (name : String) : Option Buttons :=
  (named.find? fun e => e.1 == name).map Prod.snd

/-- The names of the buttons in a set, lowest bit first. -/
def names (a : Buttons) : List String :=
  (named.filter fun e => a.contains e.2).map Prod.fst

/-- The set as a text. -/
def text (a : Buttons) : String :=
  if a.isEmpty then "none" else String.intercalate "|" a.names

/-- Why an input cannot be read. -/
inductive Fault where
  | unknownName (name : String)
  | outOfRange (n : Int)
  | wrongType (found : String)
  | empty
  deriving DecidableEq, Repr

/-- The wording of a fault. -/
def Fault.message : Fault → String
  | .unknownName name => "Unknown input action: " ++ name
  | .outOfRange n => "Input bitmask out of range: " ++ toString n
  | .wrongType found => "Input must be an integer or action name, got " ++ found
  | .empty => "Empty input"

/-- The parts of a text between bars. -/
def parts : List Char → List (List Char)
  | [] => [[]]
  | c :: rest =>
    if c = '|' then [] :: parts rest
    else
      match parts rest with
      | [] => [[c]]
      | first :: more => (c :: first) :: more

/-- Adds the buttons that some parts name to a set. -/
def addParts : List (List Char) → Buttons → Except Fault Buttons
  | [], acc => .ok acc
  | part :: rest, acc =>
    let name := String.ofList (Text.trimEnd (Text.trimStart part))
    match ofName? name with
    | some b => addParts rest (acc.union b)
    | Option.none => .error (.unknownName name)

/-- Reads names joined by bars. -/
def parse (text : String) : Except Fault Buttons :=
  if Text.isBlankText text then .error .empty else addParts (parts text.toList) none

/-- What kind of value this is. -/
def typeName : Json → String
  | .null => "null"
  | .bool _ => "boolean"
  | .num _ => "number"
  | .str _ => "string"
  | .arr _ => "array"
  | .obj _ => "object"

/-- Reads an integer or names. -/
def decode : Json → Except Fault Buttons
  | .num n =>
    match n.asInt64? with
    | some i => if 0 ≤ i ∧ i ≤ 255 then .ok ⟨UInt8.ofNat i.toNat⟩ else .error (.outOfRange i)
    | Option.none => .error (.wrongType (Json.numberText n))
  | .str s => parse s
  | j => .error (.wrongType (typeName j))

/-- The field of a payload that holds an input. -/
def inputField : String := "input"

/-- The buttons that an action presses. -/
def ofAction (action : Action) : Except Fault Buttons :=
  match action.field? inputField with
  | some j => decode j
  | Option.none => parse action.kind

end Buttons

/-- What each player has pressed since the last frame. -/
abbrev InputBuffer := Dict Buttons

namespace InputBuffer

/-- What a player has pressed. -/
def pressed (b : InputBuffer) (player : String) : Buttons :=
  (Dict.get? b player).getD .none

/-- Adds buttons to what a player has pressed. -/
def press (b : InputBuffer) (player : String) (buttons : Buttons) : InputBuffer :=
  Dict.insert b player ((b.pressed player).union buttons)

/-- Pressing adds to the player's buttons. -/
theorem pressed_press_self (b : InputBuffer) (player : String) (buttons : Buttons) :
    (b.press player buttons).pressed player = (b.pressed player).union buttons := by
  rw [press, pressed, Dict.get?_insert_self, Option.getD_some]

/-- Pressing leaves the other players' buttons alone. -/
theorem pressed_press_of_ne (b : InputBuffer) {player other : String} (buttons : Buttons)
    (hne : player ≠ other) : (b.press player buttons).pressed other = b.pressed other := by
  simp [press, pressed, Dict.get?_insert_of_ne _ _ hne]

end InputBuffer

end Arcade.Live
