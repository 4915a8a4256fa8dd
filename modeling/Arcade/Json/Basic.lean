import Arcade.Dict
import Arcade.Number.Words
/-!
# Documents

A `Json` value is what a document holds. Numbers are integers of 64 bits, signed or not, or else
doubles; an integer is never kept as a double. The fields of an object are listed in the order in
which they are written: dictionaries give increasing names, and records that are written as text
give the order of their declaration. `canonical` puts every object into increasing order.
-/

namespace Arcade

/-- A number of a document. -/
inductive Number where
  /-- an integer between `-2 ^ 63` and `2 ^ 64 - 1` -/
  | int (n : Int)
  /-- any other number -/
  | real (x : Float)

/-- A value of a document. -/
inductive Json where
  | null
  | bool (b : Bool)
  | num (n : Number)
  | str (s : String)
  | arr (items : List Json)
  | obj (fields : List (String × Json))

instance : Inhabited Json := ⟨.null⟩

/-- The integer as a number that fits 64 bits with a sign. -/
def Number.asInt64? : Number → Option Int
  | .int n => if Words.minInt64 ≤ n ∧ n ≤ Words.maxInt64 then some n else none
  | .real _ => none

/-- The integer as a number that fits 64 bits without a sign. -/
def Number.asUInt64? : Number → Option Nat
  | .int n => if 0 ≤ n ∧ n ≤ Words.max64 then some n.toNat else none
  | .real _ => none

/-- The number as a double, the nearest one for an integer. -/
def Number.toReal : Number → Float
  | .int n => Float.ofInt n
  | .real x => x

namespace Json

/-- An integer. -/
def int (n : Int) : Json := .num (.int n)

/-- A natural number. -/
def nat (n : Nat) : Json := .num (.int n)

/-- A double. What is no number at all, or infinite, has no number in documents. -/
def real (x : Float) : Json :=
  if x.isFinite then .num (.real x) else .null

/-- A list of texts. -/
def strs (items : List String) : Json := .arr (items.map .str)

/-- A value that may be absent, as `null` then. -/
def orNull : Option Json → Json
  | some j => j
  | none => .null

def isNull : Json → Bool
  | .null => true
  | _ => false

def asInt64? : Json → Option Int
  | .num n => n.asInt64?
  | _ => none

def asUInt64? : Json → Option Nat
  | .num n => n.asUInt64?
  | _ => none

def asReal? : Json → Option Float
  | .num n => some n.toReal
  | _ => none

def asStr? : Json → Option String
  | .str s => some s
  | _ => none

def asBool? : Json → Option Bool
  | .bool b => some b
  | _ => none

def asArr? : Json → Option (List Json)
  | .arr items => some items
  | _ => none

def asObj? : Json → Option (Dict Json)
  | .obj fields => some fields
  | _ => none

/-- The value of a field, for an object that has it. -/
def field? (j : Json) (key : String) : Option Json :=
  match j with
  | .obj fields => Dict.get? fields key
  | _ => none

mutual

/-- The value with every object in increasing order of its names; of two fields with one name the
later stays. -/
def canonical : Json → Json
  | .null => .null
  | .bool b => .bool b
  | .num n => .num n
  | .str s => .str s
  | .arr items => .arr (canonicalItems items)
  | .obj fields => .obj (Dict.ofList (canonicalFields fields))

/-- `canonical` on every item. -/
def canonicalItems : List Json → List Json
  | [] => []
  | j :: rest => canonical j :: canonicalItems rest

/-- `canonical` on the value of every field. -/
def canonicalFields : List (String × Json) → List (String × Json)
  | [] => []
  | (k, j) :: rest => (k, canonical j) :: canonicalFields rest

end

end Json

end Arcade
