import Arcade.Console.Call
import Arcade.Console.Script
/-!
# Sums in scripts

Expressions over whole numbers and variables, with the operators of arithmetic, of comparison and of
logic. A comparison has the value one or zero. A dollar sign before a name changes nothing.

`Sum.value` reads an expression and gives its value. Operators of a level bind weaker than those of
the next one, and those of the same level are taken from left to right.
-/

namespace Arcade.Console.Sum

/-- What an expression is made of. -/
inductive Symbol where
  | number (n : Int)
  | name (s : String)
  | sign (s : String)
  deriving DecidableEq, Repr

/-- The symbols of an expression. The counter bounds it. -/
def symbols : (fuel : Nat) → List Char → List Symbol
  | 0, _ => []
  | _, [] => []
  | fuel + 1, c :: cs =>
    if Text.isAsciiDigit c then
      let digits := (c :: cs).takeWhile Text.isAsciiDigit
      .number (Int.ofNat ((numeral? digits).getD 0)) :: symbols fuel ((c :: cs).drop digits.length)
    else if isNameChar c then
      let name := (c :: cs).takeWhile isNameChar
      .name (String.ofList name) :: symbols fuel ((c :: cs).drop name.length)
    else if c = ' ' || c = '\n' || c = '\t' || c = '$' || c = '\x7b' || c = '\x7d' then
      symbols fuel cs
    else
      match cs with
      | d :: rest =>
        let two := String.ofList [c, d]
        if ["<=", ">=", "==", "!=", "&&", "||"].contains two then .sign two :: symbols fuel rest
        else .sign c.toString :: symbols fuel cs
      | [] => [.sign c.toString]

/-- The operators, the weakest first. -/
def levels : List (List String) := [
  ["||"], ["&&"], ["==", "!="], ["<", "<=", ">", ">="], ["+", "-"], ["*", "/", "%"]]

/-- The number that stands for whether something holds. -/
def truth (b : Bool) : Int :=
  if b then 1 else 0

/-- What an operator makes of two values; nothing when it would divide by zero. -/
def operate (operator : String) (x y : Int) : Option Int :=
  match operator with
  | "||" => some (truth (x != 0 || y != 0))
  | "&&" => some (truth (x != 0 && y != 0))
  | "==" => some (truth (x == y))
  | "!=" => some (truth (x != y))
  | "<" => some (truth (x < y))
  | "<=" => some (truth (x ≤ y))
  | ">" => some (truth (y < x))
  | ">=" => some (truth (y ≤ x))
  | "+" => some (x + y)
  | "-" => some (x - y)
  | "*" => some (x * y)
  | "/" => if y = 0 then none else some (x.tdiv y)
  | "%" => if y = 0 then none else some (x.tmod y)
  | _ => none

/-- What is wrong with an expression. -/
inductive Fault where
  | unreadable
  | zeroDivision
  deriving DecidableEq, Repr

/-- Values joined by the operators of a level, from left to right, given how the values are read.
The counter bounds them. -/
def joined (operators : List String) (next : List Symbol → Except Fault (Int × List Symbol)) :
    (fuel : Nat) → (x : Int) → List Symbol → Except Fault (Int × List Symbol)
  | fuel + 1, x, .sign s :: rest =>
    if operators.contains s then
      match next rest with
      | .error e => .error e
      | .ok (y, rest) =>
        match operate s x y with
        | some z => joined operators next fuel z rest
        | none => .error .zeroDivision
    else .ok (x, .sign s :: rest)
  | _, x, rest => .ok (x, rest)

/-- The value of the operators from a level on, given how single values are read. -/
def level (single : List Symbol → Except Fault (Int × List Symbol)) :
    List (List String) → List Symbol → Except Fault (Int × List Symbol)
  | [], ss => single ss
  | operators :: stronger, ss =>
    match level single stronger ss with
    | .error e => .error e
    | .ok (x, rest) => joined operators (level single stronger) ss.length x rest

/-- A single value: a number, a variable, a signed value or an expression in brackets. The counter
bounds it. -/
def single (value : String → Int) :
    (fuel : Nat) → List Symbol → Except Fault (Int × List Symbol)
  | _, .number n :: rest => .ok (n, rest)
  | _, .name s :: rest => .ok (value s, rest)
  | fuel + 1, .sign "-" :: rest => (single value fuel rest).map fun (x, rest) => (-x, rest)
  | fuel + 1, .sign "+" :: rest => single value fuel rest
  | fuel + 1, .sign "!" :: rest =>
    (single value fuel rest).map fun (x, rest) => (truth (x == 0), rest)
  | fuel + 1, .sign "(" :: rest =>
    match level (single value fuel) levels rest with
    | .ok (x, .sign ")" :: rest) => .ok (x, rest)
    | .ok _ => .error .unreadable
    | .error e => .error e
  | _, _ => .error .unreadable

/-- The value of an expression. -/
def value (known : String → Int) (expression : List Char) : Except Fault Int :=
  let ss := symbols expression.length expression
  if ss.isEmpty then .ok 0
  else
    match level (single known ss.length) levels ss with
    | .ok (x, []) => .ok x
    | .ok _ => .error .unreadable
    | .error e => .error e

end Arcade.Console.Sum
