import Arcade.Json.Reading
import Arcade.Number.RealText
import Arcade.Text.Quoted
/-!
# Decoding records

A decoder turns a `Reading` into a value of a domain type, or gives the first fault from left to
right as a cause (`DecodeError`). Decoders of single values stand first; records are described by
the list of their fields (`Schema`), each of which says how it is stored into a record under
construction. The same description reads a record from

* an object, whose unknown fields are skipped, or refused by a strict schema, and whose missing
  fields are noticed at its end, or
* a list of its fields in their order, of which only optional ones may be missing at the end.
-/

namespace Arcade.Json

/-- What was found in place of what was expected. -/
inductive Found where
  | null
  | bool (b : Bool)
  | int (n : Int)
  | real (x : Float)
  | str (s : String)
  | list
  | map

/-- Why a reading is not a value of the wanted type. -/
inductive DecodeError where
  /-- the text is no document from here on -/
  | unreadable
  | invalidType (found : Found) (expected : String)
  | invalidValue (found : Found) (expected : String)
  | unknownField (name : String) (known : List String)
  | duplicateField (name : String)
  | missingField (name : String)
  /-- a list with too few items for the record -/
  | tooShort (length : Nat)
  /-- a list with items beyond those of the record -/
  | tooLong (length : Nat)
  | unknownVariant (name : String)
  /-- a value that cannot stand for one of several variants -/
  | noVariant

/-- Whether the fault lies in the text itself rather than in what it says. Lists that go on too
long and values that cannot name a variant are faults of the text when a text is read. -/
def DecodeError.isSyntactic : DecodeError → Bool
  | .unreadable => true
  | .tooLong _ => true
  | .noVariant => true
  | _ => false

/-- How a found value is named in messages. -/
def Found.text : Found → String
  | .null => "null"
  | .bool b => "boolean `" ++ (if b then "true" else "false") ++ "`"
  | .int n => "integer `" ++ toString n ++ "`"
  | .real x => "floating point `" ++ RealText.text .json x ++ "`"
  | .str s => "string " ++ Text.Quoted.quote s
  | .list => "sequence"
  | .map => "map"

/-- A name between the marks that set it off. -/
def marked (s : String) : String :=
  "`" ++ s ++ "`"

/-- How a choice of names is put in a message. -/
def choiceText : List String → String
  | [] => "there are no fields"
  | [a] => "expected " ++ marked a
  | [a, b] => "expected " ++ marked a ++ " or " ++ marked b
  | names => "expected one of " ++ String.intercalate ", " (names.map marked)

/-- The wording of a cause. -/
def DecodeError.message : DecodeError → String
  | .unreadable => "unreadable text"
  | .invalidType found expected => "invalid type: " ++ found.text ++ ", expected " ++ expected
  | .invalidValue found expected => "invalid value: " ++ found.text ++ ", expected " ++ expected
  | .unknownField name known => "unknown field " ++ marked name ++ ", " ++ choiceText known
  | .duplicateField name => "duplicate field " ++ marked name
  | .missingField name => "missing field " ++ marked name
  | .tooShort length => "invalid length " ++ toString length
  | .tooLong length =>
    "invalid length " ++ toString length ++ ", expected fewer elements in array"
  | .unknownVariant name => "unknown variant " ++ marked name
  | .noVariant => "expected a variant"

/-- What a decoder answers. -/
abbrev Decoded (α : Type) := Except DecodeError α

/-- What kind of value a reading shows, unless it cannot be read. -/
def Reading.found? : Reading → Option Found
  | .null => some .null
  | .bool b => some (.bool b)
  | .num (.int n) => some (.int n)
  | .num (.real x) => some (.real x)
  | .str s => some (.str s)
  | .arr _ _ => some .list
  | .obj _ _ => some .map
  | .broken => none
  | .refused => none
  | .tooDeep r => r.found?

/-- The fault of a reading that shows something else than expected. -/
def Reading.mismatch (r : Reading) (expected : String) : DecodeError :=
  match r.found? with
  | some found => .invalidType found expected
  | none => .unreadable

/-! ### Single values -/

namespace Decode

/-- Any value. -/
def json (r : Reading) : Decoded Json :=
  match r.toJson? with
  | some j => .ok j
  | none => .error .unreadable

/-- A text. -/
def str : Reading → Decoded String
  | .str s => .ok s
  | r => .error (r.mismatch "a string")

/-- A truth value. -/
def bool : Reading → Decoded Bool
  | .bool b => .ok b
  | r => .error (r.mismatch "a boolean")

/-- An integer within bounds; `name` is what messages call the type. -/
def intWithin (lo hi : Int) (name : String) : Reading → Decoded Int
  | .num (.int n) => if lo ≤ n ∧ n ≤ hi then .ok n else .error (.invalidValue (.int n) name)
  | r => .error (r.mismatch name)

/-- A natural number up to the given limit. -/
def word (limit : Nat) (name : String) (r : Reading) : Decoded Nat :=
  (intWithin 0 limit name r).map Int.toNat

def uint8 (r : Reading) : Decoded UInt8 := (word 255 "u8" r).map UInt8.ofNat
def uint32 (r : Reading) : Decoded UInt32 := (word Words.max32 "u32" r).map UInt32.ofNat
def uint64 (r : Reading) : Decoded UInt64 := (word Words.max64 "u64" r).map UInt64.ofNat

/-- A natural number of up to 64 bits. -/
def nat (r : Reading) : Decoded Nat := word Words.max64 "u64" r

def int8 (r : Reading) : Decoded Int8 := (intWithin (-128) 127 "i8" r).map Int8.ofInt
def int32 (r : Reading) : Decoded Int32 :=
  (intWithin Words.minInt32 Words.maxInt32 "i32" r).map Int32.ofInt

/-- An integer of up to 64 bits, with its sign. -/
def int64 (r : Reading) : Decoded Int := intWithin Words.minInt64 Words.maxInt64 "i64" r

/-- A double; integers stand for the nearest one. -/
def real : Reading → Decoded Float
  | .num n => .ok n.toReal
  | r => .error (r.mismatch "f64")

/-- `null`, or a value of the given type. -/
def nullable {α : Type} (f : Reading → Decoded α) : Reading → Decoded (Option α)
  | .null => .ok none
  | r => (f r).map some

/-- The items of a list one after the other, then its end. -/
def items {α : Type} (f : Reading → Decoded α) (ending : Ending) : List Reading → Decoded (List α)
  | [] => if ending = .closed then .ok [] else .error .unreadable
  | r :: rest => do
    let a ← f r
    let as ← items f ending rest
    .ok (a :: as)

/-- A list. -/
def list {α : Type} (f : Reading → Decoded α) : Reading → Decoded (List α)
  | .arr rs ending => items f ending rs
  | r => .error (r.mismatch "a sequence")

/-- The fields of an object one after the other, then its end. -/
def entries {α : Type} (f : Reading → Decoded α) (ending : Ending) :
    List (String × Reading) → Decoded (List (String × α))
  | [] => if ending = .closed then .ok [] else .error .unreadable
  | (k, r) :: rest => do
    let a ← f r
    let as ← entries f ending rest
    .ok ((k, a) :: as)

/-- A dictionary; of two fields with one name the later counts. -/
def dict {α : Type} (f : Reading → Decoded α) : Reading → Decoded (Dict α)
  | .obj fields ending => (entries f ending fields).map Dict.ofList
  | r => .error (r.mismatch "a map")

/-- One of several names. -/
def named {α : Type} (names : List (String × α)) (name : String) : Decoded α :=
  match Dict.get? names name with
  | some a => .ok a
  | none => .error (.unknownVariant name)

/-- One of several variants: its name, or an object with the name as only field and `null`. -/
def variant {α : Type} (names : List (String × α)) : Reading → Decoded α
  | .str s => named names s
  | .obj ((k, r) :: more) ending => do
    let a ← named names k
    match r with
    | .null => if more.isEmpty && ending == .closed then .ok a else .error .noVariant
    | other => .error (other.mismatch "unit")
  | .broken => .error .unreadable
  | .refused => .error .unreadable
  | .tooDeep _ => .error .unreadable
  | _ => .error .noVariant

end Decode

/-! ### Records -/

/-- A field of a record under construction `σ`. -/
structure Field (σ : Type) where
  name : String
  /-- whether a list of the fields may end before this one -/
  optional : Bool
  /-- stores what the field holds -/
  store : Reading → σ → Decoded σ

/-- A field whose value is decoded by `f` and put in its place by `set`. -/
def Field.of {σ α : Type} (name : String) (optional : Bool) (f : Reading → Decoded α)
    (set : α → σ → σ) : Field σ :=
  ⟨name, optional, fun r s => (f r).map (set · s)⟩

/-- The description of a record `α` that is built up in a `σ`. -/
structure Schema (σ α : Type) where
  /-- what messages call the record -/
  name : String
  fields : List (Field σ)
  /-- whether unknown fields are refused -/
  strict : Bool
  start : σ
  /-- the record, or the first field that is missing -/
  finish : σ → Decoded α

namespace Schema

variable {σ α : Type}

/-- The names of the fields. -/
def fieldNames (schema : Schema σ α) : List String :=
  schema.fields.map Field.name

/-- Stores the fields of an object in the order in which it lists them. -/
def storeFields (schema : Schema σ α) (ending : Ending) :
    List (String × Reading) → (seen : List String) → σ → Decoded σ
  | [], _, s => if ending = .closed then .ok s else .error .unreadable
  | (key, r) :: rest, seen, s =>
    match schema.fields.find? (fun f => f.name == key) with
    | none =>
      if schema.strict then .error (.unknownField key schema.fieldNames)
      else if r.isWhole then storeFields schema ending rest seen s
      else .error .unreadable
    | some f =>
      if seen.contains key then .error (.duplicateField key)
      else do
        let s ← f.store r s
        storeFields schema ending rest (key :: seen) s

/-- Stores the items of a list in the order of the fields. -/
def storeItems (ending : Ending) : List (Field σ) → List Reading → (count : Nat) → σ → Decoded σ
  | [], [], _, s => if ending = .closed then .ok s else .error .unreadable
  | [], more, count, _ => .error (.tooLong (count + more.length))
  | f :: fs, [], count, s =>
    if ending ≠ .closed then .error .unreadable
    else if f.optional then storeItems ending fs [] count s
    else .error (.tooShort count)
  | f :: fs, r :: rest, count, s => do
    let s ← f.store r s
    storeItems ending fs rest (count + 1) s

/-- Decodes a record. -/
def decode (schema : Schema σ α) : Reading → Decoded α
  | .obj fields ending => do
    let s ← schema.storeFields ending fields [] schema.start
    schema.finish s
  | .arr items ending => do
    let s ← storeItems ending schema.fields items 0 schema.start
    schema.finish s
  | r => .error (r.mismatch ("struct " ++ schema.name))

end Schema

/-- A field that must have been stored. -/
def required {α : Type} (name : String) : Option α → Decoded α
  | some a => .ok a
  | none => .error (.missingField name)

/-- Decodes a whole text. -/
def decodeText {α : Type} (f : Reading → Decoded α) (s : String) : Decoded α :=
  let d := read s
  match f d.root with
  | .error e => .error e
  | .ok a => if d.ends then .ok a else .error .unreadable

end Arcade.Json
