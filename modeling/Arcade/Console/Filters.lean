import Arcade.Digest.Sha256
import Arcade.Console.Call
import Arcade.Text.Hex
/-!
# Filters

The programs of the bare host that make one stream of bytes into another: they copy it, take a part
of it, count, put its lines in order, replace bytes or write it in another form.

`filters` lists them by name.
-/

namespace Arcade.Console

/-! ### Parts of a stream -/

/-- Which part of a list is taken. -/
inductive Amount where
  | first (n : Nat)
  | butLast (n : Nat)
  | last (n : Nat)
  /-- from the `n`-th on, counted from 1 -/
  | onward (n : Nat)
  deriving DecidableEq, Repr

def Amount.of {α : Type} (a : Amount) (xs : List α) : List α :=
  match a with
  | .first n => xs.take n
  | .butLast n => xs.take (xs.length - n)
  | .last n => xs.drop (xs.length - n)
  | .onward n => xs.drop (n - 1)

/-- The part that an option of `head` asks for. -/
def headAmount? (value : String) : Option Amount :=
  match value.toList with
  | '-' :: cs => (numeral? cs).map .butLast
  | '+' :: cs => (numeral? cs).map .first
  | cs => (numeral? cs).map .first

/-- The part that an option of `tail` asks for. -/
def tailAmount? (value : String) : Option Amount :=
  match value.toList with
  | '+' :: cs => (numeral? cs).map .onward
  | '-' :: cs => (numeral? cs).map .last
  | cs => (numeral? cs).map .last

/-- The arguments with a leading `-5` written as `-n 5`. -/
def spelledOut : List String → List String
  | [] => []
  | a :: rest =>
    match a.toList with
    | '-' :: cs => if (numeral? cs).isSome then "-n" :: String.ofList cs :: rest else a :: rest
    | _ => a :: rest

/-- The complaint of a program that shows parts of files. -/
def partComplaint (c : Call) (file : String) (fault : FileFault) : String :=
  match fault with
  | .missing => c.program ++ ": cannot open '" ++ file ++ "' for reading: " ++ fault.message
  | .directory => c.program ++ ": error reading '" ++ file ++ "': " ++ fault.message

/-- Shows a part of each source, under headings if there are several. -/
def showParts (c : Call) (operands : List String) (part : Bytes → Bytes) : Done :=
  let sources := c.sources (if operands.isEmpty then ["-"] else operands) c.input
  let shown := sources.foldl
    (fun (done : Done) (file, content) =>
      match content with
      | .error fault =>
        { done with
          status := 1
          errors := done.errors ++ bytesOf (partComplaint c file fault ++ "\n") }
      | .ok b =>
        let name := if Call.isInput file then "standard input" else file
        let heading :=
          if sources.length < 2 then ""
          else (if done.output.isEmpty then "" else "\n") ++ "==> " ++ name ++ " <==\n"
        { done with output := done.output ++ bytesOf heading ++ part b })
    (c.wrote [])
  if sources.any fun s => Call.isInput s.1 then shown else { shown with left := c.input }

/-- How many bytes `head` reads at once. -/
def readSize : Nat := 8192

/-- The first lines or bytes. Bytes are read one by one; lines in blocks, so that something is lost
to the next reader. -/
def head (c : Call) : Done :=
  let manual : Manual := {
    flags := "qv", valued := "nc", names := [("lines", 'n'), ("bytes", 'c'), ("quiet", 'q')] }
  manual.read { c with arguments := spelledOut c.arguments } fun a =>
    let shown (amount : Amount) (part : Bytes → Bytes) (used : Bytes → Nat) : Done :=
      let done := showParts c a.operands part
      match amount with
      | .first _ => if done.left.isEmpty then { done with left := c.input.drop (used c.input) }
        else done
      | _ => done
    match a.value? 'c', a.value? 'n' with
    | some v, _ =>
      match headAmount? v with
      | some amount => shown amount amount.of fun b => (amount.of b).length
      | none => c.refuse ("invalid number of bytes: '" ++ v ++ "'")
    | none, v =>
      match headAmount? (v.getD "10") with
      | some amount =>
        let part (b : Bytes) : Bytes := (amount.of (linesOf b)).flatten
        shown amount part fun b => ((part b).length + readSize - 1) / readSize * readSize
      | none => c.refuse ("invalid number of lines: '" ++ v.getD "" ++ "'")

/-- The last lines or bytes. -/
def tail (c : Call) : Done :=
  let manual : Manual := {
    flags := "qv", valued := "nc", names := [("lines", 'n'), ("bytes", 'c'), ("quiet", 'q')] }
  manual.read { c with arguments := spelledOut c.arguments } fun a =>
    match a.value? 'c', a.value? 'n' with
    | some v, _ =>
      match tailAmount? v with
      | some amount => showParts c a.operands amount.of
      | none => c.refuse ("invalid number of bytes: '" ++ v ++ "'")
    | none, v =>
      match tailAmount? (v.getD "10") with
      | some amount => showParts c a.operands fun b => (amount.of (linesOf b)).flatten
      | none => c.refuse ("invalid number of lines: '" ++ v.getD "" ++ "'")

/-! ### Copies -/

/-- The lines with empty ones after an empty one left out. -/
def squeezeEmpty : (afterEmpty : Bool) → List Bytes → List Bytes
  | _, [] => []
  | afterEmpty, line :: rest =>
    let empty := line == [10]
    if empty && afterEmpty then squeezeEmpty true rest else line :: squeezeEmpty empty rest

/-- The lines with numbers before them, all or only those that are not empty. -/
def numbered (all : Bool) (gap : Bytes) : (n : Nat) → List Bytes → List Bytes
  | _, [] => []
  | n, line :: rest =>
    if all || line != [10] then
      (bytesOf (padLeft 6 (toString n) ' ' ++ "\t") ++ line) :: numbered all gap (n + 1) rest
    else (gap ++ line) :: numbered all gap n rest

/-- What comes in, with its lines numbered or marked if wanted. -/
def cat (c : Call) : Done :=
  let manual : Manual := {
    flags := "bEnsu"
    names := [("number", 'n'), ("number-nonblank", 'b'), ("show-ends", 'E'),
      ("squeeze-blank", 's')] }
  manual.read c fun a =>
    c.filter a.operands c.plainComplaint fun b =>
      if a.options.all fun o => o.1 == 'u' then b
      else
        let lines := if a.has 's' then squeezeEmpty false (linesOf b) else linesOf b
        let lines := if a.has 'E' then
            lines.map fun l => if l.getLast? = some 10 then bareLine l ++ [36, 10] else l
          else lines
        let lines := if a.has 'b' then numbered false [] 1 lines
          else if a.has 'n' then numbered true [] 1 lines
          else lines
        lines.flatten

/-- The lines that are not empty under their numbers. -/
def nl (c : Call) : Done :=
  Manual.read {} c fun a =>
    c.filter a.operands c.plainComplaint fun b =>
      (numbered false (List.replicate 7 32) 1 ((linesOf b).map fun l => bareLine l ++ [10])).flatten

/-- What comes in, also written to files. -/
def tee (c : Call) : Done :=
  Manual.read { flags := "ai", names := [("append", 'a')] } c fun a =>
    a.operands.foldl
      (fun (done : Done) file =>
        if file = "/dev/stderr" then { done with errors := done.errors ++ c.input }
        else if file = "/dev/stdout" then { done with output := done.output ++ c.input }
        else
          let before := if a.has 'a' then (done.files.get? file).getD [] else []
          match done.files.write file (before ++ c.input) with
          | .ok files => { done with files := files }
          | .error fault =>
            { done with
              status := 1
              errors := done.errors ++ bytesOf (c.plainComplaint file fault ++ "\n") })
      (c.wrote c.input)

/-! ### Counts -/

/-- Whether a byte separates words. -/
def isGap (b : UInt8) : Bool :=
  b = 32 || (9 ≤ b && b ≤ 13)

/-- How many words there are, the one that is being read not counted. -/
def countWords : (inWord : Bool) → Bytes → Nat
  | _, [] => 0
  | inWord, b :: rest =>
    if isGap b then countWords false rest
    else (if inWord then 0 else 1) + countWords true rest

/-- The counts that are wanted, in their fixed order. -/
def counts (a : Arguments) (b : Bytes) : List Nat :=
  let all := !("lwmcL".toList.any a.has)
  let longest := ((linesOf b).map fun l => (bareLine l).length).foldl max 0
  [(all || a.has 'l', b.count 10), (all || a.has 'w', countWords false b), (a.has 'm', b.length),
    (all || a.has 'c', b.length), (a.has 'L', longest)].filterMap
      fun (wanted, n) => if wanted then some n else none

/-- How many lines, words and bytes there are. A single count stands alone; others are set in
columns that are as wide as the sizes of files ask for, or seven wide if the input is counted. -/
def wc (c : Call) : Done :=
  let manual : Manual := {
    flags := "lwmcL"
    names := [("lines", 'l'), ("words", 'w'), ("chars", 'm'), ("bytes", 'c'),
      ("max-line-length", 'L')] }
  manual.read c fun a =>
    let sources := c.sources (if a.operands.isEmpty then ["-"] else a.operands) c.input
    let found := sources.map fun (file, content) => (file, content.map (counts a))
    let sizes := sources.map fun (_, content) => (content.toOption.getD []).length
    let single := a.operands.length ≤ 1 && (counts a []).length = 1
    let width :=
      if single then 1
      else if sources.any fun s => Call.isInput s.1 || s.1 == "/dev/null" then 7
      else (toString (sizes.foldl (· + ·) 0)).length
    let line (ns : List Nat) (name : String) : Bytes :=
      bytesOf (String.intercalate " " (ns.map fun n => padLeft width (toString n) ' ')
        ++ (if name.isEmpty then "" else " " ++ name) ++ "\n")
    let rows := found.filterMap fun (_, r) => r.toOption
    let zeros := (counts a []).map fun _ => 0
    let total := rows.foldl (fun sum row => List.zipWith (· + ·) sum row) zeros
    let errors := found.flatMap fun (file, r) =>
      match r with
      | .ok _ => []
      | .error fault => bytesOf (c.plainComplaint file fault ++ "\n")
    { status := if errors.isEmpty then 0 else 1
      output := (found.flatMap fun (file, r) =>
          match r with
          | .ok ns => line ns (if a.operands.isEmpty then "" else file)
          | .error .directory => line zeros file
          | .error .missing => [])
        ++ if sources.length < 2 then [] else line total "total"
      errors := errors
      left := if sources.any fun s => Call.isInput s.1 then [] else c.input
      files := c.files }

/-! ### Orders of lines -/

/-- The bytes of each line in reverse. -/
def rev (c : Call) : Done :=
  let complain (file : String) (fault : FileFault) : String :=
    c.program ++ ": cannot open " ++ file ++ ": " ++ fault.message
  Manual.read {} c fun a =>
    c.filter a.operands complain fun b =>
      (linesOf b).flatMap fun l =>
        (bareLine l).reverse ++ if l.getLast? = some 10 then [10] else []

/-- The lines in reverse. -/
def tac (c : Call) : Done :=
  let complain (file : String) (fault : FileFault) : String :=
    match fault with
    | .missing => c.program ++ ": failed to open '" ++ file ++ "' for reading: " ++ fault.message
    | .directory => c.program ++ ": " ++ file ++ ": read error: Invalid argument"
  Manual.read {} c fun a => c.filter a.operands complain fun b => (linesOf b).reverse.flatten

/-- Whether some bytes come before others or are the same. -/
def bytesLe : Bytes → Bytes → Bool
  | [], _ => true
  | _ :: _, [] => false
  | a :: as, b :: bs => if a = b then bytesLe as bs else a < b

/-- The number at the front of a line, in billionths. -/
def leadingNumber (line : Bytes) : Int :=
  let cs := ((textOf line).toList.dropWhile fun c => c == ' ' || c == '\t')
  let (negative, cs) := match cs with
    | '-' :: cs => (true, cs)
    | cs => (false, cs)
  let whole := cs.takeWhile Text.isAsciiDigit
  let part := match cs.drop whole.length with
    | '.' :: cs => cs.takeWhile Text.isAsciiDigit
    | _ => []
  let n := (numeral? (whole ++ (part ++ List.replicate 9 '0').take 9)).getD 0
  if negative then -Int.ofNat n else Int.ofNat n

/-- Removes each element that agrees with the one before it. -/
def firsts {α : Type} (agree : α → α → Bool) : List α → List α
  | [] => []
  | x :: rest =>
    match firsts agree rest with
    | [] => [x]
    | y :: more => if agree x y then x :: more else x :: y :: more

/-- The lines in order. Lines with the same key go by their bytes. -/
def sort (c : Call) : Done :=
  let complain (file : String) (fault : FileFault) : String :=
    match fault with
    | .missing => c.program ++ ": cannot read: " ++ file ++ ": " ++ fault.message
    | .directory => c.program ++ ": read failed: " ++ file ++ ": " ++ fault.message
  let manual : Manual := {
    flags := "rnufs"
    names := [("reverse", 'r'), ("numeric-sort", 'n'), ("unique", 'u'), ("ignore-case", 'f'),
      ("stable", 's')]
    failed := 2 }
  let upper (b : UInt8) : UInt8 := if 97 ≤ b && b ≤ 122 then b - 32 else b
  manual.read c fun a =>
    let keyLe (x y : Bytes) : Bool :=
      if a.has 'n' then leadingNumber x ≤ leadingNumber y
      else if a.has 'f' then bytesLe (x.map upper) (y.map upper)
      else bytesLe x y
    let same (x y : Bytes) : Bool := keyLe x y && keyLe y x
    let le (x y : Bytes) : Bool :=
      if same x y then a.has 'u' || a.has 's' || (if a.has 'r' then bytesLe y x else bytesLe x y)
      else if a.has 'r' then keyLe y x
      else keyLe x y
    c.filter a.operands complain (fun b =>
        let sorted := ((linesOf b).map bareLine).mergeSort le
        (if a.has 'u' then firsts same sorted else sorted).flatMap fun l => l ++ [10])
      2

/-- The lines that follow each other in groups of the same, each with its size. -/
def groups : List Bytes → List (Bytes × Nat)
  | [] => []
  | line :: rest =>
    match groups rest with
    | [] => [(line, 1)]
    | (other, n) :: more =>
      if line = other then (other, n + 1) :: more else (line, 1) :: (other, n) :: more

/-- One line of each group of the same. -/
def uniq (c : Call) : Done :=
  let complain (file : String) (fault : FileFault) : String :=
    match fault with
    | .missing => c.plainComplaint file fault
    | .directory => c.program ++ ": error reading '" ++ file ++ "': " ++ fault.message
  let manual : Manual := {
    flags := "cdu", names := [("count", 'c'), ("repeated", 'd'), ("unique", 'u')] }
  manual.read c fun a =>
    c.filter a.operands complain fun b =>
      (groups ((linesOf b).map bareLine)).flatMap fun (line, n) =>
        if (a.has 'd' && n < 2) || (a.has 'u' && 1 < n) then []
        else
          (if a.has 'c' then bytesOf (padLeft 7 (toString n) ' ' ++ " ") else []) ++ line ++ [10]

/-! ### Bytes and columns -/

/-- The value of the octal digits at the front, at most `most` of them, and what follows them. -/
def octal : (most : Nat) → (soFar : Nat) → List Char → Nat × List Char
  | 0, n, cs => (n, cs)
  | _, n, [] => (n, [])
  | most + 1, n, c :: cs =>
    if '0' ≤ c ∧ c ≤ '7' then octal most (8 * n + (c.toNat - 48)) cs else (n, c :: cs)

/-- The byte of an escaped letter. -/
def letterEscape? (c : Char) : Option Nat :=
  match c with
  | 'a' => some 7
  | 'b' => some 8
  | 't' => some 9
  | 'n' => some 10
  | 'v' => some 11
  | 'f' => some 12
  | 'r' => some 13
  | '\\' => some 92
  | _ => none

/-- Whether a byte belongs to a named class. -/
def inClass (name : String) (n : Nat) : Bool :=
  let upper := 65 ≤ n && n ≤ 90
  let lower := 97 ≤ n && n ≤ 122
  let digit := 48 ≤ n && n ≤ 57
  let graph := 33 ≤ n && n ≤ 126
  match name with
  | "upper" => upper
  | "lower" => lower
  | "alpha" => upper || lower
  | "digit" => digit
  | "alnum" => upper || lower || digit
  | "xdigit" => digit || (65 ≤ n && n ≤ 70) || (97 ≤ n && n ≤ 102)
  | "space" => n == 32 || (9 ≤ n && n ≤ 13)
  | "blank" => n == 32 || n == 9
  | "punct" => graph && !(upper || lower || digit)
  | "graph" => graph
  | "print" => graph || n == 32
  | "cntrl" => n < 32 || n == 127
  | _ => false

/-- The numbers of all bytes. -/
def allBytes : List Nat := List.range 256

/-- The first byte of a set description, and what follows it. -/
def setByte : List Char → Nat × List Char
  | '\\' :: c :: cs =>
    match letterEscape? c with
    | some n => (n, cs)
    | none => if '0' ≤ c ∧ c ≤ '7' then octal 3 0 (c :: cs) else (c.toNat, cs)
  | c :: cs => (c.toNat, cs)
  | [] => (0, [])

/-- The bytes of a set description: bytes, ranges and named classes. The counter bounds the
description. -/
def setBytes : (fuel : Nat) → List Char → Except String (List Nat)
  | 0, _ => .ok []
  | _, [] => .ok []
  | fuel + 1, '[' :: ':' :: cs =>
    let name := String.ofList (cs.takeWhile (· != ':'))
    match cs.dropWhile (· != ':') with
    | ':' :: ']' :: rest => (setBytes fuel rest).map (allBytes.filter (inClass name) ++ ·)
    | _ => (setBytes fuel (':' :: cs)).map (91 :: ·)
  | fuel + 1, cs =>
    match setByte cs with
    | (low, '-' :: c :: rest) =>
      let (high, after) := setByte (c :: rest)
      if high < low then
        .error ("range-endpoints of '" ++ String.ofList (cs.take (cs.length - after.length))
          ++ "' are in reverse collating sequence order")
      else (setBytes fuel after).map (List.range' low (high + 1 - low) ++ ·)
    | (n, rest) => (setBytes fuel rest).map (n :: ·)

/-- A list made as long as another by more of its last element. -/
def stretched (length : Nat) (xs : List Nat) : List Nat :=
  xs ++ List.replicate (length - xs.length) (xs.getLast?.getD 0)

/-- The bytes with those of a set left out after one of the same. -/
def squeeze (set : List Nat) : (before : Option UInt8) → Bytes → Bytes
  | _, [] => []
  | before, b :: rest =>
    if before = some b && set.contains b.toNat then squeeze set before rest
    else b :: squeeze set (some b) rest

/-- Bytes replaced by others, left out or written once for several. -/
def tr (c : Call) : Done :=
  let manual : Manual := {
    flags := "cCdst"
    names := [("complement", 'c'), ("delete", 'd'), ("squeeze-repeats", 's'),
      ("truncate-set1", 't')] }
  manual.read c fun a =>
    let delete := a.has 'd'
    let once := a.has 's'
    match a.operands.mapM fun s => setBytes s.length s.toList, a.operands with
    | _, [] => c.misused "missing operand"
    | .error e, _ => c.refuse e
    | .ok [_], [x] =>
      if delete != once then go a delete once [] else
        c.misused ("missing operand after '" ++ x ++ "'\n" ++
          if delete then "Two strings must be given when both deleting and squeezing repeats."
          else "Two strings must be given when translating.")
    | .ok sets, operands =>
      match sets, operands with
      | _, _ :: _ :: extra :: _ => c.misused ("extra operand '" ++ extra ++ "'")
      | _ :: second :: _, [_, y] =>
        if delete && !once then
          c.misused ("extra operand '" ++ y
            ++ "'\nOnly one string may be given when deleting without squeezing repeats.")
        else if second.isEmpty && !delete then
          c.refuse "when not truncating set1, string2 must be non-empty"
        else go a delete once second
      | _, _ => c.misused "missing operand"
where
  go (a : Arguments) (delete once : Bool) (second : List Nat) : Done :=
    let named := ((a.operands.head?.map fun s => setBytes s.length s.toList).bind
      Except.toOption).getD []
    let others := allBytes.filter fun n => !named.contains n
    let first := if a.has 'c' || a.has 'C' then others else named
    if delete then
      let kept := c.input.filter fun b => !first.contains b.toNat
      c.wrote (if once then squeeze second none kept else kept)
    else if a.operands.length < 2 then c.wrote (squeeze first none c.input)
    else
      let pairs := first.zip (if a.has 't' then second else stretched first.length second)
      let table := (allBytes.map fun n =>
        ((pairs.filter fun p => p.1 == n).getLast?.map (·.2)).getD n).toArray
      let out := c.input.map fun b => UInt8.ofNat (table.getD b.toNat b.toNat)
      c.wrote (if once then squeeze second none out else out)

/-- A range of places, counted from 1, without an end if that is nothing. -/
def range? (s : List Char) : Option (Nat × Option Nat) :=
  match s.takeWhile (· != '-'), s.dropWhile (· != '-') with
  | n, [] => (numeral? n).map fun n => (n, some n)
  | [], _ :: n => (numeral? n).map fun n => (1, some n)
  | n, [_] => (numeral? n).map fun n => (n, none)
  | n, _ :: m =>
    match numeral? n, numeral? m with
    | some n, some m => some (n, some m)
    | _, _ => none

/-- The elements at some places. -/
def chosen {α : Type} (ranges : List (Nat × Option Nat)) (xs : List α) : List α :=
  (xs.zipIdx 1).filterMap fun (x, i) =>
    if ranges.any fun (n, m) => n ≤ i && m.all (i ≤ ·) then some x else none

/-- Columns of each line: bytes or fields. -/
def cut (c : Call) : Done :=
  Manual.read { flags := "s", valued := "bcfd" } c fun a =>
    let work (list : String) (line : List (Nat × Option Nat) → Bytes → Bytes) : Done :=
      match (pieces ',' list.toList).mapM range? with
      | none => c.misused ("invalid byte, character or field list")
      | some ranges =>
        c.filter a.operands c.plainComplaint fun b =>
          (linesOf b).flatMap fun l => line ranges (bareLine l)
    match (a.value? 'b').or (a.value? 'c'), a.value? 'f' with
    | some list, _ => work list fun ranges l => chosen ranges l ++ [10]
    | none, some list =>
      let separator := ((bytesOf ((a.value? 'd').getD "\t")).head?).getD 9
      work list fun ranges l =>
        let fields := pieces separator l
        if fields.length < 2 then if a.has 's' then [] else l ++ [10]
        else ([separator].intercalate (chosen ranges fields)) ++ [10]
    | none, none => c.misused "you must specify a list of bytes, characters, or fields"

/-! ### Other forms -/

/-- The digits of base 64. -/
def sixFour : List Char :=
  "ABCDEFGHIJKLMNOPQRSTUVWXYZabcdefghijklmnopqrstuvwxyz0123456789+/".toList

/-- The digit for six bits. -/
def sixBits (n : Nat) : Char :=
  sixFour.getD (n % 64) '='

/-- Bytes in base 64, three in four digits. -/
def toSixFour : Bytes → List Char
  | [] => []
  | [a] => [sixBits (a.toNat / 4), sixBits (a.toNat * 16), '=', '=']
  | [a, b] =>
    let n := a.toNat * 256 + b.toNat
    [sixBits (n / 1024), sixBits (n / 16), sixBits (n * 4), '=']
  | a :: b :: c :: rest =>
    let n := (a.toNat * 256 + b.toNat) * 256 + c.toNat
    sixBits (n / 262144) :: sixBits (n / 4096) :: sixBits (n / 64) :: sixBits n :: toSixFour rest

/-- The bytes that digits of base 64 write, and whether they are well formed. -/
def ofSixFour : List Char → Bytes × Bool
  | [] => ([], true)
  | [a, b, '=', '='] =>
    match sixFour.idxOf? a, sixFour.idxOf? b with
    | some x, some y => ([UInt8.ofNat ((x * 64 + y) / 16)], true)
    | _, _ => ([], false)
  | [a, b, c, '='] =>
    match sixFour.idxOf? a, sixFour.idxOf? b, sixFour.idxOf? c with
    | some x, some y, some z =>
      let n := (x * 64 + y) * 64 + z
      ([UInt8.ofNat (n / 1024), UInt8.ofNat (n / 4)], true)
    | _, _, _ => ([], false)
  | a :: b :: c :: d :: rest =>
    match sixFour.idxOf? a, sixFour.idxOf? b, sixFour.idxOf? c, sixFour.idxOf? d with
    | some x, some y, some z, some w =>
      let n := ((x * 64 + y) * 64 + z) * 64 + w
      let (more, whole) := ofSixFour rest
      (UInt8.ofNat (n / 65536) :: UInt8.ofNat (n / 256) :: UInt8.ofNat n :: more, whole)
    | _, _, _, _ => ([], false)
  | _ => ([], false)

/-- Digits in lines of some width, or in one piece without a newline if the width is zero. The
counter bounds the lines. -/
def wrapped (width : Nat) : (fuel : Nat) → List Char → List Char
  | 0, _ => []
  | _, [] => []
  | fuel + 1, cs =>
    if width = 0 then cs else cs.take width ++ '\n' :: wrapped width fuel (cs.drop width)

/-- Bytes to and from base 64. -/
def base64 (c : Call) : Done :=
  let complain (file : String) (fault : FileFault) : String :=
    match fault with
    | .missing => c.plainComplaint file fault
    | .directory => c.program ++ ": read error: " ++ fault.message
  let manual : Manual := {
    flags := "di", valued := "w"
    names := [("decode", 'd'), ("wrap", 'w'), ("ignore-garbage", 'i')] }
  manual.read c fun a =>
    let digits (b : Bytes) : List Char :=
      (textOf b).toList.filter fun x => x != '\n' && (!a.has 'i' || sixFour.contains x || x == '=')
    if a.has 'd' then
      let done := c.filter a.operands complain fun b => (ofSixFour (digits b)).1
      let (b, _) := c.gather a.operands complain
      if done.status = 0 && !(ofSixFour (digits b)).2 then
        { done with status := 1, errors := bytesOf (c.program ++ ": invalid input\n") }
      else done
    else
      match numeral? ((a.value? 'w').getD "76").toList with
      | none => c.refuse ("invalid wrap size: '" ++ (a.value? 'w').getD "" ++ "'")
      | some width =>
        c.filter a.operands complain fun b =>
          bytesOf (String.ofList (wrapped width b.length.succ.succ (toSixFour b)))

/-- The digest of each source. -/
def sha256sum (c : Call) : Done :=
  Manual.read { flags := "bt" } c fun a =>
    let sources := c.sources (if a.operands.isEmpty then ["-"] else a.operands) c.input
    sources.foldl
      (fun (done : Done) (file, content) =>
        match content with
        | .ok b =>
          let line := Hex.encode (Sha256.digest b) ++ "  " ++ file ++ "\n"
          { done with output := done.output ++ bytesOf line }
        | .error fault =>
          { done with
            status := 1
            errors := done.errors ++ bytesOf (c.plainComplaint file fault ++ "\n") })
      (if sources.any fun s => Call.isInput s.1 then c.wrote []
        else { c.wrote [] with left := c.input })

/-! ### Without input -/

/-- The numbers from one to another by steps. The counter bounds them. -/
def steps (last step : Int) : (fuel : Nat) → (next : Int) → List Int
  | 0, _ => []
  | fuel + 1, next =>
    if (0 < step && last < next) || (step < 0 && next < last) then []
    else next :: steps last step fuel (next + step)

/-- Whole numbers from one to another. -/
def seq (c : Call) : Done :=
  -- a number below zero is an operand, not an option
  let (options, operands) := match c.arguments with
    | "-s" :: separator :: rest => ([separator], rest)
    | rest => ([], rest)
  match operands.find? fun s => (integer? s).isNone, operands.filterMap integer? with
  | some bad, _ => c.misused ("invalid floating point argument: '" ++ bad ++ "'")
  | none, numbers =>
    let run (first step last : Int) : Done :=
      if step = 0 then c.misused "invalid Zero increment value: '0'"
      else
        let count := ((last - first) / step).toNat + 1
        let texts := (steps last step count first).map fun n => toString n
        let line := String.intercalate (options.headD "\n") texts
        { c.wrote (if texts.isEmpty then [] else bytesOf (line ++ "\n")) with left := c.input }
    match numbers with
    | [] => c.misused "missing operand"
    | [last] => run 1 1 last
    | [first, last] => run first 1 last
    | [first, step, last] => run first step last
    | _ => c.misused ("extra operand '" ++ (operands.drop 3).headD "" ++ "'")

/-- How many lines are made of an endless output. -/
def endless : Nat := 50000

/-- A line again and again. A reader only ever takes a part of that, so some of it stands for
all. -/
def yes (c : Call) : Done :=
  let line := if c.arguments.isEmpty then "y" else String.intercalate " " c.arguments
  { c.wrote (List.replicate endless (bytesOf (line ++ "\n"))).flatten with left := c.input }

/-- Waits, which nobody notices here. -/
def sleep (c : Call) : Done :=
  let isTime (s : String) : Bool :=
    let cs := match s.toList.reverse with
      | u :: rest => if "smhd".toList.contains u then rest else u :: rest
      | [] => []
    !cs.isEmpty && cs.all fun x => Text.isAsciiDigit x || x == '.'
  match c.arguments, c.arguments.find? fun s => !isTime s with
  | [], _ => c.misused "missing operand"
  | _, some bad => c.misused ("invalid time interval '" ++ bad ++ "'")
  | _, none => { c.wrote [] with left := c.input }

/-- Removes files. -/
def rm (c : Call) : Done :=
  Manual.read { flags := "frRiv", names := [("force", 'f'), ("recursive", 'r')] } c fun a =>
    a.operands.foldl
      (fun (done : Done) file =>
        let known := (done.files.get? file).isSome
        if known then { done with files := done.files.filter fun entry => entry.1 != file }
        else if isDirectory file then
          { done with
            status := 1
            errors := done.errors
              ++ bytesOf (c.program ++ ": cannot remove '" ++ file ++ "': Is a directory\n") }
        else if a.has 'f' then done
        else
          { done with
            status := 1
            errors := done.errors ++ bytesOf (c.program ++ ": cannot remove '" ++ file
              ++ "': No such file or directory\n") })
      { c.wrote [] with left := c.input }

/-- The filters by name. -/
def filters : List (String × (Call → Done)) := [
  ("base64", base64), ("cat", cat), ("cut", cut), ("head", head), ("nl", nl), ("rev", rev),
  ("rm", rm), ("seq", seq), ("sha256sum", sha256sum), ("sleep", sleep), ("sort", sort),
  ("tac", tac), ("tail", tail), ("tee", tee), ("tr", tr), ("uniq", uniq), ("wc", wc),
  ("yes", yes)]

end Arcade.Console
