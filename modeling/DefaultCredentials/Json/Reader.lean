import DefaultCredentials.Json.Refusal
import DefaultCredentials.Number.Literal
import DefaultCredentials.Value

/-!
# Reading JSON

Every reader takes the characters from its place on and returns what it read with the characters
that are left.  A reader that stops reports how many characters were left, which fixes the place
once the length of the document is known.  Beyond the standard grammar the words `NaN`,
`Infinity` and `-Infinity` are numbers, and of members with one name the last counts.
-/

namespace DefaultCredentials.Json

/-- Why a reader stopped; a complaint carries the number of characters that were left. -/
inductive Stop
  | complaint (c : Complaint) (left : Nat)
  | digits (count : Nat)
  | nesting (container : Container)
  deriving Repr, DecidableEq

def isBlank (c : Char) : Bool :=
  c == ' ' || c == '\t' || c == '\n' || c == '\r'

/-- The characters after leading blanks. -/
def skip (cs : List Char) : List Char :=
  cs.dropWhile isBlank

/-- The value of a hexadecimal digit. -/
def hexValue? (c : Char) : Option Nat :=
  if '0' ≤ c && c ≤ '9' then some (c.toNat - '0'.toNat)
  else if 'a' ≤ c && c ≤ 'f' then some (c.toNat - 'a'.toNat + 10)
  else if 'A' ≤ c && c ≤ 'F' then some (c.toNat - 'A'.toNat + 10)
  else none

/-- The number written by four hexadecimal digits. -/
def unit? (a b c d : Char) : Option Nat := do
  let a ← hexValue? a
  let b ← hexValue? b
  let c ← hexValue? c
  let d ← hexValue? d
  return ((a * 16 + b) * 16 + c) * 16 + d

/-- The character that a letter stands for after a backslash. -/
def shortEscape? (c : Char) : Option Char :=
  if c == '"' || c == '\\' || c == '/' then some c
  else if c == 'b' then some '\x08'
  else if c == 'f' then some '\x0c'
  else if c == 'n' then some '\n'
  else if c == 'r' then some '\r'
  else if c == 't' then some '\t'
  else none

/-- Reads the rest of a text after its opening quote, where `opened` characters were left at that
quote.  The code points are as they are written, one for each escape.  An escape by number needs a
further character behind it. -/
def readText (opened : Nat) (read : List Text.Point) :
    List Char → Except Stop (List Text.Point × List Char)
  | [] => .error (.complaint .unterminated opened)
  | c :: rest =>
    if c == '"' then .ok (read.reverse, rest)
    else if c == '\\' then
      match rest with
      | [] => .error (.complaint .unterminated opened)
      | e :: rest1 =>
        if e == 'u' then
          match rest1 with
          | h1 :: h2 :: h3 :: h4 :: next :: rest2 =>
            match unit? h1 h2 h3 h4 with
            | none => .error (.complaint .unicodeEscape (rest2.length + 6))
            | some n => readText opened (.ofUnit n :: read) (next :: rest2)
          | short => .error (.complaint .unicodeEscape (short.length + 1))
        else
          match shortEscape? e with
          | some x => readText opened (.char x :: read) rest1
          | none => .error (.complaint .escape (rest1.length + 2))
    else if c.toNat < 0x20 then .error (.complaint .control (rest.length + 1))
    else readText opened (.char c :: read) rest

/-- Splits the whole digits of a number off: a zero alone, or digits that start with another. -/
def splitWhole : List Char → List Char × List Char
  | '0' :: rest => (['0'], rest)
  | cs => (cs.takeWhile Char.isDigit, cs.dropWhile Char.isDigit)

/-- Splits a fraction off, if a digit follows the point. -/
def splitFraction? : List Char → Option (List Char × List Char)
  | '.' :: d :: rest =>
    if d.isDigit then some (d :: rest.takeWhile Char.isDigit, rest.dropWhile Char.isDigit)
    else none
  | _ => none

/-- Splits a power of ten off, if it has a digit. -/
def splitPower? : List Char → Option (Int × List Char)
  | e :: rest =>
    let (negative, rest) := Number.splitSign rest
    let digits := rest.takeWhile Char.isDigit
    if (e == 'e' || e == 'E') && !digits.isEmpty then
      let n : Int := Number.digitsValue digits
      some (if negative then -n else n, rest.dropWhile Char.isDigit)
    else none
  | [] => none

/-- Reads a number; `left` characters were left at its start. -/
def readNumber (left : Nat) (negative : Bool) (cs : List Char) :
    Except Stop (Value × List Char) :=
  let (whole, rest) := splitWhole cs
  if whole.isEmpty then .error (.complaint .value left)
  else
    let fraction := splitFraction? rest
    let (fractionDigits, rest) := fraction.getD ([], rest)
    let power := splitPower? rest
    let (power10, rest) := power.getD (0, rest)
    if fraction.isSome || power.isSome then
      .ok (.float (Number.ofDigits negative whole fractionDigits power10), rest)
    else if maxDigits < whole.length then .error (.digits whole.length)
    else
      let n : Int := Number.digitsValue whole
      .ok (.int (if negative then -n else n), rest)

/-- The words that stand for values. -/
def words : List (List Char × Value) :=
  [("null".toList, .null), ("true".toList, .bool true), ("false".toList, .bool false),
    ("NaN".toList, .float Number.nan), ("Infinity".toList, .float (Number.infinity false)),
    ("-Infinity".toList, .float (Number.infinity true))]

/-- Reads a word or a number. -/
def readScalar (cs : List Char) : Except Stop (Value × List Char) :=
  match words.find? (·.1.isPrefixOf cs) with
  | some (word, v) => .ok (v, cs.drop word.length)
  | none =>
    match cs with
    | '-' :: rest => readNumber cs.length true rest
    | _ => readNumber cs.length false cs

/-- Reads items up to the end of an array with the reader for one; the first argument bounds
their number. -/
def readItems (readOne : List Char → Except Stop (Value × List Char)) :
    Nat → List Value → List Char → Except Stop (List Value × List Char)
  | 0, _, cs => .error (.complaint .value cs.length)
  | more + 1, items, cs =>
    match readOne cs with
    | .error stop => .error stop
    | .ok (v, rest) =>
      match skip rest with
      | ',' :: rest => readItems readOne more (v :: items) (skip rest)
      | ']' :: rest => .ok ((v :: items).reverse, rest)
      | other => .error (.complaint .comma other.length)

/-- Reads members up to the end of an object with the reader for values; the first argument
bounds their number. -/
def readMembers (readOne : List Char → Except Stop (Value × List Char)) :
    Nat → List (String × Value) → List Char → Except Stop (List (String × Value) × List Char)
  | 0, _, cs => .error (.complaint .name cs.length)
  | more + 1, members, cs =>
    match cs with
    | '"' :: rest =>
      match readText cs.length [] rest with
      | .error stop => .error stop
      | .ok (points, rest) =>
        match skip rest with
        | ':' :: rest =>
          match readOne (skip rest) with
          | .error stop => .error stop
          | .ok (v, rest) =>
            let members := Entries.put members (Text.ofPoints points) v
            match skip rest with
            | ',' :: rest => readMembers readOne more members (skip rest)
            | '}' :: rest => .ok (members, rest)
            | other => .error (.complaint .comma other.length)
        | other => .error (.complaint .colon other.length)
    | other => .error (.complaint .name other.length)

/-- Reads a value whose arrays and objects nest at most as deep as the first argument says. -/
def readValue : Nat → List Char → Except Stop (Value × List Char)
  | depth, cs =>
    match cs with
    | '"' :: rest => (readText cs.length [] rest).map fun (points, rest) => (.ofPoints points, rest)
    | '[' :: rest =>
      match depth with
      | 0 => .error (.nesting .array)
      | depth + 1 =>
        match skip rest with
        | ']' :: rest => .ok (.list [], rest)
        | inside =>
          (readItems (readValue depth) inside.length.succ [] inside).map
            fun (items, rest) => (.list items, rest)
    | '{' :: rest =>
      match depth with
      | 0 => .error (.nesting .object)
      | depth + 1 =>
        match skip rest with
        | '}' :: rest => .ok (.object [], rest)
        | inside =>
          (readMembers (readValue depth) inside.length.succ [] inside).map
            fun (members, rest) => (.object members, rest)
    | _ => readScalar cs

/-- How deep arrays and objects may nest. -/
def maxDepth : Nat :=
  990

/-- Reads a whole document, blanks around its value allowed. -/
def readDocument (cs : List Char) : Except Stop Value :=
  match readValue maxDepth (skip cs) with
  | .error stop => .error stop
  | .ok (v, rest) =>
    match skip rest with
    | [] => .ok v
    | other => .error (.complaint .extra other.length)

/-- Places what stopped a reader in the document. -/
def Stop.refusal (document : List Char) : Stop → Refusal
  | complaint c left => .misplaced c (.after (document.take (document.length - left)))
  | digits count => .digits count
  | nesting container => .nesting container

def read (document : String) : Except Refusal Value :=
  let cs := document.toList
  if cs.head? == some (Char.ofNat 0xFEFF) then .error (.misplaced .byteOrderMark (.after []))
  else (readDocument cs).mapError (·.refusal cs)

end DefaultCredentials.Json
