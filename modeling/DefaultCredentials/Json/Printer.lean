import DefaultCredentials.Number.Display
import DefaultCredentials.Text.Quoted
import DefaultCredentials.Value

/-!
# Writing JSON

A value on one line of ASCII: a comma and a space between items, a colon and a space after a
name, members in their order.  Characters outside ASCII are written by their UTF-16 units, and so
are halves of pairs by themselves.
-/

namespace DefaultCredentials.Json

/-- The words for the numbers that JSON has no digits for. -/
def numberWords : Number.Words :=
  ⟨"Infinity", "NaN"⟩

/-- An escape by number. -/
def unitEscape (n : Nat) : List Char :=
  '\\' :: 'u' :: Text.hex 4 n

/-- How a character is written inside a text. -/
def escapeChar (c : Char) : List Char :=
  if c == '"' || c == '\\' then ['\\', c]
  else if c == '\n' then ['\\', 'n']
  else if c == '\r' then ['\\', 'r']
  else if c == '\t' then ['\\', 't']
  else if c == '\x08' then ['\\', 'b']
  else if c == '\x0c' then ['\\', 'f']
  else if 0x20 ≤ c.toNat && c.toNat < 0x7F then [c]
  else if c.toNat < 0x10000 then unitEscape c.toNat
  else
    unitEscape (0xD800 + (c.toNat - 0x10000) / 0x400)
      ++ unitEscape (0xDC00 + (c.toNat - 0x10000) % 0x400)

/-- How a code point is written inside a text. -/
def escapePoint : Text.Point → List Char
  | .char c => escapeChar c
  | p => unitEscape p.code

/-- A text between double quotes. -/
def writeText (s : String) : List Char :=
  '"' :: s.toList.flatMap escapeChar ++ ['"']

mutual

/-- The characters of a value. -/
def writeValue : Value → List Char
  | .null => "null".toList
  | .bool b => if b then "true".toList else "false".toList
  | .int i => (toString i).toList
  | .float x => (Number.showFloat numberWords x).toList
  | .text s => writeText s
  | .ragged r => '"' :: r.points.flatMap escapePoint ++ ['"']
  | .list items => '[' :: writeItems items ++ [']']
  | .object members => '{' :: writeMembers members ++ ['}']

/-- The items of a list, separated by commas. -/
def writeItems : List Value → List Char
  | [] => []
  | [v] => writeValue v
  | v :: rest => writeValue v ++ ',' :: ' ' :: writeItems rest

/-- The members of an object, separated by commas. -/
def writeMembers : List (String × Value) → List Char
  | [] => []
  | [(name, v)] => writeText name ++ ':' :: ' ' :: writeValue v
  | (name, v) :: rest =>
    writeText name ++ ':' :: ' ' :: writeValue v ++ ',' :: ' ' :: writeMembers rest

end

def write (v : Value) : String :=
  String.ofList (writeValue v)

end DefaultCredentials.Json
