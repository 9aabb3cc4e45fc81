/-!
# Why a JSON document is refused

A document is refused at a place, for a number of too many digits, or for nesting that is too
deep.  A place is given as a character offset and as line and column, both counted from one.
-/

namespace DefaultCredentials.Json

/-- What was wrong at a place. -/
inductive Complaint
  | byteOrderMark
  | value
  | name
  | colon
  | comma
  | extra
  | unterminated
  | control
  | escape
  | unicodeEscape
  deriving Repr, DecidableEq

def Complaint.wording : Complaint → String
  | byteOrderMark => "Unexpected UTF-8 BOM (decode using utf-8-sig)"
  | value => "Expecting value"
  | name => "Expecting property name enclosed in double quotes"
  | colon => "Expecting ':' delimiter"
  | comma => "Expecting ',' delimiter"
  | extra => "Extra data"
  | unterminated => "Unterminated string starting at"
  | control => "Invalid control character at"
  | escape => "Invalid \\escape"
  | unicodeEscape => "Invalid \\uXXXX escape"

/-- A place in a document. -/
structure Place where
  line : Nat
  column : Nat
  offset : Nat
  deriving Repr, DecidableEq

/-- The place after the given characters of a document. -/
def Place.after (cs : List Char) : Place :=
  { line := cs.count '\n' + 1
    column := (cs.reverse.takeWhile (· != '\n')).length + 1
    offset := cs.length }

inductive Container
  | array
  | object
  deriving Repr, DecidableEq

def Container.wording : Container → String
  | array => "array"
  | object => "object"

/-- The most digits that a whole number may have. -/
def maxDigits : Nat :=
  4300

inductive Refusal
  | misplaced (complaint : Complaint) (place : Place)
  | digits (count : Nat)
  | nesting (container : Container)
  deriving Repr, DecidableEq

def Refusal.message : Refusal → String
  | misplaced complaint place =>
    complaint.wording ++ ": line " ++ toString place.line ++ " column " ++ toString place.column
      ++ " (char " ++ toString place.offset ++ ")"
  | digits count =>
    "Exceeds the limit (" ++ toString maxDigits
      ++ " digits) for integer string conversion: value has " ++ toString count
      ++ " digits; use sys.set_int_max_str_digits() to increase the limit"
  | nesting container =>
    "maximum recursion depth exceeded while decoding a JSON " ++ container.wording
      ++ " from a unicode string"

end DefaultCredentials.Json
