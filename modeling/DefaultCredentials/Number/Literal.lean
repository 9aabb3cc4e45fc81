import DefaultCredentials.Number.Binary64
import DefaultCredentials.Text.Blank
import DefaultCredentials.Text.DecimalDigit

/-!
# Numbers written as text

A literal is a sign, digits with an optional point, an optional power of ten, or one of the words
for infinity and for no number.  `literal?` reads it in full; `ofText?` is the generous reader
that also takes blanks around it, underscores between digits and the digits of all scripts.
-/

namespace DefaultCredentials.Number

/-- The value of a row of decimal digits. -/
def digitsValue (cs : List Char) : Nat :=
  cs.foldl (fun n c => 10 * n + (c.toNat - '0'.toNat)) 0

/-- Splits a sign off; the flag says whether it was a minus. -/
def splitSign : List Char → Bool × List Char
  | '-' :: rest => (true, rest)
  | '+' :: rest => (false, rest)
  | cs => (false, cs)

/-- The double with the given digits before and after the point, times a power of ten. -/
def ofDigits (negative : Bool) (whole fraction : List Char) (power : Int) : Float :=
  let significant := (whole ++ fraction).dropWhile (· == '0')
  ofDecimal negative (digitsValue significant) significant.length (power - fraction.length)

/-- The power of ten at the end of a literal; an absent one is zero. -/
def power? : List Char → Option Int
  | [] => some 0
  | e :: rest =>
    let (negative, digits) := splitSign rest
    if (e == 'e' || e == 'E') && !digits.isEmpty && digits.all Char.isDigit then
      let n : Int := digitsValue digits
      some (if negative then -n else n)
    else none

def splitFraction : List Char → List Char × List Char
  | '.' :: rest => (rest.takeWhile Char.isDigit, rest.dropWhile Char.isDigit)
  | cs => ([], cs)

/-- An unsigned literal made of digits. -/
def unsigned? (negative : Bool) (cs : List Char) : Option Float :=
  let whole := cs.takeWhile Char.isDigit
  let (fraction, rest) := splitFraction (cs.dropWhile Char.isDigit)
  if whole.isEmpty && fraction.isEmpty then none
  else (power? rest).map (ofDigits negative whole fraction)

/-- A literal, in full. -/
def literal? (cs : List Char) : Option Float :=
  let (negative, body) := splitSign cs
  let word := String.ofList (body.map Char.toLower)
  if word == "inf" || word == "infinity" then some (infinity negative)
  else if word == "nan" then some nan
  else unsigned? negative body

/-- Whether every underscore stands between two digits, the first character following `last`. -/
def underscoresBetween (last : Char) : List Char → Bool
  | [] => last != '_'
  | c :: rest =>
    (if c == '_' then last.isDigit else last != '_' || c.isDigit) && underscoresBetween c rest

/-- Writes blanks and digits of all scripts in ASCII. -/
def toAscii (c : Char) : Char :=
  if c.toNat < 127 then c
  else if Text.isBlank c then ' '
  else match Text.digitValue? c with
    | some d => Nat.digitChar d
    | none => c

/-- The number that a text stands for, generously read. -/
def ofText? (s : String) : Option Float :=
  let cs := Text.trimWhere Text.isAsciiBlank (s.toList.map toAscii)
  if cs.contains '_' then
    if underscoresBetween ' ' cs then literal? (cs.filter (· != '_')) else none
  else literal? cs

end DefaultCredentials.Number
