import DefaultCredentials.Number.Literal
import DefaultCredentials.Text.Blank

/-!
# Markup in templates

Templates may hold tags in angle brackets that switch a style on and off.  Where no styles are
shown, `strip` removes the tags; a tag of no known style, or one that closes what is not open, makes
the whole template unusable.  A backslash before a tag is removed and the tag stays.
-/

namespace DefaultCredentials.Log.Markup

/-- The names of colours. -/
def colours : List String :=
  ["black", "red", "green", "yellow", "blue", "magenta", "cyan", "white"]

def colourLetters : List String :=
  ["k", "r", "g", "y", "e", "m", "c", "w"]

def foreground : List String :=
  colours ++ colours.map ("light-" ++ ·) ++ colourLetters ++ colourLetters.map ("l" ++ ·)

/-- The tags for styles other than colours. -/
def styles : List String :=
  ["bold", "dim", "normal", "italic", "underline", "blink", "reverse", "strike", "hide",
    "b", "d", "n", "i", "u", "l", "v", "s", "h", "level", "lvl"]

/-- Whether a text is a number of at most 255. -/
def isOctet (cs : List Char) : Bool :=
  !cs.isEmpty && cs.all Char.isDigit && Number.digitsValue cs ≤ 255

/-- Whether a text names a colour by a number, three numbers or hexadecimal digits. -/
def isCodedColour (cs : List Char) : Bool :=
  let isHex := fun (c : Char) => c.isDigit || ('a' ≤ c && c ≤ 'f') || ('A' ≤ c && c ≤ 'F')
  match cs with
  | '#' :: digits => (digits.length == 3 || digits.length == 6) && digits.all isHex
  | _ =>
    let parts := cs.splitBy fun _ b => b != ','
    isOctet cs || (parts.length == 3 &&
      (parts.map fun p => if p.head? == some ',' then p.drop 1 else p).all isOctet)

/-- Whether a tag is that of a known style. -/
def isKnown (tag : String) : Bool :=
  let lower := fun (s : String) => String.ofList (s.toList.map Char.toLower)
  let upper := fun (s : String) => String.ofList (s.toList.map Char.toUpper)
  let colour := String.ofList (tag.toList.drop 3)
  let names := fun (s : String) => foreground.contains (lower s) || isCodedColour s.toList
  styles.contains tag || foreground.contains tag
    || ((foreground.map upper).contains tag)
    || (("fg ".toList.isPrefixOf tag.toList || "bg ".toList.isPrefixOf tag.toList) && names colour)

/-- Whether a character can stand inside a tag. -/
def isTagChar (c : Char) : Bool :=
  c != '<' && c != '>' && !Text.isBlank c

/-- The tag with which characters begin: whether it closes, its name, and how long it is. -/
def tag? (cs : List Char) : Option (Bool × String × Nat) :=
  match cs with
  | '<' :: rest =>
    let closes := rest.head? == some '/'
    let inside := if closes then rest.drop 1 else rest
    let lead := if "fg ".toList.isPrefixOf inside || "bg ".toList.isPrefixOf inside then 3 else 0
    let name := inside.take lead ++ (inside.drop lead).takeWhile isTagChar
    if (inside.drop name.length).head? == some '>' then
      some (closes, String.ofList name, name.length + (if closes then 3 else 2))
    else none
  | _ => none

/-- Opens or closes a tag; the open ones are given with the last first. -/
def turn (opened : List String) (closes : Bool) (name : String) : Option (List String) :=
  if closes then
    match opened with
    | last :: before => if name == "" || name == last then some before else none
    | [] => none
  else if isKnown name then some (name :: opened)
  else none

/-- Removes the tags of a piece after a number of characters that are passed over. -/
def stripPiece (opened : List String) : Nat → List Char → Option (List Char × List String)
  | _, [] => some ([], opened)
  | passed + 1, _ :: rest => stripPiece opened passed rest
  | 0, c :: rest =>
    let keep := fun (kept : List Char × List String) => (c :: kept.1, kept.2)
    if c == '\\' then
      match tag? rest with
      | some (_, _, size) =>
        (stripPiece opened size rest).map fun kept => (rest.take size ++ kept.1, kept.2)
      | none => (stripPiece opened 0 rest).map keep
    else
      match tag? (c :: rest) with
      | some (closes, name, size) =>
        match turn opened closes name with
        | some opened => stripPiece opened (size - 1) rest
        | none => none
      | none => (stripPiece opened 0 rest).map keep

/-- Removes the tags of pieces in turn; in the end none may be open. -/
def stripAll (opened : List String) : List (List Char) → Option (List (List Char))
  | [] => if opened.isEmpty then some [] else none
  | piece :: rest =>
    match stripPiece opened 0 piece with
    | some (kept, opened) => (stripAll opened rest).map (kept :: ·)
    | none => none

/-- Cuts text behind each brace. -/
def pieces : List Char → List (List Char)
  | [] => []
  | c :: rest =>
    if c == '{' || c == '}' then [c] :: pieces rest
    else match pieces rest with
      | [] => [[c]]
      | p :: ps => (c :: p) :: ps

/-- Removes the tags of a text whose braces are to stand as they are.  No tag reaches over a
brace. -/
def strip (cs : List Char) : Option (List Char) :=
  (stripAll [] (pieces cs)).map List.flatten

end DefaultCredentials.Log.Markup
