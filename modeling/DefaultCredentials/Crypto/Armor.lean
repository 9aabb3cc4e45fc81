import DefaultCredentials.Octets.Base64

/-!
# Armored octets

Keys and certificates travel as lines of base 64 between an opening and a closing line with one
label.  `Armor.ofText` lists what a text holds; a body that is not base 64, or that is never
closed, ends the list with a refusal.
-/

namespace DefaultCredentials

/-- Octets with their label; no octets mean that the body could not be read. -/
structure Armor where
  label : String
  content? : Option (List UInt8)
  deriving Repr, DecidableEq

namespace Armor

def lines : List Char → List (List Char)
  | [] => [[]]
  | c :: rest =>
    match lines rest with
    | [] => [[c]]
    | l :: ls => if c == '\n' then [] :: l :: ls else (c :: l) :: ls

/-- Removes blanks from the end of a line. -/
def trimEnd (l : List Char) : List Char :=
  (l.reverse.dropWhile (·.toNat ≤ 32)).reverse

/-- The label of a line with the given start. -/
def label? (start : List Char) (l : List Char) : Option (List Char) :=
  let rest := l.drop start.length
  let dashes := "-----".toList
  if start.isPrefixOf l && dashes.isSuffixOf rest && dashes.length < rest.length then
    some (rest.take (rest.length - dashes.length))
  else none

/-- Reads lines; an open body is given with its label, its lines the last one first. -/
def read : Option (List Char × List (List Char)) → List (List Char) → List Armor
  | none, [] => []
  | some (label, _), [] => [⟨String.ofList label, none⟩]
  | none, l :: rest =>
    match label? "-----BEGIN ".toList l with
    | some label => read (some (label, [])) rest
    | none => read none rest
  | some (label, body), l :: rest =>
    if "-----END ".toList.isPrefixOf l then
      if label? "-----END ".toList l == some label then
        ⟨String.ofList label, Base64.decode? body.reverse.flatten⟩ :: read none rest
      else [⟨String.ofList label, none⟩]
    else read (some (label, l :: body)) rest

/-- What a text holds. -/
def ofText (cs : List Char) : List Armor :=
  read none ((lines cs).map trimEnd)

/-- What octets hold, one character for each. -/
def ofOctets (bytes : List UInt8) : List Armor :=
  ofText (bytes.map fun b => Char.ofNat b.toNat)

end Armor
end DefaultCredentials
