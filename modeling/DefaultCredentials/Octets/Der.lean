import DefaultCredentials.Octets.BigEndian

/-!
# Tagged octets

Keys and certificates are written as elements, each a tag, a length and its content; the content
of a constructed element is a row of elements.
-/

namespace DefaultCredentials.Der

/-- An element. -/
structure Element where
  tag : Nat
  content : List UInt8
  deriving Repr, DecidableEq

/-- Splits a length off: one octet below 128, or the number of octets that follow. -/
def length? : List UInt8 → Option (Nat × List UInt8)
  | [] => none
  | b :: rest =>
    if b < 0x80 then some (b.toNat, rest)
    else
      let count := b.toNat - 0x80
      if count = 0 || 4 < count || rest.length < count then none
      else some (BigEndian.toNat (rest.take count), rest.drop count)

/-- Splits the first element off. -/
def first? : List UInt8 → Option (Element × List UInt8)
  | [] => none
  | tag :: rest => do
    let (count, rest) ← length? rest
    if rest.length < count then none
    else some (⟨tag.toNat, rest.take count⟩, rest.drop count)

/-- Reads a row of elements; the first argument bounds their number. -/
def row? : Nat → List UInt8 → Option (List Element)
  | _, [] => some []
  | 0, _ => none
  | n + 1, bytes => do
    let (e, rest) ← first? bytes
    return e :: (← row? n rest)

/-- The elements inside a sequence. -/
def Element.parts? (e : Element) : Option (List Element) :=
  if e.tag = 0x30 then row? e.content.length e.content else none

/-- The only element of octets, if nothing follows it. -/
def single? (bytes : List UInt8) : Option Element :=
  match first? bytes with
  | some (e, []) => some e
  | _ => none

/-- The elements of a sequence that is all of the octets. -/
def sequence? (bytes : List UInt8) : Option (List Element) :=
  (single? bytes).bind Element.parts?

/-- The number in an element. -/
def Element.nat? (e : Element) : Option Nat :=
  if e.tag = 0x02 && !e.content.isEmpty then some (BigEndian.toNat e.content) else none

/-- Well-formedness down to a depth: what is constructed must hold a row of elements. -/
def isWellFormed : Nat → Element → Bool
  | 0, _ => true
  | depth + 1, e =>
    if e.tag / 32 % 2 = 0 then true
    else match row? e.content.length e.content with
      | some parts => parts.all (isWellFormed depth)
      | none => false

end DefaultCredentials.Der
