import DefaultCredentials.Text.Utf8

/-!
# Marked blocks inside octets

A marked block runs from an opening line of dashes and a label to the first closing line of the
same kind, with at least one octet between them, and takes a carriage return and a line feed after
it.  `blocks` lists the blocks of a kind from left to right, none inside another.
-/

namespace DefaultCredentials.Marked

def dashes : List UInt8 :=
  Utf8.encode "-----"

/-- What stands before the label of an opening line. -/
def opening : List UInt8 :=
  Utf8.encode "-----BEGIN "

/-- What stands before the label of a closing line. -/
def closing : List UInt8 :=
  Utf8.encode "-----END "

/-- Octets of labels: capitals and spaces. -/
def isLabelOctet (b : UInt8) : Bool :=
  (65 ≤ b && b ≤ 90) || b == 32

def isCertificate (label : List UInt8) : Bool :=
  label == Utf8.encode "CERTIFICATE"

def isPrivateKey (label : List UInt8) : Bool :=
  (Utf8.encode "PRIVATE KEY").isSuffixOf label

/-- The length of a line with the given start and a label of a kind, if octets begin with one. -/
def line? (start : List UInt8) (kind : List UInt8 → Bool) (bytes : List UInt8) : Option Nat :=
  if start.isPrefixOf bytes then
    let rest := bytes.drop start.length
    let label := rest.takeWhile isLabelOctet
    if kind label && dashes.isPrefixOf (rest.drop label.length) then
      some (start.length + label.length + dashes.length)
    else none
  else none

/-- Where the first closing line ends, counted from the octets given. -/
def closingEnd? (kind : List UInt8 → Bool) : List UInt8 → Option Nat
  | [] => none
  | b :: rest =>
    match line? closing kind (b :: rest) with
    | some n => some n
    | none => (closingEnd? kind rest).map (· + 1)

/-- How many octets a line end takes: a carriage return, a line feed, both or none. -/
def lineEnd : List UInt8 → Nat
  | 13 :: 10 :: _ => 2
  | 13 :: _ => 1
  | 10 :: _ => 1
  | _ => 0

/-- The length of the block with which octets begin, if they begin with one. -/
def block? (kind : List UInt8 → Bool) (bytes : List UInt8) : Option Nat := do
  let head ← line? opening kind bytes
  let inside := bytes.drop (head + 1)
  let size ← closingEnd? kind inside
  return head + 1 + size + lineEnd (inside.drop size)

/-- The blocks of a kind, after a number of octets that are passed over. -/
def blocksFrom (kind : List UInt8 → Bool) : Nat → List UInt8 → List (List UInt8)
  | _, [] => []
  | passed + 1, _ :: rest => blocksFrom kind passed rest
  | 0, b :: rest =>
    match block? kind (b :: rest) with
    | some n => (b :: rest).take n :: blocksFrom kind (n - 1) rest
    | none => blocksFrom kind 0 rest

/-- The blocks of a kind. -/
def blocks (kind : List UInt8 → Bool) (bytes : List UInt8) : List (List UInt8) :=
  blocksFrom kind 0 bytes

@[simp] theorem blocks_nil (kind : List UInt8 → Bool) : blocks kind [] = [] := rfl

end DefaultCredentials.Marked
