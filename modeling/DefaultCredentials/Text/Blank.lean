/-!
# Blank characters

`isWhiteSpace` is Unicode's property White_Space.  `isBlank` adds the four information separators,
which also end a field when text is trimmed; `isAsciiBlank` is its part below 128 without them.
-/

namespace DefaultCredentials.Text

/-- Unicode's property White_Space. -/
def isWhiteSpace (c : Char) : Bool :=
  let n := c.toNat
  (9 ≤ n && n ≤ 13) || n == 32 || n == 133 || n == 160 || n == 5760 || (8192 ≤ n && n ≤ 8202)
    || n == 8232 || n == 8233 || n == 8239 || n == 8287 || n == 12288

/-- White space and the information separators. -/
def isBlank (c : Char) : Bool :=
  isWhiteSpace c || (28 ≤ c.toNat && c.toNat ≤ 31)

/-- The space and the five characters from tab to carriage return. -/
def isAsciiBlank (c : Char) : Bool :=
  c.toNat == 32 || (9 ≤ c.toNat && c.toNat ≤ 13)

/-- Removes the characters of a class from both ends. -/
def trimWhere (drop : Char → Bool) (cs : List Char) : List Char :=
  ((cs.dropWhile drop).reverse.dropWhile drop).reverse

def trim (s : String) : String :=
  String.ofList (trimWhere isBlank s.toList)

end DefaultCredentials.Text
