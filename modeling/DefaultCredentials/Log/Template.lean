import DefaultCredentials.Log.Entry
import DefaultCredentials.Log.Markup

/-!
# From a template to a line

A template becomes a line in two passes, which both read its braces: a doubled brace stands for one,
and a brace that stands alone begins a field.  The first pass cuts the text behind its braces, so
that no tag reaches over one, and removes the markup of the pieces with their braces doubled again;
the second pass makes the braces single.  The templates of entries have no fields, and a template
that has one gives no line here.
-/

namespace DefaultCredentials.Log.Template

/-- The two characters that stand for themselves only if they are doubled. -/
def isBrace (c : Char) : Bool :=
  c == '{' || c == '}'

/-- Makes one brace of each doubled one. -/
def undouble : List Char → Option (List Char)
  | [] => some []
  | c :: rest =>
    if isBrace c then
      match rest with
      | d :: rest => if d == c then (undouble rest).map (c :: ·) else none
      | [] => none
    else (undouble rest).map (c :: ·)

/-- The pieces of a text that the first pass works on. -/
def pieces (text : List Char) : List (List Char) :=
  (Markup.pieces text).map Entry.doubleBraces

/-- The line of a template, if it has one. -/
def line (template : List Char) : Option (List Char) := do
  let text ← undouble template
  let kept ← Markup.stripAll [] (pieces text)
  undouble kept.flatten

end DefaultCredentials.Log.Template
