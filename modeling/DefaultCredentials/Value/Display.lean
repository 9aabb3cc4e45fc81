import DefaultCredentials.Number.Display
import DefaultCredentials.Text.Quoted
import DefaultCredentials.Value

/-!
# How a value is shown in a message

`shown` is the form inside a list or a message that quotes: texts stand between quotes.  `plain`
is the same but for a text by itself, which stands as it is; a message is a row of characters, so
that halves of pairs show as U+FFFD in it.
-/

namespace DefaultCredentials.Value

/-- The words that messages use for infinity and for no number. -/
def numberWords : Number.Words :=
  ⟨"inf", "nan"⟩

/-- The words that messages use for the two truth values. -/
def showBool (b : Bool) : String :=
  if b then "True" else "False"

mutual

/-- A value as it is shown inside others, texts quoted. -/
def shown : Value → String
  | null => "None"
  | bool b => showBool b
  | int i => toString i
  | float x => Number.showFloat numberWords x
  | text s => Text.quoted s
  | ragged r => r.quoted
  | list items => "[" ++ ", ".intercalate (shownItems items) ++ "]"
  | object members => "\x7b" ++ ", ".intercalate (shownMembers members) ++ "\x7d"

def shownItems : List Value → List String
  | [] => []
  | v :: rest => shown v :: shownItems rest

def shownMembers : List (String × Value) → List String
  | [] => []
  | (name, v) :: rest => (Text.quoted name ++ ": " ++ shown v) :: shownMembers rest

end

/-- A value as it is shown by itself. -/
def plain : Value → String
  | text s => s
  | ragged r => r.plain
  | v => shown v

/-- A row of values between parentheses, with a comma after a single one. -/
def shownRow : List Value → String
  | [v] => "(" ++ shown v ++ ",)"
  | vs => "(" ++ ", ".intercalate (shownItems vs) ++ ")"

/-- The texts of a list between brackets. -/
def shownTexts (texts : List String) : String :=
  "[" ++ ", ".intercalate (texts.map Text.quoted) ++ "]"

end DefaultCredentials.Value
