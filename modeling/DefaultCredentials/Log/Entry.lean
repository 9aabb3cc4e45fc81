import DefaultCredentials.Json.Printer
import DefaultCredentials.Log.Event
import DefaultCredentials.Log.Timestamp

/-!
# Log entries as JSON

An entry is an object with a fixed head, the record's further members and, if there is one, the
exception.  Further members never replace the head; the exception replaces a member of its name.
An entry is handed on as a template, in which each brace stands twice.
-/

namespace DefaultCredentials.Log

/-- Where a record comes from. -/
structure Origin where
  logger : Value
  function : Value
  line : Value
  deriving Repr

/-- An exception as it is logged. -/
structure LoggedException where
  type : Option String
  value : Option String
  deriving Repr, DecidableEq

/-- The severity of a level by its name; unknown levels count as plain information. -/
def severity (level : String) : String :=
  match Level.ofName? level with
  | some .trace => "DEBUG"
  | some .debug => "DEBUG"
  | some .warning => "WARNING"
  | some .error => "ERROR"
  | some .critical => "CRITICAL"
  | _ => "INFO"

namespace Entry

def head (microseconds : Int) (level : String) (message : Value) (o : Origin) :
    List (String × Value) :=
  [("timestamp", .text (timestamp microseconds)), ("severity", .text (severity level)),
    ("message", message), ("logger", o.logger), ("function", o.function), ("line", o.line)]

/-- Adds a member unless one of its name is there. -/
def addNew (members : List (String × Value)) (m : String × Value) : List (String × Value) :=
  if members.any (·.1 == m.1) then members else members ++ [m]

def ofText : Option String → Value
  | some s => .text s
  | none => .null

def ofException (e : LoggedException) : Value :=
  .object [("type", ofText e.type), ("value", ofText e.value)]

def members (head extra : List (String × Value)) (exception : Option LoggedException) :
    List (String × Value) :=
  let all := extra.foldl addNew head
  match exception with
  | some e => Entries.put all "exception" (ofException e)
  | none => all

def doubleBraces (cs : List Char) : List Char :=
  cs.flatMap fun c => if c == '{' || c == '}' then [c, c] else [c]

/-- An entry as a template of one line. -/
def template (members : List (String × Value)) : String :=
  String.ofList (doubleBraces (Json.write (.object members)).toList ++ ['\n'])

theorem addNew_of_mem {members : List (String × Value)} {m : String × Value}
    (h : members.any (·.1 == m.1) = true) : addNew members m = members := by
  simp [addNew, h]

end Entry
end DefaultCredentials.Log
