import DefaultCredentials.Log.Template
import DefaultCredentials.Trouble

/-!
# Sinks of log records

A sink writes the records of a level and above, as JSON entries for programs or as coloured lines
for people.
-/

namespace DefaultCredentials.Log

namespace Console

/-- The template of lines for people; a record of the audit shows its name in it. -/
def template (audit : Value) : String :=
  "<green>\x7btime:YYYY-MM-DD HH:mm:ss.SSS\x7d</green> | <level>\x7blevel: <8\x7d</level> | "
    ++ "<cyan>\x7bname\x7d</cyan>:<cyan>\x7bfunction\x7d</cyan>:<cyan>\x7bline\x7d</cyan> | "
    ++ (if audit.isGiven then "[" ++ audit.plain ++ "] " else "")
    ++ "<level>\x7bmessage\x7d</level>\n\x7bexception\x7d"

/-- A sequence that switches a style on. -/
def style (code : Nat) : String :=
  "\x1b[" ++ toString code ++ "m"

/-- The sequence that switches all styles off. -/
def plain : String :=
  style 0

def levelStyle : Level → String
  | .trace => style 36 ++ style 1
  | .debug => style 34 ++ style 1
  | .info => style 1
  | .success => style 32 ++ style 1
  | .warning => style 33 ++ style 1
  | .error => style 31 ++ style 1
  | .critical => style 41 ++ style 1

/-- Where a record comes from, in colour. -/
def location (o : Origin) : String :=
  let part := fun (v : Value) => style 36 ++ v.plain ++ plain
  part o.logger ++ ":" ++ part o.function ++ ":" ++ part o.line

/-- A level, padded to eight characters. -/
def levelName (l : Level) : String :=
  String.ofList (l.name.toList ++ List.replicate (8 - l.name.length) ' ')

/-- The line of a record.  The name of an audit record must not be a template itself. -/
def line (time place : String) (r : Record) : Option String :=
  let audit := (r.extra.lookup "audit_event").getD .null
  let name := if audit.isGiven then "[" ++ audit.plain ++ "] " else ""
  if name.toList.any (fun c => c == '{' || c == '}') || Markup.strip name.toList != some name.toList
  then none
  else
    some (style 32 ++ time ++ plain ++ " | " ++ levelStyle r.level ++ levelName r.level ++ plain
      ++ " | " ++ place ++ " | " ++ name ++ levelStyle r.level ++ r.message ++ plain ++ "\n")

end Console

structure Sink where
  json : Bool
  minimum : Level
  deriving Repr, DecidableEq

namespace Sink

/-- The sink for records of a level, which must be known by its name, and above. -/
def make (json : Bool) (level : String) : Except Trouble Sink :=
  match Level.ofName? level with
  | some l => .ok ⟨json, l⟩
  | none => .error (.unknownLevel level)

/-- The line of a JSON sink for an entry with these members. -/
def jsonLine (entry : List (String × Value)) : Option String :=
  (Template.line (Entry.template entry).toList).map String.ofList

/-- What a sink writes for a record, if it writes it. -/
def write (s : Sink) (microseconds : Int) (time place : String) (o : Origin) (r : Record) :
    Option String :=
  if r.level.rank < s.minimum.rank then none
  else if s.json then
    jsonLine (Entry.members (Entry.head microseconds r.level.name (.text r.message) o) r.extra none)
  else Console.line time place r

end Sink
end DefaultCredentials.Log
