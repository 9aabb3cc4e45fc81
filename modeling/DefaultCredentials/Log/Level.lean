/-!
# Levels of log records

Seven levels, from `trace` to `critical`, each with its name and its rank.
-/

namespace DefaultCredentials.Log

/-- How much a log record matters. -/
inductive Level
  | trace
  | debug
  | info
  | success
  | warning
  | error
  | critical
  deriving Repr, DecidableEq, Inhabited

namespace Level

/-- All levels, in order of rank. -/
def all : List Level :=
  [trace, debug, info, success, warning, error, critical]

def name : Level → String
  | trace => "TRACE"
  | debug => "DEBUG"
  | info => "INFO"
  | success => "SUCCESS"
  | warning => "WARNING"
  | error => "ERROR"
  | critical => "CRITICAL"

def rank : Level → Nat
  | trace => 5
  | debug => 10
  | info => 20
  | success => 25
  | warning => 30
  | error => 40
  | critical => 50

/-- The level of a name; letter case counts. -/
def ofName? (s : String) : Option Level :=
  all.find? (·.name == s)

theorem ofName?_name (l : Level) : ofName? l.name = some l := by
  cases l <;> decide

theorem name_of_ofName? {s : String} {l : Level} (h : ofName? s = some l) : l.name = s := by
  have := List.find?_some h
  simpa using this

end Level
end DefaultCredentials.Log
