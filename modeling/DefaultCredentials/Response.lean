import DefaultCredentials.Entries
import DefaultCredentials.Fault
import DefaultCredentials.Text.Lowercase

/-!
# Requests and their answers

An answer has a status, headers whose names ignore letter case, and a body of octets.  A request
that got no answer ends in whatever its transport raised.
-/

namespace DefaultCredentials

/-- A request, as it is handed to a transport. -/
structure Request where
  method : String
  url : Value
  headers : Option (List (String × String))
  body : Option (List UInt8)
  timeout : Option Float
  deriving Repr

/-- An answer to a request. -/
structure Response where
  status : Int
  headers : List (String × String)
  body : List UInt8
  deriving Repr, DecidableEq

namespace Response

def isSuccess (r : Response) : Bool :=
  200 ≤ r.status && r.status < 300

/-- The value of the first header of a name, letter case ignored. -/
def header (r : Response) (name : String) : Option String :=
  (r.headers.find? fun h => Text.sameName h.1 name).map (·.2)

/-- Headers as they are collected: an equal name keeps its place and takes the last value. -/
def collect (headers : List (String × String)) : List (String × String) :=
  Entries.putAll [] headers

end Response

/-- How a request ends: an answer, or what was raised instead. -/
abbrev Answer := Except Raised Response

end DefaultCredentials
