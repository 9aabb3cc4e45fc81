import DefaultCredentials.Log.Level
import DefaultCredentials.Number.Literal
import DefaultCredentials.Settings.Field
import DefaultCredentials.Text.Lowercase
import DefaultCredentials.Text.Uppercase
import DefaultCredentials.Value

/-!
# Settings

`Settings.read` takes each option from the values given by name or, failing that, from the
environment, checks it, and reports the problems of all options together.  The settings are declared
not to be case sensitive and to be populated by name: what is given goes by the name of an option as
well as by its alias, and names are compared without letter case, those of given values no less than
those of variables.  Of given values the first under a name of the option counts; of variables that
differ only in case the last, and of an option's variables the alias before the bare name before the
prefixed name.
-/

namespace DefaultCredentials

/-- The options of the library. -/
structure Settings where
  metadataHost : String
  metadataTimeout : Float
  tokenUri : String
  requestTimeout : Float
  useClientCertificate : Bool
  commandTimeout : Float
  logLevel : Log.Level
  jsonLogs : Bool
  deriving Repr, Inhabited

namespace Settings

/-- What holds where nothing is said. -/
def standard : Settings where
  metadataHost := "169.254.169.254"
  metadataTimeout := 3.0
  tokenUri := "https://oauth2.googleapis.com/token"
  requestTimeout := 30.0
  useClientCertificate := false
  commandTimeout := 30.0
  logLevel := .info
  jsonLogs := false

/-- The address of the metadata server. -/
def metadataRoot (s : Settings) : String :=
  "http://" ++ s.metadataHost

/-! ### Finding values -/

/-- A value with the name under which it was found. -/
structure Found where
  name : String
  value : Value

/-- The last variable of a name, letter case ignored. -/
def lookupVariable (environment : List (String × String)) (name : String) : Option String :=
  (environment.reverse.find? fun v => Text.sameName v.1 name).map (·.2)

/-- The variable of an option: the alias, the bare name of an option with an alias, and the name
with the prefix, in this order. -/
def fromEnvironment (f : Field) (environment : List (String × String)) : Option Found :=
  let prefixed := (lookupVariable environment f.prefixedName).map fun v => ⟨f.name, .text v⟩
  match f.alias? with
  | none => prefixed
  | some shared =>
    match lookupVariable environment shared with
    | some v => some ⟨shared, .text v⟩
    | none =>
      match lookupVariable environment f.name with
      | some v => some ⟨f.name, .text v⟩
      | none => prefixed

/-- The name under which a given value counts for an option, if it does. -/
def givenName? (f : Field) (name : String) : Option String :=
  match f.alias? with
  | none => if Text.sameName name f.name then some f.name else none
  | some shared =>
    if name == f.name then some f.name
    else if Text.sameName name shared then some shared
    else if Text.sameName name f.name then some f.name
    else none

/-- The first value given for an option. -/
def fromGiven (f : Field) (given : List (String × Value)) : Option Found :=
  given.findSome? fun g => (givenName? f g.1).map fun name => ⟨name, g.2⟩

/-- The value of an option, if there is one. -/
def find (f : Field) (given : List (String × Value)) (environment : List (String × String)) :
    Option Found :=
  (fromGiven f given).orElse fun _ => fromEnvironment f environment

/-! ### Checking values -/

/-- Removes underscores that stand apart from each other inside a text. -/
def withoutUnderscores? (cs : List Char) : Option (List Char) :=
  let pairs := (cs.zip cs.tail).contains ('_', '_')
  if cs.contains '_' && cs.head? != some '_' && cs.getLast? != some '_' && !pairs then
    some (cs.filter (· != '_'))
  else none

/-- The number that a text stands for. -/
def numberOfText? (s : String) : Option Float :=
  let cs := s.toList
  match Number.literal? (Text.trimWhere Text.isWhiteSpace cs) with
  | some x => some x
  | none => (withoutUnderscores? cs).bind Number.literal?

/-- A number, also as text or as a truth value. -/
def checkNumber : Value → Except Objection Float
  | .float x => .ok x
  | .int i => match Number.ofInt? i with
    | some x => .ok x
    | none => .error .notNumber
  | .bool b => .ok (if b then 1.0 else 0.0)
  | .text s => match numberOfText? s with
    | some x => .ok x
    | none => .error .unreadableNumber
  | _ => .error .notNumber

/-- A number of seconds; zero and less are refused. -/
def checkTimeout (v : Value) : Except Objection Float :=
  match checkNumber v with
  | .error o => .error o
  | .ok x => if x ≤ 0.0 then .error .notPositive else .ok x

def checkText : Value → Except Objection String
  | .text s => .ok s
  | _ => .error .notText

def noWords : List String :=
  ["0", "off", "f", "false", "n", "no"]

def yesWords : List String :=
  ["1", "on", "t", "true", "y", "yes"]

/-- A flag given as a whole number.  Only numbers of 64 bits are read at all. -/
def flagOfInt (i : Int) : Except Objection Bool :=
  if i = 0 then .ok false
  else if i = 1 then .ok true
  else if -9223372036854775808 ≤ i ∧ i < 9223372036854775808 then .error .unreadableFlag
  else .error .notFlag

/-- A flag, also as a word or as zero or one. -/
def checkFlag : Value → Except Objection Bool
  | .bool b => .ok b
  | .int i => flagOfInt i
  | .float x =>
    match Number.parts x with
    | .finite negative m e =>
      if Number.isWhole m e && -9223372036854775808.0 < x then
        flagOfInt (if negative then -(Number.wholePart m e : Int) else Number.wholePart m e)
      else .error .notFlag
    | _ => .error .notFlag
  | .text s =>
    let word := String.ofList (s.toList.map Char.toLower)
    if noWords.contains word then .ok false
    else if yesWords.contains word then .ok true
    else .error .unreadableFlag
  | _ => .error .notFlag

/-- The name of a level, in any letter case. -/
def checkLevel (v : Value) : Except Objection Log.Level :=
  match checkText v with
  | .error o => .error o
  | .ok s =>
    match Log.Level.ofName? (Text.upper s) with
    | some l => .ok l
    | none => .error .unknownLevel

/-! ### Reading -/

/-- One option: checked where a value was found, and otherwise as it holds by default. -/
def readField {α : Type} (check : Value → Except Objection α) (whenAbsent : α) :
    Option Found → Except Problem α
  | none => .ok whenAbsent
  | some found => (check found.value).mapError fun o => ⟨found.name, o⟩

/-- The problem of an option, if it has one. -/
def problem? {α : Type} : Except Problem α → Option Problem
  | .ok _ => none
  | .error p => some p

def read (given : List (String × Value)) (environment : List (String × String)) :
    Except (List Problem) Settings :=
  let found := fun f => find f given environment
  let host := readField checkText standard.metadataHost (found .metadataHost)
  let probe := readField checkTimeout standard.metadataTimeout (found .metadataTimeout)
  let uri := readField checkText standard.tokenUri (found .tokenUri)
  let request := readField checkTimeout standard.requestTimeout (found .requestTimeout)
  let certificate :=
    readField checkFlag standard.useClientCertificate (found .useClientCertificate)
  let command := readField checkTimeout standard.commandTimeout (found .commandTimeout)
  let level := readField checkLevel standard.logLevel (found .logLevel)
  let json := readField checkFlag standard.jsonLogs (found .jsonLogs)
  match host, probe, uri, request, certificate, command, level, json with
  | .ok host, .ok probe, .ok uri, .ok request, .ok certificate, .ok command, .ok level,
      .ok json =>
    .ok { metadataHost := host, metadataTimeout := probe, tokenUri := uri,
          requestTimeout := request, useClientCertificate := certificate,
          commandTimeout := command, logLevel := level, jsonLogs := json }
  | _, _, _, _, _, _, _, _ =>
    .error ([problem? host, problem? probe, problem? uri, problem? request,
      problem? certificate, problem? command, problem? level, problem? json].filterMap id)

theorem readField_some {α : Type} {check : Value → Except Objection α} {d : α} {found : Found}
    {a : α} (h : check found.value = .ok a) : readField check d (some found) = .ok a := by
  simp only [readField, h]
  rfl

theorem find_of_given {f : Field} {given : List (String × Value)}
    {environment : List (String × String)} {found : Found} (h : fromGiven f given = some found) :
    find f given environment = some found := by
  simp [find, h]

end Settings
end DefaultCredentials
