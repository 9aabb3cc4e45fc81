import DefaultCredentials.Cli
import Std.Time.DateTime.Timestamp

/-!
# The program

Gathers what the process can see (the clock, the variables and the files that commands look at),
runs the command line on it and writes what it gives.  No transport is connected, so that every
request fails; commands of certificate providers find the small programs only.
-/

namespace DefaultCredentials.Cli

/-- The variables that the program looks at besides those of the options. -/
def variableNames : List String :=
  ["HOME", "PATH", "PWD", Discovery.pointerVariable, "CLOUDSDK_CONFIG", "APPDATA"]

/-- The variables of an option. -/
def optionVariables (f : Field) : List String :=
  f.alias?.toList ++ [f.name, Text.upper f.name, Text.upper f.prefixedName]

/-- The files that commands look at. -/
def filesConsulted (h : Host) : List Path :=
  let pointer := (h.environment.lookup Discovery.pointerVariable).map h.absolutePath
  let wellKnown := (h.processSettings.1.toOption).bind fun s =>
    Discovery.wellKnownFile (Resolver.new none none none none s h).scope h
  let metadata := (TrustProvider.expandHome h (.ofText TrustProvider.defaultMetadataPath)).toOption
  pointer.toList ++ wellKnown.toList ++ metadata.toList

/-- The line of an event on standard error. -/
def logLine (choice : LogChoice) (microseconds : Int) (e : Log.Event) : Option String :=
  let origin : Log.Origin := ⟨.text programName, .text "main", .null⟩
  (Log.Sink.make choice.json choice.level).toOption.bind fun sink =>
    sink.write microseconds (Log.timestamp microseconds) (Log.Console.location origin) origin
      e.record

/-- The events in a trace, the first first. -/
def eventsOf (h : Host) : List Log.Event :=
  h.trace.reverse.filterMap fun x => match x with
    | .logged e => some e
    | _ => none

def readVariables : IO (List (String × String)) := do
  let mut found := []
  for name in variableNames ++ Field.all.flatMap optionVariables do
    if let some value ← IO.getEnv name then
      found := Entries.put found name value
  return found

/-- Adds the file at a path, if it can be read. -/
def addFile (h : Host) (p : Path) : IO Host := do
  let place := if p.isAbsolute then p.toText else h.workingDirectory.toText ++ "/" ++ p.toText
  match ← (IO.FS.readBinFile place).toBaseIO with
  | .ok bytes => return h.putFile p (.file bytes.toList)
  | .error _ => return h

/-- What the process can see at a time. -/
def gather (seconds : Float) : IO Host := do
  let environment ← readVariables
  let bare : Host :=
    { Host.empty with
      now := seconds
      environment := environment
      workingDirectory := .ofText ((environment.lookup "PWD").getD "/")
      files := Command.installed
      silence := ⟨"network is unreachable", "no service is connected"⟩ }
  (filesConsulted bare).foldlM addFile bare

end DefaultCredentials.Cli

open DefaultCredentials in
/-- Runs the command line on the arguments of the process. -/
def main (args : List String) : IO UInt32 := do
  let nanoseconds := (← Std.Time.Timestamp.now).toNanosecondsSinceUnixEpoch.val
  let h ← Cli.gather (Float.ofInt nanoseconds / 1000000000.0)
  let (result, choice, h) := Cli.run args none h
  if let some choice := choice then
    for line in (Cli.eventsOf h).filterMap (Cli.logLine choice (nanoseconds / 1000)) do
      IO.eprint line
  match result with
  | .ok r =>
    IO.print r.output
    IO.eprint r.errors
    return UInt32.ofNat r.code
  | .error why =>
    IO.eprintln why.text
    return 1
