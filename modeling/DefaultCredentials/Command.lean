import DefaultCredentials.Host.Files

/-!
# Running commands

A command is a list of words, the first of which names a program: by its path, or by a name that
is looked for in the directories of the variable `PATH`.  The command must come to a successful
end within a time; its output is the result.
-/

namespace DefaultCredentials.Command

/-- The programs that stand in the usual directories. -/
def programs : List String :=
  ["cat", "echo", "env", "false", "kill", "ls", "printf", "sh", "sleep", "true"]

def installed : FileTree :=
  let put := fun (t : FileTree) name =>
    (t.add ["bin", name] (.program name)).add ["usr", "bin", name] (.program name)
  ((programs.foldl put .empty).add ["dev", "null"] .device).add ["etc"] .directory

/-- The name of the program at a path, if one can be run there. -/
def programAt (h : Host) (p : Path) : Except Obstacle String :=
  match h.files.find h.workingDirectory p with
  | .ok (.program name) => .ok name
  | .ok _ => .error .denied
  | .error o => .error o

/-- The directories in which programs are looked for. -/
def searchPath (h : Host) : List String :=
  (Path.pieces ':' ((h.environment.lookup "PATH").getD "/bin:/usr/bin").toList).map String.ofList

/-- The first program that can be run in a list of places.  An obstacle other than absence is
remembered and reported in the end. -/
def firstProgram (h : Host) (remembered : Obstacle) : List Path → Except Obstacle String
  | [] => .error remembered
  | p :: rest =>
    match programAt h p with
    | .ok name => .ok name
    | .error o =>
      firstProgram h (if o.isAbsence && !remembered.isAbsence then remembered else o) rest

/-- The place of a program in a directory; no directory means the working directory. -/
def placeIn (word directory : String) : Path :=
  .ofText (if directory.isEmpty then word else directory ++ "/" ++ word)

/-- The program that the first word of a command names. -/
def program (h : Host) (word : String) : Except Obstacle String :=
  if word.toList.contains '/' then programAt h (.ofText word)
  else firstProgram h .missing ((searchPath h).map (placeIn word))

/-- How long starting a program takes, in seconds. -/
def startTime : Float :=
  0.001

/-- The greatest number of milliseconds that can be waited for. -/
def maxWait : Int :=
  2147483647

/-- The greatest number of milliseconds that the clock can tell. -/
def maxClock : Int :=
  9223372036854

/-- Whether a time can be waited for. -/
def checkWait (seconds : Float) : Except Raised Unit :=
  match Number.truncate (seconds * 1000.0) with
  | .error why => .error (.trouble (.notWhole why))
  | .ok ms =>
    if maxClock < ms then .error (.trouble (.waitTooLong true))
    else if maxWait < ms then .error (.trouble (.waitTooLong false))
    else .ok ()

/-- Runs a program on its arguments. -/
def start (h : Host) (name : String) (args : List String) : Run :=
  h.programs ⟨h.files, h.workingDirectory, []⟩ name args

/-- What a run comes to within a time. -/
def outcome (command : List String) (timeout : Float) (r : Run) : Except Raised (List UInt8) :=
  let failed := fun e => Except.error (Raised.trouble (.commandFailed command e))
  if timeout < startTime + r.seconds then failed (.overTime timeout)
  else match r.ending with
    | .exit 0 => .ok r.output
    | .exit code => failed (.status code)
    | .signal n => failed (.signal n)

def run (h : Host) (command : List String) (timeout : Float) : Except Raised (List UInt8) :=
  match command with
  | [] => .error (.trouble (.file .missing ""))
  | word :: args =>
    if command.any fun w => w.toList.contains '\x00' then .error (.trouble .nulInPath)
    else match program h word with
      | .error o => .error (.trouble (.file o word))
      | .ok name =>
        match checkWait timeout with
        | .error why => .error why
        | .ok () => outcome command timeout (start h name args)

end DefaultCredentials.Command
