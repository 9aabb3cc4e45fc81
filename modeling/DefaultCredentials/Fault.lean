import DefaultCredentials.Settings.Field
import DefaultCredentials.Trouble

/-!
# Failures and how they are raised

A `Failure` is what the library itself reports, in one of seven kinds, with arguments that make
its text and attributes that describe it.  A `Fault` is a failure, a list of problems with the
settings, or a trouble from outside.  What is raised is a `Fault` together with the faults that
led to it.  A failure that was kept is raised again as a copy: `Raised.replay` keeps everything
of it, counts the copies, and puts the kept one in front of its causes.
-/

namespace DefaultCredentials

inductive FailureKind
  | general
  | pointerMissing
  | malformedFile
  | notFound
  | refreshFailed
  | trustUnavailable
  | transport
  deriving Repr, DecidableEq

/-- A failure that the library reports. -/
structure Failure where
  kind : FailureKind
  args : List Value
  attributes : List (String × Value)
  deriving Repr

namespace Failure

/-- The text that arguments make: nothing, the argument by itself, or the row of them. -/
def textOf : List Value → String
  | [] => ""
  | [v] => v.plain
  | vs => Value.shownRow vs

def text (f : Failure) : String :=
  textOf f.args

/-- A failure with nothing but its arguments. -/
def plain (kind : FailureKind) (args : List Value) : Failure :=
  ⟨kind, args, []⟩

/-- The variable that names the credential file names no file. -/
def pointerMissing (variableName path : Value) : Failure :=
  ⟨.pointerMissing,
    [.text ("Error reading credential file from environment variable " ++ variableName.plain
      ++ ", value '" ++ path.plain ++ "': File does not exist.")],
    [("env_var", variableName), ("path", path)]⟩

/-- A text with the file that it is about. -/
def withFile (message path : Value) : Value :=
  if path.isGiven then .text (message.plain ++ " (file: " ++ path.plain ++ ")") else message

/-- A credential file cannot be used. -/
def malformedFile (message path : Value) : Failure :=
  ⟨.malformedFile, [withFile message path], [("path", path)]⟩

/-- Where help on credentials is found. -/
def helpPage : String :=
  "https://developers.google.com/accounts/docs/application-default-credentials"

/-- No place gave a credential. -/
def notFound : Failure :=
  plain .notFound
    [.text ("The Application Default Credentials are not available. They are available if running "
      ++ "on Google App Engine or Google Compute Engine. Otherwise, the environment variable "
      ++ "GOOGLE_APPLICATION_CREDENTIALS must be defined pointing to a file defining the "
      ++ "credentials. See " ++ helpPage ++ " for more information.")]

/-- A token exchange gave no token; the status is null when no answer came. -/
def refreshFailed (message status : Value) : Failure :=
  ⟨.refreshFailed, [message], [("status", status)]⟩

/-- A client certificate that was asked for cannot be loaded. -/
def trustUnavailable (message : String) : Failure :=
  plain .trustUnavailable [.text message]

/-- A request got no answer. -/
def transport (message : String) : Failure :=
  plain .transport [.text message]

theorem text_malformedFile {message : Value} {path : String} (h : path ≠ "") :
    (malformedFile message (.text path)).text = message.plain ++ " (file: " ++ path ++ ")" := by
  simp [malformedFile, text, textOf, withFile, Value.isGiven, h, Value.plain]

end Failure

/-- What can be raised. -/
inductive Fault
  | failure (f : Failure)
  | settings (problems : List Problem)
  | trouble (t : Trouble)
  deriving Repr

namespace Fault

/-- The text of a fault; problems with settings are listed and have no single text. -/
def text : Fault → String
  | failure f => f.text
  | settings _ => ""
  | trouble t => t.message

/-- The family of a fault; problems with settings are about values. -/
def family? : Fault → Option Family
  | failure _ => none
  | settings _ => some .value
  | trouble t => some t.family

end Fault

/-- A fault as one object: the kept one is number 0, its copies count on. -/
structure Occurrence where
  fault : Fault
  copy : Nat
  deriving Repr

/-- A raised fault with the faults that led to it, the nearest first. -/
structure Raised where
  occurrence : Occurrence
  causes : List Occurrence
  deriving Repr

namespace Raised

def of (f : Fault) : Raised :=
  ⟨⟨f, 0⟩, []⟩

def failure (f : Failure) : Raised :=
  of (.failure f)

def trouble (t : Trouble) : Raised :=
  of (.trouble t)

/-- A failure that another fault led to. -/
def because (f : Failure) (cause : Raised) : Raised :=
  ⟨⟨.failure f, 0⟩, cause.occurrence :: cause.causes⟩

def fault (r : Raised) : Fault :=
  r.occurrence.fault

def text (r : Raised) : String :=
  r.fault.text

/-- The failure that was raised, if it was one. -/
def failure? (r : Raised) : Option Failure :=
  match r.fault with
  | .failure f => some f
  | _ => none

/-- The kind of the failure that was raised, if it was one. -/
def kind? (r : Raised) : Option FailureKind :=
  r.failure?.map (·.kind)

/-- Whether a trouble of a family was raised. -/
def isOf (r : Raised) (family : Family) : Bool :=
  r.fault.family? == some family

/-- A copy of a kept fault, with the kept one as its cause, made when a number of copies were made
before. -/
def replayAfter (copies : Nat) (r : Raised) : Raised :=
  ⟨⟨r.fault, r.occurrence.copy + 1 + copies⟩, r.occurrence :: r.causes⟩

/-- The first copy of a kept fault. -/
def replay (r : Raised) : Raised :=
  r.replayAfter 0

/-- Whether something is a copy of what was kept: another object that raises the same fault, with
the same text and attributes, and that the kept one led to. -/
def IsCopyOf (r kept : Raised) : Prop :=
  r.occurrence ≠ kept.occurrence ∧ r.fault = kept.fault ∧
    r.causes = kept.occurrence :: kept.causes

theorem isCopyOf_replayAfter (copies : Nat) (r : Raised) : (r.replayAfter copies).IsCopyOf r := by
  refine ⟨fun he => ?_, rfl, rfl⟩
  have hc : r.occurrence.copy + 1 + copies = r.occurrence.copy := congrArg Occurrence.copy he
  omega

end Raised
end DefaultCredentials
