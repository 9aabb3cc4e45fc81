import DefaultCredentials.FileTree
import DefaultCredentials.Json.Refusal
import DefaultCredentials.Number.Binary64
import DefaultCredentials.Value.Display

/-!
# Trouble from outside

What documents, files, numbers, certificates and commands can do wrong, and what a caller's own
parts report.  Each case belongs to a family, and it is the family that decides where the library
takes a trouble as an answer and where it lets it pass.
-/

namespace DefaultCredentials

inductive Family
  | value
  | type
  | system
  | command
  | exchange
  | other
  deriving Repr, DecidableEq

/-- The name of a value's kind. -/
def Value.kindName : Value → String
  | null => "NoneType"
  | bool _ => "bool"
  | int _ => "int"
  | float _ => "float"
  | text _ => "str"
  | ragged _ => "str"
  | list _ => "list"
  | object _ => "dict"

/-- How a command came to an end without success. -/
inductive CommandEnd
  | status (code : Nat)
  | signal (number : Nat)
  | overTime (seconds : Float)
  deriving Repr

/-- A trouble from outside the library. -/
inductive Trouble
  | json (refusal : Json.Refusal)
  | octets (defect : Utf8.Defect)
  | file (obstacle : Obstacle) (path : String)
  | nulInPath
  | homeUnknown
  | wholeTooLarge
  | notWhole (why : Number.NoWhole)
  | notNumeric (v : Value)
  | unencodable (text : Text.Ragged)
  | noCertificate
  | noPrivateKey
  | privateKeyUnreadable
  | keyCannotSign
  | certificateRejected
  | keystoreRequired
  | metadataNotObject (path : String)
  | metadataWithoutCommand (path : String)
  | commandNotText (path : String)
  | commandFailed (command : List String) (ending : CommandEnd)
  | waitTooLong (beyondClock : Bool)
  | unknownLevel (name : String)
  | unknownSource (name : String)
  | unsupportedInfo (kind : String)
  | serviceAbsent
  | nothingResolved
  | reported (family : Family) (label : String) (text : String)
  deriving Repr

namespace Trouble

def family : Trouble → Family
  | json (.nesting _) => .other
  | json _ => .value
  | octets _ => .value
  | file _ _ => .system
  | nulInPath => .value
  | homeUnknown => .other
  | wholeTooLarge => .other
  | notWhole .infinite => .other
  | notWhole .notANumber => .value
  | notNumeric (.text _) => .value
  | notNumeric (.ragged _) => .value
  | notNumeric _ => .type
  | unencodable _ => .value
  | noCertificate => .value
  | noPrivateKey => .value
  | privateKeyUnreadable => .value
  | keyCannotSign => .type
  | certificateRejected => .system
  | keystoreRequired => .value
  | metadataNotObject _ => .value
  | metadataWithoutCommand _ => .value
  | commandNotText _ => .value
  | commandFailed _ _ => .command
  | waitTooLong _ => .other
  | unknownLevel _ => .value
  | unknownSource _ => .value
  | unsupportedInfo _ => .type
  | serviceAbsent => .other
  | nothingResolved => .other
  | reported family _ _ => family

/-- The names of the signals. -/
def signalName? : Nat → Option String
  | 1 => "SIGHUP"
  | 2 => "SIGINT"
  | 3 => "SIGQUIT"
  | 4 => "SIGILL"
  | 5 => "SIGTRAP"
  | 6 => "SIGABRT"
  | 7 => "SIGBUS"
  | 8 => "SIGFPE"
  | 9 => "SIGKILL"
  | 10 => "SIGUSR1"
  | 11 => "SIGSEGV"
  | 12 => "SIGUSR2"
  | 13 => "SIGPIPE"
  | 14 => "SIGALRM"
  | 15 => "SIGTERM"
  | 16 => "SIGSTKFLT"
  | 24 => "SIGXCPU"
  | 25 => "SIGXFSZ"
  | 26 => "SIGVTALRM"
  | 27 => "SIGPROF"
  | 29 => "SIGIO"
  | 30 => "SIGPWR"
  | 31 => "SIGSYS"
  | 34 => "SIGRTMIN"
  | 64 => "SIGRTMAX"
  | _ => none

/-- The wording for the end of a command. -/
def endWording : CommandEnd → String
  | .status code => "returned non-zero exit status " ++ toString code ++ "."
  | .signal number =>
    match signalName? number with
    | some name => "died with <Signals." ++ name ++ ": " ++ toString number ++ ">."
    | none => "died with unknown signal " ++ toString number ++ "."
  | .overTime seconds =>
    "timed out after " ++ Number.showFloat Value.numberWords seconds ++ " seconds"

def message : Trouble → String
  | json refusal => refusal.message
  | octets defect => defect.message
  | file obstacle path =>
    "[Errno " ++ toString obstacle.code ++ "] " ++ obstacle.wording ++ ": " ++ Text.quoted path
  | nulInPath => "embedded null byte"
  | homeUnknown => "Could not determine home directory."
  | wholeTooLarge => "int too large to convert to float"
  | notWhole .infinite => "cannot convert float infinity to integer"
  | notWhole .notANumber => "cannot convert float NaN to integer"
  | notNumeric (.text s) => "could not convert string to float: " ++ Text.quoted s
  | notNumeric (.ragged r) => "could not convert string to float: " ++ r.quoted
  | notNumeric v =>
    "float() argument must be a string or a real number, not '" ++ v.kindName ++ "'"
  | unencodable text => text.message
  | noCertificate => "No PEM certificate found in client certificate data"
  | noPrivateKey => "No PEM private key found in client certificate data"
  | privateKeyUnreadable => "Could not deserialize key data."
  | keyCannotSign => "ECPrivateKey.sign() takes 2 positional arguments but 3 were given"
  | certificateRejected => "[SSL] PEM lib"
  | keystoreRequired => "A keystore is required when using a client certificate"
  | metadataNotObject path => path ++ " must contain a JSON object"
  | metadataWithoutCommand path => "No cert_provider_command in " ++ path
  | commandNotText path => "cert_provider_command in " ++ path ++ " must be strings"
  | commandFailed command ending =>
    "Command '" ++ Value.shownTexts command ++ "' " ++ endWording ending
  | waitTooLong true => "timestamp too large to convert to C _PyTime_t"
  | waitTooLong false => "timeout is too large"
  | unknownLevel name => "Level " ++ Text.quoted name ++ " does not exist"
  | unknownSource name => Text.quoted name ++ " is not a valid CredentialSource"
  | unsupportedInfo kind => "Unsupported credential info: " ++ kind
  | serviceAbsent => "No module named 'google.appengine'"
  | nothingResolved => ""
  | reported _ _ text => text

end Trouble
end DefaultCredentials
