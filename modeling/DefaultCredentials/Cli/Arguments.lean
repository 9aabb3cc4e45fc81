import DefaultCredentials.Cli.Usage
import DefaultCredentials.Number.Literal
import DefaultCredentials.Text.Quoted

/-!
# Command-line arguments

Arguments are sorted into options, plain words and a double dash, after which all are words.  A
long option may be shortened as long as one option fits.  The first word of the program is the
command, and all that follows it belongs to the command.
-/

namespace DefaultCredentials.Cli

/-- What an option does. -/
inductive Effect
  | help
  | logLevel
  | jsonLogs
  | scopes
  deriving Repr, DecidableEq

/-- An option with its spellings. -/
structure OptionSpec where
  effect : Effect
  names : List String
  takesValue : Bool
  deriving Repr, DecidableEq

def helpOption : OptionSpec :=
  ⟨.help, ["-h", "--help"], false⟩

def mainOptions : List OptionSpec :=
  [helpOption, ⟨.logLevel, ["--log-level"], true⟩, ⟨.jsonLogs, ["--json-logs"], false⟩]

def CommandName.options : CommandName → List OptionSpec
  | .token => [helpOption, ⟨.scopes, ["--scopes"], true⟩]
  | _ => [helpOption]

/-- An argument as an option: which one, how it is spelled, and a value written with it. -/
structure Spelled where
  option : OptionSpec
  name : String
  value : Option String
  withEquals : Bool
  deriving Repr, DecidableEq

/-- An argument after sorting. -/
inductive Sorted
  | word (s : String)
  | separator
  | option (o : Spelled)
  | unknown (s : String)
  deriving Repr, DecidableEq

def splitAtEquals (cs : List Char) : Option (List Char × List Char) :=
  if cs.contains '=' then
    some (cs.takeWhile (· != '='), (cs.dropWhile (· != '=')).drop 1)
  else none

def spellings (options : List OptionSpec) : List (String × OptionSpec) :=
  options.flatMap fun o => o.names.map fun n => (n, o)

/-- The options that an argument can be short for. -/
def shortFor (options : List OptionSpec) (cs : List Char) : List Spelled :=
  match cs with
  | '-' :: '-' :: _ =>
    let (start, value) := match splitAtEquals cs with
      | some (start, value) => (start, some (String.ofList value))
      | none => (cs, none)
    (spellings options).filterMap fun s =>
      if start.isPrefixOf s.1.toList then some ⟨s.2, s.1, value, value.isSome⟩ else none
  | _ =>
    (spellings options).filterMap fun s =>
      if s.1.toList == cs.take 2 then some ⟨s.2, s.1, some (String.ofList (cs.drop 2)), false⟩
      else if cs.isPrefixOf s.1.toList then some ⟨s.2, s.1, none, false⟩
      else none

/-- Whether an argument is a negative number. -/
def isNegativeNumber (cs : List Char) : Bool :=
  match cs with
  | '-' :: rest =>
    let digits := fun (ds : List Char) => !ds.isEmpty && ds.all fun c => (Text.digitValue? c).isSome
    let whole := rest.takeWhile (· != '.')
    digits rest || ((whole.isEmpty || digits whole) && digits ((rest.drop whole.length).drop 1)
      && (rest.drop whole.length).head? == some '.')
  | _ => false

/-- Sorts one argument that no double dash stands before. -/
def sortOne (options : List OptionSpec) (arg : String) : Except String Sorted :=
  let cs := arg.toList
  let exact := fun (name : String) => (spellings options).lookup name
  if cs.head? != some '-' then .ok (.word arg)
  else match exact arg with
    | some o => .ok (.option ⟨o, arg, none, false⟩)
    | none =>
      if cs.length = 1 then .ok (.word arg)
      else
        let withValue := (splitAtEquals cs).bind fun (name, value) =>
          (exact (String.ofList name)).map fun o =>
            Spelled.mk o (String.ofList name) (some (String.ofList value)) true
        match withValue, shortFor options cs with
        | some o, _ => .ok (.option o)
        | none, [o] => .ok (.option o)
        | none, [] =>
          if isNegativeNumber cs || cs.contains ' ' then .ok (.word arg) else .ok (.unknown arg)
        | none, fits =>
          .error ("ambiguous option: " ++ arg ++ " could match "
            ++ ", ".intercalate (fits.map (·.name)))

def sort (options : List OptionSpec) : List String → Except String (List (Sorted × String))
  | [] => .ok []
  | arg :: rest =>
    if arg == "--" then .ok ((.separator, arg) :: rest.map fun a => (.word a, a))
    else do
      let s ← sortOne options arg
      return (s, arg) :: (← sort options rest)

/-- What options say. -/
structure Choices where
  logLevel : Option String
  jsonLogs : Bool
  scopes : Option String
  deriving Repr, DecidableEq

/-- What an option does, with its value if it takes one. -/
def Choices.apply (c : Choices) (effect : Effect) (value : String) : Choices :=
  match effect with
  | .help => c
  | .logLevel => { c with logLevel := some value }
  | .jsonLogs => { c with jsonLogs := true }
  | .scopes => { c with scopes := some value }

/-- How reading arguments stops early. -/
inductive Halt
  | help
  | error (message : String)
  deriving Repr, DecidableEq

/-- The text that names an option in a message. -/
def OptionSpec.title (o : OptionSpec) : String :=
  "argument " ++ "/".intercalate o.names

/-- A value that an option does not take. -/
def ignored (o : OptionSpec) (value : String) : Halt :=
  .error (o.title ++ ": ignored explicit argument " ++ Text.quoted value)

/-- Checks the letters behind an option of one dash.  They may be further such options, but no value
with or without an equals sign.  A letter that is no option is left over: options of one dash ask
for help, which ends reading before that counts. -/
def checkCluster (options : List OptionSpec) (o : OptionSpec) : List Char → Except Halt Unit
  | [] => .ok ()
  | c :: rest =>
    if c == '-' then .error (ignored o (String.ofList (c :: rest)))
    else
      match (spellings options).lookup (String.ofList ['-', c]) with
      | none => .ok ()
      | some next =>
        if rest.head? == some '=' then .error (ignored next (String.ofList (rest.drop 1)))
        else checkCluster options next rest

/-- What an option that takes no value does. -/
def takeFlag (options : List OptionSpec) (c : Choices) (s : Spelled) : Except Halt Choices :=
  let run := if s.option.effect = .help then .error .help else .ok (c.apply s.option.effect "")
  match s.value with
  | none => run
  | some value =>
    if s.withEquals || "--".toList.isPrefixOf s.name.toList then .error (ignored s.option value)
    else (checkCluster options s.option value.toList).bind fun _ => run

/-- What is left when a reader of options comes to its end or to the words of a command. -/
structure Remainder where
  choices : Choices
  extras : List String
  command : List String
  deriving Repr, DecidableEq

/-- Reads sorted arguments.  The flag says whether the first word starts a command, which then takes
all that follows; else words are left over. -/
def consume (options : List OptionSpec) (commands : Bool) :
    Choices → List String → List (Sorted × String) → Except Halt Remainder
  | c, extras, [] => .ok ⟨c, extras.reverse, []⟩
  | c, extras, (s, text) :: rest =>
    match s with
    | .option o =>
      if o.option.takesValue then
        match o.value with
        | some value => consume options commands (c.apply o.option.effect value) extras rest
        | none =>
          match rest with
          | (.word value, _) :: more =>
            consume options commands (c.apply o.option.effect value) extras more
          | _ => .error (.error (o.option.title ++ ": expected one argument"))
      else
        match takeFlag options c o with
        | .ok c => consume options commands c extras rest
        | .error halt => .error halt
    | .unknown _ => consume options commands c (text :: extras) rest
    | .word _ =>
      if commands then .ok ⟨c, extras.reverse, text :: rest.map (·.2)⟩
      else consume options commands c (text :: extras) rest
    | .separator =>
      if commands && !rest.isEmpty then .ok ⟨c, extras.reverse, text :: rest.map (·.2)⟩
      else consume options commands c (text :: extras) rest

def readWith (options : List OptionSpec) (commands : Bool) (c : Choices) (args : List String) :
    Except Halt Remainder :=
  match sort options args with
  | .error message => .error (.error message)
  | .ok sorted => consume options commands c [] sorted

/-- What arguments ask for. -/
structure Invocation where
  choices : Choices
  command : CommandName
  deriving Repr, DecidableEq

/-- How reading arguments ends without an invocation: help, or a complaint with the usage. -/
inductive Refusal
  | help (text : String)
  | error (usage program message : String)
  deriving Repr, DecidableEq

/-- A halt of the program or of one of its commands. -/
def Halt.refusal (usage help program : String) : Halt → Refusal
  | .help => .help help
  | .error message => .error usage program message

def Halt.ofMain (h : Halt) : Refusal :=
  h.refusal Cli.usage Cli.help programName

def Halt.ofCommand (c : CommandName) (h : Halt) : Refusal :=
  h.refusal c.usage c.help (programName ++ " " ++ c.word)

/-- What is wrong with a word that is no command. -/
def invalidChoice (word : String) : Halt :=
  .error ("argument command: invalid choice: " ++ Text.quoted word ++ " (choose from "
    ++ ", ".intercalate (CommandName.all.map fun c => Text.quoted c.word) ++ ")")

/-- What arguments ask for, or why they ask for nothing. -/
def parse (args : List String) : Except Refusal Invocation :=
  match readWith mainOptions true ⟨none, false, none⟩ args with
  | .error halt => .error halt.ofMain
  | .ok main =>
    match main.command with
    | [] => .error (Halt.error "the following arguments are required: command").ofMain
    | word :: args =>
      match CommandName.ofWord? word with
      | none => .error (invalidChoice word).ofMain
      | some command =>
        match readWith command.options false main.choices args with
        | .error halt => .error (halt.ofCommand command)
        | .ok own =>
          let extras := main.extras ++ own.extras
          if extras.isEmpty then .ok ⟨own.choices, command⟩
          else .error
            (Halt.error ("unrecognized arguments: " ++ " ".intercalate extras)).ofMain

def Refusal.text : Refusal → String
  | .help text => text
  | .error usage program message => usage ++ program ++ ": error: " ++ message ++ "\n"

end DefaultCredentials.Cli
