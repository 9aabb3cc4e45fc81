import DefaultCredentials.Cli.Arguments
import DefaultCredentials.Log.Sink
import DefaultCredentials.Resolver
import DefaultCredentials.Trust.Provider

/-!
# The command line

Three commands show where the credential of the process comes from, print an access token, and show
whether connections present a client certificate.  A failure of the library ends a command with one
line on standard error; other faults pass.
-/

namespace DefaultCredentials.Cli

/-- The end of a run: the code, and what was written to the two outputs. -/
structure Result where
  code : Nat
  stopped : Bool
  output : String
  errors : String
  deriving Repr

namespace Result

def success (output : String) : Result :=
  ⟨0, false, output, ""⟩

def failure (errors : String) : Result :=
  ⟨1, false, "", errors⟩

end Result

/-- Turns a failure of the library into the end of a command; other faults pass. -/
def report (what : String) (why : Raised) : Except Raised Result :=
  match why.failure? with
  | some _ => .ok (.failure (what ++ ": " ++ why.text ++ "\n"))
  | none => .error why

/-- Finds the credential of the process and where it comes from. -/
def resolve (h : Host) : Except Raised (Credential × Option Source) × Host :=
  match h.processSettings with
  | (.error why, h) => (.error why, h)
  | (.ok s, h) =>
    let r := Resolver.new none none none none s h
    match r.resolve .main .json .empty h with
    | (.error why, _, _, h) => (.error why, h)
    | (.ok n, r, w, h) =>
      match w.get? n with
      | some c => (.ok (c, r.kept.bind (·.source?)), h)
      | none => (.error (.trouble .nothingResolved), h)

/-- Describes the credential of the process. -/
def info (h : Host) : Except Raised Result × Host :=
  match resolve h with
  | (.error why, h) => (report "Credential discovery failed" why, h.close .main)
  | (.ok (c, source), h) =>
    let place := ((source.map Source.name).getD "")
    (.ok (.success ("Source: " ++ place ++ "\nKind: " ++ c.kind ++ "\nCredential: " ++ c.display
      ++ "\n")), h.close .main)

/-- The scopes in a text: the pieces between commas, trimmed, blank ones left out. -/
def scopesOf (text : String) : List String :=
  ((Path.pieces ',' text.toList).map fun p => Text.trim (String.ofList p)).filter (· ≠ "")

/-- A credential bound to scopes, if there are any. -/
def narrow (c : Credential) (scopes : List String) : Credential :=
  if scopes.isEmpty then c else (c.withScopes? scopes).getD c

/-- Writes an access token to the output, which takes no halves of surrogate pairs. -/
def written (accessToken : Value) : Except Raised Result :=
  match accessToken.ragged? with
  | some text => .error (.trouble (.unencodable text))
  | none => .ok (.success (accessToken.plain ++ "\n"))

/-- Prints an access token. -/
def token (scopes : Option String) (h : Host) : Except Raised Result × Host :=
  match resolve h with
  | (.error why, h) => (report "Failed to obtain access token" why, h.close .main)
  | (.ok (c, _), h) =>
    let c := narrow c (scopesOf (scopes.getD ""))
    if c.needsScopes then
      (.ok (.failure "Error: this credential requires --scopes\n"), h.close .main)
    else
      match c.currentToken h with
      | (.error why, _, h) => (report "Failed to obtain access token" why, h.close .main)
      | (.ok t, _, h) => (written t, h.close .main)

/-- Says whether connections present a client certificate, with the provider of the environment
unless another is given. -/
def mtls (provider : Option TrustProvider) (h : Host) : Except Raised Result × Host :=
  let answer := fun (config : Except Raised TrustConfig) => match config with
    | .ok config =>
      .ok (.success
        ("Use client certificate: " ++ (if config.useClientCertificate then "yes" else "no")
          ++ "\n"))
    | .error why => report "Client certificate selection failed" why
  match provider with
  | some p => let (config, h) := Trust.select p h; (answer config, h)
  | none =>
    match TrustProvider.ofEnvironment none "" h with
    | (.error why, h) => (.error why, h)
    | (.ok p, h) => let (config, h) := Trust.select p h; (answer config, h)

/-- How logging is set up by an invocation. -/
structure LogChoice where
  json : Bool
  level : String
  deriving Repr, DecidableEq

/-- The choice of arguments, with the settings where they choose nothing. -/
def logChoice (c : Choices) (s : Settings) : LogChoice :=
  ⟨c.jsonLogs || s.jsonLogs, Text.upper (c.logLevel.getD s.logLevel.name)⟩

def runCommand (i : Invocation) (provider : Option TrustProvider) (h : Host) :
    Except Raised Result × Host :=
  match i.command with
  | .info => info h
  | .token => token i.choices.scopes h
  | .mtls => mtls provider h

/-- Runs the program.  The second part is how logging was set up, if it came to that. -/
def run (args : List String) (provider : Option TrustProvider) (h : Host) :
    Except Raised Result × Option LogChoice × Host :=
  match h.processSettings with
  | (.error why, h) => (.error why, none, h)
  | (.ok s, h) =>
    match parse args with
    | .error (.help text) => (.ok ⟨0, true, text, ""⟩, none, h)
    | .error refusal => (.ok ⟨2, true, "", refusal.text⟩, none, h)
    | .ok i =>
      let choice := logChoice i.choices s
      match Log.Sink.make choice.json choice.level with
      | .error t => (.error (.trouble t), some choice, h)
      | .ok _ =>
        let (result, h) := runCommand i provider h
        (result, some choice, h)

end DefaultCredentials.Cli
