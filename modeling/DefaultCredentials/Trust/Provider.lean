import DefaultCredentials.Command
import DefaultCredentials.Trust

/-!
# Providers of client certificates

A fixed provider gives what it was made with.  The provider of the environment gives the output of
a command that a metadata file names, as a default only, and is asked for it only if the settings
say so.
-/

namespace DefaultCredentials.TrustProvider

/-- A provider that gives a keystore, or the one in the file at a path, when it is asked for an
explicit one. -/
def fixed (use : Bool) (keystore : Option Keystore) (path : Option Path)
    (defaultKeystore : Option Keystore) (password : String) : TrustProvider where
  use := use
  password := password
  explicitKeystore := fun h =>
    match keystore, path with
    | some k, _ => (.ok (some k), h)
    | none, some p => (((h.contents p).bind Keystore.ofDocument).map some, h)
    | none, none => (.ok none, h)
  defaultKeystore := fun h => (.ok defaultKeystore, h)

/-- Where the metadata file is when no path is given. -/
def defaultMetadataPath : String :=
  "~/.secureConnect/context_aware_metadata.json"

/-- A path with a home directory put in for a tilde at its start. -/
def expandHome (h : Host) (p : Path) : Except Raised Path :=
  match p.isAbsolute, p.parts with
  | false, part :: rest =>
    if part = "~" then .ok (h.home.join rest)
    else if part = "~root" then .ok ⟨1, "root" :: rest⟩
    else if part.toList.head? == some '~' then .error (.trouble .homeUnknown)
    else .ok p
  | _, _ => .ok p

/-- Line ends of all systems as line feeds. -/
def unifyLineEnds : List Char → List Char
  | [] => []
  | '\r' :: '\n' :: rest => '\n' :: unifyLineEnds rest
  | '\r' :: rest => '\n' :: unifyLineEnds rest
  | c :: rest => c :: unifyLineEnds rest

/-- The command that a metadata document names. -/
def commandOf (path : String) (document : Value) : Except Raised (List String) :=
  match document with
  | .object members =>
    match Value.member members "cert_provider_command" with
    | .list (v :: vs) =>
      match (v :: vs).mapM Value.text? with
      | some words => .ok words
      | none => .error (.trouble (.commandNotText path))
    | _ => .error (.trouble (.metadataWithoutCommand path))
  | _ => .error (.trouble (.metadataNotObject path))

/-- The command in the octets of a metadata file. -/
def readCommand (path : String) (bytes : List UInt8) : Except Raised (List String) :=
  match Utf8.decode bytes with
  | .error defect => .error (.trouble (.octets defect))
  | .ok s =>
    (Decoder.json.decode (String.ofList (unifyLineEnds s.toList))).bind (commandOf path)

/-- The keystore in the output of the command that a metadata file names. -/
def keystoreOfMetadata (timeout : Float) (p : Path) (h : Host) :
    Except Raised (Option Keystore) × Host :=
  match h.hasPath p with
  | .error why => (.error why, h)
  | .ok false => (.ok none, h)
  | .ok true =>
    match (h.contents p).bind (readCommand p.toText) with
    | .error why => (.error why, h)
    | .ok command =>
      let h := h.log (.commandRunning (command.headD ""))
      (((Command.run h command timeout).bind Keystore.ofDocument).map some, h)

/-- The provider of the environment, with the metadata file at a path. -/
def ofSettings (s : Settings) (metadata : Path) : TrustProvider where
  use := s.useClientCertificate
  password := ""
  explicitKeystore := fun h => (.ok none, h)
  defaultKeystore := keystoreOfMetadata s.commandTimeout metadata

/-- The provider of the environment; without settings those of the process hold, and without a
path the metadata file is where it is by default. -/
def ofEnvironment (settings : Option Settings) (metadataPath : String) (h : Host) :
    Except Raised TrustProvider × Host :=
  match h.settingsOr settings with
  | (.error why, h) => (.error why, h)
  | (.ok s, h) =>
    let path := if metadataPath.isEmpty then defaultMetadataPath else metadataPath
    ((expandHome h (.ofText path)).map (ofSettings s), h)

end DefaultCredentials.TrustProvider
