import DefaultCredentials.Compute
import DefaultCredentials.Resolver.Loading

/-!
# Discovery

Four places are looked at in order: the file that a variable names, the file that the command line
tools leave at a well-known place, a managed runtime, and the metadata server.  The first place
that applies decides, also when it fails.
-/

namespace DefaultCredentials

/-- The places where a credential can come from. -/
inductive Source
  | envFile
  | wellKnownFile
  | sandboxRuntime
  | computeMetadata
  deriving Repr, DecidableEq

namespace Source

/-- All places, in the order in which they are looked at. -/
def all : List Source :=
  [envFile, wellKnownFile, sandboxRuntime, computeMetadata]

def name : Source → String
  | envFile => "env_file"
  | wellKnownFile => "well_known_file"
  | sandboxRuntime => "sandbox_runtime"
  | computeMetadata => "compute_metadata"

def ofName (s : String) : Except Raised Source :=
  match all.find? (·.name == s) with
  | some source => .ok source
  | none => .error (.trouble (.unknownSource s))

theorem ofName_name (s : Source) : ofName s.name = .ok s := by
  cases s <;> rfl

end Source

/-- What discovery looks at: an environment of its own or that of the process, the name of the
platform, a home directory if it is not the user's, the adapters and the settings. -/
structure Scope where
  environment : Option (List (String × String))
  platform : String
  home : Option Path
  adapters : List Adapter
  settings : Settings

namespace Discovery

/-- The variable that names a credential file. -/
def pointerVariable : String :=
  "GOOGLE_APPLICATION_CREDENTIALS"

/-- The file at a well-known place. -/
def wellKnownName : String :=
  "application_default_credentials.json"

/-- The client under which the command line tools log users in. -/
def sdkClientId : String :=
  "764086051850-6qr4p6gpi6hn506pt8ejuq83di341hur.apps.googleusercontent.com"

/-- What an attempt at one place gives: a credential, nothing, or a fault. -/
abbrev Attempt := Except Raised (Option Credential) × Host

/-- The value of a variable, unless it is empty. -/
def variableOf (s : Scope) (h : Host) (name : String) : Option String :=
  ((s.environment.getD h.environment).lookup name).filter (· ≠ "")

/-- Whether the platform keeps its files in the Windows way. -/
def isWindows (s : Scope) : Bool :=
  "win".toList.isPrefixOf (Text.lower s.platform).toList

/-- The well-known file of the platform, if there is one. -/
def wellKnownFile (s : Scope) (h : Host) : Option Path :=
  match variableOf s h "CLOUDSDK_CONFIG" with
  | some directory => some ((Path.ofText directory).join [wellKnownName])
  | none =>
    if isWindows s then
      (variableOf s h "APPDATA").map fun directory =>
        (Path.ofText directory).join ["gcloud", wellKnownName]
    else some ((s.home.getD h.home).join [".config", "gcloud", wellKnownName])

/-- A credential that was made, as an attempt. -/
def found (outcome : Except Raised Credential × Host) : Attempt :=
  (outcome.1.map some, outcome.2)

def loadFile (s : Scope) (p : Path) (channel : Channel) (decoder : Decoder) (h : Host) :
    Except Raised Credential × Host :=
  Credential.load p.toText p channel decoder (some s.settings) h

/-- The file that the variable names.  If it names one, there must be one. -/
def fromPointer (s : Scope) (channel : Channel) (decoder : Decoder) (h : Host) : Attempt :=
  match variableOf s h pointerVariable with
  | none => (.ok none, h)
  | some value =>
    let p := h.absolutePath value
    match h.seek p with
    | (.error why, h) => (.error why, h)
    | (.ok false, h) =>
      (.error (.failure (.pointerMissing (.text pointerVariable) (.text p.toText))), h)
    | (.ok true, h) => found (loadFile s p channel decoder h)

/-- Whether a credential is a user's that the command line tools left behind. -/
def isSdkUser (c : Credential) : Bool :=
  match c.material with
  | .user grant _ => grant.clientId.text? == some sdkClientId
  | _ => false

/-- The well-known file, if it is there. -/
def fromWellKnownFile (s : Scope) (channel : Channel) (decoder : Decoder) (h : Host) : Attempt :=
  match wellKnownFile s h with
  | none => (.ok none, h)
  | some p =>
    match h.seek p with
    | (.error why, h) => (.error why, h)
    | (.ok false, h) => (.ok none, h)
    | (.ok true, h) =>
      match loadFile s p channel decoder h with
      | (.error why, h) => (.error why, h)
      | (.ok c, h) => (.ok (some c), if isSdkUser c then h.log .sdkCredentialUsed else h)

def isAvailable (a : Adapter) (h : Host) : Except Raised Bool × Host :=
  match a with
  | .appEngine => (.ok h.identity.isSome, h.note (.probed a))
  | .custom _ available _ => (available, h.note (.probed a))

/-- The credential that an adapter makes.  An adapter knows nothing of a resolver's settings, so
its credential has those of the process. -/
def create (a : Adapter) (channel : Channel) (decoder : Decoder) (h : Host) : Attempt :=
  let withSettings := fun (make : Settings → Credential) =>
    match h.processSettings with
    | (.error why, h) => (.error why, h)
    | (.ok s, h) => (.ok (some (make s)), h)
  let identity := withSettings (Credential.ofIdentity channel decoder [])
  match a with
  | .appEngine => identity
  | .custom _ _ .identity => identity
  | .custom _ _ .nothing => (.ok none, h)
  | .custom _ _ (.raised why) => (.error why, h)
  | .custom _ _ (.exchanges kind label outcomes) =>
    withSettings (Credential.fresh (.custom kind label outcomes) channel decoder [])

/-- The first adapter whose runtime is there. -/
def fromAdapters (channel : Channel) (decoder : Decoder) : List Adapter → Host → Attempt
  | [], h => (.ok none, h)
  | a :: rest, h =>
    match isAvailable a h with
    | (.error why, h) => (.error why, h)
    | (.ok false, h) => fromAdapters channel decoder rest h
    | (.ok true, h) =>
      create a channel decoder ((h.log (.adapterAvailable a.name)).note (.made a))

/-- The metadata server, if it is there. -/
def fromCompute (s : Scope) (channel : Channel) (decoder : Decoder) (h : Host) : Attempt :=
  match Compute.isAvailable channel s.settings h with
  | (.error why, h) => (.error why, h)
  | (.ok false, h) => (.ok none, h)
  | (.ok true, h) => (.ok (some (Credential.ofCompute channel decoder s.settings)), h)

/-- The attempt at a place. -/
def attempt (s : Scope) (channel : Channel) (decoder : Decoder) (source : Source) (h : Host) :
    Attempt :=
  match source with
  | .envFile => fromPointer s channel decoder h
  | .wellKnownFile => fromWellKnownFile s channel decoder h
  | .sandboxRuntime => fromAdapters channel decoder s.adapters h
  | .computeMetadata => fromCompute s channel decoder h

/-- Looks at places in turn until one decides. -/
def discover (s : Scope) (channel : Channel) (decoder : Decoder) :
    List Source → Host → Except Raised (Credential × Source) × Host
  | [], h => (.error (.failure .notFound), h)
  | source :: rest, h =>
    match attempt s channel decoder source h with
    | (.error why, h) => (.error why, h)
    | (.ok (some c), h) => (.ok (c, source), h)
    | (.ok none, h) => discover s channel decoder rest (h.log (.sourceNotApplicable source.name))

/-- The place that decides ends discovery. -/
theorem discover_of_found {s : Scope} {channel : Channel} {decoder : Decoder} {source : Source}
    {rest : List Source} {h h' : Host} {c : Credential}
    (ha : attempt s channel decoder source h = (.ok (some c), h')) :
    discover s channel decoder (source :: rest) h = (.ok (c, source), h') := by
  simp [discover, ha]

end Discovery
end DefaultCredentials
