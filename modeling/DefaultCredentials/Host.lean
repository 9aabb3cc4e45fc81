import DefaultCredentials.Command.Shell
import DefaultCredentials.Log.Event
import DefaultCredentials.Settings
import DefaultCredentials.Token

/-!
# The host of a process

What a credential can see and do: the clock, the environment, the files and what the programs among
them do, two transports that answer requests in the order in which answers are pending, the identity
service of a managed runtime, the adapters registered for such runtimes, and the settings that the
process has read.  Everything that can be noticed from outside is kept in the trace, the last first.
-/

namespace DefaultCredentials

/-- The transports of a process. -/
inductive Channel
  | main
  | api
  deriving Repr, DecidableEq

/-- What the identity service of a managed runtime does when it is asked for a token. -/
inductive IdentityAnswer
  | token (accessToken expiresAt : Value)
  | refused (text : String)
  | raised (why : Raised)

/-- How an adapter makes a credential. -/
inductive Creation
  | exchanges (kind label : String) (outcomes : List (Except Raised Token))
  | identity
  | nothing
  | raised (why : Raised)

/-- A detector of one managed runtime. -/
inductive Adapter
  | appEngine
  | custom (name : String) (available : Except Raised Bool) (creation : Creation)

namespace Adapter

def name : Adapter → String
  | appEngine => "app_engine"
  | custom name _ _ => name

end Adapter

inductive TrustQuestion
  | use
  | password
  | explicitKeystore
  | defaultKeystore
  deriving Repr, DecidableEq

/-- What can be noticed from outside. -/
inductive Happening
  | logged (e : Log.Event)
  | requested (channel : Channel) (r : Request)
  | closed (channel : Channel)
  | identityAsked (scopes : Scopes)
  | exchanged (clock : Float) (outcome : Except Raised Token)
  | sought (p : Path)
  | opened (p : Path)
  | decoded (decoder : String)
  | probed (adapter : Adapter)
  | made (adapter : Adapter)
  | asked (question : TrustQuestion)
  | loaded (keystore password : String)

/-- What is said where no answer is pending: of a transport, and of an exchange for a token. -/
structure Silence where
  transport : String
  exchange : String
  deriving Repr, DecidableEq

/-- The host of a process. -/
structure Host where
  now : Float
  environment : List (String × String)
  platform : String
  workingDirectory : Path
  files : FileTree
  programs : Surroundings → String → List String → Run
  main : List Answer
  api : List Answer
  identity : Option (List IdentityAnswer)
  silence : Silence
  adapters : List Adapter
  settings : Option Settings
  trace : List Happening

namespace Host

/-- A host with an empty file tree, the usual programs and nothing pending. -/
def empty : Host where
  now := 0.0
  environment := []
  platform := "linux"
  workingDirectory := ⟨1, []⟩
  files := .empty
  programs := Shell.program
  main := []
  api := []
  identity := none
  silence := ⟨"no answer is pending", "no outcome is pending"⟩
  adapters := [.appEngine]
  settings := none
  trace := []

/-- Adds to the trace. -/
def note (h : Host) (x : Happening) : Host :=
  { h with trace := x :: h.trace }

/-- Adds several happenings to the trace, the last first. -/
def noting (h : Host) (xs : List Happening) : Host :=
  { h with trace := xs ++ h.trace }

/-- What happened since an earlier time, the last first. -/
def since (h earlier : Host) : List Happening :=
  h.trace.take (h.trace.length - earlier.trace.length)

def log (h : Host) (e : Log.Event) : Host :=
  h.note (.logged e)

/-- The answers pending at a transport. -/
def pending (h : Host) : Channel → List Answer
  | .main => h.main
  | .api => h.api

def withPending (h : Host) (answers : List Answer) : Channel → Host
  | .main => { h with main := answers }
  | .api => { h with api := answers }

/-- What a transport raises when no answer is pending. -/
def unanswered (h : Host) : Raised :=
  .failure (.transport h.silence.transport)

/-- Sends a request: the next pending answer is the outcome. -/
def send (h : Host) (channel : Channel) (r : Request) : Answer × Host :=
  let h := h.note (.requested channel r)
  match h.pending channel with
  | [] => (.error h.unanswered, h)
  | answer :: rest => (answer, h.withPending rest channel)

def close (h : Host) (channel : Channel) : Host :=
  h.note (.closed channel)

/-- Asks the identity service for a token, if there is one. -/
def askIdentity (h : Host) (scopes : Scopes) : Option IdentityAnswer × Host :=
  match h.identity with
  | none => (none, h)
  | some [] => (some (.refused h.silence.exchange), h.note (.identityAsked scopes))
  | some (answer :: rest) =>
    (some answer, { h.note (.identityAsked scopes) with identity := some rest })

/-- The settings of the process, read from the environment once and then kept. -/
def processSettings (h : Host) : Except Raised Settings × Host :=
  match h.settings with
  | some s => (.ok s, h)
  | none =>
    match Settings.read [] h.environment with
    | .ok s => (.ok s, { h with settings := some s })
    | .error problems => (.error (.of (.settings problems)), h)

/-- The given settings, or those of the process. -/
def settingsOr (h : Host) : Option Settings → Except Raised Settings × Host
  | some s => (.ok s, h)
  | none => h.processSettings

def home (h : Host) : Path :=
  match h.environment.lookup "HOME" with
  | some s => .ofText (if s.toList.all (· == '/') then "/" else s)
  | none => ⟨1, ["root"]⟩

/-- Registers an adapter after those that are registered. -/
def register (h : Host) (a : Adapter) : Host :=
  { h.log (.adapterRegistered a.name) with adapters := h.adapters ++ [a] }

theorem since_eq {h earlier : Host} {new : List Happening} (ht : h.trace = new ++ earlier.trace) :
    h.since earlier = new := by
  simp [since, ht]

@[simp] theorem since_self (h : Host) : h.since h = [] := by
  simp [since]

theorem processSettings_of_some {h : Host} {s : Settings} (hs : h.settings = some s) :
    h.processSettings = (.ok s, h) := by
  simp [processSettings, hs]

@[simp] theorem trace_send (h : Host) (channel : Channel) (r : Request) :
    (h.send channel r).2.trace = .requested channel r :: h.trace := by
  cases channel <;> simp only [send, pending, note] <;> split <;> rfl

@[simp] theorem now_send (h : Host) (channel : Channel) (r : Request) :
    (h.send channel r).2.now = h.now := by
  cases channel <;> simp only [send, pending, note] <;> split <;> rfl

theorem trace_askIdentity (h : Host) (scopes : Scopes) :
    (h.askIdentity scopes).2.trace =
      if h.identity.isSome then .identityAsked scopes :: h.trace else h.trace := by
  unfold askIdentity
  split <;> simp_all [note]

@[simp] theorem now_askIdentity (h : Host) (scopes : Scopes) :
    (h.askIdentity scopes).2.now = h.now := by
  unfold askIdentity
  split <;> rfl

end Host
end DefaultCredentials
