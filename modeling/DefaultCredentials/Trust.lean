import DefaultCredentials.Keystore

/-!
# Trust selection

Whether connections present a client certificate is decided from a provider's answers.  A keystore
that was asked for explicitly must load.  A default keystore that is absent or does not load means
that no certificate is presented.  A configuration that is decided on is logged for the audit,
exactly once; what is raised in place of one is not.
-/

namespace DefaultCredentials

/-- The outcome of trust selection. -/
structure TrustConfig where
  useClientCertificate : Bool
  keystore : Option Keystore
  password : String

namespace TrustConfig

/-- No client certificate. -/
def none : TrustConfig :=
  ⟨false, .none, ""⟩

/-- A configuration of these parts; a client certificate needs a keystore. -/
def make (use : Bool) (keystore : Option Keystore) (password : String) :
    Except Raised TrustConfig :=
  if use && keystore.isNone then .error (.trouble .keystoreRequired)
  else .ok ⟨use, keystore, password⟩

/-- A client certificate from a keystore. -/
def presenting (k : Keystore) (password : String) : TrustConfig :=
  ⟨true, some k, password⟩

end TrustConfig

/-- What answers the questions of trust selection. -/
structure TrustProvider where
  use : Bool
  password : String
  explicitKeystore : Host → Except Raised (Option Keystore) × Host
  defaultKeystore : Host → Except Raised (Option Keystore) × Host

namespace Trust

/-- Whether what was raised means that a keystore could not be had. -/
def isLoadFailure (why : Raised) : Bool :=
  why.isOf .system || why.isOf .value || why.isOf .command

/-- What a keystore comes to: none, one that loads, one that cannot be had, or another fault. -/
inductive Trial
  | absent
  | loads (k : Keystore)
  | fails (why : Raised)
  | passes (why : Raised)

/-- Judges what was raised. -/
def Trial.ofRaised (why : Raised) : Trial :=
  if isLoadFailure why then .fails why else .passes why

/-- Has a keystore and tries to load it. -/
def trial (answer : Except Raised (Option Keystore) × Host) (password : String) : Trial × Host :=
  match answer with
  | (.error why, h) => (.ofRaised why, h)
  | (.ok none, h) => (.absent, h)
  | (.ok (some k), h) =>
    match k.load password h with
    | (.ok (), h) => (.loads k, h)
    | (.error why, h) => (.ofRaised why, h)

/-- Logs a decision. -/
def decide (use : Bool) (reason : String) (h : Host) : Host :=
  h.log (.trustDecided use reason)

/-- The failure of a keystore that was asked for. -/
def unavailable (why : Raised) : Raised :=
  .because (.trustUnavailable ("Client certificate could not be loaded: " ++ why.text)) why

/-- The decision when no keystore was asked for. -/
def selectDefault (p : TrustProvider) (h : Host) : Except Raised TrustConfig × Host :=
  match trial (p.defaultKeystore (h.note (.asked .defaultKeystore))) p.password with
  | (.absent, h) => (.ok .none, decide false "no default keystore" h)
  | (.loads k, h) => (.ok (.presenting k p.password), decide true "default keystore" h)
  | (.fails why, h) =>
    (.ok .none,
      decide false "no default keystore" (h.log (.defaultCertificateUnavailable why.text)))
  | (.passes why, h) => (.error why, h)

/-- Decides whether connections present a client certificate. -/
def select (p : TrustProvider) (h : Host) : Except Raised TrustConfig × Host :=
  let h := h.note (.asked .use)
  if p.use then
    let h := (h.note (.asked .password)).note (.asked .explicitKeystore)
    match trial (p.explicitKeystore h) p.password with
    | (.absent, h) => selectDefault p h
    | (.loads k, h) => (.ok (.presenting k p.password), decide true "explicit keystore" h)
    | (.fails why, h) => (.error (unavailable why), h)
    | (.passes why, h) => (.error why, h)
  else (.ok .none, decide false "client certificate not requested" h)

theorem select_of_not_use {p : TrustProvider} (hp : p.use = false) (h : Host) :
    select p h = (.ok .none,
      decide false "client certificate not requested" (h.note (.asked .use))) := by
  simp [select, hp]

end Trust

/-- What a connection demands of its peer, and the certificate that it presents. -/
structure TlsContext where
  requiresCertificate : Bool
  checksName : Bool
  presented : Option Keystore

namespace TlsContext

/-- The context of connections under a configuration. -/
def ofConfig (config : Option TrustConfig) (h : Host) : Except Raised TlsContext × Host :=
  match config with
  | some ⟨true, some k, password⟩ =>
    match k.load password h with
    | (.ok (), h) => (.ok ⟨true, true, some k⟩, h)
    | (.error why, h) => (.error why, h)
  | _ => (.ok ⟨true, true, none⟩, h)

end TlsContext
end DefaultCredentials
