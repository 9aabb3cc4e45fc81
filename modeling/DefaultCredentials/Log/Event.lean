import DefaultCredentials.Log.Level
import DefaultCredentials.Value.Display

/-!
# What the library logs

An `Event` is something that the library does or decides, and `Event.record` is how it shows in a
log: a level, a message and further entries.  Decisions that matter for an audit carry the entry
`audit_event`.
-/

namespace DefaultCredentials.Log

/-- A log record. -/
structure Record where
  level : Level
  message : String
  extra : List (String × Value)
  deriving Repr

/-- What can happen that is logged. -/
inductive Event
  | credentialResolved (source kind : String)
  | credentialNotFound (reason : String)
  | tokenRefreshed (kind : String) (expiresIn : Option Int)
  | tokenRefreshFailed (kind reason : String)
  | trustDecided (useClientCertificate : Bool) (reason : String)
  | metadataUnreachable (reason : String)
  | adapterRegistered (name : String)
  | adapterAvailable (name : String)
  | sourceNotApplicable (source : String)
  | sdkCredentialUsed
  | refreshingAfter (status : Int) (url : Value)
  | commandRunning (name : String)
  | defaultCertificateUnavailable (reason : String)
  deriving Repr

namespace Event

/-- Whether an event is for the audit, and under which name. -/
def auditName? : Event → Option String
  | credentialResolved _ _ => some "credential_resolved"
  | credentialNotFound _ => some "credential_not_found"
  | tokenRefreshed _ _ => some "token_refresh"
  | tokenRefreshFailed _ _ => some "token_refresh_failed"
  | trustDecided _ _ => some "mtls_decision"
  | _ => none

def level : Event → Level
  | credentialResolved _ _ => .info
  | credentialNotFound _ => .warning
  | tokenRefreshed _ _ => .debug
  | tokenRefreshFailed _ _ => .warning
  | trustDecided _ _ => .info
  | sdkCredentialUsed => .warning
  | defaultCertificateUnavailable _ => .warning
  | _ => .debug

def message : Event → String
  | credentialResolved _ _ => "Application default credential resolved"
  | credentialNotFound _ => "Application default credential not available"
  | tokenRefreshed _ _ => "Access token refreshed"
  | tokenRefreshFailed _ _ => "Access token refresh failed"
  | trustDecided _ _ => "Client certificate decision"
  | metadataUnreachable reason => "Metadata server not reachable: " ++ reason
  | adapterRegistered name => "Registering runtime adapter " ++ name
  | adapterAvailable name => "Runtime adapter " ++ name ++ " is available"
  | sourceNotApplicable source => "Credential source " ++ source ++ " not applicable"
  | sdkCredentialUsed =>
    "Using end user credentials from the Google Cloud SDK without a quota project. You might "
      ++ "receive a 'quota exceeded' or 'API not enabled' error. Consider using a service account "
      ++ "instead."
  | refreshingAfter status url =>
    "Refreshing credential after " ++ toString status ++ " from " ++ url.plain
  | commandRunning name => "Running certificate provider command " ++ name
  | defaultCertificateUnavailable reason =>
    "Default client certificate unavailable, continuing without it: " ++ reason

/-- The entries of an event besides its name for the audit. -/
def details : Event → List (String × Value)
  | credentialResolved source kind => [("source", .text source), ("kind", .text kind)]
  | credentialNotFound reason => [("reason", .text reason)]
  | tokenRefreshed kind expiresIn =>
    [("kind", .text kind), ("expires_in", match expiresIn with
      | some seconds => .int seconds
      | none => .null)]
  | tokenRefreshFailed kind reason => [("kind", .text kind), ("reason", .text reason)]
  | trustDecided use reason =>
    [("use_client_certificate", .bool use), ("reason", .text reason)]
  | _ => []

/-- How an event shows in a log. -/
def record (e : Event) : Record where
  level := e.level
  message := e.message
  extra := match e.auditName? with
    | some name => ("audit_event", .text name) :: e.details
    | none => e.details

end Event
end DefaultCredentials.Log
