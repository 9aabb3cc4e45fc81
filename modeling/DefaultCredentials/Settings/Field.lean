/-!
# The options and what can be wrong with them

Eight options, each with its name.  Three of them answer to a second name that other tools share,
their alias, which comes first.  A `Problem` says at which name a value was found and what was
wrong with it.
-/

namespace DefaultCredentials

/-- The options, in the order in which problems are reported. -/
inductive Field
  | metadataHost
  | metadataTimeout
  | tokenUri
  | requestTimeout
  | useClientCertificate
  | commandTimeout
  | logLevel
  | jsonLogs
  deriving Repr, DecidableEq

namespace Field

def all : List Field :=
  [metadataHost, metadataTimeout, tokenUri, requestTimeout, useClientCertificate, commandTimeout,
    logLevel, jsonLogs]

def name : Field → String
  | metadataHost => "gce_metadata_host"
  | metadataTimeout => "gce_metadata_timeout"
  | tokenUri => "token_uri"
  | requestTimeout => "request_timeout"
  | useClientCertificate => "use_client_certificate"
  | commandTimeout => "cert_provider_timeout"
  | logLevel => "log_level"
  | jsonLogs => "json_logs"

def alias? : Field → Option String
  | metadataHost => some "GCE_METADATA_HOST"
  | metadataTimeout => some "GCE_METADATA_TIMEOUT"
  | useClientCertificate => some "GOOGLE_API_USE_CLIENT_CERTIFICATE"
  | _ => none

/-- The variable of an option that no other tool shares, in lower case. -/
def prefixedName (f : Field) : String :=
  "adcred_" ++ f.name

end Field

/-- What can be wrong with the value of an option. -/
inductive Objection
  | notNumber
  | unreadableNumber
  | notText
  | notFlag
  | unreadableFlag
  | notPositive
  | unknownLevel
  deriving Repr, DecidableEq

namespace Objection

def code : Objection → String
  | notNumber => "float_type"
  | unreadableNumber => "float_parsing"
  | notText => "string_type"
  | notFlag => "bool_type"
  | unreadableFlag => "bool_parsing"
  | notPositive => "value_error"
  | unknownLevel => "value_error"

def message : Objection → String
  | notNumber => "Input should be a valid number"
  | unreadableNumber => "Input should be a valid number, unable to parse string as a number"
  | notText => "Input should be a valid string"
  | notFlag => "Input should be a valid boolean"
  | unreadableFlag => "Input should be a valid boolean, unable to interpret input"
  | notPositive => "Value error, timeouts must be positive"
  | unknownLevel =>
    "Value error, log_level must be one of: "
      ++ "['CRITICAL', 'DEBUG', 'ERROR', 'INFO', 'SUCCESS', 'TRACE', 'WARNING']"

end Objection

/-- An objection with the name under which the value was found. -/
structure Problem where
  name : String
  objection : Objection
  deriving Repr, DecidableEq

end DefaultCredentials
