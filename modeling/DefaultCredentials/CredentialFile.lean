import DefaultCredentials.Decoder

/-!
# Credential documents

A credential document is an object whose member `type` selects one of two shapes: the key of a
service account, or the grant of an authorized user.  `CredentialInfo.ofValue` reads the shapes,
and a `FileDefect` says why a document holds neither.  The values of members are not inspected
beyond whether they are given.
-/

namespace DefaultCredentials

/-- The two shapes of credential documents. -/
inductive FileType
  | serviceAccount
  | authorizedUser
  deriving Repr, DecidableEq

namespace FileType

/-- The name of a shape in the member `type`. -/
def name : FileType → String
  | serviceAccount => "service_account"
  | authorizedUser => "authorized_user"

/-- The members that a shape must have, in the order in which missing ones are listed. -/
def required : FileType → List String
  | serviceAccount => ["client_id", "client_email", "private_key", "private_key_id"]
  | authorizedUser => ["client_id", "client_secret", "refresh_token"]

def ofValue? : Value → Option FileType
  | .text s =>
    if s = serviceAccount.name then some serviceAccount
    else if s = authorizedUser.name then some authorizedUser
    else none
  | _ => none

theorem ofValue?_name (t : FileType) : ofValue? (.text t.name) = some t := by
  cases t <;> decide

end FileType

/-- The key of a service account. -/
structure ServiceAccountKey where
  clientId : Value
  clientEmail : Value
  privateKey : Value
  privateKeyId : Value
  tokenUri : Value
  projectId : Value
  deriving Repr, BEq

/-- The grant of an authorized user. -/
structure UserGrant where
  clientId : Value
  clientSecret : Value
  refreshToken : Value
  quotaProjectId : Value
  deriving Repr, BEq

/-- What a credential document holds. -/
inductive CredentialInfo
  | serviceAccount (key : ServiceAccountKey)
  | authorizedUser (grant : UserGrant)
  deriving Repr, BEq

namespace CredentialInfo

def type : CredentialInfo → FileType
  | serviceAccount _ => .serviceAccount
  | authorizedUser _ => .authorizedUser

/-- The members that a shape takes from a document. -/
def ofMembers (t : FileType) (members : List (String × Value)) : CredentialInfo :=
  let get := Value.member members
  match t with
  | .serviceAccount =>
    .serviceAccount
      { clientId := get "client_id", clientEmail := get "client_email"
        privateKey := get "private_key", privateKeyId := get "private_key_id"
        tokenUri := get "token_uri", projectId := get "project_id" }
  | .authorizedUser =>
    .authorizedUser
      { clientId := get "client_id", clientSecret := get "client_secret"
        refreshToken := get "refresh_token", quotaProjectId := get "quota_project_id" }

end CredentialInfo

/-- Why a credential file cannot be used. -/
inductive FileDefect
  | unreadable (why : Raised)
  | undecodable (why : Raised)
  | notObject
  | untyped
  | incomplete (type : FileType) (missing : List String)
  | unrecognized (type : Value)
  | keyUnusable (why : Raised)

namespace FileDefect

def message : FileDefect → String
  | unreadable why => "Credential file could not be read: " ++ why.text
  | undecodable why => "Credential file is not valid JSON: " ++ why.text
  | notObject => "Credential file must contain a JSON object"
  | untyped => "Credential file is missing the 'type' field"
  | incomplete type missing =>
    "Credential file of type '" ++ type.name ++ "' is missing required field(s): "
      ++ ", ".intercalate missing
  | unrecognized type =>
    "Credential file has unrecognized type '" ++ type.plain
      ++ "'. Expecting 'authorized_user' or 'service_account'"
  | keyUnusable why => "Service account private key could not be loaded: " ++ why.text

def cause? : FileDefect → Option Raised
  | unreadable why => some why
  | undecodable why => some why
  | keyUnusable why => some why
  | _ => none

def failure (d : FileDefect) (path : Value) : Failure :=
  .malformedFile (.text d.message) path

def raise (d : FileDefect) (path : Value) : Raised :=
  match d.cause? with
  | some why => .because (d.failure path) why
  | none => .failure (d.failure path)

theorem fault_raise (d : FileDefect) (path : Value) :
    (d.raise path).fault = .failure (d.failure path) := by
  unfold raise
  cases d.cause? <;> rfl

end FileDefect

namespace CredentialInfo

/-- The required members that are absent or not given. -/
def missing (t : FileType) (members : List (String × Value)) : List String :=
  t.required.filter fun name => !(Value.member members name).isGiven

/-- What a decoded document holds. -/
def ofValue : Value → Except FileDefect CredentialInfo
  | .object members =>
    let type := Value.member members "type"
    if !type.isGiven then .error .untyped
    else
      match FileType.ofValue? type with
      | none => .error (.unrecognized type)
      | some t =>
        if (missing t members).isEmpty then .ok (ofMembers t members)
        else .error (.incomplete t (missing t members))
  | _ => .error .notObject

/-- What a decoding attempt comes to: a value-related trouble is a defect of the file, and any
other passes. -/
def ofDecoded (path : Value) : Except Raised Value → Except Raised CredentialInfo
  | .ok v => (ofValue v).mapError (·.raise path)
  | .error why => .error (if why.isOf .value then (FileDefect.undecodable why).raise path else why)

/-- Reads a credential document given as text. -/
def parseText (s : String) (decoder : Decoder) (path : Value) : Except Raised CredentialInfo :=
  ofDecoded path (decoder.decode s)

/-- Reads a credential document given as octets. -/
def parse (bytes : List UInt8) (decoder : Decoder) (path : Value) :
    Except Raised CredentialInfo :=
  ofDecoded path (decoder.decodeOctets bytes)

/-- An object with a known type and all its required members is accepted, members unchanged. -/
theorem ofValue_object {members : List (String × Value)} {t : FileType}
    (htype : Value.member members "type" = .text t.name) (hmissing : missing t members = []) :
    ofValue (.object members) = .ok (ofMembers t members) := by
  have hgiven : (Value.text t.name).isGiven = true := by cases t <;> decide
  simp [ofValue, htype, hgiven, FileType.ofValue?_name, hmissing]

theorem missing_eq_nil_iff {t : FileType} {members : List (String × Value)} :
    missing t members = [] ↔ ∀ name ∈ t.required, (Value.member members name).isGiven = true := by
  simp [missing]

end CredentialInfo
end DefaultCredentials
