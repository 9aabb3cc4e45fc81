import DefaultCredentials.Credential.Assertion
import DefaultCredentials.CredentialFile
import DefaultCredentials.Host

/-!
# Credentials

A credential is material that a token can be had for, together with what it needs for that: a
transport, a decoder, scopes and settings.  Its slot holds the last token and the last failure.
Binding scopes gives a new credential with an empty slot where tokens are bound to scopes, and
leaves other credentials as they are.
-/

namespace DefaultCredentials

/-- What a token is exchanged for. -/
inductive Material
  | serviceAccount (key : ServiceAccountKey) (tokenUri : Value) (signer : Signer)
  | user (grant : UserGrant) (tokenUri : Value)
  | compute
  | appIdentity
  | custom (kind label : String) (exchanges : List (Except Raised Token))

namespace Material

/-- The kind of material, for logs. -/
def kind : Material → String
  | serviceAccount _ _ _ => "service_account"
  | user _ _ => "authorized_user"
  | compute => "compute_engine"
  | appIdentity => "app_engine"
  | custom kind _ _ => kind

/-- The name of material, for display. -/
def label : Material → String
  | serviceAccount _ _ _ => "ServiceAccountCredential"
  | user _ _ => "UserCredential"
  | compute => "ComputeCredential"
  | appIdentity => "AppIdentityCredential"
  | custom _ label _ => label

/-- Whether tokens are bound to scopes. -/
def isScoped : Material → Bool
  | serviceAccount _ _ _ => true
  | appIdentity => true
  | _ => false

end Material

/-- The last token and the last failure to get one. -/
structure Slot where
  token : Option Token
  lastFailure : Option Raised

namespace Slot

/-- The slot of a credential that was never refreshed. -/
def empty : Slot :=
  ⟨none, none⟩

/-- The stored token, if it is valid. -/
def current? (s : Slot) (now : Float) : Option Token :=
  s.token.filter (·.isValid now)

def isValid (s : Slot) (now : Float) : Bool :=
  (s.current? now).isSome

def isExpired (s : Slot) (now : Float) : Bool :=
  s.token.any fun t => !t.isValid now

end Slot

/-- A credential. -/
structure Credential where
  material : Material
  channel : Channel
  decoder : Decoder
  scopes : Scopes
  settings : Settings
  slot : Slot

namespace Credential

def kind (c : Credential) : String :=
  c.material.kind

/-- A credential that was never refreshed. -/
def fresh (material : Material) (channel : Channel) (decoder : Decoder) (scopes : Scopes)
    (settings : Settings) : Credential :=
  ⟨material, channel, decoder, scopes, settings, .empty⟩

/-- A credential for the key of a service account.  The token address is the first given one of
the explicit address, the one in the key and the one in the settings.  Without a signer the key
itself must be readable. -/
def ofServiceAccount (key : ServiceAccountKey) (channel : Channel) (decoder : Decoder)
    (scopes : Scopes) (tokenUri : Value) (signer : Option Signer) (settings : Settings) :
    Except Raised Credential :=
  let uri := tokenUri.orElse (key.tokenUri.orElse (.text settings.tokenUri))
  match signer with
  | some s => .ok (fresh (.serviceAccount key uri s) channel decoder scopes settings)
  | none =>
    (Signer.ofKey key.privateKey key.privateKeyId).map fun s =>
      fresh (.serviceAccount key uri s) channel decoder scopes settings

/-- A credential for the grant of a user. -/
def ofUser (grant : UserGrant) (channel : Channel) (decoder : Decoder) (tokenUri : Value)
    (settings : Settings) : Credential :=
  fresh (.user grant (tokenUri.orElse (.text settings.tokenUri))) channel decoder [] settings

/-- The credential of the machine that the process runs on. -/
def ofCompute (channel : Channel) (decoder : Decoder) (settings : Settings) : Credential :=
  fresh .compute channel decoder [] settings

def ofIdentity (channel : Channel) (decoder : Decoder) (scopes : Scopes) (settings : Settings) :
    Credential :=
  fresh .appIdentity channel decoder scopes settings

/-- A credential bound to scopes, where that makes another one. -/
def withScopes? (c : Credential) (scopes : List String) : Option Credential :=
  if c.material.isScoped then some { c with scopes := .ofList scopes, slot := .empty } else none

/-- Whether scopes must be bound before the credential can be refreshed. -/
def needsScopes (c : Credential) : Bool :=
  match c.material with
  | .serviceAccount _ _ _ => c.scopes.isEmpty
  | _ => false

/-- Where the token of the machine is had. -/
def computeTokenUrl (s : Settings) : String :=
  s.metadataRoot ++ "/computeMetadata/v1/instance/service-accounts/default/token"

/-- How a credential is shown; no secret is part of it. -/
def display (c : Credential) : String :=
  match c.material with
  | .serviceAccount key _ _ =>
    "<ServiceAccountCredential email=" ++ key.clientEmail.shown ++ " scopes="
      ++ Value.shownTexts c.scopes ++ ">"
  | .user grant _ => "<UserCredential client_id=" ++ grant.clientId.shown ++ ">"
  | m => "<" ++ m.label ++ " scopes=" ++ Value.shownTexts c.scopes ++ ">"

theorem slot_withScopes? {c v : Credential} {scopes : List String}
    (h : c.withScopes? scopes = some v) : v.slot = .empty := by
  unfold withScopes? at h
  split at h
  · cases h; rfl
  · cases h

/-- A variant bound to scopes shares all but scopes and slot. -/
theorem shared_withScopes? {c v : Credential} {scopes : List String}
    (h : c.withScopes? scopes = some v) :
    v.material = c.material ∧ v.channel = c.channel ∧ v.decoder = c.decoder
      ∧ v.settings = c.settings ∧ v.scopes = .ofList scopes := by
  unfold withScopes? at h
  split at h
  · cases h; exact ⟨rfl, rfl, rfl, rfl, rfl⟩
  · cases h

end Credential
end DefaultCredentials
