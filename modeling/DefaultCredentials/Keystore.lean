import DefaultCredentials.Crypto.Key
import DefaultCredentials.Host
import DefaultCredentials.Octets.Marked

/-!
# Keystores

A keystore is a chain of certificates and the private key of the first of them, both as marked
blocks.  `ofDocument` takes them out of a document, and `load` tries them: it succeeds when both can
be read and go together.  A caller may have keystores of its own that load in their own way.
-/

namespace DefaultCredentials

/-- Certificates and a private key, or a keystore of a caller's own. -/
inductive Keystore
  | pem (certificates key : List UInt8)
  | custom (name : String) (loading : Except Raised Unit)

namespace Keystore

/-- Takes the certificates and the first private key out of a document. -/
def ofDocument (bytes : List UInt8) : Except Raised Keystore :=
  let certificates := Marked.blocks Marked.isCertificate bytes
  let keys := Marked.blocks Marked.isPrivateKey bytes
  if certificates.isEmpty then .error (.trouble .noCertificate)
  else match keys with
    | [] => .error (.trouble .noPrivateKey)
    | key :: _ => .ok (.pem certificates.flatten key)

/-- A file that is written while a keystore is loaded. -/
structure StagedFile where
  name : String
  contents : List UInt8
  privateToOwner : Bool
  deriving Repr, DecidableEq

/-- The files of a keystore, the certificates first; only its owner may see the key. -/
def stagedFiles (certificates key : List UInt8) : List StagedFile :=
  [⟨"cert.pem", certificates, false⟩, ⟨"key.pem", key, true⟩]

/-- A password, unless it is empty. -/
def given (password : String) : Option String :=
  if password.isEmpty then none else some password

def load (k : Keystore) (password : String) (h : Host) : Except Raised Unit × Host :=
  match k with
  | pem certificates key =>
    if Certificate.goesWith certificates key ((given password).map Utf8.encode) then (.ok (), h)
    else (.error (.trouble .certificateRejected), h)
  | custom name loading => (loading, h.note (.loaded name password))

end Keystore
end DefaultCredentials
