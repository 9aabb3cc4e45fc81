import DefaultCredentials.Crypto.Signature
import DefaultCredentials.Fault
import DefaultCredentials.Json.Printer

/-!
# Signed assertions

An assertion is a header, a payload and a signature, each in base 64 and joined by dots.  The
signature covers the first two parts as they are written.
-/

namespace DefaultCredentials

/-- What signs assertions: a private key, or a signature that is known in advance. -/
inductive Signer
  | key (keyId : Value) (key : PrivateKey)
  | fixed (keyId : Value) (signature : List UInt8)
  deriving Repr

namespace Signer

/-- The name of the key that signs. -/
def keyId : Signer → Value
  | key id _ => id
  | fixed id _ => id

/-- The signature of a message; only RSA keys can sign. -/
def sign (s : Signer) (message : List UInt8) : Except Raised (List UInt8) :=
  match s with
  | key _ (.rsa n _ d) => .ok (Signature.sign n d message)
  | key _ (.curve _ _) => .error (.trouble .keyCannotSign)
  | fixed _ signature => .ok signature

/-- Reads the key that a service account signs with. -/
def ofKey (privateKey keyId : Value) : Except Raised Signer :=
  match privateKey.text?.bind PrivateKey.ofText? with
  | some k => .ok (key keyId k)
  | none => .error (.trouble .privateKeyUnreadable)

end Signer

namespace Assertion

/-- How long an assertion holds, in seconds. -/
def lifetime : Int :=
  3600

def header (keyId : Value) : Value :=
  .object ([("typ", .text "JWT"), ("alg", .text "RS256")] ++ match keyId with
    | .null => []
    | id => [("kid", id)])

/-- What an assertion says. -/
structure Claims where
  issuer : Value
  scope : String
  audience : Value
  issuedAt : Int

def Claims.payload (c : Claims) : Value :=
  .object [("iss", c.issuer), ("scope", .text c.scope), ("aud", c.audience),
    ("iat", .int c.issuedAt), ("exp", .int (c.issuedAt + lifetime))]

/-- A value as a part of an assertion. -/
def part (v : Value) : List Char :=
  Base64.encodeUrl (Utf8.encode (Json.write v))

/-- What is signed. -/
def signedPart (signer : Signer) (claims : Claims) : List Char :=
  part (header signer.keyId) ++ '.' :: part claims.payload

/-- The assertion of claims. -/
def write (signer : Signer) (claims : Claims) : Except Raised String :=
  let signed := signedPart signer claims
  match signer.sign (Utf8.encode (String.ofList signed)) with
  | .error why => .error why
  | .ok signature => .ok (String.ofList (signed ++ '.' :: Base64.encodeUrl signature))

end Assertion
end DefaultCredentials
