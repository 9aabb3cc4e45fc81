import DefaultCredentials.Crypto.Aes
import DefaultCredentials.Crypto.Armor
import DefaultCredentials.Crypto.Sha256
import DefaultCredentials.Octets.Der

/-!
# Private keys, public keys and certificates

A private key is an RSA key or a key on an elliptic curve; it is read from its own form, from the
form that names the algorithm, or from the enciphered form when the password is known.  What is
compared is the public part, which a certificate holds too.
-/

namespace DefaultCredentials

open Der (Element)

inductive PublicKey
  | rsa (modulus exponent : Nat)
  | curve (name point : List UInt8)
  deriving Repr, DecidableEq

/-- A private key with its public part. -/
inductive PrivateKey
  | rsa (modulus exponent secret : Nat)
  | curve (name point : List UInt8)
  deriving Repr, DecidableEq

namespace PrivateKey

def publicKey : PrivateKey → PublicKey
  | rsa n e _ => .rsa n e
  | curve name point => .curve name point

def rsaName : List UInt8 :=
  [0x2A, 0x86, 0x48, 0x86, 0xF7, 0x0D, 0x01, 0x01, 0x01]

def curveName : List UInt8 :=
  [0x2A, 0x86, 0x48, 0xCE, 0x3D, 0x02, 0x01]

/-- Reads the form of RSA keys. -/
def ofRsa? (bytes : List UInt8) : Option PrivateKey := do
  match ← Der.sequence? bytes with
  | [_, n, e, d, p, q, _, _, _] =>
    let n ← n.nat?
    let e ← e.nat?
    let d ← d.nat?
    if (← p.nat?) * (← q.nat?) = n then some (rsa n e d) else none
  | _ => none

/-- The point in the element that holds the public part of a key on a curve. -/
def pointOf? (e : Element) : Option (List UInt8) := do
  if e.tag != 0xA1 then none
  else
    let inner ← Der.single? e.content
    if inner.tag = 0x03 then some (inner.content.drop 1) else none

/-- Reads the form of keys on curves; the curve may be known from outside. -/
def ofCurve? (outer : Option (List UInt8)) (bytes : List UInt8) : Option PrivateKey := do
  let parts ← Der.sequence? bytes
  let own := (parts.find? (·.tag == 0xA0)).bind fun e => (Der.single? e.content).map (·.content)
  let name ← own.orElse fun _ => outer
  let point ← parts.findSome? pointOf?
  return curve name point

/-- Reads the form that names the algorithm. -/
def ofNamed? (bytes : List UInt8) : Option PrivateKey := do
  match ← Der.sequence? bytes with
  | _ :: algorithm :: body :: _ =>
    if body.tag != 0x04 then none
    else
      match ← algorithm.parts? with
      | name :: parameters =>
        if name.content == rsaName then ofRsa? body.content
        else if name.content == curveName then
          ofCurve? (parameters.head?.map (·.content)) body.content
        else none
      | [] => none
  | _ => none

def stretchName : List UInt8 :=
  [0x2A, 0x86, 0x48, 0x86, 0xF7, 0x0D, 0x01, 0x05, 0x0C]

def digestName : List UInt8 :=
  [0x2A, 0x86, 0x48, 0x86, 0xF7, 0x0D, 0x02, 0x09]

/-- The identifier of chained blocks under a key of 256 bits. -/
def cipherName : List UInt8 :=
  [0x60, 0x86, 0x48, 0x01, 0x65, 0x03, 0x04, 0x01, 0x2A]

/-- Deciphers the enciphered form with a password. -/
def decipher? (password bytes : List UInt8) : Option (List UInt8) := do
  let [algorithm, body] ← Der.sequence? bytes | none
  let [_, parameters] ← algorithm.parts? | none
  let [derivation, cipher] ← parameters.parts? | none
  let [name, stretching] ← derivation.parts? | none
  let salt :: count :: more ← stretching.parts? | none
  let [digest] ← (more.findSome? fun e => e.parts?.map (·.take 1)) | none
  let [cipher, start] ← cipher.parts? | none
  if name.content == stretchName && digest.content == digestName
      && cipher.content == cipherName then
    Aes.decrypt? (Hmac.stretch password salt.content (← count.nat?)) start.content body.content
  else none

/-- Reads an armored private key; a password opens the enciphered form. -/
def ofArmor? (password : Option (List UInt8)) (a : Armor) : Option PrivateKey := do
  let content ← a.content?
  if a.label = "PRIVATE KEY" then ofNamed? content
  else if a.label = "RSA PRIVATE KEY" then ofRsa? content
  else if a.label = "EC PRIVATE KEY" then ofCurve? none content
  else if a.label = "ENCRYPTED PRIVATE KEY" then
    (decipher? (← password) content).bind ofNamed?
  else none

def labels : List String :=
  ["PRIVATE KEY", "RSA PRIVATE KEY", "EC PRIVATE KEY", "ENCRYPTED PRIVATE KEY"]

/-- The first private key of a text, which must be readable without a password.  Blanks at the
start of lines do not count. -/
def ofText? (s : String) : Option PrivateKey :=
  let cs := s.toList.dropWhile (·.toNat ≤ 32)
  ((Armor.ofText cs).find? fun a => labels.contains a.label).bind (ofArmor? none)

/-- The first private key of octets. -/
def ofOctets? (password : Option (List UInt8)) (bytes : List UInt8) : Option PrivateKey :=
  ((Armor.ofOctets bytes).find? fun a => labels.contains a.label).bind (ofArmor? password)

end PrivateKey

namespace Certificate

/-- The public key in the element that holds it. -/
def publicKeyOf? (e : Element) : Option PublicKey := do
  match ← e.parts? with
  | [algorithm, bits] =>
    match ← algorithm.parts? with
    | name :: parameters =>
      if name.content == PrivateKey.rsaName then
        match ← Der.sequence? (bits.content.drop 1) with
        | [n, e] => return .rsa (← n.nat?) (← e.nat?)
        | _ => none
      else if name.content == PrivateKey.curveName then
        return .curve ((parameters.head?.map (·.content)).getD []) (bits.content.drop 1)
      else none
    | [] => none
  | _ => none

/-- The public key of a certificate. -/
def publicKey? (bytes : List UInt8) : Option PublicKey := do
  let whole ← Der.single? bytes
  if !Der.isWellFormed 16 whole then none
  else
    match ← whole.parts? with
    | [body, algorithm, signature] =>
      if algorithm.tag != 0x30 || signature.tag != 0x03 then none
      else
        let fields ← body.parts?
        let fields := if fields.head?.map (·.tag) == some 0xA0 then fields.drop 1 else fields
        match fields with
        | _serial :: _algorithm :: _issuer :: _validity :: _subject :: key :: _ => publicKeyOf? key
        | _ => none
    | _ => none

def labels : List String :=
  ["CERTIFICATE", "X509 CERTIFICATE", "TRUSTED CERTIFICATE"]

/-- The public keys of the certificates of octets; nothing if one cannot be read. -/
def publicKeys? (bytes : List UInt8) : Option (List PublicKey) :=
  ((Armor.ofOctets bytes).filter fun a => labels.contains a.label).mapM
    fun a => a.content?.bind publicKey?

/-- Whether certificates and a private key go together: all can be read, there is a certificate,
and the first one holds the public part of the key. -/
def goesWith (certificates key : List UInt8) (password : Option (List UInt8)) : Bool :=
  match publicKeys? certificates, PrivateKey.ofOctets? password key with
  | some (first :: _), some k => k.publicKey == first
  | _, _ => false

end Certificate
end DefaultCredentials
