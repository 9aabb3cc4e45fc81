import DefaultCredentials.Crypto.Key

/-!
# Signatures with RSA keys

The digest of a message, with the name of the digest before it, is padded to the length of the
modulus and raised to the secret power.
-/

namespace DefaultCredentials.Signature

/-- A power modulo a number, by squaring; the first argument bounds the bits of the power. -/
def powerMod (modulus : Nat) : Nat → Nat → Nat → Nat
  | 0, _, _ => 1 % modulus
  | bits + 1, base, power =>
    let rest := powerMod modulus bits (base * base % modulus) (power / 2)
    if power % 2 = 1 then base * rest % modulus else rest

/-- What stands before the digest of 256 bits. -/
def digestHead : List UInt8 :=
  [0x30, 0x31, 0x30, 0x0d, 0x06, 0x09, 0x60, 0x86, 0x48, 0x01, 0x65, 0x03, 0x04, 0x02, 0x01, 0x05,
   0x00, 0x04, 0x20]

/-- How many octets a modulus takes. -/
def size (modulus : Nat) : Nat :=
  (Nat.log2 modulus + 8) / 8

/-- The digest of a message, padded to a number of octets. -/
def padded (count : Nat) (message : List UInt8) : List UInt8 :=
  let tail := digestHead ++ Sha256.digest message
  [0x00, 0x01] ++ List.replicate (count - 3 - tail.length) 0xFF ++ 0x00 :: tail

def sign (modulus secret : Nat) (message : List UInt8) : List UInt8 :=
  let count := size modulus
  let m := BigEndian.toNat (padded count message)
  BigEndian.ofNat count (powerMod modulus (Nat.log2 secret + 1) m secret)

/-- The padded digest fills the modulus, if that is long enough for it. -/
theorem length_padded {count : Nat} {message : List UInt8}
    (h : 3 + (digestHead ++ Sha256.digest message).length ≤ count) :
    (padded count message).length = count := by
  simp only [padded, List.length_append, List.length_cons, List.length_replicate,
    List.length_nil] at *
  omega

end DefaultCredentials.Signature
