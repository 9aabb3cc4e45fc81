import DefaultCredentials.Octets.BigEndian

/-!
# The digest of 256 bits and the keyed digest made of it

Octets are padded to blocks of 64, and each block is worked into a state of eight words.  `hmac`
is the keyed digest: the state after the inner and the outer pad is kept in a `Hmac.Key`.
-/

namespace DefaultCredentials
namespace Sha256

/-- Eight words. -/
structure State where
  a : UInt32
  b : UInt32
  c : UInt32
  d : UInt32
  e : UInt32
  f : UInt32
  g : UInt32
  h : UInt32
  deriving Repr, DecidableEq

def initial : State :=
  ⟨0x6a09e667, 0xbb67ae85, 0x3c6ef372, 0xa54ff53a, 0x510e527f, 0x9b05688c, 0x1f83d9ab, 0x5be0cd19⟩

def constants : List UInt32 :=
  [0x428a2f98, 0x71374491, 0xb5c0fbcf, 0xe9b5dba5, 0x3956c25b, 0x59f111f1, 0x923f82a4, 0xab1c5ed5,
   0xd807aa98, 0x12835b01, 0x243185be, 0x550c7dc3, 0x72be5d74, 0x80deb1fe, 0x9bdc06a7, 0xc19bf174,
   0xe49b69c1, 0xefbe4786, 0x0fc19dc6, 0x240ca1cc, 0x2de92c6f, 0x4a7484aa, 0x5cb0a9dc, 0x76f988da,
   0x983e5152, 0xa831c66d, 0xb00327c8, 0xbf597fc7, 0xc6e00bf3, 0xd5a79147, 0x06ca6351, 0x14292967,
   0x27b70a85, 0x2e1b2138, 0x4d2c6dfc, 0x53380d13, 0x650a7354, 0x766a0abb, 0x81c2c92e, 0x92722c85,
   0xa2bfe8a1, 0xa81a664b, 0xc24b8b70, 0xc76c51a3, 0xd192e819, 0xd6990624, 0xf40e3585, 0x106aa070,
   0x19a4c116, 0x1e376c08, 0x2748774c, 0x34b0bcb5, 0x391c0cb3, 0x4ed8aa4a, 0x5b9cca4f, 0x682e6ff3,
   0x748f82ee, 0x78a5636f, 0x84c87814, 0x8cc70208, 0x90befffa, 0xa4506ceb, 0xbef9a3f7, 0xc67178f2]

/-- Turns the bits of a word to the right. -/
def turn (x n : UInt32) : UInt32 :=
  (x >>> n) ||| (x <<< (32 - n))

/-- The next word of a schedule. -/
def nextWord (w : Array UInt32) : UInt32 :=
  let n := w.size
  let x := w.getD (n - 15) 0
  let y := w.getD (n - 2) 0
  let s0 := turn x 7 ^^^ turn x 18 ^^^ (x >>> 3)
  let s1 := turn y 17 ^^^ turn y 19 ^^^ (y >>> 10)
  w.getD (n - 16) 0 + s0 + w.getD (n - 7) 0 + s1

def lengthen : Nat → Array UInt32 → Array UInt32
  | 0, w => w
  | n + 1, w => lengthen n (w.push (nextWord w))

def round (s : State) (k w : UInt32) : State :=
  let s1 := turn s.e 6 ^^^ turn s.e 11 ^^^ turn s.e 25
  let choice := (s.e &&& s.f) ^^^ ((~~~ s.e) &&& s.g)
  let t1 := s.h + s1 + choice + k + w
  let s0 := turn s.a 2 ^^^ turn s.a 13 ^^^ turn s.a 22
  let majority := (s.a &&& s.b) ^^^ (s.a &&& s.c) ^^^ (s.b &&& s.c)
  ⟨t1 + s0 + majority, s.a, s.b, s.c, s.d + t1, s.e, s.f, s.g⟩

/-- All rounds of a block. -/
def rounds : State → List UInt32 → List UInt32 → State
  | s, k :: ks, w :: ws => rounds (round s k w) ks ws
  | s, _, _ => s

def word (a b c d : UInt8) : UInt32 :=
  (a.toUInt32 <<< 24) ||| (b.toUInt32 <<< 16) ||| (c.toUInt32 <<< 8) ||| d.toUInt32

def words : List UInt8 → List UInt32
  | a :: b :: c :: d :: rest => word a b c d :: words rest
  | _ => []

def block (s : State) (ws : List UInt32) : State :=
  let t := rounds s constants (lengthen 48 ws.toArray).toList
  ⟨s.a + t.a, s.b + t.b, s.c + t.c, s.d + t.d, s.e + t.e, s.f + t.f, s.g + t.g, s.h + t.h⟩

def blocks : Nat → State → List UInt32 → State
  | 0, s, _ => s
  | n + 1, s, ws => blocks n (block s (ws.take 16)) (ws.drop 16)

def State.words (s : State) : List UInt32 :=
  [s.a, s.b, s.c, s.d, s.e, s.f, s.g, s.h]

def octets (ws : List UInt32) : List UInt8 :=
  ws.flatMap fun (w : UInt32) =>
    [(w >>> 24).toUInt8, (w >>> 16).toUInt8, (w >>> 8).toUInt8, w.toUInt8]

/-- What follows octets to fill their last block, when `before` octets were worked in earlier. -/
def padding (before count : Nat) : List UInt8 :=
  let zeros := (64 - (count + 9) % 64) % 64
  0x80 :: List.replicate zeros 0 ++ BigEndian.ofNat 8 ((before + count) * 8)

/-- Works octets into a state that `before` octets made, and closes it. -/
def finish (s : State) (before : Nat) (bytes : List UInt8) : List UInt8 :=
  let ws := words (bytes ++ padding before bytes.length)
  octets (blocks (ws.length / 16) s ws).words

def digest (bytes : List UInt8) : List UInt8 :=
  finish initial 0 bytes

end Sha256

namespace Hmac

/-- The states after the two pads of a key. -/
structure Key where
  inner : Sha256.State
  outer : Sha256.State

def Key.ofOctets (key : List UInt8) : Key :=
  let short := if 64 < key.length then Sha256.digest key else key
  let padded := short ++ List.replicate (64 - short.length) 0
  let pad := fun (x : UInt8) => Sha256.block Sha256.initial (Sha256.words (padded.map (· ^^^ x)))
  ⟨pad 0x36, pad 0x5c⟩

/-- The keyed digest of octets. -/
def digest (key : Key) (bytes : List UInt8) : List UInt8 :=
  Sha256.finish key.outer 64 (Sha256.finish key.inner 64 bytes)

/-- Adds octets bit by bit, carries dropped. -/
def mix (xs ys : List UInt8) : List UInt8 :=
  xs.zipWith (· ^^^ ·) ys

/-- Repeats the keyed digest and adds all results up. -/
def stretchLoop (key : Key) : Nat → List UInt8 → List UInt8 → List UInt8
  | 0, _, sum => sum
  | n + 1, last, sum =>
    let next := digest key last
    stretchLoop key n next (mix sum next)

/-- A key of 32 octets from a password: as many rounds of the keyed digest as asked for. -/
def stretch (password salt : List UInt8) (count : Nat) : List UInt8 :=
  let key := Key.ofOctets password
  let first := digest key (salt ++ [0, 0, 0, 1])
  stretchLoop key (count - 1) first first

end Hmac
end DefaultCredentials
