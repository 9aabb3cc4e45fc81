/-!
# Numbers as octets, the greatest first
-/

namespace DefaultCredentials.BigEndian

/-- The number that octets stand for. -/
def toNat (bytes : List UInt8) : Nat :=
  bytes.foldl (fun n b => n * 256 + b.toNat) 0

/-- The lowest `count` octets of a number. -/
def ofNat : Nat → Nat → List UInt8
  | 0, _ => []
  | count + 1, n => (n / Nat.pow 256 count).toUInt8 :: ofNat count n

end DefaultCredentials.BigEndian
