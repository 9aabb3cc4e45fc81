/-!
# Double-precision numbers and exact arithmetic

A finite double is `± mantissa · 2 ^ exponent`, and `parts` reads it so from its bits.  In the
other direction `ofRatio` gives the double nearest to a quotient of natural numbers, with ties to
the even mantissa, and `truncate` drops the fraction of a double.  All arithmetic here is exact.
-/

namespace DefaultCredentials.Number

/-- What the bits of a double stand for. -/
inductive Parts
  | finite (negative : Bool) (mantissa : Nat) (exponent : Int)
  | infinite (negative : Bool)
  | notANumber
  deriving Repr, DecidableEq

def Parts.ofBits (bits : Nat) : Parts :=
  let negative := bits / Nat.pow 2 63 % 2 == 1
  let biased := bits / Nat.pow 2 52 % 2048
  let fraction := bits % Nat.pow 2 52
  if biased == 2047 then
    if fraction == 0 then .infinite negative else .notANumber
  else if biased == 0 then .finite negative fraction (-1074)
  else .finite negative (Nat.pow 2 52 + fraction) (Int.ofNat biased - 1075)

def parts (x : Float) : Parts :=
  Parts.ofBits x.toBits.toNat

/-- Rounds a quotient to the nearest natural number, a tie to the even one. -/
def roundQuotient (num den : Nat) : Nat :=
  let floor := num / den
  let twice := 2 * (num % den)
  if twice < den then floor
  else if den < twice then floor + 1
  else floor + floor % 2

/-- The greatest `e` with `2 ^ e ≤ num / den`, for positive arguments. -/
def floorLog (num den : Nat) : Int :=
  let e : Int := (Nat.log2 num : Int) - Nat.log2 den
  let fits := if 0 ≤ e then den * Nat.pow 2 e.toNat ≤ num else den ≤ num * Nat.pow 2 (-e).toNat
  if fits then e else e - 1

/-- The bits of infinity, above those of all finite doubles. -/
def infinityBits : Nat :=
  2047 * Nat.pow 2 52

/-- The bits of the double nearest to `num / den`; infinity from half a step above the greatest. -/
def ratioBits (num den : Nat) : Nat :=
  if num = 0 then 0
  else
    let q := max (floorLog num den - 52) (-1074)
    let m := if 0 ≤ q then roundQuotient num (den * Nat.pow 2 q.toNat)
      else roundQuotient (num * Nat.pow 2 (-q).toNat) den
    min ((q + 1074).toNat * Nat.pow 2 52 + m) infinityBits

/-- The double with the given sign and bits. -/
def ofSignedBits (negative : Bool) (bits : Nat) : Float :=
  Float.ofBits (UInt64.ofNat (if negative then Nat.pow 2 63 + bits else bits))

/-- The double nearest to a signed quotient. -/
def ofRatio (negative : Bool) (num den : Nat) : Float :=
  ofSignedBits negative (ratioBits num den)

/-- The double nearest to a whole number, unless that is infinite. -/
def ofInt? (i : Int) : Option Float :=
  let bits := ratioBits i.natAbs 1
  if bits < infinityBits then some (ofSignedBits (i < 0) bits) else none

def infinity (negative : Bool) : Float :=
  ofSignedBits negative infinityBits

/-- The double that is no number. -/
def nan : Float :=
  Float.ofBits 0x7FF8000000000000

/-- The double nearest to `digits · 10 ^ scale`.  `count` is the number of digits; it lets scales
that leave the range of doubles be settled without computing the power. -/
def ofDecimal (negative : Bool) (digits count : Nat) (scale : Int) : Float :=
  if digits = 0 then ofSignedBits negative 0
  else if 400 < (count : Int) + scale then infinity negative
  else if (count : Int) + scale < -400 then ofSignedBits negative 0
  else if 0 ≤ scale then ofRatio negative (digits * Nat.pow 10 scale.toNat) 1
  else ofRatio negative digits (Nat.pow 10 (-scale).toNat)

def wholePart (mantissa : Nat) (exponent : Int) : Nat :=
  if 0 ≤ exponent then mantissa * Nat.pow 2 exponent.toNat
  else mantissa / Nat.pow 2 (-exponent).toNat

/-- Whether a finite magnitude has no fraction. -/
def isWhole (mantissa : Nat) (exponent : Int) : Bool :=
  0 ≤ exponent || mantissa % Nat.pow 2 (-exponent).toNat == 0

/-- Why a double has no whole part. -/
inductive NoWhole
  | infinite
  | notANumber
  deriving Repr, DecidableEq

/-- Drops the fraction of a double. -/
def truncate (x : Float) : Except NoWhole Int :=
  match parts x with
  | .finite negative m e =>
    let n : Int := wholePart m e
    .ok (if negative then -n else n)
  | .infinite _ => .error .infinite
  | .notANumber => .error .notANumber

end DefaultCredentials.Number
