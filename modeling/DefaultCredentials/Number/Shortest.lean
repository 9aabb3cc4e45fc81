import DefaultCredentials.Number.Binary64

/-!
# The shortest decimal that reads back

A double stands for every real number that rounds to it, an interval around its value whose ends
belong to it when its mantissa is even.  `Shortest.find` looks through the decimal grids from the
coarsest on and takes the first grid point inside the interval: of two on one grid the nearer, and
of two equally near the even one.
-/

namespace DefaultCredentials.Number

/-- A decimal `digits · 10 ^ scale`. -/
structure Decimal where
  digits : Nat
  scale : Int
  deriving Repr, DecidableEq

namespace Shortest

/-- The interval of a double as quarters: numerators `low`, `value` and `high` over `den`. -/
structure Interval where
  low : Nat
  value : Nat
  high : Nat
  den : Nat
  closed : Bool
  deriving Repr, DecidableEq

/-- The reals that round to `mantissa · 2 ^ exponent`.  Below a power of two the doubles lie twice
as close, so the lower end is nearer there. -/
def interval (mantissa : Nat) (exponent : Int) : Interval :=
  let up := if 0 ≤ exponent then Nat.pow 2 exponent.toNat else 1
  let den := if 0 ≤ exponent then 4 else 4 * Nat.pow 2 (-exponent).toNat
  let below := if mantissa = Nat.pow 2 52 ∧ -1074 < exponent then 1 else 2
  { low := (4 * mantissa - below) * up, value := 4 * mantissa * up,
    high := (4 * mantissa + 2) * up, den := den, closed := mantissa % 2 == 0 }

namespace Interval

/-- Whether `n · unitNum / unitDen` lies in the interval. -/
def holds (i : Interval) (n unitNum unitDen : Nat) : Bool :=
  let p := n * unitNum * i.den
  let low := i.low * unitDen
  let high := i.high * unitDen
  if i.closed then low ≤ p && p ≤ high else low < p && p < high

/-- The grid point for a unit that lies in the interval and nearest to the value, if any. -/
def onGrid (i : Interval) (unitNum unitDen : Nat) : Option Nat :=
  let den := i.den * unitNum
  let num := i.value * unitDen
  let floor := num / den
  let twice := 2 * (num % den)
  let downFirst := twice < den || (twice == den && floor % 2 == 0)
  let lower := if i.holds floor unitNum unitDen then some floor else none
  let upper := if i.holds (floor + 1) unitNum unitDen then some (floor + 1) else none
  if downFirst then lower.orElse fun _ => upper else upper.orElse fun _ => lower

end Interval

/-- Tries the grids `10 ^ scale`, `10 ^ (scale - 1)`, … in turn. -/
def search (i : Interval) : Nat → Int → Option Decimal
  | 0, _ => none
  | steps + 1, scale =>
    let unitNum := if 0 ≤ scale then Nat.pow 10 scale.toNat else 1
    let unitDen := if 0 ≤ scale then 1 else Nat.pow 10 (-scale).toNat
    match i.onGrid unitNum unitDen with
    | some n => some ⟨n, scale⟩
    | none => search i steps (scale - 1)

/-- The power of ten just above all doubles with the given floor of the binary logarithm. -/
def topScale (binary : Int) : Int :=
  (binary + 1) * 30103 / 100000 + 1

/-- Drops the zeros at the end of a decimal. -/
def strip : Nat → Decimal → Decimal
  | 0, d => d
  | steps + 1, d => if d.digits % 10 = 0 then strip steps ⟨d.digits / 10, d.scale + 1⟩ else d

/-- The shortest decimal that reads back as a positive magnitude. -/
def find (mantissa : Nat) (exponent : Int) : Decimal :=
  let top := topScale ((Nat.log2 mantissa : Int) + exponent)
  match search (interval mantissa exponent) 25 top with
  | some d => strip 25 d
  | none => ⟨mantissa, 0⟩

end Shortest
end DefaultCredentials.Number
