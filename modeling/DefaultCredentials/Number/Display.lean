import DefaultCredentials.Number.Shortest

/-!
# How a double is written

The fewest digits that read back, positional from `0.0001` up to below `10 ^ 16` and with an
exponent of at least two digits outside; a whole number keeps `.0`.
-/

namespace DefaultCredentials.Number

/-- The words for the values that have no digits. -/
structure Words where
  infinity : String
  notANumber : String
  deriving Repr, DecidableEq

/-- Digits with the point after the first `point` of them. -/
def positional (digits : List Char) (point : Int) : List Char :=
  let count : Int := digits.length
  if point ≤ 0 then '0' :: '.' :: (List.replicate (-point).toNat '0' ++ digits)
  else if count ≤ point then digits ++ List.replicate (point - count).toNat '0' ++ ['.', '0']
  else digits.take point.toNat ++ '.' :: digits.drop point.toNat

/-- Digits with the point after the first of them, and the power of ten. -/
def scientific (digits : List Char) (point : Int) : List Char :=
  let power := point - 1
  let size := Nat.toDigits 10 power.natAbs
  let mantissa := match digits with
    | [] => []
    | [d] => [d]
    | d :: rest => d :: '.' :: rest
  mantissa ++ 'e' :: (if power < 0 then '-' else '+') ::
    (List.replicate (2 - size.length) '0' ++ size)

/-- The digits of a positive magnitude in the notation for its size. -/
def showMagnitude (mantissa : Nat) (exponent : Int) : List Char :=
  let d := Shortest.find mantissa exponent
  let digits := Nat.toDigits 10 d.digits
  let point := (digits.length : Int) + d.scale
  if -4 < point ∧ point ≤ 16 then positional digits point else scientific digits point

/-- The text of a double. -/
def showFloat (words : Words) (x : Float) : String :=
  match parts x with
  | .notANumber => words.notANumber
  | .infinite negative => (if negative then "-" else "") ++ words.infinity
  | .finite negative mantissa exponent =>
    let body := if mantissa = 0 then ['0', '.', '0'] else showMagnitude mantissa exponent
    String.ofList (if negative then '-' :: body else body)

end DefaultCredentials.Number
