/-!
# Base 64

Three octets are four characters of an alphabet of sixty-four.  `encodeUrl` uses the alphabet that
is safe in addresses and no padding; `decode?` reads the common alphabet with padding.
-/

namespace DefaultCredentials.Base64

/-- The character of a number below 64 in the alphabet that is safe in addresses. -/
def urlDigit (n : Nat) : Char :=
  if n < 26 then Char.ofNat (65 + n)
  else if n < 52 then Char.ofNat (97 + (n - 26))
  else if n < 62 then Char.ofNat (48 + (n - 52))
  else if n = 62 then '-'
  else '_'

/-- Writes octets without padding. -/
def encodeUrl : List UInt8 → List Char
  | [] => []
  | [a] =>
    let n := a.toNat * 16
    [urlDigit (n / 64), urlDigit (n % 64)]
  | [a, b] =>
    let n := (a.toNat * 256 + b.toNat) * 4
    [urlDigit (n / 4096), urlDigit (n / 64 % 64), urlDigit (n % 64)]
  | a :: b :: c :: rest =>
    let n := (a.toNat * 256 + b.toNat) * 256 + c.toNat
    urlDigit (n / 262144) :: urlDigit (n / 4096 % 64) :: urlDigit (n / 64 % 64)
      :: urlDigit (n % 64) :: encodeUrl rest

/-- The number of a character in the common alphabet. -/
def value? (c : Char) : Option Nat :=
  let n := c.toNat
  if 65 ≤ n && n ≤ 90 then some (n - 65)
  else if 97 ≤ n && n ≤ 122 then some (n - 97 + 26)
  else if 48 ≤ n && n ≤ 57 then some (n - 48 + 52)
  else if c == '+' then some 62
  else if c == '/' then some 63
  else none

/-- Reads characters, padding at the end. -/
def decode? : List Char → Option (List UInt8)
  | [] => some []
  | [a, b, '=', '='] => do
    let n := (← value? a) * 64 + (← value? b)
    return [(n / 16).toUInt8]
  | [a, b, c, '='] => do
    let n := ((← value? a) * 64 + (← value? b)) * 64 + (← value? c)
    return [(n / 1024).toUInt8, (n / 4).toUInt8]
  | a :: b :: c :: d :: rest => do
    let n := (((← value? a) * 64 + (← value? b)) * 64 + (← value? c)) * 64 + (← value? d)
    return (n / 65536).toUInt8 :: (n / 256).toUInt8 :: n.toUInt8 :: (← decode? rest)
  | _ => none

/-- The number of characters is that of the groups of six bits. -/
theorem length_encodeUrl (bytes : List UInt8) :
    (encodeUrl bytes).length = (bytes.length * 8 + 5) / 6 := by
  fun_induction encodeUrl bytes with
  | case1 => rfl
  | case2 => simp
  | case3 => simp
  | case4 a b c rest n ih => simp only [List.length_cons, ih]; omega

end DefaultCredentials.Base64
