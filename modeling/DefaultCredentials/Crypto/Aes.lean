/-!
# Block decryption with keys of 256 bits

A block is sixteen octets, column by column.  Decryption runs the fourteen rounds backwards, and
chained blocks are each added to the enciphered block before them.
-/

namespace DefaultCredentials.Aes

def double (x : UInt8) : UInt8 :=
  (x <<< 1) ^^^ (if x < 0x80 then 0 else 0x1b)

def times : Nat → UInt8 → UInt8 → UInt8
  | 0, _, _ => 0
  | n + 1, x, y => (if y &&& 1 == 1 then x else 0) ^^^ times n (double x) (y >>> 1)

/-- The inverse in the field of octets, with zero for zero. -/
def inverse (x : UInt8) : UInt8 :=
  let square := fun y => times 8 y y
  let x2 := square x
  let x4 := square x2
  let x8 := square x4
  let x16 := square x8
  let x32 := square x16
  let x64 := square x32
  let x128 := square x64
  [x4, x8, x16, x32, x64, x128].foldl (times 8) x2

/-- Turns the bits of an octet to the left. -/
def turn (x n : UInt8) : UInt8 :=
  (x <<< n) ||| (x >>> (8 - n))

/-- The substitution of an octet. -/
def substitute (x : UInt8) : UInt8 :=
  let y := inverse x
  y ^^^ turn y 1 ^^^ turn y 2 ^^^ turn y 3 ^^^ turn y 4 ^^^ 0x63

/-- All substitutions. -/
def box : Array UInt8 :=
  ((List.range 256).map fun n => substitute n.toUInt8).toArray

/-- All substitutions backwards. -/
def boxBack : Array UInt8 :=
  (List.range 256).foldl (fun table n => table.set! (substitute n.toUInt8).toNat n.toUInt8)
    (Array.replicate 256 0)

/-- Adds octets. -/
def mix (xs ys : List UInt8) : List UInt8 :=
  xs.zipWith (· ^^^ ·) ys

/-- The words of the key schedule, four octets each, the last one first. -/
def schedule (box : Array UInt8) : Nat → Nat → UInt8 → List (List UInt8) → List (List UInt8)
  | 0, _, _, ws => ws
  | more + 1, i, constant, ws =>
    let last := ws.headD []
    let sub := fun (x : UInt8) => box.getD x.toNat 0
    let (changed, constant) :=
      if i % 8 = 0 then
        (mix ((last.drop 1 ++ last.take 1).map sub) [constant, 0, 0, 0], double constant)
      else if i % 8 = 4 then (last.map sub, constant)
      else (last, constant)
    schedule box more (i + 1) constant (mix (ws.getD 7 []) changed :: ws)

/-- Cuts a list into pieces of a length. -/
def chunks (size : Nat) : Nat → List UInt8 → List (List UInt8)
  | 0, _ => []
  | n + 1, bytes => if bytes.isEmpty then [] else bytes.take size :: chunks size n (bytes.drop size)

/-- The fifteen round keys of a key, the last one first. -/
def roundKeys (key : List UInt8) : List (List UInt8) :=
  let ws := (schedule box 52 8 1 (chunks 4 8 key).reverse).reverse
  (chunks 16 15 ws.flatten).reverse

def shiftRowsBack (b : List UInt8) : List UInt8 :=
  [0, 13, 10, 7, 4, 1, 14, 11, 8, 5, 2, 15, 12, 9, 6, 3].map fun i => b.getD i 0

def mixColumnBack : List UInt8 → List UInt8
  | [a, b, c, d] =>
    [times 8 a 14 ^^^ times 8 b 11 ^^^ times 8 c 13 ^^^ times 8 d 9,
     times 8 a 9 ^^^ times 8 b 14 ^^^ times 8 c 11 ^^^ times 8 d 13,
     times 8 a 13 ^^^ times 8 b 9 ^^^ times 8 c 14 ^^^ times 8 d 11,
     times 8 a 11 ^^^ times 8 b 13 ^^^ times 8 c 9 ^^^ times 8 d 14]
  | other => other

/-- The rounds after the first key was added, given the keys that are left. -/
def roundsBack (table : Array UInt8) : List (List UInt8) → List UInt8 → List UInt8
  | [], b => b
  | key :: rest, b =>
    let added := mix ((shiftRowsBack b).map fun x => table.getD x.toNat 0) key
    if rest.isEmpty then added
    else roundsBack table rest ((chunks 4 4 added).flatMap mixColumnBack)

/-- Deciphers one block. -/
def decryptBlock (table : Array UInt8) (keys : List (List UInt8)) (b : List UInt8) : List UInt8 :=
  match keys with
  | [] => b
  | key :: rest => roundsBack table rest (mix b key)

/-- Deciphers chained blocks, the enciphered block before the first given. -/
def decryptChain (table : Array UInt8) (keys : List (List UInt8)) :
    List UInt8 → List (List UInt8) → List UInt8
  | _, [] => []
  | before, b :: rest => mix (decryptBlock table keys b) before ++ decryptChain table keys b rest

/-- Removes the padding, whose octets all say how many there are. -/
def unpad? (bytes : List UInt8) : Option (List UInt8) :=
  match bytes.getLast? with
  | none => none
  | some last =>
    let n := last.toNat
    let kept := bytes.take (bytes.length - n)
    if 1 ≤ n && n ≤ 16 && (bytes.drop kept.length).all (· == last) then some kept else none

/-- Deciphers octets in chained blocks and removes their padding. -/
def decrypt? (key start bytes : List UInt8) : Option (List UInt8) :=
  if bytes.isEmpty || bytes.length % 16 != 0 then none
  else
    unpad? (decryptChain boxBack (roundKeys key) start (chunks 16 (bytes.length / 16) bytes))

end DefaultCredentials.Aes
