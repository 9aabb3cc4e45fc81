import DefaultCredentials.Text.Quoted

/-!
# Texts with halves of pairs

A document can name one half of a surrogate pair by itself.  What is read then is a row of code
points but not of characters, and UTF-8 has no octets for it.  Two halves that stand next to each
other in the order of a pair are one character, so that no `Ragged` text has such two.
-/

namespace DefaultCredentials.Text

/-- A code point: a character, or one of the halves that make up surrogate pairs. -/
inductive Point
  | char (c : Char)
  | half (n : Fin 0x800)
  deriving Repr, DecidableEq

namespace Point

def code : Point → Nat
  | char c => c.toNat
  | half n => 0xD800 + n

/-- The code point of a unit of sixteen bits. -/
def ofUnit (n : Nat) : Point :=
  if h : 0xD800 ≤ n ∧ n < 0xE000 then half ⟨n - 0xD800, by omega⟩ else char (Char.ofNat n)

def isHalf : Point → Bool
  | char _ => false
  | half _ => true

/-- The character shown for a code point; a half shows as U+FFFD. -/
def shown : Point → Char
  | char c => c
  | half _ => Char.ofNat 0xFFFD

/-- The character of a first half and a second half. -/
def pair? : Point → Point → Option Char
  | half high, half low =>
    if high.val < 0x400 ∧ 0x400 ≤ low.val then
      some (Char.ofNat (0x10000 + high.val * 0x400 + (low.val - 0x400)))
    else none
  | _, _ => none

theorem pair?_char_left (c : Char) (q : Point) : (char c).pair? q = none := by
  cases q <;> rfl

theorem pair?_char_right (p : Point) (c : Char) : p.pair? (char c) = none := by
  cases p <;> rfl

theorem pair?_ofUnit_high (p : Point) {n : Nat} (h : 0xD800 ≤ n ∧ n < 0xDC00) :
    p.pair? (ofUnit n) = none := by
  rw [ofUnit, dif_pos (by omega)]
  cases p with
  | char c => rfl
  | half m => rw [pair?, if_neg (by dsimp only; omega)]

theorem ofUnit_of_not_half {n : Nat} (h : ¬ (0xD800 ≤ n ∧ n < 0xE000)) :
    ofUnit n = char (Char.ofNat n) := by
  rw [ofUnit, dif_neg h]

theorem ofUnit_code_half (n : Fin 0x800) : ofUnit (half n).code = half n := by
  have hrange : 0xD800 ≤ 0xD800 + n.val ∧ 0xD800 + n.val < 0xE000 := by omega
  have hback : 0xD800 + n.val - 0xD800 = n.val := by omega
  rw [code, ofUnit, dif_pos hrange]
  exact congrArg half (Fin.ext hback)

end Point

/-- Joins halves that stand next to each other as a pair. -/
def joinPairs : List Point → List Point
  | [] => []
  | [p] => [p]
  | p :: q :: rest =>
    match p.pair? q with
    | some c => .char c :: joinPairs rest
    | none => p :: joinPairs (q :: rest)

/-- The text of code points, where halves by themselves show as U+FFFD. -/
def ofPoints (points : List Point) : String :=
  String.ofList ((joinPairs points).map Point.shown)

theorem joinPairs_of_pair {p q : Point} {c : Char} (h : p.pair? q = some c) (rest : List Point) :
    joinPairs (p :: q :: rest) = .char c :: joinPairs rest := by
  rw [joinPairs, h]

theorem joinPairs_cons {p : Point} {rest : List Point}
    (h : ∀ q, rest.head? = some q → p.pair? q = none) :
    joinPairs (p :: rest) = p :: joinPairs rest := by
  cases rest with
  | nil => rfl
  | cons q rest => rw [joinPairs, h q rfl]

theorem joinPairs_char_cons (c : Char) (rest : List Point) :
    joinPairs (.char c :: rest) = .char c :: joinPairs rest :=
  joinPairs_cons fun q _ => Point.pair?_char_left c q

theorem of_joinPairs_cons {p : Point} {rest : List Point}
    (h : joinPairs (p :: rest) = p :: rest) :
    (∀ q, rest.head? = some q → p.pair? q = none) ∧ joinPairs rest = rest := by
  cases rest with
  | nil => exact ⟨nofun, rfl⟩
  | cons q rest =>
      cases hpair : p.pair? q with
      | none =>
          refine ⟨fun r hr => by cases hr; exact hpair, ?_⟩
          rw [joinPairs, hpair] at h
          exact (List.cons.inj h).2
      | some c =>
          rw [joinPairs_of_pair hpair] at h
          obtain rfl := (List.cons.inj h).1
          rw [Point.pair?_char_left] at hpair
          cases hpair

theorem head?_joinPairs (points : List Point) :
    (joinPairs points).head? = points.head? ∨ ∃ c, (joinPairs points).head? = some (.char c) := by
  unfold joinPairs
  split
  · exact .inl rfl
  · exact .inl rfl
  · split
    · exact .inr ⟨_, rfl⟩
    · exact .inl rfl

/-- Where pairs were joined, there are none left. -/
theorem joinPairs_joinPairs (points : List Point) :
    joinPairs (joinPairs points) = joinPairs points := by
  fun_induction joinPairs points with
  | case1 => rfl
  | case2 => rfl
  | case3 p q rest c _ ih => rw [joinPairs_char_cons, ih]
  | case4 p q rest hnone ih =>
    rw [joinPairs_cons, ih]
    intro r hr
    rcases head?_joinPairs (q :: rest) with hhead | ⟨c, hhead⟩
    · rw [hhead] at hr
      cases hr
      exact hnone
    · rw [hhead] at hr
      cases hr
      exact Point.pair?_char_right p c

theorem joinPairs_map_char (cs : List Char) : joinPairs (cs.map .char) = cs.map .char := by
  induction cs with
  | nil => rfl
  | cons c cs ih => rw [List.map_cons, joinPairs_char_cons, ih]

theorem ofPoints_of_text {points : List Point} {s : String}
    (h : joinPairs points = s.toList.map .char) : ofPoints points = s := by
  rw [ofPoints, h, List.map_map]
  exact (congrArg String.ofList (List.map_id _)).trans (String.ofList_toList)

/-- A text that is no row of characters: it has halves by themselves. -/
@[ext]
structure Ragged where
  points : List Point
  hasHalf : points.any Point.isHalf = true
  isJoined : joinPairs points = points
  deriving Repr, DecidableEq

namespace Ragged

/-- A text by itself, with U+FFFD for every half. -/
def plain (r : Ragged) : String :=
  String.ofList (r.points.map Point.shown)

/-- How a code point is written between quotes. -/
def quotedPoint (quote : Char) : Point → List Char
  | .char c => quotedChar quote c
  | p => '\\' :: 'u' :: hex 4 p.code

/-- A text between quotes, where halves are written by their numbers. -/
def quoted (r : Ragged) : String :=
  let quote := quoteFor (r.points.map Point.shown)
  String.ofList (quote :: r.points.flatMap (quotedPoint quote) ++ [quote])

/-- Why a text has no octets: a half by itself is named, several in a row by their positions. -/
def message (r : Ragged) : String :=
  let first := (r.points.takeWhile fun p => !p.isHalf).length
  match (r.points.drop first).takeWhile Point.isHalf with
  | [p] =>
    "'utf-8' codec can't encode character '\\u" ++ String.ofList (hex 4 p.code) ++ "' in position "
      ++ toString first ++ ": surrogates not allowed"
  | halves =>
    "'utf-8' codec can't encode characters in position " ++ toString first ++ "-"
      ++ toString (first + halves.length - 1) ++ ": surrogates not allowed"

end Ragged
end DefaultCredentials.Text
