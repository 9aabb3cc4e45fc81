/-!
# UTF-8

Text as octets.  `pieces` cuts octets into characters and ill-formed parts, where an ill-formed
part is as long as its octets could still begin a character; `decode` refuses at the first
ill-formed part, and `decodeLossy` puts one replacement character in the place of each.
-/

namespace DefaultCredentials.Utf8

/-- The octets of one character. -/
def encodeChar (c : Char) : List UInt8 :=
  let n := c.toNat
  if n < 0x80 then [n.toUInt8]
  else if n < 0x800 then [(0xC0 + n / 64).toUInt8, (0x80 + n % 64).toUInt8]
  else if n < 0x10000 then
    [(0xE0 + n / 4096).toUInt8, (0x80 + n / 64 % 64).toUInt8, (0x80 + n % 64).toUInt8]
  else
    [(0xF0 + n / 262144).toUInt8, (0x80 + n / 4096 % 64).toUInt8, (0x80 + n / 64 % 64).toUInt8,
      (0x80 + n % 64).toUInt8]

def encode (s : String) : List UInt8 :=
  s.toList.flatMap encodeChar

/-- What is wrong with an ill-formed part. -/
inductive Reason
  | startOctet
  | continuation
  | cutShort
  deriving Repr, DecidableEq

/-- One character with the number of its octets, or one ill-formed part with its first octet. -/
inductive Piece
  | char (c : Char) (width : Nat)
  | bad (reason : Reason) (width : Nat) (octet : UInt8)
  deriving Repr, DecidableEq

namespace Piece

/-- How many octets a piece takes. -/
def width : Piece → Nat
  | char _ w => w
  | bad _ w _ => w

/-- The character shown for a piece; an ill-formed part shows as U+FFFD. -/
def shown : Piece → Char
  | char c _ => c
  | bad _ _ _ => Char.ofNat 0xFFFD

end Piece

/-- Octets that continue a character. -/
def isContinuation (b : UInt8) : Bool :=
  0x80 ≤ b && b ≤ 0xBF

/-- Whether `b` may follow `lead`: overlong forms, surrogates and what lies above U+10FFFF are
refused at the second octet. -/
def isSecond (lead b : UInt8) : Bool :=
  if lead == 0xE0 then 0xA0 ≤ b && b ≤ 0xBF
  else if lead == 0xED then 0x80 ≤ b && b ≤ 0x9F
  else if lead == 0xF0 then 0x90 ≤ b && b ≤ 0xBF
  else if lead == 0xF4 then 0x80 ≤ b && b ≤ 0x8F
  else isContinuation b

/-- The six payload bits of a continuation octet. -/
def payload (b : UInt8) : Nat :=
  b.toNat - 0x80

/-- Cuts octets into characters and ill-formed parts. -/
def pieces : List UInt8 → List Piece
  | [] => []
  | b :: rest =>
    if b < 0x80 then .char (Char.ofNat b.toNat) 1 :: pieces rest
    else if b < 0xC2 || 0xF5 ≤ b then .bad .startOctet 1 b :: pieces rest
    else
      match rest with
      | [] => [.bad .cutShort 1 b]
      | b1 :: rest1 =>
        if !isSecond b b1 then .bad .continuation 1 b :: pieces (b1 :: rest1)
        else if b < 0xE0 then
          .char (Char.ofNat ((b.toNat - 0xC0) * 64 + payload b1)) 2 :: pieces rest1
        else
          match rest1 with
          | [] => [.bad .cutShort 2 b]
          | b2 :: rest2 =>
            if !isContinuation b2 then .bad .continuation 2 b :: pieces (b2 :: rest2)
            else if b < 0xF0 then
              .char (Char.ofNat ((b.toNat - 0xE0) * 4096 + payload b1 * 64 + payload b2)) 3
                :: pieces rest2
            else
              match rest2 with
              | [] => [.bad .cutShort 3 b]
              | b3 :: rest3 =>
                if !isContinuation b3 then .bad .continuation 3 b :: pieces (b3 :: rest3)
                else
                  .char (Char.ofNat ((b.toNat - 0xF0) * 262144 + payload b1 * 4096
                    + payload b2 * 64 + payload b3)) 4 :: pieces rest3

/-- Where octets stop being UTF-8: the place and length of the first ill-formed part. -/
structure Defect where
  first : Nat
  width : Nat
  octet : UInt8
  reason : Reason
  deriving Repr, DecidableEq

/-- The characters of pieces that start at an octet position, up to the first ill-formed part. -/
def collect (position : Nat) : List Piece → Except Defect (List Char)
  | [] => .ok []
  | .char c w :: rest => (collect (position + w) rest).map (c :: ·)
  | .bad reason w octet :: _ => .error ⟨position, w, octet, reason⟩

/-- The text of octets, or the first ill-formed part. -/
def decode (bytes : List UInt8) : Except Defect String :=
  (collect 0 (pieces bytes)).map String.ofList

/-- The text of octets, with U+FFFD for each ill-formed part. -/
def decodeLossy (bytes : List UInt8) : String :=
  String.ofList ((pieces bytes).map Piece.shown)

theorem collect_of_no_bad {ps : List Piece} {position : Nat}
    (h : ∀ r w b, Piece.bad r w b ∉ ps) : collect position ps = .ok (ps.map Piece.shown) := by
  induction ps generalizing position with
  | nil => rfl
  | cons p rest ih =>
    cases p with
    | char c w =>
      have hr : ∀ r w b, Piece.bad r w b ∉ rest := fun r w b hm => h r w b (.tail _ hm)
      simp [collect, ih hr, Piece.shown, Except.map]
    | bad r w b => exact absurd (.head _) (h r w b)

theorem isContinuation_iff {b : UInt8} :
    isContinuation b = true ↔ 0x80 ≤ b.toNat ∧ b.toNat ≤ 0xBF := by
  simp [isContinuation, UInt8.le_iff_toNat_le]

theorem isSecond_iff {lead b : UInt8} :
    isSecond lead b = true ↔ (0x80 ≤ b.toNat ∧ b.toNat ≤ 0xBF) ∧
      (lead.toNat = 0xE0 → 0xA0 ≤ b.toNat) ∧ (lead.toNat = 0xED → b.toNat ≤ 0x9F) ∧
      (lead.toNat = 0xF0 → 0x90 ≤ b.toNat) ∧ (lead.toNat = 0xF4 → b.toNat ≤ 0x8F) := by
  simp only [isSecond, isContinuation, beq_iff_eq, ← UInt8.toNat_inj, UInt8.reduceToNat]
  repeat' split
  all_goals
    simp only [Bool.and_eq_true, decide_eq_true_eq, UInt8.le_iff_toNat_le, UInt8.reduceToNat]
    omega

section pieces

variable {b b₁ b₂ b₃ : UInt8} {rest : List UInt8}

theorem isLead (h : 0xC2 ≤ b.toNat) (h' : b.toNat < 0xF5) :
    ¬ b < 0x80 ∧ (b < 0xC2 || 0xF5 ≤ b) = false := by
  simp only [Bool.or_eq_false_iff, decide_eq_false_iff_not, UInt8.lt_iff_toNat_lt,
    UInt8.le_iff_toNat_le, UInt8.reduceToNat]
  omega

theorem pieces_one (h : b.toNat < 0x80) :
    pieces (b :: rest) = .char (Char.ofNat b.toNat) 1 :: pieces rest := by
  have hlt : b < 0x80 := UInt8.lt_iff_toNat_lt.mpr h
  rw [pieces.eq_def]
  simp only [hlt, if_true]

theorem pieces_two (h : 0xC2 ≤ b.toNat) (h' : b.toNat < 0xE0) (h₁ : isSecond b b₁ = true) :
    pieces (b :: b₁ :: rest) =
      .char (Char.ofNat ((b.toNat - 0xC0) * 64 + payload b₁)) 2 :: pieces rest := by
  obtain ⟨hascii, hlead⟩ := isLead h (by omega)
  have hlt : b < 0xE0 := UInt8.lt_iff_toNat_lt.mpr h'
  rw [pieces.eq_def]
  simp [hascii, hlead, h₁, hlt]

theorem pieces_three (h : 0xE0 ≤ b.toNat) (h' : b.toNat < 0xF0) (h₁ : isSecond b b₁ = true)
    (h₂ : isContinuation b₂ = true) :
    pieces (b :: b₁ :: b₂ :: rest) =
      .char (Char.ofNat ((b.toNat - 0xE0) * 4096 + payload b₁ * 64 + payload b₂)) 3
        :: pieces rest := by
  obtain ⟨hascii, hlead⟩ := @isLead b (by omega) (by omega)
  have hge : ¬ b < 0xE0 := UInt8.not_lt.mpr (UInt8.le_iff_toNat_le.mpr h)
  have hlt : b < 0xF0 := UInt8.lt_iff_toNat_lt.mpr h'
  rw [pieces.eq_def]
  simp [hascii, hlead, h₁, h₂, hge, hlt]

theorem pieces_four (h : 0xF0 ≤ b.toNat) (h' : b.toNat < 0xF5) (h₁ : isSecond b b₁ = true)
    (h₂ : isContinuation b₂ = true) (h₃ : isContinuation b₃ = true) :
    pieces (b :: b₁ :: b₂ :: b₃ :: rest) =
      .char (Char.ofNat ((b.toNat - 0xF0) * 262144 + payload b₁ * 4096 + payload b₂ * 64
        + payload b₃)) 4 :: pieces rest := by
  obtain ⟨hascii, hlead⟩ := @isLead b (by omega) h'
  have hge : ¬ b < 0xF0 := UInt8.not_lt.mpr (UInt8.le_iff_toNat_le.mpr h)
  have hge' : ¬ b < 0xE0 := fun hlt => hge (UInt8.lt_trans hlt (by decide))
  rw [pieces.eq_def]
  simp [hascii, hlead, h₁, h₂, h₃, hge, hge']

end pieces

theorem toNat_char {n : Nat} (h : n.isValidChar) : (Char.ofNat n).toNat = n := by
  have hself : Char.ofNat n = Char.ofNatAux n h := dif_pos h
  rw [hself]
  rfl

theorem toNat_octet {n : Nat} (h : n < 256) : n.toUInt8.toNat = n := by
  simp
  omega

/-- The octets of a character are read as that character, whatever follows. -/
theorem pieces_encodeChar (c : Char) (rest : List UInt8) :
    pieces (encodeChar c ++ rest) = .char c (encodeChar c).length :: pieces rest := by
  have hvalid : c.toNat < 0xD800 ∨ 0xDFFF < c.toNat ∧ c.toNat < 0x110000 := c.valid
  have hchar {n : Nat} (hn : n = c.toNat) : Char.ofNat n = c := by rw [hn, Char.ofNat_toNat]
  unfold encodeChar
  dsimp only
  -- One case for each number of octets.  In each, the octets are within the bounds that the reader
  -- asks for, and the number that it makes of them is that of the character.
  split
  · have h0 := toNat_octet (show c.toNat < 256 by omega)
    rw [List.singleton_append, pieces_one (by omega), hchar h0]
    rfl
  split
  · have h0 := toNat_octet (show 0xC0 + c.toNat / 64 < 256 by omega)
    have h1 := toNat_octet (show 0x80 + c.toNat % 64 < 256 by omega)
    have hsecond := (@isSecond_iff (0xC0 + c.toNat / 64).toUInt8 (0x80 + c.toNat % 64).toUInt8).mpr
      (by omega)
    rw [List.cons_append, List.singleton_append, pieces_two (by omega) (by omega) hsecond,
      hchar (by unfold payload; omega)]
    rfl
  split
  · have h0 := toNat_octet (show 0xE0 + c.toNat / 4096 < 256 by omega)
    have h1 := toNat_octet (show 0x80 + c.toNat / 64 % 64 < 256 by omega)
    have h2 := toNat_octet (show 0x80 + c.toNat % 64 < 256 by omega)
    have hsecond := (@isSecond_iff (0xE0 + c.toNat / 4096).toUInt8
      (0x80 + c.toNat / 64 % 64).toUInt8).mpr (by omega)
    rw [List.cons_append, List.cons_append, List.singleton_append,
      pieces_three (by omega) (by omega) hsecond (isContinuation_iff.mpr (by omega)),
      hchar (by unfold payload; omega)]
    rfl
  · have h0 := toNat_octet (show 0xF0 + c.toNat / 262144 < 256 by omega)
    have h1 := toNat_octet (show 0x80 + c.toNat / 4096 % 64 < 256 by omega)
    have h2 := toNat_octet (show 0x80 + c.toNat / 64 % 64 < 256 by omega)
    have h3 := toNat_octet (show 0x80 + c.toNat % 64 < 256 by omega)
    have hsecond := (@isSecond_iff (0xF0 + c.toNat / 262144).toUInt8
      (0x80 + c.toNat / 4096 % 64).toUInt8).mpr (by omega)
    rw [List.cons_append, List.cons_append, List.cons_append, List.singleton_append,
      pieces_four (by omega) (by omega) hsecond (isContinuation_iff.mpr (by omega))
        (isContinuation_iff.mpr (by omega)),
      hchar (by unfold payload; omega)]
    rfl

theorem pieces_encode (cs : List Char) :
    pieces (cs.flatMap encodeChar) = cs.map fun c => .char c (encodeChar c).length := by
  induction cs with
  | nil => rfl
  | cons c rest ih => rw [List.flatMap_cons, pieces_encodeChar, ih, List.map_cons]

/-- Text is read as it was written. -/
theorem decode_encode (s : String) : decode (encode s) = .ok s := by
  rw [decode, encode, pieces_encode, collect_of_no_bad (by simp)]
  simp [Except.map, Piece.shown, Function.comp_def]

namespace Reason

def wording : Reason → String
  | startOctet => "invalid start byte"
  | continuation => "invalid continuation byte"
  | cutShort => "unexpected end of data"

end Reason

def hexPair (n : Nat) : String :=
  String.ofList [Nat.digitChar (n / 16 % 16), Nat.digitChar (n % 16)]

namespace Defect

/-- The wording of a defect: one octet is named, several are given by their positions. -/
def message (d : Defect) : String :=
  if d.width ≤ 1 then
    "'utf-8' codec can't decode byte 0x" ++ hexPair d.octet.toNat ++ " in position "
      ++ toString d.first ++ ": " ++ d.reason.wording
  else
    "'utf-8' codec can't decode bytes in position " ++ toString d.first ++ "-"
      ++ toString (d.first + d.width - 1) ++ ": " ++ d.reason.wording

end Defect
end DefaultCredentials.Utf8
