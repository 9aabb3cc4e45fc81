import DefaultCredentials.Text.Utf8

/-!
# Octets that are a text

The octets of a text are read as that text, and no others are: `Utf8.decode_eq_ok_iff`.  An overlong
form, half of a surrogate pair or a number above the last character is never taken for a character,
so whatever is read from octets has just these octets.
-/

namespace DefaultCredentials.Utf8

/-! ### One character -/

theorem encodeChar_ofNat {n : Nat} (hn : n.isValidChar) : encodeChar (Char.ofNat n) =
    if n < 0x80 then [n.toUInt8]
    else if n < 0x800 then [(0xC0 + n / 64).toUInt8, (0x80 + n % 64).toUInt8]
    else if n < 0x10000 then
      [(0xE0 + n / 4096).toUInt8, (0x80 + n / 64 % 64).toUInt8, (0x80 + n % 64).toUInt8]
    else
      [(0xF0 + n / 262144).toUInt8, (0x80 + n / 4096 % 64).toUInt8, (0x80 + n / 64 % 64).toUInt8,
        (0x80 + n % 64).toUInt8] := by
  simp only [encodeChar, toNat_char hn]

theorem toUInt8_eq {n : Nat} {b : UInt8} (hn : n % 256 = b.toNat) : n.toUInt8 = b :=
  UInt8.toNat_inj.mp (by simpa using hn)

variable {b b₁ b₂ b₃ : UInt8}

theorem encodeChar_one (h : b.toNat < 0x80) : encodeChar (Char.ofNat b.toNat) = [b] := by
  rw [encodeChar_ofNat (.inl (by omega)), if_pos h, toUInt8_eq (b := b) (by omega)]

theorem encodeChar_two (h : 0xC2 ≤ b.toNat) (h' : b.toNat < 0xE0) (h₁ : isSecond b b₁ = true) :
    encodeChar (Char.ofNat ((b.toNat - 0xC0) * 64 + payload b₁)) = [b, b₁] := by
  rw [isSecond_iff] at h₁
  unfold payload
  rw [encodeChar_ofNat (.inl (by omega)), if_neg (by omega), if_pos (by omega),
    toUInt8_eq (b := b) (by omega), toUInt8_eq (b := b₁) (by omega)]

theorem encodeChar_three (h : 0xE0 ≤ b.toNat) (h' : b.toNat < 0xF0) (h₁ : isSecond b b₁ = true)
    (h₂ : isContinuation b₂ = true) :
    encodeChar (Char.ofNat ((b.toNat - 0xE0) * 4096 + payload b₁ * 64 + payload b₂)) =
      [b, b₁, b₂] := by
  rw [isSecond_iff] at h₁
  rw [isContinuation_iff] at h₂
  have hvalid : ((b.toNat - 0xE0) * 4096 + payload b₁ * 64 + payload b₂).isValidChar := by
    unfold payload Nat.isValidChar
    omega
  rw [encodeChar_ofNat hvalid]
  unfold payload
  rw [if_neg (by omega), if_neg (by omega), if_pos (by omega), toUInt8_eq (b := b) (by omega),
    toUInt8_eq (b := b₁) (by omega), toUInt8_eq (b := b₂) (by omega)]

theorem encodeChar_four (h : 0xF0 ≤ b.toNat) (h' : b.toNat < 0xF5) (h₁ : isSecond b b₁ = true)
    (h₂ : isContinuation b₂ = true) (h₃ : isContinuation b₃ = true) :
    encodeChar (Char.ofNat ((b.toNat - 0xF0) * 262144 + payload b₁ * 4096 + payload b₂ * 64
      + payload b₃)) = [b, b₁, b₂, b₃] := by
  rw [isSecond_iff] at h₁
  rw [isContinuation_iff] at h₂ h₃
  have hvalid : ((b.toNat - 0xF0) * 262144 + payload b₁ * 4096 + payload b₂ * 64
      + payload b₃).isValidChar := by
    unfold payload Nat.isValidChar
    omega
  rw [encodeChar_ofNat hvalid]
  unfold payload
  rw [if_neg (by omega), if_neg (by omega), if_neg (by omega), toUInt8_eq (b := b) (by omega),
    toUInt8_eq (b := b₁) (by omega), toUInt8_eq (b := b₂) (by omega),
    toUInt8_eq (b := b₃) (by omega)]

/-! ### Texts -/

theorem lead_bounds (h : ¬ (b < 0xC2 || 0xF5 ≤ b) = true) : 0xC2 ≤ b.toNat ∧ b.toNat < 0xF5 := by
  simp only [Bool.or_eq_true, decide_eq_true_eq, UInt8.lt_iff_toNat_lt, UInt8.le_iff_toNat_le,
    UInt8.reduceToNat] at h
  omega

theorem collect_char {c : Char} {w position : Nat} {ps : List Piece} {cs : List Char}
    (h : collect position (.char c w :: ps) = .ok cs) :
    ∃ ds, collect (position + w) ps = .ok ds ∧ cs = c :: ds := by
  rw [collect] at h
  cases hds : collect (position + w) ps with
  | error defect =>
      rw [hds] at h
      cases h
  | ok ds =>
      rw [hds] at h
      cases h
      exact ⟨ds, rfl, rfl⟩

theorem flatMap_of_collect {bytes : List UInt8} {position : Nat} {cs : List Char}
    (h : collect position (pieces bytes) = .ok cs) : cs.flatMap encodeChar = bytes := by
  fun_induction pieces bytes generalizing position cs with
  | case1 =>
      cases h
      rfl
  | case2 b rest hb ih =>
      obtain ⟨ds, hds, rfl⟩ := collect_char h
      rw [List.flatMap_cons, ih hds, encodeChar_one (UInt8.lt_iff_toNat_lt.mp hb)]
      rfl
  | case6 b hascii hlead b₁ rest hsecond hb ih =>
      obtain ⟨ds, hds, rfl⟩ := collect_char h
      obtain ⟨hlow, -⟩ := lead_bounds hlead
      rw [UInt8.lt_iff_toNat_lt] at hb
      rw [List.flatMap_cons, ih hds, encodeChar_two hlow hb (by simpa using hsecond)]
      rfl
  | case9 b hascii hlead b₁ hsecond hthree b₂ rest hcontinues hb ih =>
      obtain ⟨ds, hds, rfl⟩ := collect_char h
      rw [UInt8.not_lt, UInt8.le_iff_toNat_le] at hthree
      rw [UInt8.lt_iff_toNat_lt] at hb
      rw [List.flatMap_cons, ih hds, encodeChar_three hthree hb (by simpa using hsecond)
        (by simpa using hcontinues)]
      rfl
  | case12 b hascii hlead b₁ hsecond hthree b₂ hcontinues hfour b₃ rest hlast ih =>
      obtain ⟨ds, hds, rfl⟩ := collect_char h
      obtain ⟨-, hhigh⟩ := lead_bounds hlead
      rw [UInt8.not_lt, UInt8.le_iff_toNat_le] at hfour
      rw [List.flatMap_cons, ih hds, encodeChar_four hfour hhigh (by simpa using hsecond)
        (by simpa using hcontinues) (by simpa using hlast)]
      rfl
  | _ => cases h

/-- **Octets of a text.**  A text is read from octets exactly if they are its octets. -/
theorem decode_eq_ok_iff {bytes : List UInt8} {s : String} :
    decode bytes = .ok s ↔ bytes = encode s := by
  constructor
  · intro h
    rw [decode] at h
    cases hcs : collect 0 (pieces bytes) with
    | error defect =>
        rw [hcs] at h
        cases h
    | ok cs =>
        rw [hcs] at h
        cases h
        rw [encode, String.toList_ofList, flatMap_of_collect hcs]
  · rintro rfl
    exact decode_encode s

end DefaultCredentials.Utf8
