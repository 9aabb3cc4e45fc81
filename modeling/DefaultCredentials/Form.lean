import DefaultCredentials.Text.Utf8
import DefaultCredentials.Value.Display

/-!
# Forms

A form is a row of named values in one line of ASCII.  Letters, digits and `_.-~` stand for
themselves, a space is written `+`, and every other octet by two hexadecimal digits.  Texts with
halves of surrogate pairs have no octets, so that there is no form of them (`ragged?`).
-/

namespace DefaultCredentials.Form

/-- Octets that stand for themselves. -/
def isPlain (b : UInt8) : Bool :=
  (65 ≤ b && b ≤ 90) || (97 ≤ b && b ≤ 122) || (48 ≤ b && b ≤ 57)
    || b == 95 || b == 46 || b == 45 || b == 126

/-- A hexadecimal digit in capitals. -/
def digit (n : Nat) : Char :=
  if n < 10 then Char.ofNat (48 + n) else Char.ofNat (55 + n)

/-- How an octet is written. -/
def writeOctet (b : UInt8) : List Char :=
  if isPlain b then [Char.ofNat b.toNat]
  else if b == 32 then ['+']
  else ['%', digit (b.toNat / 16), digit (b.toNat % 16)]

/-- How a text is written. -/
def writeText (s : String) : List Char :=
  (Utf8.encode s).flatMap writeOctet

/-- How a named value is written. -/
def writeField (field : String × Value) : List Char :=
  writeText field.1 ++ '=' :: writeText field.2.plain

/-- How a row of named values is written. -/
def write : List (String × Value) → List Char
  | [] => []
  | [field] => writeField field
  | field :: rest => writeField field ++ '&' :: write rest

def encode (fields : List (String × Value)) : List UInt8 :=
  (write fields).map fun c => c.toNat.toUInt8

/-- The first value of a row that has no octets. -/
def ragged? (fields : List (String × Value)) : Option Text.Ragged :=
  fields.findSome? fun field => field.2.ragged?

theorem of_isPlain {b : UInt8} (h : isPlain b = true) :
    45 ≤ b.toNat ∧ b.toNat < 127 ∧ b.toNat ≠ 61 := by
  simp only [isPlain, Bool.or_eq_true, Bool.and_eq_true, decide_eq_true_eq, beq_iff_eq,
    UInt8.le_iff_toNat_le, ← UInt8.toNat_inj, UInt8.reduceToNat] at h
  omega

theorem toNat_of_isPlain {b : UInt8} (h : isPlain b = true) :
    (Char.ofNat b.toNat).toNat = b.toNat := by
  have hb := of_isPlain h
  exact Utf8.toNat_char (.inl (by omega))

theorem of_digit : ∀ n < 16,
    (digit n).toNat < 128 ∧ digit n ≠ '&' ∧ digit n ≠ '=' := by
  decide

theorem of_mem_writeOctet {b : UInt8} {c : Char} (hc : c ∈ writeOctet b) :
    c.toNat < 128 ∧ c ≠ '&' ∧ c ≠ '=' := by
  unfold writeOctet at hc
  split at hc
  · rename_i hplain
    obtain rfl := List.mem_singleton.mp hc
    have hbounds := of_isPlain hplain
    have hself := toNat_of_isPlain hplain
    refine ⟨by omega, fun heq => ?_, fun heq => ?_⟩ <;>
      · rw [heq] at hself
        simp only [Char.reduceToNat] at hself
        omega
  split at hc
  · obtain rfl := List.mem_singleton.mp hc
    decide
  · have hb := b.toNat_lt
    simp only [List.mem_cons, List.not_mem_nil, or_false] at hc
    rcases hc with rfl | rfl | rfl
    · decide
    · exact of_digit _ (by omega)
    · exact of_digit _ (by omega)

end DefaultCredentials.Form
