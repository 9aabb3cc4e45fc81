import DefaultCredentials.Credential.Assertion
import DefaultCredentials.Proofs.DocumentRoundTrip
import DefaultCredentials.Proofs.ScopeTexts
import DefaultCredentials.Proofs.TextOctets

/-!
# Reading an assertion

Whoever gets an assertion takes it apart at the dots.  The characters of the first two parts are
octets in base 64, the octets are a document, and the documents are the header and the claims.

* `Base64.readUrl?_encodeUrl`: octets are read back from their characters, four of them at a time.
* `Assertion.read?_of_write`: what is read from an assertion is the header and the payload that it
  was made of.
-/

namespace DefaultCredentials

/-! ### Characters -/

namespace Base64

open Utf8 (toUInt8_eq)

/-- The character of the common alphabet for one of the alphabet that is safe in addresses. -/
def toCommon (c : Char) : Char :=
  if c = '-' then '+' else if c = '_' then '/' else c

/-- Reads characters of the alphabet that is safe in addresses, with the padding put back. -/
def readUrl? (cs : List Char) : Option (List UInt8) :=
  decode? (cs.map toCommon ++ List.replicate ((4 - cs.length % 4) % 4) '=')

theorem value?_toCommon_urlDigit : ∀ n < 64, value? (toCommon (urlDigit n)) = some n := by
  decide

theorem urlDigit_ne_dot : ∀ n < 64, urlDigit n ≠ '.' := by
  decide

theorem ne_padding {c : Char} {k : Nat} (hc : value? c = some k) : c ≠ '=' := by
  rintro rfl
  cases hc

theorem decode?_three {a b c : Char} {i j k : Nat} (ha : value? a = some i) (hb : value? b = some j)
    (hc : value? c = some k) : decode? [a, b, c, '='] =
      some [(((i * 64 + j) * 64 + k) / 1024).toUInt8, (((i * 64 + j) * 64 + k) / 4).toUInt8] := by
  rw [decode?, ha, hb, hc]
  · rfl
  · exact ne_padding hc

theorem decode?_group {a b c d : Char} {i j k l n : Nat} (ha : value? a = some i)
    (hb : value? b = some j) (hc : value? c = some k) (hd : value? d = some l)
    (hn : ((i * 64 + j) * 64 + k) * 64 + l = n) (rest : List Char) :
    decode? (a :: b :: c :: d :: rest) = (decode? rest).map fun bytes =>
      (n / 65536).toUInt8 :: (n / 256).toUInt8 :: n.toUInt8 :: bytes := by
  rw [decode?, ha, hb, hc, hd]
  · simp only [Option.bind_eq_bind, Option.bind_some, hn]
    cases decode? rest <;> rfl
  -- The last is a digit and no padding, so that neither of the two short ends is meant.
  · exact fun _ h _ => ne_padding hd h
  · exact fun h _ => ne_padding hd h

/-- **Octets.**  They are read back from the characters that they are written in. -/
theorem readUrl?_encodeUrl (bytes : List UInt8) : readUrl? (encodeUrl bytes) = some bytes := by
  fun_induction encodeUrl bytes with
  | case1 => rfl
  | case2 a n =>
    have ha := a.toNat_lt
    have h1 : ((n / 64 * 64 + n % 64) / 16).toUInt8 = a := toUInt8_eq (by omega)
    simp [readUrl?, decode?, value?_toCommon_urlDigit (n / 64) (by omega),
      value?_toCommon_urlDigit (n % 64) (by omega), h1]
  | case3 a b n =>
    have ha := a.toNat_lt
    have hb := b.toNat_lt
    have h1 : (((n / 4096 * 64 + n / 64 % 64) * 64 + n % 64) / 1024).toUInt8 = a :=
      toUInt8_eq (by omega)
    have h2 : (((n / 4096 * 64 + n / 64 % 64) * 64 + n % 64) / 4).toUInt8 = b :=
      toUInt8_eq (by omega)
    exact (decode?_three (value?_toCommon_urlDigit _ (by omega))
      (value?_toCommon_urlDigit _ (by omega)) (value?_toCommon_urlDigit _ (by omega))).trans
      (by rw [h1, h2])
  | case4 a b c rest n ih =>
    have ha := a.toNat_lt
    have hb := b.toNat_lt
    have hc := c.toNat_lt
    have h1 : (n / 65536).toUInt8 = a := toUInt8_eq (by omega)
    have h2 : (n / 256).toUInt8 = b := toUInt8_eq (by omega)
    have h3 : n.toUInt8 = c := toUInt8_eq (by omega)
    simp only [readUrl?, List.length_cons, Nat.add_assoc, Nat.reduceAdd, Nat.add_mod_right,
      List.map_cons, List.cons_append] at ih ⊢
    rw [decode?_group (value?_toCommon_urlDigit _ (by omega))
      (value?_toCommon_urlDigit _ (by omega)) (value?_toCommon_urlDigit _ (by omega))
      (value?_toCommon_urlDigit _ (by omega)) (n := n) (by omega), ih, h1, h2, h3]
    rfl

theorem dot_not_mem_encodeUrl (bytes : List UInt8) : '.' ∉ encodeUrl bytes := by
  have hne (n : Nat) (hn : n < 64) : '.' ≠ urlDigit n := (urlDigit_ne_dot n hn).symm
  fun_induction encodeUrl bytes with
  | case1 => exact List.not_mem_nil
  | case2 a n =>
    have ha := a.toNat_lt
    simp [hne (n / 64) (by omega), hne (n % 64) (by omega)]
  | case3 a b n =>
    have ha := a.toNat_lt
    have hb := b.toNat_lt
    simp [hne (n / 4096) (by omega), hne (n / 64 % 64) (by omega), hne (n % 64) (by omega)]
  | case4 a b c rest n ih =>
    have ha := a.toNat_lt
    have hb := b.toNat_lt
    have hc := c.toNat_lt
    simp [hne (n / 262144) (by omega), hne (n / 4096 % 64) (by omega),
      hne (n / 64 % 64) (by omega), hne (n % 64) (by omega), ih]

end Base64

/-! ### Parts -/

namespace Assertion

/-- The value that a part says. -/
def readPart? (cs : List Char) : Option Value :=
  (Base64.readUrl? cs).bind fun bytes => (Decoder.json.decodeOctets bytes).toOption

/-- The header and the payload of an assertion. -/
def read? (text : String) : Option (Value × Value) :=
  match Path.pieces '.' text.toList with
  | [header, payload, _] => do
    return (← readPart? header, ← readPart? payload)
  | _ => none

theorem readPart?_part {v : Value} (hv : Json.isRenderable Json.maxDepth v = true) :
    readPart? (part v) = some v := by
  rw [readPart?, part, Base64.readUrl?_encodeUrl, Option.bind_some, Json.decodeOctets_write hv]
  rfl

/-- An assertion comes apart at its dots: none stands inside a part. -/
theorem pieces_of_write {signer : Signer} {claims : Claims} {text : String}
    (hw : write signer claims = .ok text) :
    ∃ signature, Path.pieces '.' text.toList =
      [part (header signer.keyId), part claims.payload, Base64.encodeUrl signature] := by
  have hpart (v : Value) : '.' ∉ part v := Base64.dot_not_mem_encodeUrl _
  unfold write at hw
  dsimp only at hw
  split at hw
  · cases hw
  · rename_i signature hsigned
    obtain rfl := Except.ok.inj hw
    refine ⟨signature, ?_⟩
    rw [String.toList_ofList, signedPart, List.append_assoc, List.cons_append,
      Path.pieces_append (hpart _), Path.pieces_append (hpart _),
      Path.pieces_of_not_mem (Base64.dot_not_mem_encodeUrl _)]

/-- **Assertions.**  What is read from one is the header and the payload that it was made of. -/
theorem read?_of_write {signer : Signer} {claims : Claims} {text : String}
    (hw : write signer claims = .ok text)
    (hheader : Json.isRenderable Json.maxDepth (header signer.keyId) = true)
    (hpayload : Json.isRenderable Json.maxDepth claims.payload = true) :
    read? text = some (header signer.keyId, claims.payload) := by
  obtain ⟨signature, hpieces⟩ := pieces_of_write hw
  simp only [read?, hpieces, readPart?_part hheader, readPart?_part hpayload]
  rfl

end Assertion
end DefaultCredentials
