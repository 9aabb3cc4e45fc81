import DefaultCredentials.Form
import DefaultCredentials.Json.Reader
import Mathlib.Data.List.TakeWhile

/-!
# Forms read back

Whoever gets a form cuts it at each `&` and every piece at its first `=`, reads `+` as a space and
the octets that stand by number, and takes the result as UTF-8.  `Form.read` does so.  Whatever
texts a form is made of, it is ASCII (`Form.isAscii_encode`), and exactly these texts are read from
it (`Form.read_encode`): nothing in a text ends it early or begins another.
-/

namespace DefaultCredentials.Form

/-! ### Reading -/

/-- The number that a hexadecimal digit stands for. -/
def digitValue? (b : UInt8) : Option Nat :=
  Json.hexValue? (Char.ofNat b.toNat)

/-- Octets with a space for each plus sign. -/
def spaced (bytes : List UInt8) : List UInt8 :=
  bytes.map fun b => if b = 43 then 32 else b

/-- Octets with one for each percent sign and the two digits after it.  A percent sign without two
digits stands for itself. -/
def unescape : List UInt8 → List UInt8
  | b :: high :: low :: rest =>
    if b = 37 then
      match digitValue? high, digitValue? low with
      | some x, some y => (x * 16 + y).toUInt8 :: unescape rest
      | _, _ => b :: unescape (high :: low :: rest)
    else b :: unescape (high :: low :: rest)
  | bytes => bytes

/-- The text that is written by octets. -/
def readText (bytes : List UInt8) : Except Utf8.Defect String :=
  Utf8.decode (unescape (spaced bytes))

/-- The named value that is written by octets: the name ends at the first equals sign. -/
def readField (bytes : List UInt8) : Except Utf8.Defect (String × String) := do
  let name ← readText (bytes.takeWhile (· ≠ 61))
  let value ← readText ((bytes.dropWhile (· ≠ 61)).drop 1)
  return (name, value)

/-- The named values of a form. -/
def read (bytes : List UInt8) : Except Utf8.Defect (List (String × String)) :=
  (bytes.splitOn 38).mapM readField

/-- Whether all octets are ASCII. -/
def IsAscii (bytes : List UInt8) : Prop :=
  ∀ b ∈ bytes, b < 128

/-! ### One octet -/

def octets (cs : List Char) : List UInt8 :=
  cs.map fun c => c.toNat.toUInt8

@[simp] theorem octets_append (cs ds : List Char) : octets (cs ++ ds) = octets cs ++ octets ds :=
  List.map_append

@[simp] theorem spaced_append (xs ys : List UInt8) : spaced (xs ++ ys) = spaced xs ++ spaced ys :=
  List.map_append

theorem unescape_cons_of_ne {b : UInt8} (hb : b ≠ 37) (rest : List UInt8) :
    unescape (b :: rest) = b :: unescape rest := by
  match rest with
  | [] => rfl
  | [_] => rfl
  | _ :: _ :: _ => rw [unescape, if_neg hb]

theorem unescape_of_digits {high low : UInt8} {x y : Nat} (hx : digitValue? high = some x)
    (hy : digitValue? low = some y) (rest : List UInt8) :
    unescape (37 :: high :: low :: rest) = (x * 16 + y).toUInt8 :: unescape rest := by
  simp [unescape, hx, hy]

theorem digitValue?_digit : ∀ n < 16,
    (digit n).toNat.toUInt8 ≠ 43 ∧ digitValue? (digit n).toNat.toUInt8 = some n := by
  decide

theorem unescape_writeOctet (b : UInt8) (rest : List UInt8) :
    unescape (spaced (octets (writeOctet b)) ++ rest) = b :: unescape rest := by
  unfold writeOctet
  split
  · rename_i hplain
    obtain ⟨hlow, -⟩ := of_isPlain hplain
    have hpercent : b ≠ 37 := by
      rintro rfl
      exact absurd hlow (by decide)
    have hplus : b ≠ 43 := by
      rintro rfl
      exact absurd hlow (by decide)
    have hone : spaced (octets [Char.ofNat b.toNat]) = [b] := by
      simp [octets, spaced, toNat_of_isPlain hplain, hplus]
    rw [hone, List.singleton_append, unescape_cons_of_ne hpercent]
  split
  · rename_i hspace
    rw [beq_iff_eq.mp hspace]
    exact unescape_cons_of_ne (by decide) rest
  · have hhigh := digitValue?_digit (b.toNat / 16) (by have := b.toNat_lt; omega)
    have hlow := digitValue?_digit (b.toNat % 16) (by omega)
    have hthree : spaced (octets ['%', digit (b.toNat / 16), digit (b.toNat % 16)]) =
        [37, (digit (b.toNat / 16)).toNat.toUInt8, (digit (b.toNat % 16)).toNat.toUInt8] := by
      simp [octets, spaced, hhigh.1, hlow.1]
    rw [hthree, List.cons_append, List.cons_append, List.singleton_append,
      unescape_of_digits hhigh.2 hlow.2, show b.toNat / 16 * 16 + b.toNat % 16 = b.toNat by omega,
      Nat.toUInt8_eq, UInt8.ofNat_toNat]

/-! ### Texts and fields -/

theorem unescape_flatMap (bytes rest : List UInt8) :
    unescape (spaced (octets (bytes.flatMap writeOctet)) ++ rest) = bytes ++ unescape rest := by
  induction bytes with
  | nil => rfl
  | cons b bytes ih =>
      rw [List.flatMap_cons, octets_append, spaced_append, List.append_assoc,
        unescape_writeOctet, ih, List.cons_append]

/-- A text is read as it was written. -/
theorem readText_writeText (s : String) : readText (octets (writeText s)) = .ok s := by
  have hbytes : unescape (spaced (octets (writeText s))) = Utf8.encode s := by
    simpa [writeText, unescape] using unescape_flatMap (Utf8.encode s) []
  rw [readText, hbytes, Utf8.decode_encode]

theorem of_mem_octets_writeText {s : String} {b : UInt8} (hb : b ∈ octets (writeText s)) :
    b < 128 ∧ b ≠ 38 ∧ b ≠ 61 := by
  obtain ⟨c, hc, rfl⟩ := List.mem_map.mp hb
  obtain ⟨octet, -, hc⟩ := List.mem_flatMap.mp hc
  obtain ⟨hascii, hand, hequals⟩ := of_mem_writeOctet hc
  have hn : c.toNat.toUInt8.toNat = c.toNat := Utf8.toNat_octet (by omega)
  have hne {d : Char} (hd : c ≠ d) : c.toNat ≠ d.toNat := fun h => hd (Char.toNat_inj.mp h)
  refine ⟨?_, ?_, ?_⟩
  · rw [UInt8.lt_iff_toNat_lt, hn]
    exact hascii
  · rw [Ne, ← UInt8.toNat_inj, hn]
    exact hne hand
  · rw [Ne, ← UInt8.toNat_inj, hn]
    exact hne hequals

theorem octets_writeField (f : String × Value) : octets (writeField f) =
    octets (writeText f.1) ++ 61 :: octets (writeText f.2.plain) := by
  rw [writeField, octets_append]
  rfl

theorem readField_writeField (f : String × Value) :
    readField (octets (writeField f)) = .ok (f.1, f.2.plain) := by
  have hname : ∀ b ∈ octets (writeText f.1), decide (b ≠ 61) = true :=
    fun b hb => decide_eq_true (of_mem_octets_writeText hb).2.2
  rw [octets_writeField, readField, List.takeWhile_append_of_pos hname,
    List.dropWhile_append_of_pos hname]
  have hstop (rest : List UInt8) : (61 :: rest).takeWhile (fun b => decide (b ≠ 61)) = [] := rfl
  have hrest (rest : List UInt8) : ((61 :: rest).dropWhile (fun b => decide (b ≠ 61))).drop 1 =
    rest := rfl
  rw [hstop, hrest, List.append_nil, readText_writeText, readText_writeText]
  rfl

/-! ### Forms -/

theorem write_cons_cons (f g : String × Value) (rest : List (String × Value)) :
    octets (write (f :: g :: rest)) =
      octets (writeField f) ++ 38 :: octets (write (g :: rest)) := by
  rw [write, octets_append]
  · rfl
  · simp

/-- A form is its fields with the octet of `&` between any two neighbours. -/
theorem encode_eq (fields : List (String × Value)) :
    encode fields = [38].intercalate (fields.map fun f => octets (writeField f)) := by
  show octets (write fields) = _
  induction fields with
  | nil => rfl
  | cons f rest ih =>
      cases rest with
      | nil => simp [write]
      | cons g rest =>
          rw [write_cons_cons, ih, List.map_cons, List.map_cons, List.map_cons,
            List.intercalate_cons_cons, List.append_assoc, List.singleton_append]

theorem of_mem_octets_writeField {f : String × Value} {b : UInt8}
    (hb : b ∈ octets (writeField f)) : b < 128 ∧ b ≠ 38 := by
  rw [octets_writeField, List.mem_append, List.mem_cons] at hb
  rcases hb with hb | rfl | hb
  · exact ⟨(of_mem_octets_writeText hb).1, (of_mem_octets_writeText hb).2.1⟩
  · decide
  · exact ⟨(of_mem_octets_writeText hb).1, (of_mem_octets_writeText hb).2.1⟩

/-- Every form is ASCII. -/
theorem isAscii_encode (fields : List (String × Value)) : IsAscii (encode fields) := by
  show IsAscii (octets (write fields))
  induction fields with
  | nil => exact nofun
  | cons f rest ih =>
      intro b hb
      cases rest with
      | nil => exact (of_mem_octets_writeField hb).1
      | cons g rest =>
          rw [write_cons_cons, List.mem_append, List.mem_cons] at hb
          rcases hb with hb | rfl | hb
          · exact (of_mem_octets_writeField hb).1
          · decide
          · exact ih b hb

/-- **Round trip.**  From a form the texts are read that it was made of, in their order, each under
its name. -/
theorem read_encode {fields : List (String × Value)} (hne : fields ≠ []) :
    read (encode fields) = .ok (fields.map fun f => (f.1, f.2.plain)) := by
  have hpieces : (encode fields).splitOn 38 = fields.map fun f => octets (writeField f) := by
    rw [encode_eq, List.splitOn_intercalate]
    · intro piece hp hmem
      obtain ⟨f, -, rfl⟩ := List.mem_map.mp hp
      exact (of_mem_octets_writeField hmem).2 rfl
    · simpa using hne
  rw [read, hpieces]
  clear hpieces hne
  induction fields with
  | nil => rfl
  | cons f rest ih =>
      rw [List.map_cons, List.mapM_cons, readField_writeField, ih]
      rfl

end DefaultCredentials.Form
