import DefaultCredentials.Decoder
import DefaultCredentials.Proofs.NumberRoundTrip

/-!
# Documents read back

A value that can be rendered is read back from its document, whatever texts are in it.

* `Escapes`: the ways to write code points, one of which is by the two halves of a pair.
* `readText_flatMap`: texts, an escape at a time; `joinPairs_flatMap_unitsOf` says that what is read
  by halves of pairs is joined again.
* `isPlain_of_mem_writeValue`: a document has only characters of ASCII that show, so no line ends
  inside it and its octets are its characters.
* `isRenderable`: what can be rendered, and `render?` the document of it.
* `readsBack_of_isRenderable`: values, by induction on how deep they may still nest, since the
  readers of lists and objects count that down.
* `read_of_render?`: whole documents, and `decodeOctets_write` their octets.
-/

namespace DefaultCredentials.Json

open Number

/-! ### Escapes by number -/

theorem hexValue?_digitChar : ∀ d < 16, hexValue? d.digitChar = some d := by
  decide

theorem hex_four {n : ℕ} (hn : n < 0x10000) :
    Text.hex 4 n = [(n / 4096).digitChar, (n / 256 % 16).digitChar, (n / 16 % 16).digitChar,
      (n % 16).digitChar] := by
  have hstep (m : ℕ) (hm : 16 ≤ m) :
      Nat.toDigits 16 m = Nat.toDigits 16 (m / 16) ++ [(m % 16).digitChar] :=
    Nat.toDigits_of_base_le (by norm_num) hm
  have hlast (m : ℕ) (hm : m < 16) : Nat.toDigits 16 m = [m.digitChar] :=
    Nat.toDigits_of_lt_base hm
  unfold Text.hex
  dsimp only
  rcases Nat.lt_or_ge n 16 with h1 | h1
  · rw [hlast n h1, Nat.div_eq_of_lt (by omega : n < 4096), Nat.div_eq_of_lt (by omega : n < 256),
      Nat.div_eq_of_lt h1, Nat.mod_eq_of_lt h1]
    rfl
  · rcases Nat.lt_or_ge n 256 with h2 | h2
    · rw [hstep n h1, hlast _ (by omega), Nat.div_eq_of_lt (by omega : n < 4096),
        Nat.div_eq_of_lt h2, Nat.mod_eq_of_lt (by omega : n / 16 < 16)]
      rfl
    · rcases Nat.lt_or_ge n 4096 with h3 | h3
      · rw [hstep n h1, hstep _ (by omega), hlast _ (by omega), Nat.div_eq_of_lt h3,
          Nat.div_div_eq_div_mul, Nat.mod_eq_of_lt (by omega : n / 256 < 16)]
        rfl
      · rw [hstep n h1, hstep _ (by omega), hstep _ (by omega), hlast _ (by omega),
          show n / 16 / 16 = n / 256 by omega, show n / 256 / 16 = n / 4096 by omega]
        rfl

theorem unit?_hex {n : ℕ} (hn : n < 0x10000) :
    unit? (n / 4096).digitChar (n / 256 % 16).digitChar (n / 16 % 16).digitChar
      (n % 16).digitChar = some n := by
  unfold unit?
  rw [hexValue?_digitChar _ (by omega), hexValue?_digitChar _ (by omega),
    hexValue?_digitChar _ (by omega), hexValue?_digitChar _ (by omega)]
  simp only [Option.bind_eq_bind, Option.bind_some, Option.pure_def, Option.some.injEq]
  omega

/-! ### Escapes of code points -/

/-- A character of ASCII that shows, or a space. -/
def IsPlain (c : Char) : Prop :=
  0x20 ≤ c.toNat ∧ c.toNat < 0x7F

instance : DecidablePred IsPlain :=
  fun c => inferInstanceAs (Decidable (0x20 ≤ c.toNat ∧ c.toNat < 0x7F))

theorem isPlain_of_all {cs : List Char} (hc : cs.all (fun c => decide (IsPlain c)) = true) :
    ∀ c ∈ cs, IsPlain c := by
  simpa using hc

/-- What a code point is read as: itself, or the two halves of its pair. -/
def unitsOf : Text.Point → List Text.Point
  | .char c =>
    if c.toNat < 0x10000 then [.char c]
    else [.ofUnit (0xD800 + (c.toNat - 0x10000) / 0x400),
      .ofUnit (0xDC00 + (c.toNat - 0x10000) % 0x400)]
  | p => [p]

/-- How code points can be written inside a text: one by a letter behind a backslash, by itself or
by the number of its unit, and two by their numbers. -/
inductive Escapes : List Text.Point → List Char → Prop
  | short {c e : Char} : e ≠ 'u' → IsPlain e → shortEscape? e = some c →
      Escapes [.char c] ['\\', e]
  | plain {c : Char} : c ≠ '"' → c ≠ '\\' → IsPlain c → Escapes [.char c] [c]
  | unit {n : ℕ} : n < 0x10000 → Escapes [.ofUnit n] (unitEscape n)
  | pair {high low : ℕ} : high < 0x10000 → low < 0x10000 →
      Escapes [.ofUnit high, .ofUnit low] (unitEscape high ++ unitEscape low)

theorem escapes_escapeChar (c : Char) : Escapes (unitsOf (.char c)) (escapeChar c) := by
  have hvalid : c.toNat < 0xD800 ∨ 0xDFFF < c.toNat ∧ c.toNat < 0x110000 := c.valid
  have hself (hc : c.toNat < 0x10000) : unitsOf (.char c) = [.char c] := if_pos hc
  unfold escapeChar
  simp only [beq_iff_eq, Bool.or_eq_true, Bool.and_eq_true, decide_eq_true_eq]
  split
  · rename_i hc
    rcases hc with rfl | rfl <;> exact .short (by decide) (by decide) rfl
  iterate 5
    split
    · rename_i hc
      exact hc ▸ .short (by decide) (by decide) rfl
  split
  · rename_i hquote _ _ _ _ _ hc
    rw [hself (by omega)]
    exact .plain (fun h => hquote (.inl h)) (fun h => hquote (.inr h)) hc
  split
  · rename_i hc
    have hunit := Escapes.unit hc
    rwa [Text.Point.ofUnit_of_not_half (by omega), Char.ofNat_toNat, ← hself hc] at hunit
  · rename_i hc
    have hpair : unitsOf (.char c) = _ := if_neg hc
    rw [hpair]
    exact .pair (by omega) (by omega)

theorem escapes_escapePoint (p : Text.Point) : Escapes (unitsOf p) (escapePoint p) := by
  cases p with
  | char c => exact escapes_escapeChar c
  | half n =>
      have hunit : Escapes [.ofUnit (Text.Point.half n).code] (escapePoint (.half n)) :=
        .unit (by rw [Text.Point.code]; omega)
      rwa [Text.Point.ofUnit_code_half] at hunit

/-- The two halves of a character make up its pair. -/
theorem pair?_of_lt {c : Char} (hc : ¬ c.toNat < 0x10000) :
    (Text.Point.ofUnit (0xD800 + (c.toNat - 0x10000) / 0x400)).pair?
      (.ofUnit (0xDC00 + (c.toNat - 0x10000) % 0x400)) = some c := by
  have hvalid : c.toNat < 0xD800 ∨ 0xDFFF < c.toNat ∧ c.toNat < 0x110000 := c.valid
  have hunits : 0x10000 + (0xD800 + (c.toNat - 0x10000) / 0x400 - 0xD800) * 0x400 +
      (0xDC00 + (c.toNat - 0x10000) % 0x400 - 0xD800 - 0x400) = c.toNat := by omega
  rw [Text.Point.ofUnit, dif_pos (by omega), Text.Point.ofUnit, dif_pos (by omega),
    Text.Point.pair?, if_pos (by dsimp only; omega), hunits, Char.ofNat_toNat]

theorem pair?_head_flatMap {p : Text.Point} {rest : List Text.Point}
    (h : ∀ q, rest.head? = some q → p.pair? q = none) :
    ∀ q, (rest.flatMap unitsOf).head? = some q → p.pair? q = none := by
  intro q hq
  cases rest with
  | nil => cases hq
  | cons r rest =>
      rw [List.flatMap_cons] at hq
      cases r with
      | half n =>
          cases hq
          exact h _ rfl
      | char c =>
          have hvalid : c.toNat < 0xD800 ∨ 0xDFFF < c.toNat ∧ c.toNat < 0x110000 := c.valid
          by_cases hc : c.toNat < 0x10000
          · rw [unitsOf, if_pos hc] at hq
            cases hq
            exact Text.Point.pair?_char_right p c
          · rw [unitsOf, if_neg hc] at hq
            cases hq
            exact Text.Point.pair?_ofUnit_high p (by omega)

/-- The halves of pairs are joined again, and nothing else is. -/
theorem joinPairs_flatMap_unitsOf {points : List Text.Point}
    (h : Text.joinPairs points = points) : Text.joinPairs (points.flatMap unitsOf) = points := by
  induction points with
  | nil => rfl
  | cons p rest ih =>
      obtain ⟨hhead, hrest⟩ := Text.of_joinPairs_cons h
      have hkept (hp : unitsOf p = [p]) :
          Text.joinPairs ((p :: rest).flatMap unitsOf) = p :: rest := by
        rw [List.flatMap_cons, hp, List.singleton_append,
          Text.joinPairs_cons (pair?_head_flatMap hhead), ih hrest]
      cases p with
      | half n => exact hkept rfl
      | char c =>
          by_cases hc : c.toNat < 0x10000
          · exact hkept (if_pos hc)
          · rw [List.flatMap_cons, unitsOf, if_neg hc]
            have hjoined := Text.joinPairs_of_pair (pair?_of_lt hc) (rest.flatMap unitsOf)
            rwa [ih hrest] at hjoined

/-! ### Texts -/

section texts

variable (opened : ℕ) (read : List Text.Point)

theorem readText_quote (rest : List Char) :
    readText opened read ('"' :: rest) = .ok (read.reverse, rest) := by
  rw [readText.eq_def]
  rfl

theorem readText_short {e c : Char} (he : e ≠ 'u') (hc : shortEscape? e = some c)
    (rest : List Char) :
    readText opened read ('\\' :: e :: rest) = readText opened (.char c :: read) rest := by
  rw [readText.eq_def]
  simp [he, hc]

theorem readText_plain {c : Char} (hquote : c ≠ '"') (hback : c ≠ '\\') (hc : 0x20 ≤ c.toNat)
    (rest : List Char) :
    readText opened read (c :: rest) = readText opened (.char c :: read) rest := by
  rw [readText.eq_def]
  simp [hquote, hback, Nat.not_lt.mpr hc]

theorem readText_unitEscape {n : ℕ} (hn : n < 0x10000) (next : Char) (tail : List Char) :
    readText opened read (unitEscape n ++ next :: tail) =
      readText opened (.ofUnit n :: read) (next :: tail) := by
  rw [unitEscape, hex_four hn]
  simp only [List.cons_append, List.nil_append]
  rw [readText]
  simp [unit?_hex hn]

/-- What is written is read by units, whatever character follows. -/
theorem readText_of_escapes {points : List Text.Point} {cs : List Char} (h : Escapes points cs)
    (next : Char) (tail : List Char) :
    readText opened read (cs ++ next :: tail) =
      readText opened (points.reverse ++ read) (next :: tail) := by
  cases h with
  | short he _ hc => exact readText_short opened read he hc (next :: tail)
  | plain hquote hback hc => exact readText_plain opened read hquote hback hc.1 (next :: tail)
  | unit hn => exact readText_unitEscape opened read hn next tail
  | @pair high low hhigh hlow =>
      -- The second escape begins with the character that the first one needs behind it.
      have hfirst := readText_unitEscape opened read hhigh '\\'
        ('u' :: Text.hex 4 low ++ next :: tail)
      rw [List.append_assoc]
      exact hfirst.trans (readText_unitEscape opened (.ofUnit high :: read) hlow next tail)

theorem readText_flatMap (points : List Text.Point) (rest : List Char) :
    readText opened read (points.flatMap escapePoint ++ '"' :: rest) =
      .ok (read.reverse ++ points.flatMap unitsOf, rest) := by
  induction points generalizing read with
  | nil => rw [List.flatMap_nil, List.nil_append, readText_quote, List.flatMap_nil, List.append_nil]
  | cons p points ih =>
      have hhead : ∃ next tail, points.flatMap escapePoint ++ '"' :: rest = next :: tail := by
        cases points.flatMap escapePoint with
        | nil => exact ⟨_, _, rfl⟩
        | cons d ds => exact ⟨_, _, rfl⟩
      obtain ⟨next, tail, hnext⟩ := hhead
      rw [List.flatMap_cons, List.append_assoc, hnext,
        readText_of_escapes opened read (escapes_escapePoint p), ← hnext, ih, List.reverse_append,
        List.reverse_reverse, List.append_assoc, List.flatMap_cons]

theorem flatMap_escapeChar (s : String) :
    s.toList.flatMap escapeChar = (s.toList.map Text.Point.char).flatMap escapePoint := by
  rw [List.flatMap_map]
  rfl

/-- **Texts.**  Behind its opening quote a text is read by the units that it was written by. -/
theorem readText_text (s : String) (rest : List Char) :
    readText opened [] (s.toList.flatMap escapeChar ++ '"' :: rest) =
      .ok ((s.toList.map Text.Point.char).flatMap unitsOf, rest) := by
  rw [flatMap_escapeChar]
  exact readText_flatMap opened [] _ rest

theorem joinPairs_unitsOf_text (s : String) :
    Text.joinPairs ((s.toList.map Text.Point.char).flatMap unitsOf) = s.toList.map .char :=
  joinPairs_flatMap_unitsOf (Text.joinPairs_map_char _)

end texts

/-! ### Characters of a document -/

theorem isPlain_of_isDigit {c : Char} (hc : c.isDigit = true) : IsPlain c := by
  have hbounds := toNat_bounds_of_isDigit hc
  exact ⟨by omega, by omega⟩

theorem isPlain_digitChar : ∀ d < 16, IsPlain d.digitChar := by
  decide

theorem isPlain_of_mem_unitEscape {n : ℕ} (hn : n < 0x10000) : ∀ c ∈ unitEscape n, IsPlain c := by
  rw [unitEscape, hex_four hn]
  simp only [List.forall_mem_cons]
  exact ⟨by decide, by decide, isPlain_digitChar _ (by omega), isPlain_digitChar _ (by omega),
    isPlain_digitChar _ (by omega), isPlain_digitChar _ (by omega), List.forall_mem_nil _⟩

theorem isPlain_of_mem_escapePoint (p : Text.Point) : ∀ d ∈ escapePoint p, IsPlain d := by
  have hp := escapes_escapePoint p
  generalize escapePoint p = cs, unitsOf p = points at hp ⊢
  cases hp with
  | short _ he _ =>
      simp only [List.forall_mem_cons]
      exact ⟨by decide, he, List.forall_mem_nil _⟩
  | plain _ _ hc => exact List.forall_mem_singleton.mpr hc
  | unit hn => exact isPlain_of_mem_unitEscape hn
  | pair hhigh hlow =>
      rw [List.forall_mem_append]
      exact ⟨isPlain_of_mem_unitEscape hhigh, isPlain_of_mem_unitEscape hlow⟩

theorem isPlain_of_mem_quoted (points : List Text.Point) :
    ∀ c ∈ '"' :: points.flatMap escapePoint ++ ['"'], IsPlain c := by
  simp only [List.forall_mem_append, List.forall_mem_cons, List.mem_flatMap]
  refine ⟨⟨by decide, ?_⟩, by decide, List.forall_mem_nil _⟩
  rintro c ⟨p, -, hc⟩
  exact isPlain_of_mem_escapePoint p c hc

theorem isPlain_of_mem_writeText (s : String) : ∀ c ∈ writeText s, IsPlain c := by
  rw [writeText, flatMap_escapeChar]
  exact isPlain_of_mem_quoted _

theorem isPlain_of_mem_signed {negative : Bool} {cs : List Char} (hc : ∀ c ∈ cs, IsPlain c) :
    ∀ c ∈ signed negative cs, IsPlain c := by
  cases negative with
  | false => exact hc
  | true => exact List.forall_mem_cons.mpr ⟨by decide, hc⟩

theorem isPlain_of_mem_powerPart (power : Option ℤ) :
    ∀ c ∈ Numeral.powerPart power, IsPlain c := by
  cases power with
  | none => exact List.forall_mem_nil _
  | some p =>
      simp only [Numeral.powerPart, List.forall_mem_cons, List.forall_mem_append]
      refine ⟨by decide, ?_, ?_, ?_⟩
      · split <;> decide
      · exact fun c hc => isPlain_of_isDigit (isDigits_replicate_zero _ c hc)
      · exact fun c hc => isPlain_of_isDigit (isDigits_toDigits _ c hc)

theorem isPlain_of_mem_chars (m : Numeral) : ∀ c ∈ m.chars, IsPlain c := by
  simp only [Numeral.chars, List.forall_mem_append]
  refine ⟨fun c hc => isPlain_of_isDigit (m.isWhole.digits c hc), ?_, isPlain_of_mem_powerPart _⟩
  cases hf : m.fraction with
  | nil => exact List.forall_mem_nil _
  | cons d ds =>
      refine List.forall_mem_cons.mpr ⟨by decide, fun c hc => isPlain_of_isDigit ?_⟩
      exact m.isFraction c (hf ▸ hc)

theorem isPlain_of_mem_float (x : Float) : ∀ c ∈ writeValue (.float x), IsPlain c := by
  obtain ⟨p, hp, hchars, -⟩ | ⟨negative, m, hchars, -⟩ := writeValue_float x
  · have hwords : ∀ p ∈ words, ∀ c ∈ p.1, IsPlain c := by
      simp only [words, List.forall_mem_cons]
      refine ⟨?_, ?_, ?_, ?_, ?_, ?_, List.forall_mem_nil _⟩ <;> exact isPlain_of_all (by decide)
    exact hchars ▸ hwords p hp
  · exact hchars ▸ isPlain_of_mem_signed (isPlain_of_mem_chars m)

theorem isPlain_of_mem_int (i : ℤ) : ∀ c ∈ writeValue (.int i), IsPlain c :=
  writeValue_int i ▸ isPlain_of_mem_signed fun c hc =>
    isPlain_of_isDigit (isDigits_toDigits _ c hc)

mutual

/-- **Characters of a document.**  A document is written by characters of ASCII that show, so it
stands on one line. -/
theorem isPlain_of_mem_writeValue : ∀ v, ∀ c ∈ writeValue v, IsPlain c
  | .null => by rw [writeValue]; exact isPlain_of_all (by decide)
  | .bool b => by rw [writeValue]; cases b <;> exact isPlain_of_all (by decide)
  | .int i => isPlain_of_mem_int i
  | .float x => isPlain_of_mem_float x
  | .text s => by rw [writeValue]; exact isPlain_of_mem_writeText s
  | .ragged r => by rw [writeValue]; exact isPlain_of_mem_quoted r.points
  | .list items => by
      simp only [writeValue, List.forall_mem_append, List.forall_mem_cons]
      exact ⟨⟨by decide, isPlain_of_mem_writeItems items⟩, by decide, List.forall_mem_nil _⟩
  | .object members => by
      simp only [writeValue, List.forall_mem_append, List.forall_mem_cons]
      exact ⟨⟨by decide, isPlain_of_mem_writeMembers members⟩, by decide, List.forall_mem_nil _⟩

theorem isPlain_of_mem_writeItems : ∀ items, ∀ c ∈ writeItems items, IsPlain c
  | [] => List.forall_mem_nil _
  | [v] => by rw [writeItems]; exact isPlain_of_mem_writeValue v
  | v :: w :: items => by
      simp only [writeItems, List.forall_mem_append, List.forall_mem_cons]
      exact ⟨isPlain_of_mem_writeValue v, by decide, by decide,
        isPlain_of_mem_writeItems (w :: items)⟩

theorem isPlain_of_mem_writeMembers : ∀ members, ∀ c ∈ writeMembers members, IsPlain c
  | [] => List.forall_mem_nil _
  | [(name, v)] => by
      simp only [writeMembers, List.forall_mem_append, List.forall_mem_cons]
      exact ⟨isPlain_of_mem_writeText name, by decide, by decide, isPlain_of_mem_writeValue v⟩
  | (name, v) :: m :: members => by
      simp only [writeMembers, List.forall_mem_append, List.forall_mem_cons]
      exact ⟨⟨isPlain_of_mem_writeText name, by decide, by decide, isPlain_of_mem_writeValue v⟩,
        by decide, by decide, isPlain_of_mem_writeMembers (m :: members)⟩

end

/-! ### What can be rendered -/

/-- Whether a value can be rendered where so many arrays and objects may nest: whole numbers have no
more digits than are taken, and the names in an object differ, as those of a mapping do. -/
def isRenderable : ℕ → Value → Bool
  | _, .int i => (Nat.toDigits 10 i.natAbs).length ≤ maxDigits
  | 0, .list _ => false
  | 0, .object _ => false
  | depth + 1, .list items => items.all (isRenderable depth)
  | depth + 1, .object members =>
    (members.map (·.1)).Nodup && members.all fun m => isRenderable depth m.2
  | _, _ => true

/-- The document of a value, if it can be rendered; rendering has the limits of reading. -/
def render? (v : Value) : Option String :=
  if isRenderable maxDepth v then some (write v) else none

theorem render?_eq_some {v : Value} {text : String} :
    render? v = some text ↔ isRenderable maxDepth v = true ∧ write v = text := by
  simp [render?]

/-! ### Lists and objects -/

/-- The first character of a value, which is neither blank nor an end of a list or an object. -/
theorem exists_head_writeValue (v : Value) :
    ∃ c cs, writeValue v = c :: cs ∧ isBlank c = false ∧ c ≠ ']' := by
  have hsigned (negative : Bool) {whole : List Char} (hw : IsWhole whole) (cs : List Char) :
      ∃ c ds, signed negative (whole ++ cs) = c :: ds ∧ isBlank c = false ∧ c ≠ ']' := by
    have hdigit (d : Char) (hd : d.isDigit = true) : isBlank d = false ∧ d ≠ ']' := by
      have hbounds := toNat_bounds_of_isDigit hd
      have hne (c : Char) (hc : c.toNat < 48 ∨ 57 < c.toNat) : d ≠ c := by
        rintro rfl
        omega
      refine ⟨?_, hne ']' (by decide)⟩
      simp [isBlank, hne ' ' (by decide), hne '\t' (by decide), hne '\n' (by decide),
        hne '\r' (by decide)]
    obtain ⟨d, ds, hwhole⟩ := hw.exists_cons
    cases negative with
    | false =>
        refine ⟨d, ds ++ cs, by rw [hwhole]; rfl, hdigit d (hw.digits d ?_)⟩
        rw [hwhole]
        exact List.mem_cons_self
    | true => exact ⟨_, _, rfl, rfl, by decide⟩
  cases v with
  | null => exact ⟨_, _, rfl, rfl, by decide⟩
  | bool b => cases b <;> exact ⟨_, _, rfl, rfl, by decide⟩
  | int i =>
      rw [writeValue_int, ← List.append_nil (Nat.toDigits 10 i.natAbs)]
      exact hsigned _ (isWhole_toDigits _) []
  | float x =>
      obtain ⟨p, hp, hchars, -⟩ | ⟨negative, m, hchars, -⟩ := writeValue_float x
      · have hwords : ∀ p ∈ words, ∃ c cs, p.1 = c :: cs ∧ isBlank c = false ∧ c ≠ ']' := by
          simp only [words, List.forall_mem_cons]
          refine ⟨?_, ?_, ?_, ?_, ?_, ?_, List.forall_mem_nil _⟩ <;>
            exact ⟨_, _, rfl, rfl, by decide⟩
        exact hchars ▸ hwords p hp
      · exact hchars ▸ hsigned negative m.isWhole _
  | text s => exact ⟨_, _, rfl, rfl, by decide⟩
  | ragged r => exact ⟨_, _, rfl, rfl, by decide⟩
  | list items => exact ⟨_, _, rfl, rfl, by decide⟩
  | object members => exact ⟨_, _, rfl, rfl, by decide⟩

theorem skip_writeValue (v : Value) (rest : List Char) :
    skip (writeValue v ++ rest) = writeValue v ++ rest := by
  obtain ⟨c, cs, hv, hc, -⟩ := exists_head_writeValue v
  rw [hv, List.cons_append, skip, List.dropWhile_cons_of_neg (by simp [hc])]

theorem endsNumber_cons {c : Char} (hc : c.isDigit = false ∧ c ≠ '.' ∧ c ≠ 'e' ∧ c ≠ 'E')
    (rest : List Char) : EndsNumber (c :: rest) := by
  intro d hd
  cases hd
  exact hc

section containers

variable {readOne : List Char → Except Stop (Value × List Char)}

/-- A reader that reads a value as it was written. -/
def ReadsBack (readOne : List Char → Except Stop (Value × List Char)) (v : Value) : Prop :=
  ∀ rest, EndsNumber rest → readOne (writeValue v ++ rest) = .ok (v, rest)

theorem writeItems_cons_cons (v w : Value) (items : List Value) :
    writeItems (v :: w :: items) = writeValue v ++ ',' :: ' ' :: writeItems (w :: items) := by
  rw [writeItems]
  exact List.cons_ne_nil w items

theorem writeMembers_cons_cons (name : String) (v : Value) (m : String × Value)
    (members : List (String × Value)) :
    writeMembers ((name, v) :: m :: members) =
      writeText name ++
        ':' :: ' ' :: (writeValue v ++ ',' :: ' ' :: writeMembers (m :: members)) := by
  rw [writeMembers, List.append_assoc]
  · rfl
  · exact List.cons_ne_nil m members

theorem exists_writeItems_cons (v : Value) (items : List Value) :
    ∃ tail, writeItems (v :: items) = writeValue v ++ tail := by
  cases items with
  | nil => exact ⟨[], by rw [writeItems, List.append_nil]⟩
  | cons w items => exact ⟨_, writeItems_cons_cons v w items⟩

theorem exists_writeMembers_cons (m : String × Value) (members : List (String × Value)) :
    ∃ tail, writeMembers (m :: members) = '"' :: tail := by
  cases members with
  | nil => exact ⟨_, by rw [writeMembers, writeText]; rfl⟩
  | cons w members => exact ⟨_, by rw [writeMembers_cons_cons, writeText]; rfl⟩

theorem readItems_write {items : List Value} (hitems : ∀ v ∈ items, ReadsBack readOne v)
    (hne : items ≠ []) {more : ℕ} (hmore : items.length ≤ more) (read : List Value)
    (rest : List Char) :
    readItems readOne more read (writeItems items ++ ']' :: rest) =
      .ok (read.reverse ++ items, rest) := by
  induction items generalizing more read with
  | nil => exact absurd rfl hne
  | cons v items ih =>
      obtain ⟨hv, hitems⟩ := List.forall_mem_cons.mp hitems
      obtain ⟨more, rfl⟩ : ∃ n, more = n + 1 := ⟨more - 1, by simp at hmore; omega⟩
      cases items with
      | nil =>
          have hvalue := hv (']' :: rest) (endsNumber_cons (by decide) rest)
          have hskip : skip (']' :: rest) = ']' :: rest := rfl
          rw [writeItems, readItems, hvalue]
          simp only [hskip, List.reverse_cons]
      | cons w items =>
          obtain ⟨tail, htail⟩ := exists_writeItems_cons w items
          have hvalue := hv (',' :: ' ' :: (writeItems (w :: items) ++ ']' :: rest))
            (endsNumber_cons (by decide) _)
          have hcomma (cs : List Char) : skip (',' :: ' ' :: cs) = ',' :: ' ' :: cs := rfl
          have hnext : skip (' ' :: (writeItems (w :: items) ++ ']' :: rest)) =
              writeItems (w :: items) ++ ']' :: rest := by
            rw [htail, List.append_assoc]
            exact skip_writeValue w (tail ++ ']' :: rest)
          rw [writeItems_cons_cons, List.append_assoc, List.cons_append, List.cons_append,
            readItems, hvalue]
          simp only [hcomma, hnext]
          rw [ih hitems (List.cons_ne_nil _ _) (by simpa using hmore), List.reverse_cons,
            List.append_assoc]
          rfl

theorem length_le_writeItems (items : List Value) : items.length ≤ (writeItems items).length := by
  induction items with
  | nil => exact Nat.zero_le _
  | cons v items ih =>
      obtain ⟨c, cs, hv, -⟩ := exists_head_writeValue v
      cases items with
      | nil => simp [writeItems, hv]
      | cons w items =>
          simp only [writeItems, List.length_append, List.length_cons] at ih ⊢
          omega

theorem readMembers_write {members : List (String × Value)}
    (hmembers : ∀ m ∈ members, ReadsBack readOne m.2) (hne : members ≠ []) {more : ℕ}
    (hmore : members.length ≤ more) (read : List (String × Value))
    (hnames : ((read ++ members).map (·.1)).Nodup) (rest : List Char) :
    readMembers readOne more read (writeMembers members ++ '\x7d' :: rest) =
      .ok (read ++ members, rest) := by
  induction members generalizing more read with
  | nil => exact absurd rfl hne
  | cons m members ih =>
      obtain ⟨name, v⟩ := m
      obtain ⟨hv, hmembers⟩ := List.forall_mem_cons.mp hmembers
      obtain ⟨more, rfl⟩ : ∃ n, more = n + 1 := ⟨more - 1, by simp at hmore; omega⟩
      have hput : Entries.put read name v = read ++ [(name, v)] := by
        refine Entries.put_of_not_mem (fun hmem => ?_) v
        rw [List.map_append, List.nodup_append] at hnames
        exact hnames.2.2 name hmem name List.mem_cons_self rfl
      have hname := Text.ofPoints_of_text (joinPairs_unitsOf_text name)
      have hcolon (cs : List Char) : skip (':' :: ' ' :: cs) = ':' :: ' ' :: cs := rfl
      have hbehind (cs : List Char) : skip (' ' :: (writeValue v ++ cs)) = writeValue v ++ cs :=
        skip_writeValue v cs
      cases members with
      | nil =>
          have hvalue := hv ('\x7d' :: rest) (endsNumber_cons (by decide) rest)
          have hskip : skip ('\x7d' :: rest) = '\x7d' :: rest := rfl
          simp only [writeMembers, writeText, List.append_assoc, List.cons_append, List.nil_append]
          rw [readMembers]
          simp only [readText_text, hname, hcolon, hbehind, hvalue, hskip, hput]
      | cons w members =>
          obtain ⟨tail, htail⟩ := exists_writeMembers_cons w members
          have hvalue := hv (',' :: ' ' :: (writeMembers (w :: members) ++ '\x7d' :: rest))
            (endsNumber_cons (by decide) _)
          have hcomma (cs : List Char) : skip (',' :: ' ' :: cs) = ',' :: ' ' :: cs := rfl
          have hnext : skip (' ' :: (writeMembers (w :: members) ++ '\x7d' :: rest)) =
              writeMembers (w :: members) ++ '\x7d' :: rest := by
            rw [htail]
            rfl
          have hrest := ih hmembers (List.cons_ne_nil _ _) (by simpa using hmore)
            (read ++ [(name, v)]) (by simpa using hnames)
          simp only [writeMembers_cons_cons, writeText, List.append_assoc, List.cons_append,
            List.nil_append]
          rw [readMembers]
          simp only [readText_text, hname, hcolon, hbehind, hvalue, hcomma, hnext, hput, hrest,
            List.append_assoc, List.singleton_append]

theorem length_le_writeMembers (members : List (String × Value)) :
    members.length ≤ (writeMembers members).length := by
  induction members with
  | nil => exact Nat.zero_le _
  | cons m members ih =>
      obtain ⟨name, v⟩ := m
      cases members with
      | nil => simp [writeMembers, writeText]
      | cons w members =>
          rw [writeMembers_cons_cons]
          simp only [List.length_append, List.length_cons] at ih ⊢
          omega

end containers

/-- What is neither a list nor an object is read back at every depth. -/
theorem readsBack_scalar {v : Value} (hv : isRenderable 0 v = true) (depth : ℕ) :
    ReadsBack (readValue depth) v := by
  intro rest hr
  cases v with
  | null => exact readValue_word depth rest ("null".toList, .null) (by simp [words])
  | bool b =>
      cases b with
      | false => exact readValue_word depth rest ("false".toList, .bool false) (by simp [words])
      | true => exact readValue_word depth rest ("true".toList, .bool true) (by simp [words])
  | int i => exact readValue_int depth hr (of_decide_eq_true hv)
  | float x => exact readValue_float depth x hr
  | text s =>
      have hshape : writeValue (.text s) ++ rest =
          '"' :: (s.toList.flatMap escapeChar ++ '"' :: rest) := by
        simp [writeValue, writeText]
      have hvalue := Value.ofPoints_of_text (joinPairs_unitsOf_text s)
      rw [hshape, readValue, readText_text, ← hvalue]
      rfl
  | ragged r =>
      have hshape : writeValue (.ragged r) ++ rest =
          '"' :: (r.points.flatMap escapePoint ++ '"' :: rest) := by
        simp [writeValue]
      have hvalue := Value.ofPoints_of_ragged (joinPairs_flatMap_unitsOf r.isJoined)
      rw [hshape, readValue, readText_flatMap, ← hvalue]
      rfl
  | list items => cases hv
  | object members => cases hv

/-- A list of values that are read back is read back itself, one level deeper. -/
theorem readsBack_list {depth : ℕ} {items : List Value}
    (hitems : ∀ v ∈ items, ReadsBack (readValue depth) v) :
    ReadsBack (readValue (depth + 1)) (.list items) := by
  intro rest _
  have hshape : writeValue (.list items) ++ rest = '[' :: (writeItems items ++ ']' :: rest) := by
    simp [writeValue]
  rw [hshape, readValue]
  cases items with
  | nil => rfl
  | cons v items =>
      obtain ⟨tail, htail⟩ := exists_writeItems_cons v items
      obtain ⟨c, cs, hv, -, hend⟩ := exists_head_writeValue v
      have hlength := length_le_writeItems (v :: items)
      have hread := @readItems_write _ _ hitems (List.cons_ne_nil _ _)
        (writeItems (v :: items) ++ ']' :: rest).length.succ
        (by rw [List.length_append]; omega) [] rest
      have hskip : skip (writeItems (v :: items) ++ ']' :: rest) =
          writeItems (v :: items) ++ ']' :: rest := by
        rw [htail, List.append_assoc, skip_writeValue]
      dsimp only
      rw [hskip]
      split
      · rename_i heq
        rw [htail, hv] at heq
        cases heq
        exact absurd rfl hend
      · rw [hread]
        rfl

/-- An object of values that are read back is read back itself, if its names differ. -/
theorem readsBack_object {depth : ℕ} {members : List (String × Value)}
    (hnames : (members.map (·.1)).Nodup)
    (hmembers : ∀ m ∈ members, ReadsBack (readValue depth) m.2) :
    ReadsBack (readValue (depth + 1)) (.object members) := by
  intro rest _
  have hshape : writeValue (.object members) ++ rest =
      '\x7b' :: (writeMembers members ++ '\x7d' :: rest) := by
    simp [writeValue]
  rw [hshape, readValue]
  cases members with
  | nil => rfl
  | cons m members =>
      obtain ⟨tail, htail⟩ := exists_writeMembers_cons m members
      have hlength := length_le_writeMembers (m :: members)
      have hread := @readMembers_write _ _ hmembers (List.cons_ne_nil _ _)
        (writeMembers (m :: members) ++ '\x7d' :: rest).length.succ
        (by rw [List.length_append]; omega) [] hnames rest
      have hskip : skip (writeMembers (m :: members) ++ '\x7d' :: rest) =
          writeMembers (m :: members) ++ '\x7d' :: rest := by
        rw [htail]
        rfl
      dsimp only
      rw [hskip]
      split
      · rename_i heq
        rw [htail] at heq
        cases heq
      · rw [hread]
        rfl

/-- **Values.**  What can be rendered is read as it was written, and what follows it is left. -/
theorem readsBack_of_isRenderable {depth : ℕ} {v : Value} (hv : isRenderable depth v = true) :
    ReadsBack (readValue depth) v := by
  induction depth generalizing v with
  | zero => exact readsBack_scalar hv 0
  | succ depth ih =>
      cases v with
      | list items =>
          rw [isRenderable, List.all_eq_true] at hv
          exact readsBack_list fun v hmem => ih (hv v hmem)
      | object members =>
          rw [isRenderable, Bool.and_eq_true, List.all_eq_true] at hv
          exact readsBack_object (of_decide_eq_true hv.1) fun m hmem => ih (hv.2 m hmem)
      | int i => exact readsBack_scalar (by simpa [isRenderable] using hv) (depth + 1)
      | null | bool | float | text | ragged =>
          exact readsBack_scalar (by simp [isRenderable]) (depth + 1)

/-! ### Whole documents -/

theorem readDocument_writeValue {v : Value} (hv : isRenderable maxDepth v = true) :
    readDocument (writeValue v) = .ok v := by
  have hskip := skip_writeValue v []
  have hread := readsBack_of_isRenderable hv [] nofun
  rw [List.append_nil] at hskip hread
  rw [readDocument, hskip, hread]
  rfl

/-- **Documents.**  The document of a value is read as that value. -/
theorem read_of_render? {v : Value} {text : String} (ht : render? v = some text) :
    read text = .ok v := by
  obtain ⟨hv, rfl⟩ := render?_eq_some.mp ht
  have hmark : ((writeValue v).head? == some (Char.ofNat 0xFEFF)) = false := by
    obtain ⟨c, cs, hchars, -⟩ := exists_head_writeValue v
    have hplain : IsPlain c := isPlain_of_mem_writeValue v c (by simp [hchars])
    have hne : c ≠ Char.ofNat 0xFEFF := by
      rintro rfl
      exact absurd hplain (by decide)
    simpa [hchars] using hne
  unfold read write
  dsimp only
  rw [String.toList_ofList, hmark, readDocument_writeValue hv]
  rfl

theorem decodeOctets_write {v : Value} (hv : isRenderable maxDepth v = true) :
    Decoder.json.decodeOctets (Utf8.encode (write v)) = .ok v := by
  rw [Decoder.json_decodeOctets (Utf8.decode_encode _),
    read_of_render? (render?_eq_some.mpr ⟨hv, rfl⟩)]
  rfl

end DefaultCredentials.Json
