import DefaultCredentials.Json.Printer
import DefaultCredentials.Json.Reader
import DefaultCredentials.Proofs.DoubleBits
import DefaultCredentials.Proofs.ShortestDecimal

/-!
# Numbers read back

Every number is read as the number that was written.

* `Numeral`: a number in its parts, with the characters it is written by and what it stands for.
* `exists_numeral_showMagnitude`: a double is written by a numeral that lies in its interval.
* `ofDigits_of_roundsTo`: digits in the interval of a double are read as that double, so the
  guards against huge and tiny powers of ten stand aside.
* `readNumber_numeral` and `readNumber_toDigits`: the reader takes a numeral apart again.
* `readValue_float` and `readValue_int`: numbers as values, whatever ends them.
-/

namespace DefaultCredentials.Number

/-! ### Rows of digits -/

/-- Characters that are all decimal digits. -/
def IsDigits (cs : List Char) : Prop :=
  ∀ c ∈ cs, c.isDigit = true

theorem IsDigits.append {cs ds : List Char} (hc : IsDigits cs) (hd : IsDigits ds) :
    IsDigits (cs ++ ds) :=
  fun c hm => (List.mem_append.mp hm).elim (hc c) (hd c)

theorem isDigits_replicate_zero (n : ℕ) : IsDigits (List.replicate n '0') := by
  intro c hc
  rw [List.eq_of_mem_replicate hc]
  rfl

theorem isDigits_toDigits (n : ℕ) : IsDigits (Nat.toDigits 10 n) :=
  fun _ hc => Nat.isDigit_of_mem_toDigits (by norm_num) le_rfl hc

theorem digitsValue_eq (cs : List Char) : digitsValue cs = Nat.ofDigitChars 10 cs 0 := rfl

theorem digitsValue_toDigits (n : ℕ) : digitsValue (Nat.toDigits 10 n) = n :=
  Nat.ofDigitChars_ten_toDigits

theorem digitsValue_append (cs ds : List Char) :
    digitsValue (cs ++ ds) = digitsValue cs * 10 ^ ds.length + digitsValue ds := by
  rw [digitsValue_eq, Nat.ofDigitChars_append, Nat.ofDigitChars_eq_ofDigitChars_zero,
    Nat.mul_comm]
  rfl

theorem digitsValue_replicate_zero (n : ℕ) : digitsValue (List.replicate n '0') = 0 := by
  rw [digitsValue_eq, Nat.ofDigitChars_replicate_zero, Nat.mul_zero]

theorem digitsValue_cons (c : Char) (cs : List Char) :
    digitsValue (c :: cs) = (c.toNat - 48) * 10 ^ cs.length + digitsValue cs := by
  have happend := digitsValue_append [c] cs
  have hone : digitsValue [c] = c.toNat - 48 := by simp [digitsValue]
  rwa [hone] at happend

theorem toNat_bounds_of_isDigit {c : Char} (hc : c.isDigit = true) :
    48 ≤ c.toNat ∧ c.toNat ≤ 57 := by
  simpa [Char.isDigit, UInt32.le_iff_toNat_le] using hc

theorem digitsValue_lt {cs : List Char} (hc : IsDigits cs) : digitsValue cs < 10 ^ cs.length := by
  induction cs with
  | nil => exact one_pos
  | cons c cs ih =>
      have hrest := ih fun d hd => hc d (List.mem_cons_of_mem _ hd)
      have hdigit := toNat_bounds_of_isDigit (hc c List.mem_cons_self)
      have hmul : (c.toNat - 48) * 10 ^ cs.length ≤ 9 * 10 ^ cs.length :=
        Nat.mul_le_mul_right _ (by omega)
      rw [digitsValue_cons, List.length_cons, Nat.pow_succ]
      omega

theorem le_digitsValue {c : Char} {cs : List Char} (hc : c.isDigit = true) (hne : c ≠ '0') :
    10 ^ cs.length ≤ digitsValue (c :: cs) := by
  have hdigit := toNat_bounds_of_isDigit hc
  have hzero : c.toNat ≠ 48 := fun h => hne (Char.toNat_inj.mp h)
  have hmul : 1 * 10 ^ cs.length ≤ (c.toNat - 48) * 10 ^ cs.length :=
    Nat.mul_le_mul_right _ (by omega)
  rw [digitsValue_cons]
  omega

theorem digitsValue_dropWhile (cs : List Char) :
    digitsValue (cs.dropWhile (· == '0')) = digitsValue cs := by
  induction cs with
  | nil => rfl
  | cons c cs ih =>
      by_cases hc : c = '0'
      · subst hc
        rw [List.dropWhile_cons_of_pos rfl, ih, digitsValue_cons]
        simp
      · rw [List.dropWhile_cons_of_neg (by simpa using hc)]

theorem toDigits_eq_cons {n : ℕ} (hn : 0 < n) : ∃ d ds, Nat.toDigits 10 n = d :: ds ∧ d ≠ '0' := by
  induction n using Nat.strong_induction_on with
  | _ n ih =>
    rcases Nat.lt_or_ge n 10 with hlt | hge
    · have hdigit : ∀ m < 10, 0 < m → m.digitChar ≠ '0' := by decide
      exact ⟨n.digitChar, [], Nat.toDigits_of_lt_base hlt, hdigit n hlt hn⟩
    · obtain ⟨d, ds, hds, hne⟩ := ih (n / 10) (by omega) (by omega)
      rw [Nat.toDigits_of_base_le (by norm_num) hge, hds]
      exact ⟨d, ds ++ [(n % 10).digitChar], rfl, hne⟩

/-! ### Decimals in the interval of a double -/

section double

variable {mantissa : ℕ} {exponent : ℤ} {x : ℚ}

theorem RoundsTo.ge (hx : RoundsTo mantissa exponent x) (hm : IsDouble mantissa exponent) :
    2 ^ (-1075 : ℤ) ≤ x := by
  have hone : (1 : ℚ) ≤ mantissa := by exact_mod_cast hm.pos
  have hreach := reach_le mantissa exponent
  have hhalf : (2 : ℚ) ^ (-1075 : ℤ) = 1 / 2 * 2 ^ (-1074 : ℤ) := by
    rw [show (-1075 : ℤ) = -1074 - 1 by norm_num, zpow_sub_one₀ two_ne_zero]
    ring
  calc (2 : ℚ) ^ (-1075 : ℤ) = 1 / 2 * 2 ^ (-1074 : ℤ) := hhalf
    _ ≤ (mantissa - reach mantissa exponent) * 2 ^ exponent :=
        mul_le_mul (by linarith) (zpow_le_zpow_right₀ one_le_two hm.ge) (by positivity)
          (by linarith)
    _ ≤ x := hx.low

/-- A decimal in the interval of a double is neither too large nor too small to be looked at. -/
theorem scale_bounds {digits count : ℕ} {scale : ℤ} (hm : IsDouble mantissa exponent)
    (hx : RoundsTo mantissa exponent (digits * 10 ^ scale)) (hlow : 10 ^ count ≤ digits)
    (hhigh : digits < 10 ^ (count + 1)) :
    (count : ℤ) + 1 + scale ≤ 400 ∧ -400 ≤ (count : ℤ) + 1 + scale := by
  have hscale : (0 : ℚ) < 10 ^ scale := zpow_pos (by norm_num) scale
  constructor
  · by_contra hgt
    have hbig : (2 : ℚ) ^ (53 + exponent) ≤ digits * 10 ^ scale := by
      calc (2 : ℚ) ^ (53 + exponent) ≤ 2 ^ (1024 : ℤ) :=
            zpow_le_zpow_right₀ one_le_two (by have hle := hm.le; omega)
        _ ≤ 10 ^ (400 : ℤ) := by
            exact_mod_cast (two_pow_le_ten_pow (by norm_num) : 2 ^ 1024 ≤ 10 ^ 400)
        _ ≤ 10 ^ (count + scale) := zpow_le_zpow_right₀ (by norm_num) (by omega)
        _ = 10 ^ count * 10 ^ scale := by rw [zpow_add₀ (by norm_num), zpow_natCast]
        _ ≤ digits * 10 ^ scale := by gcongr; exact_mod_cast hlow
    exact absurd (hx.lt_two_zpow hm) (not_lt.mpr hbig)
  · by_contra hlt
    have hsmall : (digits : ℚ) * 10 ^ scale < 2 ^ (-1075 : ℤ) := by
      calc (digits : ℚ) * 10 ^ scale < 10 ^ (count + 1) * 10 ^ scale := by
            gcongr
            exact_mod_cast hhigh
        _ = 10 ^ ((count : ℤ) + 1 + scale) := by
            rw [zpow_add₀ (by norm_num), zpow_add_one₀ (by norm_num), zpow_natCast, pow_succ]
        _ ≤ 10 ^ (-401 : ℤ) := zpow_le_zpow_right₀ (by norm_num) (by omega)
        _ ≤ 2 ^ (-1076 : ℤ) := ten_zpow_le_two_zpow (by norm_num) (by norm_num)
        _ < 2 ^ (-1075 : ℤ) := zpow_lt_zpow_right₀ one_lt_two (by norm_num)
    exact absurd (hx.ge hm) (not_le.mpr hsmall)

/-- A decimal in the interval of a double is read as that double. -/
theorem ofDecimal_of_roundsTo {digits count : ℕ} {scale : ℤ} (hm : IsDouble mantissa exponent)
    (hx : RoundsTo mantissa exponent (digits * 10 ^ scale)) (hlow : 10 ^ count ≤ digits)
    (hhigh : digits < 10 ^ (count + 1)) (negative : Bool) :
    ofDecimal negative digits (count + 1) scale =
      ofSignedBits negative ((exponent + 1074).toNat * 2 ^ 52 + mantissa) := by
  obtain ⟨hle, hge⟩ := scale_bounds hm hx hlow hhigh
  have hpos : digits ≠ 0 := (Nat.lt_of_lt_of_le (Nat.pow_pos (by norm_num)) hlow).ne'
  unfold ofDecimal
  rw [if_neg hpos, if_neg (by push_cast; omega), if_neg (by push_cast; omega)]
  split
  · rename_i hscale
    have hpow : (10 : ℚ) ^ scale = (10 ^ scale.toNat : ℕ) := zpow_of_nonneg 10 hscale
    have hx' : RoundsTo mantissa exponent
        (((digits * Nat.pow 10 scale.toNat : ℕ) : ℚ) / (1 : ℕ)) := by
      rw [hpow] at hx
      rw [Nat.cast_one, div_one]
      exact_mod_cast hx
    rw [ofRatio, ratioBits_of_roundsTo hm one_pos hx']
  · rename_i hscale
    have hpow : (10 : ℚ) ^ scale = ((10 ^ (-scale).toNat : ℕ) : ℚ)⁻¹ :=
      zpow_of_nonpos 10 (by omega)
    have hx' : RoundsTo mantissa exponent ((digits : ℚ) / (Nat.pow 10 (-scale).toNat : ℕ)) := by
      rw [hpow] at hx
      rw [div_eq_mul_inv]
      exact hx
    have hden : 0 < Nat.pow 10 (-scale).toNat := Nat.pow_pos (by norm_num)
    rw [ofRatio, ratioBits_of_roundsTo hm hden hx']

/-- The same for the digits around a point, with a power of ten. -/
theorem ofDigits_of_roundsTo {whole fraction : List Char} {power : ℤ}
    (hm : IsDouble mantissa exponent) (hw : IsDigits whole) (hf : IsDigits fraction)
    (hx : RoundsTo mantissa exponent
      (digitsValue (whole ++ fraction) * 10 ^ (power - fraction.length))) (negative : Bool) :
    ofDigits negative whole fraction power =
      ofSignedBits negative ((exponent + 1074).toNat * 2 ^ 52 + mantissa) := by
  have hdigits : IsDigits ((whole ++ fraction).dropWhile (· == '0')) :=
    fun c hc => hw.append hf c ((List.dropWhile_sublist _).mem hc)
  unfold ofDigits
  dsimp only
  rw [← digitsValue_dropWhile] at hx
  generalize hsignificant : (whole ++ fraction).dropWhile (· == '0') = significant at hx hdigits ⊢
  cases significant with
  | nil =>
      have hpos := hx.pos hm
      have hzero : digitsValue [] = 0 := rfl
      rw [hzero, Nat.cast_zero, zero_mul] at hpos
      exact absurd hpos (lt_irrefl _)
  | cons c cs =>
      have hc : c ≠ '0' := by
        have hne : (whole ++ fraction).dropWhile (· == '0') ≠ [] := by simp [hsignificant]
        have hhead := List.head_dropWhile_not (· == '0') hne
        simpa [hsignificant] using hhead
      exact ofDecimal_of_roundsTo hm hx (le_digitsValue (hdigits c List.mem_cons_self) hc)
        (digitsValue_lt hdigits) negative

end double

/-! ### Numbers in their parts -/

/-- Whole digits as a number is written with them: a zero alone, or digits that do not start with
one. -/
structure IsWhole (cs : List Char) : Prop where
  digits : IsDigits cs
  head : cs = ['0'] ∨ ∃ d ds, cs = d :: ds ∧ d ≠ '0'

theorem IsWhole.exists_cons {cs : List Char} (hc : IsWhole cs) : ∃ d ds, cs = d :: ds := by
  obtain ⟨-, rfl | ⟨d, ds, rfl, -⟩⟩ := hc
  · exact ⟨_, _, rfl⟩
  · exact ⟨_, _, rfl⟩

/-- A number that is written with a point or a power of ten. -/
structure Numeral where
  whole : List Char
  fraction : List Char
  power : Option ℤ
  isWhole : IsWhole whole
  isFraction : IsDigits fraction
  isParted : fraction ≠ [] ∨ power ≠ none

namespace Numeral

/-- The point and the digits after it, if there are any. -/
def pointPart : List Char → List Char
  | [] => []
  | digits => '.' :: digits

/-- A power of ten with its sign and at least two digits, if there is one. -/
def powerPart : Option ℤ → List Char
  | none => []
  | some power =>
    let size := Nat.toDigits 10 power.natAbs
    'e' :: (if power < 0 then '-' else '+') :: (List.replicate (2 - size.length) '0' ++ size)

theorem pointPart_of_ne_nil {cs : List Char} (hc : cs ≠ []) : pointPart cs = '.' :: cs := by
  cases cs with
  | nil => exact absurd rfl hc
  | cons c cs => rfl

/-- The characters of a numeral. -/
def chars (n : Numeral) : List Char :=
  n.whole ++ (pointPart n.fraction ++ powerPart n.power)

/-- What a numeral stands for. -/
def value (n : Numeral) : ℚ :=
  digitsValue (n.whole ++ n.fraction) * 10 ^ (n.power.getD 0 - n.fraction.length)

end Numeral

section numerals

variable {n : ℕ}

theorem isWhole_toDigits_append (hn : 0 < n) {cs : List Char} (hc : IsDigits cs) :
    IsWhole (Nat.toDigits 10 n ++ cs) := by
  obtain ⟨d, ds, hds, hne⟩ := toDigits_eq_cons hn
  exact ⟨(isDigits_toDigits n).append hc, .inr ⟨d, ds ++ cs, by rw [hds]; rfl, hne⟩⟩

theorem isWhole_toDigits (n : ℕ) : IsWhole (Nat.toDigits 10 n) := by
  rcases Nat.eq_zero_or_pos n with rfl | hpos
  · exact ⟨isDigits_toDigits 0, .inl rfl⟩
  · simpa using @isWhole_toDigits_append n hpos [] (by simp [IsDigits])

theorem exists_numeral_of_point_le (n : ℕ) {point : ℤ} (hpoint : point ≤ 0) :
    ∃ m : Numeral, positional (Nat.toDigits 10 n) point = m.chars ∧
      m.value = n * 10 ^ (point - (Nat.toDigits 10 n).length) := by
  have hzeros := isDigits_replicate_zero (-point).toNat
  have hne : List.replicate (-point).toNat '0' ++ Nat.toDigits 10 n ≠ [] := by simp
  refine ⟨⟨['0'], List.replicate (-point).toNat '0' ++ Nat.toDigits 10 n, none,
    ⟨isDigits_replicate_zero 1, .inl rfl⟩, hzeros.append (isDigits_toDigits n), .inl hne⟩, ?_, ?_⟩
  · simp [positional, hpoint, Numeral.chars, Numeral.pointPart_of_ne_nil hne, Numeral.powerPart]
  · have hvalue : digitsValue (['0'] ++ (List.replicate (-point).toNat '0' ++ Nat.toDigits 10 n)) =
        n := by
      rw [digitsValue_append, digitsValue_append, digitsValue_replicate_zero, digitsValue_toDigits]
      simp [digitsValue]
    rw [Numeral.value, hvalue, Option.getD_none, List.length_append, List.length_replicate]
    congr 2
    push_cast
    omega

theorem exists_numeral_of_le_point (hn : 0 < n) {point : ℤ}
    (hpoint : ((Nat.toDigits 10 n).length : ℤ) ≤ point) :
    ∃ m : Numeral, positional (Nat.toDigits 10 n) point = m.chars ∧
      m.value = n * 10 ^ (point - (Nat.toDigits 10 n).length) := by
  have hlength : 0 < (Nat.toDigits 10 n).length := Nat.length_toDigits_pos
  obtain ⟨zeros, hzeros⟩ :=
    Int.eq_ofNat_of_zero_le (by omega : 0 ≤ point - (Nat.toDigits 10 n).length)
  refine ⟨⟨Nat.toDigits 10 n ++ List.replicate zeros '0', ['0'], none,
    isWhole_toDigits_append hn (isDigits_replicate_zero zeros), isDigits_replicate_zero 1,
    .inl (by simp)⟩, ?_, ?_⟩
  · have hpos : ¬ point ≤ 0 := by omega
    simp [positional, hpos, hpoint, hzeros, Numeral.chars, Numeral.pointPart, Numeral.powerPart]
  · have hvalue : digitsValue ((Nat.toDigits 10 n ++ List.replicate zeros '0') ++ ['0']) =
        n * 10 ^ zeros * 10 := by
      rw [digitsValue_append, digitsValue_append, digitsValue_replicate_zero, digitsValue_toDigits,
        List.length_replicate]
      simp [digitsValue]
    have htenth : (10 : ℚ) ^ (0 - ((['0'] : List Char).length : ℤ)) = 1 / 10 := by norm_num
    rw [Numeral.value, hvalue, hzeros, Option.getD_none, htenth, zpow_natCast]
    push_cast
    ring

/-- The point among the digits. -/
theorem exists_numeral_of_lt_point (hn : 0 < n) {point : ℤ} (hpos : 0 < point)
    (hlt : point < (Nat.toDigits 10 n).length) :
    ∃ m : Numeral, positional (Nat.toDigits 10 n) point = m.chars ∧
      m.value = n * 10 ^ (point - (Nat.toDigits 10 n).length) := by
  obtain ⟨d, ds, hds, hne⟩ := toDigits_eq_cons hn
  have hdigits := isDigits_toDigits n
  have hvalue := digitsValue_toDigits n
  obtain ⟨k, hk⟩ := Int.eq_ofNat_of_zero_le (by omega : 0 ≤ point - 1)
  obtain rfl : point = (k + 1 : ℕ) := by omega
  generalize Nat.toDigits 10 n = digits at hds hdigits hvalue hlt ⊢
  have hfraction : digits.drop (k + 1) ≠ [] := by
    intro hnil
    rw [List.drop_eq_nil_iff] at hnil
    omega
  refine ⟨⟨digits.take (k + 1), digits.drop (k + 1), none,
    ⟨fun c hc => hdigits c (List.mem_of_mem_take hc), .inr ⟨d, ds.take k, by rw [hds]; rfl, hne⟩⟩,
    fun c hc => hdigits c (List.mem_of_mem_drop hc), .inl hfraction⟩, ?_, ?_⟩
  · have hcount : ¬ ((digits.length : ℤ) ≤ (k + 1 : ℕ)) := by omega
    unfold positional
    dsimp only
    rw [if_neg (by omega), if_neg hcount, Numeral.chars, Numeral.pointPart_of_ne_nil hfraction,
      Int.toNat_natCast]
    simp [Numeral.powerPart]
  · rw [Numeral.value, List.take_append_drop, hvalue, Option.getD_none, List.length_drop]
    congr 2
    omega

theorem exists_numeral_positional (hn : 0 < n) (point : ℤ) :
    ∃ m : Numeral, positional (Nat.toDigits 10 n) point = m.chars ∧
      m.value = n * 10 ^ (point - (Nat.toDigits 10 n).length) := by
  rcases le_or_gt point 0 with hpoint | hpos
  · exact exists_numeral_of_point_le n hpoint
  · rcases le_or_gt ((Nat.toDigits 10 n).length : ℤ) point with hle | hlt
    · exact exists_numeral_of_le_point hn hle
    · exact exists_numeral_of_lt_point hn hpos hlt

theorem exists_numeral_scientific (hn : 0 < n) (point : ℤ) :
    ∃ m : Numeral, scientific (Nat.toDigits 10 n) point = m.chars ∧
      m.value = n * 10 ^ (point - (Nat.toDigits 10 n).length) := by
  obtain ⟨d, ds, hds, hne⟩ := toDigits_eq_cons hn
  have hdigits := isDigits_toDigits n
  have hvalue := digitsValue_toDigits n
  rw [hds] at hdigits hvalue ⊢
  refine ⟨⟨[d], ds, some (point - 1), ⟨fun c hc => hdigits c (by simp_all), .inr ⟨d, [], rfl, hne⟩⟩,
    fun c hc => hdigits c (List.mem_cons_of_mem _ hc), .inr (by simp)⟩, ?_, ?_⟩
  · cases ds <;> rfl
  · rw [Numeral.value, List.singleton_append, hvalue, Option.getD_some, List.length_cons]
    push_cast
    congr 2
    ring

end numerals

/-- **How a positive double is written.**  Its numeral stands for a decimal in its interval. -/
theorem exists_numeral_showMagnitude {mantissa : ℕ} {exponent : ℤ}
    (hm : IsDouble mantissa exponent) :
    ∃ m : Numeral, showMagnitude mantissa exponent = m.chars ∧
      RoundsTo mantissa exponent m.value := by
  obtain ⟨hround, hdigits⟩ := Shortest.find_roundsTo hm
  unfold showMagnitude
  dsimp only
  generalize Shortest.find mantissa exponent = d at hround hdigits ⊢
  have hvalue : (d.digits : ℚ) * 10 ^ ((Nat.toDigits 10 d.digits).length + d.scale -
      (Nat.toDigits 10 d.digits).length) = d.value := by
    rw [Decimal.value]
    congr 2
    ring
  split
  · obtain ⟨m, hchars, hm'⟩ := exists_numeral_positional hdigits
      ((Nat.toDigits 10 d.digits).length + d.scale)
    exact ⟨m, hchars, by rw [hm', hvalue]; exact hround⟩
  · obtain ⟨m, hchars, hm'⟩ := exists_numeral_scientific hdigits
      ((Nat.toDigits 10 d.digits).length + d.scale)
    exact ⟨m, hchars, by rw [hm', hvalue]; exact hround⟩

end DefaultCredentials.Number

namespace DefaultCredentials.Json

open Number

/-! ### Reading numbers -/

/-- Characters that do not go on with a number. -/
def EndsNumber (rest : List Char) : Prop :=
  ∀ c, rest.head? = some c → c.isDigit = false ∧ c ≠ '.' ∧ c ≠ 'e' ∧ c ≠ 'E'

theorem span_digits {digits rest : List Char} (hd : IsDigits digits)
    (hr : ∀ c, rest.head? = some c → c.isDigit = false) :
    (digits ++ rest).takeWhile Char.isDigit = digits ∧
      (digits ++ rest).dropWhile Char.isDigit = rest := by
  have hrest : rest.takeWhile Char.isDigit = [] ∧ rest.dropWhile Char.isDigit = rest := by
    cases rest with
    | nil => exact ⟨rfl, rfl⟩
    | cons c cs =>
        have hc := hr c rfl
        exact ⟨List.takeWhile_cons_of_neg (by simp [hc]), List.dropWhile_cons_of_neg (by simp [hc])⟩
  rw [List.takeWhile_append_of_pos hd, List.dropWhile_append_of_pos hd, hrest.1, hrest.2,
    List.append_nil]
  exact ⟨rfl, rfl⟩

theorem splitWhole_append {whole rest : List Char} (hw : IsWhole whole)
    (hr : ∀ c, rest.head? = some c → c.isDigit = false) :
    splitWhole (whole ++ rest) = (whole, rest) := by
  obtain ⟨hdigits, rfl | ⟨d, ds, rfl, hne⟩⟩ := hw
  · rfl
  · obtain ⟨htake, hdrop⟩ := span_digits hdigits hr
    unfold splitWhole
    split
    · rename_i heq
      cases heq
      exact absurd rfl hne
    · rw [htake, hdrop]

theorem splitFraction?_append {fraction rest : List Char} (hf : IsDigits fraction)
    (hr : ∀ c, rest.head? = some c → c.isDigit = false ∧ c ≠ '.') :
    splitFraction? (Numeral.pointPart fraction ++ rest) =
      if fraction = [] then none else some (fraction, rest) := by
  cases fraction with
  | nil =>
      rw [if_pos rfl, Numeral.pointPart, List.nil_append]
      unfold splitFraction?
      split
      · exact absurd rfl (hr '.' rfl).2
      · rfl
  | cons d ds =>
      have hd : d.isDigit = true := hf d List.mem_cons_self
      have hds : IsDigits ds := fun c hc => hf c (List.mem_cons_of_mem _ hc)
      obtain ⟨htake, hdrop⟩ := span_digits hds fun c hc => (hr c hc).1
      rw [if_neg (List.cons_ne_nil d ds), Numeral.pointPart_of_ne_nil (List.cons_ne_nil d ds),
        List.cons_append, List.cons_append, splitFraction?, if_pos hd, htake, hdrop]

theorem splitPower?_append (power : Option ℤ) {rest : List Char} (hr : EndsNumber rest) :
    splitPower? (Numeral.powerPart power ++ rest) = power.map fun p => (p, rest) := by
  cases power with
  | none =>
      rw [Numeral.powerPart, List.nil_append]
      cases rest with
      | nil => rfl
      | cons c cs =>
          obtain ⟨-, -, he, hE⟩ := hr c rfl
          simp [splitPower?, he, hE]
  | some p =>
      have hdigits : IsDigits (List.replicate (2 - (Nat.toDigits 10 p.natAbs).length) '0' ++
          Nat.toDigits 10 p.natAbs) :=
        (isDigits_replicate_zero _).append (isDigits_toDigits _)
      have hvalue : digitsValue (List.replicate (2 - (Nat.toDigits 10 p.natAbs).length) '0' ++
          Nat.toDigits 10 p.natAbs) = p.natAbs := by
        rw [digitsValue_append, digitsValue_replicate_zero, digitsValue_toDigits, Nat.zero_mul,
          Nat.zero_add]
      have hne : List.replicate (2 - (Nat.toDigits 10 p.natAbs).length) '0' ++
          Nat.toDigits 10 p.natAbs ≠ [] := by simp
      rw [Numeral.powerPart]
      generalize List.replicate (2 - (Nat.toDigits 10 p.natAbs).length) '0' ++
        Nat.toDigits 10 p.natAbs = digits at hdigits hvalue hne ⊢
      obtain ⟨htake, hdrop⟩ := span_digits hdigits fun c hc => (hr c hc).1
      have hsign : splitSign ((if p < 0 then '-' else '+') :: (digits ++ rest)) =
          (decide (p < 0), digits ++ rest) := by
        by_cases hp : p < 0
        · rw [if_pos hp, decide_eq_true hp]
          rfl
        · rw [if_neg hp, decide_eq_false hp]
          rfl
      have hpower : (if decide (p < 0) = true then -(digitsValue digits : ℤ)
          else (digitsValue digits : ℤ)) = p := by
        rw [hvalue]
        by_cases hp : p < 0
        · rw [if_pos (decide_eq_true hp)]
          omega
        · rw [if_neg (by simpa using hp)]
          omega
      rw [List.cons_append, List.cons_append, splitPower?, hsign]
      dsimp only
      rw [htake, hdrop, hpower, if_pos (by simpa using hne)]
      rfl

theorem head_powerPart {power : Option ℤ} {rest : List Char} (hr : EndsNumber rest) (c : Char)
    (hc : (Numeral.powerPart power ++ rest).head? = some c) : c.isDigit = false ∧ c ≠ '.' := by
  cases power with
  | none => exact ⟨(hr c hc).1, (hr c hc).2.1⟩
  | some p =>
      cases hc
      decide

theorem head_pointPart {fraction rest : List Char} (c : Char)
    (hr : ∀ c, rest.head? = some c → c.isDigit = false ∧ c ≠ '.')
    (hc : (Numeral.pointPart fraction ++ rest).head? = some c) : c.isDigit = false := by
  cases fraction with
  | nil => exact (hr c hc).1
  | cons d ds =>
      cases hc
      decide

/-- **A numeral.**  It is read in its parts, and what follows it is left. -/
theorem readNumber_numeral (left : ℕ) (negative : Bool) (m : Numeral) {rest : List Char}
    (hr : EndsNumber rest) :
    readNumber left negative (m.chars ++ rest) =
      .ok (.float (ofDigits negative m.whole m.fraction (m.power.getD 0)), rest) := by
  obtain ⟨whole, fraction, power, hwhole, hfraction, hparted⟩ := m
  have hne : whole.isEmpty = false := by
    obtain ⟨d, ds, rfl⟩ := hwhole.exists_cons
    rfl
  have hhead := @head_powerPart power rest hr
  have hsplit := splitWhole_append hwhole fun c => @head_pointPart fraction _ c hhead
  have hpoint := splitFraction?_append hfraction hhead
  have hpower := splitPower?_append power hr
  simp only [Numeral.chars, List.append_assoc]
  unfold readNumber
  rw [hsplit]
  dsimp only
  rw [hne, hpoint]
  by_cases hf : fraction = []
  · subst hf
    rw [if_pos rfl, Option.getD_none, Numeral.pointPart, List.nil_append]
    dsimp only
    rw [hpower]
    cases power with
    | none => exact absurd rfl (hparted.resolve_left (by simp))
    | some p => rfl
  · rw [if_neg hf, Option.getD_some]
    dsimp only
    rw [hpower]
    cases power <;> rfl

/-- A whole number is read as such, if it has no more digits than are taken. -/
theorem readNumber_toDigits (left : ℕ) (negative : Bool) {n : ℕ} {rest : List Char}
    (hr : EndsNumber rest) (hn : (Nat.toDigits 10 n).length ≤ maxDigits) :
    readNumber left negative (Nat.toDigits 10 n ++ rest) =
      .ok (.int (if negative then -n else n), rest) := by
  have hne : (Nat.toDigits 10 n).isEmpty = false := by simp
  have hsplit := splitWhole_append (isWhole_toDigits n) fun c hc => (hr c hc).1
  have hpoint := @splitFraction?_append [] rest (by simp [IsDigits]) fun c hc =>
    ⟨(hr c hc).1, (hr c hc).2.1⟩
  have hpower := splitPower?_append none hr
  rw [Numeral.pointPart, List.nil_append, if_pos rfl] at hpoint
  rw [Numeral.powerPart, List.nil_append, Option.map_none] at hpower
  unfold readNumber
  rw [hsplit]
  dsimp only
  rw [hne, hpoint, Option.getD_none]
  dsimp only
  rw [hpower, digitsValue_toDigits]
  simp [Nat.not_lt.mpr hn]

/-! ### Values that are numbers -/

/-- What starts neither a text nor a list nor an object is a word or a number. -/
theorem readValue_eq_readScalar (depth : ℕ) {c : Char} (cs : List Char)
    (hc : c ≠ '"' ∧ c ≠ '[' ∧ c ≠ '\x7b') : readValue depth (c :: cs) = readScalar (c :: cs) := by
  unfold readValue
  split
  · rename_i heq
    cases heq
    exact absurd rfl hc.1
  · rename_i heq
    cases heq
    exact absurd rfl hc.2.1
  · rename_i heq
    cases heq
    exact absurd rfl hc.2.2
  · rfl

theorem readValue_word (depth : ℕ) (rest : List Char) :
    ∀ p ∈ words, readValue depth (p.1 ++ rest) = .ok (p.2, rest) := by
  simp only [words, List.forall_mem_cons]
  refine ⟨?_, ?_, ?_, ?_, ?_, ?_, List.forall_mem_nil _⟩ <;> cases depth <;> rfl

theorem find?_words {d : Char} (hd : d.isDigit = true) (cs : List Char) :
    words.find? (·.1.isPrefixOf (d :: cs)) = none ∧
      words.find? (·.1.isPrefixOf ('-' :: d :: cs)) = none := by
  have hne (c : Char) (hc : c.isDigit = false) : (c == d) = false := by
    rw [beq_eq_false_iff_ne]
    rintro rfl
    rw [hd] at hc
    cases hc
  have hletters : ('n' == d) = false ∧ ('t' == d) = false ∧ ('f' == d) = false ∧
      ('N' == d) = false ∧ ('I' == d) = false ∧ ('-' == d) = false :=
    ⟨hne _ rfl, hne _ rfl, hne _ rfl, hne _ rfl, hne _ rfl, hne _ rfl⟩
  obtain ⟨hn, ht, hf, hN, hI, hminus⟩ := hletters
  constructor
  · simp [words, List.isPrefixOf, hn, ht, hf, hN, hI, hminus]
  · simp [words, List.isPrefixOf, hI]

/-- The characters of a number, behind a minus or not. -/
def signed (negative : Bool) (cs : List Char) : List Char :=
  if negative then '-' :: cs else cs

/-- A value that starts with a digit is a number, and so is one with a minus before a digit. -/
theorem readValue_signed (depth : ℕ) (negative : Bool) {d : Char} (hd : d.isDigit = true)
    (cs : List Char) : ∃ left, readValue depth (signed negative (d :: cs)) =
      readNumber left negative (d :: cs) := by
  obtain ⟨hplain, hminus⟩ := find?_words hd cs
  have hne (c : Char) (hc : c.isDigit = false) : d ≠ c := by
    rintro rfl
    rw [hd] at hc
    cases hc
  cases negative with
  | false =>
      refine ⟨(d :: cs).length, ?_⟩
      rw [signed, if_neg Bool.false_ne_true,
        readValue_eq_readScalar depth cs ⟨hne _ rfl, hne _ rfl, hne _ rfl⟩, readScalar, hplain]
      intro tail heq
      cases heq
      cases hd
  | true =>
      refine ⟨('-' :: d :: cs).length, ?_⟩
      rw [signed, if_pos rfl, readValue_eq_readScalar depth (d :: cs) (by decide), readScalar,
        hminus]

theorem readValue_of_isWhole (depth : ℕ) (negative : Bool) {whole : List Char} (hw : IsWhole whole)
    (cs : List Char) : ∃ left, readValue depth (signed negative (whole ++ cs)) =
      readNumber left negative (whole ++ cs) := by
  obtain ⟨hdigits, rfl | ⟨d, ds, rfl, -⟩⟩ := hw
  · exact readValue_signed depth negative rfl cs
  · exact readValue_signed depth negative (hdigits d List.mem_cons_self) (ds ++ cs)

theorem signed_append (negative : Bool) (cs rest : List Char) :
    signed negative cs ++ rest = signed negative (cs ++ rest) := by
  cases negative <;> rfl

def zero : Numeral where
  whole := ['0']
  fraction := ['0']
  power := none
  isWhole := ⟨isDigits_replicate_zero 1, .inl rfl⟩
  isFraction := isDigits_replicate_zero 1
  isParted := .inl (by simp)

/-- A finite double has a numeral that is read as it. -/
theorem exists_numeral_of_finite {x : Float} {negative : Bool} {mantissa : ℕ} {exponent : ℤ}
    (hx : parts x = .finite negative mantissa exponent) :
    ∃ m : Numeral, (if mantissa = 0 then ['0', '.', '0'] else showMagnitude mantissa exponent) =
        m.chars ∧ ofDigits negative m.whole m.fraction (m.power.getD 0) = x := by
  by_cases hm : mantissa = 0
  · have hexponent : exponent = -1074 := by
      obtain ⟨-, ⟨-, -, hexponent⟩ | ⟨-, -, hmantissa, -⟩⟩ := bits_of_finite hx
      · exact hexponent
      · omega
    subst hm hexponent
    refine ⟨zero, rfl, ?_⟩
    rw [← ofSignedBits_finite hx]
    rfl
  · have hdouble := isDouble_of_finite hx hm
    obtain ⟨m, hchars, hround⟩ := exists_numeral_showMagnitude hdouble
    refine ⟨m, by rw [if_neg hm, hchars], ?_⟩
    rw [ofDigits_of_roundsTo hdouble m.isWhole.digits m.isFraction hround,
      ofSignedBits_finite hx]

/-- How a double is written: by a word, or by a numeral that is read as it. -/
theorem writeValue_float (x : Float) :
    (∃ p ∈ words, writeValue (.float x) = p.1 ∧ p.2 = .float x) ∨
      ∃ (negative : Bool) (m : Numeral), writeValue (.float x) = signed negative m.chars ∧
        ofDigits negative m.whole m.fraction (m.power.getD 0) = x := by
  rw [writeValue, showFloat]
  cases hx : parts x with
  | notANumber =>
      exact .inl ⟨("NaN".toList, .float nan), by simp [words], rfl,
        congrArg Value.float (nan_eq hx)⟩
  | infinite negative =>
      have hinfinity := infinity_eq hx
      cases negative with
      | false =>
          exact .inl ⟨("Infinity".toList, .float (infinity false)), by simp [words], rfl,
            congrArg Value.float hinfinity⟩
      | true =>
          exact .inl ⟨("-Infinity".toList, .float (infinity true)), by simp [words], rfl,
            congrArg Value.float hinfinity⟩
  | finite negative mantissa exponent =>
      obtain ⟨m, hchars, hread⟩ := exists_numeral_of_finite hx
      refine .inr ⟨negative, m, ?_, hread⟩
      dsimp only
      rw [hchars, String.toList_ofList]
      rfl

/-- **Doubles.**  Every double is read as it was written. -/
theorem readValue_float (depth : ℕ) (x : Float) {rest : List Char} (hr : EndsNumber rest) :
    readValue depth (writeValue (.float x) ++ rest) = .ok (.float x, rest) := by
  obtain ⟨p, hp, hchars, hvalue⟩ | ⟨negative, m, hchars, hread⟩ := writeValue_float x
  · rw [hchars, readValue_word depth rest p hp, hvalue]
  · obtain ⟨left, hvalue⟩ := readValue_of_isWhole depth negative m.isWhole
      (Numeral.pointPart m.fraction ++ Numeral.powerPart m.power ++ rest)
    have hnumber := readNumber_numeral left negative m hr
    rw [Numeral.chars, List.append_assoc] at hnumber
    rw [hchars, signed_append, Numeral.chars, List.append_assoc, hvalue, hnumber, hread]

theorem writeValue_int (i : ℤ) :
    writeValue (.int i) = signed (decide (i < 0)) (Nat.toDigits 10 i.natAbs) := by
  cases i with
  | ofNat n => exact Nat.toList_repr
  | negSucc n =>
      have hshown : toString (Int.negSucc n) = "-" ++ Nat.repr (n + 1) := rfl
      rw [decide_eq_true (Int.negSucc_lt_zero n), writeValue, hshown, String.toList_append,
        Nat.toList_repr]
      rfl

/-- **Whole numbers.**  A whole number of no more digits than are taken is read as it was
written. -/
theorem readValue_int (depth : ℕ) {i : ℤ} {rest : List Char} (hr : EndsNumber rest)
    (hi : (Nat.toDigits 10 i.natAbs).length ≤ maxDigits) :
    readValue depth (writeValue (.int i) ++ rest) = .ok (.int i, rest) := by
  have habs : (if decide (i < 0) = true then -(i.natAbs : ℤ) else i.natAbs) = i := by
    simp only [decide_eq_true_eq]
    split <;> omega
  obtain ⟨left, hvalue⟩ := readValue_of_isWhole depth (decide (i < 0))
    (isWhole_toDigits i.natAbs) rest
  rw [writeValue_int, signed_append, hvalue, readNumber_toDigits left _ hr hi, habs]

end DefaultCredentials.Json
