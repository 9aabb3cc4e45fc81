import DefaultCredentials.Number.Binary64
import Mathlib.Tactic

/-!
# The nearest double

A double `mantissa · 2 ^ exponent` stands for the rationals that round to it, an interval around its
value.  `RoundsTo` is that interval: half a step to either side, but a quarter below a power of two,
and the ends belong to it when the mantissa is even.

* `floorLog_eq` and `roundQuotient_eq`: the two steps of rounding are told by inequalities.
* `ratioBits_of_roundsTo`: every quotient in the interval of a double has the bits of that double.
-/

namespace DefaultCredentials.Number

/-! ### Powers with exponents of either sign -/

theorem zpow_of_nonneg (b : ℕ) {q : ℤ} (hq : 0 ≤ q) : (b : ℚ) ^ q = (b ^ q.toNat : ℕ) := by
  obtain ⟨k, rfl⟩ := Int.eq_ofNat_of_zero_le hq
  simp

theorem zpow_of_nonpos (b : ℕ) {q : ℤ} (hq : q ≤ 0) :
    (b : ℚ) ^ q = ((b ^ (-q).toNat : ℕ) : ℚ)⁻¹ := by
  obtain ⟨k, hk⟩ := Int.eq_ofNat_of_zero_le (neg_nonneg.mpr hq)
  have hqk : q = -(k : ℤ) := by omega
  subst hqk
  simp

theorem two_zpow_pos (q : ℤ) : (0 : ℚ) < 2 ^ q :=
  zpow_pos two_pos q

/-! ### The binary logarithm of a quotient -/

section quotient

variable {num den : ℕ} (hn : 0 < num) (hd : 0 < den)
include hn hd

/-- The quotient of two numbers lies within a factor of two of that of their leading powers. -/
theorem log2_sub_log2_bounds :
    (2 : ℚ) ^ ((num.log2 : ℤ) - den.log2 - 1) < num / den ∧
      (num : ℚ) / den < 2 ^ ((num.log2 : ℤ) - den.log2 + 1) := by
  have hnum : (2 : ℚ) ^ num.log2 ≤ num := by exact_mod_cast Nat.log2_self_le hn.ne'
  have hnum' : (num : ℚ) < 2 ^ (num.log2 + 1) := by exact_mod_cast num.lt_log2_self
  have hden : (2 : ℚ) ^ den.log2 ≤ den := by exact_mod_cast Nat.log2_self_le hd.ne'
  have hden' : (den : ℚ) < 2 ^ (den.log2 + 1) := by exact_mod_cast den.lt_log2_self
  have hpos : (0 : ℚ) < num := by exact_mod_cast hn
  have hpos' : (0 : ℚ) < den := by exact_mod_cast hd
  constructor
  · have hpow : (2 : ℚ) ^ ((num.log2 : ℤ) - den.log2 - 1) = 2 ^ num.log2 / 2 ^ (den.log2 + 1) := by
      rw [sub_sub, zpow_sub₀ two_ne_zero]
      norm_cast
    rw [hpow, div_lt_div_iff₀ (by positivity) hpos']
    calc (2 : ℚ) ^ num.log2 * den ≤ num * den := by gcongr
      _ < num * 2 ^ (den.log2 + 1) := by gcongr
  · have hpow : (2 : ℚ) ^ ((num.log2 : ℤ) - den.log2 + 1) = 2 ^ (num.log2 + 1) / 2 ^ den.log2 := by
      rw [sub_add_eq_add_sub, zpow_sub₀ two_ne_zero]
      norm_cast
    rw [hpow, div_lt_div_iff₀ hpos' (by positivity)]
    calc (num : ℚ) * 2 ^ den.log2 ≤ num * den := by gcongr
      _ < 2 ^ (num.log2 + 1) * den := by gcongr

omit hn in
theorem two_zpow_le_div_iff (e : ℤ) :
    (if 0 ≤ e then den * Nat.pow 2 e.toNat ≤ num else den ≤ num * Nat.pow 2 (-e).toNat) ↔
      (2 : ℚ) ^ e ≤ num / den := by
  have hpos : (0 : ℚ) < den := by exact_mod_cast hd
  rw [le_div_iff₀ hpos]
  split
  · rename_i he
    have hpow : (2 : ℚ) ^ e = (2 ^ e.toNat : ℕ) := zpow_of_nonneg 2 he
    rw [hpow, mul_comm]
    exact_mod_cast Iff.rfl
  · rename_i he
    have hpow : (2 : ℚ) ^ e = ((2 ^ (-e).toNat : ℕ) : ℚ)⁻¹ := zpow_of_nonpos 2 (by omega)
    have hscale : (0 : ℚ) < (2 ^ (-e).toNat : ℕ) := by positivity
    rw [hpow, inv_mul_le_iff₀ hscale, mul_comm]
    exact_mod_cast Iff.rfl

/-- The logarithm is the greatest exponent of a power of two that is not above the quotient. -/
theorem floorLog_spec :
    (2 : ℚ) ^ floorLog num den ≤ num / den ∧ (num : ℚ) / den < 2 ^ (floorLog num den + 1) := by
  obtain ⟨hlow, hhigh⟩ := log2_sub_log2_bounds hn hd
  have hiff := @two_zpow_le_div_iff num den hd ((num.log2 : ℤ) - den.log2)
  unfold floorLog
  dsimp only
  by_cases hfits : (2 : ℚ) ^ ((num.log2 : ℤ) - den.log2) ≤ num / den
  · rw [if_pos (hiff.mpr hfits)]
    exact ⟨hfits, hhigh⟩
  · rw [if_neg (mt hiff.mp hfits), sub_add_cancel]
    exact ⟨hlow.le, lt_of_not_ge hfits⟩

theorem floorLog_eq {k : ℤ} (hlow : (2 : ℚ) ^ k ≤ num / den)
    (hhigh : (num : ℚ) / den < 2 ^ (k + 1)) : floorLog num den = k := by
  obtain ⟨hlow', hhigh'⟩ := floorLog_spec hn hd
  have hle : k < floorLog num den + 1 :=
    (zpow_lt_zpow_iff_right₀ one_lt_two).mp (hlow.trans_lt hhigh')
  have hge : floorLog num den < k + 1 :=
    (zpow_lt_zpow_iff_right₀ one_lt_two).mp (hlow'.trans_lt hhigh)
  omega

end quotient

/-! ### The nearest whole number -/

/-- A whole number that a rational is rounded to: it is at most a half away, and an odd one less. -/
structure IsNearest (x : ℚ) (n : ℕ) : Prop where
  low : (n : ℚ) - 1 / 2 ≤ x
  high : x ≤ n + 1 / 2
  odd : n % 2 = 1 → (n : ℚ) - 1 / 2 < x ∧ x < n + 1 / 2

theorem IsNearest.of_div {num den n : ℕ} (hd : 0 < den) (hx : IsNearest (num / den) n) :
    2 * (n * den) ≤ 2 * num + den ∧ 2 * num ≤ 2 * (n * den) + den ∧
      (n % 2 = 1 → 2 * (n * den) < 2 * num + den ∧ 2 * num < 2 * (n * den) + den) := by
  have hpos : (0 : ℚ) < den := by exact_mod_cast hd
  have hlow := hx.low
  have hhigh := hx.high
  rw [le_div_iff₀ hpos] at hlow
  rw [div_le_iff₀ hpos] at hhigh
  refine ⟨?_, ?_, fun hodd => ?_⟩
  · have hq : (2 : ℚ) * (n * den) ≤ 2 * num + den := by linarith
    exact_mod_cast hq
  · have hq : (2 : ℚ) * num ≤ 2 * (n * den) + den := by linarith
    exact_mod_cast hq
  · obtain ⟨hlow', hhigh'⟩ := hx.odd hodd
    rw [lt_div_iff₀ hpos] at hlow'
    rw [div_lt_iff₀ hpos] at hhigh'
    have hq : (2 : ℚ) * (n * den) < 2 * num + den := by linarith
    have hq' : (2 : ℚ) * num < 2 * (n * den) + den := by linarith
    exact ⟨by exact_mod_cast hq, by exact_mod_cast hq'⟩

theorem roundQuotient_eq {num den n : ℕ} (hd : 0 < den) (hx : IsNearest (num / den) n) :
    roundQuotient num den = n := by
  obtain ⟨hlow, hhigh, hodd⟩ := hx.of_div hd
  have hsplit : num / den * den + num % den = num := Nat.div_add_mod' num den
  have hrest : num % den < den := Nat.mod_lt num hd
  unfold roundQuotient
  dsimp only
  generalize num / den = floor at hsplit ⊢
  generalize num % den = rest at hsplit hrest ⊢
  -- The number is the floor of the quotient or the one above.
  have hge : floor ≤ n := by
    by_contra hlt
    have hmul : (n + 1) * den ≤ floor * den := Nat.mul_le_mul_right den (by omega)
    rw [Nat.succ_mul] at hmul
    omega
  have hle : n ≤ floor + 1 := by
    by_contra hgt
    have hmul : (floor + 2) * den ≤ n * den := Nat.mul_le_mul_right den (by omega)
    rw [Nat.add_mul] at hmul
    omega
  obtain rfl | rfl : n = floor ∨ n = floor + 1 := by omega
  · have hnear : 2 * rest ≤ den := by omega
    rw [if_neg (by omega : ¬ den < 2 * rest)]
    split
    · rfl
    · have heven : n % 2 = 0 := by
        by_contra hne
        have hstrict := hodd (by omega)
        omega
      omega
  · have hmul : (floor + 1) * den = floor * den + den := Nat.succ_mul ..
    rw [hmul] at hlow hhigh hodd
    have hnear : den ≤ 2 * rest := by omega
    rw [if_neg (by omega : ¬ 2 * rest < den)]
    split
    · rfl
    · have hodd' : floor % 2 = 1 := by
        by_contra hne
        have hstrict := hodd (by omega)
        omega
      omega

/-! ### The interval of a double -/

/-- The mantissa and the exponent of a positive finite double. -/
structure IsDouble (mantissa : ℕ) (exponent : ℤ) : Prop where
  pos : 0 < mantissa
  lt : mantissa < 2 ^ 53
  ge : -1074 ≤ exponent
  le : exponent ≤ 971
  normal : -1074 < exponent → 2 ^ 52 ≤ mantissa

/-- How far below its value the interval of a double begins, in units of its last place: a power of
two has the double below it nearer than the one above. -/
def reach (mantissa : ℕ) (exponent : ℤ) : ℚ :=
  if mantissa = 2 ^ 52 ∧ -1074 < exponent then 1 / 4 else 1 / 2

/-- The rationals that round to a double. -/
structure RoundsTo (mantissa : ℕ) (exponent : ℤ) (x : ℚ) : Prop where
  low : (mantissa - reach mantissa exponent) * 2 ^ exponent ≤ x
  high : x ≤ (mantissa + 1 / 2) * 2 ^ exponent
  odd : mantissa % 2 = 1 →
    (mantissa - reach mantissa exponent) * 2 ^ exponent < x ∧ x < (mantissa + 1 / 2) * 2 ^ exponent

section double

variable {mantissa : ℕ} {exponent : ℤ} {x : ℚ}

theorem reach_le (mantissa : ℕ) (exponent : ℤ) : reach mantissa exponent ≤ 1 / 2 := by
  unfold reach
  split <;> norm_num

theorem RoundsTo.pos (hx : RoundsTo mantissa exponent x) (hm : IsDouble mantissa exponent) :
    0 < x := by
  have hone : (1 : ℚ) ≤ mantissa := by exact_mod_cast hm.pos
  have hreach := reach_le mantissa exponent
  have hlow : 0 < (mantissa - reach mantissa exponent) * 2 ^ exponent :=
    mul_pos (by linarith) (two_zpow_pos exponent)
  exact hlow.trans_le hx.low

/-- In units of the last place, the mantissa is the nearest whole number. -/
theorem RoundsTo.isNearest (hx : RoundsTo mantissa exponent x) :
    IsNearest (x / 2 ^ exponent) mantissa := by
  have hreach := reach_le mantissa exponent
  have hunit := two_zpow_pos exponent
  have hlow := (le_div_iff₀ hunit).mpr hx.low
  refine ⟨by linarith, (div_le_iff₀ hunit).mpr hx.high, fun hodd => ?_⟩
  obtain ⟨hlow', hhigh'⟩ := hx.odd hodd
  have hlow'' := (lt_div_iff₀ hunit).mpr hlow'
  exact ⟨by linarith, (div_lt_iff₀ hunit).mpr hhigh'⟩

/-- Rounding to a unit that is not below the smallest one. -/
theorem ratioBits_of_isNearest {num den n : ℕ} {q : ℤ} (hn : 0 < num) (hd : 0 < den)
    (hq : max (floorLog num den - 52) (-1074) = q) (hx : IsNearest (num / den / 2 ^ q) n)
    (hfinite : (q + 1074).toNat * 2 ^ 52 + n ≤ infinityBits) :
    ratioBits num den = (q + 1074).toNat * 2 ^ 52 + n := by
  unfold ratioBits
  rw [if_neg hn.ne', hq]
  dsimp only
  have hround : (if 0 ≤ q then roundQuotient num (den * Nat.pow 2 q.toNat)
      else roundQuotient (num * Nat.pow 2 (-q).toNat) den) = n := by
    split
    · rename_i hpos
      have hpow : (2 : ℚ) ^ q = (2 ^ q.toNat : ℕ) := zpow_of_nonneg 2 hpos
      refine roundQuotient_eq (Nat.mul_pos hd (Nat.two_pow_pos _)) ?_
      rw [hpow, div_div] at hx
      exact_mod_cast hx
    · rename_i hneg
      have hpow : (2 : ℚ) ^ q = ((2 ^ (-q).toNat : ℕ) : ℚ)⁻¹ := zpow_of_nonpos 2 (by omega)
      refine roundQuotient_eq hd ?_
      rw [hpow, div_inv_eq_mul, div_mul_eq_mul_div] at hx
      exact_mod_cast hx
  rw [hround]
  exact min_eq_left hfinite

theorem two_zpow_add (k : ℕ) (q : ℤ) : (2 : ℚ) ^ ((k : ℤ) + q) = 2 ^ k * 2 ^ q := by
  rw [zpow_add₀ two_ne_zero, zpow_natCast]

/-- The interval of a double stays below the next power of two. -/
theorem RoundsTo.lt_two_zpow (hx : RoundsTo mantissa exponent x) (hm : IsDouble mantissa exponent) :
    x < 2 ^ (53 + exponent) := by
  have hmantissa : (mantissa : ℚ) + 1 ≤ 2 ^ 53 := by exact_mod_cast hm.lt
  have hunit := two_zpow_pos exponent
  calc x ≤ (mantissa + 1 / 2) * 2 ^ exponent := hx.high
    _ < 2 ^ 53 * 2 ^ exponent := by gcongr; linarith
    _ = 2 ^ (53 + exponent) := (two_zpow_add 53 exponent).symm

/-- What lies below the power of two that a double begins with rounds to that power, and is not far
below it. -/
theorem RoundsTo.of_lt (hx : RoundsTo mantissa exponent x) (hm : IsDouble mantissa exponent)
    (he : -1074 < exponent) (hbelow : x < 2 ^ (52 + exponent)) :
    mantissa = 2 ^ 52 ∧ (2 ^ 52 - 1 / 4) * 2 ^ exponent ≤ x := by
  have hunit := two_zpow_pos exponent
  have hscaled : (2 : ℚ) ^ (52 + exponent) = 2 ^ 52 * 2 ^ exponent := two_zpow_add 52 exponent
  rw [hscaled] at hbelow
  have hlow : (mantissa : ℚ) - reach mantissa exponent < 2 ^ 52 :=
    lt_of_mul_lt_mul_right (hx.low.trans_lt hbelow) hunit.le
  have hpower : mantissa = 2 ^ 52 := by
    by_contra hne
    have hnormal := hm.normal he
    have hnext : (2 : ℚ) ^ 52 + 1 ≤ mantissa := by
      have hge : 2 ^ 52 + 1 ≤ mantissa := by omega
      exact_mod_cast hge
    have hreach := reach_le mantissa exponent
    linarith
  refine ⟨hpower, ?_⟩
  have hx' := hx.low
  rw [hpower, reach, if_pos ⟨rfl, he⟩] at hx'
  exact_mod_cast hx'

theorem isNearest_of_below (hnear : (2 ^ 52 - 1 / 4) * 2 ^ exponent ≤ x)
    (hbelow : x < 2 ^ (52 + exponent)) : IsNearest (x / 2 ^ (exponent - 1)) (2 ^ 53) := by
  have hhalf : (2 : ℚ) ^ exponent = 2 * 2 ^ (exponent - 1) := by
    rw [zpow_sub_one₀ two_ne_zero]
    ring
  have hpow : (2 : ℚ) ^ (52 + exponent) = 2 ^ 52 * 2 ^ exponent := two_zpow_add 52 exponent
  have hsmaller := two_zpow_pos (exponent - 1)
  rw [hpow] at hbelow
  rw [hhalf] at hnear hbelow
  refine ⟨?_, ?_, fun hodd => absurd hodd (by decide)⟩
  · rw [le_div_iff₀ hsmaller]
    push_cast
    linarith
  · rw [div_le_iff₀ hsmaller]
    push_cast
    linarith

theorem IsDouble.bits_le (hm : IsDouble mantissa exponent) :
    (exponent + 1074).toNat * 2 ^ 52 + mantissa ≤ infinityBits := by
  have hle := hm.le
  have hmax : (exponent + 1074).toNat ≤ 2045 := by omega
  have hlt := hm.lt
  have hinfinity : infinityBits = 2047 * 2 ^ 52 := rfl
  omega

/-- **The nearest double.**  A quotient in the interval of a double has its bits. -/
theorem ratioBits_of_roundsTo {num den : ℕ} (hm : IsDouble mantissa exponent) (hd : 0 < den)
    (hx : RoundsTo mantissa exponent (num / den)) :
    ratioBits num den = (exponent + 1074).toNat * 2 ^ 52 + mantissa := by
  have hge := hm.ge
  have hn : 0 < num := by
    have hpos := hx.pos hm
    by_contra hzero
    have hnum : num = 0 := by omega
    rw [hnum, Nat.cast_zero, zero_div] at hpos
    exact lt_irrefl _ hpos
  have hfinite := hm.bits_le
  rcases le_or_gt ((2 : ℚ) ^ (52 + exponent)) (num / den) with habove | hbelow
  · -- The unit of rounding is that of the double.
    have hlog : floorLog num den = 52 + exponent := by
      refine floorLog_eq hn hd habove ?_
      rw [add_right_comm]
      exact hx.lt_two_zpow hm
    exact ratioBits_of_isNearest hn hd (by omega) hx.isNearest hfinite
  · obtain ⟨hlow, hhigh⟩ := floorLog_spec hn hd
    have hlog : floorLog num den < 52 + exponent :=
      (zpow_lt_zpow_iff_right₀ one_lt_two).mp (hlow.trans_lt hbelow)
    rcases hge.eq_or_lt with heq | hgt
    · -- There is no smaller unit.
      exact ratioBits_of_isNearest hn hd (by omega) hx.isNearest hfinite
    · -- Below a power of two the unit of rounding is half of that of the double.
      obtain ⟨hpower, hnear⟩ := hx.of_lt hm hgt hbelow
      have hunit := two_zpow_pos exponent
      have hlog' : 51 + exponent ≤ floorLog num den := by
        have hpow : (2 : ℚ) ^ (51 + exponent) ≤ num / den := by
          rw [show (2 : ℚ) ^ (51 + exponent) = 2 ^ 51 * 2 ^ exponent from two_zpow_add 51 exponent]
          refine le_trans ?_ hnear
          gcongr
          norm_num
        have hlt := (zpow_lt_zpow_iff_right₀ one_lt_two).mp (hpow.trans_lt hhigh)
        omega
      have hnearest := isNearest_of_below hnear hbelow
      have hsum : (exponent - 1 + 1074).toNat * 2 ^ 52 + 2 ^ 53 =
          (exponent + 1074).toNat * 2 ^ 52 + mantissa := by omega
      have hbits := ratioBits_of_isNearest hn hd (by omega) hnearest (hsum.trans_le hfinite)
      rw [hbits, hsum]

end double

end DefaultCredentials.Number
