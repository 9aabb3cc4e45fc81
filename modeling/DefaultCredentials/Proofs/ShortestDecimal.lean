import DefaultCredentials.Number.Shortest
import DefaultCredentials.Proofs.NearestDouble

/-!
# The shortest decimal rounds back

A double is written by a decimal that `Shortest.find` takes from the grids inside its interval.

* `Shortest.holds_interval_iff`: the interval that is searched is that of the double.
* `Shortest.search_isSome`: the search ends on a grid, at the latest on one whose unit is a quarter
  of the last place, and `ten_zpow_le_two_zpow` says that the search gets there.
* `Shortest.find_roundsTo`: what is found rounds to the double, and it has digits.
-/

namespace DefaultCredentials.Number

/-- The rational that a decimal stands for. -/
def Decimal.value (d : Decimal) : ℚ :=
  d.digits * 10 ^ d.scale

/-! ### Powers of ten and of two -/

theorem ten_pow_le_two_pow {n t : ℕ} (h : 10 * n ≤ 3 * t) : 10 ^ n ≤ 2 ^ t := by
  have hcube : (10 ^ n) ^ 3 ≤ (2 ^ t) ^ 3 := by
    calc (10 ^ n) ^ 3 = (10 ^ 3) ^ n := by rw [← pow_mul, ← pow_mul, Nat.mul_comm]
      _ ≤ (2 ^ 10) ^ n := Nat.pow_le_pow_left (by norm_num) n
      _ = 2 ^ (10 * n) := (pow_mul ..).symm
      _ ≤ 2 ^ (3 * t) := Nat.pow_le_pow_right two_pos h
      _ = (2 ^ t) ^ 3 := by rw [Nat.mul_comm, pow_mul]
  exact (Nat.pow_le_pow_iff_left (by norm_num)).mp hcube

theorem two_pow_le_ten_pow {n t : ℕ} (h : 28 * t ≤ 93 * n) : 2 ^ t ≤ 10 ^ n := by
  have hpower : (2 ^ t) ^ 28 ≤ (10 ^ n) ^ 28 := by
    calc (2 ^ t) ^ 28 = 2 ^ (28 * t) := by rw [← pow_mul, Nat.mul_comm]
      _ ≤ 2 ^ (93 * n) := Nat.pow_le_pow_right two_pos h
      _ = (2 ^ 93) ^ n := pow_mul ..
      _ ≤ (10 ^ 28) ^ n := Nat.pow_le_pow_left (by norm_num) n
      _ = (10 ^ n) ^ 28 := by rw [← pow_mul, ← pow_mul, Nat.mul_comm]
  exact (Nat.pow_le_pow_iff_left (by norm_num)).mp hpower

/-- A power of ten is below a power of two, by `10 ^ 3 ≤ 2 ^ 10` and `2 ^ 93 ≤ 10 ^ 28`. -/
theorem ten_zpow_le_two_zpow {k j : ℤ} (hneg : 93 * k ≤ 28 * j) (hpos : 10 * k ≤ 3 * j) :
    (10 : ℚ) ^ k ≤ 2 ^ j := by
  rcases le_total 0 k with hk | hk
  · obtain ⟨n, rfl⟩ := Int.eq_ofNat_of_zero_le hk
    obtain ⟨t, rfl⟩ := Int.eq_ofNat_of_zero_le (by omega : 0 ≤ j)
    have hle : 10 ^ n ≤ 2 ^ t := ten_pow_le_two_pow (by omega)
    rw [zpow_natCast, zpow_natCast]
    exact_mod_cast hle
  · rcases le_total 0 j with hj | hj
    · exact (zpow_le_one_of_nonpos₀ (by norm_num) hk).trans (one_le_zpow₀ one_le_two hj)
    · obtain ⟨n, hn⟩ := Int.eq_ofNat_of_zero_le (by omega : 0 ≤ -k)
      obtain ⟨t, ht⟩ := Int.eq_ofNat_of_zero_le (by omega : 0 ≤ -j)
      obtain rfl : k = -(n : ℤ) := by omega
      obtain rfl : j = -(t : ℤ) := by omega
      have hle : 2 ^ t ≤ 10 ^ n := two_pow_le_ten_pow (by omega)
      rw [zpow_neg, zpow_neg, zpow_natCast, zpow_natCast,
        inv_le_inv₀ (by positivity) (by positivity)]
      exact_mod_cast hle
namespace Shortest

/-! ### The interval that is searched -/

section interval

variable {mantissa : ℕ} {exponent : ℤ}

theorem quarter_eq (exponent : ℤ) :
    ((if 0 ≤ exponent then Nat.pow 2 exponent.toNat else 1 : ℕ) : ℚ) /
      (if 0 ≤ exponent then 4 else 4 * Nat.pow 2 (-exponent).toNat : ℕ) = 2 ^ exponent / 4 := by
  split
  · rename_i he
    have hpow : (2 : ℚ) ^ exponent = (2 ^ exponent.toNat : ℕ) := zpow_of_nonneg 2 he
    rw [hpow]
    rfl
  · rename_i he
    have hpow : (2 : ℚ) ^ exponent = ((2 ^ (-exponent).toNat : ℕ) : ℚ)⁻¹ :=
      zpow_of_nonpos 2 (by omega)
    have hscale : ((4 * Nat.pow 2 (-exponent).toNat : ℕ) : ℚ) =
        4 * (2 ^ (-exponent).toNat : ℕ) := by exact_mod_cast rfl
    rw [hpow, hscale, Nat.cast_one]
    field_simp

theorem den_pos (mantissa : ℕ) (exponent : ℤ) : 0 < (interval mantissa exponent).den := by
  unfold interval
  dsimp only
  split
  · norm_num
  · exact Nat.mul_pos (by norm_num) (Nat.two_pow_pos _)

theorem value_eq : ((interval mantissa exponent).value : ℚ) / (interval mantissa exponent).den =
    mantissa * 2 ^ exponent := by
  simp only [interval]
  rw [Nat.cast_mul, mul_div_assoc, quarter_eq]
  push_cast
  ring

theorem high_eq : ((interval mantissa exponent).high : ℚ) / (interval mantissa exponent).den =
    (mantissa + 1 / 2) * 2 ^ exponent := by
  simp only [interval]
  rw [Nat.cast_mul, mul_div_assoc, quarter_eq]
  push_cast
  ring

theorem low_eq (hm : 0 < mantissa) :
    ((interval mantissa exponent).low : ℚ) / (interval mantissa exponent).den =
      (mantissa - reach mantissa exponent) * 2 ^ exponent := by
  simp only [interval]
  rw [Nat.cast_mul, mul_div_assoc, quarter_eq, reach]
  by_cases hpower : mantissa = 2 ^ 52 ∧ -1074 < exponent
  · rw [if_pos hpower, if_pos (show mantissa = Nat.pow 2 52 ∧ -1074 < exponent from hpower),
      Nat.cast_sub (by omega)]
    push_cast
    ring
  · rw [if_neg hpower, if_neg (show ¬ (mantissa = Nat.pow 2 52 ∧ -1074 < exponent) from hpower),
      Nat.cast_sub (by omega)]
    push_cast
    ring

/-- Comparisons of grid points with ends of the interval, as those of quotients. -/
theorem cross_le_iff {a b n unitNum unitDen : ℕ} (hb : 0 < b) (hu : 0 < unitDen) :
    (a * unitDen ≤ n * unitNum * b ↔ (a : ℚ) / b ≤ n * (unitNum / unitDen)) ∧
      (n * unitNum * b ≤ a * unitDen ↔ (n : ℚ) * (unitNum / unitDen) ≤ a / b) := by
  have hb' : (0 : ℚ) < b := by exact_mod_cast hb
  have hu' : (0 : ℚ) < unitDen := by exact_mod_cast hu
  rw [← mul_div_assoc, div_le_div_iff₀ hb' hu', div_le_div_iff₀ hu' hb']
  exact ⟨by exact_mod_cast Iff.rfl, by exact_mod_cast Iff.rfl⟩

/-- **The interval.**  A grid point lies in the interval that is searched when it rounds to the
double. -/
theorem holds_interval_iff (hm : 0 < mantissa) {n unitNum unitDen : ℕ} (hu : 0 < unitDen) :
    (interval mantissa exponent).holds n unitNum unitDen = true ↔
      RoundsTo mantissa exponent (n * (unitNum / unitDen)) := by
  have hden := den_pos mantissa exponent
  obtain ⟨hlow, hlow'⟩ :=
    @cross_le_iff (interval mantissa exponent).low _ n unitNum unitDen hden hu
  obtain ⟨hhigh, hhigh'⟩ :=
    @cross_le_iff (interval mantissa exponent).high _ n unitNum unitDen hden hu
  rw [low_eq hm] at hlow hlow'
  rw [high_eq] at hhigh hhigh'
  have hclosed : (interval mantissa exponent).closed = (mantissa % 2 == 0) := rfl
  unfold Interval.holds
  dsimp only
  rw [hclosed]
  by_cases heven : mantissa % 2 = 0
  · rw [if_pos (by simpa using heven), Bool.and_eq_true, decide_eq_true_iff, decide_eq_true_iff,
      hlow, hhigh']
    exact ⟨fun h => ⟨h.1, h.2, fun hodd => by omega⟩, fun h => ⟨h.low, h.high⟩⟩
  · rw [if_neg (by simpa using heven), Bool.and_eq_true, decide_eq_true_iff, decide_eq_true_iff,
      ← not_le, ← not_le, hlow', hhigh, not_le, not_le]
    exact ⟨fun h => ⟨h.1.le, h.2.le, fun _ => h⟩, fun h => h.odd (by omega)⟩

/-! ### One grid -/

theorem unit_eq (scale : ℤ) :
    ((if 0 ≤ scale then Nat.pow 10 scale.toNat else 1 : ℕ) : ℚ) /
      (if 0 ≤ scale then 1 else Nat.pow 10 (-scale).toNat : ℕ) = 10 ^ scale := by
  split
  · rename_i hs
    have hpow : (10 : ℚ) ^ scale = (10 ^ scale.toNat : ℕ) := zpow_of_nonneg 10 hs
    rw [hpow, Nat.cast_one, div_one]
    rfl
  · rename_i hs
    have hpow : (10 : ℚ) ^ scale = ((10 ^ (-scale).toNat : ℕ) : ℚ)⁻¹ :=
      zpow_of_nonpos 10 (by omega)
    rw [hpow, Nat.cast_one, one_div]
    rfl

theorem holds_of_onGrid {i : Interval} {n unitNum unitDen : ℕ}
    (hn : i.onGrid unitNum unitDen = some n) : i.holds n unitNum unitDen = true := by
  unfold Interval.onGrid at hn
  dsimp only at hn
  generalize i.value * unitDen / (i.den * unitNum) = floor at hn
  have hlower {m : ℕ} (hm : (if i.holds m unitNum unitDen = true then some m else none) = some n) :
      i.holds n unitNum unitDen = true := by
    split at hm
    · cases hm
      assumption
    · cases hm
  split at hn
  · rw [Option.orElse_eq_or, Option.or_eq_some_iff] at hn
    rcases hn with h | ⟨-, h⟩
    · exact hlower h
    · exact hlower h
  · rw [Option.orElse_eq_or, Option.or_eq_some_iff] at hn
    rcases hn with h | ⟨-, h⟩
    · exact hlower h
    · exact hlower h

/-- A grid whose unit is at most a quarter of the last place has a point in the interval. -/
theorem onGrid_isSome (hm : 0 < mantissa) {unitNum unitDen : ℕ} (hnum : 0 < unitNum)
    (hden : 0 < unitDen) (hfine : (unitNum : ℚ) / unitDen ≤ 2 ^ exponent / 4) :
    ((interval mantissa exponent).onGrid unitNum unitDen).isSome = true := by
  have hunit := two_zpow_pos exponent
  have hd := den_pos mantissa exponent
  unfold Interval.onGrid
  dsimp only
  generalize hfloor : (interval mantissa exponent).value * unitDen /
    ((interval mantissa exponent).den * unitNum) = floor
  -- The point below the value is no further from it than a quarter of the last place.
  have hbelow : (floor : ℚ) * (unitNum / unitDen) ≤ mantissa * 2 ^ exponent := by
    rw [← value_eq, ← (cross_le_iff hd hden).2, Nat.mul_assoc, Nat.mul_comm unitNum, ← hfloor]
    exact Nat.div_mul_le_self ..
  have habove : (mantissa : ℚ) * 2 ^ exponent < ((floor + 1 : ℕ) : ℚ) * (unitNum / unitDen) := by
    rw [← value_eq, ← not_le, ← (cross_le_iff hd hden).2, not_le, Nat.mul_assoc,
      Nat.mul_comm unitNum, ← hfloor]
    exact (Nat.div_lt_iff_lt_mul (Nat.mul_pos hd hnum)).mp (Nat.lt_succ_self _)
  have hreach : 1 / 4 ≤ reach mantissa exponent := by
    unfold reach
    split <;> norm_num
  have hholds : (interval mantissa exponent).holds floor unitNum unitDen = true := by
    rw [holds_interval_iff hm hden]
    push_cast at habove
    have hlow :
        (mantissa - reach mantissa exponent) * 2 ^ exponent < floor * (unitNum / unitDen) := by
      nlinarith
    have hhigh : (floor : ℚ) * (unitNum / unitDen) < (mantissa + 1 / 2) * 2 ^ exponent := by
      linarith
    exact ⟨hlow.le, hhigh.le, fun _ => ⟨hlow, hhigh⟩⟩
  rw [if_pos hholds]
  split
  · rfl
  · rw [Option.orElse_eq_or, Option.isSome_or, Option.isSome_some, Bool.or_true]

/-! ### The search -/

theorem unitNum_pos (scale : ℤ) : 0 < if 0 ≤ scale then Nat.pow 10 scale.toNat else 1 := by
  split
  · exact Nat.pow_pos (by norm_num)
  · exact one_pos

theorem unitDen_pos (scale : ℤ) : 0 < if 0 ≤ scale then 1 else Nat.pow 10 (-scale).toNat := by
  split
  · exact one_pos
  · exact Nat.pow_pos (by norm_num)

/-- What the search finds rounds to the double. -/
theorem roundsTo_of_search (hm : 0 < mantissa) {steps : ℕ} {scale : ℤ} {d : Decimal}
    (hd : search (interval mantissa exponent) steps scale = some d) :
    RoundsTo mantissa exponent d.value := by
  induction steps generalizing scale with
  | zero => cases hd
  | succ steps ih =>
      rw [search] at hd
      split at hd
      · rename_i n hn
        cases hd
        have hholds := (holds_interval_iff hm (unitDen_pos scale)).mp (holds_of_onGrid hn)
        rw [unit_eq] at hholds
        exact hholds
      · exact ih hd

/-- The search finds something if it gets to a grid that is fine enough. -/
theorem search_isSome (hm : 0 < mantissa) {steps : ℕ} {scale : ℤ}
    (hfine : (10 : ℚ) ^ (scale - steps) ≤ 2 ^ exponent / 4) :
    (search (interval mantissa exponent) (steps + 1) scale).isSome = true := by
  induction steps generalizing scale with
  | zero =>
      rw [Nat.cast_zero, sub_zero, ← unit_eq] at hfine
      have hgrid := onGrid_isSome hm (unitNum_pos scale) (unitDen_pos scale) hfine
      obtain ⟨n, hn⟩ := Option.isSome_iff_exists.mp hgrid
      rw [search, hn]
      rfl
  | succ steps ih =>
      rw [search]
      split
      · rfl
      · refine ih ?_
        rw [sub_sub, add_comm (1 : ℤ)]
        exact_mod_cast hfine

theorem strip_spec (steps : ℕ) (d : Decimal) :
    (strip steps d).value = d.value ∧ (0 < d.digits → 0 < (strip steps d).digits) := by
  induction steps generalizing d with
  | zero => exact ⟨rfl, id⟩
  | succ steps ih =>
      rw [strip]
      split
      · rename_i hzero
        obtain ⟨hvalue, hdigits⟩ := ih ⟨d.digits / 10, d.scale + 1⟩
        have hten : d.digits = d.digits / 10 * 10 := by omega
        refine ⟨?_, fun hpos => hdigits (show 0 < d.digits / 10 by omega)⟩
        rw [hvalue, Decimal.value, Decimal.value, zpow_add_one₀ (by norm_num)]
        conv_rhs => rw [hten]
        push_cast
        ring
      · exact ⟨rfl, id⟩

theorem topScale_fine (hm : IsDouble mantissa exponent) :
    (10 : ℚ) ^ (topScale (mantissa.log2 + exponent) - (24 : ℕ)) ≤ 2 ^ exponent / 4 := by
  have hge := hm.ge
  have hle := hm.le
  have hlog : mantissa.log2 < 53 := (Nat.log2_lt hm.pos.ne').mpr hm.lt
  have hquarter : (2 : ℚ) ^ exponent / 4 = 2 ^ (exponent - 2) := by
    rw [zpow_sub₀ two_ne_zero]
    norm_num
  rw [hquarter]
  unfold topScale
  exact ten_zpow_le_two_zpow (by push_cast; omega) (by push_cast; omega)

/-- **What is found.**  The decimal for a double rounds to it and has digits. -/
theorem find_roundsTo (hm : IsDouble mantissa exponent) :
    RoundsTo mantissa exponent (find mantissa exponent).value ∧
      0 < (find mantissa exponent).digits := by
  have hfound := search_isSome hm.pos (topScale_fine hm)
  obtain ⟨d, hd⟩ := Option.isSome_iff_exists.mp hfound
  have hround := roundsTo_of_search hm.pos hd
  have hdigits : 0 < d.digits := by
    by_contra hzero
    have hpos := hround.pos hm
    rw [Decimal.value, Nat.eq_zero_of_not_pos hzero, Nat.cast_zero, zero_mul] at hpos
    exact lt_irrefl _ hpos
  obtain ⟨hvalue, hstrip⟩ := strip_spec 25 d
  unfold find
  dsimp only
  rw [hd]
  dsimp only
  rw [hvalue]
  exact ⟨hround, hstrip hdigits⟩

end interval
end Shortest
end DefaultCredentials.Number
