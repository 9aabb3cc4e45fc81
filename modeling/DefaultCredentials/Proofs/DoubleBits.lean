import DefaultCredentials.Proofs.NearestDouble
import Mathlib

/-!
# A double and its bits

A double is told by its bits, and of the bits that stand for no number only one row is in use.

* `ofSignedBits_eq`: a double is the one of its sign and of its other bits.
* `ofSignedBits_finite`, `infinity_eq` and `nan_eq`: what `parts` reads from the bits leads back to
  the double, and `isDouble_of_finite` says within which bounds mantissa and exponent are.
-/

namespace DefaultCredentials.Number

open Float.Model Float.Model.UnpackedFloat

/-- A double is the one of its sign and of its other bits. -/
theorem ofSignedBits_eq (x : Float) :
    ofSignedBits (x.toBits.toNat / 2 ^ 63 % 2 == 1) (x.toBits.toNat % 2 ^ 63) = x := by
  have hlt : x.toBits.toNat < 2 ^ 64 := x.toBits.toNat_lt
  have hbits : (if (x.toBits.toNat / 2 ^ 63 % 2 == 1) = true then
      Nat.pow 2 63 + x.toBits.toNat % 2 ^ 63 else x.toBits.toNat % 2 ^ 63) = x.toBits.toNat := by
    have hpow : Nat.pow 2 63 = 2 ^ 63 := rfl
    rw [hpow]
    by_cases hsign : x.toBits.toNat / 2 ^ 63 % 2 = 1
    · rw [if_pos (beq_iff_eq.mpr hsign)]
      omega
    · rw [if_neg (mt beq_iff_eq.mp hsign)]
      omega
  rw [ofSignedBits, hbits, UInt64.ofNat_toNat, Float.ofBits_toBits]

theorem bits_of_finite {x : Float} {negative : Bool} {mantissa : ℕ} {exponent : ℤ}
    (hx : parts x = .finite negative mantissa exponent) :
    negative = (x.toBits.toNat / 2 ^ 63 % 2 == 1) ∧
      ((x.toBits.toNat / 2 ^ 52 % 2048 = 0 ∧ mantissa = x.toBits.toNat % 2 ^ 52 ∧
          exponent = -1074) ∨
        (0 < x.toBits.toNat / 2 ^ 52 % 2048 ∧ x.toBits.toNat / 2 ^ 52 % 2048 < 2047 ∧
          mantissa = 2 ^ 52 + x.toBits.toNat % 2 ^ 52 ∧
          exponent = (x.toBits.toNat / 2 ^ 52 % 2048 : ℕ) - 1075)) := by
  simp only [parts, Parts.ofBits, Nat.pow_eq, beq_iff_eq] at hx
  split at hx
  · split at hx <;> cases hx
  · split at hx
    · rename_i hbiased hzero
      cases hx
      exact ⟨rfl, .inl ⟨hzero, rfl, rfl⟩⟩
    · rename_i hbiased hzero
      cases hx
      exact ⟨rfl, .inr ⟨by omega, by omega, rfl, rfl⟩⟩

/-- The mantissa of a finite double, without its leading bit, follows the exponent in the bits. -/
theorem ofSignedBits_finite {x : Float} {negative : Bool} {mantissa : ℕ} {exponent : ℤ}
    (hx : parts x = .finite negative mantissa exponent) :
    ofSignedBits negative ((exponent + 1074).toNat * 2 ^ 52 + mantissa) = x := by
  obtain ⟨rfl, hcases⟩ := bits_of_finite hx
  have hbits : (exponent + 1074).toNat * 2 ^ 52 + mantissa = x.toBits.toNat % 2 ^ 63 := by
    rcases hcases with ⟨hbiased, rfl, rfl⟩ | ⟨hpos, hlt, rfl, rfl⟩ <;> omega
  rw [hbits, ofSignedBits_eq]

theorem isDouble_of_finite {x : Float} {negative : Bool} {mantissa : ℕ} {exponent : ℤ}
    (hx : parts x = .finite negative mantissa exponent) (hm : mantissa ≠ 0) :
    IsDouble mantissa exponent := by
  obtain ⟨-, ⟨hbiased, rfl, rfl⟩ | ⟨hpos, hlt, rfl, rfl⟩⟩ := bits_of_finite hx
  · exact ⟨by omega, by omega, le_rfl, by norm_num, fun h => absurd h (lt_irrefl _)⟩
  · exact ⟨by omega, by omega, by omega, by omega, fun _ => by omega⟩

theorem infinity_eq {x : Float} {negative : Bool} (hx : parts x = .infinite negative) :
    infinity negative = x := by
  simp only [parts, Parts.ofBits, Nat.pow_eq, beq_iff_eq] at hx
  split at hx
  · rename_i hbiased
    split at hx
    · rename_i hzero
      cases hx
      have hbits : infinityBits = x.toBits.toNat % 2 ^ 63 := by
        have hinfinity : infinityBits = 2047 * 2 ^ 52 := rfl
        omega
      rw [infinity, hbits, ofSignedBits_eq]
    · cases hx
  · split at hx <;> cases hx

/-- The bits of a double, as a vector. -/
abbrev Bits := BitVec Format.binary64.numBits

theorem toNat_unpackMantissa (b : Bits) : (unpackMantissa b).toNat = b.toNat % 2 ^ 52 := by
  simp [unpackMantissa]

theorem toNat_unpackExponent (b : Bits) : (unpackExponent b).toNat = b.toNat / 2 ^ 52 % 2048 := by
  simp [unpackExponent, Nat.shiftRight_eq_div_pow]

/-- There is one double that is no number. -/
theorem nan_eq {x : Float} (hx : parts x = .notANumber) : nan = x := by
  simp only [parts, Parts.ofBits, Nat.pow_eq, beq_iff_eq] at hx
  split at hx
  · rename_i hbiased
    split at hx
    · cases hx
    · rename_i hfraction
      have hexponent : @unpackExponent Format.binary64 x.toBits.toBitVec = -1#_ := by
        apply BitVec.eq_of_toNat_eq
        rw [toNat_unpackExponent]
        exact hbiased
      have hmantissa : @unpackMantissa Format.binary64 x.toBits.toBitVec ≠ 0#_ := by
        intro hzero
        have hnat := congrArg BitVec.toNat hzero
        rw [toNat_unpackMantissa] at hnat
        exact hfraction hnat
      have hbits : x.toBits = 0x7FF8000000000000 := by
        have hvalid := x.toModel.valid.eq_packedNaN hexponent hmantissa
        exact UInt64.toBitVec_inj.mp hvalid
      rw [← Float.ofBits_toBits x, hbits, nan]
  · split at hx <;> cases hx

end DefaultCredentials.Number
