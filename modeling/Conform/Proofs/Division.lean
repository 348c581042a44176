import Conform.Keyword
import Conform.Proofs.Trace
import Mathlib.Data.Rat.Lemmas

set_option autoImplicit false

namespace Conform

namespace Binary64

theorem nearest_positive (num den : Nat) (positive : 0 < den) (least : den ≤ num) : 0 < nearest num den := by
  have low : 0 < num / den := Nat.div_pos least positive
  unfold nearest
  dsimp only
  split
  · exact low
  · split
    · omega
    · split <;> omega

theorem leading_exponent_bound (num : Nat) : leadingExponent num 1 ≤ num.log2 := by
  have one : Nat.log2 1 = 0 := by decide
  unfold leadingExponent
  rw [one]
  dsimp only
  split <;> omega

theorem power_bound (num : Nat) (exponent : Int) (some : num ≠ 0) (low : exponent ≤ num.log2) :
    power 2 exponent ≤ num * power 2 (-exponent) := by
  have fewer : exponent.toNat ≤ num.log2 := by omega
  calc power 2 exponent ≤ 2 ^ num.log2 := Nat.pow_le_pow_right (by decide) fewer
    _ ≤ num := Nat.log2_self_le some
    _ ≤ num * power 2 (-exponent) := Nat.le_mul_of_pos_right num (Nat.pow_pos (by decide))

theorem magnitude_not_zero (significand : Nat) (exponent : Int) (positive : 0 < significand) :
    magnitude significand exponent ≠ 0 := by
  have above : power 2 exponent ≠ 0 := Nat.pos_iff_ne_zero.mp (Nat.pow_pos (by decide))
  have below : power 2 (-exponent) ≠ 0 := Nat.pos_iff_ne_zero.mp (Nat.pow_pos (by decide))
  unfold magnitude
  rw [Rat.mkRat_ne_zero below]
  exact_mod_cast Nat.mul_ne_zero (Nat.pos_iff_ne_zero.mp positive) above

theorem finite_not_zero (negative : Bool) (significand : Nat) (exponent : Int) (positive : 0 < significand) :
    (finite negative significand exponent).isZero = false := by
  have some := magnitude_not_zero significand exponent positive
  cases negative <;> simp [isZero, toRat?, some]

theorem of_int_not_zero (n : Int) (some : n ≠ 0) : (ofInt n).isZero = false := by
  have whole : n.natAbs ≠ 0 := Int.natAbs_ne_zero.mpr some
  have least := power_bound n.natAbs (max (leadingExponent n.natAbs 1 - 52) (-1074)) whole (by
    have bound := leading_exponent_bound n.natAbs
    omega)
  have significand := nearest_positive _ _ (Nat.pow_pos (by decide)) least
  unfold ofInt ofRatio
  rw [if_neg whole]
  simp only [Nat.one_mul]
  split
  · split
    · exact finite_not_zero _ _ _ significand
    · rfl
  · split
    · exact finite_not_zero _ _ _ (Nat.pow_pos (by decide))
    · rfl

end Binary64

namespace Keyword

theorem zero_is_bad (y : Binary64) (zero : y.isZero = true) : isBadDivisor (.binary y) = true := by
  have value : y.toRat? = some 0 := by simpa [Binary64.isZero] using zero
  cases y with
  | nan => cases value
  | infinite negative => cases value
  | finite negative significand exponent =>
      simp [isBadDivisor, Number.equal, Number.point?, value]

theorem divisor_not_zero (divisor : Number) (good : isBadDivisor divisor = false) (y : Binary64)
    (rounded : divisor.toBinary? = some y) : y.isZero = false := by
  cases divisor with
  | integer n =>
      have some : n ≠ 0 := by
        rintro rfl
        cases good
      have same : Binary64.ofInt n = y := by
        cases whole : Binary64.ofInt n with
        | infinite negative => simp [Number.toBinary?, whole] at rounded
        | nan => simpa [Number.toBinary?, whole] using rounded
        | finite negative significand exponent => simpa [Number.toBinary?, whole] using rounded
      rw [← same]
      exact Binary64.of_int_not_zero n some
  | binary x =>
      obtain rfl : x = y := Option.some.inj rounded
      by_contra zero
      rw [zero_is_bad x (by simpa using zero)] at good
      cases good

theorem quotient_exists (value divisor : Number) (good : isBadDivisor divisor = false) :
    ∃ answer, value.isMultipleOf divisor = .ok answer := by
  unfold Number.isMultipleOf
  split
  · next n m =>
      have some : m ≠ 0 := by
        rintro rfl
        cases good
      exact ⟨_, if_neg some⟩
  · split
    · next x y _ below => exact ⟨_, if_neg (by simp [divisor_not_zero divisor good y below])⟩
    · exact ⟨false, rfl⟩

end Keyword

end Conform
