import Conform.Number.Basic
import Mathlib.Algebra.Order.Field.Power
import Mathlib.Algebra.Order.Ring.Unbundled.Rat
import Mathlib.Data.Rat.Cast.Order
import Mathlib.Tactic.FieldSimp
import Mathlib.Tactic.GCongr
import Mathlib.Tactic.Linarith
import Mathlib.Tactic.NormNum
import Mathlib.Tactic.Positivity
import Mathlib.Tactic.Ring

set_option autoImplicit false

namespace Conform.Binary64

def largest : ℚ :=
  (2 ^ 53 - 1) * 2 ^ (971 : ℤ)

theorem power_quotient (exponent : Int) : (power 2 exponent : ℚ) / power 2 (-exponent) = 2 ^ exponent := by
  have cast : ∀ n : ℕ, ((Nat.pow 2 n : ℕ) : ℚ) = 2 ^ (n : ℤ) := by
    intro n
    rw [zpow_natCast]
    exact Nat.cast_pow 2 n
  rw [power, power, cast, cast, ← zpow_sub₀ two_ne_zero]
  congr 1
  omega

theorem magnitude_eq (significand : Nat) (exponent : Int) : magnitude significand exponent = significand * 2 ^ exponent := by
  rw [magnitude, Rat.mkRat_eq_div, ← power_quotient, ← mul_div_assoc]
  push_cast
  rfl

section Nearest

theorem nearest_bounds (num : Nat) {den : Nat} (positive : 0 < den) :
    2 * num ≤ 2 * (nearest num den * den) + den ∧ 2 * (nearest num den * den) ≤ 2 * num + den := by
  have whole : num / den * den + num % den = num := by
    rw [Nat.mul_comm]
    exact Nat.div_add_mod num den
  have next : (num / den + 1) * den = num / den * den + den := Nat.succ_mul _ _
  have small := Nat.mod_lt num positive
  unfold nearest
  dsimp only
  split
  · omega
  · split
    · rw [next]
      omega
    · split
      · omega
      · rw [next]
        omega

theorem nearest_error (num : Nat) {den : Nat} (positive : 0 < den) : |(nearest num den : ℚ) - num / den| ≤ 1 / 2 := by
  obtain ⟨low, high⟩ := nearest_bounds num positive
  have some : (0 : ℚ) < den := Nat.cast_pos.mpr positive
  have below : (2 * num : ℚ) ≤ 2 * (nearest num den * den) + den := by exact_mod_cast low
  have above : (2 * (nearest num den * den) : ℚ) ≤ 2 * num + den := by exact_mod_cast high
  have split : (nearest num den : ℚ) - num / den = (nearest num den * den - num) / den := by field_simp
  rw [split, abs_le]
  constructor
  · rw [le_div_iff₀ some]
    linarith
  · rw [div_le_iff₀ some]
    linarith

theorem whole_closest {x : ℚ} {near : ℤ} (half : |(near : ℚ) - x| ≤ 1 / 2) (other : ℤ) :
    |(near : ℚ) - x| ≤ |(other : ℚ) - x| := by
  by_cases same : other = near
  · rw [same]
  · have apart : (1 : ℚ) ≤ |(other : ℚ) - near| := by exact_mod_cast Int.one_le_abs (sub_ne_zero.mpr same)
    have around : |(other : ℚ) - near| ≤ |(other : ℚ) - x| + |(near : ℚ) - x| := by
      rw [abs_sub_comm (near : ℚ) x]
      exact abs_sub_le _ _ _
    linarith

theorem nearest_int_error (x : ℚ) : |(nearestInt x : ℚ) - x| ≤ 1 / 2 := by
  have error := nearest_error x.num.natAbs x.den_pos
  have whole := Rat.num_div_den x
  unfold nearestInt
  split
  · next negative =>
      have size : ((x.num.natAbs : ℕ) : ℚ) = -x.num := by
        rw [Nat.cast_natAbs, abs_of_neg negative]
        exact Int.cast_neg _
      rw [size, neg_div, whole] at error
      rw [abs_sub_comm] at error
      push_cast
      rw [show (-(nearest x.num.natAbs x.den : ℚ) - x) = -x - nearest x.num.natAbs x.den by ring]
      exact error
  · next positive =>
      have size : ((x.num.natAbs : ℕ) : ℚ) = x.num := by
        rw [Nat.cast_natAbs, abs_of_nonneg (not_lt.mp positive)]
      rw [size, whole] at error
      exact_mod_cast error

end Nearest

theorem leading_exponent_spec {num den : Nat} (some : 0 < num) (positive : 0 < den) :
    (2 : ℚ) ^ leadingExponent num den ≤ num / den ∧ (num : ℚ) / den < 2 ^ (leadingExponent num den + 1) := by
  have above : (0 : ℚ) < den := Nat.cast_pos.mpr positive
  have compare : ∀ e : ℤ, den * power 2 e ≤ num * power 2 (-e) ↔ (2 : ℚ) ^ e ≤ num / den := by
    intro e
    have below : (0 : ℚ) < power 2 (-e) := by exact_mod_cast Nat.pow_pos (by decide : 0 < 2)
    rw [← power_quotient, div_le_div_iff₀ below above, ← Nat.cast_mul, ← Nat.cast_mul, Nat.cast_le, Nat.mul_comm]
  have numLow : (2 : ℚ) ^ (num.log2 : ℤ) ≤ num := by
    rw [zpow_natCast]
    exact_mod_cast Nat.log2_self_le some.ne'
  have numHigh : (num : ℚ) < 2 ^ ((num.log2 : ℤ) + 1) := by
    rw [← Nat.cast_succ, zpow_natCast]
    exact_mod_cast Nat.lt_log2_self
  have denLow : (2 : ℚ) ^ (den.log2 : ℤ) ≤ den := by
    rw [zpow_natCast]
    exact_mod_cast Nat.log2_self_le positive.ne'
  have denHigh : (den : ℚ) < 2 ^ ((den.log2 : ℤ) + 1) := by
    rw [← Nat.cast_succ, zpow_natCast]
    exact_mod_cast Nat.lt_log2_self
  have low : (2 : ℚ) ^ ((num.log2 : ℤ) - den.log2 - 1) ≤ num / den := by
    rw [le_div_iff₀ above]
    calc (2 : ℚ) ^ ((num.log2 : ℤ) - den.log2 - 1) * den
        ≤ 2 ^ ((num.log2 : ℤ) - den.log2 - 1) * 2 ^ ((den.log2 : ℤ) + 1) := by gcongr
      _ = 2 ^ (num.log2 : ℤ) := by rw [← zpow_add₀ two_ne_zero]; congr 1; ring
      _ ≤ num := numLow
  have high : (num : ℚ) / den < 2 ^ ((num.log2 : ℤ) - den.log2 + 1) := by
    rw [div_lt_iff₀ above]
    calc (num : ℚ) < 2 ^ ((num.log2 : ℤ) + 1) := numHigh
      _ = 2 ^ ((num.log2 : ℤ) - den.log2 + 1) * 2 ^ (den.log2 : ℤ) := by
        rw [← zpow_add₀ two_ne_zero]; congr 1; ring
      _ ≤ 2 ^ ((num.log2 : ℤ) - den.log2 + 1) * den := by gcongr
  unfold leadingExponent
  dsimp only
  by_cases reached : den * power 2 ((num.log2 : ℤ) - den.log2) ≤ num * power 2 (-((num.log2 : ℤ) - den.log2))
  · rw [if_pos reached]
    exact ⟨(compare _).mp reached, high⟩
  · rw [if_neg reached, sub_add_cancel]
    exact ⟨low, not_le.mp (mt (compare _).mpr reached)⟩

-- A multiple of a unit that is as close as multiples of the unit come. The unit is the least for which the multiple fits
-- into the digits of the format, but not less than the least number of the format.
structure Approximates (x : ℚ) (significand : Nat) (exponent : Int) : Prop where
  least : -1074 ≤ exponent
  near : |(significand : ℚ) - x / 2 ^ exponent| ≤ 1 / 2
  room : x < 2 ^ (exponent + 53)
  full : exponent = -1074 ∨ (2 : ℚ) ^ (exponent + 52) ≤ x

section Approximates

variable {x : ℚ} {significand : Nat} {exponent : Int}

theorem approximates_distance (approximates : Approximates x significand exponent) :
    |significand * 2 ^ exponent - x| ≤ 2 ^ exponent / 2 := by
  have unit : (0 : ℚ) < 2 ^ exponent := zpow_pos two_pos exponent
  have scaled : significand * 2 ^ exponent - x = (significand - x / 2 ^ exponent) * 2 ^ exponent := by field_simp
  rw [scaled, abs_mul, abs_of_pos unit]
  calc |(significand : ℚ) - x / 2 ^ exponent| * 2 ^ exponent ≤ 1 / 2 * 2 ^ exponent := by
        gcongr
        exact approximates.near
    _ = 2 ^ exponent / 2 := by ring

theorem approximates_error (positive : 0 ≤ x) (approximates : Approximates x significand exponent) :
    |significand * 2 ^ exponent - x| ≤ 2 ^ (-53 : ℤ) * x + 2 ^ (-1075 : ℤ) := by
  have half : ∀ e : ℤ, (2 : ℚ) ^ e / 2 = 2 ^ (e - 1) := fun e => (zpow_sub_one₀ two_ne_zero e).symm
  have distance := approximates_distance approximates
  rw [half] at distance
  rcases approximates.full with least | full
  · have relative : (0 : ℚ) ≤ 2 ^ (-53 : ℤ) * x := by positivity
    rw [least] at distance ⊢
    exact distance.trans (le_add_of_nonneg_left relative)
  · have relative : (2 : ℚ) ^ (exponent - 1) ≤ 2 ^ (-53 : ℤ) * x := by
      calc (2 : ℚ) ^ (exponent - 1) = 2 ^ (-53 : ℤ) * 2 ^ (exponent + 52) := by
            rw [← zpow_add₀ two_ne_zero]; congr 1; ring
        _ ≤ 2 ^ (-53 : ℤ) * x := by gcongr
    have absolute : (0 : ℚ) < 2 ^ (-1075 : ℤ) := by positivity
    linarith

theorem approximates_below (approximates : Approximates x significand exponent) {multiple : Int}
    (bound : x ≤ multiple * 2 ^ exponent) : (significand : ℚ) * 2 ^ exponent ≤ multiple * 2 ^ exponent := by
  have unit : (0 : ℚ) < 2 ^ exponent := zpow_pos two_pos exponent
  have quotient : x / 2 ^ exponent ≤ multiple := (div_le_iff₀ unit).mpr bound
  have near := (abs_le.mp approximates.near).2
  have below : (significand : ℚ) < (multiple + 1 : ℤ) := by
    push_cast
    linarith
  have whole : (significand : ℤ) ≤ multiple := Int.lt_add_one_iff.mp (by exact_mod_cast below)
  gcongr
  exact_mod_cast whole

theorem largest_multiple (small : exponent ≤ 971) : ∃ multiple : Int, (largest : ℚ) = multiple * 2 ^ exponent := by
  refine ⟨(2 ^ 53 - 1) * 2 ^ (971 - exponent).toNat, ?_⟩
  have power : (2 : ℚ) ^ (971 - exponent).toNat = 2 ^ (971 - exponent) := by
    rw [← zpow_natCast, Int.toNat_of_nonneg (by omega)]
  push_cast
  rw [power, mul_assoc, ← zpow_add₀ two_ne_zero, sub_add_cancel, largest]
  congr 1
  norm_num

theorem largest_below : largest < 2 ^ (1024 : ℤ) := by
  have split : (2 : ℚ) ^ (1024 : ℤ) = 2 ^ 53 * 2 ^ (971 : ℤ) := by
    rw [← zpow_natCast, ← zpow_add₀ two_ne_zero]
    norm_num
  rw [largest, split]
  gcongr
  norm_num

theorem approximates_finite (approximates : Approximates x significand exponent) (small : x ≤ largest) :
    significand * 2 ^ exponent ≤ largest := by
  by_cases bounded : exponent ≤ 971
  · obtain ⟨multiple, same⟩ := largest_multiple bounded
    rw [same] at small ⊢
    exact approximates_below approximates small
  · rcases approximates.full with least | full
    · omega
    · have beyond : (2 : ℚ) ^ (1024 : ℤ) ≤ 2 ^ (exponent + 52) := zpow_le_zpow_right₀ one_le_two (by omega)
      exact absurd (full.trans small) (not_le.mpr (largest_below.trans_le beyond))

theorem approximates_exact (approximates : Approximates x significand exponent) {digits : Nat} {place : Int}
    (short : digits < 2 ^ 53) (least : -1074 ≤ place) (same : x = digits * 2 ^ place) : significand * 2 ^ exponent = x := by
  have finer : exponent ≤ place := by
    rcases approximates.full with bottom | full
    · omega
    · have above : x < 2 ^ (place + 53) := by
        rw [same, zpow_add₀ two_ne_zero, mul_comm]
        gcongr
        exact_mod_cast short
      have powers := (zpow_lt_zpow_iff_right₀ one_lt_two).mp (full.trans_lt above)
      omega
  have whole : x = ((digits * 2 ^ (place - exponent).toNat : ℤ) : ℚ) * 2 ^ exponent := by
    have power : (2 : ℚ) ^ (place - exponent).toNat = 2 ^ (place - exponent) := by
      rw [← zpow_natCast, Int.toNat_of_nonneg (by omega)]
    push_cast
    rw [power, mul_assoc, ← zpow_add₀ two_ne_zero, sub_add_cancel, same]
  have unit : (0 : ℚ) < 2 ^ exponent := zpow_pos two_pos exponent
  have near : |((significand : ℤ) : ℚ) - x / 2 ^ exponent| ≤ 1 / 2 := by exact_mod_cast approximates.near
  have closest := whole_closest near (digits * 2 ^ (place - exponent).toNat)
  rw [whole, mul_div_cancel_right₀ _ unit.ne', sub_self, abs_zero] at closest
  rw [whole]
  congr 1
  exact_mod_cast sub_eq_zero.mp (abs_eq_zero.mp (le_antisymm closest (abs_nonneg _)))

end Approximates

theorem carried_value {significand : Nat} {exponent : Int} (fits : significand ≤ 2 ^ 53)
    (full : exponent ≤ 971 ∨ 2 ^ 52 ≤ significand) :
    (if significand < power 2 53 then
      if exponent ≤ 971 then finite false significand exponent else infinite false
    else if exponent + 1 ≤ 971 then finite false (power 2 52) (exponent + 1)
    else infinite false).toRat? =
      if (significand : ℚ) * 2 ^ exponent ≤ largest then some ((significand : ℚ) * 2 ^ exponent) else none := by
  have width : power 2 53 = 2 ^ 53 := rfl
  have half : power 2 52 = 2 ^ 52 := rfl
  rw [width, half]
  by_cases small : significand < 2 ^ 53
  · rw [if_pos small]
    by_cases bounded : exponent ≤ 971
    · have digits : (significand : ℚ) ≤ 2 ^ 53 - 1 := by
        have cast : ((significand + 1 : ℕ) : ℚ) ≤ (2 ^ 53 : ℕ) := Nat.cast_le.mpr small
        push_cast at cast
        linarith
      have inside : (significand : ℚ) * 2 ^ exponent ≤ largest := by
        have unit : (2 : ℚ) ^ exponent ≤ 2 ^ (971 : ℤ) := zpow_le_zpow_right₀ one_le_two bounded
        exact mul_le_mul digits unit (by positivity) (by norm_num)
      rw [if_pos bounded, if_pos inside, toRat?, magnitude_eq]
    · have digits : (2 : ℚ) ^ (52 : ℤ) ≤ significand := by
        rw [zpow_ofNat]
        exact_mod_cast full.resolve_left bounded
      have outside : ¬ (significand : ℚ) * 2 ^ exponent ≤ largest := by
        have unit : (2 : ℚ) ^ (972 : ℤ) ≤ 2 ^ exponent := zpow_le_zpow_right₀ one_le_two (by omega)
        refine not_le.mpr (largest_below.trans_le ?_)
        calc (2 : ℚ) ^ (1024 : ℤ) = 2 ^ (52 : ℤ) * 2 ^ (972 : ℤ) := by rw [← zpow_add₀ two_ne_zero]; rfl
          _ ≤ significand * 2 ^ exponent := mul_le_mul digits unit (by positivity) (by positivity)
      rw [if_neg bounded, if_neg outside]
      rfl
  · obtain rfl : significand = 2 ^ 53 := by omega
    have carried : ((2 ^ 53 : ℕ) : ℚ) * 2 ^ exponent = 2 ^ (exponent + 53) := by
      rw [zpow_add₀ two_ne_zero, mul_comm]
      norm_num
    rw [if_neg small, carried]
    by_cases bounded : exponent + 1 ≤ 971
    · have inside : (2 : ℚ) ^ (exponent + 53) ≤ largest := by
        calc (2 : ℚ) ^ (exponent + 53) ≤ 2 ^ (1023 : ℤ) := zpow_le_zpow_right₀ one_le_two (by omega)
          _ = 2 ^ (52 : ℤ) * 2 ^ (971 : ℤ) := by rw [← zpow_add₀ two_ne_zero]; rfl
          _ ≤ largest := by
            rw [largest]
            gcongr
            norm_num
      have next : magnitude (2 ^ 52) (exponent + 1) = 2 ^ (exponent + 53) := by
        have digits : ((2 ^ 52 : ℕ) : ℚ) = 2 ^ (52 : ℤ) := by norm_num
        rw [magnitude_eq, digits, ← zpow_add₀ two_ne_zero]
        congr 1
        ring
      rw [if_pos bounded, if_pos inside, toRat?, next]
    · have outside : ¬ (2 : ℚ) ^ (exponent + 53) ≤ largest := by
        have beyond : (2 : ℚ) ^ (1024 : ℤ) ≤ 2 ^ (exponent + 53) := zpow_le_zpow_right₀ one_le_two (by omega)
        exact not_le.mpr (largest_below.trans_le beyond)
      rw [if_neg bounded, if_neg outside]
      rfl

theorem of_ratio_value {num den : Nat} (some : 0 < num) (positive : 0 < den) :
    ∃ significand exponent, Approximates (num / den : ℚ) significand exponent ∧ (ofRatio false num den).toRat? =
      if (significand : ℚ) * 2 ^ exponent ≤ largest then Option.some ((significand : ℚ) * 2 ^ exponent) else none := by
  obtain ⟨low, high⟩ := leading_exponent_spec some positive
  let exponent := max (leadingExponent num den - 52) (-1074)
  let significand := nearest (num * power 2 (-exponent)) (den * power 2 exponent)
  have unit : (0 : ℚ) < 2 ^ exponent := zpow_pos two_pos exponent
  have below : 0 < den * power 2 exponent := Nat.mul_pos positive (Nat.pow_pos (by decide))
  have room : (num : ℚ) / den < 2 ^ (exponent + 53) :=
    high.trans_le (zpow_le_zpow_right₀ one_le_two (by omega))
  have full : exponent = -1074 ∨ (2 : ℚ) ^ (exponent + 52) ≤ num / den := by
    by_cases bottom : exponent = -1074
    · exact .inl bottom
    · have lead : exponent + 52 = leadingExponent num den := by omega
      exact .inr (lead ▸ low)
  have scaled : ((num * power 2 (-exponent) : ℕ) : ℚ) / (den * power 2 exponent : ℕ) = num / den / 2 ^ exponent := by
    rw [← power_quotient]
    push_cast
    field_simp
  have near : |(significand : ℚ) - num / den / 2 ^ exponent| ≤ 1 / 2 := by
    rw [← scaled]
    exact nearest_error _ below
  have approximates : Approximates (num / den : ℚ) significand exponent := ⟨le_max_right _ _, near, room, full⟩
  refine ⟨significand, exponent, approximates, ?_⟩
  have bounds := abs_le.mp near
  have fits : significand ≤ 2 ^ 53 := by
    have scaledRoom : (num : ℚ) / den / 2 ^ exponent < 2 ^ 53 := by
      rw [div_lt_iff₀ unit, ← zpow_natCast, ← zpow_add₀ two_ne_zero, add_comm]
      exact room
    have below : (significand : ℚ) < (2 ^ 53 + 1 : ℕ) := by
      push_cast
      linarith
    exact Nat.lt_succ_iff.mp (Nat.cast_lt.mp below)
  have digits : exponent ≤ 971 ∨ 2 ^ 52 ≤ significand := by
    by_cases bounded : exponent ≤ 971
    · exact .inl bounded
    · have lead := full.resolve_left (by omega)
      have scaledLead : (2 : ℚ) ^ 52 ≤ (num : ℚ) / den / 2 ^ exponent := by
        rw [le_div_iff₀ unit, ← zpow_natCast, ← zpow_add₀ two_ne_zero, add_comm]
        exact lead
      have above : ((2 ^ 52 : ℕ) : ℚ) < (significand + 1 : ℕ) := by
        push_cast
        linarith
      exact .inr (Nat.lt_succ_iff.mp (Nat.cast_lt.mp above))
  unfold ofRatio
  rw [if_neg some.ne']
  exact carried_value fits digits

theorem of_ratio_negative (num den : Nat) : (ofRatio true num den).toRat? = (ofRatio false num den).toRat?.map Neg.neg := by
  unfold ofRatio
  dsimp only
  repeat' split
  all_goals rfl

theorem of_rat_value {x : ℚ} (some : x ≠ 0) : ∃ significand exponent, Approximates |x| significand exponent ∧
    (ofRat x).toRat? = if (significand : ℚ) * 2 ^ exponent ≤ largest then
      Option.some (if x < 0 then -((significand : ℚ) * 2 ^ exponent) else (significand : ℚ) * 2 ^ exponent) else none := by
  have size : ((x.num.natAbs : ℕ) : ℚ) / x.den = |x| := by
    have positive : (0 : ℚ) < x.den := Nat.cast_pos.mpr x.den_pos
    rw [Nat.cast_natAbs, Int.cast_abs, ← abs_of_pos positive, ← abs_div, Rat.num_div_den]
  obtain ⟨significand, exponent, approximates, value⟩ :=
    of_ratio_value (Int.natAbs_pos.mpr (Rat.num_ne_zero.mpr some)) x.den_pos
  rw [size] at approximates
  refine ⟨significand, exponent, approximates, ?_⟩
  unfold ofRat
  by_cases negative : x < 0
  · have sign : decide (x.num < 0) = true := decide_eq_true (Rat.num_neg.mpr negative)
    rw [sign, of_ratio_negative, value, if_pos negative]
    split <;> rfl
  · have sign : decide (x.num < 0) = false := decide_eq_false (mt Rat.num_neg.mp negative)
    rw [sign, value, if_neg negative]

theorem of_rat_zero : (ofRat 0).toRat? = some 0 := by
  have zero : ofRat 0 = finite false 0 (-1074) := rfl
  rw [zero, toRat?, magnitude_eq, Nat.cast_zero, zero_mul]

variable {x v : ℚ}

theorem rounded_value (some : x ≠ 0) (rounded : (ofRat x).toRat? = Option.some v) :
    ∃ significand exponent, Approximates |x| significand exponent ∧ (significand : ℚ) * 2 ^ exponent ≤ largest ∧
      |v| = significand * 2 ^ exponent ∧ |v - x| = |significand * 2 ^ exponent - (|x|)| := by
  obtain ⟨significand, exponent, approximates, value⟩ := of_rat_value some
  have nonneg : (0 : ℚ) ≤ significand * 2 ^ exponent := by positivity
  rw [rounded] at value
  refine ⟨significand, exponent, approximates, ?_⟩
  split at value
  · next inside =>
      obtain rfl := Option.some.inj value
      refine ⟨inside, ?_⟩
      by_cases negative : x < 0
      · rw [if_pos negative, abs_neg, abs_of_nonneg nonneg, abs_of_neg negative, abs_sub_comm]
        exact ⟨rfl, by congr 1; ring⟩
      · rw [if_neg negative, abs_of_nonneg nonneg, abs_of_nonneg (not_lt.mp negative)]
        exact ⟨rfl, rfl⟩
  · cases value

theorem rounded_error (rounded : (ofRat x).toRat? = some v) : |v - x| ≤ 2 ^ (-53 : ℤ) * |x| + 2 ^ (-1075 : ℤ) := by
  by_cases zero : x = 0
  · subst zero
    rw [of_rat_zero] at rounded
    obtain rfl := Option.some.inj rounded
    rw [sub_zero, abs_zero, mul_zero, zero_add]
    positivity
  · obtain ⟨significand, exponent, approximates, _, _, distance⟩ := rounded_value zero rounded
    rw [distance]
    exact approximates_error (abs_nonneg x) approximates

theorem rounded_small (rounded : (ofRat x).toRat? = some v) : |v| ≤ largest := by
  by_cases zero : x = 0
  · subst zero
    rw [of_rat_zero] at rounded
    obtain rfl := Option.some.inj rounded
    rw [abs_zero, largest]
    norm_num
  · obtain ⟨significand, exponent, _, inside, size, _⟩ := rounded_value zero rounded
    rwa [size]

theorem rounded_exists (small : |x| ≤ largest) : ∃ v, (ofRat x).toRat? = some v := by
  by_cases zero : x = 0
  · exact ⟨0, zero ▸ of_rat_zero⟩
  · obtain ⟨significand, exponent, approximates, value⟩ := of_rat_value zero
    rw [if_pos (approximates_finite approximates small)] at value
    exact ⟨_, value⟩

def Regular : Binary64 → Prop
  | .finite _ significand exponent => significand < 2 ^ 53 ∧ -1074 ≤ exponent ∧ exponent ≤ 971
  | _ => False

theorem regular_value {y : Binary64} (regular : y.Regular) : ∃ (significand : Nat) (exponent : Int), significand < 2 ^ 53 ∧
    -1074 ≤ exponent ∧ (significand : ℚ) * 2 ^ exponent ≤ largest ∧ ∃ v, y.toRat? = some v ∧
      |v| = significand * 2 ^ exponent := by
  cases y with
  | nan => exact regular.elim
  | infinite negative => exact regular.elim
  | finite negative significand exponent =>
      obtain ⟨short, least, top⟩ := regular
      have nonneg : (0 : ℚ) ≤ significand * 2 ^ exponent := by positivity
      have inside : (significand : ℚ) * 2 ^ exponent ≤ largest := by
        have value := carried_value short.le (.inl top)
        by_contra outside
        have width : power 2 53 = 2 ^ 53 := rfl
        rw [if_neg outside, width, if_pos short, if_pos top] at value
        cases value
      refine ⟨significand, exponent, short, least, inside, ?_⟩
      cases negative with
      | false => exact ⟨_, rfl, by rw [magnitude_eq, abs_of_nonneg nonneg]⟩
      | true => exact ⟨_, rfl, by rw [abs_neg, magnitude_eq, abs_of_nonneg nonneg]⟩

theorem rounded_exact {y : Binary64} (regular : y.Regular) (value : y.toRat? = some x) : (ofRat x).toRat? = some x := by
  by_cases zero : x = 0
  · rw [zero]
    exact of_rat_zero
  · obtain ⟨digits, place, short, least, inside, v, same, size⟩ := regular_value regular
    obtain rfl := Option.some.inj (value.symm.trans same)
    obtain ⟨w, rounded⟩ := rounded_exists (size.trans_le inside)
    obtain ⟨significand, exponent, approximates, _, _, distance⟩ := rounded_value zero rounded
    rw [approximates_exact approximates short least size, sub_self, abs_zero] at distance
    rw [rounded, sub_eq_zero.mp (abs_eq_zero.mp distance)]

end Conform.Binary64
