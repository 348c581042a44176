import Conform.Proofs.Writing
import Conform.Proofs.Rounding

set_option autoImplicit false

namespace Conform

namespace Binary64

theorem core_abs (x : ℚ) : x.abs = |x| := by
  unfold Rat.abs
  split
  · next nonneg => exact (abs_of_nonneg nonneg).symm
  · next negative => exact (abs_of_neg (not_le.mp negative)).symm

def slack : ℚ :=
  4835703278458517 / 2 ^ 82

theorem tolerance_value : tolerance.toRat? = some slack := by
  have digits : tolerance = finite false 4835703278458517 (-82) := by decide +kernel
  rw [digits, toRat?, magnitude_eq, slack]
  norm_num

theorem slack_bounds : 1 / 10 ^ 9 ≤ slack ∧ slack ≤ 1 / 10 ^ 9 + 1 / 10 ^ 24 := by
  constructor <;> norm_num [slack]

theorem slack_nonneg (x : ℚ) : 0 ≤ slack * |x| :=
  mul_nonneg (by norm_num [slack]) (abs_nonneg x)

-- A value is nearly whole where its distance from the nearest whole number is within one of three tolerances.
def NearlyWhole (v : ℚ) : Prop :=
  |(nearestInt v : ℚ) - v| ≤ scaledTolerance (nearestInt v) ∨ |(nearestInt v : ℚ) - v| ≤ scaledTolerance v ∨
    |(nearestInt v : ℚ) - v| ≤ slack

theorem nearly_whole_iff (x : Binary64) : x.nearlyWhole = true ↔ ∃ v, x.toRat? = some v ∧ NearlyWhole v := by
  unfold nearlyWhole NearlyWhole
  cases value : x.toRat? with
  | none => simp
  | some v =>
      have limit : tolerance.toRat?.getD 0 = slack := by rw [tolerance_value]; rfl
      simp [limit, core_abs, or_assoc]

theorem scaled_tolerance_eq (x : ℚ) : scaledTolerance x = ((ofRat (slack * |x|)).toRat?).getD 0 := by
  rw [scaledTolerance, tolerance_value, core_abs]
  rfl

theorem of_ratio_signed {x : ℚ} (nonneg : 0 ≤ x) (negative : Bool) :
    (ofRatio negative x.num.natAbs x.den).toRat? = (ofRat (if negative then -x else x)).toRat? := by
  cases negative with
  | false =>
      have sign : decide (x.num < 0) = false := decide_eq_false (not_lt.mpr (Rat.num_nonneg.mpr nonneg))
      rw [if_neg (by decide), ofRat, sign]
  | true =>
      rw [if_pos rfl]
      rcases nonneg.eq_or_lt with zero | positive
      · subst zero
        rw [neg_zero, of_rat_zero, of_ratio_negative]
        exact congrArg (Option.map Neg.neg) of_rat_zero
      · have sign : decide ((-x).num < 0) = true := decide_eq_true (Rat.num_neg.mpr (neg_lt_zero.mpr positive))
        rw [ofRat, sign, Rat.num_neg_eq_neg_num, Int.natAbs_neg, Rat.den_neg_eq_den]

theorem magnitude_nonneg (significand : Nat) (exponent : Int) : 0 ≤ magnitude significand exponent := by
  rw [magnitude_eq]
  positivity

theorem divide_value {x y : Binary64} {p q : ℚ} (above : x.toRat? = some p) (below : y.toRat? = some q) :
    (x.divide y).toRat? = (ofRat (p / q)).toRat? := by
  cases x with
  | nan => cases above
  | infinite negative => cases above
  | finite s m e =>
      cases y with
      | nan => cases below
      | infinite negative => cases below
      | finite t n f =>
          have nonneg : 0 ≤ magnitude m e / magnitude n f := div_nonneg (magnitude_nonneg m e) (magnitude_nonneg n f)
          have signs : p / q =
              if (s != t) = true then -(magnitude m e / magnitude n f) else magnitude m e / magnitude n f := by
            cases s <;> cases t <;> cases above <;> cases below <;> simp [neg_div, div_neg]
          rw [signs]
          exact of_ratio_signed nonneg (s != t)

-- Where tolerances are concerned, what rounding may add to numbers next to zero does not count.
theorem rounded_close {x v : ℚ} (rounded : (ofRat x).toRat? = some v) :
    |v - x| ≤ 2 ^ (-53 : ℤ) * |x| + 2 ^ (-100 : ℤ) := by
  have tiny : (2 : ℚ) ^ (-1075 : ℤ) ≤ 2 ^ (-100 : ℤ) := zpow_le_zpow_right₀ one_le_two (by decide)
  linarith [rounded_error rounded]

theorem nearly_whole_of_close {v : ℚ} (small : |v| ≤ largest) (whole : Int) (close : |(whole : ℚ) - v| ≤ slack ∨
    |(whole : ℚ) - v| ≤ (1 - 2 ^ (-53 : ℤ)) * (slack * |v|) - 2 ^ (-100 : ℤ)) : NearlyWhole v := by
  have gap := whole_closest (nearest_int_error v) whole
  rcases close with absolute | relative
  · exact .inr (.inr (gap.trans absolute))
  · have scaled : abs (slack * |v|) ≤ largest := by
      rw [abs_of_nonneg (slack_nonneg v)]
      exact (mul_le_of_le_one_left (abs_nonneg v) (by norm_num [slack])).trans small
    obtain ⟨limit, rounded⟩ := rounded_exists scaled
    have error := (abs_le.mp (rounded_close rounded)).1
    rw [abs_of_nonneg (slack_nonneg v)] at error
    have tolerated : scaledTolerance v = limit := by rw [scaled_tolerance_eq, rounded]; rfl
    refine .inr (.inl ?_)
    rw [tolerated]
    linarith

theorem scaled_tolerance_bound (x : ℚ) :
    scaledTolerance x ≤ (1 + 2 ^ (-53 : ℤ)) * (slack * |x|) + 2 ^ (-100 : ℤ) := by
  have positive := slack_nonneg x
  rw [scaled_tolerance_eq]
  cases rounded : (ofRat (slack * |x|)).toRat? with
  | none =>
      rw [Option.getD_none]
      positivity
  | some limit =>
      have error := (abs_le.mp (rounded_close rounded)).2
      rw [abs_of_nonneg positive] at error
      rw [Option.getD_some]
      linarith

section Quotients

variable {x v p q : ℚ} {n k : Int}

theorem rounded_integer_error (rounded : (ofRat n).toRat? = some p) :
    |p - n| ≤ (2 ^ (-53 : ℤ) + 2 ^ (-100 : ℤ)) * |(n : ℚ)| := by
  by_cases zero : n = 0
  · subst zero
    rw [Int.cast_zero, of_rat_zero] at rounded
    cases rounded
    simp
  · have one : (1 : ℚ) ≤ |(n : ℚ)| := by exact_mod_cast Int.one_le_abs zero
    have error := rounded_close rounded
    have tiny : (2 : ℚ) ^ (-100 : ℤ) ≤ 2 ^ (-100 : ℤ) * |(n : ℚ)| := le_mul_of_one_le_right (by positivity) one
    linarith

theorem rounded_at_least_one (positive : 0 < k) (rounded : (ofRat k).toRat? = some q) : 1 ≤ q := by
  by_cases one : k = 1
  · subst one
    have exactly : (ofRat ((1 : Int) : ℚ)).toRat? = some 1 := by decide +kernel
    rw [exactly] at rounded
    cases rounded
    exact le_refl 1
  · have two : (2 : ℚ) ≤ k := by exact_mod_cast (by omega : 2 ≤ k)
    have error := (abs_le.mp (rounded_integer_error rounded)).1
    rw [abs_of_nonneg (by linarith)] at error
    norm_num at error
    linarith

theorem quotient_error (positive : 0 < k) (above : (ofRat n).toRat? = some p) (below : (ofRat k).toRat? = some q) :
    |p / q - n / k| ≤ 9 / 4 * 2 ^ (-53 : ℤ) * |(n : ℚ) / k| := by
  have divisor : (0 : ℚ) < k := by exact_mod_cast positive
  have some : 0 < q := one_pos.trans_le (rounded_at_least_one positive below)
  have aboveError := rounded_integer_error above
  have belowError := rounded_integer_error below
  have size : |(n : ℚ)| = |(n : ℚ) / k| * k := by rw [abs_div, abs_of_pos divisor, div_mul_cancel₀ _ divisor.ne']
  rw [size] at aboveError
  rw [abs_of_pos divisor] at belowError
  have split : (p / q - n / k) * q = p - n - n / k * (q - k) := by
    field_simp
    ring
  have low : (1 - (2 ^ (-53 : ℤ) + 2 ^ (-100 : ℤ))) * (k : ℚ) ≤ q := by linarith [(abs_le.mp belowError).1]
  have spare : 2 * (2 ^ (-53 : ℤ) + 2 ^ (-100 : ℤ)) * (k : ℚ) ≤ 9 / 4 * 2 ^ (-53 : ℤ) * q := by
    norm_num at low ⊢
    linarith
  refine le_of_mul_le_mul_right ?_ some
  calc |p / q - n / k| * q = |p - n - n / k * (q - k)| := by rw [← split, abs_mul, abs_of_pos some]
    _ ≤ |p - n| + |(n : ℚ) / k| * |q - k| := by
      rw [← abs_mul]
      exact abs_sub _ _
    _ ≤ (2 ^ (-53 : ℤ) + 2 ^ (-100 : ℤ)) * (|(n : ℚ) / k| * k) +
          |(n : ℚ) / k| * ((2 ^ (-53 : ℤ) + 2 ^ (-100 : ℤ)) * k) := by gcongr
    _ = |(n : ℚ) / k| * (2 * (2 ^ (-53 : ℤ) + 2 ^ (-100 : ℤ)) * k) := by ring
    _ ≤ |(n : ℚ) / k| * (9 / 4 * 2 ^ (-53 : ℤ) * q) := by gcongr
    _ = 9 / 4 * 2 ^ (-53 : ℤ) * |(n : ℚ) / k| * q := by ring

theorem rounded_quotient_error (positive : 0 < k) (above : (ofRat n).toRat? = some p) (below : (ofRat k).toRat? = some q)
    (rounded : (ofRat (p / q)).toRat? = some v) :
    |v - n / k| ≤ 7 / 2 * 2 ^ (-53 : ℤ) * |(n : ℚ) / k| + 2 ^ (-100 : ℤ) := by
  have quotient := quotient_error positive above below
  have error := rounded_close rounded
  have size : |p / q| ≤ |p / q - n / k| + |(n : ℚ) / k| := by
    have parts := abs_add_le (p / q - n / k) ((n : ℚ) / k)
    rwa [sub_add_cancel] at parts
  have both : |v - n / k| ≤ |v - p / q| + |p / q - n / k| := abs_sub_le _ _ _
  have nonneg := abs_nonneg ((n : ℚ) / k)
  norm_num at quotient error ⊢
  linarith

theorem nearly_whole_inside (error : |v - x| ≤ 7 / 2 * 2 ^ (-53 : ℤ) * |x| + 2 ^ (-100 : ℤ)) (small : |v| ≤ largest)
    {whole : Int} (close : |(whole : ℚ) - x| ≤ (1 / 10 ^ 9 - 1 / 2 ^ 51) * max |x| 1) : NearlyWhole v := by
  have gap : |(whole : ℚ) - v| ≤ |(whole : ℚ) - x| + |v - x| := by
    rw [abs_sub_comm v x]
    exact abs_sub_le _ _ _
  refine nearly_whole_of_close small whole ?_
  by_cases unit : |x| ≤ 1
  · rw [max_eq_right unit] at close
    have limit := slack_bounds.1
    norm_num at error close limit
    exact .inl (by linarith)
  · rw [max_eq_left (not_le.mp unit).le] at close
    have size : |x| - |v| ≤ |v - x| := by
      rw [abs_sub_comm]
      exact abs_sub_abs_le_abs_sub x v
    have scaled : 1 / 10 ^ 9 * |v| ≤ slack * |v| := mul_le_mul_of_nonneg_right slack_bounds.1 (abs_nonneg v)
    norm_num at error close scaled
    refine .inr ?_
    norm_num
    linarith [not_le.mp unit]

theorem nearly_whole_outside (error : |v - x| ≤ 7 / 2 * 2 ^ (-53 : ℤ) * |x| + 2 ^ (-100 : ℤ)) (near : NearlyWhole v) :
    |(nearestInt v : ℚ) - x| ≤ (1 / 10 ^ 9 + 1 / 2 ^ 51) * max |x| 1 := by
  have total : |(nearestInt v : ℚ) - x| ≤ |(nearestInt v : ℚ) - v| + |v - x| := abs_sub_le _ _ _
  have size : |v| ≤ |x| + |v - x| := by linarith [abs_sub_abs_le_abs_sub v x]
  have wholeSize : |(nearestInt v : ℚ)| ≤ |v| + |(nearestInt v : ℚ) - v| := by
    linarith [abs_sub_abs_le_abs_sub (nearestInt v : ℚ) v]
  have scaled : ∀ y : ℚ, slack * |y| ≤ (1 / 10 ^ 9 + 1 / 10 ^ 24) * |y| :=
    fun y => mul_le_mul_of_nonneg_right slack_bounds.2 (abs_nonneg y)
  have left := le_max_left |x| 1
  have right := le_max_right |x| 1
  rcases near with wholeTolerance | tolerance | absolute
  · have bound := wholeTolerance.trans (scaled_tolerance_bound _)
    have scale := scaled (nearestInt v)
    norm_num at error bound scale ⊢
    linarith
  · have bound := tolerance.trans (scaled_tolerance_bound _)
    have scale := scaled v
    norm_num at error bound scale ⊢
    linarith
  · have bound := absolute.trans slack_bounds.2
    norm_num at error bound ⊢
    linarith

end Quotients

end Binary64

namespace Number

def Finite : Number → Prop
  | .integer _ => True
  | .binary x => x.Regular

def value? : Number → Option ℚ
  | .integer n => some n
  | .binary x => x.toRat?

variable {a a' d d' : Number} {r s : ℚ}

theorem finite_value (finite : a.Finite) : ∃ r, a.value? = some r := by
  cases a with
  | integer n => exact ⟨n, rfl⟩
  | binary x =>
      obtain ⟨_, _, _, _, _, v, value, _⟩ := Binary64.regular_value finite
      exact ⟨v, value⟩

theorem point_of_value (value : a.value? = some r) : a.point? = some (.at r) := by
  cases a with
  | integer n =>
      cases value
      rfl
  | binary x =>
      cases x with
      | nan => cases value
      | infinite negative => cases value
      | finite negative significand exponent =>
          change (Binary64.finite negative significand exponent).toRat? = some r at value
          simp [point?, value]

theorem value_of_equal (value : a.value? = some r) (finite : a'.Finite) (same : a.equal a' = true) : a'.value? = some r := by
  obtain ⟨r', value'⟩ := finite_value finite
  rw [equal, point_of_value value, point_of_value value'] at same
  simp only [decide_eq_true_eq, Point.at.injEq] at same
  rw [value', same]

theorem positive_value (value : d.value? = some s) : (Number.integer 0).less d = true ↔ 0 < s := by
  have zero : (Number.integer 0).point? = some (.at 0) := rfl
  rw [less, zero, point_of_value value]
  simp [Point.below]

theorem of_ratio_a_number (negative : Bool) (num den : Nat) : Binary64.ofRatio negative num den ≠ .nan := by
  unfold Binary64.ofRatio
  dsimp only
  repeat' split
  all_goals simp

theorem to_binary_rounded (finite : a.Finite) (value : a.value? = some r) :
    (a.toBinary? = none ∧ (Binary64.ofRat r).toRat? = none) ∨
      ∃ x p, a.toBinary? = some x ∧ x.toRat? = some p ∧ (Binary64.ofRat r).toRat? = some p := by
  cases a with
  | integer n =>
      cases value
      cases rounded : Binary64.ofRat n with
      | nan => exact absurd rounded (of_ratio_a_number _ _ _)
      | infinite negative =>
          have same : Binary64.ofInt n = .infinite negative := rounded
          exact .inl ⟨by simp [toBinary?, same], rfl⟩
      | finite negative significand exponent =>
          have same : Binary64.ofInt n = .finite negative significand exponent := rounded
          obtain ⟨p, place⟩ : ∃ p, (Binary64.finite negative significand exponent).toRat? = some p := by
            cases negative <;> exact ⟨_, rfl⟩
          exact .inr ⟨_, p, by simp [toBinary?, same], place, place⟩
  | binary x => exact .inr ⟨x, r, rfl, value, Binary64.rounded_exact finite value⟩

theorem to_binary_none (finite : a.Finite) (value : a.value? = some r) :
    a.toBinary? = none ↔ (Binary64.ofRat r).toRat? = none := by
  rcases to_binary_rounded finite value with ⟨large, none⟩ | ⟨x, p, some, _, rounded⟩
  · simp [large, none]
  · simp [some, rounded]

def Tolerated (r s : ℚ) : Prop :=
  ∃ p q v, (Binary64.ofRat r).toRat? = some p ∧ (Binary64.ofRat s).toRat? = some q ∧
    (Binary64.ofRat (p / q)).toRat? = some v ∧ Binary64.NearlyWhole v

def Integers (a d : Number) : Prop :=
  ∃ n k, a = .integer n ∧ d = .integer k

theorem integers_multiple (n k : Int) (some : k ≠ 0) : isMultipleOf (.integer n) (.integer k) = .ok true ↔ k ∣ n := by
  rw [isMultipleOf, if_neg some, Int.dvd_iff_emod_eq_zero]
  simp

theorem too_large_multiple (other : ¬ Integers a d) (large : a.toBinary? = none ∨ d.toBinary? = none) :
    a.isMultipleOf d = .ok false := by
  cases a with
  | integer n =>
      cases d with
      | integer k => exact absurd ⟨n, k, rfl, rfl⟩ other
      | binary y =>
          have none := large.resolve_right nofun
          simp only [isMultipleOf, none]
  | binary x =>
      have some : (Number.binary x).toBinary? = some x := rfl
      have none := large.resolve_left nofun
      simp only [isMultipleOf, some, none]

theorem divided_multiple (other : ¬ Integers a d) {x y : Binary64} (above : a.toBinary? = some x)
    (below : d.toBinary? = some y) (some : y.isZero = false) : a.isMultipleOf d = .ok (x.divide y).nearlyWhole := by
  cases a with
  | integer n =>
      cases d with
      | integer k => exact absurd ⟨n, k, rfl, rfl⟩ other
      | binary z => simp [isMultipleOf, above, below, some]
  | binary z => simp [isMultipleOf, above, below, some]

theorem quotient_multiple (other : ¬ Integers a d) (finite : a.Finite) (finiteDivisor : d.Finite)
    (good : Keyword.isBadDivisor d = false) (value : a.value? = some r) (divisor : d.value? = some s) :
    a.isMultipleOf d = .ok true ↔ Tolerated r s := by
  unfold Tolerated
  rcases to_binary_rounded finite value with ⟨large, none⟩ | ⟨x, p, above, abovePlace, aboveRounded⟩
  · rw [too_large_multiple other (.inl large)]
    simp [none]
  · rcases to_binary_rounded finiteDivisor divisor with ⟨large, none⟩ | ⟨y, q, below, belowPlace, belowRounded⟩
    · rw [too_large_multiple other (.inr large)]
      simp [none]
    · rw [divided_multiple other above below (Keyword.divisor_not_zero d good y below)]
      simp [aboveRounded, belowRounded, Binary64.nearly_whole_iff, Binary64.divide_value abovePlace belowPlace]

def Within (part : ℚ) (n k : Int) : Prop :=
  ∃ whole : Int, |(n : ℚ) - whole * k| ≤ part * max |(n : ℚ)| k

variable {n k : Int}

theorem within_of_dvd {part : ℚ} (nonneg : 0 ≤ part) (multiple : k ∣ n) : Within part n k := by
  obtain ⟨whole, rfl⟩ := multiple
  refine ⟨whole, ?_⟩
  have exactly : ((k * whole : Int) : ℚ) - whole * k = 0 := by
    push_cast
    ring
  rw [exactly, abs_zero]
  exact mul_nonneg nonneg ((abs_nonneg _).trans (le_max_left _ _))

theorem within_quotient (part : ℚ) (whole : Int) (positive : 0 < k) :
    |(n : ℚ) - whole * k| ≤ part * max |(n : ℚ)| k ↔ |(whole : ℚ) - n / k| ≤ part * max |(n : ℚ) / k| 1 := by
  have divisor : (0 : ℚ) < k := by exact_mod_cast positive
  have distance : |(n : ℚ) - whole * k| = |(whole : ℚ) - n / k| * k := by
    have split : (n : ℚ) - whole * k = (n / k - whole) * k := by field_simp
    rw [split, abs_mul, abs_of_pos divisor, abs_sub_comm]
  have size : max |(n : ℚ)| k = max |(n : ℚ) / k| 1 * k := by
    rw [max_mul_of_nonneg _ _ divisor.le, abs_div, abs_of_pos divisor, div_mul_cancel₀ _ divisor.ne', one_mul]
  rw [distance, size, ← mul_assoc, mul_le_mul_iff_left₀ divisor]

theorem tolerated_inside (positive : 0 < k) (above : (Binary64.ofRat n).toRat? ≠ none)
    (below : (Binary64.ofRat k).toRat? ≠ none) (within : Within (1 / 10 ^ 9 - 1 / 2 ^ 51) n k) : Tolerated n k := by
  obtain ⟨p, above⟩ := Option.ne_none_iff_exists'.mp above
  obtain ⟨q, below⟩ := Option.ne_none_iff_exists'.mp below
  obtain ⟨whole, close⟩ := within
  have one := Binary64.rounded_at_least_one positive below
  have small : |p / q| ≤ Binary64.largest := by
    rw [abs_div, abs_of_pos (one_pos.trans_le one)]
    exact (div_le_self (abs_nonneg p) one).trans (Binary64.rounded_small above)
  obtain ⟨v, rounded⟩ := Binary64.rounded_exists small
  have error := Binary64.rounded_quotient_error positive above below rounded
  exact ⟨p, q, v, above, below, rounded, Binary64.nearly_whole_inside error (Binary64.rounded_small rounded)
    ((within_quotient _ whole positive).mp close)⟩

theorem tolerated_outside (positive : 0 < k) (tolerated : Tolerated n k) : Within (1 / 10 ^ 9 + 1 / 2 ^ 51) n k := by
  obtain ⟨p, q, v, above, below, rounded, near⟩ := tolerated
  have error := Binary64.rounded_quotient_error positive above below rounded
  exact ⟨_, (within_quotient _ _ positive).mpr (Binary64.nearly_whole_outside error near)⟩

end Number

namespace Keyword

open Number

def Permits (divisor value : Number) : Prop :=
  (multipleOf divisor (.number value)).outcome = .ok []

theorem good_divisor {divisor : Number} {s : ℚ} (value : divisor.value? = some s) (positive : 0 < s) :
    isBadDivisor divisor = false := by
  have zero : (Number.integer 0).point? = some (.at 0) := rfl
  simp [isBadDivisor, less, equal, zero, point_of_value value, Point.below, positive.le, positive.ne']

def refused (divisor value : Number) : Except Fault Findings :=
  if value.isWritable && divisor.isWritable then .ok (refusal divisor value) else .error (.tooManyDigits none)

def Refuses (divisor value : Number) : Prop :=
  (multipleOf divisor (.number value)).outcome = refused divisor value

theorem refused_not_accepted (divisor value : Number) : refused divisor value ≠ .ok [] := by
  unfold refused refusal
  split <;> simp

theorem refused_written (divisor value : Number) :
    ((write [value, divisor]).andThen fun _ => .result (refusal divisor value)).outcome = refused divisor value := by
  unfold write refused
  simp only [List.all_cons, List.all_nil, Bool.and_true]
  split <;> rfl

theorem judged {divisor : Number} (good : isBadDivisor divisor = false) (value : Number) :
    (Permits divisor value ↔ value.isMultipleOf divisor = .ok true) ∧ (Refuses divisor value ↔ ¬ Permits divisor value) := by
  obtain ⟨answer, known, whole⟩ := multiple_of_good good value
  have different := refused_not_accepted divisor value
  unfold Permits Refuses
  rw [whole, known]
  cases answer with
  | true => simpa [Logged.result] using different.symm
  | false =>
      rw [if_neg Bool.false_ne_true, refused_written]
      simpa using different

theorem permits_iff {divisor : Number} (good : isBadDivisor divisor = false) (value : Number) :
    Permits divisor value ↔ value.isMultipleOf divisor = .ok true :=
  (judged good value).1

theorem multiples_by_value {a a' d d' : Number} (finite : a.Finite) (finite' : a'.Finite) (divisor : d.Finite)
    (divisor' : d'.Finite) (same : a.equal a' = true) (sameDivisor : d.equal d' = true)
    (positive : (Number.integer 0).less d = true) :
    (Refuses d a ↔ ¬ Permits d a) ∧ (Refuses d' a' ↔ ¬ Permits d' a') ∧
    ((Integers a d ↔ Integers a' d') → (Permits d a ↔ Permits d' a')) ∧
    ∀ n k, a = .integer n → d = .integer k → ¬ Integers a' d' →
      (Permits d a ↔ k ∣ n) ∧
      (a'.toBinary? = none ∨ d'.toBinary? = none → Refuses d' a') ∧
      (a'.toBinary? ≠ none → d'.toBinary? ≠ none → (Permits d a → Permits d' a') ∧
        (Within (1 / 10 ^ 9 - 1 / 2 ^ 51) n k → Permits d' a') ∧
        (Permits d' a' → Within (1 / 10 ^ 9 + 1 / 2 ^ 51) n k)) := by
  obtain ⟨r, value⟩ := finite_value finite
  obtain ⟨s, divisorValue⟩ := finite_value divisor
  have value' := value_of_equal value finite' same
  have divisorValue' := value_of_equal divisorValue divisor' sameDivisor
  have above := (positive_value divisorValue).mp positive
  have good := good_divisor divisorValue above
  have good' := good_divisor divisorValue' above
  refine ⟨(judged good a).2, (judged good' a').2, ?_, ?_⟩
  · intro alike
    rw [permits_iff good, permits_iff good']
    by_cases integers : Integers a d
    · obtain ⟨n, k, rfl, rfl⟩ := integers
      obtain ⟨n', k', rfl, rfl⟩ := alike.mp ⟨n, k, rfl, rfl⟩
      have numbers : (n' : ℚ) = n := Option.some.inj (value'.trans value.symm)
      have divisors : (k' : ℚ) = k := Option.some.inj (divisorValue'.trans divisorValue.symm)
      rw [Int.cast_inj.mp numbers, Int.cast_inj.mp divisors]
    · rw [quotient_multiple integers finite divisor good value divisorValue,
        quotient_multiple (mt alike.mpr integers) finite' divisor' good' value' divisorValue']
  · rintro n k rfl rfl other
    cases value
    cases divisorValue
    have divides : (0 : Int) < k := by exact_mod_cast above
    have exactly : Permits (.integer k) (.integer n) ↔ k ∣ n :=
      (permits_iff good _).trans (integers_multiple n k divides.ne')
    have quotient : Permits d' a' ↔ Tolerated n k :=
      (permits_iff good' a').trans (quotient_multiple other finite' divisor' good' value' divisorValue')
    have inside : a'.toBinary? ≠ none → d'.toBinary? ≠ none → Within (1 / 10 ^ 9 - 1 / 2 ^ 51) n k → Permits d' a' := by
      intro converts convertsDivisor within
      refine quotient.mpr (tolerated_inside divides ?_ ?_ within)
      · exact mt (to_binary_none finite' value').mpr converts
      · exact mt (to_binary_none divisor' divisorValue').mpr convertsDivisor
    refine ⟨exactly, ?_, fun converts convertsDivisor => ⟨?_, inside converts convertsDivisor, ?_⟩⟩
    · intro large
      refine (judged good' a').2.mpr fun permits => ?_
      obtain ⟨p, q, v, above, below, _, _⟩ := quotient.mp permits
      rcases large with large | large
      · rw [(to_binary_none finite' value').mp large] at above
        cases above
      · rw [(to_binary_none divisor' divisorValue').mp large] at below
        cases below
    · intro permits
      exact inside converts convertsDivisor (within_of_dvd (by norm_num) (exactly.mp permits))
    · intro permits
      exact tolerated_outside divides (quotient.mp permits)

theorem verdict_by_notation :
    let written : Number := .integer 10000000001
    let rounded : Number := .binary (.finite false 5242880000524288 (-19))
    let ten : Number := .binary (.finite false 5629499534213120 (-49))
    written.equal rounded = true ∧ ¬ Permits (.integer 10) written ∧ Permits (.integer 10) rounded ∧
      (Number.integer 10).equal ten = true ∧ Permits (.integer 10) (.integer (10 ^ 400)) ∧
        ¬ Permits ten (.integer (10 ^ 400)) := by
  intro written rounded ten
  have good : isBadDivisor (.integer 10) = false := by decide +kernel
  have goodTen : isBadDivisor ten = false := by decide +kernel
  rw [permits_iff good, permits_iff good, permits_iff good, permits_iff goodTen]
  decide +kernel

theorem multiples_by_value_for_large :
    let a : Number := .integer (3 * 2 ^ 1000)
    let a' : Number := .binary (.finite false (3 * 2 ^ 51) 949)
    let d : Number := .integer 3
    a.Finite ∧ a'.Finite ∧ d.Finite ∧ a.equal a' = true ∧ d.equal d = true ∧ (Number.integer 0).less d = true ∧
      ¬ Integers a' d ∧ a'.toBinary? ≠ none ∧ d.toBinary? ≠ none ∧ Permits d a ∧ Permits d a' := by
  intro a a' d
  have whole : a.Finite := trivial
  have divisor : d.Finite := trivial
  have finite : a'.Finite := ⟨by decide, by decide, by decide⟩
  have same : a.equal a' = true := by decide +kernel
  have sameDivisor : d.equal d = true := by decide +kernel
  have positive : (Number.integer 0).less d = true := by decide +kernel
  have other : ¬ Integers a' d := by
    rintro ⟨n, k, integer, _⟩
    simp [a'] at integer
  have converts : a'.toBinary? ≠ none := nofun
  have convertsDivisor : d.toBinary? ≠ none := by decide +kernel
  obtain ⟨_, _, _, mixed⟩ := multiples_by_value whole finite divisor divisor same sameDivisor positive
  obtain ⟨exactly, _, alike⟩ := mixed _ _ rfl rfl other
  have permits : Permits d a := exactly.mpr ⟨2 ^ 1000, rfl⟩
  exact ⟨whole, finite, divisor, same, sameDivisor, positive, other, converts, convertsDivisor, permits,
    (alike converts convertsDivisor).1 permits⟩

end Keyword

end Conform
