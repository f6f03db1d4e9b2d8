import TaskAutomation.Number.Shortest
import Mathlib.Algebra.Order.Field.Power
import Mathlib.Data.Rat.Cast.Order
import Mathlib.Tactic.FieldSimp
import Mathlib.Tactic.Linarith
import Mathlib.Tactic.Positivity
import Mathlib.Tactic.Zify

/-!
This file bounds the error of rounding. The significand that is chosen for a ratio is off by at most
one half, so the result is off by at most half of its last place, which for a ratio of at least one
is a small part of it. A result is infinite only for a ratio at least half a place above the largest
finite number.
-/

namespace TaskAutomation.Double

/-- The finite numbers that there are: the significand has 53 bits and the exponent is in range. -/
def Fits : Double → Prop
  | finite _ significand exponent =>
    significand < 2 ^ 53 ∧ minExponent ≤ exponent ∧ exponent ≤ maxExponent
  | _ => False

instance : DecidablePred Fits
  | nan => .isFalse id
  | infinite _ => .isFalse id
  | finite _ significand exponent =>
    inferInstanceAs (Decidable (significand < 2 ^ 53 ∧ minExponent ≤ exponent ∧
      exponent ≤ maxExponent))

/-- The exact size of a finite number. -/
def size : Double → ℚ
  | finite _ significand exponent => significand * 2 ^ exponent
  | _ => 0

theorem size_nonneg (d : Double) : 0 ≤ d.size := by
  cases d with
  | finite negative significand exponent => exact mul_nonneg (Nat.cast_nonneg _) (by positivity)
  | _ => exact le_refl 0

/-! ### Powers of two -/

theorem cast_pow_toNat {base : ℕ} {exponent : ℤ} (nonneg : 0 ≤ exponent) :
    ((Nat.pow base exponent.toNat : ℕ) : ℚ) = (base : ℚ) ^ exponent := by
  have same : (exponent.toNat : ℤ) = exponent := Int.toNat_of_nonneg nonneg
  rw [← same, zpow_natCast]
  exact Nat.cast_pow base exponent.toNat

theorem cast_pow_toNat_neg {base : ℕ} {exponent : ℤ} (nonpos : exponent ≤ 0) :
    ((Nat.pow base (-exponent).toNat : ℕ) : ℚ) = ((base : ℚ) ^ exponent)⁻¹ := by
  rw [cast_pow_toNat (Int.neg_nonneg_of_nonpos nonpos), zpow_neg]

theorem two_zpow_pos (exponent : ℤ) : (0 : ℚ) < 2 ^ exponent := by positivity

theorem two_zpow_succ (exponent : ℤ) : (2 : ℚ) ^ (exponent + 1) = 2 ^ exponent * 2 :=
  zpow_add_one₀ (by norm_num) exponent

/-! ### The nearest integer -/

/-- The nearest integer is off by at most one half. -/
theorem divideToEven_bounds (numerator denominator : ℕ) (positive : 0 < denominator) :
    2 * (divideToEven numerator denominator * denominator) ≤ 2 * numerator + denominator ∧
      2 * numerator ≤ 2 * (divideToEven numerator denominator * denominator) + denominator := by
  have split := Nat.div_add_mod numerator denominator
  have small := Nat.mod_lt numerator positive
  have up : (numerator / denominator + 1) * denominator =
      denominator * (numerator / denominator) + denominator := by
    rw [Nat.add_mul, Nat.one_mul, Nat.mul_comm]
  have down : numerator / denominator * denominator = denominator * (numerator / denominator) :=
    Nat.mul_comm _ _
  unfold divideToEven
  simp only
  split
  · rw [down]
    omega
  · split
    · rw [up]
      omega
    · split
      · rw [down]
        omega
      · rw [up]
        omega

theorem abs_divideToEven_sub_le (numerator denominator : ℕ) (positive : 0 < denominator) :
    |(divideToEven numerator denominator : ℚ) - numerator / denominator| ≤ 1 / 2 := by
  obtain ⟨upper, lower⟩ := divideToEven_bounds numerator denominator positive
  have below : (0 : ℚ) < denominator := Nat.cast_pos.mpr positive
  have upper : (2 : ℚ) * (divideToEven numerator denominator * denominator) ≤
      2 * numerator + denominator := by exact_mod_cast upper
  have lower : (2 : ℚ) * numerator ≤
      2 * (divideToEven numerator denominator * denominator) + denominator := by
    exact_mod_cast lower
  rw [abs_le, neg_le_sub_iff_le_add, sub_le_iff_le_add, div_le_iff₀ below, ← sub_le_iff_le_add',
    le_div_iff₀ below]
  constructor <;> linarith

/-! ### The binary length of a ratio -/

/-- A scaled comparison of whole numbers is a comparison of their ratio with the power. -/
theorem scaled_le_iff {base : ℕ} (present : 0 < base) (numerator denominator : ℕ)
    (below : 0 < denominator) (exponent : ℤ) :
    (if 0 ≤ exponent then denominator * Nat.pow base exponent.toNat ≤ numerator
      else denominator ≤ numerator * Nat.pow base (-exponent).toNat) ↔
      (base : ℚ) ^ exponent ≤ numerator / denominator := by
  have positive : (0 : ℚ) < denominator := Nat.cast_pos.mpr below
  have power : (0 : ℚ) < (base : ℚ) ^ exponent := zpow_pos (Nat.cast_pos.mpr present) exponent
  rw [le_div_iff₀ positive]
  split
  · next nonneg =>
    rw [← cast_pow_toNat nonneg, mul_comm]
    exact_mod_cast Iff.rfl
  · next negative =>
    have inverse := @cast_pow_toNat_neg base exponent (Int.le_of_not_le negative)
    have scaled : ((numerator * Nat.pow base (-exponent).toNat : ℕ) : ℚ) =
        numerator / (base : ℚ) ^ exponent := by
      rw [Nat.cast_mul, inverse, div_eq_mul_inv]
    rw [← @Nat.cast_le ℚ, scaled, le_div_iff₀ power, mul_comm]

theorem cast_log2_le {n : ℕ} (positive : 0 < n) : (2 : ℚ) ^ (n.log2 : ℤ) ≤ n := by
  rw [zpow_natCast]
  exact_mod_cast Nat.log2_self_le (Nat.ne_of_gt positive)

theorem cast_lt_log2 (n : ℕ) : (n : ℚ) < 2 ^ ((n.log2 : ℤ) + 1) := by
  have bound : n < 2 ^ (n.log2 + 1) := Nat.lt_log2_self
  exact_mod_cast bound

/-- The magnitude of a ratio is the place of its first binary digit. -/
theorem magnitude_spec (numerator denominator : ℕ) (above : 0 < numerator)
    (below : 0 < denominator) :
    (2 : ℚ) ^ magnitude numerator denominator ≤ numerator / denominator ∧
      (numerator : ℚ) / denominator < 2 ^ (magnitude numerator denominator + 1) := by
  have positive : (0 : ℚ) < denominator := Nat.cast_pos.mpr below
  have nonzero : (2 : ℚ) ≠ 0 := by norm_num
  obtain ⟨guess, same⟩ : ∃ guess : ℤ, guess = (numerator.log2 : ℤ) - (denominator.log2 : ℤ) :=
    ⟨_, rfl⟩
  have low : (2 : ℚ) ^ (guess - 1) ≤ numerator / denominator := by
    rw [le_div_iff₀ positive]
    calc (2 : ℚ) ^ (guess - 1) * denominator
        ≤ 2 ^ (guess - 1) * 2 ^ ((denominator.log2 : ℤ) + 1) :=
          mul_le_mul_of_nonneg_left (cast_lt_log2 denominator).le (two_zpow_pos _).le
      _ = 2 ^ (numerator.log2 : ℤ) := by
          rw [← zpow_add₀ nonzero, same]
          congr 1
          omega
      _ ≤ numerator := cast_log2_le above
  have high : (numerator : ℚ) / denominator < 2 ^ (guess + 1) := by
    rw [div_lt_iff₀ positive]
    calc (numerator : ℚ) < 2 ^ ((numerator.log2 : ℤ) + 1) := cast_lt_log2 numerator
      _ = 2 ^ (guess + 1) * 2 ^ (denominator.log2 : ℤ) := by
          rw [← zpow_add₀ nonzero, same]
          congr 1
          omega
      _ ≤ 2 ^ (guess + 1) * denominator :=
          mul_le_mul_of_nonneg_left (cast_log2_le below) (two_zpow_pos _).le
  have reaches := scaled_le_iff (show 0 < 2 by norm_num) numerator denominator below guess
  rw [Nat.cast_ofNat] at reaches
  have chosen : magnitude numerator denominator =
      if (2 : ℚ) ^ guess ≤ numerator / denominator then guess else guess - 1 := by
    unfold magnitude
    rw [← same]
    exact if_congr reaches rfl rfl
  rw [chosen]
  split
  · next reached => exact ⟨reached, high⟩
  · next missed =>
    rw [Int.sub_add_cancel]
    exact ⟨low, not_le.mp missed⟩

/-! ### Rounding a ratio -/

/-- The exponent of the number nearest to a ratio, before a carry. -/
def placeOf (numerator denominator : ℕ) : ℤ :=
  max minExponent (magnitude numerator denominator - (precision - 1 : ℕ))

/-- The significand of the number nearest to a ratio, before a carry. -/
def significandOf (numerator denominator : ℕ) : ℕ :=
  if 0 ≤ placeOf numerator denominator then
    divideToEven numerator (denominator * Nat.pow 2 (placeOf numerator denominator).toNat)
  else divideToEven (numerator * Nat.pow 2 (-placeOf numerator denominator).toNat) denominator

theorem ofRatio_eq (negative : Bool) {numerator denominator : ℕ} (above : 0 < numerator) :
    ofRatio negative numerator denominator =
      if significandOf numerator denominator = 2 ^ 53 then
        if maxExponent < placeOf numerator denominator + 1 then infinite negative
        else finite negative (2 ^ 52) (placeOf numerator denominator + 1)
      else if maxExponent < placeOf numerator denominator then infinite negative
      else finite negative (significandOf numerator denominator)
        (placeOf numerator denominator) := by
  unfold ofRatio
  rw [if_neg (Nat.ne_of_gt above)]
  show (let chosen := if significandOf numerator denominator = 2 ^ 53 then
      (2 ^ 52, placeOf numerator denominator + 1)
      else (significandOf numerator denominator, placeOf numerator denominator)
    if maxExponent < chosen.2 then infinite negative else finite negative chosen.1 chosen.2) = _
  by_cases carry : significandOf numerator denominator = 2 ^ 53
  · simp only [if_pos carry]
  · simp only [if_neg carry]

variable {numerator denominator : ℕ}

/-- Before a carry the rounded ratio is off by at most half of its last place. -/
theorem abs_significandOf_sub_le (below : 0 < denominator) :
    |(significandOf numerator denominator : ℚ) * 2 ^ placeOf numerator denominator -
        numerator / denominator| ≤ 2 ^ placeOf numerator denominator / 2 := by
  have power := two_zpow_pos (placeOf numerator denominator)
  have close : |(significandOf numerator denominator : ℚ) -
      numerator / denominator / 2 ^ placeOf numerator denominator| ≤ 1 / 2 := by
    unfold significandOf
    split
    · next nonneg =>
      have factor := @cast_pow_toNat 2 _ nonneg
      have bound := abs_divideToEven_sub_le numerator
        (denominator * Nat.pow 2 (placeOf numerator denominator).toNat)
        (Nat.mul_pos below (Nat.pow_pos (by decide)))
      rw [Nat.cast_mul, factor, Nat.cast_ofNat, ← div_div] at bound
      exact bound
    · next negative =>
      have factor := @cast_pow_toNat_neg 2 _ (Int.le_of_not_le negative)
      have bound := abs_divideToEven_sub_le
        (numerator * Nat.pow 2 (-placeOf numerator denominator).toNat) denominator below
      rw [Nat.cast_mul, factor, Nat.cast_ofNat, ← div_eq_mul_inv, div_right_comm] at bound
      exact bound
  have scaled := mul_le_mul_of_nonneg_right close power.le
  rw [← abs_of_pos power, ← abs_mul, abs_of_pos power, sub_mul,
    div_mul_cancel₀ _ power.ne'] at scaled
  linarith

/-- The significand has at most 53 bits, or it is the power of two that carries. -/
theorem significandOf_le (above : 0 < numerator) (below : 0 < denominator) :
    significandOf numerator denominator ≤ 2 ^ 53 := by
  have power := two_zpow_pos (placeOf numerator denominator)
  have close := (abs_le.mp (@abs_significandOf_sub_le numerator denominator below)).2
  have short : (numerator : ℚ) / denominator < 2 ^ 53 * 2 ^ placeOf numerator denominator := by
    refine (magnitude_spec numerator denominator above below).2.trans_le ?_
    rw [← zpow_natCast, ← zpow_add₀ (by norm_num)]
    refine zpow_le_zpow_right₀ (by norm_num) ?_
    have place := Int.le_max_right minExponent
      (magnitude numerator denominator - (precision - 1 : ℕ))
    show _ ≤ ((53 : ℕ) : ℤ) + placeOf numerator denominator
    unfold placeOf precision at *
    omega
  have bound : (significandOf numerator denominator : ℚ) < 2 ^ 53 + 1 := by
    refine lt_of_mul_lt_mul_right ?_ power.le
    linarith
  exact_mod_cast Nat.lt_succ_iff.mp (by exact_mod_cast bound)

/-- Half a place above the largest finite number. -/
def overflowBound : ℚ := (2 ^ 54 - 1) * 2 ^ (970 : ℤ)

/-- A ratio whose last place is beyond the largest exponent is out of range. -/
theorem overflowBound_le_of_place (above : 0 < numerator) (below : 0 < denominator)
    (beyond : maxExponent < placeOf numerator denominator) :
    overflowBound ≤ (numerator : ℚ) / denominator := by
  refine le_trans ?_ (magnitude_spec numerator denominator above below).1
  have place : (1024 : ℤ) ≤ magnitude numerator denominator := by
    unfold placeOf precision minExponent maxExponent at beyond
    omega
  have power := zpow_le_zpow_right₀ (show (1 : ℚ) ≤ 2 by norm_num) place
  have split : (2 : ℚ) ^ (1024 : ℤ) = 2 ^ 54 * 2 ^ (970 : ℤ) := by
    rw [← zpow_natCast, ← zpow_add₀ (by norm_num)]
    rfl
  have positive := two_zpow_pos 970
  rw [split] at power
  unfold overflowBound
  generalize (2 : ℚ) ^ (970 : ℤ) = scale at power positive ⊢
  linarith

/-- A ratio that is rounded up to the power of two behind the largest number is out of range. -/
theorem overflowBound_le_of_carry (below : 0 < denominator)
    (carry : significandOf numerator denominator = 2 ^ 53)
    (last : placeOf numerator denominator = 971) :
    overflowBound ≤ (numerator : ℚ) / denominator := by
  have close := @abs_significandOf_sub_le numerator denominator below
  rw [carry, last] at close
  have lower := (abs_le.mp close).2
  have split : (2 : ℚ) ^ (971 : ℤ) = 2 ^ (970 : ℤ) * 2 := two_zpow_succ 970
  rw [split] at lower
  unfold overflowBound
  generalize (2 : ℚ) ^ (970 : ℤ) = scale at lower ⊢
  push_cast at lower
  linarith

/-- A rounded ratio is infinite or one of the finite numbers, off by at most half of the last place
before a carry. -/
theorem ofRatio_cases (negative : Bool) (above : 0 < numerator) (below : 0 < denominator) :
    ofRatio negative numerator denominator = infinite negative ∧
        overflowBound ≤ (numerator : ℚ) / denominator ∨
      (ofRatio negative numerator denominator).Fits ∧
        |(ofRatio negative numerator denominator).size - numerator / denominator| ≤
          2 ^ placeOf numerator denominator / 2 := by
  have close := @abs_significandOf_sub_le numerator denominator below
  have least : minExponent ≤ placeOf numerator denominator := Int.le_max_left _ _
  rw [ofRatio_eq negative above]
  by_cases carry : significandOf numerator denominator = 2 ^ 53
  · rw [if_pos carry]
    by_cases beyond : maxExponent < placeOf numerator denominator + 1
    · rw [if_pos beyond]
      refine Or.inl ⟨rfl, ?_⟩
      by_cases far : maxExponent < placeOf numerator denominator
      · exact overflowBound_le_of_place above below far
      · refine overflowBound_le_of_carry below carry ?_
        unfold maxExponent at beyond far
        omega
    · rw [if_neg beyond]
      refine Or.inr ⟨⟨by norm_num, by omega, by omega⟩, ?_⟩
      have same : (finite negative (2 ^ 52) (placeOf numerator denominator + 1)).size =
          significandOf numerator denominator * 2 ^ placeOf numerator denominator := by
        rw [carry, size, two_zpow_succ]
        push_cast
        linarith
      rw [same]
      exact close
  · rw [if_neg carry]
    have bits := Nat.lt_of_le_of_ne (significandOf_le above below) carry
    by_cases beyond : maxExponent < placeOf numerator denominator
    · rw [if_pos beyond]
      exact Or.inl ⟨rfl, overflowBound_le_of_place above below beyond⟩
    · rw [if_neg beyond]
      exact Or.inr ⟨⟨bits, least, by omega⟩, close⟩

/-- A ratio below the bound of the finite numbers is rounded to one of them. -/
theorem fits_ofRatio (negative : Bool) (below : 0 < denominator)
    (small : (numerator : ℚ) / denominator < overflowBound) :
    (ofRatio negative numerator denominator).Fits := by
  obtain none | above := Nat.eq_zero_or_pos numerator
  · rw [ofRatio, if_pos none]
    exact ⟨by norm_num, by decide, by decide⟩
  · obtain ⟨-, large⟩ | ⟨fits, -⟩ := ofRatio_cases negative above below
    · exact absurd small (not_lt.mpr large)
    · exact fits

/-- A ratio of at least one is rounded with a small relative error. -/
theorem abs_size_ofRatio_sub_le (negative : Bool) (below : 0 < denominator)
    (unit : 1 ≤ (numerator : ℚ) / denominator)
    (small : (numerator : ℚ) / denominator < overflowBound) :
    |(ofRatio negative numerator denominator).size - numerator / denominator| ≤
      numerator / denominator / 2 ^ 53 := by
  have above : 0 < numerator := by
    refine Nat.pos_of_ne_zero fun none => ?_
    rw [none, Nat.cast_zero, zero_div] at unit
    norm_num at unit
  obtain ⟨-, large⟩ | ⟨-, close⟩ := ofRatio_cases negative above below
  · exact absurd small (not_lt.mpr large)
  · refine close.trans ?_
    obtain ⟨low, high⟩ := magnitude_spec numerator denominator above below
    have start : 0 ≤ magnitude numerator denominator := by
      have bound := unit.trans_lt high
      rw [← zpow_zero (2 : ℚ), zpow_lt_zpow_iff_right₀ (by norm_num)] at bound
      omega
    have place : placeOf numerator denominator = magnitude numerator denominator - 52 := by
      unfold placeOf precision minExponent
      omega
    rw [place, zpow_sub₀ (by norm_num), div_div]
    norm_num
    exact div_le_div_of_nonneg_right low (by norm_num)

end TaskAutomation.Double
