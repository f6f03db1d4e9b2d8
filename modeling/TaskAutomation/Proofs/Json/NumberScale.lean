import TaskAutomation.Json.Reader
import TaskAutomation.Proofs.Number.Rounding
import Mathlib.Tactic.Ring

/-!
This file proves when number text is not out of range. A significand is scaled by a power of ten in
one multiplication, after two roundings, and it has to stay below the bound at which the product is
infinite. Scaling downwards never leaves the range. A little room below the bound makes up for the
roundings, so a decimal number that stays that far below can always be read.
-/

namespace TaskAutomation

namespace Double

/-! ### Sizes of finite numbers -/

theorem size_lt_overflowBound {d : Double} (fits : d.Fits) : d.size < overflowBound := by
  cases d with
  | finite negative significand exponent =>
    obtain ⟨bits, -, place⟩ := fits
    have bits : (significand : ℚ) ≤ 2 ^ 53 - 1 := by
      have whole : significand + 1 ≤ 2 ^ 53 := bits
      have cast : ((significand + 1 : ℕ) : ℚ) ≤ ((2 ^ 53 : ℕ) : ℚ) := Nat.cast_le.mpr whole
      push_cast at cast
      linarith
    have power : (2 : ℚ) ^ exponent ≤ 2 ^ (971 : ℤ) := zpow_le_zpow_right₀ (by norm_num) place
    have split : (2 : ℚ) ^ (971 : ℤ) = 2 ^ (970 : ℤ) * 2 := two_zpow_succ 970
    have positive := two_zpow_pos 970
    calc (significand : ℚ) * 2 ^ exponent
        ≤ (2 ^ 53 - 1) * 2 ^ (971 : ℤ) :=
          mul_le_mul bits power (two_zpow_pos exponent).le (by norm_num)
      _ < overflowBound := by
          rw [split]
          unfold overflowBound
          generalize (2 : ℚ) ^ (970 : ℤ) = scale at positive ⊢
          linarith
  | _ => exact fits.elim

theorem isFinite_of_fits {d : Double} (fits : d.Fits) : d.isFinite = true := by
  cases d with
  | finite negative significand exponent => rfl
  | _ => exact fits.elim

theorem fits_zero : zero.Fits := ⟨by norm_num, by decide, by decide⟩

theorem fits_neg {d : Double} (fits : d.Fits) : d.neg.Fits := by
  cases d with
  | finite negative significand exponent => exact fits
  | _ => exact fits.elim

/-- A scaled number is a ratio. -/
theorem ofScaled_eq (negative : Bool) (n : ℕ) (exponent : ℤ) :
    ∃ above below : ℕ, 0 < below ∧ ofScaled negative n exponent = ofRatio negative above below ∧
      (above : ℚ) / below = n * 2 ^ exponent := by
  unfold ofScaled
  split
  · next nonneg =>
    refine ⟨_, 1, Nat.one_pos, rfl, ?_⟩
    rw [Nat.cast_mul, cast_pow_toNat nonneg, Nat.cast_one, div_one, Nat.cast_ofNat]
  · next negative =>
    refine ⟨n, Nat.pow 2 (-exponent).toNat, Nat.pow_pos (by decide), rfl, ?_⟩
    rw [cast_pow_toNat_neg (Int.le_of_not_le negative), div_inv_eq_mul, Nat.cast_ofNat]

theorem fits_mul {a b : Double} (left : a.Fits) (right : b.Fits)
    (small : a.size * b.size < overflowBound) : (a.mul b).Fits := by
  match a, b with
  | finite s m e, finite t n f =>
    obtain ⟨above, below, positive, same, ratio⟩ := ofScaled_eq (s != t) (m * n) (e + f)
    show (ofScaled (s != t) (m * n) (e + f)).Fits
    rw [same]
    refine fits_ofRatio _ positive ?_
    rw [ratio, Nat.cast_mul, zpow_add₀ (by norm_num), mul_mul_mul_comm]
    exact small
  | nan, _ => exact left.elim
  | infinite _, _ => exact left.elim
  | _, nan => exact right.elim
  | _, infinite _ => exact right.elim

theorem fits_div {a b : Double} (left : a.Fits) (right : b.Fits) (unit : 1 ≤ b.size) :
    (a.div b).Fits := by
  match a, b with
  | finite s m e, finite t n f =>
    have present : n ≠ 0 := by
      intro none
      rw [size, none, Nat.cast_zero, zero_mul] at unit
      norm_num at unit
    have whole : 0 < n := Nat.pos_of_ne_zero present
    have shrinks : (m : ℚ) * 2 ^ e / (n * 2 ^ f) < overflowBound :=
      (div_le_self (size_nonneg (finite s m e)) unit).trans_lt (size_lt_overflowBound left)
    have ratio : (m : ℚ) * 2 ^ e / (n * 2 ^ f) = m * 2 ^ (e - f) / n := by
      rw [zpow_sub₀ (by norm_num), mul_div_mul_comm, mul_div_right_comm]
    rw [ratio] at shrinks
    simp only [div, if_neg present]
    split
    · next nonneg =>
      refine fits_ofRatio _ whole ?_
      rw [Nat.cast_mul, cast_pow_toNat nonneg, Nat.cast_ofNat]
      exact shrinks
    · next negative =>
      refine fits_ofRatio _ (Nat.mul_pos whole (Nat.pow_pos (by decide))) ?_
      rw [Nat.cast_mul, cast_pow_toNat_neg (Int.le_of_not_le negative), Nat.cast_ofNat, ← div_div,
        div_inv_eq_mul, mul_comm, ← mul_div_assoc, mul_comm]
      exact shrinks
  | nan, _ => exact left.elim
  | infinite _, _ => exact left.elim
  | _, nan => exact right.elim
  | _, infinite _ => exact right.elim

end Double

namespace Json

open Double

/-! ### Powers of ten -/

theorem cast_bound : (((2 ^ 54 - 1) * 2 ^ 970 : ℕ) : ℚ) = overflowBound := by
  rw [Nat.cast_mul, Nat.cast_pow, Nat.cast_ofNat, ← zpow_natCast]
  unfold overflowBound
  norm_num

theorem cast_lt_overflowBound {n : ℕ} (small : n < (2 ^ 54 - 1) * 2 ^ 970) :
    (n : ℚ) < overflowBound := by
  rw [← cast_bound]
  exact Nat.cast_lt.mpr small

theorem ten_pow_lt {exponent : ℕ} (small : exponent ≤ 308) :
    ((10 ^ exponent : ℕ) : ℚ) < overflowBound := by
  refine cast_lt_overflowBound ?_
  exact (Nat.pow_le_pow_right (by decide) small).trans_lt (by decide +kernel)

theorem powerOfTen_eq {exponent : ℕ} (small : exponent ≤ 308) :
    powerOfTen exponent = ofRatio false (10 ^ exponent) 1 := by
  have one : (Nat.toDigits 10 1).length = 1 := rfl
  unfold powerOfTen ofDecimal
  rw [one]
  simp only
  rw [if_neg (by omega), if_neg (by omega), if_pos (by omega), Int.toNat_natCast, Nat.one_mul]
  rfl

theorem fits_powerOfTen {exponent : ℕ} (small : exponent ≤ 308) : (powerOfTen exponent).Fits := by
  rw [powerOfTen_eq small]
  refine fits_ofRatio false Nat.one_pos ?_
  rw [Nat.cast_one, div_one]
  exact ten_pow_lt small

/-- A power of ten is rounded with a small relative error. -/
theorem abs_size_powerOfTen_sub_le {exponent : ℕ} (small : exponent ≤ 308) :
    |(powerOfTen exponent).size - 10 ^ exponent| ≤ 10 ^ exponent / 2 ^ 53 := by
  have ratio : ((10 ^ exponent : ℕ) : ℚ) / (1 : ℕ) = 10 ^ exponent := by
    rw [Nat.cast_one, div_one, Nat.cast_pow, Nat.cast_ofNat]
  have bound := @abs_size_ofRatio_sub_le (10 ^ exponent) 1 false Nat.one_pos
    (by rw [ratio]; exact one_le_pow₀ (by norm_num))
    (by rw [Nat.cast_one, div_one]; exact ten_pow_lt small)
  rw [ratio] at bound
  rw [powerOfTen_eq small]
  exact bound

theorem one_le_size_powerOfTen {exponent : ℕ} (positive : 0 < exponent) (small : exponent ≤ 308) :
    1 ≤ (powerOfTen exponent).size := by
  have bound := (abs_le.mp (abs_size_powerOfTen_sub_le small)).1
  have ten : (10 : ℚ) ^ 1 ≤ 10 ^ exponent := pow_le_pow_right₀ (by norm_num) positive
  linarith

/-! ### Scaling -/

/-- Scaling downwards always gives a finite number. -/
theorem scaleByTen_of_neg (steps : ℕ) {d : Double} (fits : d.Fits) {exponent : ℤ}
    (down : exponent < 0) : ∃ scaled, scaleByTen steps d exponent = some scaled ∧ scaled.Fits := by
  induction steps generalizing d exponent with
  | zero => exact ⟨zero, rfl, fits_zero⟩
  | succ steps inductionHypothesis =>
    have negative : ¬ 0 ≤ exponent := by omega
    unfold scaleByTen
    by_cases near : exponent.natAbs ≤ 308
    · rw [if_pos near, if_neg negative]
      exact ⟨_, rfl, fits_div fits (fits_powerOfTen near)
        (one_le_size_powerOfTen (by omega) near)⟩
    · rw [if_neg near]
      by_cases none : d.isZero = true
      · rw [if_pos none]
        exact ⟨d, rfl, fits⟩
      · rw [if_neg none, if_neg negative]
        exact inductionHypothesis
          (fits_div fits (fits_powerOfTen (by decide)) (one_le_size_powerOfTen (by decide)
            (by decide))) (by omega)

/-- A decimal number that stays below this bound can be read. -/
def readableBound : ℚ := (2 ^ 54 - 7) * 2 ^ (970 : ℤ)

theorem readableBound_lt : readableBound < overflowBound := by
  have positive := two_zpow_pos 970
  unfold readableBound overflowBound
  generalize (2 : ℚ) ^ (970 : ℤ) = scale at positive ⊢
  linarith

theorem fits_ofNat {n : ℕ} (small : (n : ℚ) < overflowBound) : (Double.ofNat n).Fits := by
  refine fits_ofRatio false Nat.one_pos ?_
  rw [Nat.cast_one, div_one]
  exact small

theorem size_ofNat_le {n : ℕ} (positive : 0 < n) (small : (n : ℚ) < overflowBound) :
    (Double.ofNat n).size ≤ n * (1 + 1 / 2 ^ 53) := by
  have ratio : (n : ℚ) / (1 : ℕ) = n := by rw [Nat.cast_one, div_one]
  have bound := @abs_size_ofRatio_sub_le n 1 false Nat.one_pos
    (by rw [ratio]; exact_mod_cast positive) (by rw [ratio]; exact small)
  rw [ratio] at bound
  have upper := (abs_le.mp bound).2
  show (ofRatio false n 1).size ≤ _
  linarith

theorem exponent_le_of_readable {significand : ℕ} (positive : 0 < significand) {exponent : ℤ}
    (small : (significand : ℚ) * 10 ^ exponent ≤ readableBound) : exponent ≤ 308 := by
  refine not_lt.mp fun large => ?_
  have far : (10 : ℚ) ^ (309 : ℤ) ≤ 10 ^ exponent := zpow_le_zpow_right₀ (by norm_num) large
  have above : overflowBound ≤ 10 ^ (309 : ℤ) := by
    have whole : (2 ^ 54 - 1) * 2 ^ 970 ≤ 10 ^ 309 := by decide +kernel
    have cast : (((2 ^ 54 - 1) * 2 ^ 970 : ℕ) : ℚ) ≤ ((10 ^ 309 : ℕ) : ℚ) := Nat.cast_le.mpr whole
    rw [cast_bound, Nat.cast_pow, Nat.cast_ofNat, ← zpow_natCast] at cast
    exact cast
  have one : (1 : ℚ) ≤ significand := by exact_mod_cast positive
  have scaled : (10 : ℚ) ^ exponent ≤ significand * 10 ^ exponent :=
    le_mul_of_one_le_left (by positivity) one
  linarith [readableBound_lt]

theorem mul_lt_overflowBound {significand exponent : ℕ} (positive : 0 < significand)
    (near : exponent ≤ 308) (small : (significand : ℚ) * 10 ^ exponent ≤ readableBound) :
    (Double.ofNat significand).size * (powerOfTen exponent).size < overflowBound := by
  have one : (1 : ℚ) ≤ 10 ^ exponent := one_le_pow₀ (by norm_num)
  have whole : (significand : ℚ) < overflowBound :=
    (le_mul_of_one_le_right (Nat.cast_nonneg _) one).trans_lt (small.trans_lt readableBound_lt)
  have left := size_ofNat_le positive whole
  have right : (powerOfTen exponent).size ≤ 10 ^ exponent * (1 + 1 / 2 ^ 53) := by
    have upper := (abs_le.mp (abs_size_powerOfTen_sub_le near)).2
    linarith
  have scale := two_zpow_pos 970
  calc (Double.ofNat significand).size * (powerOfTen exponent).size
      ≤ significand * (1 + 1 / 2 ^ 53) * (10 ^ exponent * (1 + 1 / 2 ^ 53)) :=
        mul_le_mul left right (size_nonneg _) (by positivity)
    _ = significand * 10 ^ exponent * (1 + 1 / 2 ^ 53) ^ 2 := by ring
    _ ≤ readableBound * (1 + 1 / 2 ^ 53) ^ 2 := mul_le_mul_of_nonneg_right small (by positivity)
    _ < overflowBound := by
        unfold readableBound overflowBound
        generalize (2 : ℚ) ^ (970 : ℤ) = unit at scale ⊢
        rw [mul_right_comm]
        exact mul_lt_mul_of_pos_right (by norm_num) scale

/-- A significand scaled upwards to a number below the readable bound gives a finite number. -/
theorem scaleByTen_of_nonneg {significand : ℕ} (steps : ℕ) {exponent : ℤ} (up : 0 ≤ exponent)
    (small : (significand : ℚ) * 10 ^ exponent ≤ readableBound) :
    ∃ scaled, scaleByTen (steps + 1) (Double.ofNat significand) exponent = some scaled ∧
      scaled.Fits := by
  have product (near : exponent.natAbs ≤ 308)
      (fits : ((Double.ofNat significand).mul (powerOfTen exponent.natAbs)).Fits) :
      ∃ scaled, scaleByTen (steps + 1) (Double.ofNat significand) exponent = some scaled ∧
        scaled.Fits := by
    refine ⟨_, ?_, fits⟩
    rw [scaleByTen, if_pos near, if_pos up]
    exact if_pos (isFinite_of_fits fits)
  obtain none | positive := Nat.eq_zero_or_pos significand
  · rw [none] at product ⊢
    by_cases near : exponent.natAbs ≤ 308
    · refine product near (fits_mul fits_zero (fits_powerOfTen near) ?_)
      have empty : (Double.ofNat 0).size = 0 := by
        show ((0 : ℕ) : ℚ) * _ = 0
        rw [Nat.cast_zero, zero_mul]
      rw [empty, zero_mul]
      exact (size_nonneg zero).trans_lt (size_lt_overflowBound fits_zero)
    · refine ⟨zero, ?_, fits_zero⟩
      rw [scaleByTen, if_neg near]
      rfl
  · have bound := exponent_le_of_readable positive small
    have near : exponent.natAbs ≤ 308 := by omega
    have same : ((exponent.natAbs : ℕ) : ℤ) = exponent := Int.natAbs_of_nonneg up
    rw [← same, zpow_natCast] at small
    have fitsPower := fits_powerOfTen near
    have one : (1 : ℚ) ≤ 10 ^ exponent.natAbs := one_le_pow₀ (by norm_num)
    have whole : (significand : ℚ) < overflowBound :=
      (le_mul_of_one_le_right (Nat.cast_nonneg _) one).trans_lt (small.trans_lt readableBound_lt)
    exact product near (fits_mul (fits_ofNat whole) fitsPower
      (mul_lt_overflowBound positive near small))

/-- A significand of 64 bits and an exponent of ten whose number stays below the readable bound are
read as a finite number. -/
theorem ofParts_readable {significand : ℕ} (bits : significand < Word.size64) {exponent : ℤ}
    (small : (significand : ℚ) * 10 ^ exponent ≤ readableBound) :
    ∃ d : Double, d.Fits ∧ ∀ negative rest, ofParts negative significand exponent rest =
      .ok (double (if negative then d.neg else d), rest) := by
  obtain ⟨d, scaled, fits⟩ : ∃ d, scaleByTen 4 (Double.ofNat significand) exponent = some d ∧
      d.Fits := by
    by_cases up : 0 ≤ exponent
    · exact scaleByTen_of_nonneg 3 up small
    · refine scaleByTen_of_neg 4 (fits_ofNat (cast_lt_overflowBound ?_)) (by omega)
      exact bits.trans (by decide +kernel)
  refine ⟨d, fits, fun negative rest => ?_⟩
  rw [ofParts, scaled]

end Json

end TaskAutomation
