import TaskAutomation.Proofs.Json.NumberScale
import TaskAutomation.Proofs.Json.NumberText

/-!
This file proves that the text of a finite number can be read, whatever stands behind it. The
shortest decimal of a number lies between the middles towards its neighbours, so it is below the
readable bound for all but the largest three numbers, and for these the reading is computed. How the
digits are laid out does not matter for that: in every layout the digits of the whole part fit into
64 bits, and leaving out digits at the end only makes the number smaller.
-/

namespace TaskAutomation

/-- The exact value of a decimal. -/
def Decimal.value (d : Decimal) : ℚ := d.digits * 10 ^ d.exponent

theorem Decimal.value_stripZeros (fuel : ℕ) (d : Decimal) :
    (stripZeros fuel d).value = d.value := by
  induction fuel generalizing d with
  | zero => rfl
  | succ fuel inductionHypothesis =>
    unfold stripZeros
    split
    · next zeros =>
      rw [inductionHypothesis]
      have whole : d.digits = d.digits / 10 * 10 := by omega
      rw [value, value, zpow_add_one₀ (by norm_num)]
      conv_rhs => rw [whole]
      push_cast
      ring
    · rfl

namespace Double

/-! ### The interval of a number -/

theorem cast_pow_toNat_split {base : ℕ} (present : 0 < base) (exponent : ℤ) :
    ((Nat.pow base exponent.toNat : ℕ) : ℚ) =
      (base : ℚ) ^ exponent * (Nat.pow base (-exponent).toNat : ℕ) := by
  have nonzero : (base : ℚ) ≠ 0 := (Nat.cast_pos.mpr present).ne'
  show ((base ^ exponent.toNat : ℕ) : ℚ) = _ * ((base ^ (-exponent).toNat : ℕ) : ℚ)
  rw [Nat.cast_pow, Nat.cast_pow, ← zpow_natCast, ← zpow_natCast, ← zpow_add₀ nonzero]
  congr 1
  omega

/-- The factor of the interval and the factor of the grid, brought to whole numbers. -/
theorem scales_eq (binary point : ℤ) :
    ((Nat.pow 2 binary.toNat * Nat.pow 10 (-point).toNat : ℕ) : ℚ) * 10 ^ point =
      2 ^ binary * (Nat.pow 2 (-binary).toNat * Nat.pow 10 point.toNat : ℕ) := by
  have two := @cast_pow_toNat_split 2 (by norm_num) binary
  have ten := @cast_pow_toNat_split 10 (by norm_num) point
  rw [Nat.cast_ofNat] at two ten
  rw [Nat.cast_mul, Nat.cast_mul, two, ten]
  ring

/-- The place of a grid point that is inside of the interval, its ends among it. -/
theorem gridPoint?_inside {significand : ℕ} {exponent point : ℤ} {d : Decimal}
    (found : gridPoint? significand exponent point = some d) :
    d.exponent = point ∧
      (quarters significand exponent).1 *
          (Nat.pow 2 (exponent - 2).toNat * Nat.pow 10 (-point).toNat) ≤
        d.digits * (Nat.pow 2 (-(exponent - 2)).toNat * Nat.pow 10 point.toNat) ∧
      d.digits * (Nat.pow 2 (-(exponent - 2)).toNat * Nat.pow 10 point.toNat) ≤
        (quarters significand exponent).2.2 *
          (Nat.pow 2 (exponent - 2).toNat * Nat.pow 10 (-point).toNat) := by
  have weaken {c : Prop} [Decidable c] {low place high : ℕ}
      (inside : if c then low ≤ place ∧ place ≤ high else low < place ∧ place < high) :
      low ≤ place ∧ place ≤ high := by
    split at inside
    · exact inside
    · exact ⟨inside.1.le, inside.2.le⟩
  have chosen {c₁ c₂ c₃ : Prop} [Decidable c₁] [Decidable c₂] [Decidable c₃] {x y z : Decimal}
      (same : (if c₁ then if c₂ then some x else some y else if c₃ then some z else none) =
        some d) : (c₂ ∧ d = x) ∨ (c₁ ∧ d = y) ∨ (c₃ ∧ d = z) := by
    split at same
    · next first =>
      split at same
      · next second => exact Or.inl ⟨second, (Option.some.inj same).symm⟩
      · exact Or.inr (Or.inl ⟨first, (Option.some.inj same).symm⟩)
    · split at same
      · next third => exact Or.inr (Or.inr ⟨third, (Option.some.inj same).symm⟩)
      · cases same
  obtain ⟨both, rfl⟩ | ⟨inside, rfl⟩ | ⟨inside, rfl⟩ := chosen found
  · exact ⟨rfl, weaken both.1⟩
  · exact ⟨rfl, weaken inside⟩
  · exact ⟨rfl, weaken inside⟩

theorem quarters_bounds {significand : ℕ} (positive : 0 < significand) (exponent : ℤ) :
    (4 * significand - 2 : ℚ) ≤ (quarters significand exponent).1 ∧
      ((quarters significand exponent).2.2 : ℚ) = 4 * significand + 2 := by
  refine ⟨?_, ?_⟩
  · have lower : 4 * significand ≤ (quarters significand exponent).1 + 2 := by
      unfold quarters
      simp only
      split <;> omega
    have cast : ((4 * significand : ℕ) : ℚ) ≤ ((quarters significand exponent).1 + 2 : ℕ) :=
      Nat.cast_le.mpr lower
    push_cast at cast
    linarith
  · show ((4 * significand + 2 : ℕ) : ℚ) = _
    push_cast
    ring

/-- The decimal of a grid point lies in the interval of the number. -/
theorem gridPoint?_bounds {significand : ℕ} (positive : 0 < significand) {exponent point : ℤ}
    {d : Decimal} (found : gridPoint? significand exponent point = some d) :
    (4 * significand - 2 : ℚ) * 2 ^ (exponent - 2) ≤ d.value ∧
      d.value ≤ (4 * significand + 2) * 2 ^ (exponent - 2) := by
  obtain ⟨place, low, high⟩ := gridPoint?_inside found
  obtain ⟨least, most⟩ := quarters_bounds positive exponent
  have scales := scales_eq (exponent - 2) point
  obtain ⟨down, same⟩ : ∃ down : ℕ,
      down = Nat.pow 2 (-(exponent - 2)).toNat * Nat.pow 10 point.toNat := ⟨_, rfl⟩
  obtain ⟨up, equal⟩ : ∃ up : ℕ,
      up = Nat.pow 2 (exponent - 2).toNat * Nat.pow 10 (-point).toNat := ⟨_, rfl⟩
  have grid : (0 : ℚ) < down := by
    rw [same]
    exact Nat.cast_pos.mpr (Nat.mul_pos (Nat.pow_pos (by norm_num)) (Nat.pow_pos (by norm_num)))
  rw [← same, ← equal] at low high scales
  have ten : (0 : ℚ) < 10 ^ point := by positivity
  have low : ((quarters significand exponent).1 : ℚ) * up ≤ d.digits * down := by
    exact_mod_cast low
  have high : (d.digits : ℚ) * down ≤ (quarters significand exponent).2.2 * up := by
    exact_mod_cast high
  unfold Decimal.value
  rw [place]
  constructor
  · refine le_of_mul_le_mul_right ?_ grid
    calc (4 * significand - 2 : ℚ) * 2 ^ (exponent - 2) * down
        = (4 * significand - 2) * up * 10 ^ point := by rw [mul_assoc, ← scales, mul_assoc]
      _ ≤ (quarters significand exponent).1 * up * 10 ^ point := by gcongr
      _ ≤ d.digits * down * 10 ^ point := by gcongr
      _ = d.digits * 10 ^ point * down := by ring
  · refine le_of_mul_le_mul_right ?_ grid
    calc (d.digits : ℚ) * 10 ^ point * down
        = d.digits * down * 10 ^ point := by ring
      _ ≤ (quarters significand exponent).2.2 * up * 10 ^ point := by gcongr
      _ = (4 * significand + 2) * 2 ^ (exponent - 2) * down := by
          rw [most, mul_assoc, mul_assoc, ← scales]

/-- The shortest decimal of a number lies in its interval. -/
theorem shortest_bounds {significand : ℕ} (positive : 0 < significand) (exponent : ℤ) :
    (shortest significand exponent).digits = 0 ∧ (shortest significand exponent).exponent = 0 ∨
      (4 * significand - 2 : ℚ) * 2 ^ (exponent - 2) ≤ (shortest significand exponent).value ∧
        (shortest significand exponent).value ≤ (4 * significand + 2) * 2 ^ (exponent - 2) := by
  have search (fuel : ℕ) (point : ℤ) :
      searchGrids significand exponent fuel point = ⟨0, 0⟩ ∨
        ∃ place, gridPoint? significand exponent place =
          some (searchGrids significand exponent fuel point) := by
    induction fuel generalizing point with
    | zero =>
      unfold searchGrids
      cases found : gridPoint? significand exponent point with
      | none => exact Or.inl rfl
      | some d => exact Or.inr ⟨point, found⟩
    | succ fuel inductionHypothesis =>
      unfold searchGrids
      cases found : gridPoint? significand exponent point with
      | none => exact inductionHypothesis (point - 1)
      | some d => exact Or.inr ⟨point, found⟩
  unfold shortest
  simp only
  generalize (if 0 ≤ exponent then
      decimalMagnitude (significand * Nat.pow 2 exponent.toNat) 1
    else decimalMagnitude significand (Nat.pow 2 (-exponent).toNat)) = top
  obtain nothing | ⟨place, found⟩ := search 17 top
  · rw [nothing]
    exact Or.inl ⟨rfl, rfl⟩
  · rw [Decimal.value_stripZeros]
    exact Or.inr (gridPoint?_bounds positive found)

/-- Without a digit there is no exponent either. -/
theorem shortest_zero {significand : ℕ} (positive : 0 < significand) (exponent : ℤ)
    (none : (shortest significand exponent).digits = 0) :
    (shortest significand exponent).exponent = 0 := by
  obtain ⟨-, place⟩ | ⟨low, -⟩ := shortest_bounds positive exponent
  · exact place
  · have whole : (1 : ℚ) ≤ significand := Nat.one_le_cast.mpr positive
    have above := mul_pos (show (0 : ℚ) < 4 * significand - 2 by linarith)
      (two_zpow_pos (exponent - 2))
    rw [Decimal.value, none, Nat.cast_zero, zero_mul] at low
    exact absurd low (not_le.mpr above)

end Double

namespace Json

open Double

/-! ### The layout of digits -/

/-- Digits, with or without an exponent, that stand for a decimal: a whole part of 64 bits at most
and perhaps a fraction. -/
structure Layout (d : Decimal) (whole fraction : List Char) (power? : Option ℤ) : Prop where
  leads : Leads whole
  small : Nat.ofDigitChars 10 whole 0 < Word.size64
  digits : AllDigits fraction
  decimal : fraction ≠ [] ∨ power? ≠ none
  exact : (Nat.ofDigitChars 10 (whole ++ fraction) 0 : ℚ) *
    10 ^ (power?.getD 0 - fraction.length : ℤ) = d.value

theorem toList_exponent (power : ℤ) :
    ((if power < 0 then "e-" else "e+") ++ toString power.natAbs).toList = exponentText power := by
  rw [String.toList_append, Nat.toString_eq_ofList_toDigits, String.toList_ofList, exponentText]
  split <;> rfl

theorem leads_singleton {c : Char} (digit : c.isDigit = true) : Leads [c] := by
  refine ⟨fun other member => ?_, List.cons_ne_nil c [], fun rest same => ?_⟩
  · rw [List.mem_singleton.mp member]
    exact digit
  · exact (List.cons.inj same).2.symm

theorem ofDigitChars_lt_size64 {digits : List Char} (all : AllDigits digits)
    (short : digits.length ≤ 16) : Nat.ofDigitChars 10 digits 0 < Word.size64 :=
  (ofDigitChars_lt all).trans ((Nat.pow_le_pow_right (by decide) short).trans_lt (by decide))

theorem allDigits_replicate (count : ℕ) : AllDigits (List.replicate count '0') := by
  intro c member
  rw [(List.mem_replicate.mp member).2]
  rfl

/-- One digit in front of the point, and an exponent. -/
theorem layout_scientific (d : Decimal) {first : Char} {rest : List Char}
    (split : Nat.toDigits 10 d.digits = first :: rest) :
    Layout d [first] rest (some (rest.length + d.exponent)) := by
  have all := allDigits_toDigits d.digits
  have value := @Nat.ofDigitChars_ten_toDigits d.digits
  rw [split] at all value
  have leads := leads_singleton (all first List.mem_cons_self)
  refine ⟨leads, ofDigitChars_lt_size64 leads.1 (Nat.le_add_left 1 15),
    fun c member => all c (List.mem_cons_of_mem first member), Or.inr (Option.some_ne_none _), ?_⟩
  rw [List.singleton_append, value, Option.getD_some, Decimal.value]
  congr 2
  omega

/-- All digits in front of the point, filled up with zeros. -/
theorem layout_whole (d : Decimal) (zero : d.digits = 0 → d.exponent = 0) (up : 0 ≤ d.exponent)
    (short : (Nat.toDigits 10 d.digits).length + d.exponent ≤ 16) :
    Layout d (Nat.toDigits 10 d.digits ++ List.replicate d.exponent.toNat '0') ['0'] none := by
  have value := @Nat.ofDigitChars_ten_toDigits d.digits
  have all := allDigits_append (allDigits_toDigits d.digits)
    (allDigits_replicate d.exponent.toNat)
  have present := @Nat.toDigits_ne_nil d.digits 10
  refine ⟨⟨all, List.append_ne_nil_of_left_ne_nil present _, fun rest same => ?_⟩,
    ofDigitChars_lt_size64 all ?_, allDigits_replicate 1, Or.inl (List.cons_ne_nil _ _), ?_⟩
  · -- Only zero starts with the digit zero, and zero is not filled up.
    obtain ⟨first, more, split⟩ := List.exists_cons_of_ne_nil present
    rw [split, List.cons_append] at same
    obtain ⟨rfl, tail⟩ := List.cons.inj same
    have alone := (leads_toDigits d.digits).2.2 more split
    rw [split, alone] at value
    rw [zero value.symm, alone] at tail
    exact tail.symm
  · rw [List.length_append, List.length_replicate]
    omega
  · obtain ⟨count, power⟩ := Int.eq_ofNat_of_zero_le up
    rw [Nat.ofDigitChars_append, Nat.ofDigitChars_append, value, Nat.ofDigitChars_replicate_zero,
      Option.getD_none, Decimal.value, power, Int.toNat_natCast, zpow_natCast]
    show ((Nat.ofDigitChars 10 (List.replicate 1 '0') _ : ℕ) : ℚ) * 10 ^ (-1 : ℤ) = _
    rw [Nat.ofDigitChars_replicate_zero]
    push_cast
    rw [zpow_neg_one]
    ring

/-- A point between the digits. -/
theorem layout_between (d : Decimal) (down : d.exponent < 0)
    (inside : 0 < (Nat.toDigits 10 d.digits).length + d.exponent)
    (short : (Nat.toDigits 10 d.digits).length + d.exponent ≤ 16) :
    Layout d
      ((Nat.toDigits 10 d.digits).take ((Nat.toDigits 10 d.digits).length + d.exponent).toNat)
      ((Nat.toDigits 10 d.digits).drop ((Nat.toDigits 10 d.digits).length + d.exponent).toNat)
      none := by
  have value := @Nat.ofDigitChars_ten_toDigits d.digits
  have leads := leads_toDigits d.digits
  generalize Nat.toDigits 10 d.digits = digits at value leads inside short ⊢
  obtain ⟨all, present, unpadded⟩ := leads
  obtain ⟨count, same⟩ : ∃ count : ℕ, count = (digits.length + d.exponent).toNat := ⟨_, rfl⟩
  rw [← same]
  have front : AllDigits (digits.take count) := fun c member => all c (List.mem_of_mem_take member)
  have length : (digits.take count).length = count := by
    rw [List.length_take]
    omega
  refine ⟨⟨front, fun none => ?_, fun rest starts => ?_⟩, ofDigitChars_lt_size64 front (by omega),
    fun c member => all c (List.mem_of_mem_drop member), Or.inl fun none => ?_, ?_⟩
  · rw [none, List.length_nil] at length
    omega
  · -- A number that starts with the digit zero has one digit only.
    have whole := List.take_append_drop count digits
    rw [starts, List.cons_append] at whole
    have alone := unpadded _ whole.symm
    exact (List.append_eq_nil_iff.mp alone).1
  · have rest := @List.length_drop _ count digits
    rw [none, List.length_nil] at rest
    omega
  · rw [List.take_append_drop, value, Option.getD_none, Decimal.value, List.length_drop]
    congr 2
    omega

/-- Nothing but a zero in front of the point. -/
theorem layout_below (d : Decimal) (before : (Nat.toDigits 10 d.digits).length + d.exponent ≤ 0) :
    Layout d ['0']
      (List.replicate (-((Nat.toDigits 10 d.digits).length + d.exponent)).toNat '0' ++
        Nat.toDigits 10 d.digits) none := by
  have value := @Nat.ofDigitChars_ten_toDigits d.digits
  have present := @Nat.toDigits_ne_nil d.digits 10
  refine ⟨leads_singleton rfl, by decide,
    allDigits_append (allDigits_replicate _) (allDigits_toDigits _),
    Or.inl (List.append_ne_nil_of_right_ne_nil _ present), ?_⟩
  show ((Nat.ofDigitChars 10 (List.replicate 1 '0' ++ (_ ++ _)) 0 : ℕ) : ℚ) * _ = _
  rw [Nat.ofDigitChars_append, Nat.ofDigitChars_append, Nat.ofDigitChars_replicate_zero,
    Nat.ofDigitChars_replicate_zero, Nat.mul_zero, value, Option.getD_none,
    Decimal.value, List.length_append, List.length_replicate]
  congr 2
  omega

/-- Every decimal is written in one of these layouts. -/
theorem write_layout (d : Decimal) (zero : d.digits = 0 → d.exponent = 0) :
    ∃ whole fraction power?, (recordLayout.write d).toList = decimalText whole fraction power? ∧
      Layout d whole fraction power? ∧
      ∀ power ∈ power?, power = (Nat.toDigits 10 d.digits).length + d.exponent - 1 := by
  unfold DigitLayout.write recordLayout
  simp only
  split
  · next positional =>
    split
    · next up =>
      refine ⟨_, _, none, ?_, layout_whole d zero up positional.2, nofun⟩
      rw [String.toList_append, String.toList_ofList]
      rfl
    · next down =>
      split
      · next inside =>
        refine ⟨_, _, none, ?_, layout_between d (by omega) inside positional.2, nofun⟩
        have present : (Nat.toDigits 10 d.digits).drop
            ((Nat.toDigits 10 d.digits).length + d.exponent).toNat ≠ [] := fun none => by
          have rest := List.drop_eq_nil_iff.mp none
          omega
        simp only [String.toList_append, String.toList_ofList, decimalText, if_neg present,
          Option.elim_none, List.append_nil, List.append_assoc]
        rfl
      · next before =>
        refine ⟨_, _, none, ?_, layout_below d (by omega), nofun⟩
        have present := List.append_ne_nil_of_right_ne_nil
          (List.replicate (-((Nat.toDigits 10 d.digits).length + d.exponent)).toNat '0')
          (@Nat.toDigits_ne_nil d.digits 10)
        simp only [String.toList_append, String.toList_ofList, decimalText, if_neg present,
          Option.elim_none, List.append_nil]
        rfl
  · split
    · next none => exact absurd none Nat.toDigits_ne_nil
    · next one split =>
      refine ⟨_, _, _, ?_, layout_scientific d split, fun power same => ?_⟩
      · have power : ((Nat.toDigits 10 d.digits).length : ℤ) + d.exponent - 1 =
            ([] : List Char).length + d.exponent := by
          rw [split]
          simp only [List.length_nil, List.length_singleton]
          omega
        rw [String.toList_append, toList_exponent, power, String.toList_singleton]
        rfl
      · rw [split, ← Option.some.inj same]
        simp only [List.length_nil, List.length_singleton]
        omega
    · next first rest several split =>
      have power : ((Nat.toDigits 10 d.digits).length : ℤ) + d.exponent - 1 =
          rest.length + d.exponent := by
        rw [split, List.length_cons]
        omega
      refine ⟨_, _, _, ?_, layout_scientific d split, fun _ same => ?_⟩
      · have present : rest ≠ [] := several
        simp only [decimalText, if_neg present, Option.elim_some, ← toList_exponent, power,
          String.toList_append, String.toList_singleton, String.toList_ofList, List.append_assoc]
        rfl
      · rw [power, ← Option.some.inj same]

/-! ### Reading what was written -/

/-- The text of a decimal is read as a significand of 64 bits and an exponent of ten whose number is
at most the decimal, the same ones whatever stands behind it. -/
theorem number_write (d : Decimal) (zero : d.digits = 0 → d.exponent = 0)
    (near : ((Nat.toDigits 10 d.digits).length + d.exponent - 1).natAbs ≤ maxWritten) :
    ∃ (significand : ℕ) (exponent : ℤ), significand < Word.size64 ∧
      (significand : ℚ) * 10 ^ exponent ≤ d.value ∧
      ∀ negative rest, EndsNumber rest →
        number negative ((recordLayout.write d).toList ++ rest) =
          ofParts negative significand exponent rest := by
  obtain ⟨whole, fraction, power?, text, layout, place⟩ := write_layout d zero
  obtain ⟨used, left, split, bits, read⟩ := number_decimalText layout.leads layout.small
    layout.digits power? (fun power same => by rw [place power same]; exact near) layout.decimal
  refine ⟨Nat.ofDigitChars 10 (whole ++ used) 0, power?.getD 0 - used.length, bits, ?_,
    fun negative rest ends => ?_⟩
  · have kept : Nat.ofDigitChars 10 (whole ++ used) 0 * 10 ^ left.length ≤
        Nat.ofDigitChars 10 (whole ++ fraction) 0 := by
      rw [split, ← List.append_assoc, @Nat.ofDigitChars_append _ (whole ++ used),
        @Nat.ofDigitChars_eq_ofDigitChars_zero left, Nat.mul_comm]
      exact Nat.le_add_right _ _
    have cast : ((Nat.ofDigitChars 10 (whole ++ used) 0 : ℕ) : ℚ) * 10 ^ (left.length : ℤ) ≤
        (Nat.ofDigitChars 10 (whole ++ fraction) 0 : ℕ) := by
      rw [zpow_natCast]
      exact_mod_cast kept
    have places : power?.getD 0 - (used.length : ℤ) =
        left.length + (power?.getD 0 - fraction.length) := by
      rw [split, List.length_append]
      omega
    rw [← layout.exact, places, zpow_add₀ (by norm_num), ← mul_assoc]
    exact mul_le_mul_of_nonneg_right cast (by positivity)
  · rw [text]
    exact read negative rest ends

/-- The number of digits of a decimal, by its powers of ten. -/
theorem zpow_length_le {d : Decimal} (present : d.digits ≠ 0) :
    (10 : ℚ) ^ ((Nat.toDigits 10 d.digits).length + d.exponent - 1) ≤ d.value ∧
      d.value < 10 ^ ((Nat.toDigits 10 d.digits).length + d.exponent) := by
  have ten : (0 : ℚ) < 10 ^ d.exponent := by positivity
  have positive : 0 < (Nat.toDigits 10 d.digits).length := Nat.length_toDigits_pos
  generalize same : (Nat.toDigits 10 d.digits).length = length at positive ⊢
  have most : d.digits < 10 ^ length :=
    (Nat.length_toDigits_le_iff (by norm_num) positive).mp same.le
  have least : 10 ^ (length - 1) ≤ d.digits := by
    by_contra below
    obtain one | several := Nat.eq_zero_or_pos (length - 1)
    · rw [one] at below
      omega
    · have fewer := (Nat.length_toDigits_le_iff (by norm_num) several).mpr (not_le.mp below)
      omega
  have most : (d.digits : ℚ) < 10 ^ (length : ℤ) := by
    rw [zpow_natCast]
    exact_mod_cast most
  have least : (10 : ℚ) ^ ((length : ℤ) - 1) ≤ d.digits := by
    rw [← Nat.cast_pred positive, zpow_natCast]
    exact_mod_cast least
  rw [Decimal.value, zpow_add₀ (by norm_num), add_sub_right_comm, zpow_add₀ (by norm_num)]
  exact ⟨mul_le_mul_of_nonneg_right least ten.le, mul_lt_mul_of_pos_right most ten⟩

/-- The exponent that is written for the shortest decimal of a number is small. -/
theorem shortest_near {significand : ℕ} (positive : 0 < significand) {exponent : ℤ}
    (bits : significand < 2 ^ 53) (least : minExponent ≤ exponent)
    (most : exponent ≤ maxExponent) :
    ((Nat.toDigits 10 (shortest significand exponent).digits).length +
      (shortest significand exponent).exponent - 1).natAbs ≤ maxWritten := by
  obtain ⟨digits, place⟩ | ⟨low, high⟩ := shortest_bounds positive exponent
  · rw [digits, place]
    decide
  have whole : (1 : ℚ) ≤ significand := Nat.one_le_cast.mpr positive
  have bits : (significand : ℚ) ≤ 2 ^ 53 := by exact_mod_cast bits.le
  have least : (2 : ℚ) ^ (-1076 : ℤ) ≤ 2 ^ (exponent - 2) := by
    refine zpow_le_zpow_right₀ (by norm_num) ?_
    have : minExponent = -1074 := rfl
    omega
  have most : (2 : ℚ) ^ (exponent - 2) ≤ 2 ^ (969 : ℤ) := by
    refine zpow_le_zpow_right₀ (by norm_num) ?_
    have : maxExponent = 971 := rfl
    omega
  have scale := two_zpow_pos (exponent - 2)
  have low : (2 : ℚ) ^ (-1076 : ℤ) ≤ (shortest significand exponent).value := by
    refine least.trans (le_trans ?_ low)
    exact le_mul_of_one_le_left scale.le (by linarith)
  have high : (shortest significand exponent).value ≤ 2 ^ (1025 : ℤ) := by
    refine high.trans ?_
    calc (4 * significand + 2 : ℚ) * 2 ^ (exponent - 2)
        ≤ 2 ^ (56 : ℤ) * 2 ^ (969 : ℤ) := by
          refine mul_le_mul ?_ most scale.le (by positivity)
          norm_num
          linarith
      _ = 2 ^ (1025 : ℤ) := by rw [← zpow_add₀ (by norm_num)]; norm_num
  have present : (shortest significand exponent).digits ≠ 0 := fun none => by
    rw [Decimal.value, none, Nat.cast_zero, zero_mul] at low
    exact absurd low (not_le.mpr (two_zpow_pos _))
  obtain ⟨below, above⟩ := zpow_length_le present
  have up := below.trans (high.trans (show (2 : ℚ) ^ (1025 : ℤ) ≤ 10 ^ (400 : ℤ) by
    have bound : 2 ^ 1025 ≤ 10 ^ 400 := by decide +kernel
    exact_mod_cast bound))
  have down := lt_of_le_of_lt (low.trans' (show (10 : ℚ) ^ (-400 : ℤ) ≤ 2 ^ (-1076 : ℤ) by
    have bound : 2 ^ 1076 ≤ 10 ^ 400 := by decide +kernel
    rw [zpow_neg, zpow_neg]
    exact inv_anti₀ (by positivity) (by exact_mod_cast bound))) above
  have upper := (zpow_le_zpow_iff_right₀ (by norm_num)).mp up
  have lower := (zpow_lt_zpow_iff_right₀ (by norm_num)).mp down
  have : maxWritten = 2147483647 := rfl
  omega

/-- The three largest numbers are not below the readable bound, and still they are read. -/
theorem number_largest : ∀ below ∈ [1, 2, 3],
    (match number false (recordLayout.write (shortest (2 ^ 53 - below) maxExponent)).toList with
      | .ok (double d, _) => decide d.Fits
      | _ => false) = true := by
  decide +kernel

theorem value_le_readableBound {significand : ℕ} (positive : 0 < significand) {exponent : ℤ}
    (bits : significand < 2 ^ 53) (most : exponent ≤ maxExponent)
    (smaller : ¬ (exponent = maxExponent ∧ 2 ^ 53 - 3 ≤ significand)) :
    (shortest significand exponent).value ≤ readableBound := by
  have scale := two_zpow_pos (exponent - 2)
  obtain ⟨digits, _⟩ | ⟨_, high⟩ := shortest_bounds positive exponent
  · rw [Decimal.value, digits, Nat.cast_zero, zero_mul]
    exact mul_nonneg (by norm_num) (by positivity)
  · refine high.trans ?_
    have last : maxExponent = 971 := rfl
    obtain same | lower : exponent = maxExponent ∨ exponent - 2 ≤ 968 := by omega
    · have fewer : significand + 4 ≤ 2 ^ 53 := by omega
      have fewer : (significand + 4 : ℚ) ≤ 2 ^ 53 := by exact_mod_cast fewer
      rw [same, last, readableBound, show (970 : ℤ) = 971 - 2 + 1 from rfl, two_zpow_succ]
      rw [same, last] at scale
      generalize (2 : ℚ) ^ (971 - 2 : ℤ) = unit at scale ⊢
      rw [mul_comm unit 2, ← mul_assoc]
      exact mul_le_mul_of_nonneg_right (by linarith) scale.le
    · have fewer : (significand : ℚ) + 1 ≤ 2 ^ 53 := by exact_mod_cast bits
      have step : (2 : ℚ) ^ (exponent - 2) ≤ 2 ^ (968 : ℤ) :=
        zpow_le_zpow_right₀ (by norm_num) lower
      have unit := two_zpow_pos 968
      calc (4 * significand + 2 : ℚ) * 2 ^ (exponent - 2)
          ≤ 2 ^ 55 * 2 ^ (968 : ℤ) :=
            mul_le_mul (by linarith) step scale.le (by norm_num)
        _ ≤ readableBound := by
            rw [readableBound, show (970 : ℤ) = 968 + 1 + 1 from rfl, two_zpow_succ, two_zpow_succ]
            generalize (2 : ℚ) ^ (968 : ℤ) = unit at unit ⊢
            linarith

/-- The text of a positive number is read as a number, up to its sign the same one with and without
a sign in front. -/
theorem number_shortest {significand : ℕ} (positive : 0 < significand) {exponent : ℤ}
    (bits : significand < 2 ^ 53) (least : minExponent ≤ exponent)
    (most : exponent ≤ maxExponent) :
    ∃ d : Double, d.Fits ∧ ∀ negative rest, EndsNumber rest →
      number negative ((recordLayout.write (shortest significand exponent)).toList ++ rest) =
        .ok (double (if negative then d.neg else d), rest) := by
  obtain ⟨read, power, size, small, reads⟩ := number_write _ (shortest_zero positive exponent)
    (shortest_near positive bits least most)
  by_cases largest : exponent = maxExponent ∧ 2 ^ 53 - 3 ≤ significand
  · obtain ⟨rfl, near⟩ := largest
    have found := number_largest (2 ^ 53 - significand) (by
      simp only [List.mem_cons, List.not_mem_nil, or_false]
      omega)
    rw [Nat.sub_sub_self bits.le] at found
    have plain := reads false [] endsNumber_nil
    rw [List.append_nil] at plain
    rw [plain] at found
    cases scaled : scaleByTen 4 (Double.ofNat read) power with
    | none =>
      rw [ofParts, scaled] at found
      cases found
    | some d =>
      rw [ofParts, scaled] at found
      refine ⟨d, of_decide_eq_true found, fun negative rest ends => ?_⟩
      rw [reads negative rest ends, ofParts, scaled]
  · have readable : (shortest significand exponent).value ≤ readableBound :=
      value_le_readableBound positive bits most largest
    obtain ⟨d, fits, parts⟩ := ofParts_readable size (small.trans readable)
    exact ⟨d, fits, fun negative rest ends => (reads negative rest ends).trans (parts _ _)⟩

/-- The text of a finite number is the one of a decimal, and a number can be read from it. -/
theorem text_eq_write {d : Double} (fits : d.Fits) :
    ∃ (negative : Bool) (decimal : Decimal) (read : Double),
      d.text = (if negative then "-" else "") ++ recordLayout.write decimal ∧
        (decimal.digits = 0 → decimal.exponent = 0) ∧ read.Fits ∧
        ∀ minus rest, EndsNumber rest →
          number minus ((recordLayout.write decimal).toList ++ rest) =
            .ok (double (if minus then read.neg else read), rest) := by
  cases d with
  | nan => exact fits.elim
  | infinite negative => exact fits.elim
  | finite negative significand exponent =>
    obtain ⟨bits, least, most⟩ := fits
    obtain rfl | positive := Nat.eq_zero_or_pos significand
    · -- Zero is written like the decimal with no digit but zero.
      obtain ⟨kept, power, size, small, reads⟩ := number_write ⟨0, 0⟩ (fun _ => rfl) (by decide)
      rw [Decimal.value, Nat.cast_zero, zero_mul] at small
      obtain ⟨read, readFits, parts⟩ := ofParts_readable size
        (small.trans (mul_nonneg (by norm_num) (two_zpow_pos 970).le))
      exact ⟨negative, ⟨0, 0⟩, read, rfl, fun _ => rfl, readFits, fun minus rest ends =>
        (reads minus rest ends).trans (parts minus rest)⟩
    · obtain ⟨read, readFits, reads⟩ := number_shortest positive bits least most
      refine ⟨negative, shortest significand exponent, read, ?_, shortest_zero positive exponent,
        readFits, reads⟩
      rw [text, if_neg positive.ne']

theorem startsWithDigit_write {decimal : Decimal} (zero : decimal.digits = 0 → decimal.exponent = 0)
    (rest : List Char) : startsWithDigit ((recordLayout.write decimal).toList ++ rest) = true := by
  obtain ⟨whole, fraction, power?, layout, ⟨leads, -⟩, -⟩ := write_layout decimal zero
  rw [layout, decimalText, List.append_assoc]
  exact leads.startsWithDigit _

/-- The text of a finite number is read as a finite number, the same one whatever stands behind
it. -/
theorem value_text {d : Double} (fits : d.Fits) :
    ∃ read : Double, read.Fits ∧ ∀ fuel levels rest, EndsNumber rest →
      value (fuel + 1) levels (d.text.toList ++ rest) = .ok (double read, rest) := by
  obtain ⟨negative, decimal, read, text, zero, readFits, reads⟩ := text_eq_write fits
  cases negative with
  | true =>
    refine ⟨read.neg, fits_neg readFits, fun fuel levels rest ends => ?_⟩
    rw [text, String.toList_append, List.append_assoc]
    exact (value_of_minus fuel levels _).trans (reads true rest ends)
  | false =>
    refine ⟨read, readFits, fun fuel levels rest ends => ?_⟩
    rw [text, String.toList_append, List.append_assoc]
    exact (value_of_digit fuel levels (startsWithDigit_write zero rest)).trans
      (reads false rest ends)

/-- The text of a finite number starts with a minus sign or a digit. -/
theorem text_starts {d : Double} (fits : d.Fits) :
    ∃ c rest, d.text.toList = c :: rest ∧ (c = '-' ∨ c.isDigit = true) := by
  obtain ⟨negative, decimal, -, text, zero, -⟩ := text_eq_write fits
  have starts := startsWithDigit_write zero []
  rw [List.append_nil] at starts
  cases negative with
  | true =>
    refine ⟨'-', (recordLayout.write decimal).toList, ?_, Or.inl rfl⟩
    rw [text, String.toList_append]
    rfl
  | false =>
    cases written : (recordLayout.write decimal).toList with
    | nil =>
      rw [written] at starts
      cases starts
    | cons c rest =>
      rw [written] at starts
      refine ⟨c, rest, ?_, Or.inr starts⟩
      rw [text, String.toList_append, written]
      rfl

end Json

end TaskAutomation
