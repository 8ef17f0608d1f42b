import CallWatch.Proofs.Binary64.Rounding

/-! Rounding keeps the order of quotients and stays near them.
Of two quotients with one denominator the greater is not rounded to a smaller number, and no
quotient is moved by more than half a unit of its last place. So operations with one operand
fixed keep the order of the other.
-/

namespace CallWatch.Binary64

-----------------------------------------------------------------------------------------
-- Integers
-----------------------------------------------------------------------------------------

/-- The integer nearest to a quotient is not more than half away from it. -/
theorem roundHalfEven_near {num den : Nat} (positive : 0 < den)
    : 2 * (roundHalfEven num den * den) ≤ 2 * num + den
      ∧ 2 * num ≤ 2 * (roundHalfEven num den * den) + den := by
  have whole := Nat.div_add_mod num den
  have rest := Nat.mod_lt num positive
  rw [Nat.mul_comm] at whole
  simp only [roundHalfEven]
  split
  · omega
  · split
    · rw [Nat.add_mul, Nat.one_mul]
      omega
    · rcases Nat.mod_two_eq_zero_or_one (num / den) with even | odd
      · rw [even, Nat.add_zero]
        omega
      · rw [odd, Nat.add_mul, Nat.one_mul]
        omega

/-- Rounding to integers keeps the order, by cases on whether the whole parts agree. -/
theorem roundHalfEven_mono {num more : Nat} (den : Nat) (h : num ≤ more)
    : roundHalfEven num den ≤ roundHalfEven more den := by
  have floors : num / den ≤ more / den := Nat.div_le_div_right h
  rcases Nat.eq_or_lt_of_le floors with same | before
  · have whole := Nat.div_add_mod num den
    have wholeMore := Nat.div_add_mod more den
    rw [← same] at wholeMore
    simp only [roundHalfEven, ← same]
    repeat' split
    all_goals omega
  · rcases roundHalfEven_cases num den with low | low <;>
      rcases roundHalfEven_cases more den with high | high <;> omega

-----------------------------------------------------------------------------------------
-- Magnitudes
-----------------------------------------------------------------------------------------

@[simp] theorem ofRatio_negative (negative : Bool) (num den : Nat)
    : (ofRatio negative num den).negative = negative := rfl

@[simp] theorem ofRatio_magnitude (negative : Bool) (num den : Nat)
    : (ofRatio negative num den).magnitude = nearest num den := rfl

@[simp] theorem ofNat_negative (n : Nat)
    : (ofNat n).negative = false := rfl

/-- As many places are cut of a quotient as it has more than 53, so of a smaller one not more
are cut.
-/
theorem Cuts.le {numerator bound den cut most : Nat} (cuts : Cuts numerator den cut)
    (h : numerator ≤ bound) (fits : bound < twoPow 53 * (den * twoPow most))
    : cut ≤ most := by
  refine Nat.le_of_not_lt fun more => ?_
  have full := cuts.normal.resolve_left (by omega)
  have above : twoPow 53 * (den * twoPow most) ≤ twoPow 52 * (den * twoPow cut) := by
    calc
      twoPow 53 * (den * twoPow most) = twoPow 52 * (den * twoPow (most + 1)) := by
        rw [Nat.mul_left_comm, Nat.mul_left_comm (twoPow 52), ← twoPow_add, ← twoPow_add,
          Nat.add_comm most 1, ← Nat.add_assoc]
      _ ≤ twoPow 52 * (den * twoPow cut) :=
        Nat.mul_le_mul_left _ (Nat.mul_le_mul_left _ (twoPow_le more))
  omega

/-- Rounding keeps the order of quotients with one denominator, by cases on whether as many
places are cut of both.
-/
theorem nearest_mono {num more den : Nat} (positive : 0 < den) (h : num ≤ more)
    : nearest num den ≤ nearest more den := by
  have grows : num * twoPow 1074 ≤ more * twoPow 1074 := Nat.mul_le_mul_right _ h
  have cuts := cuts_log2 (num * twoPow 1074) positive
  have cutsMore := cuts_log2 (more * twoPow 1074) positive
  have fewer := cuts.le grows cutsMore.fits
  simp only [nearest]
  generalize (num * twoPow 1074 / den).log2 - 52 = cut at cuts fewer ⊢
  generalize (more * twoPow 1074 / den).log2 - 52 = cutMore at cutsMore fewer ⊢
  have between : cut * twoPow 52 + roundHalfEven (num * twoPow 1074) (den * twoPow cut)
      ≤ cutMore * twoPow 52 + roundHalfEven (more * twoPow 1074) (den * twoPow cutMore) := by
    rcases Nat.eq_or_lt_of_le fewer with same | before
    · rw [same]
      exact Nat.add_le_add_left (roundHalfEven_mono _ grows) _
    · have bound := roundHalfEven_le (Nat.mul_pos positive (twoPow_pos cut))
        (Nat.le_of_lt cuts.fits)
      have full := le_roundHalfEven (Nat.mul_pos positive (twoPow_pos cutMore))
        (cutsMore.normal.resolve_left (by omega))
      have ahead : (cut + 1) * twoPow 52 ≤ cutMore * twoPow 52 := Nat.mul_le_mul_right _ before
      rw [twoPow_succ 52] at bound
      rw [Nat.add_mul, Nat.one_mul] at ahead
      omega
  exact Nat.le_min.mpr
    ⟨Nat.min_le_left _ _, Nat.le_trans (Nat.min_le_right _ _) between⟩

/-- A significand that has rounded up to 2^53 still has the value of its places: the carry goes
into the exponent.
-/
theorem scaled_rounded {significand cut : Nat} (most : significand ≤ twoPow 53)
    (normal : cut = 0 ∨ twoPow 52 ≤ significand)
    : scaled (cut * twoPow 52 + significand) = significand * twoPow cut := by
  rcases Nat.eq_or_lt_of_le most with full | fits
  · have places : Places (twoPow 52) (cut + 1) := ⟨by decide, .inr (Nat.le_refl _)⟩
    have carried : cut * twoPow 52 + twoPow 53 = (cut + 1) * twoPow 52 + twoPow 52 := by
      rw [twoPow_succ 52, Nat.add_mul]
      omega
    rw [full, carried, places.scaled, ← twoPow_add, ← twoPow_add]
    congr 1
    omega
  · exact Places.scaled ⟨fits, normal⟩

/-- A quotient that needs no more than some places cut is not moved by more than half a unit of
the last place that is left.
-/
theorem scaled_nearest_near {num den most : Nat} (positive : 0 < den) (inside : most ≤ 2044)
    (fits : num * twoPow 1074 < twoPow 53 * (den * twoPow most))
    : 2 * (scaled (nearest num den) * den) ≤ 2 * (num * twoPow 1074) + den * twoPow most
      ∧ 2 * (num * twoPow 1074) ≤ 2 * (scaled (nearest num den) * den) + den * twoPow most := by
  have cuts := cuts_log2 (num * twoPow 1074) positive
  have few := cuts.le (Nat.le_refl _) fits
  simp only [nearest]
  generalize (num * twoPow 1074 / den).log2 - 52 = cut at cuts few ⊢
  have unit : 0 < den * twoPow cut := Nat.mul_pos positive (twoPow_pos cut)
  have bound := roundHalfEven_le unit (Nat.le_of_lt cuts.fits)
  have near := @roundHalfEven_near (num * twoPow 1074) _ unit
  have normal : cut = 0 ∨ twoPow 52 ≤ roundHalfEven (num * twoPow 1074) (den * twoPow cut) :=
    cuts.normal.imp_right (le_roundHalfEven unit)
  generalize roundHalfEven (num * twoPow 1074) (den * twoPow cut) = rounded at bound near normal ⊢
  have finite : cut * twoPow 52 + rounded ≤ infinite := by
    have exponent : cut * twoPow 52 ≤ 2044 * twoPow 52 :=
      Nat.mul_le_mul_right _ (Nat.le_trans few inside)
    rw [twoPow_succ 52] at bound
    simp only [infinite]
    omega
  have units : den * twoPow cut ≤ den * twoPow most := Nat.mul_le_mul_left _ (twoPow_le few)
  rw [Nat.min_eq_right finite, scaled_rounded bound normal, Nat.mul_assoc,
    Nat.mul_comm (twoPow cut)]
  omega

-----------------------------------------------------------------------------------------
-- Comparison
-----------------------------------------------------------------------------------------

/-- A number is finite or infinite. -/
theorem isNaN_eq_false_iff {x : Binary64}
    : x.isNaN = false ↔ x.magnitude ≤ infinite := by
  simp only [isNaN, decide_eq_false_iff_not, Nat.not_lt]

/-- The comparison of numbers by their values. Both zeros have one value, and the encoding of
infinity, taken as that of a value, lies past all finite ones; what is no number compares to
nothing.
-/
def AtMost (x y : Binary64) : Prop :=
  x.isNaN = false ∧ y.isNaN = false ∧ x.scaledInt ≤ y.scaledInt

instance (x y : Binary64) : Decidable (x.AtMost y) :=
  inferInstanceAs (Decidable (_ ∧ _ ∧ _))

/-- Numbers that are not negative compare as their magnitudes do. -/
theorem atMost_iff_of_positive {x y : Binary64} (first : x.negative = false)
    (second : y.negative = false)
    : x.AtMost y
      ↔ x.magnitude ≤ infinite ∧ y.magnitude ≤ infinite ∧ x.magnitude ≤ y.magnitude := by
  rw [AtMost, isNaN_eq_false_iff, isNaN_eq_false_iff, scaledInt, scaledInt, first, second,
    if_neg Bool.false_ne_true, if_neg Bool.false_ne_true, Int.ofNat_le, scaled_le_iff]

/-- A number that is not negative is not above a negative one, unless it is zero. -/
theorem AtMost.cases_of_positive {x y : Binary64} (h : x.AtMost y) (first : x.negative = false)
    : x.magnitude = 0 ∨ y.negative = false ∧ x.magnitude ≤ y.magnitude := by
  cases second : y.negative with
  | false => exact .inr ⟨rfl, ((atMost_iff_of_positive first second).mp h).2.2⟩
  | true =>
      have values := h.2.2
      rw [scaledInt, scaledInt, first, second, if_neg Bool.false_ne_true, if_pos rfl] at values
      have none : scaled x.magnitude ≤ scaled 0 := by
        have zero : scaled 0 = 0 := rfl
        omega
      exact .inl (Nat.le_zero.mp (scaled_le_iff.mp none))

end CallWatch.Binary64
