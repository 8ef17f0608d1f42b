import CallWatch.Binary64.Basic

/-! Rounding never passes a number.
A quotient is rounded to the nearest binary64 number, so a number that is not above it is not
above what it is rounded to, and likewise from the other side. What an operation gives is then
told by the numbers on both sides of the exact result.
-/

namespace CallWatch

-----------------------------------------------------------------------------------------
-- Powers of two
-----------------------------------------------------------------------------------------

theorem twoPow_pos (n : Nat)
    : 0 < twoPow n :=
  Nat.pow_pos (by decide)

theorem twoPow_add (n m : Nat)
    : twoPow (n + m) = twoPow n * twoPow m :=
  Nat.pow_add 2 n m

theorem twoPow_succ (n : Nat)
    : twoPow (n + 1) = 2 * twoPow n := by
  rw [Nat.add_comm, twoPow_add]
  rfl

theorem twoPow_le {n m : Nat} (h : n ≤ m)
    : twoPow n ≤ twoPow m :=
  Nat.pow_le_pow_right (by decide) h

namespace Binary64

-----------------------------------------------------------------------------------------
-- Places
-----------------------------------------------------------------------------------------

/-- A significand of at most 53 places, and the number of places that are cut after it: no place
is cut unless all 53 are taken.
-/
structure Places (significand cut : Nat) : Prop where
  fits : significand < twoPow 53
  normal : cut = 0 ∨ twoPow 52 ≤ significand

/-- The value of a magnitude that is given by its places. -/
theorem Places.scaled {significand cut : Nat} (places : Places significand cut)
    : scaled (cut * twoPow 52 + significand) = significand * twoPow cut := by
  obtain ⟨fits, normal⟩ := places
  rw [twoPow_succ 52] at fits
  by_cases subnormal : cut * twoPow 52 + significand < twoPow 52
  · have none : cut = 0 := by
      refine normal.resolve_right fun full => ?_
      omega
    subst none
    rw [Binary64.scaled, if_pos subnormal, Nat.zero_mul, Nat.zero_add]
    exact (Nat.mul_one significand).symm
  · have full : twoPow 52 ≤ significand := by
      refine normal.elim (fun none => ?_) id
      rw [none, Nat.zero_mul] at subnormal
      omega
    have split : cut * twoPow 52 + significand
        = (significand - twoPow 52) + twoPow 52 * (cut + 1) := by
      rw [Nat.mul_add, Nat.mul_comm cut]
      omega
    have rest : (cut * twoPow 52 + significand) % twoPow 52 = significand - twoPow 52 := by
      rw [split, Nat.add_mul_mod_self_left, Nat.mod_eq_of_lt (by omega)]
    have exponent : (cut * twoPow 52 + significand) / twoPow 52 = cut + 1 := by
      rw [split, Nat.add_mul_div_left _ _ (twoPow_pos 52), Nat.div_eq_of_lt (by omega),
        Nat.zero_add]
    rw [Binary64.scaled, if_neg subnormal, rest, exponent, Nat.add_sub_cancel' full,
      Nat.add_sub_cancel]

/-- Every magnitude has its places. -/
theorem exists_places (magnitude : Nat)
    : ∃ significand cut,
        Places significand cut ∧ magnitude = cut * twoPow 52 + significand := by
  by_cases subnormal : magnitude < twoPow 52
  · refine ⟨magnitude, 0, ⟨Nat.lt_trans subnormal (by decide), .inl rfl⟩, ?_⟩
    rw [Nat.zero_mul, Nat.zero_add]
  · have exponent : 0 < magnitude / twoPow 52 :=
      Nat.div_pos (Nat.le_of_not_lt subnormal) (twoPow_pos 52)
    obtain ⟨cut, exponent⟩ := Nat.exists_eq_succ_of_ne_zero (Nat.ne_of_gt exponent)
    have rest : magnitude % twoPow 52 < twoPow 52 := Nat.mod_lt _ (twoPow_pos 52)
    refine ⟨twoPow 52 + magnitude % twoPow 52, cut, ⟨?_, .inr (Nat.le_add_right _ _)⟩, ?_⟩
    · rw [twoPow_succ 52]
      omega
    · have whole := Nat.div_add_mod magnitude (twoPow 52)
      rw [exponent, Nat.succ_eq_add_one, Nat.mul_add, Nat.mul_comm _ cut] at whole
      omega

/-- Magnitudes ascend by their value, by cases on which has more places cut. -/
theorem scaled_lt {a b : Nat} (h : a < b)
    : scaled a < scaled b := by
  obtain ⟨s, c, first, rfl⟩ := exists_places a
  obtain ⟨t, d, second, rfl⟩ := exists_places b
  rw [first.scaled, second.scaled]
  have fits := first.fits
  rcases Nat.lt_trichotomy c d with fewer | same | more
  · have full : twoPow 52 ≤ t := second.normal.resolve_left (by omega)
    calc
      s * twoPow c < twoPow 53 * twoPow c := Nat.mul_lt_mul_of_pos_right fits (twoPow_pos c)
      _ = twoPow 52 * twoPow (c + 1) := by
        rw [← twoPow_add, ← twoPow_add, Nat.add_comm c 1, ← Nat.add_assoc]
      _ ≤ t * twoPow d := Nat.mul_le_mul full (twoPow_le fewer)
  · subst same
    exact Nat.mul_lt_mul_of_pos_right (by omega) (twoPow_pos c)
  · have full : twoPow 52 ≤ s := first.normal.resolve_left (by omega)
    have ahead : (d + 1) * twoPow 52 ≤ c * twoPow 52 := Nat.mul_le_mul_right _ more
    have bound := second.fits
    rw [twoPow_succ 52] at bound
    rw [Nat.add_mul, Nat.one_mul] at ahead
    omega

theorem scaled_le_iff {a b : Nat}
    : scaled a ≤ scaled b ↔ a ≤ b := by
  constructor
  · intro h
    refine Nat.le_of_not_lt fun after => ?_
    exact Nat.lt_irrefl _ (Nat.lt_of_lt_of_le (scaled_lt after) h)
  · intro h
    rcases Nat.eq_or_lt_of_le h with rfl | before
    · exact Nat.le_refl _
    · exact Nat.le_of_lt (scaled_lt before)

/-- A number of at most 53 places is the value of a finite magnitude, as long as it does not lie
past them all.
-/
theorem exists_scaled_eq {a e : Nat} (fits : a < twoPow 53) (inside : e ≤ 2045)
    : ∃ magnitude < infinite, scaled magnitude = a * twoPow e := by
  have finite {s c : Nat} (places : Places s c) (few : c ≤ 2045)
      : c * twoPow 52 + s < infinite := by
    have bound := places.fits
    have most : c * twoPow 52 ≤ 2045 * twoPow 52 := Nat.mul_le_mul_right _ few
    rw [twoPow_succ 52] at bound
    simp only [infinite]
    omega
  by_cases none : a = 0
  · subst none
    exact ⟨0, by decide, by rw [Nat.zero_mul]; rfl⟩
  · have low : twoPow a.log2 ≤ a := Nat.log2_self_le none
    have high : a < twoPow (a.log2 + 1) := Nat.lt_log2_self
    have short : a.log2 ≤ 52 := by
      refine Nat.le_of_lt_succ ((Nat.log2_lt none).mpr fits)
    by_cases most : 52 - a.log2 ≤ e
    · -- the leading place of the significand is that of the number
      have places : Places (a * twoPow (52 - a.log2)) (e - (52 - a.log2)) := by
        constructor
        · calc
            a * twoPow (52 - a.log2) < twoPow (a.log2 + 1) * twoPow (52 - a.log2) :=
              Nat.mul_lt_mul_of_pos_right high (twoPow_pos _)
            _ = twoPow 53 := by rw [← twoPow_add]; congr 1; omega
        · right
          calc
            twoPow 52 = twoPow a.log2 * twoPow (52 - a.log2) := by
              rw [← twoPow_add]; congr 1; omega
            _ ≤ a * twoPow (52 - a.log2) := Nat.mul_le_mul_right _ low
      refine ⟨_, finite places (by omega), ?_⟩
      rw [places.scaled, Nat.mul_assoc, ← twoPow_add]
      congr 2
      omega
    · -- the number is subnormal
      have places : Places (a * twoPow e) 0 := by
        refine ⟨?_, .inl rfl⟩
        calc
          a * twoPow e < twoPow (a.log2 + 1) * twoPow e :=
            Nat.mul_lt_mul_of_pos_right high (twoPow_pos _)
          _ = twoPow (a.log2 + 1 + e) := (twoPow_add _ _).symm
          _ ≤ twoPow 53 := twoPow_le (by omega)
      refine ⟨_, finite places (by omega), ?_⟩
      rw [places.scaled]
      exact Nat.mul_one _

-----------------------------------------------------------------------------------------
-- Rounding
-----------------------------------------------------------------------------------------

theorem roundHalfEven_cases (num den : Nat)
    : roundHalfEven num den = num / den ∨ roundHalfEven num den = num / den + 1 := by
  simp only [roundHalfEven]
  split
  · exact Or.inl rfl
  · split
    · exact Or.inr rfl
    · rcases Nat.mod_two_eq_zero_or_one (num / den) with even | odd
      · exact Or.inl (by rw [even, Nat.add_zero])
      · exact Or.inr (by rw [odd])

/-- An integer that is not above a quotient is not above what it is rounded to. -/
theorem le_roundHalfEven {num den n : Nat} (positive : 0 < den) (h : n * den ≤ num)
    : n ≤ roundHalfEven num den := by
  have floor : n ≤ num / den := (Nat.le_div_iff_mul_le positive).mpr h
  rcases roundHalfEven_cases num den with same | next <;> omega

/-- One that is not below a quotient is not below what it is rounded to. -/
theorem roundHalfEven_le {num den n : Nat} (positive : 0 < den) (h : num ≤ n * den)
    : roundHalfEven num den ≤ n := by
  rcases Nat.eq_or_lt_of_le h with rfl | before
  · have none : 2 * (n * den % den) < den := by
      rw [Nat.mul_mod_left, Nat.mul_zero]
      exact positive
    simp only [roundHalfEven, if_pos none, Nat.mul_div_cancel n positive, Nat.le_refl]
  · have floor : num / den < n := (Nat.div_lt_iff_lt_mul positive).mpr before
    rcases roundHalfEven_cases num den with same | next <;> omega

/-- The places of a quotient, in units of the denominator: cut so, they are at most 53. -/
structure Cuts (numerator den cut : Nat) : Prop where
  fits : numerator < twoPow 53 * (den * twoPow cut)
  normal : cut = 0 ∨ twoPow 52 * (den * twoPow cut) ≤ numerator

/-- The leading place of a quotient tells how many places are cut. -/
theorem cuts_log2 {den : Nat} (numerator : Nat) (positive : 0 < den)
    : Cuts numerator den ((numerator / den).log2 - 52) := by
  have high : numerator / den < twoPow ((numerator / den).log2 + 1) := Nat.lt_log2_self
  constructor
  · rw [Nat.mul_left_comm, ← twoPow_add, Nat.mul_comm, ← Nat.div_lt_iff_lt_mul positive]
    exact Nat.lt_of_lt_of_le high (twoPow_le (by omega))
  · by_cases few : (numerator / den).log2 ≤ 52
    · exact .inl (Nat.sub_eq_zero_of_le few)
    · right
      have some : numerator / den ≠ 0 := by
        intro none
        rw [none, Nat.log2_zero] at few
        exact few (Nat.zero_le _)
      rw [Nat.mul_left_comm, ← twoPow_add, Nat.mul_comm, ← Nat.le_div_iff_mul_le positive]
      refine Nat.le_trans (twoPow_le ?_) (Nat.log2_self_le some)
      omega

section Nearest
variable {num den magnitude : Nat} (positive : 0 < den)
include positive

/-- A magnitude that is not above a quotient is not above the one nearest to it, by cases on
which has more places cut.
-/
theorem le_nearest (finite : magnitude ≤ infinite)
    (h : scaled magnitude * den ≤ num * twoPow 1074)
    : magnitude ≤ nearest num den := by
  refine Nat.le_min.mpr ⟨finite, ?_⟩
  obtain ⟨s, c, places, rfl⟩ := exists_places magnitude
  rw [places.scaled] at h
  obtain ⟨fits, normal⟩ := cuts_log2 (num * twoPow 1074) positive
  generalize (num * twoPow 1074 / den).log2 - 52 = cut at fits normal ⊢
  have unit : 0 < den * twoPow cut := Nat.mul_pos positive (twoPow_pos cut)
  rcases Nat.lt_trichotomy c cut with fewer | same | more
  · have full := le_roundHalfEven unit (normal.resolve_left (by omega))
    have ahead : (c + 1) * twoPow 52 ≤ cut * twoPow 52 := Nat.mul_le_mul_right _ fewer
    have bound := places.fits
    rw [twoPow_succ 52] at bound
    rw [Nat.add_mul, Nat.one_mul] at ahead
    omega
  · subst same
    rw [Nat.mul_assoc, Nat.mul_comm (twoPow c)] at h
    exact Nat.add_le_add_left (le_roundHalfEven unit h) _
  · have full : twoPow 52 ≤ s := places.normal.resolve_left (by omega)
    have above : twoPow 53 * (den * twoPow cut) ≤ s * twoPow c * den := by
      calc
        twoPow 53 * (den * twoPow cut) = twoPow 52 * twoPow (cut + 1) * den := by
          rw [← twoPow_add, Nat.mul_left_comm, ← twoPow_add, Nat.mul_comm, Nat.add_comm cut 1,
            ← Nat.add_assoc]
        _ ≤ s * twoPow c * den :=
          Nat.mul_le_mul_right _ (Nat.mul_le_mul full (twoPow_le more))
    omega

/-- One that is not below a quotient is not below the one nearest to it, by the same cases. -/
theorem nearest_le (h : num * twoPow 1074 ≤ scaled magnitude * den)
    : nearest num den ≤ magnitude := by
  refine Nat.le_trans (Nat.min_le_right _ _) ?_
  obtain ⟨s, c, places, rfl⟩ := exists_places magnitude
  rw [places.scaled] at h
  obtain ⟨fits, normal⟩ := cuts_log2 (num * twoPow 1074) positive
  generalize (num * twoPow 1074 / den).log2 - 52 = cut at fits normal ⊢
  have unit : 0 < den * twoPow cut := Nat.mul_pos positive (twoPow_pos cut)
  rcases Nat.lt_trichotomy cut c with fewer | same | more
  · have full : twoPow 52 ≤ s := places.normal.resolve_left (by omega)
    have bound := roundHalfEven_le unit (Nat.le_of_lt fits)
    have ahead : (cut + 1) * twoPow 52 ≤ c * twoPow 52 := Nat.mul_le_mul_right _ fewer
    rw [twoPow_succ 52] at bound
    rw [Nat.add_mul, Nat.one_mul] at ahead
    omega
  · subst same
    rw [Nat.mul_assoc, Nat.mul_comm (twoPow cut)] at h
    exact Nat.add_le_add_left (roundHalfEven_le unit h) _
  · have full := normal.resolve_left (by omega)
    have below : s * twoPow c * den < twoPow 52 * (den * twoPow cut) := by
      calc
        s * twoPow c * den < twoPow 53 * twoPow c * den :=
          Nat.mul_lt_mul_of_pos_right
            (Nat.mul_lt_mul_of_pos_right places.fits (twoPow_pos c)) positive
        _ = twoPow 52 * twoPow (c + 1) * den := by
          rw [← twoPow_add, ← twoPow_add, Nat.add_comm c 1, ← Nat.add_assoc]
        _ ≤ twoPow 52 * twoPow cut * den :=
          Nat.mul_le_mul_right _ (Nat.mul_le_mul_left _ (twoPow_le more))
        _ = twoPow 52 * (den * twoPow cut) := by rw [Nat.mul_assoc, Nat.mul_comm den]
    omega

/-- What a quotient is rounded to does not fall short of a number of at most 53 places that the
quotient reaches.
-/
theorem le_scaled_nearest {a e : Nat} (fits : a < twoPow 53) (inside : e ≤ 2045)
    (h : a * twoPow e * den ≤ num * twoPow 1074)
    : a * twoPow e ≤ scaled (nearest num den) := by
  obtain ⟨magnitude, finite, same⟩ := exists_scaled_eq fits inside
  rw [← same] at h ⊢
  exact scaled_le_iff.mpr (le_nearest positive (Nat.le_of_lt finite) h)

/-- It does not go past such a number that the quotient does not pass, and then it is finite. -/
theorem scaled_nearest_le {a e : Nat} (fits : a < twoPow 53) (inside : e ≤ 2045)
    (h : num * twoPow 1074 ≤ a * twoPow e * den)
    : scaled (nearest num den) ≤ a * twoPow e ∧ nearest num den < infinite := by
  obtain ⟨magnitude, finite, same⟩ := exists_scaled_eq fits inside
  rw [← same] at h ⊢
  have bound := nearest_le positive h
  exact ⟨scaled_le_iff.mpr bound, Nat.lt_of_le_of_lt bound finite⟩

end Nearest

-----------------------------------------------------------------------------------------
-- Operations
-----------------------------------------------------------------------------------------

/-- A finite number is neither infinite nor no number. -/
theorem kind_of_finite {x : Binary64} (finite : x.magnitude < infinite)
    : x.isNaN = false ∧ x.isInfinite = false := by
  simp only [isNaN, isInfinite, decide_eq_false_iff_not]
  omega

/-- The product of finite numbers is the exact one, rounded. -/
theorem mul_of_finite {x y : Binary64} (first : x.magnitude < infinite)
    (second : y.magnitude < infinite)
    : x.mul y
      = ofRatio (x.negative != y.negative) (scaled x.magnitude * scaled y.magnitude)
          (twoPow 2148) := by
  simp only [mul, kind_of_finite first, kind_of_finite second, Bool.or_self,
    Bool.false_eq_true, if_false]

/-- So is the quotient by one that is not zero. -/
theorem div_of_finite {x y : Binary64} (first : x.magnitude < infinite)
    (second : y.magnitude < infinite) (some : y.magnitude ≠ 0)
    : x.div y
      = ofRatio (x.negative != y.negative) (scaled x.magnitude) (scaled y.magnitude) := by
  have notZero : y.isZero = false := by simp [isZero, some]
  simp only [div, kind_of_finite first, kind_of_finite second, notZero, Bool.or_self,
    Bool.false_eq_true, if_false]

/-- A natural number of at most 53 places is exact. -/
theorem scaled_ofNat {n : Nat} (fits : n < twoPow 53)
    : scaled (ofNat n).magnitude = n * twoPow 1074 ∧ (ofNat n).magnitude < infinite := by
  have exact_ : n * twoPow 1074 * 1 = n * twoPow 1074 := Nat.mul_one _
  have inside : 1074 ≤ 2045 := by decide
  obtain ⟨most, finite⟩ :=
    scaled_nearest_le (by decide) fits inside (Nat.le_of_eq exact_.symm)
  have least := le_scaled_nearest (by decide) fits inside (Nat.le_of_eq exact_)
  exact ⟨Nat.le_antisymm most least, finite⟩

end Binary64

end CallWatch
