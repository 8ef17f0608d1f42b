import CallWatch.Proofs.Binary64.Order
import CallWatch.Proofs.Collector.Percentile

/-! The nearest rank for any quantile.
Whatever number the quantile is, or if it is none, the rank is that of a sample. A product with
a count, its ceiling and the bounds of the rank each keep the order, so a greater quantile never
has a smaller rank.
-/

namespace CallWatch

namespace Binary64

/-- A count up to 2^53 is exact: the bound itself has one place. -/
theorem scaled_ofNat_of_le {n : Nat} (fits : n ≤ twoPow 53)
    : scaled (ofNat n).magnitude = n * twoPow 1074 ∧ (ofNat n).magnitude < infinite := by
  rcases Nat.eq_or_lt_of_le fits with rfl | below
  · have one : 1 < twoPow 53 := by decide
    have inside : 1127 ≤ 2045 := by decide
    have same : 1 * twoPow 1127 * 1 = twoPow 53 * twoPow 1074 := by
      rw [Nat.one_mul, Nat.mul_one, ← twoPow_add]
    obtain ⟨most, finite⟩ := scaled_nearest_le Nat.one_pos one inside (Nat.le_of_eq same.symm)
    have least := le_scaled_nearest Nat.one_pos one inside (Nat.le_of_eq same)
    rw [Nat.mul_one] at same
    exact ⟨(Nat.le_antisymm most least).trans same, finite⟩
  · exact scaled_ofNat below

-----------------------------------------------------------------------------------------
-- Ceilings
-----------------------------------------------------------------------------------------

theorem ceilNat_of_negative (greatest : Nat) {x : Binary64} (negative : x.negative = true)
    : ceilNat greatest x = 0 := by
  simp only [ceilNat, negative, Bool.or_true, if_true]

theorem ceilNat_of_isNaN (greatest : Nat) {x : Binary64} (none : x.isNaN = true)
    : ceilNat greatest x = 0 := by
  simp only [ceilNat, none, Bool.true_or, if_true]

/-- The ceiling of numbers that are not negative keeps their order; infinity has the greatest
one.
-/
theorem ceilNat_mono (greatest : Nat) {x y : Binary64} (first : x.negative = false)
    (second : y.negative = false) (h : x.magnitude ≤ y.magnitude)
    (number : y.magnitude ≤ infinite)
    : ceilNat greatest x ≤ ceilNat greatest y := by
  have xNumber : x.isNaN = false := isNaN_eq_false_iff.mpr (Nat.le_trans h number)
  have yNumber : y.isNaN = false := isNaN_eq_false_iff.mpr number
  simp only [ceilNat, first, second, xNumber, yNumber, Bool.or_self, Bool.false_eq_true,
    if_false]
  rcases Nat.eq_or_lt_of_le number with past | finite
  · have endless : y.isInfinite = true := by simp [isInfinite, past]
    rw [if_pos endless]
    split
    · exact Nat.le_refl _
    · exact Nat.min_le_left _ _
  · rw [(kind_of_finite finite).2, (kind_of_finite (Nat.lt_of_le_of_lt h finite)).2,
      if_neg Bool.false_ne_true, if_neg Bool.false_ne_true]
    have ceilings : (scaled x.magnitude + (twoPow 1074 - 1)) / twoPow 1074
        ≤ (scaled y.magnitude + (twoPow 1074 - 1)) / twoPow 1074 :=
      Nat.div_le_div_right (Nat.add_le_add_right (scaled_le_iff.mpr h) _)
    exact Nat.le_min.mpr ⟨Nat.min_le_left _ _, Nat.le_trans (Nat.min_le_right _ _) ceilings⟩

/-- The ceiling of a count is the count. -/
theorem ceilNat_ofNat {greatest n : Nat} (fits : n ≤ twoPow 53) (inside : n ≤ greatest)
    : ceilNat greatest (ofNat n) = n := by
  obtain ⟨exact_, finite⟩ := scaled_ofNat_of_le fits
  obtain ⟨number, bounded⟩ := kind_of_finite finite
  have positive : (ofNat n).negative = false := rfl
  have unit := twoPow_pos 1074
  have ceiling : (n * twoPow 1074 + (twoPow 1074 - 1)) / twoPow 1074 = n := by
    rw [Nat.mul_comm, Nat.mul_add_div unit, Nat.div_eq_of_lt (Nat.sub_lt unit Nat.one_pos),
      Nat.add_zero]
  simp only [ceilNat, number, bounded, positive, Bool.or_self, Bool.false_eq_true, if_false,
    exact_, ceiling]
  exact Nat.min_eq_right inside

-----------------------------------------------------------------------------------------
-- Products with a count
-----------------------------------------------------------------------------------------

/-- The magnitude of the product of a number with a count. -/
def stretched (magnitude n : Nat) : Nat :=
  if magnitude = infinite then infinite
  else nearest (scaled magnitude * (n * twoPow 1074)) (twoPow 2148)

theorem stretched_le (magnitude n : Nat)
    : stretched magnitude n ≤ infinite := by
  unfold stretched
  split
  · exact Nat.le_refl _
  · exact Nat.min_le_left _ _

/-- A greater magnitude has no smaller product. -/
theorem stretched_mono {a b : Nat} (n : Nat) (h : a ≤ b) (number : b ≤ infinite)
    : stretched a n ≤ stretched b n := by
  by_cases past : b = infinite
  · have endless : stretched b n = infinite := if_pos past
    rw [endless]
    exact stretched_le a n
  · have finite : a ≠ infinite := by omega
    rw [stretched, stretched, if_neg past, if_neg finite]
    exact nearest_mono (twoPow_pos 2148) (Nat.mul_le_mul_right _ (scaled_le_iff.mpr h))

/-- Zero has the product zero. -/
theorem stretched_zero (n : Nat)
    : stretched 0 n = 0 := by
  have none : scaled 0 = 0 := rfl
  rw [stretched, if_neg (by decide), none, Nat.zero_mul]
  refine Nat.le_zero.mp (nearest_le (twoPow_pos 2148) ?_)
  rw [none, Nat.zero_mul, Nat.zero_mul]

/-- One time a count is not less than the count. -/
theorem magnitude_ofNat_le_stretched {n : Nat} (fits : n ≤ twoPow 53)
    : (ofNat n).magnitude ≤ stretched (ofNat 1).magnitude n := by
  obtain ⟨count, countFinite⟩ := scaled_ofNat_of_le fits
  obtain ⟨one, oneFinite⟩ := scaled_ofNat (n := 1) (by decide)
  have unit : twoPow 2148 = twoPow 1074 * twoPow 1074 := by rw [← twoPow_add]
  rw [stretched, if_neg (Nat.ne_of_lt oneFinite), one, Nat.one_mul]
  refine le_nearest (twoPow_pos 2148) (Nat.le_of_lt countFinite) (Nat.le_of_eq ?_)
  rw [count, unit]
  generalize twoPow 1074 = one
  ac_rfl

/-- What is no number has no product. -/
theorem isNaN_mul_of_isNaN {x : Binary64} (none : x.isNaN = true) (y : Binary64)
    : (x.mul y).isNaN = true := by
  simp only [mul, none, Bool.true_or, if_true]
  decide

section Products
variable {x : Binary64} {n : Nat} (some : 1 ≤ n) (few : n ≤ twoPow 53)
include some few

/-- The product of a number with a count has the sign of the number. -/
theorem mul_ofNat (number : x.isNaN = false)
    : (x.mul (ofNat n)).negative = x.negative
      ∧ (x.mul (ofNat n)).magnitude = stretched x.magnitude n := by
  obtain ⟨count, finite⟩ := scaled_ofNat_of_le few
  obtain ⟨countNumber, countBounded⟩ := kind_of_finite finite
  have positive : (ofNat n).negative = false := rfl
  have nonzero : (ofNat n).isZero = false := by
    simp only [isZero, decide_eq_false_iff_not]
    intro zero
    rw [zero] at count
    exact Nat.ne_of_lt (Nat.mul_pos some (twoPow_pos 1074)) count
  by_cases past : x.magnitude = infinite
  · have endless : x.isInfinite = true := by simp [isInfinite, past]
    have large : x.isZero = false := by
      simp only [isZero, past]
      decide
    have product : x.mul (ofNat n) = infinity x.negative := by
      simp only [mul, number, countNumber, endless, large, nonzero, positive, Bool.or_self,
        Bool.true_or, Bool.false_eq_true, if_false, if_true, Bool.bne_false]
    rw [product, stretched, if_pos past]
    exact ⟨rfl, rfl⟩
  · have bounded : x.magnitude < infinite :=
      Nat.lt_of_le_of_ne (isNaN_eq_false_iff.mp number) past
    rw [mul_of_finite bounded finite, count, stretched, if_neg past, positive]
    rw [ofRatio_negative, ofRatio_magnitude, Bool.bne_false]
    exact ⟨rfl, rfl⟩

end Products

end Binary64

open Binary64

namespace Percentile

-----------------------------------------------------------------------------------------
-- Ranks
-----------------------------------------------------------------------------------------

section Ranks
variable {q r : Binary64} {n : Nat} (some : 1 ≤ n) (few : n ≤ twoPow 53)
include some few

/-- A quantile of zero, with any sign, has the ceiling zero. -/
theorem ceiling_of_zero (number : q.isNaN = false) (zero : q.magnitude = 0)
    : ceilNat greatestRank (q.mul (ofNat n)) = 0 := by
  obtain ⟨sign, product⟩ := mul_ofNat some few number
  cases negative : q.negative with
  | true => exact ceilNat_of_negative _ (sign.trans negative)
  | false =>
      have least : (q.mul (ofNat n)).magnitude ≤ (ofNat 0).magnitude := by
        rw [product, zero, stretched_zero]
        exact Nat.zero_le _
      have bound := ceilNat_mono greatestRank (sign.trans negative) (ofNat_negative 0) least
        (Nat.min_le_left _ _)
      rw [ceilNat_ofNat (Nat.zero_le _) (Nat.zero_le _)] at bound
      exact Nat.le_zero.mp bound

/-- The ceiling of the product with a count keeps the order of quantiles, by cases on their
signs: that of a negative one is zero.
-/
theorem ceiling_mono (h : q.AtMost r)
    : ceilNat greatestRank (q.mul (ofNat n)) ≤ ceilNat greatestRank (r.mul (ofNat n)) := by
  obtain ⟨qSign, qProduct⟩ := mul_ofNat some few h.1
  obtain ⟨rSign, rProduct⟩ := mul_ofNat some few h.2.1
  cases negative : q.negative with
  | true =>
      rw [ceilNat_of_negative _ (qSign.trans negative)]
      exact Nat.zero_le _
  | false =>
      rcases h.cases_of_positive negative with zero | ⟨positive, magnitudes⟩
      · rw [ceiling_of_zero some few h.1 zero]
        exact Nat.zero_le _
      · refine ceilNat_mono _ (qSign.trans negative) (rSign.trans positive) ?_ ?_
        · rw [qProduct, rProduct]
          exact stretched_mono n magnitudes (isNaN_eq_false_iff.mp h.2.1)
        · rw [rProduct]
          exact stretched_le _ n

/-- So does the rank, which is the ceiling held between the first and the last sample. -/
theorem rank_mono (h : q.AtMost r)
    : rank q n ≤ rank r n := by
  have ceilings := ceiling_mono some few h
  simp only [rank]
  omega

theorem rank_zero
    : rank (zero false) n = 1 := by
  have ceiling : ceilNat greatestRank ((zero false).mul (ofNat n)) = 0 :=
    ceiling_of_zero some few (by decide) rfl
  rw [rank, ceiling]
  omega

/-- A quantile of one has the last rank: the count itself is exact. -/
theorem rank_one
    : rank (ofNat 1) n = n := by
  have number : (ofNat 1).isNaN = false := isNaN_eq_false_iff.mpr (Nat.min_le_left _ _)
  have word : twoPow 53 ≤ greatestRank := by decide
  obtain ⟨sign, product⟩ := mul_ofNat some few number
  have large : (ofNat n).magnitude ≤ ((ofNat 1).mul (ofNat n)).magnitude := by
    rw [product]
    exact magnitude_ofNat_le_stretched few
  have bounded : ((ofNat 1).mul (ofNat n)).magnitude ≤ infinite := by
    rw [product]
    exact stretched_le _ n
  have bound := ceilNat_mono greatestRank (ofNat_negative n) sign large bounded
  rw [ceilNat_ofNat few (Nat.le_trans few word)] at bound
  simp only [rank]
  omega

/-- A quantile of zero or less has the first rank, and so has what is no number. -/
theorem rank_eq_one (h : q.AtMost (zero false) ∨ q.isNaN = true)
    : rank q n = 1 := by
  rcases h with least | none
  · have bound := rank_mono some few least
    rw [rank_zero some few] at bound
    exact Nat.le_antisymm bound (rank_bounds q some).1
  · have product := isNaN_mul_of_isNaN none (ofNat n)
    rw [rank, ceilNat_of_isNaN _ product]
    omega

/-- A quantile of one or more has the last rank. -/
theorem rank_eq_length (h : (ofNat 1).AtMost q)
    : rank q n = n := by
  have bound := rank_mono some few h
  rw [rank_one some few] at bound
  exact Nat.le_antisymm (rank_bounds q some).2 bound

end Ranks

-----------------------------------------------------------------------------------------
-- The sample at a rank
-----------------------------------------------------------------------------------------

section Samples
variable {sorted : List Binary64} (some : sorted ≠ [])
include some

/-- Whatever the quantile is, the rank is that of a sample, and the sample at it is given. -/
theorem nearestRank_eq (quantile : Binary64)
    : ∃ inside : rank quantile sorted.length - 1 < sorted.length,
        nearestRank sorted quantile = sorted[rank quantile sorted.length - 1] := by
  have bounds := rank_bounds quantile (List.length_pos_iff.mpr some)
  have inside : rank quantile sorted.length - 1 < sorted.length := by omega
  refine ⟨inside, ?_⟩
  rw [nearestRank, List.getElem?_eq_getElem inside]

/-- Ranks in order give samples in order, if the samples are. -/
theorem nearestRank_related {order : Binary64 → Binary64 → Prop}
    (refl : ∀ x ∈ sorted, order x x) (ordered : sorted.Pairwise order) {q r : Binary64}
    (ranks : rank q sorted.length ≤ rank r sorted.length)
    : order (nearestRank sorted q) (nearestRank sorted r) := by
  obtain ⟨first, sameFirst⟩ := nearestRank_eq some q
  obtain ⟨second, sameSecond⟩ := nearestRank_eq some r
  rw [sameFirst, sameSecond]
  rcases Nat.eq_or_lt_of_le (Nat.sub_le_sub_right ranks 1) with same | before
  · simp only [same]
    exact refl _ (List.getElem_mem second)
  · exact List.pairwise_iff_getElem.mp ordered _ _ first second before

theorem head?_of_rank {quantile : Binary64} (first : rank quantile sorted.length = 1)
    : sorted.head? = Option.some (nearestRank sorted quantile) := by
  obtain ⟨inside, same⟩ := nearestRank_eq some quantile
  rw [same, List.head?_eq_getElem?]
  simp only [first]
  exact List.getElem?_eq_getElem (List.length_pos_iff.mpr some)

theorem getLast?_of_rank {quantile : Binary64} (last : rank quantile sorted.length = sorted.length)
    : sorted.getLast? = Option.some (nearestRank sorted quantile) := by
  obtain ⟨inside, same⟩ := nearestRank_eq some quantile
  rw [same, List.getLast?_eq_getElem?]
  simp only [last]
  exact List.getElem?_eq_getElem _

end Samples

-----------------------------------------------------------------------------------------
-- The law
-----------------------------------------------------------------------------------------

/-- What the nearest rank owes to every quantile, be it negative, above one, infinite or no
number:
- `inside`: the rank is that of a sample, and this sample is given;
- `monotone`: a greater quantile has no smaller rank;
- `ascends`: so in whatever order the samples ascend the given ones do;
- `first` and `last`: a quantile of zero or less gives the first sample, and one of one or more
the last;
- `none`: what is no number gives the first sample, too.
-/
structure QuantileLaw (sorted : List Binary64) : Prop where
  inside :
    ∀ q : Binary64,
      1 ≤ rank q sorted.length
      ∧ ∃ inside : rank q sorted.length - 1 < sorted.length,
          nearestRank sorted q = sorted[rank q sorted.length - 1]
  monotone : ∀ q r : Binary64, q.AtMost r → rank q sorted.length ≤ rank r sorted.length
  ascends :
    ∀ order : Binary64 → Binary64 → Prop,
      (∀ x ∈ sorted, order x x)
      → sorted.Pairwise order
      → ∀ q r : Binary64, q.AtMost r → order (nearestRank sorted q) (nearestRank sorted r)
  first : ∀ q : Binary64, q.AtMost (zero false) → sorted.head? = some (nearestRank sorted q)
  last : ∀ q : Binary64, (ofNat 1).AtMost q → sorted.getLast? = some (nearestRank sorted q)
  none : ∀ q : Binary64, q.isNaN = true → sorted.head? = some (nearestRank sorted q)

/-- The law holds of all samples, up to 2^53 of them. -/
theorem quantileLaw {sorted : List Binary64} (some : sorted ≠ [])
    (few : sorted.length ≤ twoPow 53)
    : QuantileLaw sorted where
  inside q := ⟨(rank_bounds q (List.length_pos_iff.mpr some)).1, nearestRank_eq some q⟩
  monotone _ _ h := rank_mono (List.length_pos_iff.mpr some) few h
  ascends _ refl ordered _ _ h :=
    nearestRank_related some refl ordered (rank_mono (List.length_pos_iff.mpr some) few h)
  first _ h := head?_of_rank some (rank_eq_one (List.length_pos_iff.mpr some) few (.inl h))
  last _ h := getLast?_of_rank some (rank_eq_length (List.length_pos_iff.mpr some) few h)
  none _ h := head?_of_rank some (rank_eq_one (List.length_pos_iff.mpr some) few (.inr h))

/-- Of three samples an infinite quantile gives the first or the last, whichever sign it has. -/
theorem quantileLaw_infinite
    : let sorted := [ofNat 1, ofNat 2, ofNat 3]
      sorted ≠ []
      ∧ sorted.length ≤ twoPow 53
      ∧ nearestRank sorted (infinity true) = ofNat 1
      ∧ nearestRank sorted (infinity false) = ofNat 3 := by
  intro sorted
  have law : QuantileLaw sorted := quantileLaw (by decide) (by decide)
  have first := law.first (infinity true) (by decide +kernel)
  have last := law.last (infinity false) (by decide +kernel)
  exact ⟨by decide, by decide, (Option.some.inj first).symm, (Option.some.inj last).symm⟩

end Percentile

end CallWatch
