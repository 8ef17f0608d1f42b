import CallWatch.Proofs.Binary64.Rounding
import CallWatch.Proofs.Collector.Schedules
import Mathlib.Data.Rat.Floor
import Mathlib.Tactic.Linarith

/-! The reported percentile is the exact nearest-rank order statistic.
The quantile lies a little below 19/20, and its product with a number of samples is rounded. The
product stays above a number that is past the rank before, and does not pass the rank, so its
ceiling is the rank.
-/

namespace CallWatch.Percentile

open Binary64

-----------------------------------------------------------------------------------------
-- The rank
-----------------------------------------------------------------------------------------

/-- The rank of the reported percentile among `n` samples. -/
def exactRank (n : Nat) : Nat :=
  ⌈(19 * n / 20 : ℚ)⌉₊

/-- It is the only integer with 19/20 of the samples between the one before it and itself. -/
theorem exactRank_bounds (n : Nat)
    : 19 * n ≤ 20 * exactRank n ∧ 20 * exactRank n < 19 * n + 20 := by
  have above : (19 * n / 20 : ℚ) ≤ exactRank n := Nat.le_ceil _
  have below : (exactRank n : ℚ) < 19 * n / 20 + 1 := Nat.ceil_lt_add_one (by positivity)
  constructor
  · have : (19 * n : ℚ) ≤ 20 * exactRank n := by linarith
    exact_mod_cast this
  · have : (20 * exactRank n : ℚ) < 19 * n + 20 := by linarith
    exact_mod_cast this

/-- The quantile in binary64: four tenths of a unit of its last place below 19/20. -/
theorem scaled_reported
    : scaled reported.magnitude = 8556839292003942 * twoPow 1021
      ∧ reported.magnitude < infinite := by
  decide +kernel

/-- The ceiling of a number that lies past one integer and not past the next. -/
theorem ceilNat_eq {x : Binary64} {greatest n : Nat} (positive : x.negative = false)
    (finite : x.magnitude < infinite) (past : n * twoPow 1074 < scaled x.magnitude)
    (upTo : scaled x.magnitude ≤ (n + 1) * twoPow 1074) (inside : n + 1 ≤ greatest)
    : ceilNat greatest x = n + 1 := by
  have unit : 0 < twoPow 1074 := twoPow_pos 1074
  simp only [ceilNat, kind_of_finite finite, positive, Bool.or_self, Bool.false_eq_true,
    if_false]
  rw [Nat.div_eq_of_lt_le (k := n + 1) ?_ ?_]
  · exact Nat.min_eq_right inside
  · rw [Nat.add_mul, Nat.one_mul]
    omega
  · rw [Nat.succ_mul]
    omega

/-- The rounded product of the quantile with a number of samples stays within the last 31/32 of
the rank.
-/
theorem scaled_product {n below : Nat} (few : n ≤ twoPow 44)
    (rank : 19 * n ≤ 20 * (below + 1) ∧ 20 * (below + 1) < 19 * n + 20)
    : let product :=
        nearest (scaled reported.magnitude * scaled (ofNat n).magnitude) (twoPow 2148)
      (32 * below + 1) * twoPow 1069 ≤ scaled product
        ∧ scaled product ≤ (below + 1) * twoPow 1074
        ∧ product < infinite := by
  have bound : n ≤ 2 ^ 44 := few
  obtain ⟨quantile, -⟩ := scaled_reported
  obtain ⟨count, -⟩ := scaled_ofNat (n := n) (by simp only [twoPow, Nat.pow_eq]; omega)
  have unit : 0 < twoPow 2148 := twoPow_pos 2148
  have numerator : 8556839292003942 * twoPow 1021 * (n * twoPow 1074) * twoPow 1074
      = 8556839292003942 * n * twoPow 3169 := by
    rw [Nat.mul_mul_mul_comm, ← twoPow_add, Nat.mul_assoc, ← twoPow_add]
  rw [quantile, count]
  refine ⟨le_scaled_nearest unit ?_ (by decide) ?_, scaled_nearest_le unit ?_ (by decide) ?_⟩
  · simp only [twoPow, Nat.pow_eq]
    omega
  · calc
      (32 * below + 1) * twoPow 1069 * twoPow 2148
        = (32 * below + 1) * twoPow 48 * twoPow 3169 := by
          rw [Nat.mul_assoc, ← twoPow_add, Nat.mul_assoc, ← twoPow_add]
      _ ≤ 8556839292003942 * n * twoPow 3169 := by
          refine Nat.mul_le_mul_right _ ?_
          simp only [twoPow, Nat.pow_eq]
          omega
      _ = _ := numerator.symm
  · simp only [twoPow, Nat.pow_eq]
    omega
  · calc
      _ = 8556839292003942 * n * twoPow 3169 := numerator
      _ ≤ (below + 1) * twoPow 53 * twoPow 3169 := by
          refine Nat.mul_le_mul_right _ ?_
          simp only [twoPow, Nat.pow_eq]
          omega
      _ = (below + 1) * twoPow 1074 * twoPow 2148 := by
          rw [Nat.mul_assoc, ← twoPow_add, Nat.mul_assoc, ← twoPow_add]

/-- The rank that is computed is the exact one. -/
theorem rank_reported {n : Nat} (some : 1 ≤ n) (few : n ≤ twoPow 44)
    : rank reported n = exactRank n := by
  have bound : n ≤ 2 ^ 44 := few
  have rank := exactRank_bounds n
  obtain ⟨below, exact_⟩ : ∃ below, exactRank n = below + 1 :=
    Nat.exists_eq_succ_of_ne_zero (by omega)
  rw [exact_] at rank ⊢
  obtain ⟨past, upTo, finite⟩ := scaled_product few rank
  have ceiling : ceilNat greatestRank (reported.mul (ofNat n)) = below + 1 := by
    rw [mul_of_finite scaled_reported.2
      (scaled_ofNat (by simp only [twoPow, Nat.pow_eq]; omega)).2]
    refine ceilNat_eq rfl finite (Nat.lt_of_lt_of_le ?_ past) upTo ?_
    · have five : twoPow 5 = 32 := rfl
      calc
        below * twoPow 1074 = 32 * below * twoPow 1069 := by
          rw [Nat.mul_comm 32, Nat.mul_assoc, ← five, ← twoPow_add]
        _ < (32 * below + 1) * twoPow 1069 :=
          Nat.mul_lt_mul_of_pos_right (Nat.lt_succ_self _) (twoPow_pos 1069)
    · simp only [greatestRank, greatestWord, twoPow, Nat.pow_eq]
      omega
  rw [Percentile.rank, ceiling]
  omega

/-- Whatever the quantile is, the rank is that of a sample. -/
theorem rank_bounds (quantile : Binary64) {n : Nat} (some : 1 ≤ n)
    : 1 ≤ rank quantile n ∧ rank quantile n ≤ n := by
  simp only [rank]
  omega

-----------------------------------------------------------------------------------------
-- The sample at a rank
-----------------------------------------------------------------------------------------

theorem pairwise_ascending (samples : List Binary64)
    : (ascending samples).Pairwise fun x y => x.totalLE y = true :=
  List.pairwise_mergeSort totalLE_trans totalLE_total samples

theorem ascending_perm_self (samples : List Binary64)
    : (ascending samples).Perm samples :=
  List.mergeSort_perm samples totalLE

section Sorted
variable {sorted : List Binary64} (ordered : sorted.Pairwise fun x y => x.totalLE y = true)
  {i : Nat} (inside : i < sorted.length)
include ordered

/-- The samples of an ascending list up to a place are not above the one at the place. -/
theorem lt_countP_totalLE
    : i < sorted.countP fun x => x.totalLE sorted[i] := by
  have first : ∀ x ∈ sorted.take (i + 1), x.totalLE sorted[i] = true := by
    intro x member
    obtain ⟨j, early, rfl⟩ := List.mem_take_iff_getElem.mp member
    rcases Nat.eq_or_lt_of_le (Nat.le_of_lt_succ (Nat.lt_of_lt_of_le early (Nat.min_le_left _ _)))
      with same | before
    · subst same
      simp [totalLE]
    · exact List.pairwise_iff_getElem.mp ordered j i _ _ before
  have length : (sorted.take (i + 1)).length = i + 1 := by
    rw [List.length_take]
    omega
  have all := List.countP_eq_length.mpr first
  have fewer : (sorted.take (i + 1)).countP (fun x => x.totalLE sorted[i])
      ≤ sorted.countP fun x => x.totalLE sorted[i] := (List.take_sublist _ _).countP_le
  omega

/-- Those from the place on are not below it. -/
theorem countP_below_le
    : (sorted.countP fun x => !sorted[i].totalLE x) ≤ i := by
  have last : ∀ x ∈ sorted.drop i, ¬ (!sorted[i].totalLE x) = true := by
    intro x member
    obtain ⟨j, upTo, rfl⟩ := List.mem_drop_iff_getElem.mp member
    rw [Bool.not_eq_true', Bool.not_eq_false]
    rcases Nat.eq_zero_or_pos j with none | after
    · subst none
      simp [totalLE]
    · exact List.pairwise_iff_getElem.mp ordered i (i + j) _ _ (by omega)
  have split (p : Binary64 → Bool)
      : sorted.countP p = (sorted.take i).countP p + (sorted.drop i).countP p := by
    rw [← List.countP_append, List.take_append_drop]
  rw [split, List.countP_eq_zero.mpr last, Nat.add_zero]
  exact Nat.le_trans List.countP_le_length (List.length_take_le _ _)

end Sorted

/-- The reported percentile of some samples is the one at its rank among them in ascending
order.
-/
theorem exists_p95_eq {samples : List Binary64} (some : samples ≠ [])
    : ∃ inside : rank reported samples.length - 1 < (ascending samples).length,
        p95 samples = (ascending samples)[rank reported samples.length - 1] := by
  have same := (ascending_perm_self samples).length_eq
  have bounds := rank_bounds reported (List.length_pos_iff.mpr some)
  have inside : rank reported samples.length - 1 < (ascending samples).length := by omega
  refine ⟨inside, ?_⟩
  simp only [p95, nearestRank, same]
  rw [List.getElem?_eq_getElem inside]

/-- So it is one of them. -/
theorem p95_mem {samples : List Binary64} (some : samples ≠ [])
    : p95 samples ∈ samples := by
  obtain ⟨inside, same⟩ := exists_p95_eq some
  rw [same]
  exact (ascending_perm_self samples).mem_iff.mp (List.getElem_mem inside)

-----------------------------------------------------------------------------------------
-- The law
-----------------------------------------------------------------------------------------

/-- The reported percentile is the nearest-rank order statistic, up to 2^44 samples, whatever
they are:
- the rank that is computed is the exact one;
- the percentile is one of the samples, as many samples as the rank tells are not above it in the
total order, and fewer are below it;
- the order of the samples does not matter;
- without samples it is zero.
-/
structure ReportedLaw : Prop where
  rank : ∀ n, 1 ≤ n → n ≤ twoPow 44 → rank reported n = ⌈(19 * n / 20 : ℚ)⌉₊
  statistic
    : ∀ samples : List Binary64,
        samples ≠ []
        → samples.length ≤ twoPow 44
        → p95 samples ∈ samples
          ∧ ⌈(19 * samples.length / 20 : ℚ)⌉₊
            ≤ samples.countP (fun x => x.totalLE (p95 samples))
          ∧ samples.countP (fun x => !(p95 samples).totalLE x)
            < ⌈(19 * samples.length / 20 : ℚ)⌉₊
  order : ∀ samples others : List Binary64, samples.Perm others → p95 samples = p95 others
  empty : p95 [] = Binary64.zero false

/-- The law holds. -/
theorem reportedLaw : ReportedLaw := by
  constructor
  · exact fun n some few => rank_reported some few
  · intro samples some few
    have positive := List.length_pos_iff.mpr some
    have exact_ : rank reported samples.length = ⌈(19 * samples.length / 20 : ℚ)⌉₊ :=
      rank_reported positive few
    have bounds := rank_bounds reported positive
    obtain ⟨inside, same⟩ := exists_p95_eq some
    have notAbove := lt_countP_totalLE (pairwise_ascending samples) inside
    have below := countP_below_le (pairwise_ascending samples) inside
    rw [← same, (ascending_perm_self samples).countP_eq] at notAbove below
    refine ⟨p95_mem some, ?_, ?_⟩ <;> omega
  · exact fun samples others same => p95_perm same
  · simp [p95, nearestRank, ascending]

/-- At a multiple of twenty the quantile is just short of the rank. -/
example : rank reported 20 = 19 ∧ rank reported 21 = 20 := by decide +kernel

end CallWatch.Percentile
