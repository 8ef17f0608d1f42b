import CallWatch.Proofs.Binary64.Order
import CallWatch.Proofs.Collector.Figures

/-! Latencies in milliseconds keep the order and the microseconds of the latencies.
Both roundings of a conversion keep the order, so a percentile of converted latencies is the
conversion of the latency at its rank. Below 2^43 milliseconds the first rounding is exact and the
second moves a value by less than half a microsecond.
-/

namespace CallWatch

open Binary64

namespace Duration

-----------------------------------------------------------------------------------------
-- Conversions
-----------------------------------------------------------------------------------------

/-- The count of microseconds is rounded to a number or to infinity. -/
theorem magnitude_micros_le (d : Duration)
    : (ofNat d.micros).magnitude ≤ infinite :=
  Nat.min_le_left _ _

/-- As long as the microseconds are rounded to a finite number, that is divided by a thousand. -/
theorem latencyMs_of_finite {d : Duration} (finite : (ofNat d.micros).magnitude < infinite)
    : d.latencyMs
      = ofRatio false (scaled (ofNat d.micros).magnitude) (1000 * twoPow 1074) := by
  obtain ⟨thousand, whole⟩ := scaled_ofNat (n := 1000) (by decide)
  have some : (ofNat 1000).magnitude ≠ 0 := magnitude_ofNat_ne_zero (by decide) (by decide)
  rw [latencyMs, div_of_finite finite whole some, thousand]
  rfl

/-- Past all finite numbers the conversion is infinite. -/
theorem latencyMs_of_infinite {d : Duration} (past : (ofNat d.micros).magnitude = infinite)
    : d.latencyMs = infinity false := by
  have number : (ofNat d.micros).isNaN = false := by simp [isNaN, past]
  have endless : (ofNat d.micros).isInfinite = true := by simp [isInfinite, past]
  obtain ⟨noNaN, bounded⟩ := kind_of_finite (scaled_ofNat (n := 1000) (by decide)).2
  simp only [latencyMs, div, number, endless, noNaN, bounded, Bool.or_self, Bool.false_eq_true,
    if_false, if_true]
  rfl

theorem negative_latencyMs (d : Duration)
    : d.latencyMs.negative = false := by
  rcases Nat.eq_or_lt_of_le d.magnitude_micros_le with past | finite
  · rw [latencyMs_of_infinite past]
    rfl
  · rw [latencyMs_of_finite finite]
    rfl

theorem magnitude_latencyMs_le (d : Duration)
    : d.latencyMs.magnitude ≤ infinite := by
  rcases Nat.eq_or_lt_of_le d.magnitude_micros_le with past | finite
  · rw [latencyMs_of_infinite past]
    exact Nat.le_refl _
  · rw [latencyMs_of_finite finite]
    exact Nat.min_le_left _ _

-----------------------------------------------------------------------------------------
-- Order
-----------------------------------------------------------------------------------------

/-- A longer latency has no smaller conversion: both roundings keep the order. -/
theorem magnitude_latencyMs_mono {a b : Duration} (h : a ≤ b)
    : a.latencyMs.magnitude ≤ b.latencyMs.magnitude := by
  have micros : a.micros ≤ b.micros := Nat.div_le_div_right h
  have counts : (ofNat a.micros).magnitude ≤ (ofNat b.micros).magnitude :=
    nearest_mono Nat.one_pos micros
  rcases Nat.eq_or_lt_of_le b.magnitude_micros_le with past | finite
  · rw [latencyMs_of_infinite past]
    exact a.magnitude_latencyMs_le
  · rw [latencyMs_of_finite finite, latencyMs_of_finite (Nat.lt_of_le_of_lt counts finite)]
    have positive : 0 < 1000 * twoPow 1074 := Nat.mul_pos (by decide) (twoPow_pos 1074)
    exact nearest_mono positive (scaled_le_iff.mpr counts)

/-- Conversions compare as their magnitudes do. -/
theorem atMost_latencyMs_iff {a b : Duration}
    : a.latencyMs.AtMost b.latencyMs ↔ a.latencyMs.magnitude ≤ b.latencyMs.magnitude := by
  rw [atMost_iff_of_positive a.negative_latencyMs b.negative_latencyMs]
  simp only [magnitude_latencyMs_le, true_and]

theorem totalLE_latencyMs {a b : Duration} (h : a ≤ b)
    : a.latencyMs.totalLE b.latencyMs = true := by
  have magnitudes := magnitude_latencyMs_mono h
  simp only [totalLE, rank, negative_latencyMs, Bool.false_eq_true, if_false,
    decide_eq_true_iff]
  omega

-----------------------------------------------------------------------------------------
-- Microseconds
-----------------------------------------------------------------------------------------

/-- Below 2^43 milliseconds the microseconds fit 53 places, and a conversion lies within half a
unit of its last place, which is 2^-10 ms at most.
-/
theorem scaled_latencyMs_near {d : Duration} (short : d < ofMillis (twoPow 43))
    : 2000 * scaled d.latencyMs.magnitude ≤ 2048 * (d.micros * twoPow 1064) + 1000 * twoPow 1064
      ∧ 2048 * (d.micros * twoPow 1064)
        ≤ 2000 * scaled d.latencyMs.magnitude + 1000 * twoPow 1064 := by
  have few : d.micros < twoPow 43 * 1000 := by
    simp only [ofMillis, lt_iff, micros, twoPow, Nat.pow_eq] at short ⊢
    omega
  obtain ⟨count, finite⟩ := scaled_ofNat (n := d.micros) (Nat.lt_trans few (by decide))
  have ten : twoPow 10 = 1024 := rfl
  have unit : twoPow 1074 = 1024 * twoPow 1064 := by rw [← ten, ← twoPow_add]
  have positive : 0 < 1000 * twoPow 1074 := Nat.mul_pos (by decide) (twoPow_pos 1074)
  have fits : d.micros * twoPow 1074 * twoPow 1074
      < twoPow 53 * (1000 * twoPow 1074 * twoPow 1064) := by
    calc
      d.micros * twoPow 1074 * twoPow 1074
        < twoPow 43 * 1000 * twoPow 1074 * twoPow 1074 :=
          Nat.mul_lt_mul_of_pos_right (Nat.mul_lt_mul_of_pos_right few (twoPow_pos _))
            (twoPow_pos _)
      _ = twoPow 43 * (1000 * twoPow 1074 * (twoPow 10 * twoPow 1064)) := by
          rw [← twoPow_add 10, Nat.mul_assoc (twoPow 43), Nat.mul_assoc (twoPow 43)]
      _ = twoPow 53 * (1000 * twoPow 1074 * twoPow 1064) := by
          rw [Nat.mul_left_comm (1000 * twoPow 1074), ← Nat.mul_assoc, ← twoPow_add]
  obtain ⟨most, least⟩ := scaled_nearest_near positive (by decide) fits
  rw [latencyMs_of_finite finite, count, ofRatio_magnitude]
  generalize scaled (nearest (d.micros * twoPow 1074) (1000 * twoPow 1074)) = value at most least ⊢
  have all := twoPow_pos 1074
  -- both sides are multiples of the unit that the quotient is taken in
  have left : 2 * (value * (1000 * twoPow 1074)) = 2000 * value * twoPow 1074 := by
    rw [← Nat.mul_assoc value, ← Nat.mul_assoc, Nat.mul_comm value, ← Nat.mul_assoc]
  have right : 2 * (d.micros * twoPow 1074 * twoPow 1074)
      = 2048 * (d.micros * twoPow 1064) * twoPow 1074 := by
    rw [← Nat.mul_assoc 2, unit, Nat.mul_left_comm d.micros, ← Nat.mul_assoc 2]
  have rest : 1000 * twoPow 1074 * twoPow 1064 = 1000 * twoPow 1064 * twoPow 1074 :=
    Nat.mul_right_comm _ _ _
  rw [left, right, rest, ← Nat.add_mul] at most least
  exact ⟨Nat.le_of_mul_le_mul_right most all, Nat.le_of_mul_le_mul_right least all⟩

/-- So there more microseconds always have the greater conversion. -/
theorem magnitude_latencyMs_lt {a b : Duration} (short : b < ofMillis (twoPow 43))
    (fewer : a.micros < b.micros)
    : a.latencyMs.magnitude < b.latencyMs.magnitude := by
  have shorter : a < ofMillis (twoPow 43) := by
    simp only [lt_iff, micros] at short fewer ⊢
    omega
  obtain ⟨most, -⟩ := scaled_latencyMs_near shorter
  obtain ⟨-, least⟩ := scaled_latencyMs_near short
  have apart : (a.micros + 1) * twoPow 1064 ≤ b.micros * twoPow 1064 :=
    Nat.mul_le_mul_right _ fewer
  have unit := twoPow_pos 1064
  rw [Nat.add_mul, Nat.one_mul] at apart
  refine Nat.lt_of_not_le fun after => ?_
  have values := scaled_le_iff.mpr after
  omega

-----------------------------------------------------------------------------------------
-- Percentiles
-----------------------------------------------------------------------------------------

/-- Latencies in ascending order. -/
def ascending (latencies : List Duration) : List Duration :=
  latencies.mergeSort fun a b => decide (a ≤ b)

/-- The latency at the rank of a quantile among some in ascending order. -/
def nearestRank? (quantile : Binary64) (latencies : List Duration) : Option Duration :=
  (ascending latencies)[Percentile.rank quantile latencies.length - 1]?

theorem ascending_perm_self (latencies : List Duration)
    : (ascending latencies).Perm latencies :=
  List.mergeSort_perm latencies _

theorem pairwise_ascending (latencies : List Duration)
    : (ascending latencies).Pairwise fun a b => a ≤ b := by
  have sorted : (ascending latencies).Pairwise fun a b => decide (a ≤ b) = true := by
    refine List.pairwise_mergeSort (fun a b c first second => ?_) (fun a b => ?_) latencies
    · simp only [decide_eq_true_iff, le_iff] at first second ⊢
      omega
    · simp only [Bool.or_eq_true, decide_eq_true_iff, le_iff]
      omega
  exact sorted.imp fun h => of_decide_eq_true h

/-- Conversion and sorting commute, since conversions of ascending latencies ascend. -/
theorem ascending_map_latencyMs (latencies : List Duration)
    : Binary64.ascending (latencies.map latencyMs) = (ascending latencies).map latencyMs := by
  have converted : ((ascending latencies).map latencyMs).Pairwise
      fun x y => x.totalLE y = true :=
    List.pairwise_map.mpr ((pairwise_ascending latencies).imp totalLE_latencyMs)
  have same : (Binary64.ascending (latencies.map latencyMs)).Perm
      ((ascending latencies).map latencyMs) :=
    (Percentile.ascending_perm_self _).trans ((ascending_perm_self latencies).map _).symm
  exact same.eq_of_pairwise (fun _ _ _ _ => totalLE_antisymm)
    (Percentile.pairwise_ascending _) converted

/-- The reported percentile of converted latencies is the conversion of the one at its rank. -/
theorem exists_nearestRank? {latencies : List Duration} (some : latencies ≠ [])
    : ∃ d, nearestRank? Percentile.reported latencies = Option.some d
        ∧ Percentile.p95 (latencies.map latencyMs) = d.latencyMs := by
  have length := (ascending_perm_self latencies).length_eq
  have bounds := Percentile.rank_bounds Percentile.reported (List.length_pos_iff.mpr some)
  have inside : Percentile.rank Percentile.reported latencies.length - 1
      < (ascending latencies).length := by omega
  refine ⟨_, List.getElem?_eq_getElem inside, ?_⟩
  rw [Percentile.p95, Percentile.nearestRank, ascending_map_latencyMs, List.length_map, length,
    List.getElem?_map, List.getElem?_eq_getElem inside]
  rfl

end Duration

/-- The newest calls under a name that there is room for are behind its row. -/
theorem Collector.p95_of_mem_snapshot {argument : Nat} {history : List CollectorEvent}
    {now : Time.Instant} {row : Row}
    (member : row ∈ (((Collector.new argument).run history).1.snapshot now).rows)
    : callsNamed row.method (recordedCalls history) ≠ []
      ∧ row.p95
        = Percentile.p95
            ((((callsNamed row.method (recordedCalls history)).rtake
              (Collector.new argument).capacity).map FinishedCall.latency).map
                Duration.latencyMs) := by
  have found : (((Collector.new argument).run history).1.snapshot now).find? row.method
      = some row := find?_snapshot.mpr ⟨member, rfl⟩
  have fits := (holds_of_mem_rows member).1
  rw [run_fst] at found
  have told := (find?_replay argument (recordedCalls history) row.method now).symm.trans found
  rw [fits.taken, rowOf] at told
  split at told
  · cases told
  · next occurred =>
    refine ⟨occurred, ?_⟩
    rw [← Option.some.inj told, List.map_map, List.rtake, List.rtake, List.map_drop,
      List.length_map]
    rfl

-----------------------------------------------------------------------------------------
-- The law
-----------------------------------------------------------------------------------------

/-- What conversion keeps of latencies:
- `monotone`: a longer latency never has a smaller conversion;
- `micros`: the whole microseconds tell the conversion;
- `injective`: below 2^43 ms the conversion tells them;
- `apart`: of two latencies there that are a microsecond or more apart the longer one has the
greater conversion;
- `percentile`: the reported percentile of converted latencies is the conversion of the latency
at its rank;
- `exact`: up to 2^44 latencies that rank is the exact one;
- `row`: so every row of a snapshot reports the conversion of the latency at the rank among the
newest calls under its name that there is room for.
-/
structure ConversionLaw : Prop where
  monotone : ∀ a b : Duration, a ≤ b → a.latencyMs.AtMost b.latencyMs
  micros : ∀ a b : Duration, a.micros = b.micros → a.latencyMs = b.latencyMs
  injective :
    ∀ a b : Duration,
      a < .ofMillis (twoPow 43)
      → b < .ofMillis (twoPow 43)
      → a.latencyMs = b.latencyMs
      → a.micros = b.micros
  apart :
    ∀ a b : Duration,
      b < .ofMillis (twoPow 43)
      → a + .ofMicros 1 ≤ b
      → a.latencyMs.AtMost b.latencyMs ∧ ¬ b.latencyMs.AtMost a.latencyMs
  percentile :
    ∀ latencies : List Duration,
      latencies ≠ []
      → ∃ d,
          Duration.nearestRank? Percentile.reported latencies = some d
          ∧ Percentile.p95 (latencies.map Duration.latencyMs) = d.latencyMs
  exact :
    ∀ latencies : List Duration,
      latencies ≠ []
      → latencies.length ≤ twoPow 44
      → Duration.nearestRank? Percentile.reported latencies
        = (Duration.ascending latencies)[⌈(19 * latencies.length / 20 : ℚ)⌉₊ - 1]?
  row :
    ∀ (argument : Nat) (history : List CollectorEvent) (now : Time.Instant),
      ∀ row ∈ (((Collector.new argument).run history).1.snapshot now).rows,
        let newest :=
          (callsNamed row.method (recordedCalls history)).rtake (Collector.new argument).capacity
        ∃ d,
          Duration.nearestRank? Percentile.reported (newest.map FinishedCall.latency) = some d
          ∧ row.p95 = d.latencyMs

/-- The law holds. -/
theorem conversionLaw
    : ConversionLaw where
  monotone _ _ h := Duration.atMost_latencyMs_iff.mpr (Duration.magnitude_latencyMs_mono h)
  micros a b same := by
    rw [Duration.latencyMs, Duration.latencyMs, same]
  injective a b first second same := by
    rcases Nat.lt_trichotomy a.micros b.micros with fewer | equal | more
    · exact absurd (congrArg magnitude same)
        (Nat.ne_of_lt (Duration.magnitude_latencyMs_lt second fewer))
    · exact equal
    · exact absurd (congrArg magnitude same)
        (Nat.ne_of_gt (Duration.magnitude_latencyMs_lt first more))
  apart a b short h := by
    have fewer : a.micros < b.micros := by
      simp only [Duration.le_iff, Duration.nanos_add, Duration.ofMicros, Duration.micros] at h ⊢
      omega
    have greater := Duration.magnitude_latencyMs_lt short fewer
    rw [Duration.atMost_latencyMs_iff, Duration.atMost_latencyMs_iff]
    omega
  percentile _ some := Duration.exists_nearestRank? some
  exact latencies some few := by
    rw [Duration.nearestRank?, Percentile.rank_reported (List.length_pos_iff.mpr some) few]
    rfl
  row argument history now row member := by
    intro newest
    obtain ⟨occurred, same⟩ := Collector.p95_of_mem_snapshot member
    have any : newest.map FinishedCall.latency ≠ [] := by
      have room := (Collector.new argument).capacity_pos
      have calls := List.length_pos_iff.mpr occurred
      refine List.length_pos_iff.mp ?_
      simp only [newest, List.rtake, List.length_map, List.length_drop]
      omega
    obtain ⟨d, found, reported⟩ := Duration.exists_nearestRank? any
    exact ⟨d, found, same.trans reported⟩

/-- The range of the microseconds is sharp: just past it two counts have one conversion. -/
example
    : let start := Duration.ofMillis (twoPow 43)
      (start + .ofMicros 1).latencyMs = (start + .ofMicros 2).latencyMs := by
  decide +kernel

end CallWatch
