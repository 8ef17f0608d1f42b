import CallWatch.Observation.Record
import CallWatch.Proofs.Collector.Percentile
import CallWatch.Proofs.Observation.Decoding

/-! The figures of a snapshot are sane.
The error rate is a number from zero to one that is zero or one only where the counts say so, and
the reported percentile is the latency of one of the newest calls. So all figures are finite, and
nothing that is written of a snapshot holds a null.
-/

namespace CallWatch

-----------------------------------------------------------------------------------------
-- Measures
-----------------------------------------------------------------------------------------

namespace Binary64

/-- A measure is a finite number that is not negative. -/
structure Measure (x : Binary64) : Prop where
  finite : x.magnitude < infinite
  positive : x.negative = false

theorem Measure.isFinite {x : Binary64} (h : x.Measure)
    : x.isFinite = true := by
  simpa [Binary64.isFinite] using h.finite

/-- The value of a finite number. -/
def value (x : Binary64) : ℚ :=
  x.scaledInt / twoPow 1074

theorem Measure.value_eq {x : Binary64} (h : x.Measure)
    : x.value = scaled x.magnitude / twoPow 1074 := by
  rw [value, scaledInt, h.positive, if_neg Bool.false_ne_true, Int.cast_natCast]

theorem Measure.value_nonneg {x : Binary64} (h : x.Measure)
    : 0 ≤ x.value := by
  rw [h.value_eq]
  positivity

theorem twoPow_unit {k : Nat} (places : k ≤ 1074)
    : twoPow 1074 = twoPow k * twoPow (1074 - k) := by
  rw [← twoPow_add, Nat.add_sub_cancel' places]

/-- The value of a measure compares to a binary fraction as its multiple of the unit does. -/
theorem Measure.value_le_iff {x : Binary64} (h : x.Measure) {a k : Nat} (places : k ≤ 1074)
    : x.value ≤ a / twoPow k ↔ scaled x.magnitude ≤ a * twoPow (1074 - k) := by
  have whole : (0 : ℚ) < twoPow k := by exact_mod_cast twoPow_pos k
  have rest : (0 : ℚ) < twoPow (1074 - k) := by exact_mod_cast twoPow_pos (1074 - k)
  rw [h.value_eq, twoPow_unit places]
  generalize twoPow (1074 - k) = units at rest ⊢
  rw [Nat.cast_mul, ← div_div, div_le_iff₀ rest, div_mul_eq_mul_div,
    div_le_div_iff_of_pos_right whole]
  exact_mod_cast Iff.rfl

theorem Measure.le_value_iff {x : Binary64} (h : x.Measure) {a k : Nat} (places : k ≤ 1074)
    : a / twoPow k ≤ x.value ↔ a * twoPow (1074 - k) ≤ scaled x.magnitude := by
  have whole : (0 : ℚ) < twoPow k := by exact_mod_cast twoPow_pos k
  have rest : (0 : ℚ) < twoPow (1074 - k) := by exact_mod_cast twoPow_pos (1074 - k)
  rw [h.value_eq, twoPow_unit places]
  generalize twoPow (1074 - k) = units at rest ⊢
  rw [Nat.cast_mul, ← div_div, le_div_iff₀ rest, div_mul_eq_mul_div,
    div_le_div_iff_of_pos_right whole]
  exact_mod_cast Iff.rfl

/-- A positive count is not zero. -/
theorem magnitude_ofNat_ne_zero {n : Nat} (some : 0 < n) (fits : n < twoPow 53)
    : (ofNat n).magnitude ≠ 0 := by
  intro zero
  have exact_ := (scaled_ofNat fits).1
  rw [zero] at exact_
  exact Nat.ne_of_lt (Nat.mul_pos some (twoPow_pos 1074)) exact_

end Binary64

open Binary64

-----------------------------------------------------------------------------------------
-- Latencies
-----------------------------------------------------------------------------------------

/-- The latency of a call is a measure in milliseconds, as long as its seconds fit their word. -/
theorem Duration.measure_latencyMs {d : Duration} (fits : d.seconds < twoPow 64)
    : d.latencyMs.Measure := by
  have few : d.micros ≤ twoPow 84 := by
    simp only [seconds, micros, twoPow, Nat.pow_eq] at fits ⊢
    omega
  have one : 1 < twoPow 53 := by decide
  have inside : 1158 ≤ 2045 := by decide
  have sum : twoPow 84 * twoPow 1074 = 1 * twoPow 1158 := by
    rw [← twoPow_add, Nat.one_mul]
  obtain ⟨bound, finite⟩ : scaled (ofNat d.micros).magnitude ≤ 1 * twoPow 1158
      ∧ (ofNat d.micros).magnitude < infinite := by
    refine scaled_nearest_le Nat.one_pos one inside ?_
    rw [Nat.mul_one, ← sum]
    exact Nat.mul_le_mul_right _ few
  obtain ⟨thousand, whole⟩ := scaled_ofNat (n := 1000) (by decide)
  have some : (ofNat 1000).magnitude ≠ 0 := magnitude_ofNat_ne_zero (by decide) (by decide)
  have below : scaled (ofNat d.micros).magnitude * twoPow 1074
      ≤ 1 * twoPow 1158 * (1000 * twoPow 1074) :=
    Nat.mul_le_mul bound (Nat.le_mul_of_pos_left _ (by decide))
  rw [latencyMs, div_of_finite finite whole some, thousand]
  have positive : 0 < 1000 * twoPow 1074 := Nat.mul_pos (by decide) (twoPow_pos 1074)
  exact ⟨(scaled_nearest_le positive one inside below).2, rfl⟩

-----------------------------------------------------------------------------------------
-- Error rates
-----------------------------------------------------------------------------------------

section Rates
variable {part whole a k : Nat} (le : part ≤ whole) (some : 0 < whole) (fits : whole < twoPow 53)
include le some fits

/-- The quotient of two counts is the exact one, rounded. -/
theorem div_ofNat
    : (ofNat part).div (ofNat whole)
      = ofRatio false (part * twoPow 1074) (whole * twoPow 1074) := by
  obtain ⟨partExact, partFinite⟩ := scaled_ofNat (Nat.lt_of_le_of_lt le fits)
  obtain ⟨wholeExact, wholeFinite⟩ := scaled_ofNat fits
  rw [div_of_finite partFinite wholeFinite (magnitude_ofNat_ne_zero some fits), partExact,
    wholeExact]
  rfl

/-- It does not go past a binary fraction that the exact one does not pass. -/
theorem div_ofNat_le (short : a < twoPow 53) (places : k ≤ 1074)
    (h : part * twoPow k ≤ a * whole)
    : ((ofNat part).div (ofNat whole)).Measure
      ∧ ((ofNat part).div (ofNat whole)).value ≤ a / twoPow k := by
  have unit := twoPow_unit places
  have positive : 0 < whole * twoPow 1074 := Nat.mul_pos some (twoPow_pos 1074)
  have below : part * twoPow 1074 * twoPow 1074
      ≤ a * twoPow (1074 - k) * (whole * twoPow 1074) := by
    generalize twoPow 1074 = all at unit ⊢
    calc
      part * all * all = part * twoPow k * (twoPow (1074 - k) * all) := by
        rw [Nat.mul_assoc, Nat.mul_assoc, ← Nat.mul_assoc (twoPow k), ← unit]
      _ ≤ a * whole * (twoPow (1074 - k) * all) := Nat.mul_le_mul_right _ h
      _ = a * twoPow (1074 - k) * (whole * all) := Nat.mul_mul_mul_comm _ _ _ _
  obtain ⟨most, finite⟩ := scaled_nearest_le positive short (by omega) below
  rw [div_ofNat le some fits]
  have measure : (ofRatio false (part * twoPow 1074) (whole * twoPow 1074)).Measure :=
    ⟨finite, rfl⟩
  exact ⟨measure, (measure.value_le_iff places).mpr most⟩

/-- It does not fall short of one that the exact one reaches. -/
theorem le_div_ofNat (short : a < twoPow 53) (places : k ≤ 1074)
    (measure : ((ofNat part).div (ofNat whole)).Measure)
    (h : a * whole ≤ part * twoPow k)
    : a / twoPow k ≤ ((ofNat part).div (ofNat whole)).value := by
  have unit := twoPow_unit places
  have positive : 0 < whole * twoPow 1074 := Nat.mul_pos some (twoPow_pos 1074)
  have above : a * twoPow (1074 - k) * (whole * twoPow 1074)
      ≤ part * twoPow 1074 * twoPow 1074 := by
    generalize twoPow 1074 = all at unit ⊢
    calc
      a * twoPow (1074 - k) * (whole * all) = a * whole * (twoPow (1074 - k) * all) :=
        Nat.mul_mul_mul_comm _ _ _ _
      _ ≤ part * twoPow k * (twoPow (1074 - k) * all) := Nat.mul_le_mul_right _ h
      _ = part * all * all := by
        rw [Nat.mul_assoc, Nat.mul_assoc, ← Nat.mul_assoc (twoPow k), ← unit]
  have least := le_scaled_nearest positive short (by omega) above
  rw [div_ofNat le some fits] at measure ⊢
  exact (measure.le_value_iff places).mpr least

end Rates

/-- The rate of some calls among others: a measure up to one, which is zero only for none of them
and one only for all.
-/
structure SaneRate (part whole : Nat) (rate : Binary64) : Prop where
  measure : rate.Measure
  le_one : rate.value ≤ 1
  eq_zero_iff : rate.value = 0 ↔ part = 0
  eq_one_iff : rate.value = 1 ↔ part = whole

/-- The quotient of two counts of at most 53 places is such a rate: between two such quotients
there is room for a number next to zero and for one next to one.
-/
theorem saneRate_div {part whole : Nat} (le : part ≤ whole) (some : 0 < whole)
    (fits : whole < twoPow 53)
    : SaneRate part whole ((ofNat part).div (ofNat whole)) := by
  have one : (1 : ℚ) = (1 : Nat) / twoPow 0 := by simp [twoPow]
  have zero : (0 : ℚ) = (0 : Nat) / twoPow 0 := by simp
  obtain ⟨measure, most⟩ := div_ofNat_le (a := 1) (k := 0) le some fits (by decide)
    (Nat.zero_le _) (by simpa [twoPow] using le)
  have nonneg := measure.value_nonneg
  refine ⟨measure, one ▸ most, ⟨fun none => ?_, fun none => ?_⟩,
    ⟨fun all => ?_, fun all => ?_⟩⟩
  · by_contra any
    have least := le_div_ofNat (a := 1) (k := 53) le some fits (by decide) (by decide) measure
      (by
        rw [Nat.one_mul]
        exact Nat.le_trans (Nat.le_of_lt fits) (Nat.le_mul_of_pos_left _ (by omega)))
    rw [none] at least
    norm_num [twoPow] at least
  · have bound := (div_ofNat_le (a := 0) (k := 0) le some fits (by decide) (Nat.zero_le _)
      (by rw [none, Nat.zero_mul, Nat.zero_mul])).2
    exact le_antisymm (zero ▸ bound) nonneg
  · by_contra fewer
    have bound := (div_ofNat_le (a := 2 ^ 53 - 1) (k := 53) le some fits (by decide) (by decide)
      (by simp only [twoPow, Nat.pow_eq] at fits ⊢; omega)).2
    rw [all] at bound
    norm_num [twoPow] at bound
  · have least := le_div_ofNat (a := 1) (k := 0) le some fits (by decide) (Nat.zero_le _)
      measure (by simp [twoPow, all])
    exact le_antisymm (one ▸ most) (one ▸ least)

-----------------------------------------------------------------------------------------
-- Written figures
-----------------------------------------------------------------------------------------

namespace Json

mutual

/-- A null stands somewhere in what a text says. -/
def Form.holdsNull : Form → Bool
  | .null => true
  | .list items => itemsHoldNull items
  | .object members => membersHoldNull members
  | _ => false

def Form.itemsHoldNull : List Form → Bool
  | [] => false
  | item :: rest => item.holdsNull || itemsHoldNull rest

def Form.membersHoldNull : List (String × Form) → Bool
  | [] => false
  | (_, value) :: rest => value.holdsNull || membersHoldNull rest

end

/-- A measure is written as a number. -/
theorem holdsNull_numberForm {x : Binary64} (measure : x.Measure)
    : (numberForm x).holdsNull = false := by
  unfold numberForm
  split
  · rfl
  · next none =>
    rw [text?_eq_none_iff, measure.isFinite] at none
    cases none

/-- Rows whose figures are measures are written without null, by induction on the rows. -/
theorem itemsHoldNull_rows {rows : List Row}
    (measures : ∀ row ∈ rows, row.errorRate.Measure ∧ row.p95.Measure)
    : Form.itemsHoldNull (itemForms (rows.map Row.json)) = false := by
  induction rows with
  | nil => rfl
  | cons row rest ih =>
      obtain ⟨⟨rate, p95⟩, others⟩ := List.forall_mem_cons.mp measures
      simp [itemForms, Form.itemsHoldNull, Row.json, form, memberForms, Form.holdsNull,
        Form.membersHoldNull, holdsNull_numberForm rate, holdsNull_numberForm p95, ih others]

end Json

/-- A text is one JSON value without any null in it. -/
def ShowsNoNull (text : String) : Prop :=
  ∃ form, Json.form? text = some form ∧ form.holdsNull = false

theorem showsNoNull_snapshot {s : Snapshot}
    (measures : ∀ row ∈ s.rows, row.errorRate.Measure ∧ row.p95.Measure)
    : ShowsNoNull s.json.line := by
  refine ⟨_, Json.form?_line _, ?_⟩
  simp [Snapshot.json, Json.form, Json.memberForms, Json.Form.holdsNull,
    Json.Form.membersHoldNull, Json.itemsHoldNull_rows measures]

theorem showsNoNull_record {s : Snapshot} {record : Record}
    (measures : ∀ row ∈ s.rows, row.errorRate.Measure ∧ row.p95.Measure)
    (written : Record.ofSnapshot? s = some record)
    : ShowsNoNull record.line := by
  refine ⟨_, Json.form?_line _, ?_⟩
  simp only [Record.ofSnapshot?] at written
  split at written
  · cases written
  · cases written
    simp [Record.json, SnapshotRecord.json, Json.form, Json.memberForms, Json.Form.holdsNull,
      Json.Form.membersHoldNull, Json.itemsHoldNull_rows measures]

-----------------------------------------------------------------------------------------
-- Rows
-----------------------------------------------------------------------------------------

/-- A row is sane for the calls of its name: the error rate is that of its counts, and the
reported percentile is a measure, the latency of one of the newest calls that there is room for.
-/
structure Row.Sane (row : Row) (capacity : Nat) (calls : List FinishedCall) : Prop where
  rate : SaneRate row.errors row.requests row.errorRate
  p95 : row.p95.Measure
  newest
    : ∃ call ∈ calls.rtake (min row.requests capacity), row.p95 = call.latency.latencyMs

/-- A row that accounts for some calls is sane, as long as its count has at most 53 places and
the latencies fit their word.
-/
theorem Row.AccountsFor.sane {row : Row} {capacity : Nat} {latencies : List Binary64}
    {calls : List FinishedCall} (h : row.AccountsFor capacity latencies calls)
    (room : 0 < capacity) (some : 0 < row.requests) (few : row.requests < twoPow 53)
    (long : ∀ call ∈ calls, call.latency.seconds < twoPow 64)
    : row.Sane capacity calls := by
  have kept : latencies
      = (calls.rtake (min row.requests capacity)).map fun call => call.latency.latencyMs := by
    rw [h.newest, List.rtake, List.rtake, List.map_drop, List.length_map]
  have any : latencies ≠ [] := by
    refine List.length_pos_iff.mp ?_
    rw [h.length_newest]
    omega
  obtain ⟨call, member, same⟩ :=
    List.mem_map.mp (kept ▸ (h.p95 ▸ Percentile.p95_mem any : row.p95 ∈ latencies))
  refine ⟨?_, ?_, call, member, same.symm⟩
  · rw [h.errorRate]
    exact saneRate_div h.errors_le some few
  · rw [← same]
    exact Duration.measure_latencyMs (long call (List.mem_of_mem_drop member))

/-- The figures of every snapshot are sane. Whatever was recorded, with any outcomes and with
latencies whose seconds fit their word, as long as no row counts 2^53 calls: every row is sane,
and neither the snapshot as it is answered nor its record shows a null.
-/
theorem Collector.figures_sane (argument : Nat) (history : List CollectorEvent)
    (now : Time.Instant)
    (few
      : ∀ row ∈ (((Collector.new argument).run history).1.snapshot now).rows,
          row.requests < twoPow 53)
    (long : ∀ call ∈ recordedCalls history, call.latency.seconds < twoPow 64)
    : let capacity := if argument = 0 then 512 else argument
      let snapshot := ((Collector.new argument).run history).1.snapshot now
      (∀ row ∈ snapshot.rows,
        row.Sane capacity (callsNamed row.method (recordedCalls history)))
      ∧ ShowsNoNull snapshot.json.line
      ∧ ∀ record, Record.ofSnapshot? snapshot = some record → ShowsNoNull record.line := by
  intro capacity snapshot
  have folded : ((Collector.new argument).run history).1
      = (recordedCalls history).foldl recordCall (Collector.new argument) := run_fst _ _
  have sane : ∀ row ∈ snapshot.rows,
      row.Sane capacity (callsNamed row.method (recordedCalls history)) := by
    intro row member
    have holds := (holds_of_mem_rows member).2
    obtain ⟨tally, found, same⟩ := mem_rows_iff.mp member
    have occurred : callsNamed row.method (recordedCalls history) ≠ [] := by
      intro none
      rw [holds.absent row.method none] at found
      cases found
    obtain ⟨_, also, counts⟩ := holds.present row.method occurred
    cases found.symm.trans also
    have accounts := counts.row occurred row.method
    rw [same, folded, foldl_recordCall_capacity] at accounts
    refine accounts.sane (Collector.new argument).capacity_pos ?_ (few row member) ?_
    · rw [accounts.requests]
      exact List.length_pos_iff.mpr occurred
    · exact fun call inCalls => long call (List.mem_of_mem_filter inCalls)
  have measures : ∀ row ∈ snapshot.rows, row.errorRate.Measure ∧ row.p95.Measure :=
    fun row member => ⟨(sane row member).rate.measure, (sane row member).p95⟩
  exact ⟨sane, showsNoNull_snapshot measures, fun record written =>
    showsNoNull_record measures written⟩

/-- A call of the longest latency and one that failed, with a snapshot between them. -/
def longestHistory : List CollectorEvent :=
  [ .recorded ⟨"a", .ok, .ofSeconds (greatestWord 64)⟩,
    .snapshotTaken default,
    .recorded ⟨"a", .internal, .zero⟩ ]

/-- With room for both latencies the row of the name reports the longest, and is sane. -/
theorem Collector.figures_sane_longestHistory
    : let snapshot := ((Collector.new 2).run longestHistory).1.snapshot default
      (∀ row ∈ snapshot.rows, row.requests < twoPow 53)
      ∧ (∀ call ∈ recordedCalls longestHistory, call.latency.seconds < twoPow 64)
      ∧ snapshot.rows.map (fun row => (row.method, row.requests, row.errors)) = [("a", 2, 1)]
      ∧ (∀ row ∈ snapshot.rows, SaneRate row.errors row.requests row.errorRate)
      ∧ ShowsNoNull snapshot.json.line := by
  intro snapshot
  have few : ∀ row ∈ snapshot.rows, row.requests < twoPow 53 := by decide +kernel
  have long : ∀ call ∈ recordedCalls longestHistory, call.latency.seconds < twoPow 64 := by
    decide
  obtain ⟨sane, written, -⟩ := Collector.figures_sane 2 longestHistory default few long
  exact ⟨few, long, by decide +kernel, fun row member => (sane row member).rate, written⟩

end CallWatch
