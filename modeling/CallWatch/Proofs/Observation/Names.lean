import CallWatch.Collector.Snapshot
import CallWatch.Observation.Flight
import CallWatch.Proofs.Collector.Name
import CallWatch.Proofs.Observation.Taking

/-! The names that a collector holds.
A completed call adds the name of the call, if it is taken, and no other, and no name is ever
lost.
-/

namespace CallWatch

-----------------------------------------------------------------------------------------
-- Names
-----------------------------------------------------------------------------------------

/-- The names of the methods that have been called, in ascending order. -/
def Collector.names (c : Collector) : List String :=
  c.tallies.entries.map (·.1)

namespace Collector

/-- No name occurs twice, since the names ascend. -/
theorem nodup_names (c : Collector)
    : c.names.Nodup :=
  List.pairwise_map.mpr (c.tallies.ascending.imp String.ne_of_lt)

theorem mem_names_iff {c : Collector} {name : String}
    : name ∈ c.names ↔ (c.tallies.get? name).isSome = true := by
  rw [Option.isSome_iff_exists, names, List.mem_map]
  constructor
  · rintro ⟨⟨_, tally⟩, member, rfl⟩
    exact ⟨tally, Ledger.mem_entries_iff.mp member⟩
  · rintro ⟨tally, found⟩
    exact ⟨(name, tally), Ledger.mem_entries_iff.mpr found, rfl⟩

/-- A finished call that is taken adds its name. -/
theorem mem_names_record {c : Collector} {method name : String} {outcome : Outcome}
    {latency : Duration}
    : name ∈ (c.record method outcome latency).names
      ↔ (c.takes method = true ∧ name = normalizeMethod method) ∨ name ∈ c.names := by
  cases taken : c.takes method with
  | false => simp [record_of_refused taken]
  | true =>
      simp only [mem_names_iff, record_of_takes taken, Ledger.get?_update]
      by_cases same : name = normalizeMethod method <;> simp [same]

end Collector

/-- The name of a call is counted as it is. -/
theorem Call.normalizeMethod_name (c : Call)
    : normalizeMethod c.name = c.name :=
  normalizeMethod_idem _

namespace Observatory

/-- The names in the collector, if there is one. -/
def names (o : Observatory) : List String :=
  match o.collector with
  | some c => c.names
  | none => []

theorem nodup_names (o : Observatory)
    : o.names.Nodup := by
  unfold names
  split
  · next c _ => exact c.nodup_names
  · exact List.nodup_nil

-----------------------------------------------------------------------------------------
-- Gains
-----------------------------------------------------------------------------------------

/-- An observatory has gained names, all of them of some kind, and lost none. It takes what it
took, and one that takes nothing has the collector that it had.
-/
structure Gains (kind : String → Prop) (o next : Observatory) : Prop where
  counting : next.collector.isSome = o.collector.isSome
  taking : next.takes = o.takes
  idle : (∀ call, o.takes call = false) → next.collector = o.collector
  kept : ∀ name ∈ o.names, name ∈ next.names
  gained : ∀ name ∈ next.names, name ∈ o.names ∨ kind name

variable {kind : String → Prop} {o middle next : Observatory}

theorem Gains.refl : Gains kind o o :=
  ⟨rfl, rfl, fun _ => rfl, fun _ member => member, fun _ member => .inl member⟩

theorem Gains.trans (first : Gains kind o middle) (second : Gains kind middle next)
    : Gains kind o next := by
  refine ⟨second.counting.trans first.counting, second.taking.trans first.taking,
    fun refuses => ?_, fun name member => second.kept name (first.kept name member),
    fun name member => ?_⟩
  · have still : ∀ call, middle.takes call = false := fun call => first.taking ▸ refuses call
    exact (second.idle still).trans (first.idle refuses)
  rcases second.gained name member with before | new
  · exact first.gained name before
  · exact .inr new

/-- Names of a kind are names of a wider kind. -/
theorem Gains.mono {wider : String → Prop} (gains : Gains kind o next)
    (wide : ∀ name, kind name → wider name)
    : Gains wider o next :=
  { gains with gained := fun name member => (gains.gained name member).imp_right (wide name) }

/-- What leaves the collector alone gains nothing. -/
theorem Gains.of_collector (same : next.collector = o.collector)
    : Gains kind o next := by
  have names : next.names = o.names := by
    rw [Observatory.names, same, Observatory.names]
  exact ⟨by rw [same], takes_congr same, fun _ => same, fun _ member => names ▸ member,
    fun _ member => .inl (names ▸ member)⟩

/-- A completed call adds its name to those in the collector, if there is one and takes it. -/
theorem mem_names_complete {call : Call} {outcome : Outcome} {elapsed : Duration}
    {now : Time.Instant} {name : String}
    : name ∈ (o.complete call outcome elapsed now).names
      ↔ (o.collector.isSome = true ∧ o.takes call = true ∧ name = call.name)
        ∨ name ∈ o.names := by
  simp only [names, collector_complete, takes]
  cases o.collector with
  | none => simp
  | some c => simp [Collector.mem_names_record, call.normalizeMethod_name]

/-- A completed call gains its name at most. -/
theorem gains_complete (outcome : Outcome) (elapsed : Duration) (now : Time.Instant) {call : Call}
    (known : kind call.name)
    : Gains kind o (o.complete call outcome elapsed now) := by
  refine ⟨?_, takes_complete, fun refuses => ?_,
    fun name member => mem_names_complete.mpr (.inr member), fun name member => ?_⟩
  · simp
  · rw [complete_of_refused (refuses call)]
  · rcases mem_names_complete.mp member with ⟨-, -, same⟩ | before
    · exact .inr (same ▸ known)
    · exact .inl before

end Observatory

end CallWatch
