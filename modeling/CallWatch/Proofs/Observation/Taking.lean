import CallWatch.Observation.Observatory
import CallWatch.Proofs.Collector.Taking

/-! What an observatory takes.
A completion gets to its end exactly if the collector takes the call, or if there is none, and
what is taken never changes. One that breaks off leaves the observatory as it was.
-/

namespace CallWatch

namespace Observatory

variable {o next : Observatory} {call : Call} {outcome : Outcome} {elapsed : Duration}
  {now : Time.Instant}

@[simp] theorem isSome_count?
    : (o.count? call outcome elapsed).isSome = o.takes call := by
  obtain ⟨collector, journal⟩ := o
  cases collector <;> simp [count?, takes]

@[simp] theorem isSome_complete?
    : (o.complete? call outcome elapsed now).isSome = o.takes call := by
  simp [complete?]

@[simp] theorem collector_count
    : (o.count call outcome elapsed).collector
      = o.collector.map fun c => c.record call.name outcome elapsed := by
  obtain ⟨collector, journal⟩ := o
  cases collector with
  | none => rfl
  | some c =>
      simp only [count, count?, Collector.record, Option.map_some]
      cases c.record? call.name outcome elapsed <;> rfl

@[simp] theorem journal_count
    : (o.count call outcome elapsed).journal = o.journal := by
  obtain ⟨collector, journal⟩ := o
  cases collector with
  | none => rfl
  | some c =>
      simp only [count, count?]
      cases c.record? call.name outcome elapsed <;> rfl

/-- A completion that is taken is its two halves. -/
theorem complete_of_takes (taken : o.takes call = true)
    : o.complete call outcome elapsed now
      = (o.count call outcome elapsed).log call outcome elapsed now := by
  have counts : (o.count? call outcome elapsed).isSome = true := isSome_count?.trans taken
  obtain ⟨next, counted⟩ := Option.isSome_iff_exists.mp counts
  simp [complete, complete?, count, counted]

/-- A completion that breaks off leaves the observatory as it was. -/
theorem complete_of_refused (refused : o.takes call = false)
    : o.complete call outcome elapsed now = o := by
  have breaks : (o.complete? call outcome elapsed now).isSome = false :=
    isSome_complete?.trans refused
  rw [Option.isSome_eq_false_iff, Option.isNone_iff_eq_none] at breaks
  rw [complete, breaks, Option.getD_none]

/-- The collector is told of a completed call, whether it takes the call or not. -/
@[simp] theorem collector_complete
    : (o.complete call outcome elapsed now).collector
      = o.collector.map fun c => c.record call.name outcome elapsed := by
  cases taken : o.takes call with
  | true =>
      rw [complete_of_takes taken]
      exact collector_count
  | false =>
      rw [complete_of_refused taken]
      cases present : o.collector with
      | none => rfl
      | some c =>
          have refused : c.takes call.name = false := by simpa [takes, present] using taken
          rw [Option.map_some, Collector.record_of_refused refused]

theorem journal_complete
    : (o.complete call outcome elapsed now).journal
      = if o.takes call then o.journal.push (.access (call.record outcome elapsed now))
        else o.journal := by
  cases taken : o.takes call with
  | true => simp [complete_of_takes taken, log]
  | false => simp [complete_of_refused taken]

-----------------------------------------------------------------------------------------
-- What is taken never changes
-----------------------------------------------------------------------------------------

/-- What is taken is told by the collector. -/
theorem takes_congr (same : next.collector = o.collector)
    : next.takes = o.takes := by
  funext call
  rw [takes, same, takes]

@[simp] theorem takes_count
    : (o.count call outcome elapsed).takes = o.takes := by
  funext other
  simp only [takes, collector_count]
  cases o.collector <;> simp

@[simp] theorem takes_log
    : (o.log call outcome elapsed now).takes = o.takes :=
  takes_congr rfl

@[simp] theorem takes_complete
    : (o.complete call outcome elapsed now).takes = o.takes := by
  funext other
  simp only [takes, collector_complete]
  cases o.collector <;> simp

@[simp] theorem collector_emit (s : Snapshot)
    : (o.emit s).2.collector = o.collector := by
  unfold emit
  split <;> rfl

@[simp] theorem takes_emit (s : Snapshot)
    : (o.emit s).2.takes = o.takes :=
  takes_congr (collector_emit s)

-----------------------------------------------------------------------------------------
-- Observatories whose windows can be made
-----------------------------------------------------------------------------------------

/-- The collector, if there is one, can make its windows. -/
def Fits (o : Observatory) : Prop :=
  ∀ c ∈ o.collector, c.Fits

instance (o : Observatory) : Decidable o.Fits :=
  inferInstanceAs (Decidable (∀ c ∈ o.collector, c.Fits))

theorem Fits.takes (fits : o.Fits) (call : Call)
    : o.takes call = true := by
  simp only [Observatory.takes, Option.all_eq_true]
  exact fun c present => (fits c present).takes call.name

/-- A new collector whose windows cannot be made takes no call. -/
theorem takes_new {argument : Nat} (large : ¬ (Collector.new argument).Fits)
    (present : o.collector = some (.new argument)) (call : Call)
    : o.takes call = false := by
  simp [takes, present, Collector.takes_new, large]

end Observatory

end CallWatch
