import CallWatch.Collector.Basic
import Mathlib.Tactic.ByContra

/-! What a collector takes.
A collector whose windows can be made takes every call. Any other one takes the calls of the
methods that it has, so one that begins without any stays without any.
-/

namespace CallWatch

/-- A new tally is empty. -/
theorem Tally.eq_empty_of_new? {capacity : Nat} {tally : Tally} (made : new? capacity = some tally)
    : tally = .empty := by
  obtain ⟨window, room, rfl⟩ := Option.map_eq_some_iff.mp made
  unfold Window.new? at room
  split at room <;> cases room
  rfl

namespace Collector

/-- The windows of a collector can be made. -/
def Fits (c : Collector) : Prop :=
  c.capacity ≤ Window.largest

instance (c : Collector) : Decidable c.Fits :=
  inferInstanceAs (Decidable (c.capacity ≤ Window.largest))

variable {c : Collector} {method : String} {outcome : Outcome} {latency : Duration}

theorem tally?_of_fits (fits : c.Fits) (name : String)
    : c.tally? name = some ((c.tallies.get? name).getD .empty) := by
  have new : Tally.new? c.capacity = some .empty := by
    simp only [Tally.new?, Window.new?, if_pos (show c.capacity ≤ Window.largest from fits)]
    rfl
  rw [tally?, new]
  cases c.tallies.get? name <;> rfl

theorem tally?_of_not_fits (large : ¬ c.Fits) (name : String)
    : c.tally? name = c.tallies.get? name := by
  have none : Tally.new? c.capacity = none := by
    simp only [Tally.new?, Window.new?, if_neg (show ¬ c.capacity ≤ Window.largest from large)]
    rfl
  rw [tally?, none, Option.or_none]

@[simp] theorem isSome_record?
    : (c.record? method outcome latency).isSome = c.takes method := by
  simp [record?, takes]

/-- A collector whose windows can be made takes every call. -/
theorem Fits.takes (fits : c.Fits) (method : String)
    : c.takes method = true := by
  simp [Collector.takes, tally?_of_fits fits]

/-- Any other one takes the calls of the methods that it has. -/
theorem takes_of_not_fits (large : ¬ c.Fits) (method : String)
    : c.takes method = (c.tallies.get? (normalizeMethod method)).isSome := by
  rw [Collector.takes, tally?_of_not_fits large]

/-- A call that is not taken leaves the collector as it was. -/
theorem record_of_refused (refused : c.takes method = false)
    : c.record method outcome latency = c := by
  rw [← isSome_record?, Option.isSome_eq_false_iff, Option.isNone_iff_eq_none] at refused
  rw [record, refused, Option.getD_none]

/-- A call that is taken joins the tally of its method, which is empty before its first call. -/
theorem record_of_takes (taken : c.takes method = true)
    : c.record method outcome latency
      = { c with
          tallies := c.tallies.update (normalizeMethod method) fun tally =>
            (tally.getD .empty).record c.capacity outcome latency.latencyMs } := by
  have found : c.tally? (normalizeMethod method)
      = some ((c.tallies.get? (normalizeMethod method)).getD .empty) := by
    by_cases fits : c.Fits
    · exact tally?_of_fits fits _
    · rw [takes_of_not_fits fits] at taken
      rw [tally?_of_not_fits fits]
      cases known : c.tallies.get? (normalizeMethod method) with
      | none => simp [known] at taken
      | some tally => rfl
  simp only [record, record?, found, Option.map_some, Option.getD_some]
  congr 1
  exact Ledger.update_congr rfl

@[simp] theorem capacity_record
    : (c.record method outcome latency).capacity = c.capacity := by
  cases taken : c.takes method with
  | true => rw [record_of_takes taken]
  | false => rw [record_of_refused taken]

@[simp] theorem fits_record
    : (c.record method outcome latency).Fits ↔ c.Fits := by
  rw [Fits, Fits, capacity_record]

/-- Recording a call does not change what is taken: a method is new only where all are taken. -/
@[simp] theorem takes_record (other : String)
    : (c.record method outcome latency).takes other = c.takes other := by
  cases taken : c.takes method with
  | false => rw [record_of_refused taken]
  | true =>
      by_cases fits : c.Fits
      · rw [(fits_record.mpr fits).takes, fits.takes]
      · rw [takes_of_not_fits (mt fits_record.mp fits), takes_of_not_fits fits,
          record_of_takes taken, Ledger.get?_update]
        rw [takes_of_not_fits fits] at taken
        split
        · next same => rw [same, taken, Option.isSome_some]
        · rfl

/-- The windows of a new collector can be made below a capacity of two to the sixtieth. -/
theorem fits_new {argument : Nat}
    : (new argument).Fits ↔ (if argument = 0 then 512 else argument) < twoPow 60 := by
  have next : Window.largest + 1 = twoPow 60 := by decide
  rw [← next, Nat.lt_succ_iff]
  rfl

/-- A new collector takes all calls or none. -/
theorem takes_new (argument : Nat) (method : String)
    : (new argument).takes method = decide (new argument).Fits := by
  by_cases fits : (new argument).Fits
  · rw [fits.takes, decide_eq_true fits]
  · rw [takes_of_not_fits fits, decide_eq_false fits]
    rfl

end Collector

end CallWatch
