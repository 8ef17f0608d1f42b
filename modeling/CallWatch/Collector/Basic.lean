import CallWatch.Collector.Ledger
import CallWatch.Collector.Name
import CallWatch.Collector.Window
import CallWatch.Outcome
import CallWatch.Time.Duration

/-! The collector of finished calls.
It keeps two counters and a window of the newest latencies for every method name that has
been called. The first call of a name asks for the room of its whole window, so recording it
breaks off when the capacity is beyond what room can be asked for.
-/

namespace CallWatch

/-- What is kept of one method: how many calls, how many of them failed, and the newest
latencies in milliseconds.
-/
structure Tally where
  requests : Nat
  errors : Nat
  window : Window

namespace Tally

def empty : Tally := ⟨0, 0, Window.empty⟩

/-- The tally of a method that has not been called, if there can be a window of the capacity. -/
def new? (capacity : Nat) : Option Tally :=
  (Window.new? capacity).map fun window => ⟨0, 0, window⟩

def record (capacity : Nat) (t : Tally) (outcome : Outcome) (latencyMs : Binary64)
    : Tally where
  requests := t.requests + 1
  errors := if outcome.isError then t.errors + 1 else t.errors
  window := t.window.push capacity latencyMs

end Tally

/-- The latencies kept per method when no capacity is given. -/
def defaultCapacity : Nat := 512

/-- The tallies of all methods that have been called. -/
structure Collector where
  capacity : Nat
  capacity_pos : 0 < capacity
  tallies : Ledger Tally

namespace Collector

/-- The collector before any call. A capacity of zero stands for the default. -/
def new (capacity : Nat) : Collector where
  capacity := if capacity = 0 then defaultCapacity else capacity
  capacity_pos := by unfold defaultCapacity; split <;> omega
  tallies := .empty

instance : Inhabited Collector := ⟨new 0⟩

/-- The tally that a call under a name is counted in: the one that the collector has, or a new
one.
-/
def tally? (c : Collector) (name : String) : Option Tally :=
  (c.tallies.get? name).or (Tally.new? c.capacity)

/-- Counts one finished call under the normalized name of its method, unless that breaks off. -/
def record? (c : Collector) (method : String) (outcome : Outcome) (latency : Duration)
    : Option Collector :=
  let name := normalizeMethod method
  (c.tally? name).map fun tally =>
    let tally := tally.record c.capacity outcome latency.latencyMs
    { c with tallies := c.tallies.update name fun _ => tally }

/-- The collector after a call, which leaves it as it was if it breaks off. -/
def record (c : Collector) (method : String) (outcome : Outcome) (latency : Duration)
    : Collector :=
  (c.record? method outcome latency).getD c

/-- Whether calls of a method are counted. -/
def takes (c : Collector) (method : String) : Bool :=
  (c.tally? (normalizeMethod method)).isSome

end Collector

end CallWatch
