import CallWatch.Binary64.Basic

/-! Durations in nanoseconds, and their value in milliseconds as a binary64 number.
-/

namespace CallWatch

/-- A length of time, or an instant as its distance from the start of a clock. -/
structure Duration where
  nanos : Nat
  deriving DecidableEq, Repr, Inhabited, Ord

namespace Duration

def ofMicros (n : Nat) : Duration := ⟨n * 1000⟩

def ofMillis (n : Nat) : Duration := ⟨n * 1000000⟩

def ofSeconds (n : Nat) : Duration := ⟨n * 1000000000⟩

def zero : Duration := ⟨0⟩

instance : Add Duration := ⟨fun a b => ⟨a.nanos + b.nanos⟩⟩

instance : Sub Duration := ⟨fun a b => ⟨a.nanos - b.nanos⟩⟩

instance : LE Duration := ⟨fun a b => a.nanos ≤ b.nanos⟩

instance : LT Duration := ⟨fun a b => a.nanos < b.nanos⟩

instance (a b : Duration) : Decidable (a ≤ b) :=
  inferInstanceAs (Decidable (a.nanos ≤ b.nanos))

instance (a b : Duration) : Decidable (a < b) :=
  inferInstanceAs (Decidable (a.nanos < b.nanos))

theorem le_iff {a b : Duration}
    : a ≤ b ↔ a.nanos ≤ b.nanos := Iff.rfl

theorem lt_iff {a b : Duration}
    : a < b ↔ a.nanos < b.nanos := Iff.rfl

@[simp] theorem nanos_add (a b : Duration)
    : (a + b).nanos = a.nanos + b.nanos := rfl

def micros (d : Duration) : Nat := d.nanos / 1000

def millis (d : Duration) : Nat := d.nanos / 1000000

def seconds (d : Duration) : Nat := d.nanos / 1000000000

/-- The clock tells an instant only while its seconds fit a signed word. -/
def IsInstant (d : Duration) : Prop :=
  d.seconds ≤ greatestWord 63

instance (d : Duration) : Decidable d.IsInstant :=
  inferInstanceAs (Decidable (d.seconds ≤ greatestWord 63))

/-- The first whole millisecond that is not before `d`: timers fire at whole milliseconds. -/
def wake (d : Duration) : Duration := ofMillis ((d.nanos + 999999) / 1000000)

theorem le_wake (d : Duration)
    : d ≤ d.wake := by
  simp only [wake, ofMillis, le_iff]
  omega

theorem wake_mono {a b : Duration} (h : a ≤ b)
    : a.wake ≤ b.wake := by
  simp only [wake, ofMillis, le_iff] at *
  omega

@[simp] theorem wake_wake (d : Duration)
    : d.wake.wake = d.wake := by
  simp only [wake, ofMillis, mk.injEq]
  omega

theorem wake_add_ofMillis (d : Duration) (n : Nat)
    : (d + ofMillis n).wake = d.wake + ofMillis n := by
  show Duration.mk _ = Duration.mk _
  simp only [wake, ofMillis, nanos_add, mk.injEq]
  omega

/-- A latency in milliseconds: the whole microseconds as a number, divided by a thousand. -/
def latencyMs (d : Duration) : Binary64 :=
  (Binary64.ofNat d.micros).div (Binary64.ofNat 1000)

/-- The earlier of two deadlines, where either may be missing. -/
def earlier? : Option Duration → Option Duration → Option Duration
  | some a, some b => some (if b < a then b else a)
  | some a, none => some a
  | none, b => b

end Duration

end CallWatch
