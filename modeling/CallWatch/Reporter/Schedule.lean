import CallWatch.Time.Duration

/-! The schedule of a periodic tick.
A tick that fires a little late keeps the rhythm; one that was missed starts a new rhythm
from the instant at which it fires, so missed ticks are never made up for.
-/

namespace CallWatch.Reporter

def defaultPeriod : Duration := Duration.ofSeconds 60

/-- How late a tick may fire without counting as missed. -/
def tolerance : Duration := Duration.ofMillis 5

/-- A period and the deadline of the next tick. -/
structure Schedule where
  period : Duration
  due : Duration
  period_pos : 0 < period.nanos
  deriving DecidableEq

namespace Schedule

/-- The schedule that starts at an instant; its first tick is one period later. A period of
zero stands for the default.
-/
def startingAt (now period : Duration) : Schedule :=
  if h : 0 < period.nanos then ⟨period, now + period, h⟩
  else ⟨defaultPeriod, now + defaultPeriod, by decide⟩

/-- The schedule after a tick that fires at an instant. -/
def fire (s : Schedule) (now : Duration) : Schedule :=
  if s.due + tolerance < now then { s with due := now + s.period }
  else { s with due := s.due + s.period }

/-- A tick moves its deadline forward. -/
theorem due_lt_fire {s : Schedule} {now : Duration}
    (h : s.due ≤ now)
    : s.due.nanos < (s.fire now).due.nanos := by
  have := s.period_pos
  have : s.due.nanos ≤ now.nanos := h
  unfold fire
  split
  · change _ < now.nanos + s.period.nanos
    omega
  · change _ < s.due.nanos + s.period.nanos
    omega

end Schedule

end CallWatch.Reporter
