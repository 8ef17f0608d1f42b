import CallWatch.Proofs.Reporter.Shift

/-! The rhythm of the ticks.
The deadline of the next tick moves forward by a period or more with every tick and lies at most
a period after it. So ticks never come faster than the period and none is skipped; a tick that
was missed is made up for once; and what is sent to a loop that goes on changes no tick.
-/

namespace CallWatch.Reporter

-----------------------------------------------------------------------------------------
-- Schedules
-----------------------------------------------------------------------------------------

/-- The period by which a reporter ticks: zero stands for a minute. -/
def periodOf (period : Duration) : Duration :=
  if period = Duration.zero then Duration.ofSeconds 60 else period

namespace Schedule

@[simp] theorem fire_period (s : Schedule) (now : Duration)
    : (s.fire now).period = s.period := by
  unfold fire
  split <;> rfl

theorem startingAt_eq (now period : Duration)
    : (startingAt now period).period = periodOf period
      ∧ (startingAt now period).due = now + periodOf period := by
  have zero : period = Duration.zero ↔ ¬ 0 < period.nanos := by
    obtain ⟨nanos⟩ := period
    simp [Duration.zero]
  unfold startingAt periodOf
  by_cases positive : 0 < period.nanos
  · simp [positive, zero]
  · simp [positive, zero, defaultPeriod]

/-- A tick that was missed begins a new rhythm at the instant at which it fires. -/
theorem fire_missed {s : Schedule} {now : Duration} (missed : s.due + tolerance < now)
    : (s.fire now).due = now + s.period := by
  rw [fire, if_pos missed]

/-- A tick moves its deadline forward by a period or more. -/
theorem add_period_le_fire {s : Schedule} {now : Duration} (due : s.due ≤ now)
    : s.due.nanos + s.period.nanos ≤ (s.fire now).due.nanos := by
  have due := Duration.le_iff.mp due
  unfold fire
  split
  · simp only [Duration.nanos_add]
    omega
  · simp

/-- The tick after a tick falls due within a period. -/
theorem fire_le_add_period {s : Schedule} {now : Duration} (due : s.due ≤ now)
    : (s.fire now).due.nanos ≤ now.nanos + s.period.nanos := by
  have due := Duration.le_iff.mp due
  unfold fire
  split
  · simp
  · simp only [Duration.nanos_add]
    omega

end Schedule

-----------------------------------------------------------------------------------------
-- Ticks on a shift
-----------------------------------------------------------------------------------------

namespace Shift

def due (s : Shift) : Duration :=
  s.loop.schedule.due

def period (s : Shift) : Duration :=
  s.loop.schedule.period

/-- A shift starts with the schedule that counts from its start. -/
theorem start_schedule (now period : Duration) (value : Bool) (o : Observatory)
    : (start now period value o).loop.schedule = .startingAt now period := by
  simp only [start, loop, Reporting.start]
  split
  · exact Loop.schedule_spawn now period value
  · rfl

theorem start_signal (now period : Duration) (value : Bool) (o : Observatory)
    : (start now period value o).loop.signal = ⟨value, false, true⟩ := by
  simp only [start, loop, Reporting.start]
  split
  · exact Loop.signal_spawn now period value
  · rfl

theorem start_due (now period : Duration) (value : Bool) (o : Observatory)
    : (start now period value o).due = now + periodOf period := by
  rw [due, start_schedule, (Schedule.startingAt_eq now period).2]

theorem start_period (now period : Duration) (value : Bool) (o : Observatory)
    : (start now period value o).period = periodOf period := by
  rw [Shift.period, start_schedule, (Schedule.startingAt_eq now period).1]

/-- A loop begins at its top if there is a collector and the clock can tell when the first tick is
due. Otherwise it has returned.
-/
theorem start_place (now period : Duration) (value : Bool) (o : Observatory)
    : (start now period value o).loop.place
      = if o.collector.isSome ∧ (start now period value o).due.IsInstant then .top
        else .stopped := by
  rw [due, start_schedule]
  simp only [start, loop, Reporting.start]
  cases given : o.collector.isSome <;> simp

/-- What a step does to the schedule: nothing, or a tick fires that is due. -/
inductive Ticks (s next : Shift) : Option Tick → Prop
  | none (same : next.loop.schedule = s.loop.schedule) : Ticks s next none
  | fires (due : s.due ≤ s.now) (still : next.now = s.now)
    (fired : next.loop.schedule = s.loop.schedule.fire s.now)
    : Ticks s next (some ⟨s.now, s.observatory.collector⟩)

theorem Steps.ticks {wall : WallClock} {s next : Shift} {event : ShiftEvent}
    {tick? : Option Tick} (steps : Steps wall s event tick? next)
    : Ticks s next tick? := by
  cases steps with
  | clock | record | release | rest | joined => exact .none rfl
  | send value held => exact .none (by simp)
  | move branch fired l moves =>
      cases moves with
      | look | hear | quit => exact .none rfl
      | tick waiting due => exact .fires due rfl rfl

theorem Steps.period {wall : WallClock} {s next : Shift} {event : ShiftEvent}
    {tick? : Option Tick} (steps : Steps wall s event tick? next)
    : next.period = s.period := by
  cases steps.ticks with
  | none kept => exact congrArg Schedule.period kept
  | fires due still fired =>
      rw [Shift.period, fired, Schedule.fire_period]
      rfl

section Histories
variable {wall : WallClock} {s last : Shift} {history : List ShiftEvent} {ticks : List Tick}

theorem period_run (ran : s.run? wall history = some (ticks, last))
    : last.period = s.period := by
  exact run?_preserves (fun other => other.period = s.period) (fun _ => True)
    (fun _ _ _ _ _ steps same => steps.period.trans same) (fun _ _ => trivial) ran rfl

/-- Every tick comes a period or more after the one before it, and the next will, by induction
on the history.
-/
theorem paced_run (ran : s.run? wall history = some (ticks, last))
    : (∀ (k : Nat) (tick : Tick), ticks[k]? = some tick
        → s.due.nanos + k * s.period.nanos ≤ tick.instant.nanos)
      ∧ s.due.nanos + ticks.length * s.period.nanos ≤ last.due.nanos := by
  induction history generalizing s ticks with
  | nil =>
      cases ran
      simp
  | cons event rest ih =>
      obtain ⟨tick?, next, later, steps, others, rfl⟩ := run?_cons_eq_some_iff.mp ran
      obtain ⟨paced, ends⟩ := ih others
      cases steps.ticks with
      | none same =>
          simp only [due, period, same] at paced ends ⊢
          exact ⟨paced, ends⟩
      | fires due still fired =>
          have moved : s.due.nanos + s.period.nanos ≤ next.due.nanos := by
            rw [Shift.due, Shift.due, fired]
            exact Schedule.add_period_le_fire due
          have same : next.period = s.period := by
            rw [period, fired, Schedule.fire_period]
            rfl
          rw [same] at paced ends
          constructor
          · intro k tick found
            cases k with
            | zero =>
                cases found
                simpa using Duration.le_iff.mp due
            | succ k =>
                have := paced k tick found
                rw [Nat.succ_mul]
                omega
          · simp only [Option.toList_some, List.singleton_append, List.length_cons,
              Nat.succ_mul]
            omega

/-- No tick comes before the deadline at which a history begins. -/
theorem due_le_of_mem (ran : s.run? wall history = some (ticks, last)) {tick : Tick}
    (member : tick ∈ ticks)
    : s.due ≤ tick.instant := by
  obtain ⟨k, found⟩ := List.mem_iff_getElem?.mp member
  have := (paced_run ran).1 k tick found
  rw [Duration.le_iff]
  omega

/-- The instant of the last tick, or of the start if there was none. -/
def lastInstant (start : Duration) (ticks : List Tick) : Duration :=
  (ticks.getLast?.map Tick.instant).getD start

theorem lastInstant_cons (start : Duration) (tick : Tick) (more : List Tick)
    : lastInstant start (tick :: more) = lastInstant tick.instant more := by
  cases last : more.getLast? <;> simp [lastInstant, List.getLast?_cons, last]

/-- The next tick falls due within a period after the last one, by induction on the history. -/
theorem due_le_lastInstant {start : Duration}
    (ran : s.run? wall history = some (ticks, last))
    (recent : s.due.nanos ≤ start.nanos + s.period.nanos)
    : last.due.nanos ≤ (lastInstant start ticks).nanos + s.period.nanos := by
  induction history generalizing s ticks start with
  | nil =>
      cases ran
      exact recent
  | cons event rest ih =>
      obtain ⟨tick?, next, later, steps, others, rfl⟩ := run?_cons_eq_some_iff.mp ran
      cases steps.ticks with
      | none same =>
          have unchanged := ih others (by rwa [due, period, same])
          rwa [period, same] at unchanged
      | fires due still fired =>
          have within : next.due.nanos ≤ s.now.nanos + next.period.nanos := by
            rw [Shift.due, period, fired, Schedule.fire_period]
            exact Schedule.fire_le_add_period due
          have after := ih others within
          rw [period, fired, Schedule.fire_period] at after
          rw [Option.toList_some, List.singleton_append, lastInstant_cons]
          exact after

/-- Without a tick the schedule stays as it is. -/
theorem schedule_of_no_ticks (ran : s.run? wall history = some ([], last))
    : last.loop.schedule = s.loop.schedule := by
  induction history generalizing s with
  | nil =>
      cases ran
      rfl
  | cons event rest ih =>
      obtain ⟨tick?, next, later, steps, others, none⟩ := run?_cons_eq_some_iff.mp ran
      obtain ⟨noTick, rfl⟩ := List.nil_eq_append_iff.mp none
      cases steps.ticks with
      | none same => exact (ih others).trans same
      | fires => cases noTick

/-- A tick of a history, with what comes before and after it; by induction on the history. -/
theorem exists_tick {k : Nat} {tick : Tick} (ran : s.run? wall history = some (ticks, last))
    (found : ticks[k]? = some tick)
    : ∃ before branch after middle next,
        history = before ++ .move branch :: after
        ∧ s.run? wall before = some (ticks.take k, middle)
        ∧ Steps wall middle (.move branch) (some tick) next
        ∧ next.run? wall after = some (ticks.drop (k + 1), last) := by
  induction history generalizing s ticks k with
  | nil =>
      cases ran
      cases found
  | cons event rest ih =>
      obtain ⟨tick?, next, later, steps, others, rfl⟩ := run?_cons_eq_some_iff.mp ran
      cases tick? with
      | none =>
          obtain ⟨before, branch, after, middle, fired, rfl, first, fires, second⟩ :=
            ih others found
          refine ⟨event :: before, branch, after, middle, fired, rfl, ?_, fires, second⟩
          exact run?_cons_eq_some_iff.mpr ⟨none, next, _, steps, first, rfl⟩
      | some first =>
          cases k with
          | zero =>
              cases found
              cases event with
              | move branch => exact ⟨[], branch, rest, s, next, rfl, rfl, steps, others⟩
              | clock | record | send | release | rest | joined => cases steps
          | succ k =>
              obtain ⟨before, branch, after, middle, fired, rfl, earlier, fires, second⟩ :=
                ih others found
              refine ⟨event :: before, branch, after, middle, fired, rfl, ?_, fires, second⟩
              exact run?_cons_eq_some_iff.mpr ⟨some first, next, _, steps, earlier, rfl⟩

/-- Without a move of the clock its hand stands still. -/
theorem now_of_still (ran : s.run? wall history = some (ticks, last))
    (still : ∀ event ∈ history, event.isClock = false)
    : last.now = s.now := by
  refine run?_preserves (fun other => other.now = s.now) _ ?_ still ran rfl
  intro other event tick? next kind steps same
  cases steps with
  | clock => cases kind
  | record | send | release | move | rest | joined => exact same

/-- The lines of a shift grow by those of its ticks, by induction on the history. -/
theorem lines_run (ran : s.run? wall history = some (ticks, last))
    : last.observatory.lines = s.observatory.lines ++ ticks.flatMap (Tick.lines wall) := by
  induction history generalizing s ticks with
  | nil =>
      cases ran
      simp
  | cons event rest ih =>
      obtain ⟨tick?, next, later, steps, others, rfl⟩ := run?_cons_eq_some_iff.mp ran
      rw [ih others]
      cases steps with
      | clock | record | send | release | rest | joined => rfl
      | move branch fired l moves => cases fired <;> simp

/-- The collector of a shift is told of the counted calls and of nothing else, by induction on
the history.
-/
theorem collector_run (ran : s.run? wall history = some (ticks, last))
    : last.observatory.collector
      = s.observatory.collector.map fun c =>
          (countedOn history).foldl Collector.recordCall c := by
  induction history generalizing s ticks with
  | nil =>
      cases ran
      simp [countedOn]
  | cons event rest ih =>
      obtain ⟨tick?, next, later, steps, others, rfl⟩ := run?_cons_eq_some_iff.mp ran
      rw [ih others]
      cases steps with
      | clock | send | release | rest | joined => rfl
      | record call => simp [countedOn, ShiftEvent.call?, Function.comp_def]
      | move branch fired l moves =>
          rw [moved_collector]
          rfl

end Histories

end Shift

end CallWatch.Reporter
