import CallWatch.Proofs.Reporter.Stopping

/-! The law of the ticks, for a reporter that nobody stops.
However the clock moves and whatever is counted or sent, ticks keep their rhythm, and each of
them writes the record of the collector at its instant. The signals that are sent on the way
could as well be struck out of the history together with the moves that answer them.
-/

namespace CallWatch.Reporter

/-- An event that gives the loop no reason to return. -/
def ShiftEvent.isCalm : ShiftEvent → Bool
  | .send value => !value
  | .release => false
  | _ => true

/-- An event that neither sets the signal nor is a move of the loop. -/
def ShiftEvent.isForeign (event : ShiftEvent) : Bool :=
  !event.isSend && !event.isMove

namespace Shift

variable {wall : WallClock}

-----------------------------------------------------------------------------------------
-- Striking out what is sent
-----------------------------------------------------------------------------------------

/-- A shift beside one on which nothing has been sent. They differ in the signal, and where the
one has heard a signal and is back at the top, the other may still be waiting.
-/
structure Beside (s quiet : Shift) : Prop where
  now : quiet.now = s.now
  observatory : quiet.observatory = s.observatory
  schedule : quiet.loop.schedule = s.loop.schedule
  unset : s.loop.signal.value = false
  held : s.loop.signal.held = true
  silent : quiet.loop.signal = ⟨false, false, true⟩
  resting : s.resting = true → quiet.resting = true
  place : s.loop.place = .waiting ∧ quiet.loop.place = .waiting
    ∨ s.loop.place = .top ∧ (quiet.loop.place = .top ∨ quiet.loop.place = .waiting)

theorem Beside.running {s quiet : Shift} (beside : Beside s quiet)
    : s.loop.running = true := by
  rcases beside.place with ⟨waiting, -⟩ | ⟨top, -⟩
  · simp [Loop.running, waiting]
  · simp [Loop.running, top]

/-- A reporter with a collector starts beside itself, if the clock can tell its first tick. -/
theorem start_beside {now period : Duration} {c : Collector} {journal : Array Record}
    (told : (start now period false ⟨some c, journal⟩).due.IsInstant)
    : Beside (start now period false ⟨some c, journal⟩)
        (start now period false ⟨some c, journal⟩) := by
  have top := (start_place now period false ⟨some c, journal⟩).trans (if_pos ⟨rfl, told⟩)
  have signal := start_signal now period false ⟨some c, journal⟩
  exact ⟨rfl, rfl, rfl, by rw [signal], by rw [signal], signal, id, .inr ⟨top, .inl top⟩⟩

theorem Beside.waits {s quiet : Shift} (beside : Beside s quiet)
    (waiting : s.loop.place = .waiting)
    : quiet.loop.place = .waiting := by
  rcases beside.place with ⟨-, waits⟩ | ⟨top, -⟩
  · exact waits
  · cases waiting.symm.trans top

/-- A move of the one loop is the same move of the other or none: a loop to which nothing was
sent hears nothing, and so has no need to look at the signal thereafter.
-/
theorem Beside.moves {s quiet : Shift} {branch : Branch} {fired : Bool} {l : Loop}
    (beside : Beside s quiet) (moves : s.loop.Moves s.now branch fired l)
    : (fired = false ∧ Beside (s.moved wall fired l) quiet)
      ∨ ∃ other,
          quiet.loop.Moves quiet.now branch fired other
          ∧ Beside (s.moved wall fired l) (quiet.moved wall fired other) := by
  cases moves with
  | quit waiting old unheld => cases beside.held.symm.trans unheld
  | hear waiting fresh =>
      exact .inl ⟨rfl, { beside with
        resting := by simp
        place := .inr ⟨rfl, .inr (beside.waits waiting)⟩ }⟩
  | tick waiting due =>
      have alsoDue : quiet.loop.schedule.due ≤ quiet.now := by
        rwa [beside.now, beside.schedule]
      have sameReport : (report wall quiet.now quiet.observatory).2
          = (report wall s.now s.observatory).2 := by
        rw [beside.now, beside.observatory]
      have sameFire : quiet.loop.schedule.fire quiet.now = s.loop.schedule.fire s.now := by
        rw [beside.now, beside.schedule]
      exact .inr ⟨_, .tick (beside.waits waiting) alsoDue, { beside with
        observatory := sameReport
        schedule := sameFire
        resting := by simp
        place := .inr ⟨rfl, .inl rfl⟩ }⟩
  | look branch top =>
      have looked (other : Loop) (waits : other.place = .waiting) :
          (if s.loop.signal.value then Place.stopped else .waiting) = .waiting
            ∧ other.place = .waiting := by
        simp [beside.unset, waits]
      rcases beside.place with ⟨waiting, -⟩ | ⟨-, alsoTop | waits⟩
      · cases waiting.symm.trans top
      · refine .inr ⟨_, .look branch alsoTop, { beside with
          silent := ?_
          resting := by simp
          place := .inl (looked _ ?_) }⟩
        · simp [beside.silent]
        · simp [beside.silent]
      · exact .inl ⟨rfl, { beside with
          resting := by simp
          place := .inl (looked _ waits) }⟩

/-- A step of the one shift is the same step of the other, or it is struck out there; by cases
on the step.
-/
theorem Beside.step {s quiet next : Shift} {event : ShiftEvent} {tick? : Option Tick}
    (beside : Beside s quiet) (calm : event.isCalm = true)
    (steps : Steps wall s event tick? next)
    : (event.isForeign = false ∧ tick? = none ∧ Beside next quiet)
      ∨ (event.isSend = false
        ∧ ∃ other, Steps wall quiet event tick? other ∧ Beside next other) := by
  have running := beside.running
  cases steps with
  | release => cases calm
  | joined returned => cases running.symm.trans returned
  | clock now free later =>
      have rests : s.resting = true := by
        rcases free with rests | returned
        · exact rests
        · cases running.symm.trans returned
      have alsoLater : quiet.now ≤ now := by rwa [beside.now]
      exact .inr ⟨rfl, _, .clock now (.inl (beside.resting rests)) alsoLater,
        { beside with now := rfl }⟩
  | record call =>
      have counted : (quiet.count call).observatory = (s.count call).observatory := by
        rw [count_observatory, count_observatory, beside.observatory]
      exact .inr ⟨rfl, _, .record call, { beside with observatory := counted }⟩
  | send value =>
      have down : value = false := by simpa [ShiftEvent.isCalm] using calm
      refine .inl ⟨rfl, rfl, ?_⟩
      rw [Loop.send, if_pos running]
      exact { beside with unset := down }
  | rest idle =>
      obtain ⟨waiting, -, -, early⟩ := Loop.idle_iff.mp idle
      have waits := beside.waits waiting
      have alsoIdle : quiet.loop.idle quiet.now = true := by
        refine Loop.idle_iff.mpr ⟨waits, by rw [beside.silent], by rw [beside.silent], ?_⟩
        rwa [beside.now, beside.schedule]
      exact .inr ⟨rfl, _, .rest alsoIdle, { beside with resting := fun _ => rfl }⟩
  | move branch fired l moves =>
      rcases beside.moves moves with ⟨rfl, still⟩ | ⟨other, same, still⟩
      · exact .inl ⟨rfl, rfl, still⟩
      · have follows : Steps wall quiet (.move branch) _ _ := .move branch fired other same
        rw [beside.now, beside.observatory] at follows
        exact .inr ⟨rfl, _, follows, still⟩

/-- What is sent can be struck out of a history, by induction on the history. -/
theorem Beside.run {s quiet last : Shift} {history : List ShiftEvent} {ticks : List Tick}
    (beside : Beside s quiet) (calm : ∀ event ∈ history, event.isCalm = true)
    (ran : s.run? wall history = some (ticks, last))
    : ∃ kept other,
        kept.Sublist history
        ∧ (∀ event ∈ kept, event.isSend = false)
        ∧ kept.filter ShiftEvent.isForeign = history.filter ShiftEvent.isForeign
        ∧ quiet.run? wall kept = some (ticks, other)
        ∧ Beside last other := by
  induction history generalizing s quiet ticks with
  | nil =>
      cases ran
      exact ⟨[], quiet, .slnil, by simp, rfl, rfl, beside⟩
  | cons event rest ih =>
      obtain ⟨tick?, next, later, steps, others, rfl⟩ := run?_cons_eq_some_iff.mp ran
      rw [List.forall_mem_cons] at calm
      rcases beside.step calm.1 steps with ⟨own, rfl, still⟩ | ⟨unsent, middle, same, still⟩
      · obtain ⟨kept, other, part, silent, foreign, follows, ends⟩ := ih still calm.2 others
        refine ⟨kept, other, part.cons event, silent, ?_, follows, ends⟩
        simpa [own] using foreign
      · obtain ⟨kept, other, part, silent, foreign, follows, ends⟩ := ih still calm.2 others
        refine ⟨event :: kept, other, part.cons_cons event, ?_, ?_, ?_, ends⟩
        · rw [List.forall_mem_cons]
          exact ⟨unsent, silent⟩
        · simp only [List.filter_cons, foreign]
        · exact run?_cons_eq_some_iff.mpr ⟨tick?, middle, later, same, follows, rfl⟩

/-- On a shift whose loop has returned nothing comes of what is sent, by induction on the
history.
-/
theorem unsent_of_returned {s last : Shift} {history : List ShiftEvent} {ticks : List Tick}
    (returned : s.loop.running = false) (ran : s.run? wall history = some (ticks, last))
    : s.run? wall (history.filter fun event => !event.isSend) = some (ticks, last) := by
  induction history generalizing s ticks with
  | nil => exact ran
  | cons event rest ih =>
      obtain ⟨tick?, next, later, steps, others, rfl⟩ := run?_cons_eq_some_iff.mp ran
      have alone : s.run? wall [event] = some (tick?.toList, next) :=
        run?_cons_eq_some_iff.mpr ⟨tick?, next, [], steps, rfl, by simp⟩
      have follows := ih (returned_run alone returned).1 others
      cases sent : event.isSend with
      | false =>
          rw [List.filter_cons_of_pos (by simp [sent])]
          exact run?_cons_eq_some_iff.mpr ⟨tick?, next, later, steps, follows, rfl⟩
      | true =>
          rw [List.filter_cons_of_neg (by simp [sent])]
          cases steps with
          | clock | record | release | move | rest | joined => cases sent
          | send value =>
              have unheard : s.withLoop (s.loop.send value).2 = s := by
                simp only [Loop.send, returned, Bool.false_eq_true, if_false]
                rfl
              rwa [unheard] at follows

-----------------------------------------------------------------------------------------
-- Jumps of the clock
-----------------------------------------------------------------------------------------

section Histories
variable {s last : Shift} {history : List ShiftEvent} {ticks : List Tick}

/-- At every rest the next tick lies ahead, less than a period after the last one. -/
theorem rest_of_run {before after : List ShiftEvent} {begun : Duration}
    (ran : s.run? wall (before ++ .rest :: after) = some (ticks, last))
    (recent : s.due.nanos ≤ begun.nanos + s.period.nanos)
    : ∃ earlier pending,
        s.run? wall before = some (earlier, pending)
        ∧ pending.now < pending.due
        ∧ pending.now.nanos < (lastInstant begun earlier).nanos + s.period.nanos := by
  obtain ⟨earlier, pending, later, first, second, rfl⟩ := run?_append_eq_some_iff.mp ran
  obtain ⟨_, next, _, steps, -, -⟩ := run?_cons_eq_some_iff.mp second
  cases steps with
  | rest idle =>
      obtain ⟨-, -, -, early⟩ := Loop.idle_iff.mp idle
      refine ⟨earlier, pending, first, early, ?_⟩
      exact Nat.lt_of_lt_of_le (Duration.lt_iff.mp early) (due_le_lastInstant first recent)

/-- After a jump past a deadline, and before the next rest, the missed tick fires; the deadline
after it is a period later.
-/
theorem jump_of_run {before middle after : List ShiftEvent} {pending : Shift}
    {earlier : List Tick} {target : Duration}
    (ran : s.run? wall (before ++ .clock target :: (middle ++ .rest :: after))
      = some (ticks, last))
    (reached : s.run? wall before = some (earlier, pending))
    (missed : pending.due + tolerance < target)
    (still : ∀ event ∈ middle, event.isClock = false)
    : ∃ tick later,
        ticks = earlier ++ tick :: later
        ∧ tick.instant = target
        ∧ ∀ other ∈ later, target + s.period ≤ other.instant := by
  obtain ⟨_, _, _, first, second, rfl⟩ := run?_append_eq_some_iff.mp ran
  cases reached.symm.trans first
  obtain ⟨_, jumped, _, steps, rest, rfl⟩ := run?_cons_eq_some_iff.mp second
  obtain ⟨soon, settled, beyond, toRest, onwards, rfl⟩ := run?_append_eq_some_iff.mp rest
  cases steps with
  | clock _ free forward =>
      cases soon with
      | nil =>
          -- The loop cannot have come to rest while the tick was due.
          obtain ⟨_, _, _, steps, -, -⟩ := run?_cons_eq_some_iff.mp onwards
          cases steps with
          | rest idle =>
              obtain ⟨-, -, -, early⟩ := Loop.idle_iff.mp idle
              rw [schedule_of_no_ticks toRest, now_of_still toRest still] at early
              have late : pending.due.nanos + tolerance.nanos < target.nanos := missed
              have early : target.nanos < pending.due.nanos := early
              omega
      | cons tick more =>
          obtain ⟨quiet, branch, others, middle, next, rfl, toTick, fires, fromTick⟩ :=
            exists_tick (k := 0) toRest rfl
          have instant : middle.now = target :=
            now_of_still toTick fun event member => still event (by simp [member])
          have same : middle.loop.schedule = pending.loop.schedule :=
            (schedule_of_no_ticks toTick).trans rfl
          have after := run?_append_eq_some_iff.mpr ⟨more, settled, beyond, fromTick, onwards, rfl⟩
          refine ⟨tick, more ++ beyond, by simp, ?_, fun other member => ?_⟩
          · cases fires.ticks with
            | fires => exact instant
          · have coming := due_le_of_mem after member
            cases fires.ticks with
            | fires due still fired =>
                rw [Shift.due, fired, same, instant, Schedule.fire_missed missed] at coming
                rwa [← period_run first]

/-- The collector that a tick reports on, and the line it writes. -/
theorem told_of_run {k : Nat} {tick : Tick} {c : Collector}
    (ran : s.run? wall history = some (ticks, last)) (found : ticks[k]? = some tick)
    (given : s.observatory.collector = some c)
    : ∃ before branch after pending next,
        history = before ++ .move branch :: after
        ∧ s.run? wall before = some (ticks.take k, pending)
        ∧ pending.step? wall (.move branch) = some (some tick, next)
        ∧ tick = ⟨pending.now, some ((countedOn before).foldl Collector.recordCall c)⟩
        ∧ next.observatory.lines = pending.observatory.lines ++ tick.lines wall := by
  obtain ⟨before, branch, after, pending, next, same, first, fires, -⟩ := exists_tick ran found
  refine ⟨before, branch, after, pending, next, same, first, step?_eq_some_iff.mpr fires, ?_⟩
  have counted := collector_run first
  rw [given, Option.map_some] at counted
  rw [← counted]
  generalize shown : some tick = tick? at fires
  cases fires with
  | move _ fired l moves =>
      cases fired with
      | false => cases shown
      | true =>
          cases shown
          exact ⟨rfl, moved_lines_of_fired ..⟩

end Histories

-----------------------------------------------------------------------------------------
-- The law
-----------------------------------------------------------------------------------------

/-- What holds of the ticks of a history that gives no reason to stop, for a reporter that
starts as `s` with the collector `c` and the period `every`:
- `running`: the loop does not return if the clock can tell when the first tick is due;
- `brokenOff`: if it cannot, the loop has returned and no tick fires;
- `paced`: a tick comes no earlier than its number of periods after the start;
- `unskipped`: whenever the loop rests, less than a period has passed since the last tick;
- `jump`: where the clock jumps past a deadline by more than the tolerance, one tick fires
  before the loop rests again, at the instant of the jump, and none for a period after it;
- `unsent`: the same history without anything sent has the same ticks and the same outcome;
- `told`: a tick tells of the collector with all that was counted before it, and adds one line,
  the record of that, if the collector has any method;
- `lines`: nothing but the ticks adds a line.
-/
structure TickLaw (wall : WallClock) (s : Shift) (every : Duration) (c : Collector)
    (history : List ShiftEvent) (ticks : List Tick) (last : Shift) : Prop where
  running : s.due.IsInstant → last.loop.running = true
  brokenOff : ¬ s.due.IsInstant → ticks = [] ∧ last.loop.running = false
  paced :
    ∀ (k : Nat) (tick : Tick), ticks[k]? = some tick
      → s.now.nanos + (k + 1) * every.nanos ≤ tick.instant.nanos
  unskipped :
    ∀ (before after : List ShiftEvent), history = before ++ .rest :: after
      → ∃ earlier pending,
          s.run? wall before = some (earlier, pending)
          ∧ pending.now < lastInstant s.now earlier + every
  jump :
    ∀ (before middle after : List ShiftEvent) (target : Duration) (earlier : List Tick)
        (pending : Shift),
      history = before ++ .clock target :: (middle ++ .rest :: after)
      → s.run? wall before = some (earlier, pending)
      → pending.due + tolerance < target
      → (∀ event ∈ middle, event.isClock = false)
      → ∃ tick later,
          ticks = earlier ++ tick :: later
          ∧ tick.instant = target
          ∧ ∀ other ∈ later, target + every ≤ other.instant
  unsent :
    ∃ kept other,
      kept.Sublist history
      ∧ (∀ event ∈ kept, event.isSend = false)
      ∧ kept.filter ShiftEvent.isForeign = history.filter ShiftEvent.isForeign
      ∧ s.run? wall kept = some (ticks, other)
      ∧ other.now = last.now
      ∧ other.due = last.due
      ∧ other.observatory = last.observatory
  told :
    ∀ (k : Nat) (tick : Tick), ticks[k]? = some tick
      → ∃ before branch after pending next,
          history = before ++ .move branch :: after
          ∧ s.run? wall before = some (ticks.take k, pending)
          ∧ pending.step? wall (.move branch) = some (some tick, next)
          ∧ tick = ⟨pending.now, some ((countedOn before).foldl Collector.recordCall c)⟩
          ∧ next.observatory.lines = pending.observatory.lines ++ tick.lines wall
  lines :
    last.observatory.lines = s.observatory.lines ++ ticks.flatMap (Tick.lines wall)

/-- The ticks of a reporter that is given no reason to stop keep the law, whatever its period,
its start and the order of what happens.
-/
theorem tickLaw (wall : WallClock) (begun period : Duration) (c : Collector)
    (journal : Array Record) (history : List ShiftEvent) (ticks : List Tick) (last : Shift)
    (calm : ∀ event ∈ history, event.isCalm = true)
    (ran : (start begun period false ⟨some c, journal⟩).run? wall history = some (ticks, last))
    : TickLaw wall (start begun period false ⟨some c, journal⟩) (periodOf period) c history
        ticks last := by
  have startDue := start_due begun period false ⟨some c, journal⟩
  have startPeriod := start_period begun period false ⟨some c, journal⟩
  have returned (untold : ¬ (start begun period false ⟨some c, journal⟩).due.IsInstant)
      : (start begun period false ⟨some c, journal⟩).loop.running = false := by
    rw [Loop.running, start_place, if_neg (fun starts => untold starts.2)]
    rfl
  refine
    { running := ?_
      brokenOff := fun untold => (returned_run ran (returned untold)).symm
      paced := ?_
      unskipped := ?_
      jump := ?_
      unsent := ?_
      told := fun k tick found => told_of_run ran found rfl
      lines := lines_run ran }
  · intro told
    obtain ⟨_, _, -, -, -, -, beside⟩ := (start_beside told).run calm ran
    exact beside.running
  · intro k tick found
    have later := (paced_run ran).1 k tick found
    rw [startDue, startPeriod, Duration.nanos_add] at later
    rw [Nat.succ_mul]
    change begun.nanos + _ ≤ _
    omega
  · rintro before after rfl
    have recent : (begun + periodOf period).nanos ≤ begun.nanos + (periodOf period).nanos := by
      simp
    rw [← startDue, ← startPeriod] at recent
    obtain ⟨earlier, pending, first, -, within⟩ := rest_of_run ran recent
    rw [startPeriod] at within
    exact ⟨earlier, pending, first, within⟩
  · rintro before middle after target earlier pending rfl reached missed still
    rw [← startPeriod]
    exact jump_of_run ran reached missed still
  · by_cases told : (start begun period false ⟨some c, journal⟩).due.IsInstant
    · obtain ⟨kept, other, part, silent, foreign, follows, beside⟩ :=
        (start_beside told).run calm ran
      have sameDue : other.due = last.due := congrArg Schedule.due beside.schedule
      exact ⟨kept, other, part, silent, foreign, follows, beside.now, sameDue,
        beside.observatory⟩
    · refine ⟨_, last, List.filter_sublist, fun event member => ?_, ?_,
        unsent_of_returned (returned told) ran, rfl, rfl, rfl⟩
      · simpa using (List.mem_filter.mp member).2
      · rw [List.filter_filter]
        refine List.filter_congr fun event _ => ?_
        cases sent : event.isSend <;> simp [ShiftEvent.isForeign, sent]

/-- A shift with a period of ten seconds: the clock moves on to the first tick, then jumps from
ten seconds to thirty-five, and the signal is sent in between.
-/
def lateShift : List ShiftEvent :=
  [ .move .signal, .rest, .clock (.ofSeconds 10), .move .tick, .move .signal, .rest,
    .record ⟨"m", .ok, .ofMillis 1⟩, .send false, .clock (.ofSeconds 35), .move .signal,
    .move .signal, .move .tick, .move .signal, .rest, .clock (.ofSeconds 44), .rest ]

/-- The jump causes one tick, with the call that was counted before it. -/
theorem tickLaw_lateShift
    : ∃ first second last,
        (start .zero (.ofSeconds 10) false ⟨some (.new 0), #[]⟩).run? default lateShift
          = some ([first, second], last)
        ∧ second.instant = .ofSeconds 35
        ∧ TickLaw default (start .zero (.ofSeconds 10) false ⟨some (.new 0), #[]⟩)
            (.ofSeconds 10) (.new 0) lateShift [first, second] last := by
  have calm : ∀ event ∈ lateShift, event.isCalm = true := by
    simp [lateShift, ShiftEvent.isCalm]
  exact ⟨_, _, _, rfl, rfl,
    tickLaw default .zero (.ofSeconds 10) (.new 0) #[] lateShift _ _ calm rfl⟩

end Shift

end CallWatch.Reporter
